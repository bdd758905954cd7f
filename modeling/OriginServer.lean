import OriginServer.Settings.Assembly
import OriginServer.Settings.Load
import OriginServer.Transport.Script
import OriginServer.Proofs.Text.Pieces
import OriginServer.Proofs.Message.StatusLine
import OriginServer.Proofs.Message.Headers
import OriginServer.Proofs.Message.Length
import OriginServer.Proofs.Message.Method
import OriginServer.Proofs.Message.Lines
import OriginServer.Proofs.Message.Framing
import OriginServer.Proofs.Message.HeaderLines
import OriginServer.Proofs.Reading.Front
import OriginServer.Proofs.Reading.Loop
import OriginServer.Proofs.Reading.Delivery
import OriginServer.Proofs.Reading.Limit
import OriginServer.Proofs.Reading.Bound
import OriginServer.Proofs.Reading.Grammar
import OriginServer.Proofs.Reading.Writing
import OriginServer.Proofs.Reading.FirstWord
import OriginServer.Proofs.Reading.Stability
import OriginServer.Proofs.Files.Containment
import OriginServer.Proofs.Files.Loading
import OriginServer.Proofs.Routing.Shadowing
import OriginServer.Proofs.Routing.Chain
import OriginServer.Proofs.Routing.Redirect
import OriginServer.Proofs.Serving.Wire
import OriginServer.Proofs.Serving.Lifecycle
import OriginServer.Proofs.Serving.Reporting
import OriginServer.Proofs.Serving.Answering
import OriginServer.Proofs.Serving.Willing
import OriginServer.Proofs.Serving.Standalone
import OriginServer.Proofs.Serving.FirstRequest
import OriginServer.Proofs.Serving.KeepAlive
import OriginServer.Proofs.Serving.HeadRequest
import OriginServer.Proofs.Serving.Refusal
import OriginServer.Proofs.Serving.PageBody
import OriginServer.Proofs.Path.Legality
import OriginServer.Proofs.Message.Receiving
import OriginServer.Proofs.Routing.Origin
import OriginServer.Proofs.Routing.Anchoring
import OriginServer.Proofs.Reading.Faults
import OriginServer.Proofs.Serving.Resuming
import OriginServer.Proofs.Serving.Commitment
import OriginServer.Proofs.Message.HeaderHistory
import OriginServer.Proofs.Files.Agreement
import OriginServer.Proofs.Routing.DirectoryForm
import OriginServer.Proofs.Reading.HeaderLoop
import OriginServer.Proofs.Serving.Undated
import OriginServer.Proofs.Settings.Acceptance
import OriginServer.Proofs.Serving.Admission

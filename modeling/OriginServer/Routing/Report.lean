import OriginServer.Failure
import OriginServer.Message.Status

/-!
# Reports

Each connection ends in one report: the request was handled, or it failed, and which status reached
the peer. An observer turns reports into log records.
-/
namespace OriginServer

/-- What is known of a request when it is reported on. -/
structure RequestSummary where
  /-- The address of the peer. -/
  peer : Option String
  /-- The method, once the request is read. -/
  method : Option Method
  /-- The path, once the request is read. -/
  path : Option String
  deriving DecidableEq, Repr, Inhabited

/-- How a request ended. -/
inductive Report where
  /-- A response with this status was delivered. -/
  | handled (summary : RequestSummary) (status : Status)
  /-- The request failed; the status is that of the error page, if one was delivered. -/
  | failed (summary : RequestSummary) (failure : Failure) (status : Option Status)
  deriving DecidableEq, Repr, Inhabited

/-- What is logged for a report. -/
abbrev Observer := Report → List LogRecord

namespace Observer

/-- The observer that logs nothing. -/
def silent : Observer := fun _ => []

/-- What is said of a failure. -/
def failureMessage (failure : Failure) (status : Option Status) : String :=
  if failure.isTransport then "Transport fault while handling request"
  else if status.isSome then "Request failed"
  else "Request failed and the error response was not delivered"

/-- The fields that every report has. -/
def summaryFields (summary : RequestSummary) : List (String × LogValue) :=
  [("peer", .text (match summary.peer with
      | some address => "Some(" ++ address ++ ")"
      | none => "None")),
   ("method", .text ((summary.method.map Method.text).getD "-")),
   ("path", .text (summary.path.getD "-"))]

/-- The field for a status; without a status there is none. -/
def statusFields : Option Status → List (String × LogValue)
  | some status => [("status", .number status.code)]
  | none => []

/-- The observer that logs one record for each report. Handled requests and transport faults are
ordinary events, other failures are warnings. -/
def logging : Observer
  | .handled summary status =>
    [⟨.info, "Handled request", summaryFields summary ++ statusFields (some status)⟩]
  | .failed summary failure status =>
    let message := failureMessage failure status
    if failure.isTransport then
      [⟨.info, message, summaryFields summary ++ [("error", .text failure.message)]⟩]
    else
      [⟨.warn, message, summaryFields summary ++ statusFields status ++
        [("kind", .text failure.kind), ("error", .text failure.message)]⟩]

end Observer

end OriginServer

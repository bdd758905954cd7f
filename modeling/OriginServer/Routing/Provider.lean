import OriginServer.Failure
import OriginServer.Message.Response

/-!
# Providers

A provider answers the requests for the paths that it claims. Providers are consulted in order and
the first one that claims a path is in charge of it. Besides its answer a provider says which paths
of the file system it looked at, so that statements about containment can be made.
-/
namespace OriginServer

/-- The answer of a provider that was asked for a path. -/
structure Claim where
  /-- Whether the provider serves the path. -/
  granted : Bool
  /-- The paths of the file system that it looked at. -/
  looked : List Bytes
  deriving DecidableEq, Inhabited

/-- How the work on a response ended. -/
inductive Ending where
  /-- The response is ready. -/
  | done
  /-- The work failed; the response is to be replaced by an error page. -/
  | failed (failure : Failure)
  /-- The work broke off without an outcome: nothing after it happens. -/
  | aborted
  deriving DecidableEq, Inhabited

/-- What a provider made of a request. -/
structure Rendering where
  /-- The response as the provider left it. -/
  response : Response
  /-- How its work ended. -/
  ending : Ending
  /-- What it logged. -/
  log : List LogRecord
  /-- The paths of the file system that it looked at. -/
  looked : List Bytes
  deriving DecidableEq, Inhabited

/-- Something that answers requests for some paths. -/
structure Provider where
  /-- A short name for logs. -/
  name : String
  /-- Whether a path is served. -/
  claims : (path : String) → Claim
  /-- Work out the answer for a path, starting from a response. -/
  load : (path : String) → (request : Request) → (response : Response) → Rendering

instance : Inhabited Provider := ⟨⟨"", fun _ => default, fun _ _ _ => default⟩⟩

/-- A question to the provider at a place of the list, with its answer. -/
structure Question where
  /-- The place of the provider, from zero. -/
  slot : Nat
  /-- The path asked for. -/
  path : String
  /-- The answer. -/
  claim : Claim
  deriving DecidableEq, Inhabited

/-- The result of looking for a provider: the one found, and the questions put on the way. -/
structure Resolution where
  /-- The provider found, with its place. -/
  found : Option (Nat × Provider)
  /-- The questions, in order. -/
  questions : List Question

/-- Ask providers, the first of which has the given place, until one claims the path. -/
def resolveFrom (slot : Nat) (path : String) : List Provider → Resolution
  | [] => ⟨none, []⟩
  | provider :: rest =>
    let claim := provider.claims path
    if claim.granted then ⟨some (slot, provider), [⟨slot, path, claim⟩]⟩
    else
      let later := resolveFrom (slot + 1) path rest
      { later with questions := ⟨slot, path, claim⟩ :: later.questions }

/-- The first provider that claims a path. -/
def resolve (providers : List Provider) (path : String) : Resolution :=
  resolveFrom 0 path providers

end OriginServer

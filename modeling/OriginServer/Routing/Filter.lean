import OriginServer.Failure
import OriginServer.Message.Response
import OriginServer.Pattern.Search

/-!
# Filters

A filter runs before a handler and may stop the request there. A filter mapping says for which
paths a filter runs: those that its include pattern covers as a whole, unless its exclude pattern
covers them too.
-/
namespace OriginServer

/-- What a filter wants to happen after it ran. -/
inductive Verdict where
  /-- The next filter or the handler runs. -/
  | proceed
  /-- The response is ready. -/
  | stop
  deriving DecidableEq, Repr, Inhabited

/-- A filter: it changes a response and says how to go on, or fails. -/
abbrev Filter := Request → Response → Response × Except Failure Verdict

/-- For which paths a filter runs. -/
structure FilterMapping where
  /-- The pattern of the paths. -/
  included : Pattern
  /-- The pattern of the exceptions. -/
  excluded : Option Pattern
  /-- The name of the filter. -/
  filter : String
  deriving Inhabited

namespace FilterMapping

/-- The mapping with the given patterns, if they can be used. -/
def build? (included : String) (excluded : Option String) (filter : String) :
    Option FilterMapping := do
  let included ← Pattern.compile? (Pattern.anchored included)
  match excluded with
  | none => some ⟨included, none, filter⟩
  | some excluded => some ⟨included, some (← Pattern.compile? (Pattern.anchored excluded)), filter⟩

/-- Whether the filter runs for a path. -/
def applies (mapping : FilterMapping) (path : String) : Bool :=
  mapping.included.isMatch path && !mapping.excluded.any (·.isMatch path)

end FilterMapping

end OriginServer

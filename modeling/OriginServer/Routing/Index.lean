import OriginServer.Message.Path
import OriginServer.Routing.Provider
import OriginServer.Text.Quoted

/-!
# Directory indexes

A path that no provider claims may still name a directory: then the index names are tried in order,
each put after the directory form of the path and offered to the providers.
-/
namespace OriginServer

/-- A provider together with the path of an index that it claimed. -/
structure IndexMatch where
  /-- The place of the provider. -/
  slot : Nat
  /-- The provider. -/
  provider : Provider
  /-- The path that it claimed. -/
  path : String

/-- The text that shows an index match to a developer. -/
def IndexMatch.debugText (found : IndexMatch) : String :=
  "DirectoryIndexDescriptor \x7b provider: " ++ Text.quoted found.provider.name ++
    ", index_path: " ++ Text.quoted found.path ++ " \x7d"

/-- The result of looking for an index: the match, and the questions put on the way. -/
structure IndexResolution where
  /-- The match, if there is one. -/
  found : Option IndexMatch
  /-- The questions, in order. -/
  questions : List Question

/-- Offer the index names below a directory, in order, to the providers. -/
def resolveIndexBelow (providers : List Provider) (directory : String) :
    List String → IndexResolution
  | [] => ⟨none, []⟩
  | name :: rest =>
    let candidate := directory ++ name
    let resolution := resolve providers candidate
    match resolution.found with
    | some (slot, provider) => ⟨some ⟨slot, provider, candidate⟩, resolution.questions⟩
    | none =>
      let later := resolveIndexBelow providers directory rest
      { later with questions := resolution.questions ++ later.questions }

/-- The first index below a path that a provider claims. -/
def resolveIndex (providers : List Provider) (names : List String) (path : String) :
    IndexResolution :=
  resolveIndexBelow providers (Path.directoryForm path) names

end OriginServer

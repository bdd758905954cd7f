import OriginServer.Files.Tree
import OriginServer.Message.HeaderDate
import OriginServer.Message.MediaType
import OriginServer.Routing.Provider
import OriginServer.Settings.Error
import OriginServer.Text.Utf8

/-!
# Serving files

`FileProvider` serves the regular files below a document root. A request path is mapped onto the
root component by component; a path with a component of two dots is mapped nowhere, so that nothing
outside the root is ever looked at.
-/
namespace OriginServer

/-- The provider of the regular files below a document root. -/
structure FileProvider where
  /-- The path of the document root. -/
  root : Bytes
  /-- The files of the system. -/
  tree : FileTree

namespace FileProvider

/-- A path with one more segment: a slash goes between, unless the path is empty or ends in one. -/
def extend (path segment : Bytes) : Bytes :=
  if path = [] ∨ path.getLast? = some FileTree.slash then path ++ segment
  else path ++ FileTree.slash :: segment

/-- The segments of a request path that count: the empty ones and single dots do not. -/
def segments (path : String) : List Bytes :=
  ((Utf8.encode path).splitOn FileTree.slash).filter fun segment =>
    segment != [] && segment != [0x2E]

/-- The path that components lead to from a path, unless one of them leads up or to the uppermost
directory. -/
def follow (path : Bytes) : List Component → Option Bytes
  | [] => some path
  | .normal name :: rest => follow (extend path name) rest
  | .current :: rest => follow path rest
  | .root :: _ | .parent :: _ => none

/-- The path of the file system for a request path, if there is one: the slashes in front of the
request path do not count. -/
def target? (root : Bytes) (path : String) : Option Bytes :=
  follow root (Component.ofPath ((Utf8.encode path).dropWhile (· == FileTree.slash)))

/-- Whether a request path leads to a regular file. -/
def claims (provider : FileProvider) (path : String) : Claim :=
  match target? provider.root path with
  | none => ⟨false, []⟩
  | some target => ⟨provider.tree.hasFile target, [target]⟩

/-- The failure for a file that cannot be read. -/
def lookupFailure (path : String) (target : Bytes) : LookupError → Failure
  | .missing => .notFound path
  | .denied => .accessDenied path
  | _ => .unclassified ("Failed to read " ++ Text.decodeLossy target)

/-- Put a file into a response. A file changed at an instant that has no date breaks off the
work. -/
def fill (target content : Bytes) (modified : Int) (response : Response) : Response × Ending :=
  let typed := (response.setStatus .ok).setHeader "Content-Type" (MediaType.ofPath target)
  match HeaderDate.ofSeconds? modified with
  | some date => ((typed.setHeader "Last-Modified" date.format).setBody content, .done)
  | none => (typed, .aborted)

/-- Answer with the file at a request path. -/
def load (provider : FileProvider) (path : String) (response : Response) : Rendering :=
  match target? provider.root path with
  | none => ⟨response, .failed (.notFound path), [], []⟩
  | some target =>
    match provider.tree.read target with
    | .error error => ⟨response, .failed (lookupFailure path target error), [], [target]⟩
    | .ok (content, modified) =>
      let (filled, ending) := fill target content modified response
      ⟨filled, ending, [], [target]⟩

/-- The file provider as one of the providers of a server. -/
def toProvider (provider : FileProvider) : Provider :=
  { name := "files", claims := provider.claims, load := fun path _ response =>
      provider.load path response }

end FileProvider

/-- Read a document that is to replace an error page. -/
def readDocument (tree : FileTree) (path : Bytes) : Except SettingsError Bytes :=
  match tree.read path with
  | .ok (content, _) => .ok content
  | .error _ => .error (.unreadableDocument path)

end OriginServer

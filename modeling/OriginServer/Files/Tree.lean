import OriginServer.Text.Utf8

/-!
# File trees

The part of a file system that a server sees: regular files with their contents and modification
times, and directories, each of them open to the server or not. `FileTree.find` follows a path
segment by segment, as the system does: a dot stays, two dots go up, and only a directory can be
passed through. The working directory is the uppermost one, so that a path leads to the same place
with a slash in front. A `Component` is what a segment means where a path is only read as a text:
slashes that follow each other count as one and those at the end do not count, and neither does a
single dot, unless the path begins with it.
-/
namespace OriginServer

/-- A file or a directory. -/
inductive FileTree where
  /-- A regular file with its bytes and the second at which it was last changed. -/
  | file (content : Bytes) (modified : Int)
  /-- A regular file that may be seen and not read. -/
  | lockedFile
  /-- A directory with the names of its entries. -/
  | directory (entries : List (Bytes × FileTree))
  /-- A directory with the names of its entries that may not be listed, or not be passed through, or
  neither. -/
  | lockedDirectory (entries : List (Bytes × FileTree)) (listable passable : Bool)
  deriving Inhabited

/-- Why a path leads to no file. -/
inductive LookupError where
  /-- There is no such entry. -/
  | missing
  /-- A file stands where a directory is needed. -/
  | notDirectory
  /-- A directory stands where a file is needed. -/
  | isDirectory
  /-- The file may not be read, or the directory not be used in this way. -/
  | denied
  /-- A name or the whole path is too long. -/
  | tooLong
  /-- The path holds a NUL. -/
  | malformed
  deriving DecidableEq, Repr, Inhabited

namespace FileTree

/-- The directory without entries. -/
def empty : FileTree := directory []

/-- The byte between the segments of a path. -/
def slash : UInt8 := 0x2F

/-- The longest name of an entry. -/
def maxNameBytes : Nat := 255

/-- The number of bytes that a whole path has to stay below. -/
def pathLimit : Nat := 4096

/-- The entry with a name. -/
def child? (name : Bytes) : List (Bytes × FileTree) → Option FileTree :=
  List.lookup name

/-- The entries after one of them was added or replaced. -/
def putEntry (name : Bytes) (tree : FileTree) (entries : List (Bytes × FileTree)) :
    List (Bytes × FileTree) :=
  entries.filter (·.1 != name) ++ [(name, tree)]

/-- The entries of a directory. -/
def entries? : FileTree → Option (List (Bytes × FileTree))
  | directory entries | lockedDirectory entries _ _ => some entries
  | file _ _ | lockedFile => none

/-- Whether a directory may be passed through. -/
def isPassable : FileTree → Bool
  | lockedDirectory _ _ passable => passable
  | _ => true

/-- A directory with other entries, as open as before; anything else gives way to an open one. -/
def withEntries (tree : FileTree) (entries : List (Bytes × FileTree)) : FileTree :=
  match tree with
  | lockedDirectory _ listable passable => lockedDirectory entries listable passable
  | _ => directory entries

/-- The tree after another one was put at a path of names; missing directories are made. -/
def insert (tree : FileTree) (path : List Bytes) (leaf : FileTree) : FileTree :=
  match path with
  | [] => leaf
  | name :: rest =>
    let entries := tree.entries?.getD []
    tree.withEntries
      (putEntry name (insert ((child? name entries).getD empty) rest leaf) entries)

/-- Follow one segment from a directory, given the directories above it, nearest first. Above the
uppermost directory there is nothing but itself. An empty segment stays, whether the directory may
be passed through or not; every other one needs that. -/
def step (above : List FileTree) (tree : FileTree) (segment : Bytes) :
    Except LookupError (List FileTree × FileTree) :=
  match tree.entries? with
  | none => .error .notDirectory
  | some entries =>
    if segment = [] then .ok (above, tree)
    else if !tree.isPassable then .error .denied
    else if segment = [0x2E] then .ok (above, tree)
    else if segment = [0x2E, 0x2E] then
      match above with
      | [] => .ok ([], tree)
      | parent :: rest => .ok (rest, parent)
    else if maxNameBytes < segment.length then .error .tooLong
    else match child? segment entries with
      | some found => .ok (tree :: above, found)
      | none => .error .missing

/-- Follow segments from a directory, given the directories above it. -/
def walk (above : List FileTree) (tree : FileTree) : List Bytes → Except LookupError FileTree
  | [] => .ok tree
  | segment :: rest =>
    match step above tree segment with
    | .ok (above, tree) => walk above tree rest
    | .error error => .error error

/-- What stands at a path, which is followed from the uppermost directory: the segment in front of a
leading slash is empty and stays there. An empty path leads nowhere. -/
def find (tree : FileTree) (path : Bytes) : Except LookupError FileTree :=
  if path.contains 0 then .error .malformed
  else if pathLimit ≤ path.length then .error .tooLong
  else if path = [] then .error .missing
  else walk [] tree (path.splitOn slash)

/-- The bytes of a regular file and when it was changed, if this is one and it may be read. A
directory that may be listed can be opened like a file, and only then is found to be none. -/
def data : FileTree → Except LookupError (Bytes × Int)
  | file content modified => .ok (content, modified)
  | lockedFile => .error .denied
  | directory _ => .error .isDirectory
  | lockedDirectory _ listable _ => .error (if listable then .isDirectory else .denied)

/-- The bytes of the regular file at a path, and when it was changed. -/
def read (tree : FileTree) (path : Bytes) : Except LookupError (Bytes × Int) :=
  match tree.find path with
  | .ok found => found.data
  | .error error => .error error

/-- Whether this is a regular file, be it locked or not. -/
def isRegular : FileTree → Bool
  | file _ _ | lockedFile => true
  | directory _ | lockedDirectory _ _ _ => false

/-- Whether a regular file stands at a path. -/
def hasFile (tree : FileTree) (path : Bytes) : Bool :=
  match tree.find path with
  | .ok found => found.isRegular
  | .error _ => false

end FileTree

/-! ## Components of paths -/

/-- A component of a path. -/
inductive Component where
  /-- The slash in front of a path that begins at the uppermost directory. -/
  | root
  /-- The dot in front of a path that begins at the working directory. -/
  | current
  /-- Two dots, which lead to the directory above. -/
  | parent
  /-- The name of an entry. -/
  | normal (name : Bytes)
  deriving DecidableEq, Repr

namespace Component

/-- The component that a segment stands for behind the front of a path, if it stands for one. -/
def ofSegment? (segment : Bytes) : Option Component :=
  if segment = [] ∨ segment = [0x2E] then none
  else if segment = [0x2E, 0x2E] then some parent
  else some (normal segment)

/-- The components of a path. -/
def ofPath (path : Bytes) : List Component :=
  let segments := path.splitOn FileTree.slash
  let inside := segments.filterMap ofSegment?
  if path.head? = some FileTree.slash then root :: inside
  else if segments.head? = some [0x2E] then current :: inside
  else inside

end Component

end OriginServer

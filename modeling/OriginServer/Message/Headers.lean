import OriginServer.Text.Chars

/-!
# Header maps

A header map keeps its entries in the order in which their names were first set. Names are
compared up to the case of ASCII letters: setting a name again keeps the first spelling and the
place and replaces the value.
-/
namespace OriginServer

open Text (sameLetters)

/-- Header names with their values, in the order of first setting. -/
structure Headers where
  /-- The pairs of a name and its value. -/
  entries : List (String × String)
  deriving DecidableEq, Repr, Inhabited

namespace Headers

/-- The map without entries. -/
def empty : Headers := ⟨[]⟩

/-- The entries after a name was set: the entry of that name has the new value, and if there is
none, one is added at the end. -/
def setEntry (name value : String) : List (String × String) → List (String × String)
  | [] => [(name, value)]
  | entry :: rest =>
    if sameLetters entry.1 name then (entry.1, value) :: rest
    else entry :: setEntry name value rest

/-- Set the value of a name. -/
def set (headers : Headers) (name value : String) : Headers :=
  ⟨setEntry name value headers.entries⟩

/-- The value of a name. -/
def get? (headers : Headers) (name : String) : Option String :=
  (headers.entries.find? fun entry => sameLetters entry.1 name).map (·.2)

/-- Whether a name has a value. -/
def contains (headers : Headers) (name : String) : Bool := (headers.get? name).isSome

/-- The number of entries. -/
def size (headers : Headers) : Nat := headers.entries.length

/-- The map made by setting pairs in order. -/
def ofList (pairs : List (String × String)) : Headers :=
  pairs.foldl (fun headers pair => headers.set pair.1 pair.2) empty

end Headers

end OriginServer

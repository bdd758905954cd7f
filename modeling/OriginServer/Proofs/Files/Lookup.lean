import Mathlib.Data.List.Basic
import OriginServer.Files.Tree
import OriginServer.Proofs.Text.Bytes

/-!
# Looking into file trees

`FileTree.Steps` lists what a step of a walk through a tree comes to; only a directory that may not
be passed through denies it. So a walk in a tree without locks, whose files all have dates, is never
denied and ends in such a tree (`FileTree.Dated.find`). A path leads to the same place with a slash
in front (`FileTree.find_slash`).
-/
namespace OriginServer

namespace FileTree

variable {above : List FileTree} {tree found : FileTree} {segment path : Bytes}

/-! ## Steps and walks -/

/-- What a step from a directory comes to, given the directories above it. -/
inductive Steps (above : List FileTree) (tree : FileTree) (segment : Bytes) :
    Except LookupError (List FileTree × FileTree) → Prop where
  /-- Only a directory can be stepped from. -/
  | blocked (plain : tree.entries? = none) : Steps above tree segment (.error .notDirectory)
  /-- An empty segment, a dot, and two dots in the uppermost directory lead nowhere else. -/
  | stays : Steps above tree segment (.ok (above, tree))
  /-- The directory may not be passed through. -/
  | denied (locked : tree.isPassable = false) (named : segment ≠ []) :
      Steps above tree segment (.error .denied)
  /-- Two dots lead to the nearest directory above. -/
  | up {parent : FileTree} {rest : List FileTree} (higher : above = parent :: rest) :
      Steps above tree segment (.ok (rest, parent))
  /-- The name is too long. -/
  | tooLong (long : maxNameBytes < segment.length) : Steps above tree segment (.error .tooLong)
  /-- No entry has the name. -/
  | missing {entries : List (Bytes × FileTree)} (inside : tree.entries? = some entries)
      (absent : child? segment entries = none) : Steps above tree segment (.error .missing)
  /-- The name leads to its entry. -/
  | into {entries : List (Bytes × FileTree)} {found : FileTree}
      (inside : tree.entries? = some entries) (named : child? segment entries = some found) :
      Steps above tree segment (.ok (tree :: above, found))

/-- What a step comes to is one of these. -/
theorem steps_step (above : List FileTree) (tree : FileTree) (segment : Bytes) :
    Steps above tree segment (step above tree segment) := by
  rw [step.eq_def]
  cases inside : tree.entries? with
  | none => exact .blocked inside
  | some entries =>
    dsimp only
    by_cases empty : segment = []
    · rw [if_pos empty]
      exact .stays
    rw [if_neg empty]
    by_cases passable : tree.isPassable = true
    · rw [if_neg (by simp [passable])]
      by_cases dot : segment = [0x2E]
      · rw [if_pos dot]
        exact .stays
      rw [if_neg dot]
      by_cases dots : segment = [0x2E, 0x2E]
      · rw [if_pos dots]
        cases above with
        | nil => exact .stays
        | cons parent rest => exact .up rfl
      rw [if_neg dots]
      by_cases long : maxNameBytes < segment.length
      · rw [if_pos long]
        exact .tooLong long
      rw [if_neg long]
      cases named : child? segment entries with
      | none => exact .missing inside named
      | some found => exact .into inside named
    · rw [Bool.not_eq_true] at passable
      rw [if_pos (by simp [passable])]
      exact .denied passable empty

/-- A slash in front of a text is a segment border in front of its bytes. -/
theorem encode_slash (path : String) :
    Utf8.encode ("/" ++ path) = slash :: Utf8.encode path := by
  rw [Utf8.encode_append]
  rfl

/-- The segment in front of a leading slash leads nowhere else. -/
theorem walk_empty_segment {entries : List (Bytes × FileTree)}
    (inside : tree.entries? = some entries) (segments : List Bytes) :
    walk above tree ([] :: segments) = walk above tree segments := by
  have stays : step above tree [] = .ok (above, tree) := by
    rw [step.eq_def]
    simp [inside]
  rw [walk, stays]

/-- A path leads to the same place with a slash in front, unless the slash makes it too long. -/
theorem find_slash {entries : List (Bytes × FileTree)} (inside : tree.entries? = some entries)
    (named : path ≠ []) (short : path.length + 1 < pathLimit) :
    tree.find (slash :: path) = tree.find path := by
  have split : (slash :: path).splitOn slash = [] :: path.splitOn slash := by
    rw [← List.nil_append (slash :: path), List.splitOn_append_cons_self]
    rfl
  have fits : ¬pathLimit ≤ path.length := by omega
  have stillFits : ¬pathLimit ≤ (slash :: path).length := by
    rw [List.length_cons]
    omega
  have plain : (slash :: path).contains 0 = path.contains 0 := by
    rw [List.contains_cons]
    simp [slash]
  rw [find, find, plain, if_neg fits, if_neg stillFits, if_neg named,
    if_neg (List.cons_ne_nil _ _), split, walk_empty_segment inside]

/-! ## Reading -/

/-- A file is read exactly if it is found and not locked. -/
theorem read_eq_ok_iff {content : Bytes} {modified : Int} :
    tree.read path = .ok (content, modified) ↔ tree.find path = .ok (.file content modified) := by
  rw [read]
  cases reached : tree.find path with
  | error cause => simp
  | ok found => cases found <;> simp [data]

/-- Reading fails exactly if nothing is found or what is found gives no data. -/
theorem read_eq_error_iff {error : LookupError} :
    tree.read path = .error error ↔ tree.find path = .error error ∨
      ∃ found, tree.find path = .ok found ∧ found.data = .error error := by
  rw [read]
  cases tree.find path <;> simp

/-- A regular file stands at a path exactly if one is found there, be it locked or not. -/
theorem hasFile_iff :
    tree.hasFile path = true ↔ ∃ found, tree.find path = .ok found ∧ found.isRegular = true := by
  rw [hasFile]
  cases tree.find path <;> simp

/-! ## Trees of files with dates -/

/-- Nothing in a tree is locked, and every file of it was changed between the beginning of 1970 and
the end of 9999. -/
inductive Dated : FileTree → Prop where
  /-- A file that was changed then. -/
  | file {content : Bytes} {modified : Int} (begun : 0 ≤ modified)
      (ended : modified < 253402300800) : Dated (.file content modified)
  /-- A directory of such files and directories. -/
  | directory {entries : List (Bytes × FileTree)} (all : ∀ entry ∈ entries, Dated entry.2) :
      Dated (.directory entries)

namespace Dated

/-- The entries of a dated directory are dated. -/
theorem entries {entries : List (Bytes × FileTree)} (dated : tree.Dated)
    (inside : tree.entries? = some entries) : ∀ entry ∈ entries, entry.2.Dated := by
  cases dated with
  | file begun ended => cases inside
  | directory all => exact Option.some.inj inside ▸ all

/-- A dated directory may be passed through. -/
theorem passable (dated : tree.Dated) : tree.isPassable = true := by
  cases dated with
  | file begun ended => rfl
  | directory all => rfl

/-- One step leads from dated trees to dated trees, and is not denied. -/
theorem step (dated : tree.Dated) (all : ∀ other ∈ above, other.Dated) (segment : Bytes) :
    (∀ next, FileTree.step above tree segment = .ok next →
      (∀ other ∈ next.1, other.Dated) ∧ next.2.Dated) ∧
    FileTree.step above tree segment ≠ .error .denied := by
  have steps := steps_step above tree segment
  generalize FileTree.step above tree segment = outcome at steps ⊢
  cases steps with
  | blocked plain => simp
  | stays => simpa using ⟨all, dated⟩
  | denied locked named =>
    rw [dated.passable] at locked
    cases locked
  | up higher =>
    rw [higher, List.forall_mem_cons] at all
    simpa using ⟨all.2, all.1⟩
  | tooLong long => simp
  | missing inside absent => simp
  | @into entries found inside named =>
    obtain ⟨before, after, split, -⟩ := List.lookup_eq_some_iff.mp named
    have entry : (segment, found) ∈ entries := by simp [split]
    simpa using ⟨⟨dated, all⟩, dated.entries inside _ entry⟩

/-- A walk through dated trees leads to a dated tree, and is not denied. -/
theorem walk {segments : List Bytes} (dated : tree.Dated) (all : ∀ other ∈ above, other.Dated) :
    (∀ found, FileTree.walk above tree segments = .ok found → found.Dated) ∧
      FileTree.walk above tree segments ≠ .error .denied := by
  induction segments generalizing above tree with
  | nil => simpa [FileTree.walk] using dated
  | cons segment rest ih =>
    obtain ⟨onward, permitted⟩ := dated.step all segment
    rw [FileTree.walk]
    cases stepped : FileTree.step above tree segment with
    | error error =>
      rw [stepped] at permitted
      simpa using permitted
    | ok next =>
      obtain ⟨higher, here⟩ := onward next stepped
      exact ih here higher

/-- What is found in a dated tree is dated, and nothing is denied. -/
theorem find (dated : tree.Dated) (path : Bytes) :
    (∀ found, tree.find path = .ok found → found.Dated) ∧ tree.find path ≠ .error .denied := by
  rw [FileTree.find]
  split
  · simp
  · split
    · simp
    · split
      · simp
      · exact dated.walk (by simp)

end Dated

end FileTree

end OriginServer

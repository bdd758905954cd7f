import OriginServer.Pattern.Search
import OriginServer.Proofs.Pattern.Run
import OriginServer.Proofs.Pattern.Search

/-!
# The bounds of repetitions are in order

The reader refuses a repetition whose upper bound is below the lower one, and what it builds keeps
that: no step of reading, and nothing that is done to give a tree its meaning, makes a repetition
whose bounds are out of order. So the search is right about every pattern that was compiled
(`Pattern.isMatch_iff`).
-/
namespace OriginServer.Pattern

mutual

/-- The bounds of all repetitions are in order. -/
def Tree.Ordered : Tree → Prop
  | .repetition body least most => most.all (least ≤ ·) = true ∧ body.Ordered
  | .group _ _ body => body.Ordered
  | .alternation branches => Tree.AllOrdered branches
  | .sequence parts => Tree.AllOrdered parts
  | _ => True

/-- The bounds of all repetitions in some patterns are in order. -/
def Tree.AllOrdered : List Tree → Prop
  | [] => True
  | part :: rest => part.Ordered ∧ Tree.AllOrdered rest

end

/-- Patterns are in order together if each of them is. -/
theorem Tree.allOrdered_iff {parts : List Tree} :
    Tree.AllOrdered parts ↔ ∀ part ∈ parts, part.Ordered := by
  induction parts with
  | nil => simp [Tree.AllOrdered]
  | cons part parts ih => simp [Tree.AllOrdered, ih]

/-- A part without parts of its own is in order. -/
theorem Tree.ordered_of_isLeaf {part : Tree} (leaf : part.isLeaf = true) : part.Ordered := by
  cases part <;> trivial

/-- Patterns in order, put one after another, are in order. -/
theorem Tree.ordered_ofParts {parts : List Tree} (ordered : ∀ part ∈ parts, part.Ordered) :
    (Tree.ofParts parts).Ordered := by
  unfold Tree.ofParts
  split
  · trivial
  · exact ordered _ (List.mem_singleton_self _)
  · exact Tree.allOrdered_iff.mpr ordered

/-- Patterns in order, given as alternatives, are in order. -/
theorem Tree.ordered_ofBranches {branches : List Tree} (ordered : ∀ part ∈ branches, part.Ordered) :
    (Tree.ofBranches branches).Ordered := by
  unfold Tree.ofBranches
  split
  · exact ordered _ (List.mem_singleton_self _)
  · exact Tree.allOrdered_iff.mpr ordered

/-- All parts that a reader holds are in order. -/
structure Reader.Ordered (reader : Reader) : Prop where
  /-- So are the parts of the current alternative. -/
  parts : ∀ part ∈ reader.parts, part.Ordered
  /-- So are the alternatives before it. -/
  branches : ∀ part ∈ reader.branches, part.Ordered
  /-- So are the parts and alternatives before each open group. -/
  outer : ∀ group ∈ reader.outer, ∀ part ∈ group.parts ++ group.branches, part.Ordered

namespace Reader

variable {reader next : Reader}

/-- What a reader made of the current group is in order. -/
theorem Ordered.tree (ordered : reader.Ordered) : reader.tree.Ordered := by
  apply Tree.ordered_ofBranches
  intro part member
  rcases List.mem_cons.mp (List.mem_reverse.mp member) with rfl | member
  · exact Tree.ordered_ofParts fun part member => ordered.parts part (List.mem_reverse.mp member)
  · exact ordered.branches part member

/-- Adding a part keeps a reader in order. -/
theorem Ordered.add (ordered : reader.Ordered) {part : Tree} (new : part.Ordered) :
    (reader.add part).Ordered :=
  ⟨List.forall_mem_cons.mpr ⟨new, ordered.parts⟩, ordered.branches, ordered.outer⟩

/-- Entering a group keeps a reader in order. -/
theorem Ordered.enter (ordered : reader.Ordered) (capturing : Bool) (change : FlagChange) :
    (reader.enter capturing change).Ordered := by
  refine ⟨by simp [Reader.enter], by simp [Reader.enter],
    List.forall_mem_cons.mpr ⟨fun part member => ?_, ordered.outer⟩⟩
  rcases List.mem_append.mp member with inside | inside
  · exact ordered.parts part inside
  · exact ordered.branches part inside

/-- Every move keeps a reader in order. -/
theorem Ordered.move {char : Char} (ordered : reader.Ordered) (move : Move reader char next) :
    next.Ordered := by
  cases move with
  | part part leaf same => exact same ▸ ordered.add (Tree.ordered_of_isLeaf leaf)
  | opening opening entered =>
    cases opening with
    | directive change =>
      cases entered
      have added : (reader.add (.directive change)).Ordered := ordered.add trivial
      exact ⟨added.parts, added.branches, added.outer⟩
    | plain change =>
      cases entered
      exact ordered.enter false change
    | capturing =>
      cases entered
      exact ordered.enter true .none
    | named name =>
      simp only [Reader.opening] at entered
      split at entered
      · cases entered
      · cases entered
        have inside := ordered.enter true .none
        exact ⟨inside.parts, inside.branches, inside.outer⟩
  | leave _ left =>
    unfold Reader.leave at left
    split at left
    · cases left
    · rename_i group outer inside
      cases left
      have groups := ordered.outer
      rw [inside] at groups
      have own := groups group (List.mem_cons_self ..)
      refine ⟨List.forall_mem_cons.mpr ⟨ordered.tree, fun part member => ?_⟩,
        fun part member => ?_, fun other member => groups other (List.mem_cons_of_mem _ member)⟩
      · exact own part (List.mem_append_left _ member)
      · exact own part (List.mem_append_right _ member)
  | branch same =>
    subst same
    have alternative : (Tree.ofParts reader.parts.reverse).Ordered :=
      Tree.ordered_ofParts fun part member => ordered.parts part (List.mem_reverse.mp member)
    exact ⟨by simp [Reader.branch], List.forall_mem_cons.mpr ⟨alternative, ordered.branches⟩,
      ordered.outer⟩
  | again least most bounds repeated =>
    unfold Reader.repeatLast at repeated
    split at repeated
    · cases repeated
    · cases repeated
    · cases repeated
    · rename_i part parts _ _ last
      cases repeated
      have before := ordered.parts
      rw [last] at before
      obtain ⟨body, others⟩ := List.forall_mem_cons.mp before
      exact ⟨List.forall_mem_cons.mpr ⟨⟨bounds, body⟩, others⟩, ordered.branches, ordered.outer⟩

/-- Reading keeps a reader in order. -/
theorem Ordered.run {last : Reader} {rest : List Char} (ordered : reader.Ordered)
    (done : reader.run rest = some last) : last.Ordered := by
  induction length : rest.length using Nat.strong_induction_on generalizing reader rest with
  | _ bound ih =>
    cases behind : skip reader.ignoring rest with
    | nil =>
      rw [run_nil behind] at done
      cases done
      exact ordered
    | cons char more =>
      rw [run_cons behind] at done
      obtain ⟨⟨next, left⟩, step, done⟩ := Option.bind_eq_some_iff.mp done
      have whole := length_skip_le reader.ignoring rest
      rw [behind, List.length_cons] at whole
      have after : left.length ≤ more.length :=
        ((looseStep_local reader char).shrinks more _ _ (Nat.le_refl _) step).length_le
      exact ih left.length (by omega) (ordered.move (looseStep_move step)) done rfl

end Reader

/-- A tree was read if the reader came to the end of the pattern with no group open. -/
theorem Tree.read_eq_some {pattern : List Char} {tree : Tree} :
    Tree.read pattern = some tree ↔ ∃ last, Reader.start.run pattern = some last ∧
      last.outer = [] ∧ last.tree = tree ∧ tree.depth ≤ maxDepth := by
  unfold Tree.read
  cases Reader.start.run pattern with
  | none => simp
  | some last =>
    simp only [Option.bind_eq_bind, Option.bind_some, Option.some.injEq, exists_eq_left']
    cases outer : last.outer with
    | nil =>
      by_cases deep : last.tree.depth ≤ maxDepth
      · simp only [List.isEmpty_nil, Bool.not_true, Bool.false_eq_true, ↓reduceIte, deep,
          Option.some.injEq, true_and]
        exact ⟨fun same => ⟨same, same ▸ deep⟩, fun found => found.1⟩
      · simp only [List.isEmpty_nil, Bool.not_true, Bool.false_eq_true, ↓reduceIte, deep,
          true_and, false_iff, reduceCtorEq]
        rintro ⟨rfl, shallow⟩
        exact deep shallow
    | cons group outer => simp

/-- A tree that was read is in order. -/
theorem Tree.ordered_of_read {pattern : List Char} {tree : Tree}
    (read : Tree.read pattern = some tree) : tree.Ordered := by
  obtain ⟨last, done, -, rfl, -⟩ := Tree.read_eq_some.mp read
  have begun : Reader.start.Ordered := ⟨by simp [Reader.start], by simp [Reader.start],
    by simp [Reader.start]⟩
  exact (begun.run done).tree

namespace Expr

/-- One expression in order after another is in order. -/
theorem ordered_andThen {first second : Expr} (one : first.Ordered) (two : second.Ordered) :
    (first.andThen second).Ordered := by
  unfold andThen
  split
  · exact two
  · exact one
  · exact ⟨one, two⟩

/-- Expressions in order one after another are in order. -/
theorem ordered_sequence {parts : List Expr} (ordered : ∀ part ∈ parts, part.Ordered) :
    (sequence parts).Ordered := by
  induction parts with
  | nil => trivial
  | cons part parts ih =>
    obtain ⟨one, others⟩ := List.forall_mem_cons.mp ordered
    exact ordered_andThen one (ih others)

/-- Either of two expressions in order is in order. -/
theorem ordered_orElse {left right : Expr} (one : left.Ordered) (two : right.Ordered) :
    (left.orElse right).Ordered := by
  unfold orElse
  split
  · trivial
  · exact ⟨one, two⟩

/-- Any of some expressions in order is in order. -/
theorem ordered_choice {branches : List Expr} (ordered : ∀ part ∈ branches, part.Ordered) :
    (choice branches).Ordered := by
  induction branches with
  | nil => trivial
  | cons first rest ih =>
    obtain ⟨one, others⟩ := List.forall_mem_cons.mp ordered
    cases rest with
    | nil => exact one
    | cons second rest => exact ordered_orElse one (ih others)

/-- An expression in order several times in a row is in order, if the bounds are. -/
theorem ordered_repeated {body : Expr} {least : Nat} {most : Option Nat} (inner : body.Ordered)
    (bounds : most.all (least ≤ ·) = true) : (repeated body least most).Ordered := by
  have clamped : (min (most.getD 1) 1 : Nat) ≥ min least 1 := by
    cases most with
    | none => exact Nat.min_le_right _ _
    | some most =>
      have order : least ≤ most := by simpa using bounds
      simp only [Option.getD_some]
      omega
  have chosen : ∀ pair : Nat × Option Nat, (if body.isEmptyOnly then
      (min least 1, some (min (most.getD 1) 1)) else (least, most)) = pair →
      ∀ bound ∈ pair.2, pair.1 ≤ bound := by
    intro pair same bound member
    split at same
    · cases same
      cases member
      exact clamped
    · cases same
      obtain rfl : most = some bound := member
      simpa using bounds
  unfold repeated
  generalize pair : (if body.isEmptyOnly then (min least 1, some (min (most.getD 1) 1))
    else (least, most)) = bounds
  have order := chosen _ pair
  obtain ⟨least, most⟩ := bounds
  dsimp only
  split
  · trivial
  · split
    · exact inner
    · split
      · exact inner
      · exact ⟨order, inner⟩

end Expr

mutual

/-- The meaning of a tree in order is in order. -/
theorem Tree.ordered_meaning {flags after : Flags} {expr : Expr} :
    (tree : Tree) → tree.Ordered → tree.meaning flags = some (expr, after) → expr.Ordered
  | .empty, _, meant => by
    cases meant
    trivial
  | .directive change, _, meant => by
    cases meant
    trivial
  | .literal written, _, meant => by
    obtain ⟨char, -, meant⟩ := Option.bind_eq_some_iff.mp meant
    cases meant
    trivial
  | .dot, _, meant => by
    obtain ⟨set, -, meant⟩ := Option.bind_eq_some_iff.mp meant
    cases meant
    trivial
  | .assertion kind, _, meant => by
    cases meant
    trivial
  | .property negated name, _, meant => by
    obtain ⟨set, -, meant⟩ := Option.bind_eq_some_iff.mp meant
    cases meant
    trivial
  | .short negated kind, _, meant => by
    obtain ⟨set, -, meant⟩ := Option.bind_eq_some_iff.mp meant
    cases meant
    trivial
  | .bracketed negated content, _, meant => by
    obtain ⟨set, -, meant⟩ := Option.bind_eq_some_iff.mp meant
    obtain ⟨set, -, meant⟩ := Option.bind_eq_some_iff.mp meant
    cases meant
    trivial
  | .repetition body least most, ordered, meant => by
    obtain ⟨⟨inner, later⟩, read, meant⟩ := Option.bind_eq_some_iff.mp meant
    cases meant
    exact Expr.ordered_repeated (Tree.ordered_meaning body ordered.2 read) ordered.1
  | .group capturing change body, ordered, meant => by
    obtain ⟨⟨inner, later⟩, read, meant⟩ := Option.bind_eq_some_iff.mp meant
    cases meant
    have inside : inner.Ordered := Tree.ordered_meaning body ordered read
    cases capturing <;> exact inside
  | .alternation branches, ordered, meant => by
    obtain ⟨⟨inner, later⟩, read, meant⟩ := Option.bind_eq_some_iff.mp meant
    cases meant
    exact Expr.ordered_choice (Tree.ordered_meanings branches ordered read)
  | .sequence parts, ordered, meant => by
    obtain ⟨⟨inner, later⟩, read, meant⟩ := Option.bind_eq_some_iff.mp meant
    cases meant
    exact Expr.ordered_sequence (Tree.ordered_meanings parts ordered read)

/-- The meanings of trees in order are in order. -/
theorem Tree.ordered_meanings {flags after : Flags} {exprs : List Expr} :
    (parts : List Tree) → Tree.AllOrdered parts → Tree.meanings flags parts = some (exprs, after) →
      ∀ expr ∈ exprs, expr.Ordered
  | [], _, meant => by
    cases meant
    simp
  | part :: rest, ordered, meant => by
    obtain ⟨⟨first, later⟩, one, meant⟩ := Option.bind_eq_some_iff.mp meant
    obtain ⟨⟨others, last⟩, two, meant⟩ := Option.bind_eq_some_iff.mp meant
    cases meant
    exact List.forall_mem_cons.mpr ⟨Tree.ordered_meaning part ordered.1 one,
      Tree.ordered_meanings rest ordered.2 two⟩

end

/-- A pattern was compiled if it was read, has a meaning and is small enough. -/
theorem compile?_eq_some {source : String} {pattern : Pattern} : compile? source = some pattern ↔
    ∃ tree flags, Tree.read source.toList = some tree ∧
      tree.meaning .initial = some (pattern.expr, flags) ∧ pattern.expr.isAffordable = true ∧
      pattern.source = source := by
  unfold compile?
  constructor
  · intro compiled
    obtain ⟨tree, read, compiled⟩ := Option.bind_eq_some_iff.mp compiled
    obtain ⟨⟨expr, flags⟩, meant, compiled⟩ := Option.bind_eq_some_iff.mp compiled
    dsimp only at compiled
    split at compiled
    · rename_i affordable
      cases compiled
      exact ⟨tree, flags, read, meant, affordable, rfl⟩
    · cases compiled
  · rintro ⟨tree, flags, read, meant, affordable, rfl⟩
    simp [read, meant, affordable]

/-- The bounds of all repetitions of a compiled pattern are in order. -/
theorem ordered_of_compile? {source : String} {pattern : Pattern}
    (compiled : compile? source = some pattern) : pattern.expr.Ordered := by
  obtain ⟨tree, flags, read, meant, -, -⟩ := compile?_eq_some.mp compiled
  exact Tree.ordered_meaning tree (Tree.ordered_of_read read) meant

/-- **A compiled pattern is found in a text exactly if it matches somewhere in it.** -/
theorem isMatch_iff {source : String} {pattern : Pattern}
    (compiled : compile? source = some pattern) (text : String) :
    pattern.isMatch text = true ↔ ∃ start stop, Matches text.toList pattern.expr start stop :=
  Expr.isFoundIn_iff (ordered_of_compile? compiled)

end OriginServer.Pattern

import OriginServer.Proofs.Pattern.Steps

/-!
# Reading a pattern inside a group

Steps do not look at the groups that are open around a pattern, unless the pattern closes one that
it did not open (`Reader.Strays`). From what one step does, `Reader.enclosed` tells by induction
what becomes of a whole pattern when a group stands around it: it is read as it is alone, or the
parenthesis that should close the group belongs to a comment, or the pattern is not complete and
what follows does not close the group either.
-/
namespace OriginServer.Pattern

variable {size : Nat}

/-- A reader for which further groups are open around everything that it read. -/
def Reader.under (reader : Reader) (groups : List OpenGroup) : Reader :=
  { reader with outer := reader.outer ++ groups }

namespace Reader

variable (reader : Reader) (groups : List OpenGroup)

/-- Groups around a reader do not change what it does to the last part. -/
theorem repeatLast_under (least : Nat) (most : Option Nat) :
    (reader.under groups).repeatLast least most =
      (reader.repeatLast least most).map (·.under groups) := by
  unfold repeatLast
  rw [show (reader.under groups).parts = reader.parts from rfl]
  split <;> rfl

/-- Groups around a reader do not change how it enters a group. -/
theorem opening_under (opening : Opening) :
    (reader.under groups).opening opening = (reader.opening opening).map (·.under groups) := by
  cases opening with
  | directive change => rfl
  | plain change => rfl
  | capturing => rfl
  | named name =>
    unfold Reader.opening
    rw [show (reader.under groups).names = reader.names from rfl]
    dsimp only
    split <;> rfl

/-- Groups around a reader do not change how it leaves a group of its own. -/
theorem leave_under (inner : reader.outer ≠ []) :
    (reader.under groups).leave = reader.leave.map (·.under groups) := by
  obtain ⟨outer, branches, parts, ignoring, names⟩ := reader
  cases outer with
  | nil => exact absurd rfl inner
  | cons group outer => rfl

/-- Groups around a reader do not change its steps, as long as it does not leave them. -/
theorem step_under {char : Char} (inner : char = ')' → reader.outer ≠ []) (rest : List Char) :
    (reader.under groups).step char rest =
      (reader.step char rest).map fun found => (found.1.under groups, found.2) := by
  have repeated : ∀ (least : Nat) (most : Option Nat) (left : List Char),
      ((reader.under groups).repeatLast least most).bind (fun next => some (next, left)) =
        ((reader.repeatLast least most).bind fun next => some (next, left)).map
          fun found => (found.1.under groups, found.2) := by
    intro least most left
    rw [repeatLast_under]
    cases reader.repeatLast least most <;> rfl
  by_cases plain : char ∉ stepMarks
  · rw [step_literal _ plain, step_literal _ plain]
    rfl
  · simp only [stepMarks, List.mem_cons, List.not_mem_nil, or_false, not_not] at plain
    rcases plain with rfl | rfl | rfl | rfl | rfl | rfl | rfl | rfl | rfl | rfl | rfl | rfl
    · change ((readOpeningParenthesis (skip reader.ignoring rest)).bind fun found =>
          ((reader.under groups).opening found.1).bind fun next => some (next, found.2)) =
        ((readOpeningParenthesis (skip reader.ignoring rest)).bind fun found =>
          (reader.opening found.1).bind fun next => some (next, found.2)).map _
      cases readOpeningParenthesis (skip reader.ignoring rest) with
      | none => rfl
      | some found =>
        rw [Option.bind_some, Option.bind_some, opening_under]
        cases reader.opening found.1 <;> rfl
    · change ((reader.under groups).leave.bind fun next => some (next, rest)) =
        (reader.leave.bind fun next => some (next, rest)).map _
      rw [leave_under reader groups (inner rfl)]
      cases reader.leave <;> rfl
    · rfl
    · change ((readSet reader.ignoring rest).bind fun found =>
          some ((reader.under groups).add (.bracketed found.1 found.2.1), found.2.2)) =
        ((readSet reader.ignoring rest).bind fun found =>
          some (reader.add (.bracketed found.1 found.2.1), found.2.2)).map _
      cases readSet reader.ignoring rest <;> rfl
    · exact repeated 0 (some 1) _
    · exact repeated 0 none _
    · exact repeated 1 none _
    · change ((readBounds reader.ignoring rest).bind fun found =>
          ((reader.under groups).repeatLast found.1.1 found.1.2).bind fun next =>
            some (next, skipPreference (skip reader.ignoring found.2))) =
        ((readBounds reader.ignoring rest).bind fun found =>
          (reader.repeatLast found.1.1 found.1.2).bind fun next =>
            some (next, skipPreference (skip reader.ignoring found.2))).map _
      cases readBounds reader.ignoring rest with
      | none => rfl
      | some found => exact repeated found.1.1 found.1.2 _
    · change ((readEscape reader.ignoring rest).bind fun found =>
          some ((reader.under groups).add (escapeTree found.1), found.2)) =
        ((readEscape reader.ignoring rest).bind fun found =>
          some (reader.add (escapeTree found.1), found.2)).map _
      cases readEscape reader.ignoring rest <;> rfl
    · rfl
    · rfl
    · rfl

/-- Groups around a reader do not change its steps, as long as it does not leave them. -/
theorem looseStep_under {char : Char} (inner : char = ')' → reader.outer ≠ []) (rest : List Char) :
    looseStep (reader.under groups) char rest =
      (looseStep reader char rest).map fun found => (found.1.under groups, found.2) := by
  unfold looseStep
  split
  · rw [show (reader.under groups).ignoring = reader.ignoring from rfl]
    cases looseEscape reader.ignoring rest <;> rfl
  · exact step_under reader groups inner rest

end Reader

/-- No bounds of a repetition can be read where only blanks are left. -/
theorem readBounds_blank {ignoring : Bool} {rest : List Char} (blank : skip ignoring rest = []) :
    readBounds ignoring rest = none := by
  have nothing : readCount ignoring [] = some (none, []) := by
    cases ignoring <;> simp [readCount, readNumerals]
  rw [readBounds, blank, nothing]
  rfl

/-- A character that counts is not passed over. -/
theorem skip_mark {ignoring : Bool} {char : Char} (solid : Text.isBlank char = false)
    (plain : char ≠ '#') (rest : List Char) : skip ignoring (char :: rest) = char :: rest := by
  cases ignoring with
  | false => rfl
  | true => simp [skip, skipIgnored, solid, plain]

/-- What is left behind blanks and comments begins with a character that counts. -/
theorem skipIgnored_idem (inComment : Bool) (rest : List Char) :
    skipIgnored false (skipIgnored inComment rest) = skipIgnored inComment rest := by
  induction rest generalizing inComment with
  | nil => rfl
  | cons char rest ih =>
    simp only [skipIgnored]
    split
    · exact ih _
    · split
      · exact ih _
      · split
        · exact ih _
        · rename_i solid
          simp_all [skipIgnored]

/-- What is left behind blanks and comments begins with a character that counts. -/
theorem skip_idem (ignoring : Bool) (rest : List Char) :
    skip ignoring (skip ignoring rest) = skip ignoring rest := by
  cases ignoring with
  | false => rfl
  | true => exact skipIgnored_idem false rest

namespace Reader

/-- Reading ends where only blanks and comments are left. -/
theorem run_nil {reader : Reader} {rest : List Char} (behind : skip reader.ignoring rest = []) :
    reader.run rest = some reader := by
  rw [run]
  split <;> simp_all

/-- No step is taken where a brace stands before nothing but blanks. -/
theorem step_brace {reader : Reader} {inner : List Char} (blank : skip reader.ignoring inner = []) :
    reader.step '\x7b' inner = none := by
  simp only [step, readBounds_blank blank]
  rfl

/-- Nothing is read where a brace stands before nothing but blanks. -/
theorem run_brace {reader : Reader} {inner : List Char} (blank : skip reader.ignoring inner = []) :
    reader.run ('\x7b' :: inner) = none := by
  have step := step_brace blank
  rw [run]
  split
  · rename_i nothing
    rw [skip_mark (by decide) (by decide)] at nothing
    cases nothing
  · rename_i char more behind
    rw [skip_mark (by decide) (by decide)] at behind
    cases behind
    rw [step]

/-- A step that is not loose refuses at most a brace before nothing but blanks. -/
theorem step_loose (reader : Reader) (char : Char) (rest : List Char) :
    reader.step char rest = looseStep reader char rest ∨
      reader.step char rest = none ∧ ∃ next inner, skip next.ignoring inner = [] ∧
        looseStep reader char rest = some (next, '\x7b' :: inner) := by
  unfold looseStep
  split
  · rename_i escape
    subst escape
    change ((readEscape reader.ignoring rest).bind fun found =>
        some (reader.add (escapeTree found.1), found.2)) = _ ∨
      ((readEscape reader.ignoring rest).bind fun found =>
        some (reader.add (escapeTree found.1), found.2)) = none ∧ _
    rcases readEscape_loose reader.ignoring rest with same | ⟨refused, inner, blank, read⟩
    · rw [same]
      exact .inl rfl
    · rw [refused, read]
      exact .inr ⟨rfl, reader.add (.assertion .wordBoundary), inner, blank, rfl⟩
  · exact .inl rfl

/-- Reading goes on step by step. -/
theorem run_cons {reader : Reader} {rest more : List Char} {char : Char}
    (behind : skip reader.ignoring rest = char :: more) :
    reader.run rest = (looseStep reader char more).bind fun found => found.1.run found.2 := by
  have strict : reader.run rest = (reader.step char more).bind fun found =>
      if found.2.length ≤ more.length then found.1.run found.2 else none := by
    rw [run]
    split
    · simp_all
    · rename_i found
      obtain ⟨rfl, rfl⟩ : char = _ ∧ more = _ := by simpa [behind] using found
      split
      · rename_i step
        rw [step]
        rfl
      · rename_i step
        rw [step]
        dsimp only [Option.bind_some]
        split <;> rfl
  rw [strict]
  rcases step_loose reader char more with same | ⟨refused, next, inner, blank, read⟩
  · rw [same]
    cases taken : looseStep reader char more with
    | none => rfl
    | some found =>
      have inside : found.2.length ≤ more.length :=
        ((looseStep_local reader char).shrinks more _ _ (Nat.le_refl _) taken).length_le
      simp [inside]
  · rw [refused, read]
    exact (run_brace blank).symm

/-- Reading begins with the next character that counts. -/
theorem run_skip (reader : Reader) (rest : List Char) :
    reader.run (skip reader.ignoring rest) = reader.run rest := by
  cases behind : skip reader.ignoring rest with
  | nil => rw [run_nil behind, run_nil (by cases reader.ignoring <;> rfl)]
  | cons char more =>
    have again : skip reader.ignoring (char :: more) = char :: more := by
      rw [← behind]
      exact skip_idem _ _
    rw [run_cons behind, run_cons again]

end Reader

/-- Whether a part of a pattern holds no other parts. -/
def Tree.isLeaf : Tree → Bool
  | .repetition .. | .group .. | .alternation _ | .sequence _ => false
  | _ => true

/-- What a step of reading does to a reader. -/
inductive Move (reader : Reader) (char : Char) (next : Reader) : Prop where
  /-- A part without parts of its own is added. -/
  | part (part : Tree) : part.isLeaf = true → next = reader.add part → Move reader char next
  /-- A group is entered, or a directive added. -/
  | opening (opening : Opening) : reader.opening opening = some next → Move reader char next
  /-- The innermost group is left. -/
  | leave : char = ')' → reader.leave = some next → Move reader char next
  /-- The next alternative begins. -/
  | branch : next = reader.branch → Move reader char next
  /-- The last part is repeated. -/
  | again (least : Nat) (most : Option Nat) : most.all (least ≤ ·) = true →
    reader.repeatLast least most = some next → Move reader char next

/-- The bounds of a repetition are in order. -/
theorem readBounds_ordered {ignoring : Bool} {rest left : List Char} {least : Nat}
    {most : Option Nat} (read : readBounds ignoring rest = some ((least, most), left)) :
    most.all (least ≤ ·) = true := by
  rw [readBounds_eq] at read
  obtain ⟨first, -, read⟩ := Option.bind_eq_some_iff.mp read
  obtain ⟨low, -, read⟩ := Option.bind_eq_some_iff.mp read
  obtain ⟨⟨high, later⟩, -, read⟩ := Option.bind_eq_some_iff.mp read
  obtain ⟨behind, -, read⟩ := Option.bind_eq_some_iff.mp read
  split at read
  · cases read
  · rename_i ordered
    cases read
    cases high with
    | none => rfl
    | some high => simpa using ordered

/-- Every step of reading is one of the moves. -/
theorem looseStep_move {reader next : Reader} {char : Char} {rest left : List Char}
    (step : looseStep reader char rest = some (next, left)) : Move reader char next := by
  unfold looseStep at step
  split at step
  · obtain ⟨found, -, same⟩ := Option.bind_eq_some_iff.mp step
    cases same
    exact .part _ (by cases found.1 <;> rfl) rfl
  · unfold Reader.step at step
    split at step
    · obtain ⟨found, -, entered⟩ := Option.bind_eq_some_iff.mp step
      obtain ⟨after, began, same⟩ := Option.bind_eq_some_iff.mp entered
      cases same
      exact .opening found.1 began
    · obtain ⟨after, left, same⟩ := Option.bind_eq_some_iff.mp step
      cases same
      exact .leave rfl left
    · cases step
      exact .branch rfl
    · obtain ⟨found, -, same⟩ := Option.bind_eq_some_iff.mp step
      cases same
      exact .part _ rfl rfl
    · obtain ⟨after, again, same⟩ := Option.bind_eq_some_iff.mp step
      cases same
      exact .again 0 (some 1) rfl again
    · obtain ⟨after, again, same⟩ := Option.bind_eq_some_iff.mp step
      cases same
      exact .again 0 none rfl again
    · obtain ⟨after, again, same⟩ := Option.bind_eq_some_iff.mp step
      cases same
      exact .again 1 none rfl again
    · obtain ⟨⟨⟨least, most⟩, behind⟩, bounds, again⟩ := Option.bind_eq_some_iff.mp step
      obtain ⟨after, repeated, same⟩ := Option.bind_eq_some_iff.mp again
      cases same
      exact .again least most (readBounds_ordered bounds) repeated
    · obtain ⟨found, -, same⟩ := Option.bind_eq_some_iff.mp step
      cases same
      exact .part _ (by cases found.1 <;> rfl) rfl
    all_goals
      cases step
      exact .part _ rfl rfl

/-- A reader comes to the next character that counts and takes the step there, again and again. -/
inductive Reads : Reader → List Char → Reader → List Char → Prop where
  /-- No step is taken. -/
  | stop {reader : Reader} {rest : List Char} : Reads reader rest reader (skip reader.ignoring rest)
  /-- One step is taken before the others. -/
  | step {reader next last : Reader} {rest more later left : List Char} {char : Char} :
    skip reader.ignoring rest = char :: more → reader.step char more = some (next, later) →
      Reads next later last left → Reads reader rest last left

/-- A reader comes to a closing parenthesis while no group is open. -/
def Reader.Strays (reader : Reader) (rest : List Char) : Prop :=
  ∃ last left, Reads reader rest last (')' :: left) ∧ last.outer = []

namespace Reader

/-- Nothing is read where a parenthesis is closed while no group is open. -/
theorem run_stray {reader : Reader} {rest more : List Char}
    (behind : skip reader.ignoring rest = ')' :: more) (closed : reader.outer = []) :
    reader.run rest = none := by
  have refused : reader.leave = none := by
    unfold leave
    rw [closed]
  rw [run_cons behind]
  change ((reader.leave.bind fun next => some (next, more)).bind
    fun found => found.1.run found.2) = none
  rw [refused]
  rfl

/-- A pattern that closes a group that it did not open is refused. -/
theorem Strays.run {reader : Reader} {rest : List Char} (strays : reader.Strays rest) :
    reader.run rest = none := by
  obtain ⟨last, left, reads, closed⟩ := strays
  generalize ending : ')' :: left = stop at reads
  induction reads with
  | stop => exact run_stray ending.symm closed
  | step front step _ ih =>
    rw [run_cons front]
    rcases step_loose _ _ _ with same | ⟨refused, _⟩
    · rw [← same, step]
      exact ih closed ending
    · rw [refused] at step
      cases step

/-- A step leaves the open groups as they are, unless a parenthesis is closed. -/
theorem looseStep_outer {reader next : Reader} {char : Char} {rest left : List Char}
    (other : char ≠ ')') (step : looseStep reader char rest = some (next, left)) :
    reader.outer <:+ next.outer := by
  cases looseStep_move step with
  | part part _ same =>
    rw [same]
    exact List.suffix_refl _
  | opening opening entered =>
    cases opening with
    | directive change =>
      cases entered
      exact List.suffix_refl _
    | plain change =>
      cases entered
      exact List.suffix_cons _ _
    | capturing =>
      cases entered
      exact List.suffix_cons _ _
    | named name =>
      simp only [Reader.opening] at entered
      split at entered
      · cases entered
      · cases entered
        exact List.suffix_cons _ _
  | leave closing _ => exact absurd closing other
  | branch same =>
    rw [same]
    exact List.suffix_refl _
  | again least most _ repeated =>
    unfold repeatLast at repeated
    split at repeated
    all_goals cases repeated
    exact List.suffix_refl _

/-- Reading keeps the open groups open, if no parenthesis is closed. -/
theorem run_outer {reader last : Reader} {rest : List Char} (clean : ')' ∉ rest)
    (done : reader.run rest = some last) : reader.outer <:+ last.outer := by
  induction length : rest.length using Nat.strong_induction_on generalizing reader rest with
  | _ bound ih =>
    cases behind : skip reader.ignoring rest with
    | nil =>
      rw [run_nil behind] at done
      cases done
      exact List.suffix_refl _
    | cons char more =>
      have inside : char :: more <:+ rest := behind ▸ skip_suffix reader.ignoring rest
      rw [run_cons behind] at done
      obtain ⟨⟨next, left⟩, step, done⟩ := Option.bind_eq_some_iff.mp done
      have after : left <:+ more :=
        (looseStep_local reader char).shrinks more _ _ (Nat.le_refl _) step
      have closing : char ≠ ')' := by
        rintro rfl
        exact clean (inside.subset (List.mem_cons_self ..))
      have short : left.length < bound := by
        have whole := inside.length_le
        have part := after.length_le
        rw [List.length_cons] at whole
        omega
      have fewer : ')' ∉ left := fun member =>
        clean (inside.subset (List.mem_cons_of_mem _ (after.subset member)))
      exact (looseStep_outer closing step).trans (ih left.length short fewer done rfl)

/-- What is read of a pattern alone, and inside a group that a parenthesis closes behind it. -/
inductive Enclosed (size : Nat) (reader : Reader) (rest : List Char) : Prop where
  /-- The parenthesis is left. -/
  | kept (last : Reader) : reader.run rest = some last →
    (∀ groups more, Fits size rest more →
      (reader.under groups).run (rest ++ ')' :: more) = (last.under groups).run (')' :: more)) →
    Enclosed size reader rest
  /-- The parenthesis stands in a comment. -/
  | swallowed (last : Reader) : reader.run rest = some last →
    (∀ groups more, Fits size rest more →
      (reader.under groups).run (rest ++ ')' :: more) = some (last.under groups)) →
    Enclosed size reader rest
  /-- The pattern is not complete, and what stands behind does not close the groups around it. -/
  | lost : reader.run rest = none →
    (∀ groups more last, Fits size rest more → ')' ∉ more →
      (reader.under groups).run (rest ++ ')' :: more) = some last → groups <:+ last.outer) →
    Enclosed size reader rest
  /-- The pattern closes a group that it did not open. -/
  | strayed : reader.Strays rest → Enclosed size reader rest

/-- What becomes of a pattern inside a group is settled by what becomes of the rest of it after a
step. -/
theorem Enclosed.back {reader next : Reader} {rest left : List Char}
    (alone : reader.run rest = next.run left)
    (fewer : ∀ more, Fits size rest more → Fits size left more)
    (inside : ∀ groups more, Fits size rest more → (reader.under groups).run (rest ++ ')' :: more) =
      (next.under groups).run (left ++ ')' :: more))
    (strays : next.Strays left → reader.Strays rest) (enclosed : Enclosed size next left) :
    Enclosed size reader rest := by
  cases enclosed with
  | kept last done later =>
    exact .kept last (alone.trans done) fun groups more fit =>
      (inside groups more fit).trans (later groups more (fewer more fit))
  | swallowed last done later =>
    exact .swallowed last (alone.trans done) fun groups more fit =>
      (inside groups more fit).trans (later groups more (fewer more fit))
  | lost done past =>
    exact .lost (alone.trans done) fun groups more last fit clean ended =>
      past groups more last (fewer more fit) clean ((inside groups more fit).symm.trans ended)
  | strayed strayed => exact .strayed (strays strayed)

/-- A reader that strays after a loose step strays before it. -/
theorem Strays.back {reader next : Reader} {rest more left : List Char} {char : Char}
    (behind : skip reader.ignoring rest = char :: more)
    (taken : looseStep reader char more = some (next, left)) (strays : next.Strays left) :
    reader.Strays rest := by
  obtain ⟨last, later, reads, closed⟩ := strays
  rcases step_loose reader char more with same | ⟨refused, other, inner, blank, read⟩
  · exact ⟨last, later, .step behind (same.trans taken) reads, closed⟩
  · obtain ⟨rfl, rfl⟩ : other = next ∧ '\x7b' :: inner = left := by
      simpa [read] using taken
    have brace : skip other.ignoring ('\x7b' :: inner) = '\x7b' :: inner :=
      skip_mark (by decide) (by decide) inner
    generalize ending : ')' :: later = stop at reads
    cases reads with
    | stop =>
      rw [brace] at ending
      cases ending
    | step front step _ =>
      rw [brace] at front
      cases front
      rw [step_brace blank] at step
      cases step

/-- A pattern is read inside a group in one of these ways, if whatever a step can leave of it is. -/
theorem enclosed_of_step {reader : Reader} {rest more : List Char} {char : Char}
    (small : rest.length ≤ size) (behind : skip reader.ignoring rest = char :: more)
    (kept : ∀ extra, skip reader.ignoring (rest ++ ')' :: extra) =
      skip reader.ignoring rest ++ ')' :: extra)
    (later : ∀ (next : Reader) (left : List Char), left.length ≤ more.length →
      Enclosed size next left) : Enclosed size reader rest := by
  by_cases stray : char = ')' ∧ reader.outer = []
  · refine .strayed ⟨reader, more, ?_, stray.2⟩
    rw [← stray.1, ← behind]
    exact .stop
  have inner : char = ')' → reader.outer ≠ [] := fun closing closed => stray ⟨closing, closed⟩
  have whole : more.length < rest.length := by
    have := length_skip_le reader.ignoring rest
    rwa [behind] at this
  have alone : reader.run rest =
      (looseStep reader char more).bind fun found => found.1.run found.2 :=
    run_cons behind
  have inside : ∀ groups extra, (reader.under groups).run (rest ++ ')' :: extra) =
      (looseStep reader char (more ++ ')' :: extra)).bind fun found =>
        (found.1.under groups).run found.2 := by
    intro groups extra
    have front : skip (reader.under groups).ignoring (rest ++ ')' :: extra) =
        char :: (more ++ ')' :: extra) := by
      change skip reader.ignoring (rest ++ ')' :: extra) = _
      rw [kept, behind]
      rfl
    rw [run_cons front, looseStep_under reader groups inner, Option.bind_map]
    rfl
  have fewer : ∀ left : List Char, left.length ≤ more.length → ∀ extra,
      Fits size rest extra → Fits size left extra :=
    fun left shorter extra fit => ⟨fit.1, by have bound := fit.2; omega⟩
  have steps : Local size (looseStep reader char) := looseStep_local reader char
  cases steps.agrees more (by omega) with
  | kept next left step same =>
    have shorter : left.length ≤ more.length :=
      (steps.shrinks more _ _ (by omega) step).length_le
    refine .back ?_ (fewer left shorter) (fun groups extra fit => ?_) (Strays.back behind step)
      (later next left shorter)
    · rw [alone, step]
      rfl
    · rw [inside, same extra (fewer more (Nat.le_refl _) extra fit)]
      rfl
  | swallowed next step same =>
    refine .swallowed next ?_ fun groups extra fit => ?_
    · rw [alone, step]
      exact run_nil (by cases next.ignoring <;> rfl)
    · rw [inside, same extra (fewer more (Nat.le_refl _) extra fit)]
      exact run_nil (by cases (next.under groups).ignoring <;> rfl)
  | lost step past =>
    refine .lost ?_ fun groups extra last fit clean done => ?_
    · rw [alone, step]
      rfl
    · rw [inside] at done
      obtain ⟨⟨next, left⟩, taken, done⟩ := Option.bind_eq_some_iff.mp done
      have ending : left <:+ extra :=
        past extra next left (fewer more (Nat.le_refl _) extra fit) taken
      have fewer : ')' ∉ left := fun member => clean (ending.subset member)
      exact (List.suffix_append next.outer groups).trans (run_outer fewer done)

/-- Every pattern is read inside a group in one of these ways. -/
theorem enclosed {reader : Reader} {rest : List Char} (small : rest.length ≤ size) :
    Enclosed size reader rest := by
  induction length : rest.length using Nat.strong_induction_on generalizing reader rest with
  | _ bound ih =>
    rcases skip_closed reader.ignoring rest with kept | ⟨nothing, swallowed⟩
    · cases behind : skip reader.ignoring rest with
      | nil =>
        refine .kept reader (run_nil behind) fun groups more fit => ?_
        rw [← run_skip]
        change (reader.under groups).run (skip reader.ignoring (rest ++ ')' :: more)) = _
        rw [kept, behind]
        rfl
      | cons char more =>
        have whole : more.length < rest.length := by
          have := length_skip_le reader.ignoring rest
          rwa [behind] at this
        exact enclosed_of_step small behind kept fun next left shorter =>
          ih left.length (by omega) (by omega) rfl
    · refine .swallowed reader (run_nil nothing) fun groups more fit => ?_
      exact run_nil (swallowed more fit.1)

end Reader

end OriginServer.Pattern

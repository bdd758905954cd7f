import OriginServer.Proofs.Pattern.Sets

/-!
# One step of reading is local

The remaining readers of the parts of a pattern are local: flags, names, and the bounds of
repetitions. So is a step of reading as a whole (`looseStep_local`), whatever character it is for.
-/
namespace OriginServer.Pattern

variable {size : Nat} {ignoring : Bool}

/-- Flags are read locally. -/
theorem readFlags_local (negated dangling : Bool) (change : FlagChange) :
    Local size fun rest => (readFlags negated dangling change rest).map
      fun found => ((found.1, found.2.1), found.2.2) := by
  induction size using Nat.strong_induction_on generalizing negated dangling change with
  | _ size ih =>
    apply Local.head rfl
    intro char smaller less
    have going := ih smaller less
    by_cases last : char = ':' || char = ')'
    · simp only [readFlags, last, ↓reduceIte]
      cases dangling
      · exact Local.pure (change, char)
      · exact Local.refuse
    · by_cases hyphen : char = '-'
      · subst hyphen
        cases negated
        · exact going true true change
        · exact Local.refuse
      · simp only [readFlags, last, hyphen, ↓reduceIte]
        cases flag? char with
        | none => exact Local.refuse
        | some flag =>
          by_cases known : change.on.contains flag || change.off.contains flag
          · simp only [known, ↓reduceIte]
            exact Local.refuse
          · simp only [known]
            cases negated
            · exact going false false _
            · exact going true false _

/-- The name of a group is read locally. -/
theorem readName_local (passed : List Char) : Local size (readName passed) := by
  induction size using Nat.strong_induction_on generalizing passed with
  | _ size ih =>
    apply Local.head rfl
    intro char smaller less
    refine Local.ite (Local.ite Local.refuse (Local.pure _)) ?_
    exact Local.ite (ih smaller less (char :: passed)) Local.refuse

/-- Whether a condition on what stands around begins does not depend on a parenthesis behind. -/
theorem isLookaround_closed (rest more : List Char) :
    isLookaround (rest ++ ')' :: more) = isLookaround rest := by
  unfold isLookaround
  simp only [List.any_cons, List.any_nil]
  rw [isPrefixOf_closed (by decide), isPrefixOf_closed (by decide), isPrefixOf_closed (by decide),
    isPrefixOf_closed (by decide)]

/-- What stands before the name of a group. -/
def nameMark? (rest : List Char) : Option (Unit × List Char) :=
  ((after? "?P<".toList rest).or (after? "?<".toList rest)).map ((), ·)

/-- What begins with an opening parenthesis and has no name. -/
def readNameless (rest : List Char) : Option (Opening × List Char) :=
  match rest with
  | '?' :: rest => do
    let (change, last, rest) ← readFlags false false .none rest
    if last = ':' then some (.plain change, rest)
    else if change = .none then none
    else some (.directive change, rest)
  | rest => some (.capturing, rest)

/-- What begins with an opening parenthesis and has no name is read locally. -/
theorem readNameless_local : Local size readNameless := by
  apply Local.front (· == '?') rfl _ (Local.pure .capturing)
  · intro rest miss
    unfold readNameless
    split
    · simp at miss
    · rfl
  · intro char mark smaller _
    obtain rfl : char = '?' := by simpa using mark
    have later : ∀ flags : FlagChange × Char, Local smaller fun rest =>
        if flags.2 = ':' then some (Opening.plain flags.1, rest)
        else if flags.1 = .none then none
        else some (Opening.directive flags.1, rest) :=
      fun flags => Local.ite (Local.pure _) (Local.ite Local.refuse (Local.pure _))
    have flags : Local smaller fun rest => ((readFlags false false .none rest).map
        fun found => ((found.1, found.2.1), found.2.2)).bind fun found =>
          if found.1.2 = ':' then some (Opening.plain found.1.1, found.2)
          else if found.1.1 = .none then none
          else some (Opening.directive found.1.1, found.2) :=
      (readFlags_local false false .none).bind later
    refine flags.congr fun rest => ?_
    rw [Option.bind_map]
    rfl

/-- The mark of a name does not reach over a closing parenthesis. -/
theorem nameMark?_closed (rest more : List Char) : nameMark? (rest ++ ')' :: more) =
    (nameMark? rest).map fun found => (found.1, found.2 ++ ')' :: more) := by
  unfold nameMark?
  rw [after?_closed (by decide), after?_closed (by decide)]
  cases after? "?P<".toList rest with
  | some left => rfl
  | none => cases after? "?<".toList rest <;> rfl

/-- What follows the mark of a name is the end of the text. -/
theorem nameMark?_suffix {rest left : List Char} {mark : Unit}
    (found : nameMark? rest = some (mark, left)) : left <:+ rest := by
  obtain ⟨behind, begun, same⟩ := Option.map_eq_some_iff.mp found
  cases same
  rcases Option.or_eq_some_iff.mp begun with first | ⟨-, second⟩
  · exact after?_suffix first
  · exact after?_suffix second

/-- The beginning of a group is read locally. -/
theorem readOpeningParenthesis_local : Local size readOpeningParenthesis := by
  have named : Local size fun rest => (readName [] rest).bind fun found =>
      some (Opening.named found.1, found.2) :=
    (readName_local []).bind fun name => Local.pure (Opening.named name)
  have either : Local size fun rest => (nameMark? rest).elim (readNameless rest) fun found =>
      (readName [] found.2).bind fun found => some (Opening.named found.1, found.2) :=
    Local.choose (fun _ _ _ => nameMark?_suffix) nameMark?_closed (fun _ => named)
      readNameless_local
  have refused : Local size fun rest => if isLookaround rest then none
      else (nameMark? rest).elim (readNameless rest) fun found =>
        (readName [] found.2).bind fun found => some (Opening.named found.1, found.2) :=
    Local.test (fun rest more _ => isLookaround_closed rest more) Local.refuse either
  refine refused.congr fun rest => ?_
  unfold readOpeningParenthesis nameMark?
  cases (after? "?P<".toList rest).or (after? "?<".toList rest) <;> rfl

/-- Decimal digits are read locally. -/
theorem readNumerals_local (passed : List Char) :
    Local size fun rest => some (readNumerals ignoring passed rest) := by
  induction size using Nat.strong_induction_on generalizing passed with
  | _ size ih =>
    apply Local.front Char.isDigit (by decide) _ (Local.pure passed.reverse)
    · intro rest miss
      cases rest with
      | nil => simp [readNumerals]
      | cons char rest =>
        rw [readNumerals]
        simp_all
    · intro char digit smaller less
      refine Local.skipping ignoring ?_ (ih smaller less (char :: passed))
      intro rest skipped behind
      rw [readNumerals]
      simp_all

/-- What a count is made of its digits, and the blanks behind it. -/
def closeCount (ignoring : Bool) (found : List Char × List Char) :
    Option (Option Nat × List Char) :=
  let rest := if ignoring then found.2 else found.2.dropWhile Text.isBlank
  if found.1.isEmpty then some (none, rest)
  else if decimalNumber found.1 < countLimit then some (some (decimalNumber found.1), rest)
  else none

/-- The end of a count is read locally. -/
theorem closeCount_local (digits : List Char) :
    Local size fun rest => closeCount ignoring (digits, rest) := by
  have plain : Local size fun rest => if digits.isEmpty then some (none, rest)
      else if decimalNumber digits < countLimit then some (some (decimalNumber digits), rest)
      else none :=
    Local.ite (Local.pure _) (Local.ite (Local.pure _) Local.refuse)
  cases ignoring with
  | true => exact plain
  | false => exact plain.trimming

/-- A count is read locally. -/
theorem readCount_local : Local size (readCount ignoring) :=
  (Local.andThen (closeCount ignoring) (readNumerals_local []) closeCount_local).trimming

/-- The upper bound of a repetition. -/
def readMost (ignoring : Bool) (least : Nat) (rest : List Char) :
    Option (Option Nat × List Char) :=
  match rest with
  | ',' :: rest =>
    match skip ignoring rest with
    | '\x7d' :: rest => some (none, '\x7d' :: rest)
    | rest => do
      let (most, rest) ← readCount ignoring rest
      some (some (← most), rest)
  | rest => some (some least, rest)

/-- The upper bound of a repetition is read locally. -/
theorem readMost_local (least : Nat) : Local size (readMost ignoring least) := by
  apply Local.front (· == ',') rfl _ (Local.pure (some least))
  · intro rest miss
    unfold readMost
    split
    · simp at miss
    · rfl
  · intro char comma smaller _
    obtain rfl : char = ',' := by simpa using comma
    have bounded : Local smaller fun rest => (readCount ignoring rest).bind fun found =>
        found.1.bind fun most => some (some most, found.2) :=
      readCount_local.bind fun most => Local.given most fun most => Local.pure _
    have brace : ∀ rest more : List Char, '\n' ∉ more →
        ((rest ++ ')' :: more).head? == some '\x7d') = (rest.head? == some '\x7d') := by
      intro rest more _
      cases rest <;> rfl
    have either : Local smaller fun rest : List Char =>
        if rest.head? == some '\x7d' then some (none, rest)
        else (readCount ignoring rest).bind fun found =>
          found.1.bind fun most => some (some most, found.2) :=
      Local.test brace (Local.pure none) bounded
    refine Local.skipping ignoring ?_ either
    intro rest skipped behind
    rw [readMost, behind]
    cases skipped with
    | nil => rfl
    | cons char more =>
      by_cases closing : char = '\x7d'
      · subst closing
        rfl
      · simp [closing]

/-- The end of the bounds of a repetition. -/
def closeBounds (least : Nat) (most : Option Nat) (rest : List Char) :
    Option ((Nat × Option Nat) × List Char) := do
  let rest ← after? ['\x7d'] rest
  if most.any (· < least) then none else some ((least, most), rest)

/-- The end of the bounds of a repetition is read locally. -/
theorem closeBounds_local (least : Nat) (most : Option Nat) :
    Local size (closeBounds least most) := by
  apply Local.head rfl
  intro char smaller _
  by_cases brace : char = '\x7d'
  · subst brace
    exact Local.ite Local.refuse (Local.pure _)
  · simpa [closeBounds, after?, Ne.symm brace] using Local.refuse

/-- The bounds of a repetition are a count, another one behind a comma, and a brace. -/
theorem readBounds_eq (rest : List Char) : readBounds ignoring rest =
    (readCount ignoring (skip ignoring rest)).bind fun found =>
      found.1.bind fun least => (readMost ignoring least found.2).bind fun later =>
        closeBounds least later.1 later.2 := by
  unfold readBounds
  cases readCount ignoring (skip ignoring rest) with
  | none => rfl
  | some found =>
    obtain ⟨least, left⟩ := found
    cases least with
    | none => rfl
    | some least =>
      simp only [Option.bind_eq_bind, Option.bind_some]
      split
      · rename_i more
        split
        · rename_i brace
          simp only [readMost, brace]
          rfl
        · simp only [readMost]
          cases readCount ignoring (skip ignoring more) with
          | none => rfl
          | some found =>
            obtain ⟨most, behind⟩ := found
            cases most <;> rfl
      · rename_i plain
        have single : readMost ignoring least left = some (some least, left) := by
          unfold readMost
          split
          · exact absurd rfl (plain _)
          · rfl
        rw [single]
        rfl

/-- The bounds of a repetition are read locally. -/
theorem readBounds_local : Local size (readBounds ignoring) := by
  have bounds : Local size fun rest => (readCount ignoring rest).bind fun found =>
      found.1.bind fun least => (readMost ignoring least found.2).bind fun later =>
        closeBounds least later.1 later.2 :=
    readCount_local.bind fun least => Local.given least fun least =>
      (readMost_local least).bind fun most => closeBounds_local least most
  refine Local.skipping ignoring ?_ bounds
  intro rest skipped behind
  rw [readBounds_eq, behind]

/-- A question mark is read locally. -/
theorem skipPreference_local {α : Type} (value : α) :
    Local size fun rest => some (value, skipPreference rest) := by
  apply Local.front (· == '?') rfl _ (Local.pure value)
  · intro rest miss
    unfold skipPreference
    split
    · simp at miss
    · rfl
  · intro char mark smaller _
    obtain rfl : char = '?' := by simpa using mark
    exact Local.pure value

/-- The characters at which a step of reading does something of its own. -/
def stepMarks : List Char := ['(', ')', '|', '[', '?', '*', '+', '\x7b', '\\', '.', '^', '$']

/-- All other characters stand for themselves. -/
theorem step_literal (reader : Reader) {char : Char} (plain : char ∉ stepMarks) (rest : List Char) :
    reader.step char rest = some (reader.add (.literal ⟨char, false⟩), rest) := by
  simp only [stepMarks, List.mem_cons, List.not_mem_nil, or_false, not_or] at plain
  unfold Reader.step
  split <;> simp_all

/-- A repetition mark is read locally. -/
theorem repeatLast_local (reader : Reader) (least : Nat) (most : Option Nat) :
    Local size fun rest => (reader.repeatLast least most).bind fun next =>
      some (next, skipPreference rest) :=
  Local.given _ fun next => skipPreference_local next

/-- A step of reading, if the end of the text does not count as a name in braces. -/
def looseStep (reader : Reader) (char : Char) (rest : List Char) : Option (Reader × List Char) :=
  if char = '\\' then
    (looseEscape reader.ignoring rest).bind fun found =>
      some (reader.add (escapeTree found.1), found.2)
  else reader.step char rest

/-- A step of reading is local. -/
theorem looseStep_local (reader : Reader) (char : Char) : Local size (looseStep reader char) := by
  by_cases plain : char ∉ stepMarks
  · have literal : ∀ rest, looseStep reader char rest =
        some (reader.add (.literal ⟨char, false⟩), rest) := by
      intro rest
      have unescaped : char ≠ '\\' := fun same => plain (same ▸ by decide)
      rw [looseStep, if_neg unescaped, step_literal reader plain]
    exact (Local.pure _).congr literal
  · simp only [stepMarks, List.mem_cons, List.not_mem_nil, or_false, not_not] at plain
    rcases plain with rfl | rfl | rfl | rfl | rfl | rfl | rfl | rfl | rfl | rfl | rfl | rfl
    · have opening : Local size fun rest => (readOpeningParenthesis rest).bind fun found =>
          (reader.opening found.1).bind fun next => some (next, found.2) :=
        readOpeningParenthesis_local.bind fun opening =>
          Local.given (reader.opening opening) fun next => Local.pure next
      exact Local.skipping reader.ignoring (fun _ _ behind => by subst behind; rfl) opening
    · exact Local.given reader.leave fun next => Local.pure _
    · exact Local.pure reader.branch
    · have set : Local size fun rest => ((readSet reader.ignoring rest).map
          fun found => ((found.1, found.2.1), found.2.2)).bind fun found =>
            some (reader.add (.bracketed found.1.1 found.1.2), found.2) :=
        readSet_local.bind fun set => Local.pure (reader.add (.bracketed set.1 set.2))
      refine set.congr fun rest => ?_
      rw [Option.bind_map]
      rfl
    · exact repeatLast_local reader 0 (some 1)
    · exact repeatLast_local reader 0 none
    · exact repeatLast_local reader 1 none
    · exact readBounds_local.bind fun bounds => Local.given (reader.repeatLast bounds.1 bounds.2)
        fun next => Local.skipping reader.ignoring (fun _ _ behind => by subst behind; rfl)
          (skipPreference_local next)
    · exact looseEscape_local.bind fun escape => Local.pure (reader.add (escapeTree escape))
    · exact Local.pure (reader.add .dot)
    · exact Local.pure (reader.add (.assertion .lineStart))
    · exact Local.pure (reader.add (.assertion .lineEnd))

end OriginServer.Pattern

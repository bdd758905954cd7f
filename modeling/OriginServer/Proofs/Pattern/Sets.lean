import OriginServer.Proofs.Pattern.Escapes

/-!
# Sets in brackets are read locally

A set goes on to its closing bracket, whatever stands before that, so inside it a closing
parenthesis is a member like any other: `readSet_local` says that a set is either complete before
the parenthesis or runs over it. A set that ends with the text in the middle of a range is refused
at once, and one that ends behind a member only at the next step. `looseRange` leaves both to the
next step, which makes it local and does not change what is read of a set.
-/
namespace OriginServer.Pattern

variable {size : Nat} {ignoring : Bool}

/-- A text without a closing parenthesis begins a text whether or not one follows it. -/
theorem isPrefixOf_closed {start : List Char} (clean : ')' ∉ start) (rest more : List Char) :
    start.isPrefixOf (rest ++ ')' :: more) = start.isPrefixOf rest := by
  induction start generalizing rest with
  | nil => cases rest <;> rfl
  | cons char start ih =>
    simp only [List.mem_cons, not_or] at clean
    cases rest with
    | nil => simp [List.isPrefixOf, Ne.symm clean.1]
    | cons next rest => simp [List.isPrefixOf, ih clean.2]

/-- Looking for a text at the front does not depend on a closing parenthesis behind. -/
theorem after?_closed {start : List Char} (clean : ')' ∉ start) (rest more : List Char) :
    after? start (rest ++ ')' :: more) = (after? start rest).map (· ++ ')' :: more) := by
  unfold after?
  rw [isPrefixOf_closed clean]
  split
  · rename_i begins
    have short : start.length ≤ rest.length := (List.isPrefixOf_iff_prefix.mp begins).length_le
    simp [List.drop_append_of_le_length short]
  · rfl

/-- What follows a text at the front is the end of the text. -/
theorem after?_suffix {start rest left : List Char} (found : after? start rest = some left) :
    left <:+ rest := by
  unfold after? at found
  split at found
  · cases found
    exact List.drop_suffix _ _
  · cases found

/-- No class has a closing parenthesis in its name. -/
theorem asciiClass?_closed {name : List Char} (inside : ')' ∈ name) :
    asciiClass? (String.ofList name) = none := by
  cases found : asciiClass? (String.ofList name) with
  | none => rfl
  | some kind =>
    have inside : ')' ∈ (String.ofList name).toList := by simpa using inside
    generalize String.ofList name = text at found inside
    unfold asciiClass? at found
    split at found
    all_goals first | simp at inside | cases found

/-- The class with the name that stands before a colon. -/
def classNamed? (negated : Bool) (rest : List Char) : Option (SetTree × List Char) := do
  let kind ← asciiClass? (String.ofList (rest.takeWhile (· != ':')))
  let rest ← after? [':', ']'] (rest.dropWhile (· != ':'))
  some (.ascii negated kind, rest)

/-- The name of a class does not reach over a closing parenthesis. -/
theorem classNamed?_closed (negated : Bool) (rest more : List Char) :
    classNamed? negated (rest ++ ')' :: more) =
      (classNamed? negated rest).map fun found => (found.1, found.2 ++ ')' :: more) := by
  by_cases colon : ':' ∈ rest
  · obtain ⟨name, left, rfl, clean⟩ := List.eq_append_cons_of_mem colon
    have inside : ∀ char ∈ name, (char != ':') = true := by
      intro char member
      simp only [bne_iff_ne, ne_eq]
      rintro rfl
      exact clean member
    have stop : ∀ later, (name ++ ':' :: later).takeWhile (· != ':') = name ∧
        (name ++ ':' :: later).dropWhile (· != ':') = ':' :: later := by
      intro later
      rw [List.takeWhile_append_of_pos inside, List.dropWhile_append_of_pos inside]
      simp
    have behind : name ++ ':' :: left ++ ')' :: more = name ++ ':' :: (left ++ ')' :: more) := by
      simp
    unfold classNamed?
    rw [behind, (stop _).1, (stop _).2, (stop left).1, (stop left).2, ← List.cons_append,
      after?_closed (by decide)]
    cases asciiClass? (String.ofList name) with
    | none => rfl
    | some kind => cases after? [':', ']'] (':' :: left) <;> rfl
  · have inside : ∀ char ∈ rest, (char != ':') = true := by
      intro char member
      simp only [bne_iff_ne, ne_eq]
      rintro rfl
      exact colon member
    have alone : classNamed? negated rest = none := by
      have nothing : (rest ++ []).dropWhile (· != ':') = [] := List.dropWhile_append_of_pos inside
      rw [List.append_nil] at nothing
      unfold classNamed?
      rw [nothing]
      cases asciiClass? (String.ofList (rest.takeWhile (· != ':'))) <;> rfl
    have reaches : ')' ∈ (rest ++ ')' :: more).takeWhile (· != ':') := by
      rw [List.takeWhile_append_of_pos inside]
      simp
    rw [alone]
    unfold classNamed?
    rw [asciiClass?_closed reaches]
    rfl

/-- A class between colons does not reach over a closing parenthesis. -/
theorem readAsciiClass?_closed (rest more : List Char) :
    readAsciiClass? (rest ++ ')' :: more) =
      (readAsciiClass? rest).map fun found => (found.1, found.2 ++ ')' :: more) := by
  unfold readAsciiClass?
  rw [after?_closed (by decide)]
  cases after? [':'] rest with
  | none => rfl
  | some inner =>
    cases inner with
    | nil => exact classNamed?_closed false [] more
    | cons char inner =>
      by_cases caret : char = '^'
      · subst caret
        exact classNamed?_closed true inner more
      · have plain := classNamed?_closed false (char :: inner) more
        simpa [classNamed?, caret] using plain

/-- What follows a class between colons is the end of the text. -/
theorem readAsciiClass?_suffix {rest left : List Char} {item : SetTree}
    (found : readAsciiClass? rest = some (item, left)) : left <:+ rest := by
  obtain ⟨inner, begun, found⟩ := Option.bind_eq_some_iff.mp found
  have start : inner <:+ rest := after?_suffix begun
  have named : ∀ negated name, classNamed? negated name = some (item, left) → left <:+ name := by
    intro negated name found
    obtain ⟨kind, -, found⟩ := Option.bind_eq_some_iff.mp found
    obtain ⟨behind, ended, found⟩ := Option.bind_eq_some_iff.mp found
    cases found
    exact (after?_suffix ended).trans (List.dropWhile_suffix _)
  cases inner with
  | nil => exact (named false [] found).trans start
  | cons char inner =>
    by_cases caret : char = '^'
    · subst caret
      exact ((named true inner found).trans (List.suffix_cons _ _)).trans start
    · refine (named false (char :: inner) ?_).trans start
      simpa [classNamed?, caret] using found

/-- An operation is told by its two characters. -/
theorem readOperation?_closed (char : Char) (rest more : List Char) :
    readOperation? char (rest ++ ')' :: more) =
      (readOperation? char rest).map fun found => (found.1, found.2 ++ ')' :: more) := by
  unfold readOperation?
  by_cases closing : char = ')'
  · subst closing
    rfl
  · rw [after?_closed (by simpa using Ne.symm closing)]
    cases setOperation? char with
    | none => rfl
    | some kind => cases after? [char] rest <;> rfl

/-- What follows an operation is the end of the text. -/
theorem readOperation?_suffix {char : Char} {rest left : List Char} {kind : SetOperation}
    (found : readOperation? char rest = some (kind, left)) : left <:+ rest := by
  unfold readOperation? at found
  cases operation : setOperation? char with
  | none => simp [operation] at found
  | some kind =>
    cases begun : after? [char] rest with
    | none => simp [operation, begun] at found
    | some behind =>
      simp only [operation, begun, Option.bind_eq_bind, Option.bind_some, Option.some.injEq,
        Prod.mk.injEq] at found
      rw [← found.2]
      exact after?_suffix begun

/-- Hyphens at the front are read locally. -/
theorem readHyphens_local (set : OpenSet) :
    Local size fun rest => some (readHyphens ignoring set rest) := by
  induction size using Nat.strong_induction_on generalizing set with
  | _ size ih =>
    apply Local.front (· == '-') rfl _ (Local.pure set)
    · intro rest miss
      rw [readHyphens]
      rintro more rfl
      simp at miss
    · intro char hyphen smaller less
      obtain rfl : char = '-' := by simpa using hyphen
      refine Local.skipping ignoring ?_ (ih smaller less (set.add (.literal ⟨'-', false⟩)))
      intro rest skipped behind
      rw [readHyphens, behind]

/-- A closing bracket right after the beginning of a set stands for itself. -/
def takeBracket (ignoring : Bool) (found : OpenSet × List Char) : OpenSet × List Char :=
  match found.2 with
  | ']' :: more =>
    if found.1.items.isEmpty then (found.1.add (.literal ⟨']', false⟩), skip ignoring more)
    else found
  | _ => found

/-- A closing bracket right after the beginning of a set is read locally. -/
theorem takeBracket_local (opened : OpenSet) :
    Local size fun rest => some (takeBracket ignoring (opened, rest)) := by
  by_cases first : opened.items.isEmpty
  · apply Local.front (· == ']') rfl _ (Local.pure opened)
    · intro rest miss
      unfold takeBracket
      split
      · simp_all
      · rfl
    · intro char bracket smaller _
      obtain rfl : char = ']' := by simpa using bracket
      have literal : Local smaller fun rest =>
          some (opened.add (.literal ⟨']', false⟩), rest) := Local.pure _
      refine Local.skipping ignoring ?_ literal
      intro rest skipped behind
      simp only [takeBracket, first, ↓reduceIte, behind]
  · have plain : ∀ rest, takeBracket ignoring (opened, rest) = (opened, rest) := by
      intro rest
      unfold takeBracket
      split
      · rw [if_neg first]
      · rfl
    simpa only [plain] using Local.pure opened

/-- The beginning of a set after its caret. -/
def openFrom (ignoring negated : Bool) (rest : List Char) : OpenSet × List Char :=
  takeBracket ignoring (readHyphens ignoring ⟨negated, none, []⟩ rest)

/-- The beginning of a set after its caret is read locally. -/
theorem openFrom_local (negated : Bool) :
    Local size fun rest => some (openFrom ignoring negated rest) :=
  Local.andThen (fun found => some (takeBracket ignoring found)) (readHyphens_local _)
    takeBracket_local

/-- The beginning of a set, at a character that counts. -/
def openingFrom (ignoring : Bool) : List Char → OpenSet × List Char
  | '^' :: rest => openFrom ignoring true (skip ignoring rest)
  | rest => openFrom ignoring false rest

/-- The beginning of a set is read at the first character that counts. -/
theorem readOpening_eq (rest : List Char) :
    readOpening ignoring rest = openingFrom ignoring (skip ignoring rest) := by
  rw [readOpening]
  cases skip ignoring rest with
  | nil => rfl
  | cons char more =>
    by_cases caret : char = '^'
    · subst caret
      rfl
    · simp only [openingFrom, List.cons.injEq, caret, false_and, imp_false, not_false_eq_true,
        implies_true]
      rfl

/-- The beginning of a set is read locally. -/
theorem readOpening_local : Local size fun rest => some (readOpening ignoring rest) := by
  have caret : ∀ rest skipped, skip ignoring rest = skipped →
      some (readOpening ignoring rest) = some (openingFrom ignoring skipped) := by
    intro rest skipped behind
    rw [readOpening_eq, behind]
  apply Local.skipping ignoring caret
  apply Local.front (· == '^') rfl _ (openFrom_local false)
  · intro rest miss
    unfold openingFrom
    split
    · simp at miss
    · rfl
  · intro char caret smaller _
    obtain rfl : char = '^' := by simpa using caret
    have opened : Local smaller fun rest => some (openFrom ignoring true rest) :=
      openFrom_local true
    refine Local.skipping ignoring ?_ opened
    intro rest skipped behind
    simp only [openingFrom, behind]

/-- A character that is no blank stands at the front of a text only if no blank does. -/
theorem head?_blank {rest : List Char} {next : Char} (solid : Text.isBlank next = false)
    (front : rest.head? = some next) : rest.dropWhile Text.isBlank = rest := by
  cases rest with
  | nil => rfl
  | cons char rest =>
    obtain rfl : char = next := by simpa using front
    simp [solid]

/-- The next character that counts is found before a closing parenthesis. -/
theorem peek_closed (ignoring : Bool) {next : Char} (other : next ≠ ')') (counts : next ≠ '#')
    (solid : Text.isBlank next = false) (rest more : List Char) :
    peek ignoring (rest ++ ')' :: more) = some next ↔ peek ignoring rest = some next := by
  cases ignoring with
  | false => cases rest <;> simp [peek, Ne.symm other]
  | true =>
    have fresh : rest.dropWhile Text.isBlank = [] ∨
        (∃ later, rest.dropWhile Text.isBlank = '#' :: later) → rest.head? ≠ some next := by
      intro unlike front
      rw [head?_blank solid front] at unlike
      rcases unlike with rfl | ⟨later, rfl⟩
      · simp at front
      · simp [Ne.symm counts] at front
    simp only [peek, dropWhile_closed, Bool.not_true, Bool.false_eq_true, ↓reduceIte]
    cases first : rest.dropWhile Text.isBlank with
    | nil => simpa [Ne.symm other] using fresh (.inl first)
    | cons char later =>
      by_cases comment : char = '#'
      · subst comment
        simp only [List.cons_append, dropWhile_closed]
        cases later.dropWhile Text.isBlank with
        | nil => simpa [Ne.symm other] using fresh (.inr ⟨later, first⟩)
        | cons char later => simp
      · simp [comment]

/-- Whether a hyphen at the front makes a range. -/
def beginsRange (ignoring : Bool) : List Char → Bool
  | '-' :: more => peek ignoring more != some ']' && peek ignoring more != some '-'
  | _ => false

/-- A member of a set, if the end of the text does not count as a name in braces. -/
def looseMember (ignoring : Bool) (char : Char) (rest : List Char) : Option (Escape × List Char) :=
  if char = '\\' then looseEscape ignoring rest else some (.literal ⟨char, false⟩, rest)

/-- The end of a range, at its hyphen. -/
def rangeEnd (ignoring : Bool) (first : Escape) : List Char → Option (SetTree × List Char)
  | '-' :: more =>
    match skip ignoring more with
    | [] => none
    | char :: rest => do
      let (last, rest) ← looseMember ignoring char rest
      some (← memberRange? first last, rest)
  | _ => none

/-- What a member of a set begins: a range, if a hyphen follows. -/
def memberOrRange (ignoring : Bool) (first : Escape) (rest : List Char) :
    Option (SetTree × List Char) :=
  if beginsRange ignoring rest then rangeEnd ignoring first rest
  else do some (← memberSet? first, rest)

/-- A member of a set or a range of two, if a set may end with the text. -/
def looseRange (ignoring : Bool) (char : Char) (rest : List Char) :
    Option (SetTree × List Char) := do
  let (first, rest) ← looseMember ignoring char rest
  memberOrRange ignoring first (skip ignoring rest)

/-- Members of sets are read locally. -/
theorem looseMember_local (char : Char) : Local size (looseMember ignoring char) :=
  Local.ite looseEscape_local (Local.pure _)

/-- The end of a range is read locally. -/
theorem rangeEnd_local (first : Escape) : Local size (rangeEnd ignoring first) := by
  apply Local.head rfl
  intro char smaller _
  by_cases hyphen : char = '-'
  · subst hyphen
    apply Local.skipping ignoring
    · intro rest skipped behind
      rw [rangeEnd, behind]
    · apply Local.head rfl
      intro char smallest _
      exact (looseMember_local char).bind fun last => Local.given _ fun range => Local.pure _
  · simpa [rangeEnd, hyphen] using Local.refuse

/-- Members and ranges are read locally. -/
theorem looseRange_local (char : Char) : Local size (looseRange ignoring char) := by
  have same : ∀ rest more, '\n' ∉ more →
      beginsRange ignoring (rest ++ ')' :: more) = beginsRange ignoring rest := by
    intro rest more _
    cases rest with
    | nil => rfl
    | cons char rest =>
      by_cases hyphen : char = '-'
      · subst hyphen
        have bracket : peek ignoring (rest ++ ')' :: more) = some ']' ↔
            peek ignoring rest = some ']' :=
          peek_closed ignoring (by decide) (by decide) (by decide) rest more
        have hyphen : peek ignoring (rest ++ ')' :: more) = some '-' ↔
            peek ignoring rest = some '-' :=
          peek_closed ignoring (by decide) (by decide) (by decide) rest more
        rw [Bool.eq_iff_iff]
        simp [beginsRange, bracket, hyphen]
      · simp [beginsRange, hyphen]
  have later : ∀ first, Local size (memberOrRange ignoring first) := fun first =>
    Local.test same (rangeEnd_local first) (Local.given _ fun item => Local.pure _)
  exact (looseMember_local char).bind fun first =>
    Local.skipping ignoring (fun _ _ behind => by rw [← behind]) (later first)

/-- Only a brace that stands before the end of the text makes a difference to a member. -/
theorem readMember_loose (ignoring : Bool) (char : Char) (rest : List Char) :
    readMember ignoring char rest = looseMember ignoring char rest ∨
      readMember ignoring char rest = none ∧ ∃ inner,
        looseMember ignoring char rest = some (.assertion .wordBoundary, '\x7b' :: inner) := by
  unfold readMember looseMember
  split
  · rcases readEscape_loose ignoring rest with same | ⟨refused, inner, -, read⟩
    · exact .inl same
    · exact .inr ⟨refused, inner, read⟩
  · exact .inl rfl

/-- Only the end of the text makes a difference to a member or a range. -/
theorem readRange_loose (ignoring : Bool) (char : Char) (rest : List Char) :
    readRange ignoring char rest = looseRange ignoring char rest ∨
      readRange ignoring char rest = none ∧
        ∃ item, looseRange ignoring char rest = some (item, []) := by
  unfold readRange looseRange
  rcases readMember_loose ignoring char rest with same | ⟨refused, inner, read⟩
  · rw [same]
    cases looseMember ignoring char rest with
    | none => exact .inl rfl
    | some found =>
      obtain ⟨first, left⟩ := found
      simp only [Option.bind_eq_bind, Option.bind_some, memberOrRange]
      split
      · rename_i behind
        rw [behind]
        cases member : memberSet? first with
        | none => exact .inl (by simp [beginsRange])
        | some item => exact .inr ⟨rfl, item, by simp [beginsRange]⟩
      · rename_i more behind
        rw [behind]
        refine .inl ?_
        by_cases closes : peek ignoring more = some ']' || peek ignoring more = some '-'
        · have single : beginsRange ignoring ('-' :: more) = false := by
            simpa [beginsRange, or_iff_not_imp_left] using closes
          rw [if_pos closes, single]
          rfl
        · have ranges : beginsRange ignoring ('-' :: more) = true := by
            simpa [beginsRange] using closes
          rw [if_neg closes, if_pos ranges, rangeEnd]
          cases skip ignoring more with
          | nil => rfl
          | cons char later =>
            dsimp only
            rcases readMember_loose ignoring char later with same | ⟨refused, inner, read⟩
            · rw [same]
              rfl
            · rw [refused, read]
              cases first <;> rfl
      · rename_i filled plain
        refine .inl ?_
        have single : beginsRange ignoring (skip ignoring left) = false := by
          unfold beginsRange
          split
          · rename_i more front
            exact absurd front (plain more)
          · rfl
        rw [if_neg (by simp [single])]
  · have brace : skip ignoring ('\x7b' :: inner) = '\x7b' :: inner := by
      cases ignoring <;> rfl
    refine .inl ?_
    rw [refused, read]
    simp [memberOrRange, brace, beginsRange, memberSet?]

/-- Reading on in the open sets, with what is read kept apart from what is left. -/
def setFrom (ignoring : Bool) (current : OpenSet) (outer : List OpenSet) (rest : List Char) :
    Option ((Bool × SetTree) × List Char) :=
  (readSetFrom ignoring current outer rest).map fun found => ((found.1, found.2.1), found.2.2)

/-- Reading on in the open sets, one step taken. -/
def setStep (ignoring : Bool) (current : OpenSet) (outer : List OpenSet) (char : Char)
    (rest : List Char) : Option ((Bool × SetTree) × List Char) :=
  if char = '[' then
    (readAsciiClass? rest).elim
      (setFrom ignoring (readOpening ignoring rest).1 (current :: outer)
        (readOpening ignoring rest).2)
      fun found => setFrom ignoring (current.add found.1) outer found.2
  else if char = ']' then
    match outer with
    | [] => some ((current.negated, current.content), rest)
    | parent :: outer =>
      setFrom ignoring (parent.add (.bracketed current.negated current.content)) outer rest
  else
    (readOperation? char rest).elim
      ((looseRange ignoring char rest).bind fun found =>
        setFrom ignoring (current.add found.1) outer found.2)
      fun found => setFrom ignoring (current.operate found.1) outer found.2

/-- Nothing is read in a set at the end of the text. -/
theorem setFrom_nil (current : OpenSet) (outer : List OpenSet) :
    setFrom ignoring current outer [] = none := by
  unfold setFrom
  rw [readSetFrom]
  cases ignoring <;> rfl

/-- Reading on in the open sets at a character that counts. -/
theorem setFrom_cons (current : OpenSet) (outer : List OpenSet) {rest more : List Char}
    {char : Char} (behind : skip ignoring rest = char :: more) :
    setFrom ignoring current outer rest =
      match stepSet ignoring current outer char more with
      | none => none
      | some (.complete negated content left) => some ((negated, content), left)
      | some (.going next outers left) =>
        if left.length ≤ more.length then setFrom ignoring next outers left else none := by
  unfold setFrom
  rw [readSetFrom]
  split
  · simp_all
  · rename_i found
    obtain ⟨rfl, rfl⟩ : char = _ ∧ more = _ := by simpa [behind] using found
    cases stepSet ignoring current outer char more with
    | none => rfl
    | some progress =>
      cases progress with
      | complete negated content left => rfl
      | going next outers left =>
        dsimp only
        split <;> rfl

/-- Reading on in the open sets goes step by step. -/
theorem setFrom_eq (current : OpenSet) (outer : List OpenSet) (rest : List Char) :
    setFrom ignoring current outer rest = match skip ignoring rest with
      | [] => none
      | char :: more => setStep ignoring current outer char more := by
  cases behind : skip ignoring rest with
  | nil =>
    unfold setFrom
    rw [readSetFrom]
    split <;> simp_all
  | cons char more =>
    rw [setFrom_cons current outer behind]
    dsimp only
    unfold stepSet setStep
    by_cases opening : char = '['
    · rw [if_pos opening, if_pos opening]
      cases found : readAsciiClass? more with
      | none =>
        have inside : (readOpening ignoring more).2.length ≤ more.length :=
          ((readOpening_local).shrinks more _ _ (Nat.le_refl _) rfl).length_le
        simp [inside]
      | some item =>
        have inside : item.2.length ≤ more.length := (readAsciiClass?_suffix found).length_le
        simp [inside]
    · rw [if_neg opening, if_neg opening]
      by_cases closing : char = ']'
      · rw [if_pos closing, if_pos closing]
        cases outer <;> simp
      · rw [if_neg closing, if_neg closing]
        cases found : readOperation? char more with
        | some operation =>
          have inside : operation.2.length ≤ more.length :=
            (readOperation?_suffix found).length_le
          simp [inside]
        | none =>
          rcases readRange_loose ignoring char more with same | ⟨refused, last, read⟩
          · rw [same]
            cases item : looseRange ignoring char more with
            | none => rfl
            | some taken =>
              have inside : taken.2.length ≤ more.length :=
                ((looseRange_local char).shrinks more _ _ (Nat.le_refl _) item).length_le
              simp [inside]
          · rw [refused, read]
            exact (setFrom_nil _ _).symm

/-- Sets are read locally up to their end. -/
theorem setFrom_local (current : OpenSet) (outer : List OpenSet) :
    Local size (setFrom ignoring current outer) := by
  induction size using Nat.strong_induction_on generalizing current outer with
  | _ size ih =>
    apply Local.skipping ignoring
    · intro rest skipped behind
      rw [setFrom_eq, behind]
    · apply Local.head rfl
      intro char smaller less
      have going := ih smaller less
      refine Local.ite ?_ (Local.ite ?_ ?_)
      · refine Local.choose (fun _ _ _ => readAsciiClass?_suffix) readAsciiClass?_closed
          (fun item => going (current.add item) outer) ?_
        exact Local.andThen
          (fun found => setFrom ignoring found.1 (current :: outer) found.2) readOpening_local
          fun opened => going _ _
      · cases outer with
        | nil => exact Local.pure _
        | cons parent outer => exact going _ _
      · refine Local.choose (fun _ _ _ => readOperation?_suffix) (readOperation?_closed char)
          (fun kind => going (current.operate kind) outer) ?_
        exact (looseRange_local char).bind fun item => going (current.add item) outer

/-- A set is read locally. -/
theorem readSet_local : Local size fun rest =>
    (readSet ignoring rest).map fun found => ((found.1, found.2.1), found.2.2) :=
  Local.andThen (fun found => setFrom ignoring found.1 [] found.2) readOpening_local
    fun opened => setFrom_local opened []

end OriginServer.Pattern

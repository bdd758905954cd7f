import OriginServer.Proofs.Pattern.Locality

/-!
# Escapes are read locally

Each reader of an escape is local, reader by reader in the order in which they call one another.
One of them is not as it stands: the letter of a word boundary refuses a brace with nothing but
blanks up to the end of the text, but takes one before a closing parenthesis for the next part of
the pattern. `looseEscape` takes it for that in both cases; `readEscape_loose` says where the two
differ, which is a place at which no pattern can be read on.
-/
namespace OriginServer.Pattern

variable {size : Nat} {ignoring : Bool}

/-- Hexadecimal digits are read locally. -/
theorem readDigits_local (number count : Nat) : Local size (readDigits ignoring number count) := by
  induction count generalizing number size with
  | zero =>
    have plain : readDigits ignoring number 0 = fun rest => some (number, rest) :=
      funext fun rest => by cases rest <;> rfl
    rw [plain]
    exact Local.pure number
  | succ count ih =>
    apply Local.head rfl
    intro char smaller _
    apply Local.given
    intro digit
    exact Local.skipping ignoring (fun rest skipped passed => by rw [passed]) (ih _)

/-- Reading on between braces, at a character that counts. -/
def bracedFrom (ignoring : Bool) (passed : List Char) : List Char → Option (List Char × List Char)
  | [] => none
  | char :: rest =>
    if char = '\x7d' then some (passed.reverse, rest)
    else readBraced ignoring (char :: passed) rest

/-- Reading between braces goes character by character. -/
theorem readBraced_eq (passed rest : List Char) :
    readBraced ignoring passed rest = bracedFrom ignoring passed (skip ignoring rest) := by
  rw [readBraced]
  split <;> simp_all [bracedFrom]

/-- The characters up to a closing brace are read locally. -/
theorem readBraced_local (passed : List Char) : Local size (readBraced ignoring passed) := by
  induction size using Nat.strong_induction_on generalizing passed with
  | _ size ih =>
    have step : ∀ rest skipped, skip ignoring rest = skipped →
        readBraced ignoring passed rest = bracedFrom ignoring passed skipped := by
      intro rest skipped behind
      rw [readBraced_eq, behind]
    refine Local.skipping ignoring step (Local.head rfl ?_)
    intro char smaller less
    exact Local.ite (Local.pure _) (ih smaller less _)

/-- The character that some hexadecimal digits number. -/
def readDigitsChar (ignoring : Bool) (count : Nat) (rest : List Char) :
    Option (Escape × List Char) := do
  let (number, rest) ← readDigits ignoring 0 count rest
  some (.literal ⟨← Text.charOfCode? number, count == 2⟩, rest)

/-- A character given by some digits is read locally. -/
theorem readDigitsChar_local (count : Nat) : Local size (readDigitsChar ignoring count) :=
  (readDigits_local 0 count).bind fun _ => Local.given _ fun _ => Local.pure _

/-- A character given by its number is read locally. -/
theorem readCharNumber_local {count : Nat} (positive : count ≠ 0) :
    Local size (readCharNumber ignoring count) := by
  apply Local.skipping ignoring
  · intro rest skipped behind
    rw [readCharNumber, behind]
  · apply Local.front (· == '\x7b') rfl _ (readDigitsChar_local count)
    · intro rest miss
      dsimp
      split
      · obtain ⟨less, rfl⟩ := Nat.exists_eq_succ_of_ne_zero positive
        rfl
      · simp at miss
      · rfl
    · intro char brace smaller _
      obtain rfl : char = '\x7b' := by simpa using brace
      exact (readBraced_local []).bind fun digits => Local.given _ fun number =>
        Local.given _ fun char =>
          Local.skipping ignoring (fun _ _ behind => by rw [behind]) (Local.pure _)

/-- A property is read locally. -/
theorem readProperty_local (negated : Bool) : Local size (readProperty ignoring negated) := by
  apply Local.skipping ignoring
  · intro rest skipped behind
    rw [readProperty, behind]
  · apply Local.head rfl
    intro char smaller _
    by_cases brace : char = '\x7b'
    · subst brace
      exact (readBraced_local []).bind fun name => Local.pure _
    · by_cases escape : char = '\\'
      · subst escape
        exact Local.refuse
      · have named : Local smaller fun rest =>
            some (Escape.property negated (.single [char]), rest) := Local.pure _
        refine Local.skipping ignoring ?_ named
        intro rest skipped behind
        simp only [behind]

/-- Letters and hyphens are read locally. -/
theorem readWord_local (passed : List Char) :
    Local size fun rest => some (readWord ignoring passed rest) := by
  induction size using Nat.strong_induction_on generalizing passed with
  | _ size ih =>
    apply Local.front (fun char => char.isAlpha || char = '-') (by decide) _
      (Local.pure passed.reverse)
    · intro rest miss
      cases rest with
      | nil => simp [readWord]
      | cons char rest =>
        rw [readWord]
        simp_all
    · intro char hit smaller less
      refine Local.skipping ignoring ?_ (ih smaller less (char :: passed))
      intro rest skipped behind
      rw [readWord]
      simp_all

/-- Whether a brace behind the letter of a word boundary begins a name. -/
def namesBoundary (ignoring : Bool) : List Char → Bool
  | '\x7b' :: inner => (skip ignoring inner).head?.any fun char => char.isAlpha || char = '-'
  | _ => false

/-- The escape after a backslash, if the end of the text does not count as a name in braces. -/
def looseEscape (ignoring : Bool) (rest : List Char) : Option (Escape × List Char) :=
  match rest with
  | 'b' :: more =>
    if namesBoundary ignoring more then readBoundary ignoring more
    else some (.assertion .wordBoundary, more)
  | _ => readEscape ignoring rest

/-- Most escapes are read whatever follows them. -/
theorem readEscape_plain {char : Char} (plain : char ∉ ['x', 'u', 'U', 'p', 'P', 'b'])
    (more : List Char) : readEscape ignoring (char :: more) =
      (readEscape ignoring [char]).map fun found => (found.1, more) := by
  simp only [List.mem_cons, List.not_mem_nil, or_false, not_or] at plain
  simp only [readEscape]
  split
  all_goals first | rfl | simp at plain | skip
  split <;> rfl

/-- The assertion of a word boundary with a name, if a closing brace follows the name. -/
def closeBoundary : List Char × List Char → Option (Escape × List Char)
  | (name, '\x7d' :: rest) => do some (.assertion (← boundaryKind? (String.ofList name)), rest)
  | _ => none

/-- The closing brace of a name is read locally. -/
theorem closeBoundary_local (name : List Char) :
    Local size fun left => closeBoundary (name, left) := by
  apply Local.head rfl
  intro char smaller _
  by_cases brace : char = '\x7d'
  · subst brace
    exact Local.given _ fun kind => Local.pure _
  · simpa [closeBoundary, brace] using Local.refuse

/-- Whether a word boundary has a name does not depend on a closing parenthesis behind. -/
theorem namesBoundary_closed {rest more : List Char} (line : '\n' ∉ more) :
    namesBoundary ignoring (rest ++ ')' :: more) = namesBoundary ignoring rest := by
  cases rest with
  | nil => rfl
  | cons char rest =>
    by_cases brace : char = '\x7b'
    · subst brace
      rcases skip_closed ignoring rest with kept | ⟨nothing, swallowed⟩
      · simp only [List.cons_append, namesBoundary, kept]
        cases skip ignoring rest <;> simp
      · simp only [List.cons_append, namesBoundary, nothing, swallowed more line]
    · simp [namesBoundary, brace]

/-- A word boundary has the name that stands between its braces. -/
theorem readBoundary_eq (rest : List Char) :
    (if namesBoundary ignoring ('\x7b' :: rest) then readBoundary ignoring ('\x7b' :: rest)
      else none) = closeBoundary (readWord ignoring [] (skip ignoring rest)) := by
  simp only [namesBoundary, readBoundary]
  cases skip ignoring rest with
  | nil => simp [readWord, closeBoundary]
  | cons char more =>
    by_cases letter : char.isAlpha || char = '-'
    · simp only [List.head?_cons, Option.any_some, letter, ↓reduceIte]
      rfl
    · have nameless : readWord ignoring [] (char :: more) = ([], char :: more) := by
        rw [readWord, if_neg letter]
        rfl
      rw [List.head?_cons, Option.any_some, if_neg letter, nameless]
      by_cases brace : char = '\x7d'
      · subst brace
        rfl
      · simp [closeBoundary, brace]

/-- A word boundary with a name is read locally. -/
theorem readBoundary_named : Local size fun more =>
    if namesBoundary ignoring more then readBoundary ignoring more else none := by
  apply Local.head rfl
  intro char smaller _
  by_cases brace : char = '\x7b'
  · subst brace
    have name : Local smaller fun inner => closeBoundary (readWord ignoring [] inner) :=
      Local.andThen closeBoundary (readWord_local []) closeBoundary_local
    refine Local.skipping ignoring ?_ name
    intro rest skipped behind
    rw [readBoundary_eq, behind]
  · have other : ∀ more, namesBoundary ignoring (char :: more) = false := by
      intro more
      simp [namesBoundary, brace]
    simpa [other] using Local.refuse

/-- A word boundary is read locally. -/
theorem looseBoundary_local : Local size fun more =>
    if namesBoundary ignoring more then readBoundary ignoring more
    else some (Escape.assertion .wordBoundary, more) := by
  have either : Local size fun more => if namesBoundary ignoring more then
      (if namesBoundary ignoring more then readBoundary ignoring more else none)
      else some (Escape.assertion .wordBoundary, more) :=
    Local.test (fun _ _ line => namesBoundary_closed line) readBoundary_named (Local.pure _)
  refine either.congr fun more => ?_
  cases namesBoundary ignoring more <;> rfl

/-- Escapes are read locally. -/
theorem looseEscape_local : Local size (looseEscape ignoring) := by
  apply Local.head rfl
  intro char smaller _
  by_cases special : char ∈ ['x', 'u', 'U', 'p', 'P', 'b']
  · simp only [List.mem_cons, List.not_mem_nil, or_false] at special
    rcases special with rfl | rfl | rfl | rfl | rfl | rfl
    · exact readCharNumber_local (by decide)
    · exact readCharNumber_local (by decide)
    · exact readCharNumber_local (by decide)
    · exact readProperty_local false
    · exact readProperty_local true
    · exact looseBoundary_local
  · have plain : ∀ more, looseEscape ignoring (char :: more) =
        (readEscape ignoring [char]).map fun found => (found.1, more) := by
      intro more
      rw [← readEscape_plain special more]
      unfold looseEscape
      split
      · simp_all
      · rfl
    simp only [plain]
    cases readEscape ignoring [char] with
    | none => exact Local.refuse
    | some found => exact Local.pure found.1

/-- Only a brace that stands before the end of the text makes a difference to an escape. -/
theorem readEscape_loose (ignoring : Bool) (rest : List Char) :
    readEscape ignoring rest = looseEscape ignoring rest ∨
      readEscape ignoring rest = none ∧ ∃ inner, skip ignoring inner = [] ∧
        looseEscape ignoring rest = some (.assertion .wordBoundary, '\x7b' :: inner) := by
  unfold looseEscape
  split
  · rename_i more
    by_cases named : namesBoundary ignoring more
    · exact .inl (by rw [if_pos named]; rfl)
    · rw [if_neg named]
      cases more with
      | nil => exact .inl rfl
      | cons char inner =>
        by_cases brace : char = '\x7b'
        · subst brace
          cases behind : skip ignoring inner with
          | nil =>
            refine .inr ⟨?_, inner, behind, rfl⟩
            simp only [readEscape, readBoundary, behind]
          | cons next later =>
            have nameless : ¬(next.isAlpha || next = '-') = true := by
              simpa [namesBoundary, behind] using named
            refine .inl ?_
            simp only [readEscape, readBoundary, behind]
            rw [if_neg nameless]
        · refine .inl ?_
          simp [readEscape, readBoundary, brace]
  · exact .inl rfl

end OriginServer.Pattern

import OriginServer.Pattern.Reader
import Mathlib.Data.List.Infix

/-!
# Reading before a closing parenthesis

Every part of a pattern is read by a reader that takes characters from the front. What a reader
makes of a text is compared here with what it makes of the same text before a closing parenthesis.
It can leave the parenthesis where it is, it can pass over it as part of a comment that reaches the
end of the text, or it can need more than the text, and then it has read beyond the parenthesis if
it comes to an end at all (`Agree`). A reader for which that is so of every text is `Local`, and the
combinators from which readers are made keep that.
-/
namespace OriginServer.Pattern

variable {α β : Type} {size : Nat} {ignoring : Bool}

/-- What is read of a text alone, and of the text with a closing parenthesis and more behind it. -/
inductive Agree (fits : List Char → Prop) (alone : Option (α × List Char))
    (closed : List Char → Option (α × List Char)) : Prop where
  /-- The parenthesis is not reached. -/
  | kept (value : α) (left : List Char) : alone = some (value, left) →
    (∀ more, fits more → closed more = some (value, left ++ ')' :: more)) → Agree fits alone closed
  /-- The parenthesis stands in a comment. -/
  | swallowed (value : α) : alone = some (value, []) →
    (∀ more, fits more → closed more = some (value, [])) → Agree fits alone closed
  /-- The text alone is not complete, and reading does not stop before the parenthesis. -/
  | lost : alone = none →
    (∀ more value later, fits more → closed more = some (value, later) → later <:+ more) →
      Agree fits alone closed

/-- Agreement for some endings is agreement for fewer of them. -/
theorem Agree.mono {fits fits' : List Char → Prop} {alone : Option (α × List Char)}
    {closed : List Char → Option (α × List Char)} (agree : Agree fits alone closed)
    (fewer : ∀ more, fits' more → fits more) : Agree fits' alone closed := by
  cases agree with
  | kept value left read same => exact .kept value left read fun more fit => same more (fewer _ fit)
  | swallowed value read same => exact .swallowed value read fun more fit => same more (fewer _ fit)
  | lost read past =>
    exact .lost read fun more value later fit => past more value later (fewer _ fit)

/-- Agreement only looks at the endings that fit. -/
theorem Agree.congr {fits : List Char → Prop} {alone : Option (α × List Char)}
    {closed closed' : List Char → Option (α × List Char)} (agree : Agree fits alone closed)
    (same : ∀ more, fits more → closed' more = closed more) : Agree fits alone closed' := by
  cases agree with
  | kept value left read kept =>
    exact .kept value left read fun more fit => (same more fit).trans (kept more fit)
  | swallowed value read kept =>
    exact .swallowed value read fun more fit => (same more fit).trans (kept more fit)
  | lost read past =>
    exact .lost read fun more value later fit done =>
      past more value later fit ((same more fit).symm.trans done)

/-- What may stand behind the parenthesis: the end of a line would end a comment, and the whole has
to stay within a size. -/
def Fits (size : Nat) (rest more : List Char) : Prop :=
  '\n' ∉ more ∧ rest.length + more.length < size

/-- A reader that takes characters from the front and does not look beyond a closing parenthesis
that it does not read, for texts up to a size. -/
structure Local (size : Nat) (read : List Char → Option (α × List Char)) : Prop where
  /-- What is left stands at the end of the text. -/
  shrinks : ∀ rest value left, rest.length ≤ size → read rest = some (value, left) → left <:+ rest
  /-- A text is read alike alone and before a parenthesis. -/
  agrees : ∀ rest, rest.length ≤ size →
    Agree (Fits size rest) (read rest) fun more => read (rest ++ ')' :: more)

namespace Local

/-- Refusing everything is local. -/
theorem refuse : Local size fun _ : List Char => (none : Option (α × List Char)) where
  shrinks := by simp
  agrees rest _ := .lost rfl (by simp)

/-- Reading nothing is local. -/
theorem pure (value : α) : Local size fun rest => some (value, rest) where
  shrinks := by
    intro rest value' left _ read
    simp only [Option.some.injEq, Prod.mk.injEq] at read
    rw [read.2]
  agrees rest _ := .kept value rest rfl fun _ _ => rfl

/-- A reader that agrees with a local one is local. -/
theorem congr {read read' : List Char → Option (α × List Char)} (inner : Local size read)
    (same : ∀ rest, read' rest = read rest) : Local size read' := by
  obtain rfl : read' = read := funext same
  exact inner

/-- One reader after another. -/
theorem bind {read : List Char → Option (α × List Char)}
    {next : α × List Char → Option (β × List Char)} (first : Local size read)
    (second : ∀ value, Local size fun left => next (value, left)) :
    Local size fun rest => read rest >>= next where
  shrinks := by
    intro rest value left small done
    obtain ⟨⟨found, middle⟩, begun, ended⟩ := Option.bind_eq_some_iff.mp done
    have inside : middle <:+ rest := first.shrinks rest found middle small begun
    have short : middle.length ≤ size := inside.length_le.trans small
    exact ((second found).shrinks middle value left short ended).trans inside
  agrees := by
    intro rest small
    cases first.agrees rest small with
    | kept found middle begun same =>
      have inside : middle.length ≤ rest.length :=
        (first.shrinks rest found middle small begun).length_le
      have fewer : ∀ more, Fits size rest more → Fits size middle more :=
        fun more fit => ⟨fit.1, by have := fit.2; omega⟩
      cases (second found).agrees middle (inside.trans small) with
      | kept value left ended alike =>
        refine .kept value left (by simp [begun, ended]) fun more fit => ?_
        simpa [same more fit] using alike more (fewer more fit)
      | swallowed value ended alike =>
        refine .swallowed value (by simp [begun, ended]) fun more fit => ?_
        simpa [same more fit] using alike more (fewer more fit)
      | lost ended past =>
        refine .lost (by simp [begun, ended]) fun more value later fit done => ?_
        rw [same more fit] at done
        exact past more value later (fewer more fit) done
    | swallowed found begun same =>
      cases ended : next (found, []) with
      | none =>
        refine .lost (by simp [begun, ended]) fun more value later fit done => ?_
        rw [same more fit] at done
        simp [ended] at done
      | some reached =>
        obtain ⟨value, left⟩ := reached
        have nothing : left = [] :=
          List.suffix_nil.mp ((second found).shrinks [] value left (Nat.zero_le _) ended)
        subst nothing
        refine .swallowed value (by simp [begun, ended]) fun more fit => ?_
        simp [same more fit, ended]
    | lost begun past =>
      refine .lost (by simp [begun]) fun more value later fit done => ?_
      obtain ⟨⟨found, middle⟩, long, ended⟩ := Option.bind_eq_some_iff.mp done
      have inside : middle <:+ more := past more found middle fit long
      have short : middle.length ≤ size := inside.length_le.trans (by have := fit.2; omega)
      exact ((second found).shrinks middle value later short ended).trans inside

/-- A reader that cannot fail, and another after it. -/
theorem andThen {read : List Char → α × List Char}
    (next : α × List Char → Option (β × List Char))
    (first : Local size fun rest => some (read rest))
    (second : ∀ value, Local size fun left => next (value, left)) :
    Local size fun rest => next (read rest) :=
  bind first second

/-- A value that does not come from the text, if there is one, and a reader after it. -/
theorem given (value : Option α) {next : α → List Char → Option (β × List Char)}
    (second : ∀ value, Local size (next value)) :
    Local size fun rest => value >>= fun value => next value rest := by
  cases value with
  | none => exact refuse
  | some value => exact second value

/-- What a reader leaves that takes one character first. -/
theorem shrinks_cons {read : List Char → Option (α × List Char)} {char : Char}
    {rest left : List Char} {value : α} (inside : rest.length < size)
    (below : ∀ smaller < size, Local smaller fun more => read (char :: more))
    (done : read (char :: rest) = some (value, left)) : left <:+ char :: rest := by
  have after : left <:+ rest :=
    (below rest.length inside).shrinks rest value left (Nat.le_refl _) done
  exact after.trans (List.suffix_cons char rest)

/-- A reader that takes one character first reads on alike alone and before a parenthesis. -/
theorem agrees_cons {read : List Char → Option (α × List Char)} {char : Char} {rest : List Char}
    (inside : rest.length < size)
    (below : ∀ smaller < size, Local smaller fun more => read (char :: more)) :
    Agree (Fits size (char :: rest)) (read (char :: rest))
      fun more => read (char :: rest ++ ')' :: more) := by
  have agree := (below (size - 1) (by omega)).agrees rest (by omega)
  refine agree.mono fun more fit => ⟨fit.1, ?_⟩
  have small := fit.2
  rw [List.length_cons] at small
  omega

/-- A reader that takes one character first and refuses the end of the text. -/
theorem head {read : List Char → Option (α × List Char)} (empty : read [] = none)
    (cons : ∀ char, ∀ smaller < size, Local smaller fun more => read (char :: more)) :
    Local size read where
  shrinks := by
    intro rest value left small done
    cases rest with
    | nil => simp [empty] at done
    | cons char rest => exact shrinks_cons small (cons char) done
  agrees := by
    intro rest small
    cases rest with
    | nil =>
      refine .lost empty fun more value later fit done => ?_
      have short : more.length < size := by simpa using fit.2
      exact (cons ')' more.length short).shrinks more value later (Nat.le_refl _) done
    | cons char rest => exact agrees_cons small (cons char)

/-- A reader that goes one way at some characters and another way at all others and at the end of
the text. -/
theorem front (hits : Char → Bool) {read miss : List Char → Option (α × List Char)}
    (closing : hits ')' = false)
    (hit : ∀ char, hits char = true →
      ∀ smaller < size, Local smaller fun more => read (char :: more))
    (other : Local size miss)
    (missed : ∀ rest, rest.head?.any hits = false → read rest = miss rest) :
    Local size read where
  shrinks := by
    intro rest value left small done
    cases front : rest.head?.any hits with
    | false => exact other.shrinks rest value left small (missed rest front ▸ done)
    | true =>
      cases rest with
      | nil => simp at front
      | cons char rest => exact shrinks_cons small (hit char (by simpa using front)) done
  agrees := by
    intro rest small
    cases front : rest.head?.any hits with
    | false =>
      have behind : ∀ more, read (rest ++ ')' :: more) = miss (rest ++ ')' :: more) := by
        intro more
        apply missed
        cases rest with
        | nil => simpa using closing
        | cons char rest => simpa using front
      rw [missed rest front]
      simp only [behind]
      exact other.agrees rest small
    | true =>
      cases rest with
      | nil => simp at front
      | cons char rest => exact agrees_cons small (hit char (by simpa using front))

/-- A choice between two readers by a test that a closing parenthesis does not change. -/
theorem test {yes no : List Char → Option (α × List Char)} {holds : List Char → Bool}
    (same : ∀ rest more, '\n' ∉ more → holds (rest ++ ')' :: more) = holds rest)
    (accepted : Local size yes) (rejected : Local size no) :
    Local size fun rest => if holds rest then yes rest else no rest where
  shrinks := by
    intro rest value left small done
    by_cases test : holds rest
    · exact accepted.shrinks rest value left small (by simpa [test] using done)
    · exact rejected.shrinks rest value left small (by simpa [test] using done)
  agrees := by
    intro rest small
    by_cases test : holds rest
    · simp only [test, ↓reduceIte]
      refine (accepted.agrees rest small).congr fun more fit => ?_
      simp [same rest more fit.1, test]
    · simp only [test, Bool.false_eq_true, ↓reduceIte]
      refine (rejected.agrees rest small).congr fun more fit => ?_
      simp [same rest more fit.1, test]

/-- A choice between two readers that does not depend on the text. -/
theorem ite {choice : Prop} [Decidable choice] {yes no : List Char → Option (α × List Char)}
    (accepted : Local size yes) (rejected : Local size no) :
    Local size fun rest => if choice then yes rest else no rest := by
  by_cases chosen : choice
  · simpa only [chosen, ↓reduceIte] using accepted
  · simpa only [chosen, ↓reduceIte] using rejected

/-- A choice between what an exact reader found and another reader. -/
theorem choose {read : List Char → Option (α × List Char)}
    {yes : α × List Char → Option (β × List Char)} {no : List Char → Option (β × List Char)}
    (inside : ∀ rest value left, read rest = some (value, left) → left <:+ rest)
    (exact : ∀ rest more, read (rest ++ ')' :: more) =
      (read rest).map fun found => (found.1, found.2 ++ ')' :: more))
    (found : ∀ value, Local size fun left => yes (value, left)) (other : Local size no) :
    Local size fun rest => (read rest).elim (no rest) yes where
  shrinks := by
    intro rest value left small done
    cases begun : read rest with
    | none => exact other.shrinks rest value left small (by simpa [begun] using done)
    | some reached =>
      have after := inside rest reached.1 reached.2 begun
      have short : reached.2.length ≤ size := after.length_le.trans small
      have done : yes (reached.1, reached.2) = some (value, left) := by simpa [begun] using done
      exact ((found reached.1).shrinks reached.2 value left short done).trans after
  agrees := by
    intro rest small
    cases begun : read rest with
    | none => simpa [exact, begun] using other.agrees rest small
    | some reached =>
      have after := (inside rest reached.1 reached.2 begun).length_le
      have agree := (found reached.1).agrees reached.2 (after.trans small)
      simp only [exact, begun, Option.map_some, Option.elim_some]
      refine agree.mono fun more fit => ⟨fit.1, ?_⟩
      have := fit.2
      omega

end Local

/-- A comment that no line end closes takes in the rest of the text. -/
theorem skipIgnored_comment {more : List Char} (line : '\n' ∉ more) :
    skipIgnored true more = [] := by
  induction more with
  | nil => rfl
  | cons char more ih =>
    simp only [List.mem_cons, not_or] at line
    have inside : (char != '\n') = true := by simpa using Ne.symm line.1
    simp only [skipIgnored, inside, ↓reduceIte]
    exact ih line.2

/-- Passing over blanks and comments stops at a closing parenthesis, unless it stands in a
comment. -/
theorem skipIgnored_closed (inComment : Bool) (rest : List Char) :
    (∀ more, skipIgnored inComment (rest ++ ')' :: more) =
        skipIgnored inComment rest ++ ')' :: more) ∨
      (skipIgnored inComment rest = [] ∧
        ∀ more, '\n' ∉ more → skipIgnored inComment (rest ++ ')' :: more) = []) := by
  induction rest generalizing inComment with
  | nil =>
    cases inComment with
    | false => exact .inl fun more => by simp [skipIgnored, show Text.isBlank ')' = false by decide]
    | true =>
      refine .inr ⟨rfl, fun more line => ?_⟩
      simpa [skipIgnored] using skipIgnored_comment line
  | cons char rest ih =>
    simp only [List.cons_append, skipIgnored]
    split
    · exact ih _
    · split
      · exact ih _
      · split
        · exact ih _
        · exact .inl fun more => rfl

/-- Passing over blanks and comments stops at a closing parenthesis, unless it stands in a
comment. -/
theorem skip_closed (ignoring : Bool) (rest : List Char) :
    (∀ more, skip ignoring (rest ++ ')' :: more) = skip ignoring rest ++ ')' :: more) ∨
      (skip ignoring rest = [] ∧
        ∀ more, '\n' ∉ more → skip ignoring (rest ++ ')' :: more) = []) := by
  cases ignoring with
  | false => exact .inl fun more => rfl
  | true => exact skipIgnored_closed false rest

/-- Passing over blanks stops at a closing parenthesis. -/
theorem dropWhile_closed (rest more : List Char) :
    (rest ++ ')' :: more).dropWhile Text.isBlank =
      rest.dropWhile Text.isBlank ++ ')' :: more := by
  rw [List.dropWhile_append]
  split
  · rename_i blank
    simp [List.isEmpty_iff.mp blank, show Text.isBlank ')' = false by decide]
  · rfl

/-- What stands behind blanks and comments is the end of the text. -/
theorem skipIgnored_suffix (inComment : Bool) (rest : List Char) :
    skipIgnored inComment rest <:+ rest := by
  induction rest generalizing inComment with
  | nil => exact List.suffix_refl _
  | cons char rest ih =>
    simp only [skipIgnored]
    split
    · exact (ih _).trans (List.suffix_cons char rest)
    · split
      · exact (ih _).trans (List.suffix_cons char rest)
      · split
        · exact (ih _).trans (List.suffix_cons char rest)
        · exact List.suffix_refl _

/-- What stands behind blanks and comments is the end of the text. -/
theorem skip_suffix (ignoring : Bool) (rest : List Char) : skip ignoring rest <:+ rest := by
  cases ignoring with
  | false => exact List.suffix_refl _
  | true => exact skipIgnored_suffix false rest

namespace Local

/-- A reader behind blanks and comments. -/
theorem skipping (ignoring : Bool) {outer read : List Char → Option (α × List Char)}
    (through : ∀ rest skipped, skip ignoring rest = skipped → outer rest = read skipped)
    (inner : Local size read) : Local size outer where
  shrinks := by
    intro rest value left small done
    rw [through rest _ rfl] at done
    have short : (skip ignoring rest).length ≤ size := (length_skip_le ignoring rest).trans small
    exact (inner.shrinks _ value left short done).trans (skip_suffix ignoring rest)
  agrees := by
    intro rest small
    simp only [fun rest => through rest _ rfl]
    have short := length_skip_le ignoring rest
    rcases skip_closed ignoring rest with kept | ⟨nothing, swallowed⟩
    · simp only [kept]
      refine (inner.agrees _ (short.trans small)).mono fun more fit => ⟨fit.1, ?_⟩
      have := fit.2
      omega
    · rw [nothing]
      cases done : read [] with
      | none =>
        refine .lost rfl fun more value later fit closed => ?_
        rw [swallowed more fit.1, done] at closed
        cases closed
      | some reached =>
        have left : reached.2 = [] :=
          List.suffix_nil.mp (inner.shrinks [] reached.1 reached.2 (Nat.zero_le _) done)
        refine .swallowed reached.1 (by rw [← left]) fun more fit => ?_
        rw [swallowed more fit.1, done, ← left]

/-- A reader behind blanks. -/
theorem trimming {read : List Char → Option (α × List Char)} (inner : Local size read) :
    Local size fun rest => read (rest.dropWhile Text.isBlank) where
  shrinks := by
    intro rest value left small done
    have inside : rest.dropWhile Text.isBlank <:+ rest := List.dropWhile_suffix _
    exact (inner.shrinks _ value left (inside.length_le.trans small) done).trans inside
  agrees := by
    intro rest small
    have inside : (rest.dropWhile Text.isBlank).length ≤ rest.length :=
      (List.dropWhile_suffix _).length_le
    simp only [dropWhile_closed]
    refine (inner.agrees _ (inside.trans small)).mono fun more fit => ⟨fit.1, ?_⟩
    have := fit.2
    omega

end Local

end OriginServer.Pattern

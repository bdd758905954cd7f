import OriginServer.Text.Chars

/-!
# Texts in pieces

A text in lines, in words, or with blanks around it, said without the functions that take it apart:
`Lined`, `Worded` and `Trimmed`. There is one way to take a text apart, and the functions find it
(`lines_eq_iff`, `words_eq_iff`, `trim_eq_iff`, `cutAt?_eq_some_iff`). `Parted` says the same of
parts between marks, which no function takes apart here; texts that are put together with a mark
between each two are such parts (`parted_intercalate`).
-/
namespace OriginServer.Text

/-! ## Lines -/

/-- The end of a line. -/
def lineEnd : List Char := ['\r', '\n']

/-- A text consists of lines that hold no line end, with a line end between each two. -/
inductive Lined : List Char → List (List Char) → Prop where
  /-- A text without a line end is one line. -/
  | last {line : List Char} (whole : ¬lineEnd <:+: line) : Lined line [line]
  /-- A line stands before a line end and more lines. -/
  | next {line rest : List Char} {later : List (List Char)} (whole : ¬lineEnd <:+: line)
      (lined : Lined rest later) : Lined (line ++ lineEnd ++ rest) (line :: later)

/-- A character in front of a text without a line end makes one only together with the first
character of the text. -/
theorem lineEnd_infix_cons_iff {char : Char} {text : List Char} :
    lineEnd <:+: char :: text ↔ (char = '\r' ∧ text.head? = some '\n') ∨ lineEnd <:+: text := by
  rw [List.infix_cons_iff]
  refine or_congr_left ?_
  cases text with
  | nil => simp [lineEnd]
  | cons next rest => simp [lineEnd, eq_comm]

/-- A character that begins no line end belongs to the line. -/
theorem linesFrom_cons {char : Char} {rest : List Char}
    (inside : ¬(char = '\r' ∧ rest.head? = some '\n')) (passed : List Char) :
    linesFrom passed (char :: rest) = linesFrom (char :: passed) rest := by
  rw [linesFrom.eq_2]
  rintro later rfl rfl
  exact inside ⟨rfl, rfl⟩

/-- A line goes up to the first line end behind it. -/
theorem linesFrom_append {line : List Char} (whole : ¬lineEnd <:+: line) (passed rest : List Char) :
    linesFrom passed (line ++ lineEnd ++ rest) = (passed.reverse ++ line) :: linesFrom [] rest := by
  induction line generalizing passed with
  | nil => simp [lineEnd, linesFrom]
  | cons char line ih =>
    rw [lineEnd_infix_cons_iff, not_or] at whole
    have inside : ¬(char = '\r' ∧ (line ++ lineEnd ++ rest).head? = some '\n') := by
      rintro ⟨carriage, feed⟩
      cases line with
      | nil => simp [lineEnd] at feed
      | cons next line => exact whole.1 ⟨carriage, feed⟩
    rw [List.cons_append, List.cons_append, linesFrom_cons inside, ih whole.2]
    simp

/-- A text without a line end is one line. -/
theorem linesFrom_of_whole {line : List Char} (whole : ¬lineEnd <:+: line) (passed : List Char) :
    linesFrom passed line = [passed.reverse ++ line] := by
  induction line generalizing passed with
  | nil => simp [linesFrom]
  | cons char line ih =>
    rw [lineEnd_infix_cons_iff, not_or] at whole
    rw [linesFrom_cons whole.1, ih whole.2]
    simp

/-- What has been passed belongs to the first line. -/
theorem exists_lined_linesFrom (passed text : List Char) :
    ∃ first later, linesFrom passed text = (passed.reverse ++ first) :: later ∧
      Lined text (first :: later) := by
  have empty : ¬lineEnd <:+: [] := by simp [lineEnd]
  fun_induction linesFrom passed text with
  | case1 passed rest ih =>
    obtain ⟨first, later, found, lined⟩ := ih
    exact ⟨[], linesFrom [] rest, by simp, found ▸ .next empty lined⟩
  | case2 passed char rest noEnd ih =>
    obtain ⟨first, later, found, lined⟩ := ih
    refine ⟨char :: first, later, by simp [found], ?_⟩
    -- The character makes no line end with what follows it, so the first line just grows.
    have grown : ¬lineEnd <:+: first → (first.head? = some '\n' → rest.head? = some '\n') →
        ¬lineEnd <:+: char :: first := by
      intro whole begins
      rw [lineEnd_infix_cons_iff, not_or]
      refine ⟨fun ⟨carriage, feed⟩ => ?_, whole⟩
      obtain ⟨more, rfl⟩ := List.head?_eq_some_iff.mp (begins feed)
      exact noEnd more carriage rfl
    cases lined with
    | last whole => exact .last (grown whole id)
    | @next _ more _ whole lined =>
      refine .next (grown whole fun feed => ?_) lined
      obtain ⟨left, rfl⟩ := List.head?_eq_some_iff.mp feed
      rfl
  | case3 passed => exact ⟨[], [], by simp, .last empty⟩

/-- A text is taken apart into its lines. -/
theorem lines_eq_iff {text : List Char} {list : List (List Char)} :
    lines text = list ↔ Lined text list := by
  constructor
  · rintro rfl
    obtain ⟨first, later, found, lined⟩ := exists_lined_linesFrom [] text
    rwa [lines, found]
  · intro lined
    rw [lines]
    induction lined with
    | last whole => rw [linesFrom_of_whole whole, List.reverse_nil, List.nil_append]
    | next whole lined ih =>
      rw [linesFrom_append whole, ih, List.reverse_nil, List.nil_append]

/-- A text whose first line is empty begins with a line end, unless it ends there. -/
theorem Lined.lineEnd_prefix {text : List Char} {later : List (List Char)}
    (lined : Lined text ([] :: later)) : lineEnd <+: text ++ lineEnd := by
  cases lined with
  | last whole => exact List.prefix_rfl
  | @next _ rest _ whole lined => exact ⟨rest ++ lineEnd, by simp⟩

/-- An empty line behind another one stands between two line ends, or behind the last one. -/
theorem Lined.twice_infix {text : List Char} {lines : List (List Char)} (lined : Lined text lines)
    (empty : [] ∈ lines.tail) : lineEnd ++ lineEnd <:+: text ++ lineEnd := by
  induction lined with
  | last whole => cases empty
  | @next line rest later whole lined ih =>
    cases later with
    | nil => cases empty
    | cons second later =>
      rw [List.append_assoc, List.append_assoc]
      refine List.IsInfix.trans ?_ (List.suffix_append line _).isInfix
      cases empty with
      | head =>
        obtain ⟨after, begins⟩ := lined.lineEnd_prefix
        exact ⟨[], after, by simp [← begins]⟩
      | tail _ empty => exact (ih empty).trans (List.suffix_append lineEnd _).isInfix

/-! ## Parts -/

/-- A text consists of parts with a mark between each two: a part goes up to the first mark behind
it. -/
inductive Parted (mark : List Char) : List Char → List (List Char) → Prop where
  /-- A text without a mark is one part. -/
  | last {part : List Char} (whole : ¬mark <:+: part) : Parted mark part [part]
  /-- A part stands before the first mark, and more parts behind it. -/
  | next {text part rest : List Char} {later : List (List Char)} (cut : text = part ++ mark ++ rest)
      (first : ∀ before after, text = before ++ mark ++ after → part.length ≤ before.length)
      (parted : Parted mark rest later) : Parted mark text (part :: later)

/-- There is one way to take a text apart at a mark. -/
theorem Parted.unique {mark text : List Char} {parts others : List (List Char)}
    (parted : Parted mark text parts) (other : Parted mark text others) : parts = others := by
  induction parted generalizing others with
  | last whole =>
    cases other with
    | last _ => rfl
    | next cut _ _ => exact absurd ⟨_, _, cut.symm⟩ whole
  | @next text part rest later cut first parted ih =>
    cases other with
    | last whole => exact absurd ⟨part, rest, cut.symm⟩ whole
    | @next _ otherPart otherRest _ otherCut otherFirst otherParted =>
      have size := Nat.le_antisymm (first _ _ otherCut) (otherFirst _ _ cut)
      rw [otherCut, List.append_assoc, List.append_assoc] at cut
      obtain ⟨rfl, behind⟩ := List.append_inj cut size.symm
      obtain rfl := List.append_cancel_left behind
      rw [ih otherParted]

/-- Texts with a mark between each two are taken apart again, if none of them holds the first
character of the mark. -/
theorem parted_intercalate {first : Char} {rest : List Char} {texts : List (List Char)}
    (nonempty : texts ≠ []) (absent : ∀ text ∈ texts, first ∉ text) :
    Parted (first :: rest) ((first :: rest).intercalate texts) texts := by
  induction texts with
  | nil => exact absurd rfl nonempty
  | cons text texts ih =>
    rw [List.forall_mem_cons] at absent
    cases texts with
    | nil =>
      rw [List.intercalate_singleton]
      exact .last fun inside => absent.1 (inside.subset List.mem_cons_self)
    | cons next texts =>
      rw [List.intercalate_cons_cons]
      refine .next rfl (fun before after cut => ?_) (ih (by simp) absent.2)
      rw [List.append_assoc, List.append_assoc] at cut
      -- A mark that stood earlier would begin inside the first text.
      obtain ⟨gap, rfl, -⟩ | ⟨gap, rfl, behind⟩ := List.append_eq_append_iff.mp cut
      · simp
      · cases gap with
        | nil => simp
        | cons char gap =>
          obtain ⟨rfl, -⟩ := List.cons_eq_cons.mp behind
          simp at absent

/-! ## Words -/

/-- A text consists of words that hold no blank, with blanks between each two and perhaps around
them. -/
inductive Worded : List Char → List (List Char) → Prop where
  /-- There is no word in blanks. -/
  | none {text : List Char} (blank : ∀ char ∈ text, isBlank char = true) : Worded text []
  /-- A word stands between blanks, or between blanks and an end of the text. -/
  | next {gap word rest : List Char} {later : List (List Char)}
      (blank : ∀ char ∈ gap, isBlank char = true) (nonempty : word ≠ [])
      (solid : ∀ char ∈ word, isBlank char = false)
      (apart : ∀ char, rest.head? = some char → isBlank char = true) (worded : Worded rest later) :
      Worded (gap ++ word ++ rest) (word :: later)

/-- A blank in front of a text adds no word. -/
theorem words_cons {char : Char} (blank : isBlank char = true) (text : List Char) :
    words (char :: text) = words text := by
  simp [words, List.splitOnP_cons_eq_if_modifyHead, blank]

/-- Blanks in front of a text add no word. -/
theorem words_append_of_blank {gap : List Char} (blank : ∀ char ∈ gap, isBlank char = true)
    (text : List Char) : words (gap ++ text) = words text := by
  induction gap with
  | nil => rfl
  | cons char gap ih =>
    rw [List.forall_mem_cons] at blank
    rw [List.cons_append, words_cons blank.1, ih blank.2]

/-- There is no word in blanks. -/
theorem words_of_blank {text : List Char} (blank : ∀ char ∈ text, isBlank char = true) :
    words text = [] := by
  have nothing := words_append_of_blank blank []
  rw [List.append_nil] at nothing
  exact nothing

/-- A word in front of a text that begins with a blank is the first word. -/
theorem words_append_of_solid {word : List Char} (nonempty : word ≠ [])
    (solid : ∀ char ∈ word, isBlank char = false) {rest : List Char}
    (apart : ∀ char, rest.head? = some char → isBlank char = true) :
    words (word ++ rest) = word :: words rest := by
  cases rest with
  | nil => simp [words, List.splitOnP_eq_singleton solid, nonempty]
  | cons char rest =>
    have blank : isBlank char = true := apart char rfl
    rw [words_cons blank, words, List.splitOnP_append_cons_of_forall_mem solid char blank]
    simp [words, nonempty]

/-- A text is a beginning of characters of one kind and a rest that begins with none of them. -/
theorem exists_run (kind : Char → Bool) (text : List Char) :
    ∃ run rest, text = run ++ rest ∧ (∀ char ∈ run, kind char = true) ∧
      ∀ char, rest.head? = some char → kind char = false := by
  refine ⟨text.takeWhile kind, text.dropWhile kind, ?_, ?_, ?_⟩
  · rw [List.takeWhile_append_dropWhile]
  · exact List.all_eq_true.mp List.all_takeWhile
  · intro char first
    have stopped := List.head?_dropWhile_not kind text
    rw [first] at stopped
    simpa using stopped

/-- A text that does not begin with a blank begins with a word, unless it is empty. -/
theorem exists_word {text : List Char} (nonempty : text ≠ [])
    (begins : ∀ char, text.head? = some char → isBlank char = false) :
    ∃ word rest, text = word ++ rest ∧ word ≠ [] ∧ (∀ char ∈ word, isBlank char = false) ∧
      ∀ char, rest.head? = some char → isBlank char = true := by
  obtain ⟨word, rest, rfl, solid, stopped⟩ := exists_run (fun char => !isBlank char) text
  refine ⟨word, rest, rfl, ?_, by simpa using solid, by simpa using stopped⟩
  rintro rfl
  obtain ⟨char, more, rfl⟩ := List.exists_cons_of_ne_nil nonempty
  have blank := stopped char rfl
  simp [begins char rfl] at blank

/-- The words that are found stand in the text. -/
theorem worded_words (text : List Char) : Worded text (words text) := by
  -- Each word is followed by a shorter text.
  induction size : text.length using Nat.strongRecOn generalizing text with
  | ind size ih =>
    obtain ⟨gap, after, rfl, blank, begins⟩ := exists_run isBlank text
    by_cases empty : after = []
    · rw [empty, List.append_nil, words_of_blank blank]
      exact .none blank
    · obtain ⟨word, rest, rfl, nonempty, solid, apart⟩ := exists_word empty begins
      rw [words_append_of_blank blank, words_append_of_solid nonempty solid apart,
        ← List.append_assoc]
      refine .next blank nonempty solid apart (ih rest.length ?_ rest rfl)
      have positive := List.length_pos_iff.mpr nonempty
      simp only [List.length_append] at size
      omega

/-- A text is taken apart into its words. -/
theorem words_eq_iff {text : List Char} {list : List (List Char)} :
    words text = list ↔ Worded text list := by
  constructor
  · rintro rfl
    exact worded_words text
  · intro worded
    induction worded with
    | none blank => exact words_of_blank blank
    | next blank nonempty solid apart worded ih =>
      rw [List.append_assoc, words_append_of_blank blank,
        words_append_of_solid nonempty solid apart, ih]

/-! ## Blanks around a text -/

/-- A text stands between blanks and neither begins nor ends with one. -/
structure Trimmed (padded text : List Char) : Prop where
  /-- Only blanks stand around the text. -/
  around : ∃ before after, padded = before ++ text ++ after ∧
    (∀ char ∈ before, isBlank char = true) ∧ ∀ char ∈ after, isBlank char = true
  /-- The text begins with no blank. -/
  begins : ∀ char, text.head? = some char → isBlank char = false
  /-- The text ends with no blank. -/
  ends : ∀ char, text.getLast? = some char → isBlank char = false

/-- Blanks in front are dropped, up to the first character that is none. -/
theorem dropWhile_isBlank {before text : List Char} (blank : ∀ char ∈ before, isBlank char = true)
    (begins : ∀ char, text.head? = some char → isBlank char = false) :
    (before ++ text).dropWhile isBlank = text := by
  rw [List.dropWhile_append_of_pos blank]
  cases text with
  | nil => rfl
  | cons char rest => exact List.dropWhile_cons_of_neg (by simp [begins char rfl])

/-- The text that is found stands between blanks. -/
theorem trimmed_trim (padded : List Char) : Trimmed padded (trim padded) := by
  obtain ⟨before, text, rfl, blankBefore, begins⟩ := exists_run isBlank padded
  obtain ⟨after, core, reversed, blankAfter, ends⟩ := exists_run isBlank text.reverse
  obtain rfl : text = core.reverse ++ after.reverse := by
    rw [← List.reverse_append, ← reversed, List.reverse_reverse]
  have found : trim (before ++ (core.reverse ++ after.reverse)) = core.reverse := by
    rw [trim, dropWhile_isBlank blankBefore begins, reversed, dropWhile_isBlank blankAfter ends]
  rw [found]
  refine ⟨⟨before, after.reverse, by simp, blankBefore, by simpa using blankAfter⟩, ?_, ?_⟩
  · intro char first
    refine begins char ?_
    rw [List.head?_append, first, Option.some_or]
  · intro char last
    exact ends char (by rwa [List.getLast?_reverse] at last)

/-- A text is what stands between the blanks around it. -/
theorem trim_eq_iff {padded text : List Char} : trim padded = text ↔ Trimmed padded text := by
  constructor
  · rintro rfl
    exact trimmed_trim padded
  · rintro ⟨⟨before, after, rfl, blankBefore, blankAfter⟩, begins, ends⟩
    by_cases empty : text = []
    · subst empty
      have blank := List.forall_mem_append.mpr ⟨blankBefore, blankAfter⟩
      have nothing := dropWhile_isBlank blank begins
      simp only [List.append_nil] at nothing
      simp [trim, nothing]
    · have begun : ∀ char, (text ++ after).head? = some char → isBlank char = false := by
        intro char first
        obtain ⟨next, rest, rfl⟩ := List.exists_cons_of_ne_nil empty
        exact begins char first
      have ended : ∀ char, text.reverse.head? = some char → isBlank char = false := by
        simpa using ends
      have blankReversed : ∀ char ∈ after.reverse, isBlank char = true := by
        simpa using blankAfter
      rw [trim, List.append_assoc, dropWhile_isBlank blankBefore begun, List.reverse_append,
        dropWhile_isBlank blankReversed ended, List.reverse_reverse]

/-- A text that neither begins nor ends with a blank stands between no blanks. -/
theorem trim_of_solid {text : List Char}
    (begins : ∀ char, text.head? = some char → isBlank char = false)
    (ends : ∀ char, text.getLast? = some char → isBlank char = false) : trim text = text :=
  trim_eq_iff.mpr ⟨⟨[], [], by simp, by simp, by simp⟩, begins, ends⟩

/-! ## Cuts -/

/-- A text is cut at a mark where the mark stands first. -/
theorem cutAt?_eq_some_iff {mark : Char} {text before after : List Char} :
    cutAt? mark text = some (before, after) ↔ text = before ++ mark :: after ∧ mark ∉ before := by
  constructor
  · exact of_cutAt?
  · rintro ⟨rfl, absent⟩
    have other : ∀ char ∈ before, (char != mark) = true := by
      intro char inside
      rw [bne_iff_ne]
      rintro rfl
      exact absent inside
    simp [cutAt?, List.dropWhile_append_of_pos other, List.takeWhile_append_of_pos other]

/-- A text is not cut if it does not hold the mark. -/
theorem cutAt?_eq_none_iff {mark : Char} {text : List Char} :
    cutAt? mark text = none ↔ mark ∉ text := by
  constructor
  · intro uncut inside
    obtain ⟨before, after, rfl, absent⟩ := List.eq_append_cons_of_mem inside
    rw [cutAt?_eq_some_iff.mpr ⟨rfl, absent⟩] at uncut
    cases uncut
  · intro absent
    cases cut : cutAt? mark text with
    | none => rfl
    | some parts =>
      obtain ⟨rfl, -⟩ := of_cutAt? cut
      simp at absent

end OriginServer.Text

import Mathlib.Data.Nat.Bitwise
import OriginServer.Pattern.Search

/-!
# A search finds exactly the matches

The search keeps sets of places as numbers and never looks at one match alone. For expressions whose
bounds are in order, `Expr.testBit_advance` shows that a place belongs to the set that the search
arrives at exactly if some match leads to it from a place where the search began, and
`Expr.isFoundIn_iff` that a text is accepted exactly if there is a match somewhere in it.
-/
namespace OriginServer.Pattern

variable {text : List Char}

/-! ## Bits -/

/-- The bits of a number that is given by them. -/
theorem testBit_ofBits (bits : List Bool) (place : Nat) :
    (ofBits bits).testBit place = bits.getD place false := by
  induction bits generalizing place with
  | nil => simp [ofBits]
  | cons bit bits ih =>
    have folded : ofBits (bit :: bits) = 2 * ofBits bits + bit.toNat := rfl
    cases place with
    | zero => cases bit <;> simp [folded]
    | succ place =>
      have half : (2 * ofBits bits + bit.toNat) / 2 = ofBits bits := by cases bit <;> simp; omega
      rw [folded, Nat.testBit_succ, half, ih, List.getD_cons_succ]

/-- All places of a text are the places up to its length. -/
theorem testBit_allPlaces (place : Nat) :
    (allPlaces text).testBit place = decide (place ≤ text.length) := by
  unfold allPlaces
  rw [Nat.one_shiftLeft, Nat.testBit_two_pow_sub_one]
  exact decide_eq_decide.mpr Nat.lt_succ_iff

/-- A condition is looked up at every place of a text. -/
theorem getD_lookBits (look : Look) (before : Option Char) (rest : List Char) (place : Nat) :
    (lookBits look before rest).getD place false = (decide (place ≤ rest.length) &&
      look.holds (if place = 0 then before else rest[place - 1]?) rest[place]?) := by
  induction rest generalizing before place with
  | nil =>
    cases place with
    | zero => simp [lookBits]
    | succ place => simp [lookBits]
  | cons char rest ih =>
    cases place with
    | zero => simp [lookBits]
    | succ place =>
      rw [lookBits, List.getD_cons_succ, ih]
      cases place <;> simp

/-- The bits of the places where a condition holds. -/
theorem testBit_look (look : Look) (place : Nat) :
    (ofBits (lookBits look none text)).testBit place =
      (decide (place ≤ text.length) && look.holdsAt text place) := by
  rw [testBit_ofBits, getD_lookBits]
  rfl

/-- The bits of the places where a character of a set stands. -/
theorem testBit_chars (set : CharSet) (place : Nat) :
    (ofBits (text.map set.contains)).testBit place = text[place]?.any set.contains := by
  rw [testBit_ofBits]
  cases found : text[place]? <;> simp [List.getD, found]

/-! ## Matches in a row -/

/-- An expression matches a number of times in a row. -/
def Rounds (text : List Char) (body : Expr) : Nat → Nat → Nat → Prop
  | 0, start, stop => start = stop
  | count + 1, start, stop => ∃ middle, Matches text body start middle ∧
      Rounds text body count middle stop

/-- A match lies within the text. -/
theorem Matches.bounds {expr : Expr} {start stop : Nat} (found : Matches text expr start stop) :
    start ≤ stop ∧ stop ≤ text.length := by
  induction found with
  | empty inside => exact ⟨Nat.le_refl _, inside⟩
  | chars read _ =>
    obtain ⟨inside, _⟩ := List.getElem?_eq_some_iff.mp read
    exact ⟨Nat.le_succ _, inside⟩
  | look inside _ => exact ⟨Nat.le_refl _, inside⟩
  | cat _ _ first second => exact ⟨first.1.trans second.1, second.2⟩
  | left _ ih => exact ih
  | right _ ih => exact ih
  | done inside => exact ⟨Nat.le_refl _, inside⟩
  | again _ _ _ first later => exact ⟨first.1.trans later.1, later.2⟩
  | capture _ ih => exact ih

/-- One expression and then another match through a place between them. -/
theorem matches_cat {first second : Expr} {start stop : Nat} :
    Matches text (.cat first second) start stop ↔
      ∃ middle, Matches text first start middle ∧ Matches text second middle stop := by
  constructor
  · intro found
    cases found with
    | cat before after => exact ⟨_, before, after⟩
  · rintro ⟨middle, before, after⟩
    exact .cat before after

/-- Rounds after rounds are rounds. -/
theorem rounds_add {body : Expr} {first second start stop : Nat} :
    Rounds text body (first + second) start stop ↔
      ∃ middle, Rounds text body first start middle ∧ Rounds text body second middle stop := by
  induction first generalizing start with
  | zero => simp [Rounds]
  | succ first ih =>
    rw [Nat.succ_add]
    constructor
    · rintro ⟨middle, moved, later⟩
      obtain ⟨other, before, after⟩ := ih.mp later
      exact ⟨other, ⟨middle, moved, before⟩, after⟩
    · rintro ⟨other, ⟨middle, moved, before⟩, after⟩
      exact ⟨middle, moved, ih.mpr ⟨other, before, after⟩⟩

/-- Rounds lie within the text. -/
theorem Rounds.bounds {body : Expr} {count start stop : Nat}
    (rounds : Rounds text body count start stop) (inside : start ≤ text.length) :
    start ≤ stop ∧ stop ≤ text.length := by
  induction count generalizing start with
  | zero =>
    obtain rfl : start = stop := rounds
    exact ⟨Nat.le_refl _, inside⟩
  | succ count ih =>
    obtain ⟨middle, moved, later⟩ := rounds
    have rest := ih later moved.bounds.2
    exact ⟨moved.bounds.1.trans rest.1, rest.2⟩

/-- Rounds that do not move can be left out. -/
theorem Rounds.shorten {body : Expr} {count start stop : Nat}
    (rounds : Rounds text body count start stop) (inside : start ≤ text.length) :
    ∃ fewer, fewer ≤ stop - start ∧ Rounds text body fewer start stop := by
  induction count generalizing start with
  | zero =>
    obtain rfl : start = stop := rounds
    exact ⟨0, Nat.zero_le _, rfl⟩
  | succ count ih =>
    obtain ⟨middle, moved, later⟩ := rounds
    obtain ⟨fewer, few, rest⟩ := ih later moved.bounds.2
    have ahead := rest.bounds moved.bounds.2
    have before := moved.bounds
    by_cases still : middle = start
    · subst still
      exact ⟨fewer, few, rest⟩
    · exact ⟨fewer + 1, by omega, middle, moved, rest⟩

/-- A repetition matches by a number of rounds between its bounds. -/
theorem matches_many {body : Expr} {least : Nat} {most : Option Nat} {start stop : Nat} :
    Matches text (.many body least most) start stop ↔
      start ≤ text.length ∧ ∃ count, least ≤ count ∧ (∀ bound ∈ most, count ≤ bound) ∧
        Rounds text body count start stop := by
  constructor
  · intro found
    generalize same : Expr.many body least most = expr at found
    induction found generalizing least most with
    | done inside =>
      cases same
      exact ⟨inside, 0, Nat.le_refl _, fun _ _ => Nat.zero_le _, rfl⟩
    | again some_ moved _ _ ih =>
      cases same
      obtain ⟨-, count, enough, limited, rounds⟩ := ih rfl
      refine ⟨moved.bounds.1.trans moved.bounds.2, count + 1, by omega, ?_, _, moved, rounds⟩
      intro bound member
      have limit := limited (bound - 1) (Option.mem_map_of_mem _ member)
      have positive : bound ≠ 0 := fun zero => some_ (zero ▸ member)
      omega
    | _ => cases same
  · rintro ⟨inside, count, enough, limited, rounds⟩
    induction count generalizing start least most with
    | zero =>
      obtain rfl : start = stop := rounds
      obtain rfl : least = 0 := Nat.le_zero.mp enough
      exact .done inside
    | succ count ih =>
      obtain ⟨middle, moved, later⟩ := rounds
      refine .again ?_ moved (ih moved.bounds.2 (by omega) ?_ later)
      · rintro rfl
        exact absurd (limited 0 rfl) (by omega)
      · intro bound member
        obtain ⟨limit, known, rfl⟩ := Option.map_eq_some_iff.mp member
        have := limited limit known
        omega

/-- Rounds do not leave places that no single round leaves. -/
theorem Rounds.stays {body : Expr} {inner : Nat → Prop}
    (closed : ∀ start stop, inner start → Matches text body start stop → inner stop)
    {count start stop : Nat} (rounds : Rounds text body count start stop) (begun : inner start) :
    inner stop := by
  induction count generalizing start with
  | zero =>
    obtain rfl : start = stop := rounds
    exact begun
  | succ count ih =>
    obtain ⟨middle, moved, later⟩ := rounds
    exact ih later (closed start middle begun moved)

/-- The bounds of all repetitions are in order. -/
def Expr.Ordered : Expr → Prop
  | .cat first second => first.Ordered ∧ second.Ordered
  | .alt left right => left.Ordered ∧ right.Ordered
  | .many body least most => (∀ bound ∈ most, least ≤ bound) ∧ body.Ordered
  | .capture body => body.Ordered
  | _ => True

/-! ## Sets of places -/

/-- Places lie within a text. -/
def Within (text : List Char) (places : Nat) : Prop :=
  ∀ place, places.testBit place → place ≤ text.length

/-- A step of the search leads from some places to the places where matches of an expression end. -/
def Advances (text : List Char) (body : Expr) (step : Nat → Nat) : Prop :=
  ∀ places, Within text places → ∀ stop,
    (step places).testBit stop ↔ ∃ start, places.testBit start ∧ Matches text body start stop

section Steps

variable {body : Expr} {step : Nat → Nat} {places reached added : Nat}

/-- A step does not leave the text. -/
theorem Advances.within (advances : Advances text body step) (inside : Within text places) :
    Within text (step places) := by
  intro place reached
  obtain ⟨_, _, moved⟩ := (advances places inside place).mp reached
  exact moved.bounds.2

/-- Applying a step a number of times follows as many rounds. -/
theorem testBit_times (advances : Advances text body step) (count : Nat)
    (inside : Within text places) (stop : Nat) :
    (times step count places).testBit stop ↔
      ∃ start, places.testBit start ∧ Rounds text body count start stop := by
  induction count generalizing places with
  | zero => simp [times, Rounds]
  | succ count ih =>
    have unfolded : (∃ start, places.testBit start ∧ Rounds text body (count + 1) start stop) ↔
        ∃ middle, (step places).testBit middle ∧ Rounds text body count middle stop := by
      constructor
      · rintro ⟨start, begun, middle, moved, later⟩
        exact ⟨middle, (advances places inside middle).mpr ⟨start, begun, moved⟩, later⟩
      · rintro ⟨middle, reached, later⟩
        obtain ⟨start, begun, moved⟩ := (advances places inside middle).mp reached
        exact ⟨start, begun, middle, moved, later⟩
    rw [unfolded, times]
    split
    · rename_i still
      rw [still, ← ih inside]
      have stays : times step count places = places := by
        cases count with
        | zero => rfl
        | succ count => rw [times, if_pos still]
      rw [stays]
    · exact ih (advances.within inside)

/-- How far the places have spread that an expression leads to. -/
structure Spreading (text : List Char) (body : Expr) (reached added : Nat) : Prop where
  /-- The places that were reached lie within the text. -/
  inside : Within text reached
  /-- The places that were added last are among them. -/
  part : ∀ place, added.testBit place → reached.testBit place
  /-- From all the others matches lead to places that were reached. -/
  closed : ∀ start stop, reached.testBit start → added.testBit start = false →
    Matches text body start stop → reached.testBit stop

/-- At the beginning all places were added last. -/
theorem Spreading.start (inside : Within text places) : Spreading text body places places where
  inside := inside
  part := fun _ member => member
  closed := by
    intro start stop member new _
    rw [member] at new
    cases new

/-- The places that were added last lie within the text. -/
theorem Spreading.within (spreading : Spreading text body reached added) : Within text added :=
  fun place member => spreading.inside place (spreading.part place member)

/-- A step from the places that were added last reaches whatever a match leads to. -/
theorem Spreading.covers (spreading : Spreading text body reached added)
    (advances : Advances text body step) (start stop : Nat) (begun : reached.testBit start)
    (moved : Matches text body start stop) : (reached ||| step added).testBit stop := by
  rw [Nat.testBit_or, Bool.or_eq_true]
  cases new : added.testBit start with
  | false => exact .inl (spreading.closed start stop begun new moved)
  | true => exact .inr ((advances added spreading.within stop).mpr ⟨start, new, moved⟩)

/-- A step from the places that were added last goes on with what it adds itself. -/
theorem Spreading.next (spreading : Spreading text body reached added)
    (advances : Advances text body step) :
    Spreading text body (reached ||| step added) ((reached ||| step added) ^^^ reached) where
  inside := by
    intro place member
    rw [Nat.testBit_or, Bool.or_eq_true] at member
    rcases member with old | new
    · exact spreading.inside place old
    · exact advances.within spreading.within place new
  part := by
    intro place member
    rw [Nat.testBit_xor, Nat.testBit_or] at member
    rw [Nat.testBit_or]
    cases old : reached.testBit place with
    | true => rfl
    | false => simpa [old] using member
  closed := by
    intro start stop begun new moved
    apply spreading.covers advances start stop _ moved
    rw [Nat.testBit_xor, Nat.testBit_or] at new
    rw [Nat.testBit_or] at begun
    cases old : reached.testBit start with
    | true => rfl
    | false =>
      rw [old, Bool.false_or] at begun
      rw [old, begun] at new
      cases new

/-- What spreads from some places is what a limited number of rounds reaches. -/
theorem testBit_spread (advances : Advances text body step) (count : Nat)
    (spreading : Spreading text body reached added) (stop : Nat) :
    (spread step count reached added).testBit stop ↔
      ∃ rounds, rounds ≤ count ∧ ∃ start, reached.testBit start ∧
        Rounds text body rounds start stop := by
  induction count generalizing reached added with
  | zero =>
    constructor
    · intro found
      exact ⟨0, Nat.le_refl _, stop, found, rfl⟩
    · rintro ⟨rounds, few, start, begun, moved⟩
      obtain rfl : rounds = 0 := Nat.le_zero.mp few
      obtain rfl : start = stop := moved
      exact begun
  | succ count ih =>
    have covers := spreading.covers advances
    rw [spread]
    split
    · rename_i still
      rw [still] at covers
      constructor
      · intro found
        exact ⟨0, Nat.zero_le _, stop, found, rfl⟩
      · rintro ⟨rounds, -, start, begun, moved⟩
        exact moved.stays covers begun
    · rw [ih (spreading.next advances)]
      constructor
      · rintro ⟨rounds, few, start, begun, moved⟩
        rw [Nat.testBit_or, Bool.or_eq_true] at begun
        rcases begun with old | new
        · exact ⟨rounds, few.trans (Nat.le_succ _), start, old, moved⟩
        · obtain ⟨before, member, first⟩ := (advances added spreading.within start).mp new
          have later : Rounds text body (rounds + 1) before stop := ⟨start, first, moved⟩
          exact ⟨rounds + 1, Nat.succ_le_succ few, before, spreading.part before member, later⟩
      · rintro ⟨rounds, few, start, begun, moved⟩
        cases rounds with
        | zero => exact ⟨0, Nat.zero_le _, start, by simp [begun], moved⟩
        | succ rounds =>
          obtain ⟨middle, first, later⟩ := moved
          have further := covers start middle begun first
          exact ⟨rounds, Nat.le_of_succ_le_succ few, middle, further, later⟩

end Steps

/-! ## The steps of the search -/

/-- Staying where nothing is asked for. -/
theorem advances_empty : Advances text .empty (Plan.stay (allPlaces text)).advance := by
  intro places inside stop
  rw [Plan.advance, Nat.testBit_and, testBit_allPlaces]
  constructor
  · intro found
    simp only [Bool.and_eq_true, decide_eq_true_eq] at found
    exact ⟨stop, found.1, .empty found.2⟩
  · rintro ⟨start, begun, moved⟩
    cases moved with
    | empty within => simp [begun, within]

/-- Moving over a character of a set. -/
theorem advances_chars (set : CharSet) :
    Advances text (.chars set) (Plan.move (ofBits (text.map set.contains))).advance := by
  intro places inside stop
  rw [Plan.advance, Nat.testBit_shiftLeft, Nat.testBit_and, testBit_chars]
  constructor
  · intro found
    simp only [Bool.and_eq_true, decide_eq_true_eq] at found
    obtain ⟨char, read, member⟩ := (Option.any_eq_true ..).mp found.2.2
    have moved : Matches text (.chars set) (stop - 1) (stop - 1 + 1) := .chars read member
    rw [Nat.sub_add_cancel found.1] at moved
    exact ⟨stop - 1, found.2.1, moved⟩
  · rintro ⟨start, begun, moved⟩
    cases moved with
    | chars read member => simp [begun, read, member]

/-- Staying where a condition holds. -/
theorem advances_look (kind : Look) :
    Advances text (.look kind) (Plan.stay (ofBits (lookBits kind none text))).advance := by
  intro places inside stop
  rw [Plan.advance, Nat.testBit_and, testBit_look]
  constructor
  · intro found
    simp only [Bool.and_eq_true, decide_eq_true_eq] at found
    exact ⟨stop, found.1, .look found.2.1 found.2.2⟩
  · rintro ⟨start, begun, moved⟩
    cases moved with
    | look within holds => simp [begun, within, holds]

section Plans

variable {one two : Expr} {first second : Plan}

/-- One step and then another. -/
theorem Advances.cat (before : Advances text one first.advance)
    (after : Advances text two second.advance) :
    Advances text (.cat one two) (first.cat second).advance := by
  intro places inside stop
  rw [Plan.advance, after _ (before.within inside)]
  constructor
  · rintro ⟨middle, reached, later⟩
    obtain ⟨start, begun, moved⟩ := (before places inside middle).mp reached
    exact ⟨start, begun, .cat moved later⟩
  · rintro ⟨start, begun, moved⟩
    obtain ⟨middle, moved, later⟩ := matches_cat.mp moved
    exact ⟨middle, (before places inside middle).mpr ⟨start, begun, moved⟩, later⟩

/-- Either of two steps. -/
theorem Advances.alt (left : Advances text one first.advance)
    (right : Advances text two second.advance) :
    Advances text (.alt one two) (first.alt second).advance := by
  intro places inside stop
  rw [Plan.advance, Nat.testBit_or, Bool.or_eq_true, left places inside, right places inside]
  constructor
  · rintro (⟨start, begun, moved⟩ | ⟨start, begun, moved⟩)
    · exact ⟨start, begun, .left moved⟩
    · exact ⟨start, begun, .right moved⟩
  · rintro ⟨start, begun, moved⟩
    cases moved with
    | left moved => exact .inl ⟨start, begun, moved⟩
    | right moved => exact .inr ⟨start, begun, moved⟩

/-- A step several times in a row. Without a bound it is done at most once for each character, since
rounds that do not move can be left out. -/
theorem Advances.many {least : Nat} {most : Option Nat} (order : ∀ bound ∈ most, least ≤ bound)
    (advances : Advances text one first.advance) :
    Advances text (.many one least most)
      (first.many least ((most.map (· - least)).getD (text.length + 1))).advance := by
  intro places inside stop
  have begun := testBit_times advances least inside
  have within : Within text (times first.advance least places) := by
    intro place reached
    obtain ⟨start, member, rounds⟩ := (begun place).mp reached
    exact (rounds.bounds (inside start member)).2
  rw [Plan.advance, testBit_spread advances _ (.start within)]
  constructor
  · rintro ⟨more, few, middle, reached, later⟩
    obtain ⟨start, member, rounds⟩ := (begun middle).mp reached
    refine ⟨start, member, matches_many.mpr ⟨inside start member, least + more,
      Nat.le_add_right _ _, ?_, rounds_add.mpr ⟨middle, rounds, later⟩⟩⟩
    intro bound limit
    have room := order bound limit
    obtain rfl : most = some bound := limit
    simp only [Option.map_some, Option.getD_some] at few
    omega
  · rintro ⟨start, member, moved⟩
    obtain ⟨-, count, enough, limited, rounds⟩ := matches_many.mp moved
    obtain ⟨more, rfl⟩ := Nat.exists_eq_add_of_le enough
    obtain ⟨middle, before, after⟩ := rounds_add.mp rounds
    have reached := (begun middle).mpr ⟨start, member, before⟩
    cases most with
    | none =>
      obtain ⟨fewer, few, after⟩ := after.shorten (within middle reached)
      have ending := (after.bounds (within middle reached)).2
      refine ⟨fewer, ?_, middle, reached, after⟩
      simp only [Option.map_none, Option.getD_none]
      omega
    | some bound =>
      have limit := limited bound rfl
      refine ⟨more, ?_, middle, reached, after⟩
      simp only [Option.map_some, Option.getD_some]
      omega

/-- A group is passed as what it holds. -/
theorem Advances.capture (advances : Advances text one first.advance) :
    Advances text (.capture one) first.advance := by
  intro places inside stop
  rw [advances places inside]
  constructor
  · rintro ⟨start, begun, moved⟩
    exact ⟨start, begun, .capture moved⟩
  · rintro ⟨start, begun, moved⟩
    cases moved with
    | capture moved => exact ⟨start, begun, moved⟩

end Plans

/-- A search arrives at the places where matches end that begin where it began. -/
theorem Expr.testBit_advance {expr : Expr} (ordered : expr.Ordered) :
    Advances text expr (expr.plan text).advance := by
  induction expr with
  | empty => exact advances_empty
  | chars set => exact advances_chars set
  | look kind => exact advances_look kind
  | cat first second one two => exact (one ordered.1).cat (two ordered.2)
  | alt left right one two => exact (one ordered.1).alt (two ordered.2)
  | many body least most ih => exact .many ordered.1 (ih ordered.2)
  | capture body ih => exact (ih ordered).capture

/-- A text is accepted exactly if the expression matches somewhere in it. -/
theorem Expr.isFoundIn_iff {expr : Expr} (ordered : expr.Ordered) :
    expr.isFoundIn text = true ↔ ∃ start stop, Matches text expr start stop := by
  have inside : Within text (allPlaces text) := by
    intro place member
    simpa [testBit_allPlaces] using member
  have advance := testBit_advance ordered (allPlaces text) inside
  unfold Expr.isFoundIn
  constructor
  · intro found
    obtain ⟨stop, reached⟩ := Nat.exists_testBit_of_ne_zero (by simpa using found)
    obtain ⟨start, -, moved⟩ := (advance stop).mp reached
    exact ⟨start, stop, moved⟩
  · rintro ⟨start, stop, moved⟩
    have begun : (allPlaces text).testBit start = true := by
      simpa [testBit_allPlaces] using moved.bounds.1.trans moved.bounds.2
    have reached := (advance stop).mpr ⟨start, begun, moved⟩
    rw [bne_iff_ne]
    intro nothing
    rw [nothing, Nat.zero_testBit] at reached
    cases reached

end OriginServer.Pattern

import OriginServer.Proofs.Pattern.Anchors
import OriginServer.Routing.Filter

/-!
# Filters are anchored

A filter mapping puts its patterns between anchors as texts. `FilterMapping.spans_of_balanced` says
what that is worth: as long as no pattern closes a group that it did not open, a mapping is built
exactly if every pattern compiles by itself, does not end in a comment and leaves room for the
anchors, and it applies to a path only if its include pattern matches the whole path. A pattern that
does close such a group can take itself out of the anchors (`FilterMapping.exists_escaped_anchor`).
A mapping whose patterns compile by themselves decides by whole paths alone, for its include pattern
and for its exclude pattern alike (`FilterMapping.applies_iff_covers`).
-/
namespace OriginServer.FilterMapping

open Pattern

/-- The patterns of a mapping that was built are the given ones between anchors. -/
theorem compiled_of_build? {included filter : String} {excluded : Option String}
    {mapping : FilterMapping} (built : build? included excluded filter = some mapping) :
    compile? (anchored included) = some mapping.included ∧
      excluded.map (fun source => compile? (anchored source)) = mapping.excluded.map some := by
  obtain ⟨first, compiled, built⟩ := Option.bind_eq_some_iff.mp built
  cases excluded with
  | none =>
    cases built
    exact ⟨compiled, rfl⟩
  | some source =>
    obtain ⟨second, other, built⟩ := Option.bind_eq_some_iff.mp built
    cases built
    exact ⟨compiled, congrArg some other⟩

/-- A mapping applies only to paths that its include pattern covers, if that pattern closes no group
of others. -/
theorem spans_of_applies {included filter : String} {excluded : Option String}
    {mapping : FilterMapping} (balanced : ¬Overcloses included)
    (built : build? included excluded filter = some mapping) :
    ∃ pattern, compile? included = some pattern ∧ ∀ path, mapping.applies path = true →
      Matches path.toList pattern.expr 0 path.toList.length := by
  obtain ⟨compiled, -⟩ := compiled_of_build? built
  obtain ⟨pattern, own, -⟩ := (compile?_anchored balanced).mp compiled
  refine ⟨pattern, own, fun path applies => ?_⟩
  have found : mapping.included.isMatch path = true := (Bool.and_eq_true_iff.mp applies).1
  obtain ⟨same, alone, spans⟩ := (isMatch_anchored_iff (by rw [own]; rfl) compiled path).mp found
  rw [own] at alone
  cases alone
  exact spans

/-- A mapping is built exactly if all its patterns compile between anchors. -/
theorem isSome_build? (included : String) (excluded : Option String) (filter : String) :
    (build? included excluded filter).isSome = true ↔
      ∀ source ∈ included :: excluded.toList, (compile? (anchored source)).isSome = true := by
  unfold build?
  cases first : compile? (anchored included) with
  | none => simp [first]
  | some pattern =>
    cases excluded with
    | none => simp [first]
    | some excluded => cases second : compile? (anchored excluded) <;> simp [first, second]

/-- **As long as no pattern closes a group that it did not open, a mapping is built exactly if every
pattern compiles by itself, does not end in a comment and leaves room for the anchors; and it
applies to a path only if the include pattern by itself matches the whole path.** -/
theorem spans_of_balanced (included : String) (excluded : Option String) (filter : String)
    (balanced : ∀ source ∈ included :: excluded.toList, ¬Overcloses source) :
    ((build? included excluded filter).isSome = true ↔
      ∀ source ∈ included :: excluded.toList,
        (compile? source).isSome = true ∧ ¬EndsInComment source ∧ Roomy source) ∧
    ∀ mapping, build? included excluded filter = some mapping →
      ∃ pattern, compile? included = some pattern ∧ ∀ path, mapping.applies path = true →
        Matches path.toList pattern.expr 0 path.toList.length := by
  constructor
  · rw [isSome_build?]
    refine forall₂_congr fun source member => ?_
    simp only [Option.isSome_iff_exists, compile?_anchored (balanced source member)]
    constructor
    · rintro ⟨whole, pattern, own, ended, room, -⟩
      exact ⟨⟨pattern, own⟩, ended, room⟩
    · rintro ⟨⟨pattern, own⟩, ended, room⟩
      exact ⟨_, pattern, own, ended, room, rfl⟩
  · intro mapping built
    exact spans_of_applies (balanced included (List.mem_cons_self ..)) built

/-- One character matches where it stands. -/
theorem matches_char {text : List Char} {char : Char} {start stop : Nat} :
    Matches text (.chars (.singleton char)) start stop ↔
      text[start]? = some char ∧ stop = start + 1 := by
  have only : ∀ other : Char, (CharSet.singleton char).contains other = true ↔ other = char := by
    intro other
    rw [← Char.toNat_inj]
    simp only [CharSet.contains, CharSet.containsCode, CharSet.singleton, List.any_cons,
      List.any_nil, Bool.or_false, Bool.and_eq_true, decide_eq_true_eq]
    omega
  constructor
  · intro found
    cases found with
    | chars read member => exact ⟨(only _).mp member ▸ read, rfl⟩
  · rintro ⟨read, rfl⟩
    exact .chars read ((only char).mpr rfl)

/-- Two characters match a text as a whole only if it consists of them. -/
theorem eq_of_matches_pair {text : List Char} {first second : Char}
    (found : Matches text (.cat (.chars (.singleton first)) (.chars (.singleton second))) 0
      text.length) : text = [first, second] := by
  obtain ⟨middle, one, two⟩ := matches_cat.mp found
  obtain ⟨front, rfl⟩ := matches_char.mp one
  obtain ⟨back, length⟩ := matches_char.mp two
  obtain ⟨one, two, rfl⟩ := List.length_eq_two.mp length
  simp_all

/-- An alternation between two paths stays between the anchors. -/
theorem spans_of_balanced_alternation :
    (∀ source ∈ ["/a|/b"], ¬Overcloses source) ∧
      ∃ mapping, build? "/a|/b" none "x" = some mapping ∧
        ∀ path, mapping.applies path = true → path = "/a" ∨ path = "/b" := by
  let expr : Expr := .alt (.cat (.chars (.singleton '/')) (.chars (.singleton 'a')))
    (.cat (.chars (.singleton '/')) (.chars (.singleton 'b')))
  let tree : Tree := .alternation
    [.sequence [.literal ⟨'/', false⟩, .literal ⟨'a', false⟩],
      .sequence [.literal ⟨'/', false⟩, .literal ⟨'b', false⟩]]
  have read : Tree.read "/a|/b".toList = some tree := by with_unfolding_all rfl
  have meant : tree.meaning .initial = some (expr, .initial) := by with_unfolding_all rfl
  have cheap : ∀ direction, expr.cost direction + 2 * stateCost ≤ maxCost := by
    intro direction
    cases direction <;>
      simp [expr, Expr.cost, Expr.innerCost.total, Expr.innerCost, Expr.branches, setCost,
        codeBytes, CharSet.singleton, stateCost, choiceCost, maxCost]
  have affordable : expr.isAffordable = true :=
    isAffordable_iff.mpr fun direction => (Nat.le_add_right ..).trans (cheap direction)
  have compiled : compile? "/a|/b" = some ⟨"/a|/b", expr⟩ :=
    compile?_eq_some.mpr ⟨tree, .initial, read, meant, affordable, rfl⟩
  have room : Roomy "/a|/b" := ⟨tree, expr, .initial, read, meant, by decide, cheap⟩
  have ended : ¬EndsInComment "/a|/b" := by
    rintro ⟨other, -, closed⟩
    have refused : (Tree.read ("/a|/b".toList ++ [')'])).isSome = false := by decide +kernel
    rw [closed] at refused
    cases refused
  have balanced : ∀ source ∈ "/a|/b" :: (none : Option String).toList, ¬Overcloses source := by
    simpa using balanced_of_compile? compiled
  obtain ⟨built, spans⟩ := spans_of_balanced "/a|/b" none "x" balanced
  obtain ⟨mapping, built⟩ : ∃ mapping, build? "/a|/b" none "x" = some mapping :=
    Option.isSome_iff_exists.mp (built.mpr (by simp [compiled, room, ended]))
  refine ⟨by simpa using balanced_of_compile? compiled, mapping, built, fun path applies => ?_⟩
  obtain ⟨pattern, own, covers⟩ := spans mapping built
  rw [compiled] at own
  cases own
  have found : Matches path.toList (.alt _ _) 0 path.toList.length := covers path applies
  cases found with
  | left found =>
    have text : path.toList = "/a".toList := eq_of_matches_pair found
    exact .inl (String.toList_inj.mp text)
  | right found =>
    have text : path.toList = "/b".toList := eq_of_matches_pair found
    exact .inr (String.toList_inj.mp text)

/-- **A pattern that closes the group of the anchors escapes from them:** the text `a)|(?:b` is no
pattern, but a mapping is built for it, and it applies to the path `ax`. The text `(?x)a#` is a
pattern, but no mapping is built for it. -/
theorem exists_escaped_anchor :
    (∃ mapping, build? "a)|(?:b" none "x" = some mapping ∧ mapping.applies "ax" = true ∧
      compile? "a)|(?:b" = none) ∧
    (compile? "(?x)a#").isSome = true ∧ build? "(?x)a#" none "x" = none := by
  have refused : compile? "a)|(?:b" = none :=
    Option.isNone_iff_eq_none.mp (by decide +kernel)
  have swallowed : build? "(?x)a#" none "x" = none :=
    Option.isNone_iff_eq_none.mp (by decide +kernel)
  let escaped : Expr := .alt (.cat (.look .textStart) (.chars (.singleton 'a')))
    (.cat (.chars (.singleton 'b')) (.look .textEnd))
  have whole : compile? (anchored "a)|(?:b") = some ⟨"^(?:a)|(?:b)$", escaped⟩ := by
    refine compile?_eq_some.mpr ⟨_, .initial, by with_unfolding_all rfl, by with_unfolding_all rfl,
      ?_, by decide⟩
    rw [isAffordable_iff]
    intro direction
    cases direction <;>
      simp [escaped, Expr.cost, Expr.innerCost.total, Expr.innerCost, Expr.branches, setCost,
        codeBytes, CharSet.singleton, stateCost, choiceCost, maxCost]
  have commented : compile? "(?x)a#" = some ⟨"(?x)a#", .chars (.singleton 'a')⟩ := by
    refine compile?_eq_some.mpr ⟨_, .initial, by with_unfolding_all rfl, by with_unfolding_all rfl,
      ?_, rfl⟩
    rw [isAffordable_iff]
    intro direction
    cases direction <;>
      simp [Expr.cost, Expr.innerCost.total, Expr.innerCost, setCost, codeBytes,
        CharSet.singleton, stateCost, maxCost]
  refine ⟨⟨⟨⟨"^(?:a)|(?:b)$", escaped⟩, none, "x"⟩, ?_, ?_, refused⟩, ?_, swallowed⟩
  · simp [build?, whole]
  · decide +kernel
  · simp [commented]

/-- **A mapping decides by matches of whole paths.** Let a mapping be built from patterns that
compile by themselves. It applies to a path if and only if the include pattern by itself has some
match that begins at the beginning of the path and ends at its end, and the exclude pattern has
none. Which of its matches a pattern would prefer, and which flags it sets for itself, does not
count. -/
theorem applies_iff_covers {included filter : String} {excluded : Option String}
    {mapping : FilterMapping}
    (own : ∀ source ∈ included :: excluded.toList, (compile? source).isSome = true)
    (built : build? included excluded filter = some mapping) (path : String) :
    mapping.applies path = true ↔
      Covers included path ∧ ∀ source ∈ excluded, ¬Covers source path := by
  obtain ⟨first, second⟩ := compiled_of_build? built
  have inside : mapping.included.isMatch path = true ↔ Covers included path :=
    isMatch_anchored_iff (own included (List.mem_cons_self ..)) first path
  rw [applies, Bool.and_eq_true, inside]
  refine and_congr_right fun _ => ?_
  cases excluded with
  | none =>
    have unlimited : mapping.excluded = none := Option.map_eq_none_iff.mp second.symm
    simp [unlimited]
  | some source =>
    obtain ⟨pattern, limited, compiled⟩ := Option.map_eq_some_iff.mp second.symm
    have outside : pattern.isMatch path = true ↔ Covers source path :=
      isMatch_anchored_iff (own source (by simp)) compiled.symm path
    simp [limited, ← outside]

/-- An alternation covers the path that its longer branch matches, although its shorter branch
stands first; and a pattern that switches a flag excludes only the path that it covers. -/
theorem applies_iff_covers_longer :
    (∀ source ∈ ["/a|/ab", "(?m)/a$"], (compile? source).isSome = true) ∧
      ∃ mapping, build? "/a|/ab" (some "(?m)/a$") "x" = some mapping ∧
        mapping.applies "/ab" = true ∧ mapping.applies "/a" = false := by
  let slash : Expr := .chars (.singleton '/')
  let letter : Expr := .chars (.singleton 'a')
  let included : Expr :=
    .alt (.cat slash letter) (.cat slash (.cat letter (.chars (.singleton 'b'))))
  let excluded : Expr := .cat slash (.cat letter (.look (.lineEnd false)))
  obtain ⟨first, firstAnchored⟩ : compile? "/a|/ab" = some ⟨"/a|/ab", included⟩ ∧
      compile? (anchored "/a|/ab") = some ⟨anchored "/a|/ab", anchoredExpr included⟩ := by
    refine compiles_of_read (by with_unfolding_all rfl) (by with_unfolding_all rfl) (by decide) ?_
      (by decide +kernel)
    intro direction
    cases direction <;>
      simp [included, slash, letter, Expr.cost, Expr.innerCost.total, Expr.innerCost, Expr.branches,
        setCost, codeBytes, CharSet.singleton, stateCost, choiceCost, maxCost]
  obtain ⟨second, secondAnchored⟩ : compile? "(?m)/a$" = some ⟨"(?m)/a$", excluded⟩ ∧
      compile? (anchored "(?m)/a$") = some ⟨anchored "(?m)/a$", anchoredExpr excluded⟩ := by
    refine compiles_of_read (by with_unfolding_all rfl) (by with_unfolding_all rfl) (by decide) ?_
      (by decide +kernel)
    intro direction
    cases direction <;>
      simp [excluded, slash, letter, Expr.cost, Expr.innerCost.total, Expr.innerCost,
        setCost, codeBytes, CharSet.singleton, stateCost, maxCost]
  have own : ∀ source ∈ ["/a|/ab", "(?m)/a$"], (compile? source).isSome = true := by
    simp [first, second]
  obtain ⟨mapping, built⟩ : ∃ mapping, build? "/a|/ab" (some "(?m)/a$") "x" = some mapping := by
    refine Option.isSome_iff_exists.mp ((isSome_build? ..).mpr ?_)
    simp [firstAnchored, secondAnchored]
  have decided := applies_iff_covers own built
  have longer : Covers "/a|/ab" "/ab" :=
    ⟨_, first, .right (matches_cat.mpr ⟨1, matches_char.mpr ⟨rfl, rfl⟩,
      matches_cat.mpr ⟨2, matches_char.mpr ⟨rfl, rfl⟩, matches_char.mpr ⟨rfl, rfl⟩⟩⟩)⟩
  have excepted : Covers "(?m)/a$" "/a" :=
    ⟨_, second, matches_cat.mpr ⟨1, matches_char.mpr ⟨rfl, rfl⟩,
      matches_cat.mpr ⟨2, matches_char.mpr ⟨rfl, rfl⟩, .look (by decide) (by decide)⟩⟩⟩
  have shorter : ¬Covers "(?m)/a$" "/ab" := by
    rintro ⟨pattern, compiled, spans⟩
    rw [second] at compiled
    cases compiled
    obtain ⟨middle, one, others⟩ := matches_cat.mp spans
    obtain ⟨-, rfl⟩ := matches_char.mp one
    obtain ⟨middle, two, ending⟩ := matches_cat.mp others
    obtain ⟨-, rfl⟩ := matches_char.mp two
    -- The condition stands at the second place, which is not the end.
    have stays : (2 : Nat) = "/ab".toList.length := by
      generalize "/ab".toList.length = stop at ending
      cases ending with
      | look inside holds => rfl
    exact absurd stays (by decide)
  refine ⟨own, mapping, built, (decided "/ab").mpr ⟨longer, ?_⟩, ?_⟩
  · intro source member
    cases member
    exact shorter
  · rw [Bool.eq_false_iff]
    intro applies
    exact ((decided "/a").mp applies).2 _ rfl excepted

end OriginServer.FilterMapping

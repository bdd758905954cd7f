import OriginServer.Proofs.Pattern.Order
import OriginServer.Routing.Filter

/-!
# Anchored patterns

Anchors are put around a pattern as text: `^(?:` before it and `)$` behind it. `compile?_anchored`
says what comes of that for a pattern that closes no group that it did not open (`Overcloses`), and
in particular for every pattern that compiles by itself (`balanced_of_compile?`): its meaning stays
the same and has to cover the whole text (`matches_anchoredExpr`), unless the anchor at the end is
lost in a comment (`EndsInComment`) or there is no room for the anchors within the limits (`Roomy`).
So to find the anchored pattern in a text is to cover the text by the pattern
(`isMatch_anchored_iff`).
-/
namespace OriginServer.Pattern

/-- The group that the anchors open around a pattern. -/
def anchorGroup : OpenGroup := ⟨false, .none, [], [.assertion .lineStart], false⟩

/-- The tree of a pattern between anchors. -/
def anchoredTree (tree : Tree) : Tree :=
  .sequence [.assertion .lineStart, .group false .none tree, .assertion .lineEnd]

/-- A pattern closes a group that it did not open. -/
def Overcloses (source : String) : Prop := Reader.start.Strays source.toList

/-- A pattern ends in a comment: a closing parenthesis behind it belongs to the comment. -/
def EndsInComment (source : String) : Prop :=
  ∃ tree, Tree.read source.toList = some tree ∧ Tree.read (source.toList ++ [')']) = some tree

/-- A pattern stays within the limits for depth and cost when anchors are put around it. -/
def Roomy (source : String) : Prop :=
  ∃ tree expr flags, Tree.read source.toList = some tree ∧
    tree.meaning .initial = some (expr, flags) ∧ tree.depth + 2 ≤ maxDepth ∧
      ∀ direction, expr.cost direction + 2 * stateCost ≤ maxCost

/-- The anchor at the beginning leaves the reader inside its group. -/
theorem run_opened (rest : List Char) : Reader.start.run ("^(?:".toList ++ rest) =
    (Reader.start.under [anchorGroup]).run rest := by
  have begun : Reader.start.run ('^' :: '(' :: '?' :: ':' :: rest) =
      (Reader.start.add (.assertion .lineStart)).run ('(' :: '?' :: ':' :: rest) := by
    rw [Reader.run_cons rfl]
    rfl
  have group : readOpeningParenthesis ('?' :: ':' :: rest) = some (.plain .none, rest) := by
    simp [readOpeningParenthesis, isLookaround, after?, readFlags]
  have step : looseStep (Reader.start.add (.assertion .lineStart)) '(' ('?' :: ':' :: rest) =
      some (Reader.start.under [anchorGroup], rest) := by
    change ((readOpeningParenthesis ('?' :: ':' :: rest)).bind fun found =>
      ((Reader.start.add (.assertion .lineStart)).opening found.1).bind fun next =>
        some (next, found.2)) = _
    rw [group]
    rfl
  have entered : (Reader.start.add (.assertion .lineStart)).run ('(' :: '?' :: ':' :: rest) =
      (Reader.start.under [anchorGroup]).run rest := by
    rw [Reader.run_cons rfl, step]
    rfl
  exact begun.trans entered

/-- The anchor at the end leaves the innermost group and adds an assertion. -/
theorem run_closed (last : Reader) : (last.under [anchorGroup]).run [')', '$'] =
    (last.under [anchorGroup]).leave.map (·.add (.assertion .lineEnd)) := by
  have front : skip (last.under [anchorGroup]).ignoring [')', '$'] = [')', '$'] :=
    skip_mark (by decide) (by decide) _
  rw [Reader.run_cons front]
  change (((last.under [anchorGroup]).leave.bind fun next => some (next, ['$'])).bind
    fun found => found.1.run found.2) = _
  cases (last.under [anchorGroup]).leave with
  | none => rfl
  | some next =>
    have dollar : skip next.ignoring ['$'] = ['$'] := skip_mark (by decide) (by decide) _
    change next.run ['$'] = some (next.add (.assertion .lineEnd))
    rw [Reader.run_cons dollar]
    exact Reader.run_nil (by cases (next.add (.assertion .lineEnd)).ignoring <;> rfl)

/-- Between anchors, a complete pattern is read as a group of its own. -/
theorem closed_of_outer {last : Reader} (closed : last.outer = []) :
    ∃ whole, (last.under [anchorGroup]).run [')', '$'] = some whole ∧ whole.outer = [] ∧
      whole.tree = anchoredTree last.tree := by
  obtain ⟨outer, branches, parts, ignoring, names⟩ := last
  obtain rfl : outer = [] := closed
  rw [run_closed]
  exact ⟨_, rfl, rfl, rfl⟩

/-- The anchor at the end closes no more than one group. -/
theorem open_of_outer {last whole : Reader} (inside : last.outer ≠ [])
    (done : (last.under [anchorGroup]).run [')', '$'] = some whole) : whole.outer ≠ [] := by
  rw [run_closed, Reader.leave_under last _ inside] at done
  obtain ⟨left, leave, rfl⟩ := Option.map_eq_some_iff.mp done
  obtain ⟨inner, -, rfl⟩ := Option.map_eq_some_iff.mp leave
  exact List.append_ne_nil_of_right_ne_nil _ (by simp)

/-- The depth of a pattern between anchors. -/
theorem depth_anchoredTree (tree : Tree) : (anchoredTree tree).depth = tree.depth + 2 := by
  simp only [anchoredTree, Tree.depth, Tree.depthOfParts]
  omega

/-- A closing parenthesis behind a complete pattern is refused, if it is left to be read. -/
theorem not_read_closed {source : List Char} {last : Reader} (closed : last.outer = [])
    (run : Reader.start.run (source ++ [')']) = last.run [')']) (tree : Tree) :
    Tree.read (source ++ [')']) ≠ some tree := by
  intro read
  obtain ⟨same, begun, -⟩ := Tree.read_eq_some.mp read
  rw [run, Reader.run_stray (skip_mark (by decide) (by decide) _) closed] at begun
  cases begun

/-- A pattern is read between anchors as a group, if the anchor at the end is left to be read. -/
theorem read_anchored_of_kept {source : List Char} {last : Reader}
    (done : Reader.start.run source = some last)
    (run : Reader.start.run (source ++ [')']) = last.run [')'])
    (enclosed : (Reader.start.under [anchorGroup]).run (source ++ [')', '$']) =
      (last.under [anchorGroup]).run [')', '$']) (whole : Tree) :
    Tree.read ("^(?:".toList ++ (source ++ [')', '$'])) = some whole ↔
      ∃ tree, Tree.read source = some tree ∧ Tree.read (source ++ [')']) ≠ some tree ∧
        tree.depth + 2 ≤ maxDepth ∧ whole = anchoredTree tree := by
  rw [Tree.read_eq_some, run_opened, enclosed]
  by_cases closed : last.outer = []
  · obtain ⟨ending, ended, outer, tree⟩ := closed_of_outer closed
    have depth : (anchoredTree last.tree).depth = last.tree.depth + 2 := depth_anchoredTree _
    constructor
    · rintro ⟨same, begun, -, rfl, deep⟩
      rw [ended] at begun
      cases begun
      rw [tree, depth] at deep
      have alone : Tree.read source = some last.tree :=
        Tree.read_eq_some.mpr ⟨last, done, closed, rfl, by omega⟩
      exact ⟨last.tree, alone, not_read_closed closed run _, deep, tree⟩
    · rintro ⟨same, read, -, deep, rfl⟩
      obtain ⟨other, begun, -, rfl, -⟩ := Tree.read_eq_some.mp read
      rw [done] at begun
      cases begun
      exact ⟨ending, ended, outer, tree, by rw [depth]; exact deep⟩
  · constructor
    · rintro ⟨ending, ended, outer, -⟩
      exact absurd outer (open_of_outer closed ended)
    · rintro ⟨tree, read, -⟩
      obtain ⟨same, read, outer, -⟩ := Tree.read_eq_some.mp read
      rw [done] at read
      cases read
      exact absurd outer closed

/-- **A pattern that closes no group of others is read between anchors exactly if it is a pattern
itself, does not end in a comment and is not nested too deeply, and then as a group.** -/
theorem read_anchored {source : List Char} (own : ¬Reader.start.Strays source) (whole : Tree) :
    Tree.read ("^(?:".toList ++ (source ++ [')', '$'])) = some whole ↔
      ∃ tree, Tree.read source = some tree ∧ Tree.read (source ++ [')']) ≠ some tree ∧
        tree.depth + 2 ≤ maxDepth ∧ whole = anchoredTree tree := by
  have fits : Fits (source.length + 2) source ['$'] := ⟨by decide, by simp⟩
  have bare : Fits (source.length + 2) source [] := ⟨by decide, by simp⟩
  cases Reader.enclosed (show source.length ≤ source.length + 2 by omega) with
  | kept last done inside =>
    have run : Reader.start.run (source ++ [')']) = last.run [')'] := by
      simpa [Reader.under] using inside [] [] bare
    exact read_anchored_of_kept done run (inside [anchorGroup] ['$'] fits) whole
  | swallowed last done inside =>
    rw [Tree.read_eq_some, run_opened, inside [anchorGroup] ['$'] fits]
    constructor
    · rintro ⟨ending, run, outer, -⟩
      cases run
      simp [Reader.under] at outer
    · rintro ⟨tree, read, alone, -⟩
      obtain ⟨same, begun, outer, rfl, deep⟩ := Tree.read_eq_some.mp read
      rw [done] at begun
      cases begun
      refine absurd (Tree.read_eq_some.mpr ⟨last, ?_, outer, rfl, deep⟩) alone
      simpa [Reader.under] using inside [] [] bare
  | lost done past =>
    rw [Tree.read_eq_some, run_opened]
    constructor
    · rintro ⟨ending, run, outer, -⟩
      have groups := past [anchorGroup] ['$'] ending fits (by decide) run
      rw [outer] at groups
      cases List.suffix_nil.mp groups
    · rintro ⟨tree, read, -⟩
      obtain ⟨last, read, -⟩ := Tree.read_eq_some.mp read
      rw [done] at read
      cases read
  | strayed strays => exact absurd strays own

/-- The meaning of a pattern between anchors. -/
def anchoredExpr (expr : Expr) : Expr := .sequence [.look .textStart, expr, .look .textEnd]

/-- A pattern between anchors means the pattern between the two ends of the text, whatever flags it
switches. -/
theorem meaning_anchoredTree (tree : Tree) : (anchoredTree tree).meaning .initial =
    (tree.meaning .initial).map fun found => (anchoredExpr found.1, .initial) := by
  have flags : Flags.initial.apply .none = .initial := rfl
  cases meant : tree.meaning .initial <;>
    simp [anchoredTree, Tree.meaning, Tree.meanings, Assertion.look, flags, meant, anchoredExpr,
      show Flags.initial.multiLine = false from rfl]

/-- Between anchors stands an expression, if it is not empty, and else nothing. -/
theorem anchoredExpr_eq {expr : Expr} (filled : expr ≠ .empty) :
    anchoredExpr expr = .cat (.look .textStart) (.cat expr (.look .textEnd)) := by
  cases expr <;> first | rfl | exact absurd rfl filled

/-- Anchors add the cost of two conditions, which a machine can afford exactly if it has room for
them. -/
theorem cost_anchoredExpr (expr : Expr) (direction : Direction) :
    (anchoredExpr expr).cost direction ≤ maxCost ↔
      expr.cost direction + 2 * stateCost ≤ maxCost := by
  by_cases filled : expr = .empty
  · subst filled
    cases direction <;>
      simp [Expr.cost, Expr.innerCost.total, Expr.innerCost, anchoredExpr, Expr.sequence,
        Expr.andThen, stateCost, maxCost]
  · have total : (anchoredExpr expr).cost direction = expr.cost direction + 2 * stateCost := by
      rw [anchoredExpr_eq filled]
      simp only [Expr.cost, Expr.innerCost.total, Expr.innerCost]
      omega
    rw [total]

/-- The anchor at the beginning matches at the first place. -/
theorem matches_textStart {text : List Char} {start stop : Nat} :
    Matches text (.look .textStart) start stop ↔ start = 0 ∧ stop = 0 := by
  constructor
  · intro found
    cases found with
    | look inside holds =>
      suffices first : start = 0 from ⟨first, first⟩
      by_contra later
      have before : start - 1 < text.length := by omega
      simp [Look.holdsAt, Look.holds, later, before] at holds
  · rintro ⟨rfl, rfl⟩
    exact .look (Nat.zero_le _) rfl

/-- The anchor at the end matches at the last place. -/
theorem matches_textEnd {text : List Char} {start stop : Nat} :
    Matches text (.look .textEnd) start stop ↔ start = text.length ∧ stop = text.length := by
  constructor
  · intro found
    cases found with
    | look inside holds =>
      suffices last : start = text.length from ⟨last, last⟩
      have ended : text.length ≤ start := by simpa [Look.holdsAt, Look.holds] using holds
      omega
  · rintro ⟨rfl, rfl⟩
    exact .look (Nat.le_refl _) (by simp [Look.holdsAt, Look.holds])

/-- A pattern between anchors matches exactly where the pattern matches the whole text. -/
theorem matches_anchoredExpr {text : List Char} {expr : Expr} {start stop : Nat} :
    Matches text (anchoredExpr expr) start stop ↔
      start = 0 ∧ stop = text.length ∧ Matches text expr 0 text.length := by
  by_cases filled : expr = .empty
  · subst filled
    have anchors : anchoredExpr .empty = .cat (.look .textStart) (.look .textEnd) := rfl
    rw [anchors, matches_cat]
    simp only [matches_textStart, matches_textEnd]
    constructor
    · rintro ⟨middle, ⟨first, rfl⟩, last, ending⟩
      refine ⟨first, ending, ?_⟩
      rw [← last]
      exact .empty (Nat.zero_le _)
    · rintro ⟨first, ending, found⟩
      generalize last : text.length = place at found ending
      cases found with
      | empty _ => exact ⟨0, ⟨first, rfl⟩, rfl, ending⟩
  · rw [anchoredExpr_eq filled, matches_cat]
    simp only [matches_cat, matches_textStart, matches_textEnd]
    constructor
    · rintro ⟨middle, ⟨first, rfl⟩, last, found, rfl, ending⟩
      exact ⟨first, ending, found⟩
    · rintro ⟨first, ending, found⟩
      exact ⟨0, ⟨first, rfl⟩, text.length, found, rfl, ending⟩

/-- Both machines for an expression are small enough if its cost is in each direction. -/
theorem isAffordable_iff {expr : Expr} :
    expr.isAffordable = true ↔ ∀ direction, expr.cost direction ≤ maxCost := by
  unfold Expr.isAffordable
  rw [Bool.and_eq_true, decide_eq_true_eq, decide_eq_true_eq]
  constructor
  · rintro ⟨forward, backward⟩ direction
    cases direction
    · exact forward
    · exact backward
  · intro small
    exact ⟨small .forward, small .backward⟩

/-- **A pattern that closes no group of others compiles between anchors exactly if it compiles
itself, does not end in a comment and leaves room for the anchors.** -/
theorem compile?_anchored {source : String} (own : ¬Overcloses source) {whole : Pattern} :
    compile? (anchored source) = some whole ↔ ∃ pattern, compile? source = some pattern ∧
      ¬EndsInComment source ∧ Roomy source ∧
        whole = ⟨anchored source, anchoredExpr pattern.expr⟩ := by
  have text : (anchored source).toList = "^(?:".toList ++ (source.toList ++ [')', '$']) := by
    simp [anchored]
  constructor
  · intro compiled
    obtain ⟨tree, flags, read, meant, affordable, written⟩ := compile?_eq_some.mp compiled
    rw [text, read_anchored own] at read
    obtain ⟨inner, alone, ended, shallow, rfl⟩ := read
    rw [meaning_anchoredTree] at meant
    obtain ⟨⟨expr, after⟩, meant, same⟩ := Option.map_eq_some_iff.mp meant
    have meaning : anchoredExpr expr = whole.expr := congrArg Prod.fst same
    have cheap : ∀ direction, expr.cost direction + 2 * stateCost ≤ maxCost := by
      intro direction
      rw [← cost_anchoredExpr, meaning]
      exact isAffordable_iff.mp affordable direction
    have fits : expr.isAffordable = true :=
      isAffordable_iff.mpr fun direction => (Nat.le_add_right ..).trans (cheap direction)
    refine ⟨⟨source, expr⟩, compile?_eq_some.mpr ⟨inner, after, alone, meant, fits, rfl⟩, ?_,
      ⟨inner, expr, after, alone, meant, shallow, cheap⟩, ?_⟩
    · rintro ⟨other, read, closed⟩
      rw [alone] at read
      cases read
      exact ended closed
    · obtain ⟨named, whole⟩ := whole
      obtain rfl : named = anchored source := written
      exact congrArg _ meaning.symm
  · rintro ⟨pattern, compiled, ended, room, rfl⟩
    obtain ⟨inner, expr, after, alone, meant, shallow, cheap⟩ := room
    obtain ⟨tree, flags, read, meaning, -, -⟩ := compile?_eq_some.mp compiled
    rw [alone] at read
    cases read
    rw [meant] at meaning
    cases meaning
    have read : Tree.read (anchored source).toList = some (anchoredTree inner) := by
      rw [text, read_anchored own]
      exact ⟨inner, alone, fun closed => ended ⟨inner, alone, closed⟩, shallow, rfl⟩
    have affordable : (anchoredExpr pattern.expr).isAffordable = true :=
      isAffordable_iff.mpr fun direction => (cost_anchoredExpr _ direction).mpr (cheap direction)
    refine compile?_eq_some.mpr ⟨anchoredTree inner, .initial, read, ?_, affordable, rfl⟩
    rw [meaning_anchoredTree, meant]
    rfl

/-- A text is covered by a pattern that is given as a text: the pattern compiles, and some match of
it goes from the beginning of the text to its end. -/
def Covers (source text : String) : Prop :=
  ∃ pattern, compile? source = some pattern ∧
    Matches text.toList pattern.expr 0 text.toList.length

/-- A pattern that compiles closes no group that it did not open. -/
theorem balanced_of_compile? {source : String} {pattern : Pattern}
    (compiled : compile? source = some pattern) : ¬Overcloses source := by
  intro strays
  obtain ⟨tree, -, read, -⟩ := compile?_eq_some.mp compiled
  obtain ⟨last, done, -⟩ := Tree.read_eq_some.mp read
  rw [strays.run] at done
  cases done

/-- A pattern of which the tree and the meaning are known compiles by itself and between anchors, if
it leaves room for them and does not end in a comment. -/
theorem compiles_of_read {source : String} {tree : Tree} {expr : Expr} {flags : Flags}
    (read : Tree.read source.toList = some tree)
    (meant : tree.meaning .initial = some (expr, flags)) (shallow : tree.depth + 2 ≤ maxDepth)
    (cheap : ∀ direction, expr.cost direction + 2 * stateCost ≤ maxCost)
    (closed : (Tree.read (source.toList ++ [')'])).isSome = false) :
    compile? source = some ⟨source, expr⟩ ∧
      compile? (anchored source) = some ⟨anchored source, anchoredExpr expr⟩ := by
  have affordable : expr.isAffordable = true :=
    isAffordable_iff.mpr fun direction => (Nat.le_add_right ..).trans (cheap direction)
  have compiled : compile? source = some ⟨source, expr⟩ :=
    compile?_eq_some.mpr ⟨tree, flags, read, meant, affordable, rfl⟩
  have ended : ¬EndsInComment source := by
    rintro ⟨other, -, again⟩
    rw [again] at closed
    cases closed
  have room : Roomy source := ⟨tree, expr, flags, read, meant, shallow, cheap⟩
  exact ⟨compiled, (compile?_anchored (balanced_of_compile? compiled)).mpr
    ⟨_, compiled, ended, room, rfl⟩⟩

/-- A pattern that compiles by itself is found between anchors in exactly the texts that it
covers. -/
theorem isMatch_anchored_iff {source : String} {whole : Pattern}
    (own : (compile? source).isSome = true) (compiled : compile? (anchored source) = some whole)
    (text : String) : whole.isMatch text = true ↔ Covers source text := by
  obtain ⟨pattern, alone⟩ := Option.isSome_iff_exists.mp own
  have balanced : ¬Overcloses source := balanced_of_compile? alone
  have same : whole = ⟨anchored source, anchoredExpr pattern.expr⟩ := by
    obtain ⟨other, again, -, -, rfl⟩ := (compile?_anchored balanced).mp compiled
    rw [alone] at again
    cases again
    rfl
  rw [isMatch_iff compiled, same]
  constructor
  · rintro ⟨start, stop, found⟩
    obtain ⟨-, -, spans⟩ := matches_anchoredExpr.mp found
    exact ⟨pattern, alone, spans⟩
  · rintro ⟨other, again, spans⟩
    rw [alone] at again
    cases again
    exact ⟨0, text.toList.length, matches_anchoredExpr.mpr ⟨rfl, rfl, spans⟩⟩

end OriginServer.Pattern

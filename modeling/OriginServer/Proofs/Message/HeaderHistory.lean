import Mathlib.Data.Finset.Card
import OriginServer.Proofs.Message.Headers

/-!
# The history of a header map

A header map that was filled and cleared any number of times shows what was set since it was last
cleared, and nothing else: each name once, up to case, in its first spelling, at the place of its
first setting and with the value that was set last (`Headers.Ledger`). One more setting moves and
changes no entry of another name. Every map that is reached by setting and clearing is such a ledger
(`Headers.ledger_play`).
-/
namespace OriginServer.Headers

open Text (lower sameLetters sameLetters_congr sameLetters_comm sameLetters_iff)

variable {headers : Headers} {name value : String} {pairs : List (String × String)}

/-! ## What was set since the last clearing -/

/-- What can be done to a header map. -/
inductive Act where
  /-- A name is set to a value. -/
  | set (name value : String)
  /-- All entries are removed. -/
  | clear
  deriving DecidableEq

/-- A header map after one act. -/
def perform (headers : Headers) : Act → Headers
  | .set name value => headers.set name value
  | .clear => empty

/-- The header map that acts make of the empty one. -/
def play (acts : List Act) : Headers := acts.foldl perform empty

/-- The acts that set pairs in order. -/
def settings (pairs : List (String × String)) : List Act :=
  pairs.map fun pair => .set pair.1 pair.2

/-- The pairs are what was set since the last clearing, or since the beginning if there was none. -/
def SetSince (acts : List Act) (pairs : List (String × String)) : Prop :=
  ∃ earlier, acts = earlier ++ settings pairs ∧ (earlier = [] ∨ earlier.getLast? = some .clear)

/-- The pairs set since the last clearing, after one more act. -/
def note (pairs : List (String × String)) : Act → List (String × String)
  | .set name value => pairs ++ [(name, value)]
  | .clear => []

/-- The pairs set since the last clearing, gathered act by act. -/
def recent (acts : List Act) : List (String × String) := acts.foldl note []

/-- One more act is noted behind the others. -/
theorem recent_concat (acts : List Act) (act : Act) :
    recent (acts ++ [act]) = note (recent acts) act := by
  simp [recent]

/-- The pairs gathered act by act are the ones set since the last clearing, and no others are. -/
theorem setSince_iff {acts : List Act} : SetSince acts pairs ↔ pairs = recent acts := by
  have noted (front late : List (String × String)) :
      (settings late).foldl note front = front ++ late := by
    induction late generalizing front with
    | nil => simp [settings]
    | cons pair rest ih => simpa [settings, note] using ih (front ++ [pair])
  constructor
  · rintro ⟨earlier, rfl, cleared⟩
    have nothing : earlier.foldl note [] = [] := by
      rcases cleared with rfl | cleared
      · rfl
      · obtain ⟨front, rfl⟩ := List.getLast?_eq_some_iff.mp cleared
        rw [List.foldl_append]
        rfl
    rw [recent, List.foldl_append, nothing, noted, List.nil_append]
  · rintro rfl
    induction acts using List.reverseRecOn with
    | nil => exact ⟨[], rfl, .inl rfl⟩
    | append_singleton acts act ih =>
      obtain ⟨earlier, whole, cleared⟩ := ih
      cases act with
      | set name value =>
        refine ⟨earlier, ?_, cleared⟩
        rw [recent_concat, note, settings, List.map_append, ← List.append_assoc, ← settings,
          ← whole]
        rfl
      | clear =>
        refine ⟨acts ++ [.clear], ?_, .inr (by simp)⟩
        simp [recent_concat, note, settings]

/-- Acts make what setting the pairs since the last clearing makes. -/
theorem play_eq_ofList (acts : List Act) : play acts = ofList (recent acts) := by
  induction acts using List.reverseRecOn with
  | nil => rfl
  | append_singleton acts act ih =>
    have played : play (acts ++ [act]) = (play acts).perform act := by simp [play]
    rw [played, recent_concat, ih]
    cases act with
    | set name value => exact (ofList_concat (recent acts) (name, value)).symm
    | clear => rfl

/-! ## Names in order of first setting -/

/-- One name more is added behind the names without repetitions, unless it repeats one of them. -/
theorem eraseDupsBy_concat (names : List String) (name : String) :
    (names ++ [name]).eraseDupsBy sameLetters =
      if names.any (sameLetters · name) then names.eraseDupsBy sameLetters
      else names.eraseDupsBy sameLetters ++ [name] := by
  induction size : names.length using Nat.strong_induction_on generalizing names with
  | _ count ih =>
    cases names with
    | nil => simp [List.eraseDupsBy_cons]
    | cons first rest =>
      -- What repeats the first name goes; the name at the end may be one of these.
      let others := rest.filter fun later => decide (sameLetters later first = false)
      have fewer : others.length < count := by
        have bound : others.length ≤ rest.length := List.length_filter_le _ _
        rw [List.length_cons] at size
        omega
      have later := ih others.length fewer others rfl
      rw [List.cons_append, List.eraseDupsBy_cons, List.eraseDupsBy_cons, List.filter_append,
        List.any_cons]
      by_cases again : sameLetters first name = true
      · have gone : [name].filter (fun later => decide (sameLetters later first = false)) = [] := by
          simp [sameLetters_comm name first, again]
        rw [gone, List.append_nil, again, Bool.true_or, if_pos rfl]
      · have unlike : sameLetters first name = false := by simpa using again
        have kept : [name].filter (fun later => decide (sameLetters later first = false)) =
            [name] := by
          simp [sameLetters_comm name first, unlike]
        have sameAny : others.any (sameLetters · name) = rest.any (sameLetters · name) := by
          rw [List.any_filter]
          congr 1
          funext other
          cases repeats : sameLetters other first with
          | false => simp
          | true => simp [sameLetters_congr repeats, unlike]
        rw [kept, unlike, Bool.false_or]
        change first :: (others ++ [name]).eraseDupsBy sameLetters = _
        rw [later, sameAny]
        by_cases found : rest.any (sameLetters · name) = true
        · rw [if_pos found, if_pos found]
        · rw [if_neg found, if_neg found, List.cons_append]

/-- Setting a name that an entry has changes no name and no place. -/
theorem names_set_of_not_lacks (has : ¬headers.Lacks name) (value : String) :
    (headers.set name value).entries.map (·.1) = headers.entries.map (·.1) := by
  obtain ⟨entries⟩ := headers
  simp only [Lacks, set] at has ⊢
  induction entries with
  | nil => exact absurd (by simp) has
  | cons entry rest ih =>
    rw [setEntry]
    by_cases same : sameLetters entry.1 name = true
    · rw [if_pos same]
      rfl
    · rw [List.forall_mem_cons, not_and] at has
      rw [if_neg same, List.map_cons, List.map_cons, ih (has (by simpa using same))]

/-- No entry has a name exactly if the name has no value. -/
theorem lacks_iff : headers.Lacks name ↔ headers.get? name = none := by
  simp [Lacks, get?]

/-- The names of a map are those that were set, without repetitions. -/
theorem names_ofList (pairs : List (String × String)) :
    (ofList pairs).entries.map (·.1) = (pairs.map (·.1)).eraseDupsBy sameLetters := by
  induction pairs using List.reverseRecOn with
  | nil => rfl
  | append_singleton pairs pair ih =>
    have known : (pairs.map (·.1)).any (sameLetters · pair.1) = true ↔
        ¬(ofList pairs).Lacks pair.1 := by
      rw [lacks_iff, get?_ofList_eq_none_iff]
      simp
    rw [ofList_concat, List.map_append, List.map_singleton, eraseDupsBy_concat]
    by_cases lacks : (ofList pairs).Lacks pair.1
    · rw [if_neg fun found => known.mp found lacks, lacks.entries_set, List.map_append, ih]
      rfl
    · rw [if_pos (known.mpr lacks), names_set_of_not_lacks lacks, ih]

/-! ## The ledger of what was set -/

/-- A value was the last one set under a name, in any spelling of it. -/
def LastSet (pairs : List (String × String)) (name value : String) : Prop :=
  ∃ before spelled after, pairs = before ++ (spelled, value) :: after ∧
    sameLetters spelled name = true ∧ ∀ pair ∈ after, sameLetters pair.1 name = false

/-- A header map that shows pairs as they were set in order, starting from the empty map. -/
structure Ledger (pairs : List (String × String)) (headers : Headers) : Prop where
  /-- The entries have the names that were set, in their first spellings and in the order of first
  setting. -/
  spelled : headers.entries.map (·.1) = (pairs.map (·.1)).eraseDupsBy sameLetters
  /-- An entry has the value that was set last under its name. -/
  valued : ∀ entry ∈ headers.entries, LastSet pairs entry.1 entry.2
  /-- No two entries have names that are equal up to case. -/
  distinct : headers.Distinct
  /-- Under every spelling of a name, the value that was set last is found. -/
  found : ∀ name value, headers.get? name = some value ↔ LastSet pairs name value
  /-- Under a name that was not set in any spelling, nothing is found. -/
  absent : ∀ name, headers.get? name = none ↔ ∀ pair ∈ pairs, sameLetters pair.1 name = false
  /-- The names that are contained are those that were set in any spelling. -/
  contained : ∀ name, headers.contains name = true ↔ ∃ pair ∈ pairs, sameLetters pair.1 name = true
  /-- There are as many entries as there are names up to case. -/
  counted : headers.size = (pairs.map fun pair => lower pair.1.toList).toFinset.card
  /-- Setting a name leaves every entry of another name as it is and where it is. -/
  framed : ∀ (name value : String) (place : Nat) (entry : String × String),
    headers.entries[place]? = some entry → sameLetters entry.1 name = false →
      (headers.set name value).entries[place]? = some entry

/-- In a map with distinct names, the value of an entry is found under its name. -/
theorem Distinct.get?_of_mem (distinct : headers.Distinct) {entry : String × String}
    (inside : entry ∈ headers.entries) : headers.get? entry.1 = some entry.2 := by
  obtain ⟨before, after, whole⟩ := List.append_of_mem inside
  rw [Distinct, whole, List.pairwise_append] at distinct
  have first : ∀ earlier ∈ before, sameLetters earlier.1 entry.1 = false := by
    intro earlier front
    rw [sameLetters_comm]
    exact distinct.2.2 earlier front entry List.mem_cons_self
  rw [get?, Option.map_eq_some_iff]
  refine ⟨entry, ?_, rfl⟩
  rw [List.find?_eq_some_iff_append]
  exact ⟨by simp, before, after, whole, by simpa using first⟩

/-- Setting a name leaves every entry of another name as it is and where it is. -/
theorem getElem?_set_of_unlike {place : Nat} {entry : String × String}
    (stands : headers.entries[place]? = some entry) (unlike : sameLetters entry.1 name = false)
    (value : String) : (headers.set name value).entries[place]? = some entry := by
  obtain ⟨entries⟩ := headers
  simp only [set] at stands ⊢
  induction entries generalizing place with
  | nil => simp at stands
  | cons front rest ih =>
    rw [setEntry]
    cases place with
    | zero =>
      have same : front = entry := by simpa using stands
      rw [if_neg (by simp [same, unlike]), List.getElem?_cons_zero, same]
    | succ place =>
      rw [List.getElem?_cons_succ] at stands
      by_cases here : sameLetters front.1 name = true
      · rw [if_pos here, List.getElem?_cons_succ]
        exact stands
      · rw [if_neg here, List.getElem?_cons_succ]
        exact ih stands

/-- A map has as many entries as names up to case were set. -/
theorem size_ofList (pairs : List (String × String)) :
    (ofList pairs).size = (pairs.map fun pair => lower pair.1.toList).toFinset.card := by
  have distinct := distinct_ofList pairs
  have separate : ((ofList pairs).entries.map fun entry => lower entry.1.toList).Nodup := by
    rw [List.Nodup, List.pairwise_map]
    refine distinct.imp ?_
    intro earlier later unlike same
    rw [sameLetters_iff.mpr same.symm] at unlike
    cases unlike
  have sameNames : ((ofList pairs).entries.map fun entry => lower entry.1.toList).toFinset =
      (pairs.map fun pair => lower pair.1.toList).toFinset := by
    ext key
    simp only [List.mem_toFinset, List.mem_map]
    constructor
    · rintro ⟨entry, inside, rfl⟩
      have value := distinct.get?_of_mem inside
      obtain ⟨before, spelled, after, whole, same, -⟩ := get?_ofList_eq_some_iff.mp value
      exact ⟨(spelled, entry.2), whole ▸ by simp, sameLetters_iff.mp same⟩
    · rintro ⟨pair, inside, rfl⟩
      have has : ¬(ofList pairs).Lacks pair.1 := by
        rw [lacks_iff, get?_ofList_eq_none_iff]
        intro none
        simpa using none pair inside
      rw [Lacks] at has
      push Not at has
      obtain ⟨entry, stands, same⟩ := has
      exact ⟨entry, stands, sameLetters_iff.mp (by simpa using same)⟩
  rw [← sameNames, List.toFinset_card_of_nodup separate, List.length_map]
  rfl

/-- Setting pairs in order makes their ledger. -/
theorem ledger_ofList (pairs : List (String × String)) : Ledger pairs (ofList pairs) where
  spelled := names_ofList pairs
  valued := fun _ inside => get?_ofList_eq_some_iff.mp ((distinct_ofList pairs).get?_of_mem inside)
  distinct := distinct_ofList pairs
  found := fun _ _ => get?_ofList_eq_some_iff
  absent := fun _ => get?_ofList_eq_none_iff
  contained := by
    intro name
    rw [contains, Option.isSome_iff_ne_none, Ne, get?_ofList_eq_none_iff]
    simp
  counted := size_ofList pairs
  framed := fun _ value _ _ stands unlike => getElem?_set_of_unlike stands unlike value

/-- **A header map shows its history since the last clearing.** Whatever is set and cleared, in any
order, there is one list of pairs that were set since the last clearing, and the map is the ledger
of these. -/
theorem ledger_play (acts : List Act) :
    ∃ pairs, (∀ other, SetSince acts other ↔ other = pairs) ∧ Ledger pairs (play acts) := by
  refine ⟨recent acts, fun other => setSince_iff, ?_⟩
  rw [play_eq_ofList]
  exact ledger_ofList (recent acts)

/-- A name set again in another case keeps its place and its first spelling. -/
example :
    (play [.set "Age" "1", .clear, .set "Server" "a", .set "Date" "b", .set "server" "c"]).entries =
      [("Server", "c"), ("Date", "b")] := by decide +kernel

end OriginServer.Headers

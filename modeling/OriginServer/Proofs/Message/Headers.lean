import Mathlib.Data.List.Induction
import OriginServer.Message.Headers

/-!
# What a header map holds

A header map made by setting pairs in order has one entry for each name up to case
(`distinct_ofList`), and the value of a name is the one that was set last
(`get?_ofList_eq_some_iff`). A map without repeated names is what setting its entries makes
(`Distinct.ofList_entries`).
-/
namespace OriginServer

/-- Texts that are equal up to case are equal up to case to the same texts. -/
theorem Text.sameLetters_congr {left right : String} (same : sameLetters left right = true)
    (other : String) : sameLetters left other = sameLetters right other := by
  rw [sameLetters_iff] at same
  rw [sameLetters, sameLetters, same]

namespace Headers

open Text (sameLetters sameLetters_congr)

variable {headers : Headers} {name value : String}

/-- No entry has a name, in any case of its letters. -/
def Lacks (headers : Headers) (name : String) : Prop :=
  ∀ entry ∈ headers.entries, sameLetters entry.1 name = false

/-- Setting a name that no entry has adds an entry at the end. -/
theorem Lacks.entries_set (lacks : headers.Lacks name) (value : String) :
    (headers.set name value).entries = headers.entries ++ [(name, value)] := by
  obtain ⟨entries⟩ := headers
  simp only [Lacks, set] at lacks ⊢
  induction entries with
  | nil => rfl
  | cons entry rest ih =>
    rw [List.forall_mem_cons] at lacks
    rw [setEntry, if_neg (by simp [lacks.1]), ih lacks.2, List.cons_append]

/-- After a name was set, its value is the one set, under every spelling, and other values are as
they were. -/
theorem get?_set (headers : Headers) (name value other : String) :
    (headers.set name value).get? other =
      if sameLetters name other then some value else headers.get? other := by
  obtain ⟨entries⟩ := headers
  simp only [get?, set]
  induction entries with
  | nil => cases alike : sameLetters name other <;> simp [setEntry, alike]
  | cons entry rest ih =>
    rw [setEntry]
    by_cases same : sameLetters entry.1 name = true
    · rw [if_pos same, List.find?_cons, List.find?_cons, sameLetters_congr same]
      cases sameLetters name other <;> simp
    · rw [if_neg same, List.find?_cons, List.find?_cons]
      cases found : sameLetters entry.1 other with
      | false => exact ih
      | true =>
        have unlike : sameLetters name other = false := by
          rw [Text.sameLetters_comm, ← sameLetters_congr found]
          simpa using same
        simp [unlike]

/-- The map made by one more pair. -/
theorem ofList_concat (pairs : List (String × String)) (pair : String × String) :
    ofList (pairs ++ [pair]) = (ofList pairs).set pair.1 pair.2 := by
  simp [ofList]

/-- A name is looked up from the last pair to the first. -/
theorem get?_ofList (pairs : List (String × String)) (name : String) :
    (ofList pairs).get? name =
      (pairs.reverse.find? fun pair => sameLetters pair.1 name).map (·.2) := by
  induction pairs using List.reverseRecOn with
  | nil => rfl
  | append_singleton pairs pair ih =>
    rw [ofList_concat, get?_set, ih, List.reverse_concat, List.find?_cons]
    cases sameLetters pair.1 name <;> simp

/-- A name that no pair has has no value. -/
theorem get?_ofList_eq_none_iff {pairs : List (String × String)} :
    (ofList pairs).get? name = none ↔ ∀ pair ∈ pairs, sameLetters pair.1 name = false := by
  simp [get?_ofList]

/-- The value of a name is that of the last pair with the name. -/
theorem get?_ofList_eq_some_iff {pairs : List (String × String)} :
    (ofList pairs).get? name = some value ↔
      ∃ before spelled after, pairs = before ++ (spelled, value) :: after ∧
        sameLetters spelled name = true ∧ ∀ pair ∈ after, sameLetters pair.1 name = false := by
  rw [get?_ofList, Option.map_eq_some_iff]
  constructor
  · rintro ⟨⟨spelled, value⟩, found, rfl⟩
    obtain ⟨named, after, before, reversed, other⟩ := List.find?_eq_some_iff_append.mp found
    refine ⟨before.reverse, spelled, after.reverse, ?_, named, by simpa using other⟩
    rw [← List.reverse_reverse pairs, reversed]
    simp
  · rintro ⟨before, spelled, after, rfl, named, other⟩
    refine ⟨(spelled, value), List.find?_eq_some_iff_append.mpr ⟨named, ?_⟩, rfl⟩
    exact ⟨after.reverse, before.reverse, by simp, by simpa using other⟩

/-- What holds of the names and of the values that are set holds of all entries. -/
theorem forall_entries_set {named valued : String → Prop} (isNamed : named name)
    (isValued : valued value) (all : ∀ entry ∈ headers.entries, named entry.1 ∧ valued entry.2) :
    ∀ entry ∈ (headers.set name value).entries, named entry.1 ∧ valued entry.2 := by
  obtain ⟨entries⟩ := headers
  simp only [set] at all ⊢
  induction entries with
  | nil => simpa [setEntry] using ⟨isNamed, isValued⟩
  | cons entry rest ih =>
    rw [List.forall_mem_cons] at all
    rw [setEntry]
    split
    · exact List.forall_mem_cons.mpr ⟨⟨all.1.1, isValued⟩, all.2⟩
    · exact List.forall_mem_cons.mpr ⟨all.1, ih all.2⟩

/-- Setting another name does not bring a name in. -/
theorem Lacks.set {other : String} (lacks : headers.Lacks other)
    (unlike : sameLetters name other = false) (value : String) :
    (headers.set name value).Lacks other := by
  have both : ∀ entry ∈ headers.entries, sameLetters entry.1 other = false ∧ True :=
    fun entry inside => ⟨lacks entry inside, trivial⟩
  intro entry inside
  exact (@forall_entries_set headers name value (fun text => sameLetters text other = false)
    (fun _ => True) unlike trivial both entry inside).1

/-- What holds of the names and of the values of some pairs holds of all entries of their map. -/
theorem forall_entries_ofList {named valued : String → Prop} {pairs : List (String × String)}
    (all : ∀ pair ∈ pairs, named pair.1 ∧ valued pair.2) :
    ∀ entry ∈ (ofList pairs).entries, named entry.1 ∧ valued entry.2 := by
  induction pairs using List.reverseRecOn with
  | nil => simp [ofList, empty]
  | append_singleton pairs pair ih =>
    rw [List.forall_mem_append, List.forall_mem_singleton] at all
    rw [ofList_concat]
    exact forall_entries_set all.2.1 all.2.2 (ih all.1)

/-- No two entries have names that are equal up to case. -/
def Distinct (headers : Headers) : Prop :=
  headers.entries.Pairwise fun earlier later => sameLetters later.1 earlier.1 = false

/-- Setting a name keeps names distinct. -/
theorem Distinct.set (distinct : headers.Distinct) (name value : String) :
    (headers.set name value).Distinct := by
  obtain ⟨entries⟩ := headers
  simp only [Distinct, Headers.set] at distinct ⊢
  induction entries with
  | nil => exact List.pairwise_singleton _ _
  | cons entry rest ih =>
    rw [List.pairwise_cons] at distinct
    rw [setEntry]
    split
    · exact List.pairwise_cons.mpr distinct
    · rename_i other
      have lacks : Lacks ⟨rest⟩ entry.1 := distinct.1
      have unlike : sameLetters name entry.1 = false := by
        rw [Text.sameLetters_comm]
        simpa using other
      exact List.pairwise_cons.mpr ⟨lacks.set unlike value, ih distinct.2⟩

/-- A map made by setting pairs has distinct names. -/
theorem distinct_ofList (pairs : List (String × String)) : (ofList pairs).Distinct := by
  induction pairs using List.reverseRecOn with
  | nil => exact List.Pairwise.nil
  | append_singleton pairs pair ih =>
    rw [ofList_concat]
    exact ih.set pair.1 pair.2

/-- A map with distinct names is what setting its entries makes. -/
theorem Distinct.ofList_entries (distinct : headers.Distinct) :
    ofList headers.entries = headers := by
  obtain ⟨entries⟩ := headers
  simp only [Distinct] at distinct ⊢
  induction entries using List.reverseRecOn with
  | nil => rfl
  | append_singleton entries entry ih =>
    rw [List.pairwise_append] at distinct
    have lacks : Lacks ⟨entries⟩ entry.1 := by
      intro earlier inside
      rw [Text.sameLetters_comm]
      exact distinct.2.2 earlier inside entry List.mem_cons_self
    rw [ofList_concat, ih distinct.1, ← lacks.entries_set entry.2]

end Headers

end OriginServer

import Mathlib.Data.List.DropRight
import OriginServer.Proofs.Routing.Redirect

/-!
# The directory form of a path

The directory form of a path is its front with the slashes at its end, of which there is at least
one. So it is the front with exactly one slash only if the path ends in one slash at most, and a
doubled slash at the end of a path gets into every candidate for its index. Paths that differ in the
slashes at their ends have the same index candidates exactly if one of them ends in no slash and the
other in one (`Path.resolveIndex_exact`).
-/
namespace OriginServer

namespace Path

/-! ## Slashes at the end -/

/-- Some slashes in a row. -/
def slashes (count : Nat) : String := String.ofList (List.replicate count '/')

/-- A path without the slashes at its end. -/
def front (path : String) : String := String.ofList (path.toList.rdropWhile (· == '/'))

/-- The number of slashes at the end of a path. -/
def trailing (path : String) : Nat := (path.toList.rtakeWhile (· == '/')).length

/-- The characters of some slashes. -/
@[simp]
theorem toList_slashes (count : Nat) : (slashes count).toList = List.replicate count '/' :=
  String.toList_ofList

/-- A path is its front with the slashes at its end. -/
theorem front_append_slashes (path : String) : front path ++ slashes (trailing path) = path := by
  have same : path.toList.rtakeWhile (· == '/') = List.replicate (trailing path) '/' := by
    rw [List.eq_replicate_iff]
    refine ⟨rfl, fun char inside => ?_⟩
    simpa using List.mem_rtakeWhile_imp inside
  rw [← String.toList_inj, String.toList_append, toList_slashes, front, String.toList_ofList,
    ← same]
  exact List.rdropWhile_append_rtakeWhile

/-- One slash more at the end leaves the front as it is. -/
theorem front_append_slash (path : String) :
    front (path ++ "/") = front path ∧ trailing (path ++ "/") = trailing path + 1 := by
  have shown : (path ++ "/").toList = path.toList ++ ['/'] := by simp
  constructor
  · rw [front, shown, List.rdropWhile_concat_pos _ _ _ (by decide), front]
  · rw [trailing, shown, List.rtakeWhile_concat_pos _ _ _ (by decide), List.length_append,
      trailing, List.length_singleton]

/-- More slashes at the end leave the front as it is. -/
theorem front_append (path : String) (more : Nat) :
    front (path ++ slashes more) = front path ∧
      trailing (path ++ slashes more) = trailing path + more := by
  induction more with
  | zero =>
    have none : path ++ slashes 0 = path := by simp [slashes]
    rw [none]
    exact ⟨rfl, rfl⟩
  | succ more ih =>
    have last : path ++ slashes (more + 1) = path ++ slashes more ++ "/" := by
      rw [← String.toList_inj]
      simp [List.replicate_succ']
    obtain ⟨sameFront, longer⟩ := front_append_slash (path ++ slashes more)
    rw [last, sameFront, longer, ih.1, ih.2, Nat.add_assoc]
    exact ⟨rfl, rfl⟩

/-- No slash stands at the end of a front. -/
theorem trailing_front (path : String) : trailing (front path) = 0 := by
  have longer := (front_append (front path) (trailing path)).2
  rw [front_append_slashes] at longer
  omega

/-- Behind one front, different numbers of slashes make different paths. -/
theorem front_append_inj {path : String} {count other : Nat} :
    front path ++ slashes count = front path ++ slashes other ↔ count = other := by
  constructor
  · intro same
    have ends := congrArg trailing same
    rw [(front_append _ _).2, (front_append _ _).2] at ends
    omega
  · rintro rfl
    rfl

/-- A path names a directory exactly if it ends in a slash. -/
theorem isDirectory_iff {path : String} : isDirectory path = true ↔ 0 < trailing path := by
  constructor
  · intro directory
    rw [isDirectory, beq_iff_eq, List.getLast?_eq_some_iff] at directory
    obtain ⟨start, shown⟩ := directory
    rw [trailing, shown, List.rtakeWhile_concat_pos _ _ _ (by decide), List.length_append,
      List.length_singleton]
    omega
  · intro some
    obtain ⟨fewer, count⟩ := Nat.exists_eq_succ_of_ne_zero (Nat.ne_of_gt some)
    have last : path = front path ++ slashes fewer ++ "/" := by
      conv => lhs; rw [← front_append_slashes path, count]
      rw [← String.toList_inj]
      simp [List.replicate_succ']
    rw [last]
    exact isDirectory_slash _

/-- The directory form of a path is its front with the slashes at its end, or with one slash if
there are none. -/
theorem directoryForm_eq (path : String) :
    directoryForm path = front path ++ slashes (max 1 (trailing path)) := by
  rw [directoryForm]
  by_cases directory : isDirectory path = true
  · have some : 0 < trailing path := isDirectory_iff.mp directory
    have most : max 1 (trailing path) = trailing path := by omega
    rw [if_pos directory, most, front_append_slashes]
  · have none : trailing path = 0 := by
      have := mt isDirectory_iff.mpr directory
      omega
    have whole := front_append_slashes path
    rw [none] at whole
    rw [if_neg directory, none]
    conv => lhs; rw [← whole]
    simp [slashes]

/-! ## Candidates for an index -/

/-- Providers are asked for the path that is looked for. -/
theorem path_of_mem_resolveFrom {providers : List Provider} {slot : Nat} {path : String} :
    ∀ question ∈ (resolveFrom slot path providers).questions, question.path = path := by
  induction providers generalizing slot with
  | nil => simp [resolveFrom]
  | cons provider rest ih =>
    intro question inside
    rw [resolveFrom] at inside
    by_cases granted : (provider.claims path).granted = true
    · simp only [granted, if_true, List.mem_singleton] at inside
      rw [inside]
    · simp only [granted, Bool.false_eq_true, if_false, List.mem_cons] at inside
      rcases inside with rfl | inside
      · rfl
      · exact ih question inside

/-- Below a directory, providers are asked for index names only, and one of these is found. -/
theorem path_of_resolveIndexBelow (providers : List Provider) (directory : String)
    (names : List String) :
    (∀ question ∈ (resolveIndexBelow providers directory names).questions,
      ∃ name ∈ names, question.path = directory ++ name) ∧
    ∀ index ∈ (resolveIndexBelow providers directory names).found,
      ∃ name ∈ names, index.path = directory ++ name := by
  induction names with
  | nil => simp [resolveIndexBelow]
  | cons name rest ih =>
    have asked : ∀ question ∈ (resolve providers (directory ++ name)).questions,
        question.path = directory ++ name := path_of_mem_resolveFrom
    rw [resolveIndexBelow]
    cases found : (resolve providers (directory ++ name)).found with
    | some hit =>
      constructor
      · exact fun question inside => ⟨name, List.mem_cons_self, asked question inside⟩
      · intro index here
        exact ⟨name, List.mem_cons_self, by rw [← Option.some.inj here]⟩
    | none =>
      constructor
      · intro question inside
        rcases List.mem_append.mp inside with inside | inside
        · exact ⟨name, List.mem_cons_self, asked question inside⟩
        · obtain ⟨other, among, same⟩ := ih.1 question inside
          exact ⟨other, List.mem_cons_of_mem _ among, same⟩
      · intro index here
        obtain ⟨other, among, same⟩ := ih.2 index here
        exact ⟨other, List.mem_cons_of_mem _ among, same⟩

/-- A provider that claims every path. -/
def eager : Provider := ⟨"eager", fun _ => ⟨true, []⟩, fun _ _ _ => default⟩

/-- A provider that claims every path answers for the directory form itself if the index name is
empty. -/
theorem found_of_eager (path : String) :
    (resolveIndex [eager] [""] path).found = some ⟨0, eager, directoryForm path⟩ := by
  have whole : directoryForm path ++ "" = directoryForm path := by simp
  rw [resolveIndex, resolveIndexBelow, whole]
  rfl

/-- **What the directory form keeps.** The directory form of a path is its front with as many
slashes as it ends in, and at least one; so it ends in exactly one slash if the path ends in one at
most, and in a doubled slash else. Every candidate for an index, and the one that is found, is the
directory form followed by an index name. With more slashes at its end, a path has the same
candidates and the same index for all providers and index names exactly if it ends in none and gets
one. -/
theorem resolveIndex_exact (path : String) :
    directoryForm path = front path ++ slashes (max 1 (trailing path)) ∧
    (directoryForm path = front path ++ "/" ↔ trailing path ≤ 1) ∧
    ((∃ start, directoryForm path = start ++ "//") ↔ 1 < trailing path) ∧
    (∀ providers names,
      (∀ question ∈ (resolveIndex providers names path).questions,
        ∃ name ∈ names, question.path = directoryForm path ++ name) ∧
      ∀ index ∈ (resolveIndex providers names path).found,
        ∃ name ∈ names, index.path = directoryForm path ++ name) ∧
    ∀ more, (∀ providers names,
        resolveIndex providers names (path ++ slashes more) = resolveIndex providers names path) ↔
      more = 0 ∨ trailing path = 0 ∧ more = 1 := by
  refine ⟨directoryForm_eq path, ?_, ?_, ?_, ?_⟩
  · have one : "/" = slashes 1 := rfl
    rw [directoryForm_eq, one, front_append_inj]
    omega
  · have two : "//" = slashes 2 := rfl
    rw [directoryForm_eq, two]
    constructor
    · rintro ⟨start, same⟩
      have ends := congrArg trailing same
      rw [(front_append _ _).2, (front_append _ _).2, trailing_front] at ends
      omega
    · intro doubled
      refine ⟨front path ++ slashes (trailing path - 2), ?_⟩
      have count : max 1 (trailing path) = trailing path - 2 + 2 := by omega
      rw [← String.toList_inj, count]
      simp [List.replicate_add]
  · intro providers names
    exact path_of_resolveIndexBelow providers (directoryForm path) names
  · intro more
    have sameForm : directoryForm (path ++ slashes more) = directoryForm path ↔
        more = 0 ∨ trailing path = 0 ∧ more = 1 := by
      obtain ⟨sameFront, longer⟩ := front_append path more
      rw [directoryForm_eq, directoryForm_eq, sameFront, longer, front_append_inj]
      omega
    rw [← sameForm]
    constructor
    · intro same
      have found := congrArg IndexResolution.found (same [eager] [""])
      rw [found_of_eager, found_of_eager, Option.some.injEq, IndexMatch.mk.injEq] at found
      exact found.2.2
    · intro same providers names
      rw [resolveIndex, resolveIndex, same]

/-- With a slash at its end or without one, a directory has the same index. -/
theorem resolveIndex_exact_docs :
    let config := ServerConfig.docsConfig
    directoryForm "/docs" = "/docs/" ∧
      (⟨0, "/docs/index.html", ⟨true, []⟩⟩ : Question) ∈
        (resolveIndex config.providers config.directoryIndex "/docs").questions ∧
      (∃ name ∈ config.directoryIndex, "/docs/index.html" = "/docs/" ++ name) ∧
      resolveIndex config.providers config.directoryIndex "/docs/" =
        resolveIndex config.providers config.directoryIndex "/docs" := by
  intro config
  have none : trailing "/docs" = 0 := by decide +kernel
  have asked : (⟨0, "/docs/index.html", ⟨true, []⟩⟩ : Question) ∈
      (resolveIndex config.providers config.directoryIndex "/docs").questions := by decide +kernel
  obtain ⟨-, exactly, -, candidates, same⟩ := resolveIndex_exact "/docs"
  have form : directoryForm "/docs" = "/docs/" := (exactly.mpr (by omega)).trans (by decide +kernel)
  obtain ⟨name, listed, candidate⟩ := (candidates config.providers config.directoryIndex).1 _ asked
  rw [form] at candidate
  exact ⟨form, asked, ⟨name, listed, candidate⟩, (same 1).mpr (.inr ⟨none, rfl⟩) _ _⟩

/-- A path that ends in two slashes keeps both in its directory form, so that the index that is
found without them, and with one, is not found. -/
theorem exists_doubled_slash :
    let config := ServerConfig.docsConfig
    directoryForm "/docs//" ≠ front "/docs//" ++ "/" ∧
      (resolveIndex config.providers config.directoryIndex "/docs").found.isSome = true ∧
      (resolveIndex config.providers config.directoryIndex "/docs/").found.isSome = true ∧
      (resolveIndex config.providers config.directoryIndex "/docs//").found.isSome = false := by
  decide +kernel

end Path

end OriginServer

import Mathlib.Data.List.Forall2
import OriginServer.Settings.Assembly

/-!
# What an assembled server consists of

`Server.ofSettings` succeeds exactly if each of its checks does, and then the server consists of
what the checks gave (`ofSettings_eq_ok_iff`). Patterns and methods are checked one after the other:
either all of them pass, or the first one that does not is reported (`mapM_checked`).
-/
namespace OriginServer

/-! ## Checks in order -/

/-- Two checks in order succeed exactly if the first one does and the second one after it. -/
theorem except_bind_eq_ok_iff {ε α β : Type} {first : Except ε α} {next : α → Except ε β}
    {result : β} :
    (first >>= next) = .ok result ↔ ∃ value, first = .ok value ∧ next value = .ok result := by
  cases first with
  | error cause => simp [bind, Except.bind]
  | ok value => simp [bind, Except.bind]

/-- A list passes a check exactly if each item does, and gives what the items give. -/
theorem mapM_eq_ok_iff {ε α β : Type} {check : α → Except ε β} {items : List α}
    {results : List β} :
    items.mapM check = .ok results ↔
      List.Forall₂ (fun item result => check item = .ok result) items results := by
  induction items generalizing results with
  | nil =>
    rw [List.forall₂_nil_left_iff]
    exact ⟨fun passed => (Except.ok.inj passed).symm, fun empty => congrArg Except.ok empty.symm⟩
  | cons item rest ih =>
    rw [List.mapM_cons, except_bind_eq_ok_iff, List.forall₂_cons_left_iff]
    refine exists_congr fun result => ?_
    rw [except_bind_eq_ok_iff]
    constructor
    · rintro ⟨passed, others, later, ⟨⟩⟩
      exact ⟨others, passed, ih.mp later, rfl⟩
    · rintro ⟨others, passed, later, rfl⟩
      exact ⟨passed, others, ih.mpr later, rfl⟩

/-- An item is the first one of a list that does not pass a check. -/
structure FirstFault {α : Type} (passes : α → Prop) (items : List α) (item : α) : Prop where
  /-- The item stands behind items that pass. -/
  first : ∃ before after, items = before ++ item :: after ∧ ∀ earlier ∈ before, passes earlier
  /-- It does not pass. -/
  fails : ¬passes item

/-- Unless all items pass, one of them is the first that does not. -/
theorem exists_firstFault {α : Type} {passes : α → Prop} {items : List α}
    (faulty : ¬∀ item ∈ items, passes item) : ∃ item, FirstFault passes items item := by
  induction items with
  | nil => exact absurd (fun _ inside => absurd inside List.not_mem_nil) faulty
  | cons item rest ih =>
    by_cases passed : passes item
    · rw [List.forall_mem_cons] at faulty
      obtain ⟨found, ⟨before, after, rfl, earlier⟩, fails⟩ :=
        ih fun later => faulty ⟨passed, later⟩
      exact ⟨found, ⟨item :: before, after, rfl, List.forall_mem_cons.mpr ⟨passed, earlier⟩⟩,
        fails⟩
    · exact ⟨item, ⟨[], rest, rfl, by simp⟩, passed⟩

/-- A check that succeeds for what passes, and has a cause for what does not, goes through a list of
items that pass, and otherwise gives the cause for the first item that does not. -/
theorem mapM_checked {ε α β : Type} {check : α → Except ε β} {passes : α → Prop} {cause : α → ε}
    (pass : ∀ item, passes item → ∃ result, check item = .ok result)
    (fail : ∀ item, ¬passes item → check item = .error (cause item)) (items : List α) :
    ((∀ item ∈ items, passes item) → ∃ results, items.mapM check = .ok results) ∧
      ∀ item, FirstFault passes items item → items.mapM check = .error (cause item) := by
  constructor
  · intro passed
    induction items with
    | nil => exact ⟨[], rfl⟩
    | cons item rest ih =>
      rw [List.forall_mem_cons] at passed
      obtain ⟨result, first⟩ := pass item passed.1
      obtain ⟨results, later⟩ := ih passed.2
      exact ⟨result :: results, mapM_eq_ok_iff.mpr (.cons first (mapM_eq_ok_iff.mp later))⟩
  · rintro item ⟨⟨before, after, rfl, passed⟩, fails⟩
    induction before with
    | nil => simp [fail item fails, bind, Except.bind]
    | cons head before ih =>
      rw [List.forall_mem_cons] at passed
      obtain ⟨result, first⟩ := pass head passed.1
      simp [first, ih passed.2, bind, Except.bind]

/-! ## The checks of settings -/

/-- Methods are accepted exactly if each text spells the method in its place. -/
theorem Settings.methods_eq_ok_iff {settings : Settings} {methods : List Method} :
    settings.methods = .ok methods ↔
      settings.supportedMethods.map Method.parse? = methods.map some := by
  rw [Settings.methods, mapM_eq_ok_iff, ← List.forall₂_eq_eq_eq, List.forall₂_map_left_iff,
    List.forall₂_map_right_iff]
  refine iff_of_eq (congrArg (fun relation => List.Forall₂ relation _ _) ?_)
  funext text method
  cases Method.parse? text <;> simp

/-- Filter mappings are accepted exactly if each can be built. -/
theorem Settings.filterMappings_eq_ok_iff {settings : Settings} {mappings : List FilterMapping} :
    settings.filterMappings = .ok mappings ↔
      List.Forall₂ (fun declared mapping => FilterMapping.build? declared.included
        declared.excluded declared.filter = some mapping) settings.filters mappings := by
  rw [filterMappings, mapM_eq_ok_iff]
  refine iff_of_eq (congrArg (fun relation => List.Forall₂ relation _ _) ?_)
  funext declared mapping
  cases FilterMapping.build? declared.included declared.excluded declared.filter <;> simp

/-- Mappings are attached exactly if every filter is registered, and then behind the earlier
ones. -/
theorem HandlerProvider.attach_eq_ok_iff {handlers attached : HandlerProvider}
    {mappings : List FilterMapping} :
    handlers.attach mappings = .ok attached ↔
      (∀ mapping ∈ mappings, (handlers.filter? mapping.filter).isSome = true) ∧
        attached = { handlers with mappings := handlers.mappings ++ mappings } := by
  rw [attach]
  cases found : mappings.find? fun mapping => (handlers.filter? mapping.filter).isNone with
  | none =>
    have registered : ∀ mapping ∈ mappings, (handlers.filter? mapping.filter).isSome = true := by
      intro mapping inside
      have known := List.find?_eq_none.mp found mapping inside
      simpa [Option.isSome_iff_ne_none] using known
    constructor
    · intro attached
      exact ⟨registered, (Except.ok.inj attached).symm⟩
    · rintro ⟨_, rfl⟩
      rfl
  | some mapping =>
    have unknown := List.find?_some found
    constructor
    · intro attached
      cases attached
    · rintro ⟨registered, _⟩
      have known := registered mapping (List.mem_of_find?_eq_some found)
      rw [Option.isNone_iff_eq_none.mp unknown] at known
      cases known

namespace Server

/-- A server is made from settings exactly if every check succeeds, and it consists of what the
checks gave. -/
theorem ofSettings_eq_ok_iff {settings : Settings} {handlers : HandlerProvider}
    {tree : FileTree} {server : Server} :
    ofSettings settings handlers tree = .ok server ↔
      ∃ mappings attached methods notFound forbidden,
        settings.filterMappings = .ok mappings ∧ handlers.attach mappings = .ok attached ∧
        settings.methods = .ok methods ∧
        ErrorDocuments.content tree settings.errorDocuments.notFound = .ok notFound ∧
        ErrorDocuments.content tree settings.errorDocuments.forbidden = .ok forbidden ∧
        server =
          { config :=
              { providers := attached.toProvider :: settings.documentRoot.toList.map fun root =>
                  (⟨Utf8.encode root, tree⟩ : FileProvider).toProvider
                directoryIndex := settings.directoryIndex
                supportedMethods := methods
                keepAlive := settings.keepAlive
                signature := settings.signature }
            pages := ⟨methods, notFound, forbidden⟩
            observer := Observer.logging } := by
  simp only [ofSettings, ServerConfig.ofSettings, except_bind_eq_ok_iff, pure, Except.pure]
  constructor
  · rintro ⟨mappings, mapped, attached, attachment, _, ⟨methods, valid, ⟨⟩⟩, notFound, readable,
      forbidden, otherReadable, ⟨⟩⟩
    exact ⟨mappings, attached, methods, notFound, forbidden, mapped, attachment, valid, readable,
      otherReadable, rfl⟩
  · rintro ⟨mappings, attached, methods, notFound, forbidden, mapped, attachment, valid, readable,
      otherReadable, rfl⟩
    exact ⟨mappings, mapped, attached, attachment, _, ⟨methods, valid, rfl⟩, notFound, readable,
      forbidden, otherReadable, rfl⟩

end Server

end OriginServer

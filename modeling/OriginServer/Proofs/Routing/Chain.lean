import Mathlib.Data.List.Induction
import OriginServer.Proofs.Settings.Assembly

/-!
# Filters before a handler

A provider of handlers is set up by calls, in any order and number: handlers and filters are
registered, also again under a key that is taken, and mappings are attached. What it then makes of a
request follows from these calls alone (`load_eq_iff_answered`). In particular no filter is left out
of a chain: an attached mapping names a registered filter, and no later call takes that back
(`Gathered.registered`).
-/
namespace OriginServer

/-- A call that sets up a provider of handlers. -/
inductive Registration where
  /-- A handler is registered for a path. -/
  | route (path : String) (handler : Handler)
  /-- A filter is registered under a name. -/
  | addFilter (name : String) (filter : Filter)
  /-- Mappings are attached. -/
  | attach (mappings : List FilterMapping)

namespace Registration

/-- The handler that a call registers. -/
def handler? : Registration → Option (String × Handler)
  | route path handler => some (path, handler)
  | _ => none

/-- The filter that a call registers. -/
def filter? : Registration → Option (String × Filter)
  | addFilter name filter => some (name, filter)
  | _ => none

/-- The mappings that a call attaches. -/
def mappings : Registration → List FilterMapping
  | attach mappings => mappings
  | _ => []

end Registration

namespace HandlerProvider

/-- Make one call. -/
def register (provider : HandlerProvider) : Registration → Except SettingsError HandlerProvider
  | .route path handler => .ok (provider.route path handler)
  | .addFilter name filter => .ok (provider.addFilter name filter)
  | .attach mappings => provider.attach mappings

/-- Make calls in order, from a provider without handlers. -/
def setUp (calls : List Registration) : Except SettingsError HandlerProvider :=
  calls.foldlM register empty

/-! ## What the calls leave -/

/-- What a provider has gathered from the calls that set it up. -/
structure Gathered (calls : List Registration) (provider : HandlerProvider) : Prop where
  /-- The handlers are the registered ones, the last one first. -/
  handlers : provider.handlers = (calls.filterMap Registration.handler?).reverse
  /-- The filters are the registered ones, the last one first. -/
  filters : provider.filters = (calls.filterMap Registration.filter?).reverse
  /-- The mappings are the attached ones, over all calls. -/
  mappings : provider.mappings = calls.flatMap Registration.mappings
  /-- Every mapping names a registered filter. -/
  registered : ∀ mapping ∈ provider.mappings, (provider.filter? mapping.filter).isSome = true

/-- A registered filter stays registered when another one is added. -/
theorem isSome_filter?_addFilter {provider : HandlerProvider} {name other : String}
    (filter : Filter) (registered : (provider.filter? other).isSome = true) :
    ((provider.addFilter name filter).filter? other).isSome = true := by
  rw [filter?, addFilter, List.lookup_cons]
  split
  · rfl
  · exact registered

/-- Every call keeps what was gathered and adds its own part. -/
theorem Gathered.register {calls : List Registration} {call : Registration}
    {provider next : HandlerProvider} (gathered : Gathered calls provider)
    (called : provider.register call = .ok next) : Gathered (calls ++ [call]) next := by
  obtain ⟨handlers, filters, mappings, registered⟩ := gathered
  cases call with
  | route path handler =>
    obtain rfl := Except.ok.inj called
    exact
      { handlers := by simp [route, handlers, Registration.handler?]
        filters := by simp [route, filters, Registration.filter?]
        mappings := by simp [route, mappings, Registration.mappings]
        registered := registered }
  | addFilter name filter =>
    obtain rfl := Except.ok.inj called
    exact
      { handlers := by simp [addFilter, handlers, Registration.handler?]
        filters := by simp [addFilter, filters, Registration.filter?]
        mappings := by simp [addFilter, mappings, Registration.mappings]
        registered := fun mapping inside =>
          isSome_filter?_addFilter filter (registered mapping inside) }
  | attach added =>
    obtain ⟨known, rfl⟩ := attach_eq_ok_iff.mp called
    refine
      { handlers := by simp [handlers, Registration.handler?]
        filters := by simp [filters, Registration.filter?]
        mappings := by simp [mappings, Registration.mappings]
        registered := ?_ }
    intro mapping inside
    rcases List.mem_append.mp inside with earlier | late
    · exact registered mapping earlier
    · exact known mapping late

/-- A provider that was set up has gathered all calls. -/
theorem gathered_of_setUp {calls : List Registration} {provider : HandlerProvider}
    (ready : setUp calls = .ok provider) : Gathered calls provider := by
  induction calls using List.reverseRecOn generalizing provider with
  | nil =>
    obtain rfl := Except.ok.inj ready
    exact ⟨rfl, rfl, rfl, fun mapping inside => absurd inside List.not_mem_nil⟩
  | append_singleton calls call ih =>
    rw [setUp, List.foldlM_append, except_bind_eq_ok_iff] at ready
    obtain ⟨before, earlier, called⟩ := ready
    rw [List.foldlM_cons, except_bind_eq_ok_iff] at called
    obtain ⟨after, called, same⟩ := called
    obtain rfl := Except.ok.inj same
    exact (ih earlier).register called

/-- A value is the one that was registered last under a key. -/
def Latest {α : Type} (entries : List (String × α)) (key : String) (value : α) : Prop :=
  ∃ before after, entries = before ++ (key, value) :: after ∧ ∀ entry ∈ after, entry.1 ≠ key

/-- What is found from the end is what was registered last. -/
theorem lookup_reverse_eq_some_iff {α : Type} {entries : List (String × α)} {key : String}
    {value : α} : entries.reverse.lookup key = some value ↔ Latest entries key value := by
  rw [List.lookup_eq_some_iff]
  constructor
  · rintro ⟨after, before, whole, others⟩
    refine ⟨before.reverse, after.reverse, ?_, ?_⟩
    · rw [← List.reverse_reverse entries, whole]
      simp
    · intro entry inside same
      simpa [same] using others entry (List.mem_reverse.mp inside)
  · rintro ⟨before, after, rfl, others⟩
    refine ⟨after.reverse, before.reverse, by simp, ?_⟩
    intro entry inside
    simpa using (others entry (List.mem_reverse.mp inside)).symm

variable {calls : List Registration} {provider : HandlerProvider} {path : String}
variable {request : Request} {handler : Handler}

/-- The handler for a path is the one that was registered last for it. -/
theorem Gathered.handler?_eq_some_iff (gathered : Gathered calls provider) :
    provider.handler? path = some handler ↔
      Latest (calls.filterMap Registration.handler?) path handler := by
  rw [handler?, gathered.handlers, lookup_reverse_eq_some_iff]

/-- There is no handler for a path exactly if none was registered for it. -/
theorem Gathered.handler?_eq_none_iff (gathered : Gathered calls provider) :
    provider.handler? path = none ↔
      ∀ entry ∈ calls.filterMap Registration.handler?, entry.1 ≠ path := by
  rw [handler?, gathered.handlers, List.lookup_eq_none_iff]
  simp only [List.mem_reverse, bne_iff_ne, ne_comm]

/-- The filter under a name is the one that was registered last under it. -/
theorem Gathered.filter?_eq_some_iff (gathered : Gathered calls provider) {name : String}
    {filter : Filter} :
    provider.filter? name = some filter ↔
      Latest (calls.filterMap Registration.filter?) name filter := by
  rw [filter?, gathered.filters, lookup_reverse_eq_some_iff]

/-! ## Chains of filters -/

/-- A filter in a chain, with the mapping that put it there. -/
abbrev Guard := FilterMapping × Filter

/-- Filters run one after the other, and each of them lets the request go on. They turn the response
that is given into the one that is left. -/
inductive Passed (request : Request) : List Guard → Response → Response → Prop where
  /-- There is no filter. -/
  | none {response : Response} : Passed request [] response response
  /-- The first filter lets the request go on, and so do the others after it. -/
  | more {mapping : FilterMapping} {filter : Filter} {rest : List Guard}
      {given changed left : Response} (proceeds : filter request given = (changed, .ok .proceed))
      (passed : Passed request rest changed left) :
      Passed request ((mapping, filter) :: rest) given left

/-- What filters and a handler behind them make of a response. -/
inductive Chain (path : String) (request : Request) (handler : Handler) (guards : List Guard)
    (given : Response) : Rendering → Prop where
  /-- All filters let the request go on, and the handler finishes. -/
  | answered {reached left : Response} (passed : Passed request guards given reached)
      (finishes : handler request reached = (left, .ok ())) :
      Chain path request handler guards given ⟨left, .done, [], []⟩
  /-- All filters let the request go on, and the handler fails. -/
  | refused {reached left : Response} {failure : Failure}
      (passed : Passed request guards given reached)
      (fails : handler request reached = (left, .error failure)) :
      Chain path request handler guards given ⟨left, .failed failure, [], []⟩
  /-- A filter stops the request, the first that does not let it go on. -/
  | stopped {earlier later : List Guard} {mapping : FilterMapping} {filter : Filter}
      {reached left : Response} (split : guards = earlier ++ (mapping, filter) :: later)
      (passed : Passed request earlier given reached)
      (stops : filter request reached = (left, .ok .stop)) :
      Chain path request handler guards given ⟨left, .done, [stoppedRecord mapping path], []⟩
  /-- A filter fails, the first that does not let the request go on. -/
  | failed {earlier later : List Guard} {mapping : FilterMapping} {filter : Filter}
      {reached left : Response} {failure : Failure}
      (split : guards = earlier ++ (mapping, filter) :: later)
      (passed : Passed request earlier given reached)
      (fails : filter request reached = (left, .error failure)) :
      Chain path request handler guards given ⟨left, .failed failure, [], []⟩

/-- A filter that lets a request go on can be put before a chain. -/
theorem Chain.cons {mapping : FilterMapping} {filter : Filter} {guards : List Guard}
    {given changed : Response} {rendering : Rendering}
    (proceeds : filter request given = (changed, .ok .proceed))
    (chain : Chain path request handler guards changed rendering) :
    Chain path request handler ((mapping, filter) :: guards) given rendering := by
  cases chain with
  | answered passed finishes => exact .answered (.more proceeds passed) finishes
  | refused passed fails => exact .refused (.more proceeds passed) fails
  | stopped split passed stops =>
    exact .stopped (by rw [split, List.cons_append]) (.more proceeds passed) stops
  | failed split passed fails =>
    exact .failed (by rw [split, List.cons_append]) (.more proceeds passed) fails

/-- The filters of a chain are those that a provider has under the names of the mappings. -/
def Supplies (provider : HandlerProvider) (guards : List Guard) : Prop :=
  ∀ guard ∈ guards, provider.filter? guard.1.filter = some guard.2

/-- If every mapping names a registered filter, there is a filter for each of them. -/
theorem exists_guards {mappings : List FilterMapping}
    (registered : ∀ mapping ∈ mappings, (provider.filter? mapping.filter).isSome = true) :
    ∃ guards, guards.map Prod.fst = mappings ∧ provider.Supplies guards := by
  induction mappings with
  | nil => exact ⟨[], rfl, fun guard inside => absurd inside List.not_mem_nil⟩
  | cons mapping rest ih =>
    obtain ⟨filter, found⟩ := Option.isSome_iff_exists.mp (registered mapping List.mem_cons_self)
    obtain ⟨guards, same, supplies⟩ := ih fun other inside =>
      registered other (List.mem_cons_of_mem _ inside)
    exact ⟨(mapping, filter) :: guards, congrArg (mapping :: ·) same,
      List.forall_mem_cons.mpr ⟨found, supplies⟩⟩

/-- What runs of filters and a handler make of a response is what their chain does. -/
theorem chain_runChain {guards : List Guard} (supplies : provider.Supplies guards)
    (given : Response) :
    Chain path request handler guards given
      (provider.runChain path request handler (guards.map Prod.fst) given) := by
  induction guards generalizing given with
  | nil =>
    rw [List.map_nil, runChain]
    split
    · rename_i finishes
      exact .answered .none finishes
    · rename_i fails
      exact .refused .none fails
  | cons guard rest ih =>
    obtain ⟨mapping, filter⟩ := guard
    obtain ⟨found, others⟩ := List.forall_mem_cons.mp supplies
    simp only [List.map_cons, runChain, found]
    split
    · rename_i proceeds
      exact (ih others _).cons proceeds
    · rename_i stops
      exact .stopped rfl .none stops
    · rename_i fails
      exact .failed rfl .none fails

/-- Filters that let a request go on hand it to what follows them. -/
theorem Passed.runChain_append {guards : List Guard} {later : List FilterMapping}
    {given left : Response} (passed : Passed request guards given left)
    (supplies : provider.Supplies guards) :
    provider.runChain path request handler (guards.map Prod.fst ++ later) given =
      provider.runChain path request handler later left := by
  induction passed with
  | none => rfl
  | more proceeds passed ih =>
    obtain ⟨found, others⟩ := List.forall_mem_cons.mp supplies
    simp only [List.map_cons, List.cons_append, runChain, found, proceeds]
    exact ih others

/-- The filters before and behind a place, and the one there, are supplied. -/
theorem Supplies.split {earlier later : List Guard} {mapping : FilterMapping} {filter : Filter}
    (supplies : provider.Supplies (earlier ++ (mapping, filter) :: later)) :
    provider.Supplies earlier ∧ provider.filter? mapping.filter = some filter := by
  refine ⟨fun guard inside => supplies guard (List.mem_append_left _ inside), ?_⟩
  exact supplies (mapping, filter) (List.mem_append_right _ List.mem_cons_self)

/-- A chain makes one thing of a response. -/
theorem Chain.runChain_eq {guards : List Guard} {given : Response} {rendering : Rendering}
    (chain : Chain path request handler guards given rendering)
    (supplies : provider.Supplies guards) :
    provider.runChain path request handler (guards.map Prod.fst) given = rendering := by
  cases chain with
  | answered passed finishes =>
    rw [← List.append_nil (guards.map Prod.fst), passed.runChain_append supplies]
    simp only [runChain, finishes]
  | refused passed fails =>
    rw [← List.append_nil (guards.map Prod.fst), passed.runChain_append supplies]
    simp only [runChain, fails]
  | stopped split passed stops =>
    subst split
    obtain ⟨before, found⟩ := supplies.split
    rw [List.map_append, passed.runChain_append before]
    simp only [List.map_cons, runChain, found, stops]
  | failed split passed fails =>
    subst split
    obtain ⟨before, found⟩ := supplies.split
    rw [List.map_append, passed.runChain_append before]
    simp only [List.map_cons, runChain, found, fails]

/-! ## What a provider makes of a request -/

/-- The filters that guard a path: one for every attached mapping that applies to it, in the order
in which the mappings were attached. -/
structure Guards (calls : List Registration) (path : String) (guards : List Guard) : Prop where
  /-- No mapping that applies is left out. -/
  mappings : guards.map Prod.fst =
    (calls.flatMap Registration.mappings).filter (·.applies path)
  /-- The filter is the one that was registered last under the name, before or after the mapping was
  attached. -/
  filters : ∀ guard ∈ guards, Latest (calls.filterMap Registration.filter?) guard.1.filter guard.2

/-- What the calls that set up a provider say about its answer to a request. -/
inductive Answered (calls : List Registration) (path : String) (request : Request)
    (given : Response) : Rendering → Prop where
  /-- No handler is registered for the path. Then nothing runs. -/
  | unrouted (absent : ∀ entry ∈ calls.filterMap Registration.handler?, entry.1 ≠ path) :
      Answered calls path request given ⟨given, .failed (.notFound path), [], []⟩
  /-- A handler is registered for the path. The chain of the filters that guard the path decides
  whether it runs. -/
  | routed {handler : Handler} {guards : List Guard} {rendering : Rendering}
      (latest : Latest (calls.filterMap Registration.handler?) path handler)
      (guarded : Guards calls path guards)
      (chain : Chain path request handler guards given rendering) :
      Answered calls path request given rendering

/-- The filters that guard a path are supplied for the mappings that apply to it. -/
theorem Gathered.guards_iff (gathered : Gathered calls provider) {guards : List Guard} :
    Guards calls path guards ↔
      guards.map Prod.fst = provider.mappingsFor path ∧ provider.Supplies guards := by
  rw [mappingsFor, gathered.mappings]
  constructor
  · rintro ⟨mappings, filters⟩
    exact ⟨mappings, fun guard inside => gathered.filter?_eq_some_iff.mpr (filters guard inside)⟩
  · rintro ⟨mappings, supplies⟩
    exact ⟨mappings, fun guard inside => gathered.filter?_eq_some_iff.mp (supplies guard inside)⟩

/-- A path is guarded by filters. -/
theorem Gathered.exists_guards (gathered : Gathered calls provider) (path : String) :
    ∃ guards, Guards calls path guards := by
  have registered : ∀ mapping ∈ provider.mappingsFor path,
      (provider.filter? mapping.filter).isSome = true := by
    intro mapping inside
    exact gathered.registered mapping (List.mem_filter.mp inside).1
  obtain ⟨guards, mappings, supplies⟩ := HandlerProvider.exists_guards registered
  exact ⟨guards, gathered.guards_iff.mpr ⟨mappings, supplies⟩⟩

/-- **Filters guard a handler.** However a provider was set up, its answer to a request is the one
that the calls say: not found without any effect if no handler is registered for the path, and else
what the filters of all mappings that apply make of the response in order, up to the first that
stops or fails, and the handler registered last if there is none. -/
theorem load_eq_iff_answered (ready : setUp calls = .ok provider) (given : Response)
    (rendering : Rendering) :
    provider.load path request given = rendering ↔
      Answered calls path request given rendering := by
  have gathered := gathered_of_setUp ready
  constructor
  · rintro rfl
    cases found : provider.handler? path with
    | none =>
      rw [load, found]
      exact .unrouted (gathered.handler?_eq_none_iff.mp found)
    | some handler =>
      obtain ⟨guards, guarded⟩ := gathered.exists_guards path
      obtain ⟨mappings, supplies⟩ := gathered.guards_iff.mp guarded
      rw [load, found, ← mappings]
      exact .routed (gathered.handler?_eq_some_iff.mp found) guarded
        (chain_runChain supplies given)
  · intro answered
    cases answered with
    | unrouted absent =>
      rw [load, gathered.handler?_eq_none_iff.mpr absent]
    | routed latest guarded chain =>
      obtain ⟨mappings, supplies⟩ := gathered.guards_iff.mp guarded
      rw [load, gathered.handler?_eq_some_iff.mpr latest, ← mappings]
      exact chain.runChain_eq supplies

/-- A mapping for all paths. -/
def everywhere (name : String) : FilterMapping := ⟨⟨"", .empty⟩, none, name⟩

/-- Calls that attach mappings twice and then replace a filter that is mapped. -/
def replacingCalls : List Registration :=
  [.addFilter "auth" fun _ given => (given, .ok .proceed),
    .addFilter "trace" fun _ given => (given.write [116], .ok .proceed),
    .attach [{ everywhere "auth" with excluded := some ⟨"", .empty⟩ }, everywhere "trace"],
    .route "/a" fun _ given => (given.write [97], .ok ()),
    .attach [everywhere "auth"],
    .addFilter "auth" fun _ given => (given.setStatus .forbidden, .ok .stop)]

/-- A request for the path of these calls. -/
def guardedRequest : Request := ⟨.get, "/a", none, "HTTP/1.1", .empty, []⟩

/-- What the filter that was mapped first and the filter that replaced another one leave: the
handler did not run. -/
def stoppedRendering : Rendering where
  response := { Response.initial with status := .forbidden, body := [116] }
  ending := .done
  log := [⟨.debug, "Filter stopped the chain", [("filter", .text "auth"), ("path", .text "/a")]⟩]
  looked := []

/-- A filter that replaced another one stops a request. -/
theorem load_eq_iff_answered_replaced :
    ∃ provider, setUp replacingCalls = .ok provider ∧
      Answered replacingCalls "/a" guardedRequest .initial stoppedRendering := by
  refine ⟨_, rfl, ?_⟩
  exact (load_eq_iff_answered rfl .initial stoppedRendering).mp (by decide +kernel)

end HandlerProvider

end OriginServer

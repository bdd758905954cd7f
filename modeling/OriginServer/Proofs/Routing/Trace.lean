import OriginServer.Routing.Dispatch

/-!
# The calls of providers

Dispatching a request calls providers in a fixed order. `Routed` lists the six ways in which a
request can be routed, each with the calls that are made and the outcome. A request is dispatched
in exactly the way that applies to it (`dispatch_eq_iff_routed`), and what the events say of the
providers on the way is so (`genuine_dispatch`).
-/
namespace OriginServer

/-- A call of the provider at a place. -/
inductive Call where
  /-- The provider is asked whether it claims a path. -/
  | ask (slot : Nat) (path : String)
  /-- The provider is told to load a path. -/
  | load (slot : Nat) (path : String)
  deriving DecidableEq

/-- The call of a provider that an event is. -/
def Event.call? : Event → Option Call
  | asked question => some (.ask question.slot question.path)
  | loaded slot path _ => some (.load slot path)
  | _ => none

/-- The calls of providers among some events, in order. -/
def calls (events : List Event) : List Call := events.filterMap Event.call?

/-- Calls that ask as many providers as given for a path, beginning with the one at a place. -/
def asksFrom (slot count : Nat) (path : String) : List Call :=
  (List.range' slot count).map fun place => .ask place path

/-- Calls that ask the first providers for a path, as many as given. -/
def asks (count : Nat) (path : String) : List Call := asksFrom 0 count path

/-- None of the providers claims a path. -/
def Unclaimed (providers : List Provider) (path : String) : Prop :=
  ∀ provider ∈ providers, (provider.claims path).granted = false

/-- The provider at a place is the first one that claims a path. -/
structure FirstClaim (providers : List Provider) (path : String) (slot : Nat)
    (provider : Provider) : Prop where
  /-- The provider stands at the place. -/
  placed : providers[slot]? = some provider
  /-- It claims the path. -/
  granted : (provider.claims path).granted = true
  /-- No provider before it does. -/
  first : Unclaimed (providers.take slot) path

/-- Calls that ask all providers, as many as given, for some index names below a directory. -/
def indexAsks (count : Nat) (directory : String) (names : List String) : List Call :=
  names.flatMap fun name => asks count (directory ++ name)

/-- Loading is no asking. -/
theorem load_not_mem_asks {slot count : Nat} {path other : String} :
    Call.load slot path ∉ asks count other := by
  simp [asks, asksFrom]

/-- Loading is no asking for indexes. -/
theorem load_not_mem_indexAsks {slot count : Nat} {path directory : String}
    {names : List String} : Call.load slot path ∉ indexAsks count directory names := by
  simp [indexAsks, load_not_mem_asks]

/-- None of the names gives an index that a provider claims. -/
def NoIndex (providers : List Provider) (directory : String) (names : List String) : Prop :=
  ∀ name ∈ names, Unclaimed providers (directory ++ name)

/-- A name gives the first index below a directory that a provider claims. -/
structure FirstIndex (providers : List Provider) (directory : String) (names earlier : List String)
    (name : String) (slot : Nat) (provider : Provider) : Prop where
  /-- The name is listed behind the earlier ones. -/
  listed : ∃ later, names = earlier ++ name :: later
  /-- The earlier names give no index. -/
  noEarlier : NoIndex providers directory earlier
  /-- The provider at the place is the first one that claims the index. -/
  claim : FirstClaim providers (directory ++ name) slot provider

/-- The ways in which a request is routed: the calls of providers, the response as it is left and
the ending. Besides the response that routing starts from, its prepared form is given. -/
inductive Routed (config : ServerConfig) (request : Request) (given prepared : Response) :
    List Call → Response → Ending → Prop where
  /-- An illegal path is refused before anything else happens. -/
  | denied (illegal : Path.isIllegal request.path = true) :
      Routed config request given prepared [] given (.failed (.accessDenied request.path))
  /-- A method that is not supported is refused before any provider is called. -/
  | unsupported (legal : Path.isIllegal request.path = false)
      (unsupported : request.method ∉ config.supportedMethods) :
      Routed config request given prepared [] given (.failed (.methodNotAllowed request.method))
  /-- The first provider that claims the path loads it. -/
  | direct {slot : Nat} {provider : Provider} (legal : Path.isIllegal request.path = false)
      (supported : request.method ∈ config.supportedMethods)
      (claim : FirstClaim config.providers request.path slot provider) :
      Routed config request given prepared
        (asks (slot + 1) request.path ++ [.load slot request.path])
        (provider.load request.path request prepared).response
        (provider.load request.path request prepared).ending
  /-- No provider claims the path or an index below it. -/
  | missing (legal : Path.isIllegal request.path = false)
      (supported : request.method ∈ config.supportedMethods)
      (unclaimed : Unclaimed config.providers request.path)
      (noIndex : NoIndex config.providers (Path.directoryForm request.path)
        config.directoryIndex) :
      Routed config request given prepared
        (asks config.providers.length request.path ++
          indexAsks config.providers.length (Path.directoryForm request.path)
            config.directoryIndex)
        prepared (.failed (.notFound request.path))
  /-- Below a path that ends in a slash, the first index that a provider claims is loaded by the
  first provider that claims it. -/
  | index {earlier : List String} {name : String} {slot : Nat} {provider : Provider}
      (legal : Path.isIllegal request.path = false)
      (supported : request.method ∈ config.supportedMethods)
      (unclaimed : Unclaimed config.providers request.path)
      (found : FirstIndex config.providers request.path config.directoryIndex earlier name slot
        provider)
      (directory : Path.isDirectory request.path = true) :
      Routed config request given prepared
        (asks config.providers.length request.path ++
          (indexAsks config.providers.length request.path earlier ++
            asks (slot + 1) (request.path ++ name)) ++
          [.load slot (request.path ++ name)])
        (provider.load (request.path ++ name) request prepared).response
        (provider.load (request.path ++ name) request prepared).ending
  /-- A path that does not end in a slash is redirected to the one that does, if a provider claims
  an index below it. -/
  | redirected {earlier : List String} {name : String} {slot : Nat} {provider : Provider}
      (legal : Path.isIllegal request.path = false)
      (supported : request.method ∈ config.supportedMethods)
      (unclaimed : Unclaimed config.providers request.path)
      (found : FirstIndex config.providers (request.path ++ "/") config.directoryIndex earlier name
        slot provider)
      (noDirectory : Path.isDirectory request.path = false) :
      Routed config request given prepared
        (asks config.providers.length request.path ++
          (indexAsks config.providers.length (request.path ++ "/") earlier ++
            asks (slot + 1) (request.path ++ "/" ++ name)))
        { prepared with
          status := .movedPermanently
          headers := prepared.headers.set "Location" (request.path ++ "/")
          body := [] }
        .done

/-- The calls of two stretches of events follow each other. -/
@[simp]
theorem calls_append (earlier later : List Event) :
    calls (earlier ++ later) = calls earlier ++ calls later :=
  List.filterMap_append

/-- A call to load is made in an event. -/
theorem exists_loaded_of_mem_calls {events : List Event} {slot : Nat} {path : String}
    (called : .load slot path ∈ calls events) : ∃ looked, .loaded slot path looked ∈ events := by
  obtain ⟨event, inside, call⟩ := List.mem_filterMap.mp called
  cases event with
  | loaded place other looked =>
    rw [Event.call?, Option.some.injEq, Call.load.injEq] at call
    exact ⟨looked, call.1 ▸ call.2 ▸ inside⟩
  | asked question => simp [Event.call?] at call
  | stream event => simp [Event.call?] at call
  | logged record => simp [Event.call?] at call
  | reported report => simp [Event.call?] at call

/-- A provider claims a path, or the search goes on behind it. -/
theorem calls_resolveFrom (slot : Nat) (path : String) (provider : Provider)
    (rest : List Provider) :
    calls ((resolveFrom slot path (provider :: rest)).questions.map .asked) =
      .ask slot path :: if (provider.claims path).granted then []
        else calls ((resolveFrom (slot + 1) path rest).questions.map .asked) := by
  rw [resolveFrom]
  by_cases granted : (provider.claims path).granted = true
  · simp [granted, calls, Event.call?]
  · simp [granted, calls, Event.call?]

/-- Where no provider claims a path, all of them are asked and none is found. -/
theorem resolveFrom_of_unclaimed {providers : List Provider} {path : String}
    (unclaimed : Unclaimed providers path) (slot : Nat) :
    (resolveFrom slot path providers).found = none ∧
      calls ((resolveFrom slot path providers).questions.map .asked) =
        asksFrom slot providers.length path := by
  induction providers generalizing slot with
  | nil => exact ⟨rfl, rfl⟩
  | cons provider rest ih =>
    have refused := unclaimed provider List.mem_cons_self
    obtain ⟨found, asked⟩ := ih (fun other inside =>
      unclaimed other (List.mem_cons_of_mem _ inside)) (slot + 1)
    constructor
    · simpa [resolveFrom, refused] using found
    · rw [calls_resolveFrom, asked]
      simp [refused, asksFrom, List.range'_succ]

/-- The first provider that claims a path is found, and those up to it are asked. -/
theorem resolveFrom_of_first {providers : List Provider} {path : String} {place : Nat}
    {provider : Provider} (claim : FirstClaim providers path place provider) (slot : Nat) :
    (resolveFrom slot path providers).found = some (slot + place, provider) ∧
      calls ((resolveFrom slot path providers).questions.map .asked) =
        asksFrom slot (place + 1) path := by
  induction providers generalizing slot place with
  | nil => simpa using claim.placed
  | cons front rest ih =>
    cases place with
    | zero =>
      have same : front = provider := by simpa using claim.placed
      have granted := claim.granted
      constructor
      · simp [resolveFrom, same, granted]
      · rw [calls_resolveFrom]
        simp [same, granted, asksFrom]
    | succ place =>
      have refused := claim.first front (by simp)
      have later : FirstClaim rest path place provider :=
        ⟨by simpa using claim.placed, claim.granted, fun other inside =>
          claim.first other (by simp [inside])⟩
      obtain ⟨found, asked⟩ := ih later (slot + 1)
      constructor
      · have places : slot + (place + 1) = slot + 1 + place := by omega
        simpa [resolveFrom, refused, places] using found
      · rw [calls_resolveFrom, asked]
        simp [refused, asksFrom, List.range'_succ]

/-- A path is claimed by no provider, or by a first one. -/
theorem unclaimed_or_first (providers : List Provider) (path : String) :
    Unclaimed providers path ∨ ∃ slot provider, FirstClaim providers path slot provider := by
  induction providers with
  | nil => exact .inl (by simp [Unclaimed])
  | cons provider rest ih =>
    by_cases granted : (provider.claims path).granted = true
    · exact .inr ⟨0, provider, rfl, granted, by simp [Unclaimed]⟩
    · have refused : (provider.claims path).granted = false := by simpa using granted
      cases ih with
      | inl unclaimed =>
        left
        intro other inside
        cases inside with
        | head => exact refused
        | tail _ inside => exact unclaimed other inside
      | inr claimed =>
        obtain ⟨slot, found, claim⟩ := claimed
        refine .inr ⟨slot + 1, found, by simpa using claim.placed, claim.granted, ?_⟩
        intro other inside
        rw [List.take_succ_cons, List.mem_cons] at inside
        cases inside with
        | inl same => rwa [same]
        | inr inside => exact claim.first other inside

/-- Where no index is claimed, all providers are asked for every name in turn. -/
theorem resolveIndexBelow_of_unclaimed {providers : List Provider} {directory : String}
    {names : List String} (noIndex : NoIndex providers directory names) :
    (resolveIndexBelow providers directory names).found = none ∧
      calls ((resolveIndexBelow providers directory names).questions.map .asked) =
        indexAsks providers.length directory names := by
  induction names with
  | nil => exact ⟨rfl, rfl⟩
  | cons name rest ih =>
    obtain ⟨unfound, asked⟩ := resolveFrom_of_unclaimed (noIndex name List.mem_cons_self) 0
    obtain ⟨later, laterAsked⟩ := ih fun other inside =>
      noIndex other (List.mem_cons_of_mem _ inside)
    rw [resolveIndexBelow, resolve, unfound]
    refine ⟨later, ?_⟩
    rw [List.map_append, calls_append, asked, laterAsked]
    rfl

/-- The first index that is claimed is found, and the search stops at its first claim. -/
theorem resolveIndexBelow_of_first {providers : List Provider} {directory name : String}
    {names earlier : List String} {slot : Nat} {provider : Provider}
    (index : FirstIndex providers directory names earlier name slot provider) :
    (resolveIndexBelow providers directory names).found =
        some ⟨slot, provider, directory ++ name⟩ ∧
      calls ((resolveIndexBelow providers directory names).questions.map .asked) =
        indexAsks providers.length directory earlier ++ asks (slot + 1) (directory ++ name) := by
  induction earlier generalizing names with
  | nil =>
    obtain ⟨later, rfl⟩ := index.listed
    obtain ⟨found, asked⟩ := resolveFrom_of_first index.claim 0
    rw [List.nil_append, resolveIndexBelow, resolve, found, Nat.zero_add]
    exact ⟨rfl, asked⟩
  | cons other rest ih =>
    obtain ⟨later, rfl⟩ := index.listed
    obtain ⟨unfound, asked⟩ :=
      resolveFrom_of_unclaimed (index.noEarlier other List.mem_cons_self) 0
    have behind : FirstIndex providers directory (rest ++ name :: later) rest name slot provider :=
      ⟨⟨later, rfl⟩, fun one inside => index.noEarlier one (List.mem_cons_of_mem _ inside),
        index.claim⟩
    obtain ⟨found, laterAsked⟩ := ih behind
    rw [List.cons_append, resolveIndexBelow, resolve, unfound]
    refine ⟨found, ?_⟩
    rw [List.map_append, calls_append, asked, laterAsked, indexAsks, indexAsks,
      List.flatMap_cons, List.append_assoc]
    rfl

/-- No name gives an index that is claimed, or there is a first one. -/
theorem noIndex_or_first (providers : List Provider) (directory : String) (names : List String) :
    NoIndex providers directory names ∨ ∃ earlier name slot provider,
      FirstIndex providers directory names earlier name slot provider := by
  induction names with
  | nil => exact .inl (by simp [NoIndex])
  | cons name rest ih =>
    cases unclaimed_or_first providers (directory ++ name) with
    | inr claimed =>
      obtain ⟨slot, provider, claim⟩ := claimed
      exact .inr ⟨[], name, slot, provider, ⟨rest, rfl⟩, by simp [NoIndex], claim⟩
    | inl unclaimed =>
      cases ih with
      | inl later =>
        exact .inl fun other inside =>
          (List.mem_cons.mp inside).elim (fun same => same ▸ unclaimed) (later other)
      | inr found =>
        obtain ⟨earlier, first, slot, provider, ⟨later, rfl⟩, before, claim⟩ := found
        refine .inr ⟨name :: earlier, first, slot, provider, ⟨later, rfl⟩, ?_, claim⟩
        exact fun other inside =>
          (List.mem_cons.mp inside).elim (fun same => same ▸ unclaimed) (before other)

namespace ServerConfig

/-- Events put before a dispatch put their calls before its calls. -/
@[simp]
theorem calls_after (events : List Event) (dispatched : Dispatched) :
    calls (after events dispatched).events = calls events ++ calls dispatched.events :=
  calls_append events dispatched.events

/-- Loading is one call. -/
@[simp]
theorem calls_loadFrom (slot : Nat) (provider : Provider) (path : String) (request : Request)
    (response : Response) :
    calls (loadFrom slot provider path request response).events = [.load slot path] := by
  simp [loadFrom, calls, Event.call?]

/-- A legal path and a supported method are routed. -/
theorem dispatch_of_legal {config : ServerConfig} {request : Request}
    (legal : Path.isIllegal request.path = false)
    (supported : request.method ∈ config.supportedMethods) (now : HeaderDate)
    (given : Response) :
    config.dispatch now request given =
      config.route request (config.prepare now request given) := by
  simp [dispatch, legal, supports, supported]

/-- A path that no provider claims is left to the indexes, after all providers were asked. -/
theorem route_of_unclaimed {config : ServerConfig} {request : Request}
    (unclaimed : Unclaimed config.providers request.path) (response : Response) :
    (config.route request response).response = (config.dispatchIndex request response).response ∧
      (config.route request response).ending = (config.dispatchIndex request response).ending ∧
      calls (config.route request response).events =
        asks config.providers.length request.path ++
          calls (config.dispatchIndex request response).events := by
  obtain ⟨unfound, asked⟩ := resolveFrom_of_unclaimed unclaimed 0
  have unresolved : (resolve config.providers request.path).found = none := unfound
  simp only [route, unresolved]
  exact ⟨rfl, rfl, by rw [calls_after, resolve, asked]; rfl⟩

/-- A way that applies to a request is the way in which it is dispatched. -/
theorem dispatch_of_routed {config : ServerConfig} {now : HeaderDate} {request : Request}
    {given response : Response} {trace : List Call} {ending : Ending}
    (routed : Routed config request given (config.prepare now request given) trace response
      ending) :
    calls (config.dispatch now request given).events = trace ∧
      (config.dispatch now request given).response = response ∧
      (config.dispatch now request given).ending = ending := by
  cases routed with
  | denied illegal => simp [dispatch, illegal, calls]
  | unsupported legal unsupported => simp [dispatch, legal, supports, unsupported, calls]
  | direct legal supported claim =>
    obtain ⟨found, asked⟩ := resolveFrom_of_first claim 0
    rw [dispatch_of_legal legal supported]
    simp only [route, resolve, found, Nat.zero_add]
    refine ⟨?_, rfl, rfl⟩
    rw [calls_after, calls_after, asked, calls_loadFrom]
    rfl
  | missing legal supported unclaimed noIndex =>
    obtain ⟨same, sameEnding, asked⟩ :=
      route_of_unclaimed unclaimed (config.prepare now request given)
    obtain ⟨unfound, indexAsked⟩ := resolveIndexBelow_of_unclaimed noIndex
    rw [dispatch_of_legal legal supported, same, sameEnding, asked]
    simp only [dispatchIndex, resolveIndex, unfound]
    refine ⟨?_, rfl, rfl⟩
    rw [calls_after, indexAsked]
    simp [calls]
  | index legal supported unclaimed index directory =>
    obtain ⟨same, sameEnding, asked⟩ :=
      route_of_unclaimed unclaimed (config.prepare now request given)
    obtain ⟨found, indexAsked⟩ := resolveIndexBelow_of_first index
    have form : Path.directoryForm request.path = request.path := if_pos directory
    rw [dispatch_of_legal legal supported, same, sameEnding, asked]
    simp only [dispatchIndex, resolveIndex, form, found, directory, if_true]
    refine ⟨?_, rfl, rfl⟩
    rw [calls_after, calls_after, indexAsked, calls_loadFrom]
    simp [calls, Event.call?]
  | redirected legal supported unclaimed index noDirectory =>
    obtain ⟨same, sameEnding, asked⟩ :=
      route_of_unclaimed unclaimed (config.prepare now request given)
    obtain ⟨found, indexAsked⟩ := resolveIndexBelow_of_first index
    have form : Path.directoryForm request.path = request.path ++ "/" := by
      simp [Path.directoryForm, noDirectory]
    rw [dispatch_of_legal legal supported, same, sameEnding, asked]
    simp only [dispatchIndex, resolveIndex, form, found, noDirectory]
    refine ⟨?_, rfl, rfl⟩
    rw [calls_after, if_neg (by simp), indexAsked]
    simp [calls]

/-- To every request a way applies. -/
theorem exists_routed (config : ServerConfig) (request : Request) (given prepared : Response) :
    ∃ trace response ending, Routed config request given prepared trace response ending := by
  cases legal : Path.isIllegal request.path with
  | true => exact ⟨_, _, _, .denied legal⟩
  | false =>
    by_cases supported : request.method ∈ config.supportedMethods
    · cases unclaimed_or_first config.providers request.path with
      | inr claimed =>
        obtain ⟨slot, provider, claim⟩ := claimed
        exact ⟨_, _, _, .direct legal supported claim⟩
      | inl unclaimed =>
        cases noIndex_or_first config.providers (Path.directoryForm request.path)
          config.directoryIndex with
        | inl noIndex => exact ⟨_, _, _, .missing legal supported unclaimed noIndex⟩
        | inr found =>
          obtain ⟨earlier, name, slot, provider, index⟩ := found
          cases directory : Path.isDirectory request.path with
          | true =>
            rw [Path.directoryForm, if_pos directory] at index
            exact ⟨_, _, _, .index legal supported unclaimed index directory⟩
          | false =>
            rw [Path.directoryForm, if_neg (by simp [directory])] at index
            exact ⟨_, _, _, .redirected legal supported unclaimed index directory⟩
    · exact ⟨_, _, _, .unsupported legal supported⟩

/-- A request is dispatched in exactly the way that applies to it: the calls of providers, in
order, the response as it is left and the ending are the ones listed for it. -/
theorem dispatch_eq_iff_routed (config : ServerConfig) (now : HeaderDate) (request : Request)
    (given : Response) (trace : List Call) (response : Response) (ending : Ending) :
    (calls (config.dispatch now request given).events = trace ∧
        (config.dispatch now request given).response = response ∧
        (config.dispatch now request given).ending = ending) ↔
      Routed config request given (config.prepare now request given) trace response ending := by
  constructor
  · rintro ⟨rfl, rfl, rfl⟩
    obtain ⟨trace, response, ending, routed⟩ :=
      exists_routed config request given (config.prepare now request given)
    obtain ⟨rfl, rfl, rfl⟩ := dispatch_of_routed routed
    exact routed
  · exact dispatch_of_routed

/-- The path that a provider loads is the path of the request, or an index below it. -/
theorem loaded_path {config : ServerConfig} {now : HeaderDate} {request : Request}
    {given : Response} {slot : Nat} {path : String} {looked : List Bytes}
    (loaded : .loaded slot path looked ∈ (config.dispatch now request given).events) :
    path = request.path ∨ Path.isDirectory request.path = true ∧
      ∃ name ∈ config.directoryIndex, path = request.path ++ name := by
  have called : Call.load slot path ∈ calls (config.dispatch now request given).events :=
    List.mem_filterMap.mpr ⟨_, loaded, rfl⟩
  obtain ⟨trace, response, ending, routed⟩ :=
    exists_routed config request given (config.prepare now request given)
  rw [(dispatch_of_routed routed).1] at called
  cases routed with
  | denied illegal => simp at called
  | unsupported legal unsupported => simp at called
  | direct legal supported claim =>
    simp only [List.mem_append, load_not_mem_asks, false_or, List.mem_singleton,
      Call.load.injEq] at called
    exact .inl called.2
  | missing legal supported unclaimed noIndex =>
    simp [load_not_mem_asks, load_not_mem_indexAsks] at called
  | index legal supported unclaimed found directory =>
    simp only [List.mem_append, load_not_mem_asks, load_not_mem_indexAsks, false_or,
      List.mem_singleton, Call.load.injEq] at called
    obtain ⟨later, names⟩ := found.listed
    exact .inr ⟨directory, _, names ▸ List.mem_append_right _ List.mem_cons_self, called.2⟩
  | redirected legal supported unclaimed found noDirectory =>
    simp [load_not_mem_asks, load_not_mem_indexAsks] at called

end ServerConfig

/-- An event may happen while a request is dispatched, and what it says of a provider is so: the
provider at the place answers like this, or is the first that claims the path it loads and looks
there while loading. -/
def Event.Genuine (providers : List Provider) (request : Request) : Event → Prop
  | asked question => ∃ provider, providers[question.slot]? = some provider ∧
      question.claim = provider.claims question.path
  | loaded slot path looked => ∃ provider response, FirstClaim providers path slot provider ∧
      looked = (provider.load path request response).looked
  | logged _ => True
  | stream _ | reported _ => False

/-- A found provider is the first that claims the path. -/
theorem firstClaim_of_found {providers : List Provider} {path : String} {slot : Nat}
    {provider : Provider} (found : (resolve providers path).found = some (slot, provider)) :
    FirstClaim providers path slot provider := by
  cases unclaimed_or_first providers path with
  | inl unclaimed =>
    have unfound := (resolveFrom_of_unclaimed unclaimed 0).1
    rw [resolve, unfound] at found
    contradiction
  | inr claimed =>
    obtain ⟨place, first, claim⟩ := claimed
    have foundFirst := (resolveFrom_of_first claim 0).1
    rw [resolve, foundFirst, Nat.zero_add, Option.some.injEq, Prod.mk.injEq] at found
    exact found.1 ▸ found.2 ▸ claim

/-- The provider of an index that was found is the first that claims it. -/
theorem firstClaim_of_foundIndex {providers : List Provider} {directory : String}
    {names : List String} {index : IndexMatch}
    (found : (resolveIndexBelow providers directory names).found = some index) :
    FirstClaim providers index.path index.slot index.provider := by
  cases noIndex_or_first providers directory names with
  | inl noIndex =>
    rw [(resolveIndexBelow_of_unclaimed noIndex).1] at found
    contradiction
  | inr first =>
    obtain ⟨earlier, name, slot, provider, first⟩ := first
    rw [(resolveIndexBelow_of_first first).1, Option.some.injEq] at found
    exact found ▸ first.claim

variable {providers : List Provider} {request : Request}

/-- Questions are put to the providers behind the place where the search begins. -/
theorem genuine_resolveFrom {later : List Provider} {slot : Nat}
    (behind : ∀ index, later[index]? = providers[slot + index]?) (path : String) :
    ∀ question ∈ (resolveFrom slot path later).questions,
      (Event.asked question).Genuine providers request := by
  induction later generalizing slot with
  | nil => simp [resolveFrom]
  | cons provider rest ih =>
    have here : (Event.asked ⟨slot, path, provider.claims path⟩).Genuine providers request :=
      ⟨provider, by simpa using (behind 0).symm, rfl⟩
    have further := ih fun index => by
      have place : slot + 1 + index = slot + (index + 1) := by omega
      rw [place]
      exact behind (index + 1)
    intro question inside
    rw [resolveFrom] at inside
    by_cases granted : (provider.claims path).granted = true
    · simp only [granted, if_true, List.mem_singleton] at inside
      exact inside ▸ here
    · simp only [granted, Bool.false_eq_true, if_false] at inside
      cases inside with
      | head => exact here
      | tail _ inside => exact further question inside

/-- Questions about indexes are genuine as well. -/
theorem genuine_resolveIndexBelow (directory : String) (names : List String) :
    ∀ question ∈ (resolveIndexBelow providers directory names).questions,
      (Event.asked question).Genuine providers request := by
  have one : ∀ path, ∀ question ∈ (resolve providers path).questions,
      (Event.asked question).Genuine providers request :=
    genuine_resolveFrom fun index => by rw [Nat.zero_add]
  induction names with
  | nil => simp [resolveIndexBelow]
  | cons name rest ih =>
    intro question inside
    rw [resolveIndexBelow] at inside
    cases found : (resolve providers (directory ++ name)).found with
    | some provider =>
      rw [found] at inside
      exact one _ question inside
    | none =>
      simp only [found, List.mem_append] at inside
      exact inside.elim (one _ question) (ih question)

namespace ServerConfig

/-- Events put before a dispatch are genuine with it if they are genuine on their own. -/
theorem genuine_after {events : List Event} {dispatched : Dispatched}
    (first : ∀ event ∈ events, event.Genuine providers request)
    (later : ∀ event ∈ dispatched.events, event.Genuine providers request) :
    ∀ event ∈ (after events dispatched).events, event.Genuine providers request :=
  fun event inside => (List.mem_append.mp inside).elim (first event) (later event)

/-- Loading by the first provider that claims a path is genuine. -/
theorem genuine_loadFrom {slot : Nat} {provider : Provider} {path : String}
    (claim : FirstClaim providers path slot provider) (response : Response) :
    ∀ event ∈ (loadFrom slot provider path request response).events,
      event.Genuine providers request := by
  intro event inside
  simp only [loadFrom, List.mem_cons, List.mem_map] at inside
  rcases inside with rfl | ⟨record, _, rfl⟩
  · exact ⟨provider, response, claim, rfl⟩
  · trivial

/-- Everything that happens while a request is dispatched is genuine. -/
theorem genuine_dispatch (config : ServerConfig) (now : HeaderDate) (request : Request)
    (given : Response) :
    ∀ event ∈ (config.dispatch now request given).events,
      event.Genuine config.providers request := by
  have logged : ∀ record : LogRecord, ∀ event ∈ [Event.logged record],
      event.Genuine config.providers request := by
    intro record event inside
    rw [List.mem_singleton.mp inside]
    trivial
  rw [dispatch]
  split
  · simp
  · split
    · simp
    · refine genuine_after ?_ ?_
      · rw [List.forall_mem_map]
        exact genuine_resolveFrom (fun index => by rw [Nat.zero_add]) _
      · split
        · next slot provider found =>
          exact genuine_after (logged _) (genuine_loadFrom (firstClaim_of_found found) _)
        · refine genuine_after ?_ ?_
          · rw [List.forall_mem_map]
            exact genuine_resolveIndexBelow _ _
          · split
            · simp
            · next index found =>
              split
              · exact genuine_after (logged _)
                  (genuine_loadFrom (firstClaim_of_foundIndex found) _)
              · simp

end ServerConfig

end OriginServer

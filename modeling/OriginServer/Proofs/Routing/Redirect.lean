import OriginServer.Proofs.Path.Escapes
import OriginServer.Proofs.Reading.Writing
import OriginServer.Proofs.Routing.Trace
import OriginServer.Routing.Handlers

/-!
# Following redirects

A path that no provider claims is redirected to its directory form if an index is found there. The
client that follows the redirect asks for a path that is legal if the first one was, and the index
is found again unless a provider claims the directory itself. So a redirect leads to a load in one
step (`loadsOnce_of_redirects`).
-/
namespace OriginServer

open Text (Solid Worded isBlank)

namespace Path

/-- A slash at the end is decoded to a slash at the end. -/
theorem percentDecode_slash (path : String) :
    Form.percentDecode (Utf8.encode (path ++ "/")) =
      Form.percentDecode (Utf8.encode path) ++ [0x2F] := by
  have joined : Utf8.encode (path ++ "/") = Utf8.encode path ++ [0x2F] := by
    simp [Utf8.encode_eq_ofChars, Utf8.ofChars, String.utf8EncodeChar]
  rw [joined]
  apply Form.percentDecodeFrom_concat
  · decide
  · decide

/-- A path that is allowed is allowed with a slash at its end. -/
theorem isIllegal_slash {path : String} (legal : isIllegal path = false) :
    isIllegal (path ++ "/") = false := by
  rw [isIllegal_eq_false_iff] at legal ⊢
  obtain ⟨start, clean, noNull, noBackslash, noUp⟩ := legal
  rw [percentDecode_slash]
  refine ⟨?_, ?_, ?_, ?_, ?_⟩
  · obtain ⟨rest, whole⟩ := List.head?_eq_some_iff.mp start
    simp [whole]
  · have shown : (path ++ "/").toList = path.toList ++ ['/'] := by simp
    rw [shown, List.forall_mem_append, List.forall_mem_singleton]
    exact ⟨clean, by decide⟩
  · simpa using noNull
  · simpa using noBackslash
  · -- The slash ends the last segment and begins an empty one.
    rw [List.splitOn_append_cons_self, List.mem_append, not_or]
    exact ⟨noUp, by decide⟩

/-- A path with a slash at its end names a directory. -/
theorem isDirectory_slash (path : String) : isDirectory (path ++ "/") = true := by
  simp [isDirectory]

end Path

/-! ## Paths of requests that were read -/

/-- The words of a text hold no blank. -/
theorem Text.Worded.solid {text : List Char} {words : List (List Char)}
    (worded : Worded text words) :
    ∀ word ∈ words, ∀ char ∈ word, isBlank char = false := by
  induction worded with
  | none blank => simp
  | next blank nonempty solid apart worded ih =>
    rw [List.forall_mem_cons]
    exact ⟨solid, ih⟩

/-- The path of a request that was read holds neither a question mark nor a blank. -/
theorem Request.path_of_read {bytes : Bytes} {request : Request} {taken : Nat}
    (read : Request.read bytes = .ok (request, taken)) :
    '?' ∉ request.path.toList ∧ ∀ char ∈ request.path.toList, isBlank char = false := by
  cases Request.grammar_of_read read with
  | @whole head body rest parts path query framed wellFormed targeted measured =>
    have solid : ∀ char ∈ parts.target.toList, isBlank char = false := by
      cases wellFormed with
      | whole inscribed requestLine spelled fieldLines declared =>
        exact requestLine.words.solid _ (by simp)
    generalize parts.target = target at targeted solid
    cases targeted with
    | plain absent => exact ⟨absent, solid⟩
    | asking first => exact ⟨first, fun char inside => solid char (by simp [inside])⟩

/-- Without a question mark in it, a path with a slash at its end is a target that is all path. -/
theorem splitTarget_slash {path : String} (absent : '?' ∉ path.toList) :
    splitTarget (path ++ "/") = (path ++ "/", none) := by
  rw [splitTarget_eq_iff]
  apply TargetParts.plain
  simp [absent]

/-! ## Redirects and loads -/

namespace ServerConfig

variable {config : ServerConfig} {now : HeaderDate} {request : Request} {given : Response}

/-- A request is redirected by the dispatcher itself: the answer is ready and says that the page has
moved, and no provider was told to load anything. A provider that announces a move by itself is not
meant. -/
structure Redirects (config : ServerConfig) (now : HeaderDate) (request : Request)
    (given : Response) : Prop where
  /-- The answer is ready. -/
  ready : (config.dispatch now request given).ending = .done
  /-- It says that the page has moved. -/
  moved : (config.dispatch now request given).response.status = .movedPermanently
  /-- Nothing was loaded. -/
  unloaded : ∀ slot path, .load slot path ∉ calls (config.dispatch now request given).events

/-- A request is handed to one provider: the last call tells the provider at a place to load a path,
no call before it loads anything, and what the provider makes of the request is the outcome. -/
structure LoadsOnce (config : ServerConfig) (now : HeaderDate) (request : Request)
    (given : Response) (slot : Nat) (provider : Provider) (path : String) : Prop where
  /-- One path is loaded, behind calls that load nothing. -/
  loaded : ∃ asked, (∀ place other, Call.load place other ∉ asked) ∧
    calls (config.dispatch now request given).events = asked ++ [.load slot path]
  /-- The response is the one of the provider. -/
  response : (config.dispatch now request given).response =
    (provider.load path request (config.prepare now request given)).response
  /-- The ending is the one of the provider. -/
  ending : (config.dispatch now request given).ending =
    (provider.load path request (config.prepare now request given)).ending

/-- A path that a provider claims is loaded by the first one that does. -/
theorem loadsOnce_of_first {slot : Nat} {provider : Provider}
    (legal : Path.isIllegal request.path = false)
    (supported : request.method ∈ config.supportedMethods)
    (claim : FirstClaim config.providers request.path slot provider) :
    config.LoadsOnce now request given slot provider request.path := by
  obtain ⟨called, response, ending⟩ := dispatch_of_routed
    (.direct legal supported claim : Routed config request given
      (config.prepare now request given) _ _ _)
  exact ⟨⟨_, fun _ _ => load_not_mem_asks, called⟩, response, ending⟩

/-- An index below a directory that no provider claims is loaded by the first one that claims it. -/
theorem loadsOnce_of_index {earlier : List String} {name : String} {slot : Nat}
    {provider : Provider} (legal : Path.isIllegal request.path = false)
    (supported : request.method ∈ config.supportedMethods)
    (unclaimed : Unclaimed config.providers request.path)
    (found : FirstIndex config.providers request.path config.directoryIndex earlier name slot
      provider)
    (directory : Path.isDirectory request.path = true) :
    config.LoadsOnce now request given slot provider (request.path ++ name) := by
  obtain ⟨called, response, ending⟩ := dispatch_of_routed
    (.index legal supported unclaimed found directory : Routed config request given
      (config.prepare now request given) _ _ _)
  refine ⟨⟨_, ?_, called⟩, response, ending⟩
  intro place other
  simp [load_not_mem_asks, load_not_mem_indexAsks]

/-- Whatever is loaded is all that is loaded, and by the first provider that claims it. -/
theorem loadsOnce_of_load {slot : Nat} {path : String}
    (called : .load slot path ∈ calls (config.dispatch now request given).events) :
    ∃ provider, FirstClaim config.providers path slot provider ∧
      config.LoadsOnce now request given slot provider path := by
  obtain ⟨trace, response, ending, routed⟩ :=
    exists_routed config request given (config.prepare now request given)
  rw [(dispatch_of_routed routed).1] at called
  cases routed with
  | denied illegal => cases called
  | unsupported legal unsupported => cases called
  | missing legal supported unclaimed noIndex =>
    simp [load_not_mem_asks, load_not_mem_indexAsks] at called
  | redirected legal supported unclaimed found noDirectory =>
    simp [load_not_mem_asks, load_not_mem_indexAsks] at called
  | direct legal supported claim =>
    simp only [List.mem_append, load_not_mem_asks, false_or, List.mem_singleton,
      Call.load.injEq] at called
    obtain ⟨rfl, rfl⟩ := called
    exact ⟨_, claim, loadsOnce_of_first legal supported claim⟩
  | index legal supported unclaimed found directory =>
    simp only [List.mem_append, load_not_mem_asks, load_not_mem_indexAsks, false_or,
      List.mem_singleton, Call.load.injEq] at called
    obtain ⟨rfl, rfl⟩ := called
    exact ⟨_, found.claim, loadsOnce_of_index legal supported unclaimed found directory⟩

/-- A request that may be redirected: its path is legal and does not end in a slash, its method is
supported, and an index is found below the directory form of its path. -/
structure Movable (config : ServerConfig) (request : Request) (earlier : List String)
    (name : String) (slot : Nat) (provider : Provider) : Prop where
  /-- The path is legal. -/
  legal : Path.isIllegal request.path = false
  /-- The method is supported. -/
  supported : request.method ∈ config.supportedMethods
  /-- The path does not end in a slash. -/
  noDirectory : Path.isDirectory request.path = false
  /-- The provider is the first one that claims the first index. -/
  found : FirstIndex config.providers (request.path ++ "/") config.directoryIndex earlier name slot
    provider

/-- A request that is redirected has an index below the directory form of its path, to which its
answer points. -/
theorem Redirects.movable (redirects : config.Redirects now request given) :
    (config.dispatch now request given).response.header? "Location" = some (request.path ++ "/") ∧
      ∃ earlier name slot provider, config.Movable request earlier name slot provider := by
  obtain ⟨trace, response, ending, routed⟩ :=
    exists_routed config request given (config.prepare now request given)
  obtain ⟨called, sameResponse, sameEnding⟩ := dispatch_of_routed routed
  have ready := redirects.ready
  have unloaded := redirects.unloaded
  rw [sameEnding] at ready
  rw [called] at unloaded
  rw [sameResponse]
  cases routed with
  | denied illegal => cases ready
  | unsupported legal unsupported => cases ready
  | missing legal supported unclaimed noIndex => cases ready
  | @direct slot provider legal supported claim =>
    exact absurd (by simp) (unloaded slot request.path)
  | @index earlier name slot provider legal supported unclaimed found directory =>
    exact absurd (by simp) (unloaded slot (request.path ++ name))
  | @redirected earlier name slot provider legal supported unclaimed found noDirectory =>
    refine ⟨?_, earlier, name, slot, provider, legal, supported, noDirectory, found⟩
    simp [Response.header?, Headers.get?_set]

/-- **A redirect leads to a load in one step.** If a request that was read is redirected, the answer
points to its path with a slash at the end, which is a word and as a target has just this path and
no query. Any request for that path with the same method is handed to one provider: to the first one
that claims the path, or if there is none to the one found for the index below the path that was
redirected, which it loads. -/
theorem loadsOnce_of_redirects {bytes : Bytes} {taken : Nat}
    (read : Request.read bytes = .ok (request, taken))
    (redirects : config.Redirects now request given) :
    let location := request.path ++ "/"
    (config.dispatch now request given).response.header? "Location" = some location ∧
      Solid location ∧ splitTarget location = (location, none) ∧
      ∀ (later : HeaderDate) (start : Response) (follow : Request),
        follow.method = request.method → follow.path = location →
        ∃ slot provider path, config.LoadsOnce later follow start slot provider path ∧
          (path = location ∧ FirstClaim config.providers location slot provider ∨
            Unclaimed config.providers location ∧
              (resolveIndex config.providers config.directoryIndex request.path).found =
                some ⟨slot, provider, path⟩) := by
  intro location
  obtain ⟨absent, solid⟩ := Request.path_of_read read
  obtain ⟨pointed, earlier, name, slot, provider, movable⟩ := redirects.movable
  have word : Solid location := by
    refine ⟨by simp [location], ?_⟩
    have shown : location.toList = request.path.toList ++ ['/'] := by simp [location]
    rw [shown, List.forall_mem_append, List.forall_mem_singleton]
    exact ⟨solid, by decide⟩
  refine ⟨pointed, word, splitTarget_slash absent, ?_⟩
  intro later start follow sameMethod samePath
  have legal : Path.isIllegal follow.path = false := by
    rw [samePath]
    exact Path.isIllegal_slash movable.legal
  have supported : follow.method ∈ config.supportedMethods := by
    rw [sameMethod]
    exact movable.supported
  rcases unclaimed_or_first config.providers location with unclaimed | ⟨first, claimant, claim⟩
  · -- The index that was found for the redirected path is found below the new one.
    have form : Path.directoryForm request.path = location := by
      simp [Path.directoryForm, movable.noDirectory, location]
    have found := (resolveIndexBelow_of_first movable.found).1
    have directory : Path.isDirectory follow.path = true := by
      rw [samePath]
      exact Path.isDirectory_slash request.path
    refine ⟨slot, provider, location ++ name, ?_, .inr ⟨unclaimed, ?_⟩⟩
    · rw [← samePath]
      apply loadsOnce_of_index legal supported
      · rwa [samePath]
      · rw [samePath]
        exact movable.found
      · exact directory
    · rw [resolveIndex, form]
      exact found
  · refine ⟨first, claimant, location, ?_, .inl ⟨rfl, claim⟩⟩
    rw [← samePath]
    apply loadsOnce_of_first legal supported
    rwa [samePath]

/-- A configuration whose handlers answer for the index of a directory and for nothing else. -/
def docsConfig : ServerConfig :=
  let handlers := HandlerProvider.empty.route "/docs/index.html" fun _ response =>
    (response.setBody (Utf8.encode "index"), .ok ())
  { ServerConfig.initial with
    providers := [handlers.toProvider]
    directoryIndex := ["index.htm", "index.html"] }

/-- A request for the directory without its slash, with a query. -/
def docsBytes : Bytes := Utf8.encode "GET /docs?page=2 HTTP/1.1\r\n\r\n"

/-- The request for the directory as it is read. -/
def docsRequest : Request := ⟨.get, "/docs", some "page=2", "HTTP/1.1", .empty, []⟩

/-- The redirect to the directory leads to its index. -/
theorem loadsOnce_of_redirects_docs :
    Request.read docsBytes = .ok (docsRequest, 29) ∧
      docsConfig.Redirects ⟨0, by decide⟩ docsRequest .initial ∧
      ∀ (later : HeaderDate) (start : Response) (follow : Request),
        follow.method = .get → follow.path = "/docs/" →
        ∃ provider, docsConfig.LoadsOnce later follow start 0 provider "/docs/index.html" := by
  have read : Request.read docsBytes = .ok (docsRequest, 29) := by decide +kernel
  have redirects : docsConfig.Redirects ⟨0, by decide⟩ docsRequest .initial := by
    have called : calls (docsConfig.dispatch ⟨0, by decide⟩ docsRequest .initial).events =
        [.ask 0 "/docs", .ask 0 "/docs/index.htm", .ask 0 "/docs/index.html"] := by
      decide +kernel
    refine ⟨by decide +kernel, by decide +kernel, ?_⟩
    intro slot path
    simp [called]
  refine ⟨read, redirects, ?_⟩
  intro later start follow sameMethod samePath
  obtain ⟨-, -, -, loads⟩ := loadsOnce_of_redirects read redirects
  obtain ⟨slot, provider, path, once, which⟩ := loads later start follow sameMethod samePath
  have unclaimed : Unclaimed docsConfig.providers (docsRequest.path ++ "/") := by
    intro other inside
    rw [List.mem_singleton.mp inside]
    decide +kernel
  rcases which with ⟨-, claim⟩ | ⟨-, found⟩
  · have granted := unclaimed provider (List.mem_of_getElem? claim.placed)
    rw [claim.granted] at granted
    cases granted
  · have place :
        ((resolveIndex docsConfig.providers docsConfig.directoryIndex docsRequest.path).found.map
          fun index => (index.slot, index.path)) = some (0, "/docs/index.html") := by
      decide +kernel
    rw [found, Option.map_some, Option.some.injEq, Prod.mk.injEq] at place
    obtain ⟨rfl, rfl⟩ := place
    exact ⟨provider, once⟩

end ServerConfig

end OriginServer

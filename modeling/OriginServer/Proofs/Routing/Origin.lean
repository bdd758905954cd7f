import Mathlib.Data.List.TakeWhile
import OriginServer.Proofs.Files.Loading
import OriginServer.Proofs.Files.Lookup
import OriginServer.Proofs.Files.Mapping
import OriginServer.Proofs.Routing.Redirect

/-!
# Where redirects lead

A redirect of the dispatcher points to the path of the request with a slash at its end. A client
reads this address as a `Reference`: two slashes at its beginning announce a host. So a redirect
stays with the server exactly if the second character of the path is no slash
(`ServerConfig.reference_of_moved`). Files are found under paths with any number of slashes in
front, so every directory with an index also has a path whose redirect leads to another host
(`ServerConfig.Redirects.slashed`).
-/
namespace OriginServer

open Text (cutAt?)

/-! ## Addresses as clients read them -/

/-- An address that begins with a slash, as a client reads it. -/
structure Reference where
  /-- The host that the address names, if it names one. -/
  host : Option (List Char)
  /-- The path of the address. -/
  path : List Char
  /-- The query of the address, if it has one. -/
  query : Option (List Char)
  deriving DecidableEq

/-- The front of an address in two parts: a host stands between two slashes at the beginning and the
next slash. -/
def Reference.splitHost : List Char → Option (List Char) × List Char
  | '/' :: '/' :: rest => (some (rest.takeWhile (· != '/')), rest.dropWhile (· != '/'))
  | front => (none, front)

/-- Read an address. It ends at a number sign, and a query follows the first question mark. -/
def Reference.read (address : List Char) : Reference :=
  let shown := address.takeWhile (· != '#')
  let front := shown.takeWhile (· != '?')
  { host := (splitHost front).1
    path := (splitHost front).2
    query := (cutAt? '?' shown).map (·.2) }

namespace Reference

/-- A front that does not begin with two slashes is all path. -/
theorem splitHost_of_single {front : List Char} (single : front[1]? ≠ some '/') :
    splitHost front = (none, front) := by
  rw [splitHost.eq_2]
  rintro rest rfl
  exact single rfl

/-- A front names a host exactly if it begins with two slashes. -/
theorem splitHost_eq_none_iff {front : List Char} (rooted : front.head? = some '/') :
    (splitHost front).1 = none ↔ front[1]? ≠ some '/' := by
  constructor
  · intro unnamed second
    obtain ⟨rest, rfl⟩ := List.head?_eq_some_iff.mp rooted
    have next : rest.head? = some '/' := by
      rwa [List.getElem?_cons_succ, ← List.head?_eq_getElem?] at second
    obtain ⟨more, rfl⟩ := List.head?_eq_some_iff.mp next
    cases unnamed
  · intro single
    rw [splitHost_of_single single]

/-- What is dropped behind a mark does not change whether a second slash comes first. -/
theorem second_takeWhile (mark : Char) (other : mark ≠ '/') {text : List Char}
    (rooted : text.head? = some '/') :
    (text.takeWhile (· != mark)).head? = some '/' ∧
      ((text.takeWhile (· != mark))[1]? = some '/' ↔ text[1]? = some '/') := by
  obtain ⟨rest, rfl⟩ := List.head?_eq_some_iff.mp rooted
  have slash : ('/' != mark) = true := bne_iff_ne.mpr other.symm
  rw [List.takeWhile_cons_of_pos (p := fun char => char != mark) slash]
  refine ⟨rfl, ?_⟩
  cases rest with
  | nil => simp
  | cons next more =>
    by_cases cut : next = mark
    · rw [cut]
      simp [other]
    · rw [List.takeWhile_cons_of_pos (p := fun char => char != mark) (bne_iff_ne.mpr cut)]
      simp

/-- An address names a host exactly if it begins with two slashes. -/
theorem host_read_eq_none_iff {address : List Char} (rooted : address.head? = some '/') :
    (read address).host = none ↔ address[1]? ≠ some '/' := by
  have shown := second_takeWhile '#' (by decide) rooted
  have front := second_takeWhile '?' (by decide) shown.1
  have named := splitHost_eq_none_iff front.1
  rw [ne_eq, front.2, shown.2] at named
  exact named

/-- An address of one slash in front, without a question mark or a number sign, is all path. -/
theorem read_of_single {address : List Char} (single : address[1]? ≠ some '/')
    (noQuery : '?' ∉ address) (noMark : '#' ∉ address) : read address = ⟨none, address, none⟩ := by
  have shown : address.takeWhile (· != '#') = address := by
    rw [List.takeWhile_eq_self_iff]
    intro char inside
    rw [bne_iff_ne]
    exact fun same => noMark (same ▸ inside)
  have front : address.takeWhile (· != '?') = address := by
    rw [List.takeWhile_eq_self_iff]
    intro char inside
    rw [bne_iff_ne]
    exact fun same => noQuery (same ▸ inside)
  have uncut : cutAt? '?' address = none := Text.cutAt?_eq_none_iff.mpr noQuery
  simp only [read, shown, front, splitHost_of_single single, uncut, Option.map_none]

end Reference

/-! ## Paths with a slash in front -/

namespace Path

/-- A slash in front of a path that is let through changes nothing about that. -/
theorem isIllegal_slashed {path : String} (legal : isIllegal path = false) :
    isIllegal ("/" ++ path) = false := by
  rw [isIllegal_eq_false_iff] at legal ⊢
  have shown : ("/" ++ path).toList = '/' :: path.toList := by simp
  have decoded : Form.percentDecode (Utf8.encode ("/" ++ path)) =
      0x2F :: Form.percentDecode (Utf8.encode path) := by
    rw [FileTree.encode_slash]
    apply Form.percentDecode_plain
    intro same
    exact absurd same (by decide)
  rw [shown, decoded, List.forall_mem_cons, List.mem_cons, List.mem_cons,
    List.splitOn_cons_eq_if_modifyHead]
  refine ⟨rfl, ⟨by decide, legal.2.1⟩, ?_, ?_, ?_⟩
  · simpa using legal.2.2.1
  · simpa using legal.2.2.2.1
  · simpa using legal.2.2.2.2

/-- A slash in front of a text that is not empty does not change how it ends. -/
theorem isDirectory_slashed {path : String} (rooted : path.toList.head? = some '/') :
    isDirectory ("/" ++ path) = isDirectory path := by
  have shown : ("/" ++ path).toList = '/' :: path.toList := by simp
  obtain ⟨rest, whole⟩ := List.head?_eq_some_iff.mp rooted
  rw [isDirectory, isDirectory, shown, whole, List.getLast?_cons_cons]

end Path

/-- A provider answers for a path with a slash in front exactly if it does for the path. -/
def Provider.Slashing (provider : Provider) : Prop :=
  ∀ path, (provider.claims ("/" ++ path)).granted = (provider.claims path).granted

/-- Files are found whatever number of slashes stands in front. -/
theorem FileProvider.slashing (files : FileProvider) : files.toProvider.Slashing := by
  intro path
  have same : segments ("/" ++ path) = segments path := by
    rw [segments, segments, FileTree.encode_slash, List.splitOn_cons_eq_if_modifyHead]
    simp
  have target : target? files.root ("/" ++ path) = target? files.root path := by
    rw [target?_eq, target?_eq, same]
  change (files.claims ("/" ++ path)).granted = (files.claims path).granted
  rw [claims, claims, target]

namespace ServerConfig

variable {config : ServerConfig} {now : HeaderDate} {request : Request} {given : Response}

/-- The same request with a slash in front of its path. -/
def slashed (request : Request) : Request := { request with path := "/" ++ request.path }

/-- A request is answered with a redirect, and only providers of files had a part in the answer. -/
structure Moved (config : ServerConfig) (now : HeaderDate) (request : Request) (given : Response) :
    Prop where
  /-- The answer is ready. -/
  ready : (config.dispatch now request given).ending = .done
  /-- It says that the page has moved. -/
  moved : (config.dispatch now request given).response.status = .movedPermanently
  /-- Whatever was loaded was loaded by a provider of files. -/
  files : ∀ slot path, .load slot path ∈ calls (config.dispatch now request given).events →
    ∃ files : FileProvider, config.providers[slot]? = some files.toProvider

/-- A file that is loaded is no redirect. -/
theorem status_of_load {files : FileProvider} {path : String} {response : Response}
    (ready : (files.toProvider.load path request response).ending = .done) :
    (files.toProvider.load path request response).response.status = .ok := by
  obtain ⟨changes, ending, loads, made⟩ := files.exists_loads path
  obtain ⟨sameResponse, sameEnding⟩ := made response
  have done : ending = .done := sameEnding.symm.trans ready
  change (files.load path response).response.status = .ok
  rw [sameResponse]
  subst done
  cases loads with
  | filled mapped found dated => rfl

/-- A redirect to which only providers of files could have contributed is one of the dispatcher. -/
theorem Moved.redirects (moved : config.Moved now request given) :
    config.Redirects now request given := by
  obtain ⟨trace, response, ending, routed⟩ :=
    exists_routed config request given (config.prepare now request given)
  obtain ⟨sameCalls, sameResponse, sameEnding⟩ := dispatch_of_routed routed
  have ready := moved.ready
  have status := moved.moved
  have files := moved.files
  refine ⟨ready, status, ?_⟩
  rw [sameEnding] at ready
  rw [sameResponse] at status
  rw [sameCalls] at files ⊢
  -- Where a provider loads something, it is one of files, and those never redirect.
  have loadsNothing {place : Nat} {path : String} {provider : Provider}
      (placed : config.providers[place]? = some provider) (inside : .load place path ∈ trace)
      (done : (provider.load path request (config.prepare now request given)).ending = .done) :
      (provider.load path request (config.prepare now request given)).response.status = .ok := by
    obtain ⟨loader, same⟩ := files place path inside
    rw [placed, Option.some.injEq] at same
    rw [same] at done ⊢
    exact status_of_load done
  cases routed with
  | denied illegal => cases ready
  | unsupported legal unsupported => cases ready
  | missing legal supported unclaimed noIndex => cases ready
  | redirected legal supported unclaimed found noDirectory =>
    intro slot path
    simp [load_not_mem_asks, load_not_mem_indexAsks]
  | direct legal supported claim =>
    have ok := loadsNothing claim.placed (by simp) ready
    rw [ok] at status
    cases status
  | index legal supported unclaimed found directory =>
    have ok := loadsNothing found.claim.placed (by simp) ready
    rw [ok] at status
    cases status

/-- No provider claims a path with a slash in front if none claims the path. -/
theorem unclaimed_slashed {providers : List Provider} {path : String}
    (slashing : ∀ provider ∈ providers, provider.Slashing) (unclaimed : Unclaimed providers path) :
    Unclaimed providers ("/" ++ path) := by
  intro provider inside
  rw [slashing provider inside path]
  exact unclaimed provider inside

/-- The first provider that claims a path is the first one that claims it with a slash in front. -/
theorem firstClaim_slashed {providers : List Provider} {path : String} {slot : Nat}
    {provider : Provider} (slashing : ∀ provider ∈ providers, provider.Slashing)
    (claim : FirstClaim providers path slot provider) :
    FirstClaim providers ("/" ++ path) slot provider := by
  refine ⟨claim.placed, ?_, ?_⟩
  · rw [slashing provider (List.mem_of_getElem? claim.placed) path]
    exact claim.granted
  · apply unclaimed_slashed _ claim.first
    exact fun other inside => slashing other (List.mem_of_mem_take inside)

/-- The first index below a path is the first one below the path with a slash in front. -/
theorem firstIndex_slashed {providers : List Provider} {directory name : String}
    {names earlier : List String} {slot : Nat} {provider : Provider}
    (slashing : ∀ provider ∈ providers, provider.Slashing)
    (index : FirstIndex providers directory names earlier name slot provider) :
    FirstIndex providers ("/" ++ directory) names earlier name slot provider := by
  refine ⟨index.listed, ?_, ?_⟩
  · intro other inside
    rw [String.append_assoc]
    exact unclaimed_slashed slashing (index.noEarlier other inside)
  · rw [String.append_assoc]
    exact firstClaim_slashed slashing index.claim

/-- Where providers do not care about slashes in front, a request that is redirected is redirected
with a slash more in front of its path, too. -/
theorem Redirects.slashed (redirects : config.Redirects now request given)
    (slashing : ∀ provider ∈ config.providers, provider.Slashing) :
    config.Redirects now (slashed request) given := by
  obtain ⟨trace, response, ending, routed⟩ :=
    exists_routed config request given (config.prepare now request given)
  obtain ⟨sameCalls, sameResponse, sameEnding⟩ := dispatch_of_routed routed
  have ready := redirects.ready
  have unloaded := redirects.unloaded
  rw [sameEnding] at ready
  rw [sameCalls] at unloaded
  cases routed with
  | denied illegal => cases ready
  | unsupported legal unsupported => cases ready
  | missing legal supported unclaimed noIndex => cases ready
  | @direct slot provider legal supported claim =>
    exact absurd (by simp) (unloaded slot request.path)
  | @index earlier name slot provider legal supported unclaimed found directory =>
    exact absurd (by simp) (unloaded slot (request.path ++ name))
  | @redirected earlier name slot provider legal supported unclaimed found noDirectory =>
    have rooted := ((Path.isIllegal_eq_false_iff _).mp legal).1
    have index := firstIndex_slashed slashing found
    rw [← String.append_assoc] at index
    have way : Routed config (ServerConfig.slashed request) given
        (config.prepare now (ServerConfig.slashed request) given) _ _ _ :=
      .redirected (Path.isIllegal_slashed legal) supported (unclaimed_slashed slashing unclaimed)
        index ((Path.isDirectory_slashed rooted).trans noDirectory)
    obtain ⟨called, answer, done⟩ := dispatch_of_routed way
    refine ⟨done, ?_, ?_⟩
    · rw [answer]
    · intro place path
      rw [called]
      simp [load_not_mem_asks, load_not_mem_indexAsks]

/-- The path of a request that is redirected begins with a slash, and other characters follow. -/
theorem Redirects.rooted (redirects : config.Redirects now request given) :
    ∃ second rest, request.path.toList = '/' :: second :: rest := by
  obtain ⟨-, earlier, name, slot, provider, movable⟩ := redirects.movable
  have start := ((Path.isIllegal_eq_false_iff _).mp movable.legal).1
  have noDirectory := movable.noDirectory
  obtain ⟨rest, whole⟩ := List.head?_eq_some_iff.mp start
  cases rest with
  | nil => simp [Path.isDirectory, whole] at noDirectory
  | cons second rest => exact ⟨second, rest, whole⟩

/-- **A redirect stays with the server unless two slashes come first.** The answer points to the
path of the request with a slash at its end. A client that reads this address finds a host named in
it exactly if the second character of the path is a slash; otherwise, and if neither a question mark
nor a number sign stands in the path, it finds just the path with its slash. Where all providers
take a path with another slash in front for the same, as those of files do, such a path is
redirected as well, and to another host. -/
theorem reference_of_moved (moved : config.Moved now request given) :
    let location := request.path ++ "/"
    (config.dispatch now request given).response.header? "Location" = some location ∧
      location.toList.head? = some '/' ∧
      ((Reference.read location.toList).host = none ↔ request.path.toList[1]? ≠ some '/') ∧
      (request.path.toList[1]? ≠ some '/' → '?' ∉ request.path.toList →
        '#' ∉ request.path.toList →
        Reference.read location.toList = ⟨none, location.toList, none⟩) ∧
      ((∀ provider ∈ config.providers, provider.Slashing) →
        config.Redirects now (slashed request) given ∧
          (Reference.read ("/" ++ location).toList).host ≠ none) := by
  intro location
  have redirects := moved.redirects
  obtain ⟨second, rest, whole⟩ := redirects.rooted
  have shown : location.toList = '/' :: second :: (rest ++ ['/']) := by
    simp [location, whole]
  have rooted : location.toList.head? = some '/' := by rw [shown, List.head?_cons]
  have sameSecond : location.toList[1]? = request.path.toList[1]? := by
    rw [shown, whole]
    rfl
  refine ⟨redirects.movable.1, rooted, ?_, ?_, ?_⟩
  · rw [Reference.host_read_eq_none_iff rooted, sameSecond]
  · intro single noQuery noMark
    apply Reference.read_of_single
    · rwa [sameSecond]
    · simp [location, noQuery]
    · simp [location, noMark]
  · intro slashing
    refine ⟨redirects.slashed slashing, ?_⟩
    have doubled : ("/" ++ location).toList = '/' :: '/' :: second :: (rest ++ ['/']) := by
      rw [String.toList_append, shown]
      rfl
    have start : ("/" ++ location).toList.head? = some '/' := by rw [doubled, List.head?_cons]
    rw [ne_eq, Reference.host_read_eq_none_iff start, doubled]
    simp

/-- Files with an index below a directory of documents. -/
def docsFiles : FileProvider :=
  ⟨Utf8.encode "www", .directory [(Utf8.encode "www", .directory [(Utf8.encode "docs", .directory
    [(Utf8.encode "index.html", .file (Utf8.encode "index") 1700000000)])])]⟩

/-- A configuration that serves these files. -/
def docsFilesConfig : ServerConfig :=
  { ServerConfig.initial with
    providers := [docsFiles.toProvider]
    directoryIndex := ["index.html"] }

/-- The files are the only provider. -/
theorem moved_docsFiles {request : Request}
    (ready : (docsFilesConfig.dispatch ⟨0, by decide⟩ request .initial).ending = .done)
    (moved : (docsFilesConfig.dispatch ⟨0, by decide⟩ request .initial).response.status =
      .movedPermanently)
    (unloaded : (calls (docsFilesConfig.dispatch ⟨0, by decide⟩ request .initial).events).all
      fun call => match call with
        | .ask _ _ => true
        | .load _ _ => false) :
    docsFilesConfig.Moved ⟨0, by decide⟩ request .initial := by
  refine ⟨ready, moved, ?_⟩
  intro slot path called
  have noLoad := List.all_eq_true.mp unloaded _ called
  cases noLoad

/-- The redirect to the directory stays with the server, and that of its other spelling does not. -/
theorem reference_of_moved_docs :
    let request : Request := ⟨.get, "/docs", none, "HTTP/1.1", .empty, []⟩
    docsFilesConfig.Moved ⟨0, by decide⟩ request .initial ∧
      Reference.read "/docs/".toList = ⟨none, "/docs/".toList, none⟩ ∧
      docsFilesConfig.Redirects ⟨0, by decide⟩ (slashed request) .initial := by
  intro request
  have moved : docsFilesConfig.Moved ⟨0, by decide⟩ request .initial :=
    moved_docsFiles (by decide +kernel) (by decide +kernel) (by decide +kernel)
  obtain ⟨-, -, -, stays, leaves⟩ := reference_of_moved moved
  have slashing : ∀ provider ∈ docsFilesConfig.providers, provider.Slashing := by
    intro provider inside
    rw [List.mem_singleton.mp inside]
    exact docsFiles.slashing
  exact ⟨moved, stays (by decide) (by decide) (by decide), (leaves slashing).1⟩

/-- Not every redirect stays with the server: a request for the directory with two slashes in front
is answered with an address that names the directory as a host. -/
theorem exists_redirect_elsewhere :
    ¬∀ (config : ServerConfig) (files : FileProvider) (now : HeaderDate) (bytes : Bytes)
      (request : Request) (taken : Nat) (location : String),
      files.toProvider ∈ config.providers → Request.read bytes = .ok (request, taken) →
      config.Moved now request .initial →
      (config.dispatch now request .initial).response.header? "Location" = some location →
      location.toList.head? = some '/' ∧ location.toList[1]? ≠ some '/' := by
  intro stays
  let request : Request := ⟨.get, "//docs", none, "HTTP/1.1", .empty, []⟩
  have read : Request.read (Utf8.encode "GET //docs HTTP/1.1\r\n\r\n") = .ok (request, 23) := by
    decide +kernel
  have moved : docsFilesConfig.Moved ⟨0, by decide⟩ request .initial :=
    moved_docsFiles (by decide +kernel) (by decide +kernel) (by decide +kernel)
  have pointed := moved.redirects.movable.1
  have single := stays docsFilesConfig docsFiles _ _ request 23 _ (by simp [docsFilesConfig]) read
    moved pointed
  exact single.2 (by decide)

end ServerConfig

end OriginServer

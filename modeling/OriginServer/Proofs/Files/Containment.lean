import Mathlib.Control.Monad.Basic
import OriginServer.Proofs.Files.Mapping
import OriginServer.Proofs.Serving.Handling
import OriginServer.Transport.Script

/-!
# Nothing outside the document root is looked at

A file provider maps a request path to a path `Below` its root, or to none. What it answers and
loads depends on nothing else in the file tree (`toProvider_eq_of_agree`), so whatever a peer sends,
a server looks at such paths only, and a path that there is a reason to refuse reaches no provider
at all (`handle_contained`).
-/
namespace OriginServer

namespace FileProvider

/-- A segment that names an entry of a directory: it is neither empty nor made of one or two dots,
and it is no path of its own. -/
structure Normal (segment : Bytes) : Prop where
  /-- The segment is not empty. -/
  nonempty : segment ≠ []
  /-- The segment is not one dot. -/
  notDot : segment ≠ [0x2E]
  /-- The segment is not two dots. -/
  notUp : segment ≠ [0x2E, 0x2E]
  /-- The segment holds no slash. -/
  single : FileTree.slash ∉ segment

/-- A path is a root followed by normal segments. -/
def Below (root path : Bytes) : Prop :=
  ∃ names : List Bytes, (∀ name ∈ names, Normal name) ∧ path = names.foldl extend root

/-- A path is mapped if all its segments are normal, and then onto the root followed by them. -/
theorem target?_eq_some_iff {root target : Bytes} {path : String} :
    target? root path = some target ↔
      (∀ name ∈ segments path, Normal name) ∧ target = (segments path).foldl extend root := by
  rw [target?_eq]
  by_cases up : (segments path).contains [0x2E, 0x2E] = true
  · rw [if_pos up]
    constructor
    · intro mapped
      cases mapped
    · rintro ⟨normal, _⟩
      exact absurd rfl (normal _ (List.contains_iff_mem.mp up)).notUp
  · rw [if_neg up, Option.some.injEq, eq_comm]
    refine (and_iff_right fun name inside => ?_).symm
    have notUp : name ≠ [0x2E, 0x2E] := by
      rintro rfl
      exact up (List.contains_iff_mem.mpr inside)
    rw [segments, List.mem_filter, Bool.and_eq_true, bne_iff_ne, bne_iff_ne] at inside
    exact ⟨inside.2.1, inside.2.2, notUp, not_mem_of_mem_splitOn inside.1⟩

/-- A path is mapped below the root if it is mapped at all. -/
theorem below_of_target? {root target : Bytes} {path : String}
    (mapped : target? root path = some target) : Below root target :=
  ⟨segments path, target?_eq_some_iff.mp mapped⟩

/-- Loading a path that is mapped looks at its target. -/
theorem looked_load {provider : FileProvider} {path : String} {target : Bytes}
    (mapped : target? provider.root path = some target) (response : Response) :
    (provider.load path response).looked = [target] := by
  rw [load, mapped]
  cases found : provider.tree.read target with
  | error cause => simp [found]
  | ok entry => simp [found]

/-- Deciding whether a path is served looks below the root only. -/
theorem below_of_looked_claims {provider : FileProvider} {path : String} {looked : Bytes}
    (inside : looked ∈ (provider.claims path).looked) : Below provider.root looked := by
  rw [claims] at inside
  cases mapped : target? provider.root path with
  | none => simp [mapped] at inside
  | some target =>
    rw [mapped, List.mem_singleton] at inside
    exact inside ▸ below_of_target? mapped

/-- Loading a path looks below the root only. -/
theorem below_of_looked_load {provider : FileProvider} {path : String} {response : Response}
    {looked : Bytes} (inside : looked ∈ (provider.load path response).looked) :
    Below provider.root looked := by
  cases mapped : target? provider.root path with
  | none => simp [load, mapped] at inside
  | some target =>
    rw [looked_load mapped, List.mem_singleton] at inside
    exact inside ▸ below_of_target? mapped

/-- File trees that agree below a root make the same provider. -/
theorem toProvider_eq_of_agree {root : Bytes} {tree other : FileTree}
    (agree : ∀ path, Below root path → tree.find path = other.find path) :
    FileProvider.toProvider ⟨root, tree⟩ = FileProvider.toProvider ⟨root, other⟩ := by
  have sameClaims : claims ⟨root, tree⟩ = claims ⟨root, other⟩ := by
    funext path
    cases mapped : target? root path with
    | none => simp [claims, mapped]
    | some target =>
      simp [claims, mapped, FileTree.hasFile, agree target (below_of_target? mapped)]
  have sameLoad : load ⟨root, tree⟩ = load ⟨root, other⟩ := by
    funext path response
    cases mapped : target? root path with
    | none => simp [load, mapped]
    | some target =>
      simp [load, mapped, FileTree.read, agree target (below_of_target? mapped)]
  rw [toProvider, toProvider, sameClaims, sameLoad]

end FileProvider

/-- The paths of the file system at which the provider at a place looks in an event. -/
def Event.lookedAt (slot : Nat) : Event → List Bytes
  | asked question => if question.slot = slot then question.claim.looked else []
  | loaded place _ looked => if place = slot then looked else []
  | _ => []

/-- Only in calls of providers are paths of the file system looked at. -/
theorem Event.isSome_call?_of_lookedAt {event : Event} {slot : Nat} {path : Bytes}
    (looked : path ∈ event.lookedAt slot) : event.call?.isSome = true := by
  cases event with
  | asked question => rfl
  | loaded place other paths => rfl
  | stream event => simp [lookedAt] at looked
  | logged record => simp [lookedAt] at looked
  | reported report => simp [lookedAt] at looked

/-- In a genuine event a file provider looks below its root only. -/
theorem below_of_genuine {providers : List Provider} {files : FileProvider} {slot : Nat}
    (placed : providers[slot]? = some files.toProvider) {request : Request} {event : Event}
    (genuine : event.Genuine providers request) {path : Bytes}
    (looked : path ∈ event.lookedAt slot) : FileProvider.Below files.root path := by
  cases event with
  | asked question =>
    rw [Event.lookedAt] at looked
    by_cases here : question.slot = slot
    · obtain ⟨provider, stands, answered⟩ := genuine
      rw [if_pos here, answered] at looked
      rw [here, placed, Option.some.injEq] at stands
      rw [← stands] at looked
      exact FileProvider.below_of_looked_claims looked
    · simp [here] at looked
  | loaded place loadedPath lookedPaths =>
    rw [Event.lookedAt] at looked
    by_cases here : place = slot
    · obtain ⟨provider, response, claim, found⟩ := genuine
      have stands := claim.placed
      rw [if_pos here, found] at looked
      rw [here, placed, Option.some.injEq] at stands
      rw [← stands] at looked
      exact FileProvider.below_of_looked_load looked
    · simp [here] at looked
  | stream event => simp [Event.lookedAt] at looked
  | logged record => simp [Event.lookedAt] at looked
  | reported report => simp [Event.lookedAt] at looked

namespace Server

variable {σ : Type} [Transport σ]

/-- A path that there is a reason to refuse is shown to no provider, and the answer is what the
peer accepts of the page for a refused path. -/
theorem handle_of_forbidden {server : Server} {connection : Connection σ} {request : Request}
    (read : connection.readRequest.value = .ok request) (forbidden : Path.Forbidden request.path)
    (now : HeaderDate) (peer : Option String) :
    let page := server.errorResponse (.accessDenied request.path) (initialResponse request)
    calls (server.handle now connection peer).events = [] ∧
      (server.handle now connection peer).result = .failed (.accessDenied request.path) ∧
      Event.wire (server.handle now connection peer).events =
        StreamEvent.wire (connection.readRequest.state.send (.ofResponse page)).events := by
  obtain ⟨untouched, kept, failed⟩ := ServerConfig.dispatch_of_routed
    (.denied (Path.isIllegal_of_forbidden forbidden) :
      Routed server.config request (initialResponse request)
        (server.config.prepare now request (initialResponse request)) _ _ _)
  obtain ⟨result, wire⟩ := handle_of_failed read failed rfl peer
  rw [kept] at wire
  refine ⟨?_, result, wire⟩
  rw [Event.calls_eq_nil_iff, callEvents_handle, read]
  exact (Event.calls_eq_nil_iff _).mp untouched

/-- A file provider among the providers looks below its root only, whatever is read from a stream,
and what it does depends on nothing else in the file tree. A path that there is a reason to refuse
is shown to no provider; what the peer sees then is what it accepts of the page for a refused
path. -/
theorem handle_contained (server : Server) {files : FileProvider} {slot : Nat}
    (placed : server.config.providers[slot]? = some files.toProvider) (now : HeaderDate)
    (connection : Connection σ) (peer : Option String) :
    let handling := server.handle now connection peer
    (∀ event ∈ handling.events, ∀ path ∈ event.lookedAt slot,
      FileProvider.Below files.root path) ∧
    (∀ tree : FileTree,
      (∀ path, FileProvider.Below files.root path → tree.find path = files.tree.find path) →
        FileProvider.toProvider { files with tree } = files.toProvider) ∧
    ∀ request, connection.readRequest.value = .ok request → Path.Forbidden request.path →
      let page := server.errorResponse (.accessDenied request.path) (initialResponse request)
      calls handling.events = [] ∧ handling.result = .failed (.accessDenied request.path) ∧
        page.status = .forbidden ∧ Event.wire handling.events <+: page.wire ∧
        ((connection.readRequest.state.send (.ofResponse page)).value.1 = .ok () →
          Event.wire handling.events = page.wire) := by
  refine ⟨?_, fun tree agree => FileProvider.toProvider_eq_of_agree agree, ?_⟩
  · intro event inside path looked
    obtain ⟨request, _, dispatched⟩ :=
      exists_dispatched_of_mem_handle inside (Event.isSome_call?_of_lookedAt looked)
    have genuine := server.config.genuine_dispatch now request _ event dispatched
    exact below_of_genuine placed genuine looked
  · intro request read forbidden
    obtain ⟨untouched, result, wire⟩ := handle_of_forbidden read forbidden now peer
    refine ⟨untouched, result, rfl, ?_, ?_⟩
    · rw [wire]
      exact Connection.wire_send_prefix _ _
    · intro delivered
      rw [wire]
      exact Connection.wire_send_of_ok delivered

/-- The files below a root with one file beside it. -/
def guardedFiles : FileProvider :=
  { root := Utf8.encode "www"
    tree := .directory [(Utf8.encode "www", .empty), (Utf8.encode "secret", .file [0x2A] 0)] }

/-- A server of these files. -/
def guardedServer : Server :=
  { config := ServerConfig.initial.addProvider guardedFiles.toProvider
    pages := default
    observer := .silent }

/-- A connection whose peer asks for the file beside the root. -/
def climbingConnection : Connection Script :=
  .ofStream (Script.ofBytes (Utf8.encode "GET /%2e%2E/secret HTTP/1.1\r\n\r\n"))

/-- The peer that asks for the file beside the root gets the page for a refused path. -/
theorem handle_climbingConnection :
    let request : Request := ⟨.get, "/%2e%2E/secret", none, "HTTP/1.1", .empty, []⟩
    let handling := guardedServer.handle ⟨0, by decide⟩ climbingConnection none
    guardedServer.config.providers[0]? = some guardedFiles.toProvider ∧
      climbingConnection.readRequest.value = .ok request ∧ Path.Forbidden request.path ∧
      calls handling.events = [] ∧
      Event.wire handling.events = (guardedServer.errorResponse (.accessDenied request.path)
        (initialResponse request)).wire := by
  intro request handling
  have placed : guardedServer.config.providers[0]? = some guardedFiles.toProvider := rfl
  have read : climbingConnection.readRequest.value = .ok request := by decide +kernel
  have forbidden : Path.Forbidden request.path := .decodedUp (by decide)
  have refused := (handle_contained guardedServer placed ⟨0, by decide⟩ climbingConnection
    none).2.2 request read forbidden
  have delivered : (climbingConnection.readRequest.state.send (.ofResponse
      (guardedServer.errorResponse (.accessDenied request.path)
        (initialResponse request)))).value.1 = .ok () :=
    Script.send_of_willing (by decide +kernel) _
  exact ⟨placed, read, forbidden, refused.1, refused.2.2.2.2 delivered⟩

end Server

end OriginServer

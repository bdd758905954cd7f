import OriginServer.Proofs.Files.Agreement
import OriginServer.Proofs.Serving.Lifecycle
import OriginServer.Proofs.Serving.Standalone

/-!
# Files without a date

The instant at which a file was last changed goes into a header field, whose form has dates only for
the instants from 1970 to the end of 9999. Files can be changed at other instants. Loading such a
file breaks off, and the handling of the connection with it: nothing is sent, nothing is reported
and the stream is not ended (`Server.handle_of_file`). All other files are delivered in an orderly
way.
-/
namespace OriginServer

/-- An instant lies outside the years that have dates. -/
def HeaderDate.Outside (seconds : Int) : Prop := seconds < 0 ∨ 253402300800 ≤ seconds

/-- An instant lies outside exactly if it has no date. -/
theorem HeaderDate.outside_iff {seconds : Int} :
    Outside seconds ↔ ∀ date : HeaderDate, (date.seconds : Int) ≠ seconds := by
  constructor
  · intro outside date same
    have bounded := date.bounded
    rw [Outside] at outside
    omega
  · intro dateless
    by_contra inside
    rw [Outside, not_or, Int.not_lt, Int.not_le] at inside
    obtain ⟨date, seconds⟩ := HeaderDate.exists_seconds inside.1 inside.2
    exact dateless date seconds

namespace FileProvider

variable {provider : FileProvider} {path : String} {target content : Bytes} {modified : Int}

/-- Loading a file breaks off exactly if it was changed at an instant outside. -/
theorem Leads.aborted_iff (leads : provider.Leads path target content modified)
    (response : Response) :
    (provider.load path response).ending = .aborted ↔ HeaderDate.Outside modified := by
  have read := FileTree.read_eq_ok_iff.mpr leads.stands
  rw [HeaderDate.outside_iff]
  constructor
  · intro broken date seconds
    cases broken.symm.trans (load_of_date leads seconds response).1
  · intro dateless
    have undated : HeaderDate.ofSeconds? modified = none := by
      rw [Option.eq_none_iff_forall_ne_some]
      intro date found
      exact dateless date (HeaderDate.ofSeconds?_eq_some_iff.mp found)
    simp [load, leads.mapped, read, fill, undated]

end FileProvider

namespace Server

variable {σ : Type} [Transport σ] {server : Server} {connection : Connection σ}

/-- **A file without a date breaks the handling off.** A request comes to a regular file below the
root of a file provider. The handling is broken off exactly if the file was changed before 1970 or
after 9999; then the stream is only read from, is not ended, and nothing is reported. In every other
case the file is the reply, and the handling reports once and then ends the stream. -/
theorem handle_of_file (server : Server) (now : HeaderDate) (connection : Connection σ)
    (peer : Option String) {slot : Nat} {provider : FileProvider} {path : String}
    {request : Request} {target content : Bytes} {modified : Int}
    (placed : server.config.providers[slot]? = some provider.toProvider)
    (received : connection.readRequest.value = .ok request)
    (called : .load slot path ∈
      calls (server.config.dispatch now request (initialResponse request)).events)
    (leads : provider.Leads path target content modified) :
    let handling := server.handle now connection peer
    (∀ response, (provider.load path response).ending = .aborted ↔ HeaderDate.Outside modified) ∧
      (handling.result = .aborted ↔ HeaderDate.Outside modified) ∧
      (handling.result = .aborted →
        (∀ operation ∈ Event.operations handling.events, operation.isRead = true) ∧
          Event.reports handling.events = []) ∧
      (handling.result ≠ .aborted → ∃ (date : HeaderDate) (response : Response),
        (date.seconds : Int) = modified ∧
          Filled content (MediaType.ofPath target) date
            (server.config.prepare now request (initialResponse request)) response ∧
          Lifecycle (some response) handling.events) := by
  intro handling
  obtain ⟨other, claim, once⟩ := ServerConfig.loadsOnce_of_load called
  obtain rfl : other = provider.toProvider := Option.some.inj (claim.placed.symm.trans placed)
  have served := serve_of_ok received server now peer
  have broken : handling.result = .aborted ↔ HeaderDate.Outside modified := by
    rw [result_handle_eq_aborted_iff, served]
    exact once.ending ▸ leads.aborted_iff _
  refine ⟨leads.aborted_iff, broken, ?_, ?_⟩
  · intro aborted
    have brokenOff := brokenOff_of_aborted aborted
    exact ⟨brokenOff.reading, brokenOff.unreported⟩
  · intro returned
    have inside := mt broken.mpr returned
    rw [HeaderDate.outside_iff] at inside
    push Not at inside
    obtain ⟨date, seconds⟩ := inside
    obtain ⟨done, filled⟩ := FileProvider.load_of_date leads seconds
      (server.config.prepare now request (initialResponse request))
    have reply : server.reply? (server.serve now connection peer) =
        some (provider.load path
          (server.config.prepare now request (initialResponse request))).response := by
      rw [reply?_eq_some_iff, served]
      exact .inl ⟨once.ending.trans done, once.response⟩
    exact ⟨date, _, seconds, filled,
      reply ▸ server.lifecycle_of_returned now connection peer returned⟩

/-- The page that was changed before 1970 breaks the handling off. -/
theorem handle_of_file_old :
    let handling := datedServer.handle ⟨0, by decide⟩ undatedConnection none
    FileProvider.Leads ⟨Utf8.encode "www", datedTree⟩ "/old.html" (Utf8.encode "www/old.html")
        (Utf8.encode "old") (-1) ∧
      handling.result = .aborted ∧
      (∀ operation ∈ Event.operations handling.events, operation.isRead = true) ∧
      Event.reports handling.events = [] := by
  intro handling
  let provider : FileProvider := ⟨Utf8.encode "www", datedTree⟩
  let request : Request := ⟨.get, "/old.html", none, "HTTP/1.1", .empty, []⟩
  have received : undatedConnection.readRequest.value = .ok request := by decide +kernel
  have called : .load 1 "/old.html" ∈ calls (datedServer.config.dispatch ⟨0, by decide⟩ request
      (initialResponse request)).events := by decide +kernel
  have leads : provider.Leads "/old.html" (Utf8.encode "www/old.html") (Utf8.encode "old") (-1) :=
    ⟨by decide +kernel, rfl⟩
  obtain ⟨-, broken, silent, -⟩ :=
    handle_of_file datedServer ⟨0, by decide⟩ undatedConnection none rfl received called leads
  have aborted : handling.result = .aborted := broken.mpr (.inl (by decide))
  exact ⟨leads, aborted, silent aborted⟩

/-- Not every request for a regular file below a root is reported on and followed by the end of the
stream: the page that was changed before 1970 is an exception. -/
theorem exists_unreported_file :
    ¬∀ (server : Server) (now : HeaderDate) (connection : Connection Script)
      (peer : Option String) (slot : Nat) (provider : FileProvider) (path : String)
      (request : Request) (target content : Bytes) (modified : Int),
      server.config.providers[slot]? = some provider.toProvider →
      connection.readRequest.value = .ok request →
      .load slot path ∈
        calls (server.config.dispatch now request (initialResponse request)).events →
      provider.Leads path target content modified →
      (∀ response, (provider.load path response).ending ≠ .aborted) ∧
        (∃ report, Event.reports (server.handle now connection peer).events = [report]) ∧
        ∃ before ended, Event.operations (server.handle now connection peer).events =
          before ++ [.shutdown ended] := by
  intro always
  let provider : FileProvider := ⟨Utf8.encode "www", datedTree⟩
  let request : Request := ⟨.get, "/old.html", none, "HTTP/1.1", .empty, []⟩
  obtain ⟨-, ⟨report, reported⟩, -⟩ := always datedServer ⟨0, by decide⟩ undatedConnection none 1
    provider "/old.html" request (Utf8.encode "www/old.html") (Utf8.encode "old") (-1) rfl
    (by decide +kernel) (by decide +kernel) ⟨by decide +kernel, rfl⟩
  have silent : Event.reports (datedServer.handle ⟨0, by decide⟩ undatedConnection none).events =
    [] := by decide +kernel
  cases silent.symm.trans reported

end Server

end OriginServer

import OriginServer.Proofs.Reading.Bound

/-!
# Faults while reading

A call of `Connection.readRequest` that ends because a read failed, or because the stream had ended
for the moment, leaves what it read in the buffer, and the next call takes the same turn again. So a
script with one such step more than another one (`Delayed`) brings the same results, besides the one
that reports the step (`Delayed.readRequest` for a call, `Delayed.readRequests` for any number of
them), and no byte is lost on the way (`readRequests_ahead`). A refusal is different: it reads
nothing, so it is repeated for ever (`readRequest_of_refused`).
-/
namespace OriginServer

namespace ReadStep

/-- What a read meets that the step serves, unless it is given some bytes. -/
def fault? : ReadStep → Option Fault
  | bytes [] => some .hangUp
  | bytes (_ :: _) => none
  | fault kind => some (.ofKind kind)

/-- The bytes that a step gives. -/
def content : ReadStep → Bytes
  | bytes content => content
  | fault _ => []

end ReadStep

namespace Script

/-- The bytes that a script still gives, in order. -/
def ahead (script : Script) : Bytes := script.reads.flatMap ReadStep.content

/-- A read is served by the first step alone. What it is given and what is left of the step do not
depend on the later steps, and are together what the step gives. -/
theorem exists_read_cons (room : Nat) (step : ReadStep) :
    ∃ outcome left,
      (∀ (script : Script) (rest : List ReadStep),
        Transport.read room { script with reads := step :: rest } =
          (outcome, { script with reads := left ++ rest })) ∧
        step.content = (StreamEvent.read outcome).received ++ left.flatMap ReadStep.content := by
  cases step with
  | fault kind => exact ⟨.error (.ofKind kind), [], fun _ _ => rfl, rfl⟩
  | bytes content =>
    have parts : content = content.take room ++ content.drop room :=
      (List.take_append_drop room content).symm
    cases later : content.drop room with
    | nil =>
      rw [later] at parts
      refine ⟨.ok (content.take room), [], fun script rest => ?_, parts⟩
      simp [Transport.read, read, later]
    | cons first more =>
      rw [later] at parts
      refine ⟨.ok (content.take room), [.bytes (first :: more)], fun script rest => ?_, ?_⟩
      · simp [Transport.read, read, later]
      · simpa [ReadStep.content, StreamEvent.received] using parts

/-- What a read is given and what is ahead after it were ahead before it. -/
theorem ahead_read (room : Nat) (script : Script) :
    script.ahead = (StreamEvent.read (Transport.read room script).1).received ++
      (Transport.read room script).2.ahead := by
  obtain ⟨reads, writes, flushes, shutdown⟩ := script
  cases reads with
  | nil => rfl
  | cons step rest =>
    obtain ⟨outcome, left, served, parts⟩ := exists_read_cons room step
    have given := served ⟨[], writes, flushes, shutdown⟩ rest
    simp only [ahead, given, List.flatMap_cons, List.flatMap_append, parts, List.append_assoc]

end Script

namespace Connection

/-! ## One step more -/

/-- A connection is behind another one by a step of its script: without the step, it is the other
one. -/
inductive Delayed (step : ReadStep) : Connection Script → Connection Script → Prop where
  /-- The step stands somewhere among the reads. -/
  | inserted (script : Script) (early later : List ReadStep) (buffer : Bytes) :
      Delayed step ⟨{ script with reads := early ++ step :: later }, buffer⟩
        ⟨{ script with reads := early ++ later }, buffer⟩

/-- How a call on a delayed connection goes, beside the same call on the other one. -/
inductive Matched (step : ReadStep) (fault : Fault)
    (late call : Activity (Connection Script) (Except Failure Request)) : Prop where
  /-- Both calls return the same, and the step is still ahead. -/
  | same (value : late.value = call.value) (delayed : Delayed step late.state call.state)
  /-- The step is reported, and the next call returns what this one should have returned. -/
  | reported (value : late.value = .error (.transport fault))
      (next : late.state.readRequest.value = call.value)
      (state : late.state.readRequest.state = call.state)

/-- A call that waits and meets a fault reports it and leaves the buffer. -/
theorem readRequest_of_fault? {step : ReadStep} {fault : Fault} (failing : step.fault? = some fault)
    (script : Script) (later : List ReadStep) {buffer : Bytes} (waiting : Waiting buffer) :
    let call := readRequest ⟨{ script with reads := step :: later }, buffer⟩
    call.value = .error (.transport fault) ∧
      call.state = ⟨{ script with reads := later }, buffer⟩ := by
  rw [readRequest_of_waiting waiting]
  cases step with
  | fault kind =>
    obtain rfl := Option.some.inj failing
    have given : (Transport.read readRoom { script with reads := .fault kind :: later }).1 =
        .error (.ofKind kind) := rfl
    rw [receive_of_error given]
    exact ⟨rfl, rfl⟩
  | bytes content =>
    cases content with
    | nil =>
      obtain rfl := Option.some.inj failing
      rw [receive_of_nil rfl]
      exact ⟨rfl, rfl⟩
    | cons first more => simp [ReadStep.fault?] at failing

/-- A call on a delayed connection reports the step, or it does what the same call does on the other
connection. -/
theorem Delayed.readRequest {step : ReadStep} {fault : Fault} (failing : step.fault? = some fault)
    {late prompt : Connection Script} (delayed : Delayed step late prompt) :
    Matched step fault late.readRequest prompt.readRequest := by
  obtain ⟨script, early, later, buffer⟩ := delayed
  -- Each turn that goes on takes some bytes from the steps before the one in question.
  induction length : (early.flatMap ReadStep.content).length using Nat.strongRecOn
    generalizing early buffer with
  | _ size ih =>
    obtain ⟨request, taken, done⟩ | ⟨cause, refused, complete⟩ | ⟨unfound, overlong⟩ | waiting :=
      turn_cases buffer
    · rw [readRequest_of_ok done, readRequest_of_ok done]
      exact .same rfl (.inserted script early later _)
    · rw [readRequest_of_error refused complete, readRequest_of_error refused complete]
      exact .same rfl (.inserted script early later buffer)
    · rw [readRequest_of_overlong unfound overlong, readRequest_of_overlong unfound overlong]
      exact .same rfl (.inserted script early later buffer)
    · cases early with
      | nil =>
        -- What is left of the script behind the step is the other script.
        obtain ⟨value, state⟩ := readRequest_of_fault? failing script later waiting
        exact .reported value (congrArg (·.readRequest.value) state)
          (congrArg (·.readRequest.state) state)
      | cons first rest =>
        obtain ⟨outcome, left, served, parts⟩ := Script.exists_read_cons readRoom first
        have given : ∀ behind, Transport.read readRoom
            { script with reads := first :: rest ++ behind } =
              (outcome, { script with reads := left ++ rest ++ behind }) := by
          intro behind
          rw [List.cons_append, served, List.append_assoc]
        rw [readRequest_of_waiting waiting, readRequest_of_waiting waiting]
        cases outcome with
        | error other =>
          rw [receive_of_error (congrArg Prod.fst (given _)),
            receive_of_error (congrArg Prod.fst (given _)), given, given]
          exact .same rfl (.inserted script (left ++ rest) later buffer)
        | ok piece =>
          by_cases empty : piece = []
          · subst empty
            rw [receive_of_nil (congrArg Prod.fst (given _)),
              receive_of_nil (congrArg Prod.fst (given _)), given, given]
            exact .same rfl (.inserted script (left ++ rest) later buffer)
          · rw [receive_of_piece empty (congrArg Prod.fst (given _)),
              receive_of_piece empty (congrArg Prod.fst (given _)), given, given]
            have smaller : ((left ++ rest).flatMap ReadStep.content).length < size := by
              have some := List.length_pos_iff.mpr empty
              rw [← length, List.flatMap_cons, parts, List.flatMap_append]
              simp only [StreamEvent.received, List.length_append]
              omega
            cases ih _ smaller (left ++ rest) (buffer ++ piece) rfl with
            | same value delayed => exact .same value delayed
            | reported value next state => exact .reported value next state

/-- Some calls return what the first one returns, and then what the others return. -/
theorem results_succ {σ : Type} [Transport σ] (calls : Nat) (connection : Connection σ) :
    (readRequests (calls + 1) connection).1 =
      connection.readRequest.value :: (readRequests calls connection.readRequest.state).1 := rfl

/-- Any number of calls on a delayed connection return what the calls on the other one return, with
one report of the step among them, from the given place on. -/
structure Reported (fault : Fault) (place : Nat) (late prompt : Connection Script) : Prop where
  /-- As many calls as there are before the report return the same. -/
  before : ∀ calls ≤ place, (readRequests calls late).1 = (readRequests calls prompt).1
  /-- Any larger number of calls returns the same and the report at its place. -/
  after : ∀ calls ≥ place, (readRequests (calls + 1) late).1 =
    (readRequests calls prompt).1.insertIdx place (.error (.transport fault))

/-- A call that returns the same moves the report by one place. -/
theorem Reported.cons {fault : Fault} {place : Nat} {late prompt : Connection Script}
    (same : late.readRequest.value = prompt.readRequest.value)
    (reported : Reported fault place late.readRequest.state prompt.readRequest.state) :
    Reported fault (place + 1) late prompt where
  before calls early := by
    cases calls with
    | zero => rfl
    | succ calls =>
      have others := reported.before calls (by omega)
      rw [results_succ, results_succ, same, others]
  after calls behind := by
    cases calls with
    | zero => omega
    | succ calls =>
      have others := reported.after calls (by omega)
      rw [results_succ (calls + 1), results_succ calls prompt, others, same,
        List.insertIdx_succ_cons]

/-- A report is followed by what the other connection returns. -/
theorem reported_zero {fault : Fault} {late prompt : Connection Script}
    (value : late.readRequest.value = .error (.transport fault))
    (next : late.readRequest.state.readRequest.value = prompt.readRequest.value)
    (state : late.readRequest.state.readRequest.state = prompt.readRequest.state) :
    Reported fault 0 late prompt where
  before calls early := by
    obtain rfl := Nat.le_zero.mp early
    rfl
  after calls _ := by
    have others : (readRequests calls late.readRequest.state).1 =
        (readRequests calls prompt).1 := by
      cases calls with
      | zero => rfl
      | succ calls => rw [results_succ, results_succ, next, state]
    rw [results_succ, value, others, List.insertIdx_zero]

/-- Calls on a delayed connection return what they return on the other one, or the step is reported
at some place. -/
theorem Delayed.readRequests {step : ReadStep} {fault : Fault} (failing : step.fault? = some fault)
    {late prompt : Connection Script} (delayed : Delayed step late prompt) (calls : Nat) :
    (readRequests calls late).1 = (readRequests calls prompt).1 ∨
      ∃ place, Reported fault place late prompt := by
  induction calls generalizing late prompt with
  | zero => exact .inl rfl
  | succ calls ih =>
    cases delayed.readRequest failing with
    | same value delayed =>
      obtain others | ⟨place, reported⟩ := ih delayed
      · left
        rw [results_succ, results_succ, value, others]
      · right
        exact ⟨place + 1, reported.cons value⟩
    | reported value next state =>
      right
      exact ⟨0, reported_zero value next state⟩

/-! ## The bytes ahead -/

/-- The turn that ends a call takes no byte from those ahead, besides the request that it
returns. -/
theorem Stops.ahead {connection : Connection Script}
    {ending : Activity (Connection Script) (Except Failure Request)}
    (stops : Stops connection ending) :
    ending.state.buffer ++ ending.state.stream.ahead =
      remaining (connection.buffer ++ connection.stream.ahead) [ending.value] := by
  have moved := Script.ahead_read readRoom connection.stream
  cases stops with
  | returned done => exact (remaining_of_ok done connection.stream.ahead).symm
  | refused refused complete => rfl
  | overlong unfound overlong => rfl
  | ended waiting given =>
    rw [moved, given]
    rfl
  | faulted waiting given =>
    rw [moved, given]
    rfl

/-- After a call the bytes ahead are those before it, without the request that was returned. -/
theorem readRequest_ahead (connection : Connection Script) :
    connection.readRequest.state.buffer ++ connection.readRequest.state.stream.ahead =
      remaining (connection.buffer ++ connection.stream.ahead) [connection.readRequest.value] := by
  -- A turn that goes on moves some bytes from the script to the buffer.
  induction length : connection.stream.ahead.length using Nat.strongRecOn
    generalizing connection with
  | _ size ih =>
    rcases stops_or_given connection with stops | ⟨waiting, piece, nonempty, given⟩
    · exact stops.ahead
    · have moved := Script.ahead_read readRoom connection.stream
      rw [given] at moved
      have smaller : (Transport.read readRoom connection.stream).2.ahead.length < size := by
        have some := List.length_pos_iff.mpr nonempty
        rw [← length, moved, List.length_append]
        simp only [StreamEvent.received]
        omega
      have later := ih _ smaller
        ⟨(Transport.read readRoom connection.stream).2, connection.buffer ++ piece⟩ rfl
      rw [List.append_assoc] at later
      rw [readRequest_of_waiting waiting, receive_of_piece nonempty given, moved]
      exact later

/-- After any number of calls the bytes ahead are those before them, without the requests that were
returned. -/
theorem readRequests_ahead (calls : Nat) (connection : Connection Script) :
    (readRequests calls connection).2.buffer ++ (readRequests calls connection).2.stream.ahead =
      remaining (connection.buffer ++ connection.stream.ahead)
        (readRequests calls connection).1 := by
  induction calls generalizing connection with
  | zero => rfl
  | succ calls ih =>
    have call := readRequest_ahead connection
    have later := ih connection.readRequest.state
    rw [call, ← remaining_append] at later
    exact later

/-! ## Refusals -/

variable {σ : Type} [Transport σ]

/-- A head that was gathered stands at the front of the buffer. -/
theorem splitHead_gatherHead {connection : Connection σ} {parts : Bytes × Bytes}
    (gathered : connection.gatherHead.value = .ok parts) :
    splitHead connection.gatherHead.state.buffer = some parts := by
  fun_induction gatherHead connection with
  | case1 connection parts found =>
    rw [found, Except.ok.inj gathered]
  | case2 connection unfound long => cases gathered
  | case3 connection unfound short fault stream given => cases gathered
  | case4 connection unfound short stream given => cases gathered
  | case5 connection unfound short first more stream given later ih => exact ih gathered

/-- A head is refused while it is gathered only if it is too long. -/
theorem overlong_gatherHead {connection : Connection σ} {cause : ReadError}
    (refused : connection.gatherHead.value = .error (.badRequest cause)) :
    cause = .invalidHeader ∧ splitHead connection.gatherHead.state.buffer = none ∧
      maxHeadBytes < connection.gatherHead.state.buffer.length := by
  fun_induction gatherHead connection with
  | case1 connection parts found => cases refused
  | case2 connection unfound long =>
    cases refused
    exact ⟨rfl, unfound, long⟩
  | case3 connection unfound short fault stream given => cases refused
  | case4 connection unfound short stream given => cases refused
  | case5 connection unfound short first more stream given later ih => exact ih refused

/-- A refusal is repeated by the next call, which reads nothing and changes nothing. -/
theorem readRequest_of_refused {connection : Connection σ} {cause : ReadError}
    (refused : connection.readRequest.value = .error (.badRequest cause)) :
    connection.readRequest.state.readRequest =
      ⟨.error (.badRequest cause), connection.readRequest.state, []⟩ := by
  have whole : ∀ parts, connection.gatherHead.value = .ok parts →
      splitHead connection.gatherHead.state.buffer = some parts := fun _ => splitHead_gatherHead
  have overlong : ∀ cause, connection.gatherHead.value = .error (.badRequest cause) →
      cause = .invalidHeader ∧ splitHead connection.gatherHead.state.buffer = none ∧
        maxHeadBytes < connection.gatherHead.state.buffer.length := fun _ => overlong_gatherHead
  change (completeRequest connection.gatherHead).value = _ at refused
  change (completeRequest connection.gatherHead).state.readRequest =
    ⟨_, (completeRequest connection.gatherHead).state, []⟩
  generalize connection.gatherHead = headed at refused whole overlong
  obtain ⟨value, state, events⟩ := headed
  cases value with
  | error failure =>
    obtain rfl : failure = .badRequest cause := Except.error.inj refused
    obtain ⟨rfl, unfound, long⟩ := overlong cause rfl
    exact readRequest_of_overlong unfound long
  | ok parts =>
    have found := whole parts rfl
    simp only [completeRequest] at refused ⊢
    cases readable : RequestHead.read parts.1 with
    | error other =>
      simp only [readable, Except.error.injEq, Failure.badRequest.injEq] at refused ⊢
      subst refused
      exact readRequest_of_error (Request.read_of_unreadable found readable)
        fun same => RequestHead.read_ne_incomplete parts.1 (same ▸ readable)
    | ok head =>
      simp only [readable] at refused
      split at refused <;> cases refused

/-- A refusal is repeated by all later calls, and the connection stays as it is. -/
theorem readRequests_of_refused {connection : Connection σ} {cause : ReadError}
    (refused : connection.readRequest.value = .error (.badRequest cause)) (calls : Nat) :
    (readRequests calls connection.readRequest.state).2 = connection.readRequest.state := by
  have again := readRequest_of_refused refused
  induction calls with
  | zero => rfl
  | succ calls ih =>
    change (readRequests calls connection.readRequest.state.readRequest.state).2 = _
    rw [again]
    exact ih

/-- **A fault loses nothing.** Let a script hold a step that brings a fault, or the end of the
stream for one read. Calls on it return what they return without the step, or the same with one more
result: the report of just this fault, at one place. On every script, after any number of calls, the
buffered bytes and the unread ones are those of the script, in order, without the requests that were
returned, so a call that fails takes, loses, doubles and moves none. And what a call refused every
later call refuses for the same cause, without a read. -/
theorem readRequests_interrupted {step : ReadStep} {fault : Fault}
    (failing : step.fault? = some fault) (script : Script) (early later : List ReadStep) :
    let late := ofStream { script with reads := early ++ step :: later }
    let prompt := ofStream { script with reads := early ++ later }
    ((∀ calls, (readRequests calls late).1 = (readRequests calls prompt).1) ∨
        ∃ place, Reported fault place late prompt) ∧
      (∀ (script : Script) (calls : Nat),
        let done := readRequests calls (ofStream script)
        done.2.buffer ++ done.2.stream.ahead = remaining script.ahead done.1) ∧
      ∀ (connection : Connection Script) (cause : ReadError),
        connection.readRequest.value = .error (.badRequest cause) → ∀ calls,
          (readRequests calls connection.readRequest.state).2.readRequest =
            ⟨.error (.badRequest cause), connection.readRequest.state, []⟩ := by
  intro late prompt
  have delayed : Delayed step late prompt := .inserted script early later []
  refine ⟨?_, ?_, ?_⟩
  · by_cases somewhere : ∃ place, Reported fault place late prompt
    · exact .inr somewhere
    · left
      intro calls
      exact (delayed.readRequests failing calls).resolve_right somewhere
  · intro script calls
    exact readRequests_ahead calls (ofStream script)
  · intro connection cause refused calls
    rw [readRequests_of_refused refused calls]
    exact readRequest_of_refused refused

/-- Two requests, the second of which is malformed; the head of the first one is cut. -/
def cutReads : List ReadStep × List ReadStep :=
  ([.bytes (Utf8.encode "GET /a HTTP/1.1\r\nHo")],
    [.bytes (Utf8.encode "st: b\r\n\r\nGET\r\n\r\n")])

/-- A fault inside the head of a request is reported by the first call; the second one returns the
request, and the others refuse what follows it. -/
theorem readRequests_interrupted_inside :
    let fault := Fault.ofKind .timedOut
    let late : Connection Script :=
      ofStream ⟨cutReads.1 ++ .fault .timedOut :: cutReads.2, [], [], none⟩
    let prompt : Connection Script := ofStream ⟨cutReads.1 ++ cutReads.2, [], [], none⟩
    (ReadStep.fault .timedOut).fault? = some fault ∧
      (readRequests 3 prompt).1 = [.ok ⟨.get, "/a", none, "HTTP/1.1", .ofList [("Host", "b")], []⟩,
        .error (.badRequest .invalidRequest), .error (.badRequest .invalidRequest)] ∧
      (readRequests 4 late).1 = .error (.transport fault) :: (readRequests 3 prompt).1 := by
  intro fault late prompt
  have failing : (ReadStep.fault .timedOut).fault? = some fault := rfl
  have returned : (readRequests 3 prompt).1 =
      [.ok ⟨.get, "/a", none, "HTTP/1.1", .ofList [("Host", "b")], []⟩,
        .error (.badRequest .invalidRequest), .error (.badRequest .invalidRequest)] := by
    decide +kernel
  have different : (readRequests 1 late).1 ≠ (readRequests 1 prompt).1 := by decide +kernel
  refine ⟨failing, returned, ?_⟩
  obtain ⟨same | ⟨place, reported⟩, -, -⟩ :=
    readRequests_interrupted failing ⟨[], [], [], none⟩ cutReads.1 cutReads.2
  · exact absurd (same 1) different
  · have first : place = 0 := by
      refine Nat.eq_zero_of_not_pos fun later => ?_
      exact different (reported.before 1 later)
    subst first
    exact reported.after 3 (Nat.zero_le 3)

end Connection

end OriginServer

import OriginServer.Transport.Basic

/-!
# Scripted streams

A script says beforehand how a stream will behave: what its reads give, how much its writes
accept, and which operations fail. Past its end a script gives no bytes, accepts everything and
fails no flush.
-/
namespace OriginServer

/-- What a script provides for reading. -/
inductive ReadStep where
  /-- Bytes, given out over as many reads as they need; no bytes are one end of file. -/
  | bytes (content : Bytes)
  /-- One read that fails. -/
  | fault (kind : FaultKind)
  deriving DecidableEq, Repr

/-- How one write goes. -/
inductive WriteStep where
  /-- At most this many bytes are accepted. -/
  | accept (limit : Nat)
  /-- The write fails. -/
  | fault (kind : FaultKind)
  deriving DecidableEq, Repr

/-- The planned behaviour of a stream. -/
structure Script where
  /-- What reads give. -/
  reads : List ReadStep
  /-- How writes go. -/
  writes : List WriteStep
  /-- Which flushes fail. -/
  flushes : List (Option FaultKind)
  /-- How shutdowns fail, if they do. -/
  shutdown : Option FaultKind
  deriving DecidableEq, Repr

namespace Script

/-- The script of a peer that sends some bytes and accepts everything. -/
def ofBytes (bytes : Bytes) : Script := ⟨[.bytes bytes], [], [], none⟩

/-- One read: only the first step of the script serves it. -/
def read (room : Nat) (script : Script) : Except Fault Bytes × Script :=
  match script.reads with
  | [] => (.ok [], script)
  | .fault kind :: rest => (.error (.ofKind kind), { script with reads := rest })
  | .bytes content :: rest =>
    match content.drop room with
    | [] => (.ok (content.take room), { script with reads := rest })
    | remaining => (.ok (content.take room), { script with reads := .bytes remaining :: rest })

/-- One write: only the first step of the script serves it. -/
def write (bytes : Bytes) (script : Script) : Except Fault Nat × Script :=
  match script.writes with
  | [] => (.ok bytes.length, script)
  | .fault kind :: rest => (.error (.ofKind kind), { script with writes := rest })
  | .accept limit :: rest => (.ok (min limit bytes.length), { script with writes := rest })

/-- The outcome of an operation that fails in the given way, if in any. -/
def outcome : Option FaultKind → Except Fault Unit
  | none => .ok ()
  | some kind => .error (.ofKind kind)

/-- One flush: only the first step of the script serves it. -/
def flush (script : Script) : Except Fault Unit × Script :=
  match script.flushes with
  | [] => (.ok (), script)
  | step :: rest => (outcome step, { script with flushes := rest })

instance : Transport Script where
  read := read
  write := write
  flush := flush
  shutdown script := (outcome script.shutdown, script)

instance : Transport.Lawful Script where
  read_length_le {room script bytes} given := by
    simp only [Transport.read, read] at given
    split at given
    · simp_all
    · simp at given
    · split at given <;> simp at given <;> subst given <;> grind
  write_le_length {bytes script accepted} given := by
    simp only [Transport.write, write] at given
    split at given
    · simp_all
    · simp at given
    · simp at given
      omega

/-- The number of bytes that the script still has to give. -/
def unread (script : Script) : Nat :=
  script.reads.foldr (fun step count => match step with
    | .bytes content => content.length + count
    | .fault _ => count) 0

end Script

end OriginServer

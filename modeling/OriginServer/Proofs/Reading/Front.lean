import OriginServer.Message.RequestHead

/-!
# Requests at the front of growing bytes

Bytes arrive piece by piece, so a request is read from the front of bytes that grow. `splitHead`
finds the first empty line, and what it found stays when bytes are added (`splitHead_append`).
Therefore `Request.read` never takes back a request or a refusal (`Request.read_append_of_ok`,
`Request.read_append_of_error`), and a request that more bytes completed reaches into them
(`Request.read_of_append`).
-/
namespace OriginServer

/-- The bytes that end a head: the end of its last line and an empty line. -/
def headEnd : Bytes := [13, 10, 13, 10]

/-- The first empty line of some bytes, behind a reversed beginning. -/
theorem splitHeadFrom_eq_some_iff {passed bytes head rest : Bytes} :
    splitHeadFrom passed bytes = some (head, rest) ↔
      ∃ before, head = passed.reverse ++ before ∧ bytes = before ++ headEnd ++ rest ∧
        ∀ offset < before.length, ¬headEnd <+: bytes.drop offset := by
  -- One byte is passed in each step, so the induction follows the function.
  fun_induction splitHeadFrom passed bytes with
  | case1 passed tail =>
    constructor
    · intro found
      obtain ⟨rfl, rfl⟩ := Prod.mk.inj (Option.some.inj found)
      exact ⟨[], by simp, rfl, by simp⟩
    · rintro ⟨before, rfl, whole, first⟩
      cases before with
      | nil => simp_all [headEnd]
      | cons byte before =>
        have early := first 0 (by simp)
        exact absurd ⟨tail, rfl⟩ early
  | case2 passed byte tail notEnd ih =>
    rw [ih]
    have unmarked : ¬headEnd <+: byte :: tail := by
      rintro ⟨after, whole⟩
      simp only [headEnd, List.cons_append, List.nil_append, List.cons.injEq] at whole
      exact notEnd after whole.1.symm whole.2.symm
    constructor
    · rintro ⟨before, rfl, rfl, first⟩
      refine ⟨byte :: before, by simp, by simp, ?_⟩
      intro offset inside
      cases offset with
      | zero => exact unmarked
      | succ offset => exact first offset (by simpa using inside)
    · rintro ⟨before, rfl, whole, first⟩
      cases before with
      | nil => exact absurd ⟨rest, by simpa using whole.symm⟩ unmarked
      | cons other before =>
        obtain ⟨rfl, rfl⟩ := List.cons.inj whole
        refine ⟨before, by simp, rfl, ?_⟩
        intro offset inside
        exact first (offset + 1) (by simpa using inside)
  | case3 passed =>
    constructor
    · simp
    · rintro ⟨before, _, whole, _⟩
      simp [headEnd] at whole

/-- A head is what stands before the first place at which it could end. -/
theorem splitHead_eq_some_iff {bytes head rest : Bytes} :
    splitHead bytes = some (head, rest) ↔
      bytes = head ++ headEnd ++ rest ∧
        ∀ offset < head.length, ¬headEnd <+: bytes.drop offset := by
  simp [splitHead, splitHeadFrom_eq_some_iff]

/-- No head is found, behind a reversed beginning, where none ends. -/
theorem splitHeadFrom_eq_none_iff {passed bytes : Bytes} :
    splitHeadFrom passed bytes = none ↔ ¬headEnd <:+: bytes := by
  fun_induction splitHeadFrom passed bytes with
  | case1 passed rest =>
    have marked : headEnd <:+: headEnd ++ rest := (List.prefix_append headEnd rest).isInfix
    exact iff_of_false (by simp) (not_not_intro marked)
  | case2 passed byte rest notEnd ih =>
    have unmarked : ¬headEnd <+: byte :: rest := by
      rintro ⟨after, whole⟩
      simp only [headEnd, List.cons_append, List.nil_append, List.cons.injEq] at whole
      exact notEnd after whole.1.symm whole.2.symm
    rw [ih, List.infix_cons_iff, not_or, and_iff_right unmarked]
  | case3 passed => simp [headEnd]

/-- No head is found where none ends. -/
theorem splitHead_eq_none_iff {bytes : Bytes} : splitHead bytes = none ↔ ¬headEnd <:+: bytes :=
  splitHeadFrom_eq_none_iff

/-- A head that was found lies inside the bytes, with its end. -/
theorem length_of_splitHead {bytes head rest : Bytes}
    (found : splitHead bytes = some (head, rest)) :
    bytes.length = head.length + terminatorBytes + rest.length := by
  rw [(splitHead_eq_some_iff.mp found).1]
  simp only [headEnd, terminatorBytes, List.length_append, List.length_cons, List.length_nil]

/-- Bytes that are added do not move the end of a head. -/
theorem splitHead_append {bytes head rest : Bytes} (found : splitHead bytes = some (head, rest))
    (more : Bytes) : splitHead (bytes ++ more) = some (head, rest ++ more) := by
  have whole := length_of_splitHead found
  obtain ⟨parts, first⟩ := splitHead_eq_some_iff.mp found
  refine splitHead_eq_some_iff.mpr ⟨by rw [parts]; simp, ?_⟩
  intro offset inside early
  apply first offset inside
  -- An earlier end would lie among the old bytes, since the end that was found does.
  rw [List.drop_append_of_le_length (by omega)] at early
  refine List.prefix_of_prefix_length_le early (List.prefix_append _ more) ?_
  simp only [headEnd, List.length_cons, List.length_nil, List.length_drop]
  simp only [terminatorBytes] at whole
  omega

/-- The end of a head that lies among the first bytes is found in them alone. -/
theorem splitHead_of_append {bytes more head rest : Bytes}
    (found : splitHead (bytes ++ more) = some (head, rest))
    (inside : head.length + terminatorBytes ≤ bytes.length) :
    splitHead bytes = some (head, bytes.drop (head.length + terminatorBytes)) := by
  obtain ⟨parts, first⟩ := splitHead_eq_some_iff.mp found
  have front : bytes.take (head.length + terminatorBytes) = head ++ headEnd := by
    have := congrArg (List.take (head.length + terminatorBytes)) parts
    rw [List.take_append_of_le_length inside, List.take_append_of_le_length (by
      simp [headEnd, terminatorBytes])] at this
    rw [this, List.take_of_length_le (by simp [headEnd, terminatorBytes])]
  refine splitHead_eq_some_iff.mpr ⟨?_, ?_⟩
  · rw [← front, List.take_append_drop]
  · intro offset before early
    apply first offset before
    rw [List.drop_append_of_le_length (by omega)]
    exact early.trans (List.prefix_append _ _)

/-- Bytes without the end of a head are shorter than a head that more bytes complete. -/
theorem length_lt_of_splitHead_eq_none {bytes more head rest : Bytes}
    (unfound : splitHead bytes = none) (found : splitHead (bytes ++ more) = some (head, rest)) :
    bytes.length < head.length + terminatorBytes := by
  refine Nat.lt_of_not_le fun inside => ?_
  rw [splitHead_of_append found inside] at unfound
  contradiction

namespace RequestHead

/-- A request line is read or refused, whatever follows it. -/
theorem readRequestLine_ne_incomplete (line : List Char) :
    readRequestLine line ≠ .error .incomplete := by
  unfold readRequestLine
  split
  · split
    · split
      · simp
      · simp
    · simp
  · simp

/-- A header line is read or refused. -/
theorem readField_ne_incomplete (line : List Char) : readField line ≠ .error .incomplete := by
  unfold readField
  split
  · simp
  · split
    · simp
    · simp

/-- Header lines are read or refused. -/
theorem readFields_ne_incomplete (headers : Headers) (fieldLines : List (List Char)) :
    readFields headers fieldLines ≠ .error .incomplete := by
  fun_induction readFields headers fieldLines with
  | case1 => simp
  | case2 headers line rest blank ih => exact ih
  | case3 headers line rest blank cause refused =>
    intro same
    exact readField_ne_incomplete line (refused.trans (congrArg _ (Except.error.inj same)))
  | case4 headers line rest blank name value field ih => exact ih

/-- The text of a length is read or refused. -/
theorem readLength_ne_incomplete (value : String) : readLength value ≠ .error .incomplete := by
  have bounded : ∀ refused : Bool, ∀ length : Nat,
      (if refused then .error .invalidContentLength else .ok length : Except ReadError Nat) ≠
        .error .incomplete := by
    intro refused length
    cases refused with
    | true => simp
    | false => simp
  exact bounded _ _

/-- A declared length is read or refused. -/
theorem bodyLength_ne_incomplete (headers : Headers) : bodyLength headers ≠ .error .incomplete := by
  unfold bodyLength
  split
  · simp
  · exact readLength_ne_incomplete _

/-- A head is read or refused: it needs no more bytes. -/
theorem read_ne_incomplete (bytes : Bytes) : read bytes ≠ .error .incomplete := by
  unfold read
  cases Utf8.decode? bytes with
  | none => simp [throw, throwThe, MonadExceptOf.throw]
  | some text =>
    have lineRead := readRequestLine_ne_incomplete ((Text.lines text.toList).headD [])
    have fieldsRead := readFields_ne_incomplete .empty (Text.lines text.toList).tail
    simp only [bind, Except.bind, pure, Except.pure]
    grind [bodyLength_ne_incomplete]

end RequestHead

namespace Request

/-- A request is read when its head is complete and readable and its body has arrived. -/
theorem read_of_splitHead {bytes headBytes rest : Bytes} {head : RequestHead}
    (found : splitHead bytes = some (headBytes, rest))
    (readable : RequestHead.read headBytes = .ok head)
    (arrived : head.contentLength ≤ rest.length) :
    read bytes = .ok (head.request (rest.take head.contentLength),
      headBytes.length + terminatorBytes + head.contentLength) := by
  simp [read, found, readable, bind, Except.bind, pure, Except.pure, Nat.not_lt.mpr arrived]

/-- A request whose body has not arrived is incomplete. -/
theorem read_of_short_body {bytes headBytes rest : Bytes} {head : RequestHead}
    (found : splitHead bytes = some (headBytes, rest))
    (readable : RequestHead.read headBytes = .ok head)
    (short : rest.length < head.contentLength) : read bytes = .error .incomplete := by
  simp [read, found, readable, bind, Except.bind, short, throw, throwThe, MonadExceptOf.throw]

/-- An unreadable head is refused, whatever follows it. -/
theorem read_of_unreadable {bytes headBytes rest : Bytes} {cause : ReadError}
    (found : splitHead bytes = some (headBytes, rest))
    (unreadable : RequestHead.read headBytes = .error cause) : read bytes = .error cause := by
  simp [read, found, unreadable, bind, Except.bind]

/-- A request without the end of its head is incomplete. -/
theorem read_of_no_head {bytes : Bytes} (unfound : splitHead bytes = none) :
    read bytes = .error .incomplete := by
  simp [read, unfound, throw, throwThe, MonadExceptOf.throw]

/-- The ways in which a request is read from the front of some bytes. -/
inductive Front (bytes : Bytes) : Except ReadError (Request × Nat) → Prop where
  /-- The head does not end. -/
  | headless (unfound : splitHead bytes = none) : Front bytes (.error .incomplete)
  /-- The head is refused. -/
  | refused {headBytes rest : Bytes} {cause : ReadError}
      (found : splitHead bytes = some (headBytes, rest))
      (unreadable : RequestHead.read headBytes = .error cause) : Front bytes (.error cause)
  /-- Some of the body is missing. -/
  | short {headBytes rest : Bytes} {head : RequestHead}
      (found : splitHead bytes = some (headBytes, rest))
      (readable : RequestHead.read headBytes = .ok head)
      (missing : rest.length < head.contentLength) : Front bytes (.error .incomplete)
  /-- The request is there. -/
  | whole {headBytes rest : Bytes} {head : RequestHead}
      (found : splitHead bytes = some (headBytes, rest))
      (readable : RequestHead.read headBytes = .ok head)
      (arrived : head.contentLength ≤ rest.length) :
      Front bytes (.ok (head.request (rest.take head.contentLength),
        headBytes.length + terminatorBytes + head.contentLength))

/-- Reading ends in one of the four ways. -/
theorem front_read (bytes : Bytes) : Front bytes (read bytes) := by
  cases found : splitHead bytes with
  | none => exact read_of_no_head found ▸ .headless found
  | some parts =>
    obtain ⟨headBytes, rest⟩ := parts
    cases readable : RequestHead.read headBytes with
    | error cause => exact read_of_unreadable found readable ▸ .refused found readable
    | ok head =>
      by_cases arrived : head.contentLength ≤ rest.length
      · exact read_of_splitHead found readable arrived ▸ .whole found readable arrived
      · have missing := Nat.not_le.mp arrived
        exact read_of_short_body found readable missing ▸ .short found readable missing

/-- A request takes bytes that are there. -/
theorem taken_le_length {bytes : Bytes} {request : Request} {taken : Nat}
    (done : read bytes = .ok (request, taken)) : taken ≤ bytes.length := by
  have front := front_read bytes
  rw [done] at front
  cases front with
  | whole found readable arrived =>
    have whole := length_of_splitHead found
    omega

/-- A request that was read stays when bytes are added. -/
theorem read_append_of_ok {bytes : Bytes} {request : Request} {taken : Nat}
    (done : read bytes = .ok (request, taken)) (more : Bytes) :
    read (bytes ++ more) = .ok (request, taken) := by
  have front := front_read bytes
  rw [done] at front
  cases front with
  | whole found readable arrived =>
    rw [read_of_splitHead (splitHead_append found more) readable (by simp; omega),
      List.take_append_of_le_length arrived]

/-- A refusal stays when bytes are added. -/
theorem read_append_of_error {bytes : Bytes} {cause : ReadError}
    (refused : read bytes = .error cause) (complete : cause ≠ .incomplete) (more : Bytes) :
    read (bytes ++ more) = .error cause := by
  have front := front_read bytes
  rw [refused] at front
  cases front with
  | headless => contradiction
  | refused found unreadable => exact read_of_unreadable (splitHead_append found more) unreadable
  | short => contradiction

/-- A request that lies among the first bytes is read from them alone. -/
theorem read_of_append {bytes more : Bytes} {request : Request} {taken : Nat}
    (done : read (bytes ++ more) = .ok (request, taken)) (inside : taken ≤ bytes.length) :
    read bytes = .ok (request, taken) := by
  have front := front_read (bytes ++ more)
  rw [done] at front
  cases front with
  | @whole headBytes rest head found readable arrived =>
    have early := splitHead_of_append found (by omega)
    have same := splitHead_append early more
    rw [found] at same
    obtain ⟨_, rfl⟩ := Prod.mk.inj (Option.some.inj same)
    have enough : head.contentLength ≤
        (bytes.drop (headBytes.length + terminatorBytes)).length := by
      rw [List.length_drop]
      omega
    rw [read_of_splitHead early readable enough, List.take_append_of_le_length enough]

end Request

end OriginServer

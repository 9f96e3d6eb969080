import Mathlib.Data.List.Basic

/-!
# Framing of the inbound byte stream

`EsmeTransceiver.dataReceived` appends each chunk the transport delivers to `datastream` and
calls `pop_data` until it returns `None`, putting every frame it returns on `_pdu_queue`.
`pop_data` cuts a frame by the big-endian `command_length` in the first four bytes, once the
buffer holds the sixteen header bytes and `command_length` bytes in all. The source loop has
no bound of its own, so it is modelled with fuel: `none` is a loop still running when the
fuel is spent. The queue is a parameter, so that the session model can put frames on its
`DeferredQueue` through the same loop; `enqueue` is the plain list of frames put.
-/

namespace VumiSmpp

/-- A Python 2 byte string, as the transport delivers it. -/
abbrev Bytes := List UInt8

namespace Framing

/-- `int(binascii.b2a_hex(s), 16)`: the bytes read as one big-endian unsigned number. -/
def bigEndian (bytes : Bytes) : Nat :=
  bytes.foldl (fun value byte => value * 256 + byte.toNat) 0

/-- `command_length` as `pop_data` reads it, from the first four bytes of the buffer. -/
def commandLength (datastream : Bytes) : Nat :=
  bigEndian (datastream.take 4)

/-- `EsmeTransceiver.pop_data`: the frame at the head of `datastream` and the bytes left after
it, or `none` for the source's `None`, which leaves `datastream` as it was. -/
def popData (datastream : Bytes) : Option (Bytes × Bytes) :=
  if 16 ≤ datastream.length then
    if commandLength datastream ≤ datastream.length then
      some (datastream.take (commandLength datastream),
        datastream.drop (commandLength datastream))
    else none
  else none

/-- A PDU as SMPP frames it: at least the sixteen header bytes, with its own length in the
first four. -/
def WellFormed (pdu : Bytes) : Prop :=
  16 ≤ pdu.length ∧ commandLength pdu = pdu.length

/-- Well-formedness is decided from the bytes. -/
instance (pdu : Bytes) : Decidable (WellFormed pdu) :=
  inferInstanceAs (Decidable (_ ∧ _))

section Loop

variable {Queue : Type} (put : Bytes → Queue → Queue)

/-- The `while data is not None` loop of `EsmeTransceiver.dataReceived`: pop a frame and put
it on the queue until `pop_data` returns `None`, in at most `fuel` iterations. -/
def drain : Nat → Bytes → Queue → Option (Bytes × Queue)
  | 0, _, _ => none
  | fuel + 1, datastream, queue =>
    match popData datastream with
    | none => some (datastream, queue)
    | some (frame, rest) => drain fuel rest (put frame queue)

/-- `EsmeTransceiver.dataReceived`: append the chunk to `datastream`, then drain it. -/
def dataReceived (fuel : Nat) (datastream : Bytes) (queue : Queue) (data : Bytes) :
    Option (Bytes × Queue) :=
  drain put fuel (datastream ++ data) queue

/-- Successive `dataReceived` calls, one for each chunk, each with `fuel` iterations. -/
def feed (fuel : Nat) : List Bytes → Bytes × Queue → Option (Bytes × Queue)
  | [], session => some session
  | chunk :: chunks, (datastream, queue) =>
    (dataReceived put fuel datastream queue chunk).bind (feed fuel chunks)

end Loop

/-- `_pdu_queue.put` with no consumer waiting: the frames put, in order. -/
def enqueue (frame : Bytes) (queue : List Bytes) : List Bytes :=
  queue ++ [frame]

/-! ## What one `pop_data` does -/

/-- `pop_data` returns `None` exactly when the buffer lacks the header or the whole frame. -/
theorem popData_eq_none_iff (datastream : Bytes) :
    popData datastream = none ↔
      datastream.length < 16 ∨ datastream.length < commandLength datastream := by
  unfold popData
  split_ifs <;> simp <;> omega

/-- A returned frame is the first `command_length` bytes, and the rest is what follows it. -/
theorem popData_eq_some {datastream frame rest : Bytes}
    (popped : popData datastream = some (frame, rest)) :
    16 ≤ datastream.length ∧ commandLength datastream ≤ datastream.length ∧
      frame = datastream.take (commandLength datastream) ∧
      rest = datastream.drop (commandLength datastream) := by
  unfold popData at popped
  split_ifs at popped with header whole
  simp only [Option.some.injEq, Prod.mk.injEq] at popped
  exact ⟨header, whole, popped.1.symm, popped.2.symm⟩

/-- Bytes after the length field do not change `command_length`. -/
theorem commandLength_append {datastream : Bytes} (more : Bytes)
    (field : 4 ≤ datastream.length) :
    commandLength (datastream ++ more) = commandLength datastream := by
  simp only [commandLength, List.take_append_of_le_length field]

/-- A frame cut from a buffer is cut the same from any longer buffer. -/
theorem popData_append {datastream frame rest : Bytes} (more : Bytes)
    (popped : popData datastream = some (frame, rest)) :
    popData (datastream ++ more) = some (frame, rest ++ more) := by
  obtain ⟨header, whole, rfl, rfl⟩ := popData_eq_some popped
  have same := commandLength_append more (show 4 ≤ datastream.length by omega)
  have longer : datastream.length ≤ (datastream ++ more).length := by simp
  simp only [popData, same, if_pos (Nat.le_trans header longer),
    if_pos (Nat.le_trans whole longer), List.take_append_of_le_length whole,
    List.drop_append_of_le_length whole]

/-- A well-formed PDU at the head of the buffer is popped whole, whatever follows it. -/
theorem popData_wellFormed {pdu : Bytes} (more : Bytes) (wellFormed : WellFormed pdu) :
    popData (pdu ++ more) = some (pdu, more) := by
  obtain ⟨header, length⟩ := wellFormed
  have same := commandLength_append more (show 4 ≤ pdu.length by omega)
  have longer : pdu.length ≤ (pdu ++ more).length := by simp
  simp only [popData, same, length, if_pos (Nat.le_trans header longer), if_pos longer,
    List.take_left', List.drop_left']

/-! ## The loop -/

section Loop

variable {Queue : Type} {put : Bytes → Queue → Queue}

/-- More fuel changes nothing once the loop has ended. -/
theorem drain_succ {fuel : Nat} {datastream : Bytes} {queue : Queue} {result : Bytes × Queue}
    (ran : drain put fuel datastream queue = some result) :
    drain put (fuel + 1) datastream queue = some result := by
  induction fuel generalizing datastream queue with
  | zero => simp [drain] at ran
  | succ fuel ih =>
    cases popped : popData datastream with
    | none => simpa [drain, popped] using ran
    | some cut => simpa [drain, popped] using ih (by simpa [drain, popped] using ran)

/-- Any fuel above what the loop needed gives the same result. -/
theorem drain_le {fuel more : Nat} {datastream : Bytes} {queue : Queue}
    {result : Bytes × Queue} (ran : drain put fuel datastream queue = some result)
    (bigger : fuel ≤ more) : drain put more datastream queue = some result := by
  induction bigger with
  | refl => exact ran
  | step _ ih => exact drain_succ ih

/-- The loop ends on a buffer from which `pop_data` returns `None`. -/
theorem drain_rest {fuel : Nat} {datastream rest : Bytes} {queue after : Queue}
    (ran : drain put fuel datastream queue = some (rest, after)) : popData rest = none := by
  induction fuel generalizing datastream queue with
  | zero => simp [drain] at ran
  | succ fuel ih =>
    cases popped : popData datastream with
    | none =>
      simp only [drain, popped, Option.some.injEq, Prod.mk.injEq] at ran
      exact ran.1 ▸ popped
    | some cut => exact ih (by simpa [drain, popped] using ran)

/-- What every `put` keeps, the loop keeps. -/
theorem drain_preserves {keeps : Queue → Prop} (preserved : ∀ frame queue, keeps queue →
    keeps (put frame queue)) {fuel : Nat} {datastream rest : Bytes} {queue after : Queue}
    (ran : drain put fuel datastream queue = some (rest, after)) (start : keeps queue) :
    keeps after := by
  induction fuel generalizing datastream queue with
  | zero => simp [drain] at ran
  | succ fuel ih =>
    cases popped : popData datastream with
    | none =>
      simp only [drain, popped, Option.some.injEq, Prod.mk.injEq] at ran
      exact ran.2 ▸ start
    | some cut =>
      exact ih (by simpa [drain, popped] using ran) (preserved _ _ start)

/-- Draining a buffer followed by more bytes drains the buffer first, then what is left of it
followed by the more bytes, within the same fuel. -/
theorem drain_append {fuel : Nat} {datastream more : Bytes} {queue : Queue}
    {result : Bytes × Queue} (ran : drain put fuel (datastream ++ more) queue = some result) :
    ∃ middle, drain put fuel datastream queue = some middle ∧
      drain put fuel (middle.1 ++ more) middle.2 = some result := by
  induction fuel generalizing datastream queue with
  | zero => simp [drain] at ran
  | succ fuel ih =>
    cases popped : popData datastream with
    | none => exact ⟨(datastream, queue), by simp [drain, popped], ran⟩
    | some cut =>
      have longer := popData_append more popped
      simp only [drain, longer] at ran
      obtain ⟨middle, first, second⟩ := ih ran
      exact ⟨middle, by simpa [drain, popped] using first, drain_succ second⟩

/-- A view of the queue under which each put is another put turns the loop into the other
loop. -/
theorem drain_map {Queue' : Type} {put' : Bytes → Queue' → Queue'} (view : Queue → Queue')
    (commutes : ∀ frame queue, view (put frame queue) = put' frame (view queue))
    (fuel : Nat) (datastream : Bytes) (queue : Queue) :
    (drain put fuel datastream queue).map (Prod.map id view) =
      drain put' fuel datastream (view queue) := by
  induction fuel generalizing datastream queue with
  | zero => rfl
  | succ fuel ih =>
    cases popped : popData datastream with
    | none => simp [drain, popped]
    | some cut =>
      obtain ⟨frame, rest⟩ := cut
      simp only [drain, popped, ih, commutes]

/-- Feeding the chunks one `dataReceived` call at a time gives what one call on their
concatenation gives: the frames do not depend on how the stream was cut. -/
theorem feed_of_drain (fuel : Nat) (chunks : List Bytes) {datastream : Bytes} {queue : Queue}
    {result : Bytes × Queue} (between : popData datastream = none)
    (ran : drain put fuel (datastream ++ chunks.flatten) queue = some result) :
    feed put fuel chunks (datastream, queue) = some result := by
  induction chunks generalizing datastream queue with
  | nil =>
    cases fuel with
    | zero => simp [drain] at ran
    | succ fuel => simpa [feed, drain, between] using ran
  | cons chunk chunks ih =>
    rw [List.flatten_cons, ← List.append_assoc] at ran
    obtain ⟨middle, first, second⟩ := drain_append ran
    simp only [feed, dataReceived, first, Option.some_bind]
    exact ih (drain_rest first) second

end Loop

/-- The loop only adds frames after those already put. -/
theorem drain_enqueue_extends {fuel : Nat} {datastream rest : Bytes} {queue after : List Bytes}
    (ran : drain enqueue fuel datastream queue = some (rest, after)) :
    ∃ frames, after = queue ++ frames := by
  have extended : queue <+: after :=
    drain_preserves (fun _ _ extended => extended.trans (List.prefix_append _ _)) ran
      (List.prefix_refl queue)
  obtain ⟨frames, rfl⟩ := extended
  exact ⟨frames, rfl⟩

/-- A loop that ends having put only nonempty frames ends within one iteration more than there
are bytes. -/
theorem drain_enqueue_fuel {fuel : Nat} {datastream rest : Bytes} {queue frames : List Bytes}
    (ran : drain enqueue fuel datastream queue = some (rest, queue ++ frames))
    (nonempty : ∀ frame ∈ frames, frame ≠ []) :
    drain enqueue (datastream.length + 1) datastream queue = some (rest, queue ++ frames) := by
  induction fuel generalizing datastream queue frames with
  | zero => simp [drain] at ran
  | succ fuel ih =>
    cases popped : popData datastream with
    | none => simpa [drain, popped] using ran
    | some cut =>
      obtain ⟨frame, tail⟩ := cut
      simp only [drain, popped] at ran
      obtain ⟨more, extended⟩ := drain_enqueue_extends ran
      obtain rfl : frames = frame :: more := by simpa [enqueue] using extended
      rw [show queue ++ frame :: more = enqueue frame queue ++ more by simp [enqueue]] at ran ⊢
      have shorter : tail.length + 1 ≤ datastream.length := by
        obtain ⟨-, whole, rfl, rfl⟩ := popData_eq_some popped
        have := nonempty _ (List.mem_cons_self _ _)
        simp only [ne_eq, List.take_eq_nil_iff, not_or] at this
        simp only [List.length_drop]
        omega
      simp only [drain, popped]
      exact drain_le (ih ran fun frame mem => nonempty frame (List.mem_cons_of_mem _ mem)) shorter

/-- Fed chunks, the loop only adds frames after those already put. -/
theorem feed_enqueue_extends {fuel : Nat} :
    ∀ {chunks : List Bytes} {datastream rest : Bytes} {queue after : List Bytes},
      feed enqueue fuel chunks (datastream, queue) = some (rest, after) →
        ∃ frames, after = queue ++ frames
  | [], _, _, queue, _, fed => ⟨[], by simp [feed] at fed; simp [fed.2]⟩
  | chunk :: chunks, datastream, rest, queue, after, fed => by
    obtain ⟨⟨middle, between⟩, first, rest⟩ := Option.bind_eq_some.1 fed
    obtain ⟨frames, rfl⟩ := drain_enqueue_extends first
    obtain ⟨more, rfl⟩ := feed_enqueue_extends rest
    exact ⟨frames ++ more, List.append_assoc _ _ _⟩

/-- No byte is lost or duplicated: the frames put and the buffer left hold the bytes of the
frames already queued and of the buffer drained, in order. -/
theorem drain_conserves {fuel : Nat} {datastream rest : Bytes} {queue after : List Bytes}
    (ran : drain enqueue fuel datastream queue = some (rest, after)) :
    after.flatten ++ rest = queue.flatten ++ datastream := by
  induction fuel generalizing datastream queue with
  | zero => simp [drain] at ran
  | succ fuel ih =>
    cases popped : popData datastream with
    | none =>
      simp only [drain, popped, Option.some.injEq, Prod.mk.injEq] at ran
      rw [ran.1, ran.2]
    | some cut =>
      obtain ⟨frame, tail⟩ := cut
      obtain ⟨-, -, rfl, rfl⟩ := popData_eq_some popped
      rw [ih (by simpa [drain, popped] using ran)]
      simp [enqueue]

/-- A frame and two bytes of the next: the frame is put and the two bytes are left. -/
theorem drain_conserves_frame_and_tail :
    drain enqueue 2 [0, 0, 0, 16, 0, 0, 0, 21, 0, 0, 0, 0, 0, 0, 0, 1, 0, 0] [] =
        some ([0, 0], [[0, 0, 0, 16, 0, 0, 0, 21, 0, 0, 0, 0, 0, 0, 0, 1]]) ∧
      [[0, 0, 0, 16, 0, 0, 0, 21, 0, 0, 0, 0, 0, 0, 0, 1]].flatten ++ [0, 0] =
        ([] : List Bytes).flatten ++ [0, 0, 0, 16, 0, 0, 0, 21, 0, 0, 0, 0, 0, 0, 0, 1, 0, 0] :=
  ⟨by decide, @drain_conserves 2 _ _ _ _ (by decide)⟩

/-- A buffer of well-formed PDUs followed by an incomplete tail is drained into exactly those
PDUs, in order, leaving the tail, given one iteration more than there are bytes. -/
theorem drain_wellFormed (pdus : List Bytes) {tail : Bytes} {queue : List Bytes}
    (wellFormed : ∀ pdu ∈ pdus, WellFormed pdu) (incomplete : popData tail = none)
    {fuel : Nat} (enough : (pdus.flatten ++ tail).length < fuel) :
    drain enqueue fuel (pdus.flatten ++ tail) queue = some (tail, queue ++ pdus) := by
  induction pdus generalizing queue fuel with
  | nil =>
    obtain ⟨fuel, rfl⟩ : ∃ spare, fuel = spare + 1 := ⟨fuel - 1, by simp at enough; omega⟩
    simp [drain, incomplete]
  | cons pdu pdus ih =>
    have header := (wellFormed pdu (List.mem_cons_self _ _)).1
    obtain ⟨fuel, rfl⟩ : ∃ spare, fuel = spare + 1 := ⟨fuel - 1, by simp at enough; omega⟩
    rw [List.flatten_cons, List.append_assoc]
    simp only [drain, popData_wellFormed _ (wellFormed pdu (List.mem_cons_self _ _))]
    rw [ih (fun p mem => wellFormed p (List.mem_cons_of_mem _ mem))
      (by simp at enough ⊢; omega)]
    simp [enqueue]

/-- Any cutting into chunks of well-formed PDUs followed by a tail that holds no complete
frame, fed one `dataReceived` call a chunk to an empty buffer, puts exactly those PDUs on the
queue, each once and in order, and leaves the tail in `datastream`. -/
theorem dataReceived_chunks_wellFormed (pdus : List Bytes) (tail : Bytes)
    (chunks : List Bytes) (wellFormed : ∀ pdu ∈ pdus, WellFormed pdu)
    (incomplete : tail.length < 16 ∨ tail.length < commandLength tail)
    (cut : chunks.flatten = pdus.flatten ++ tail) (fuel : Nat)
    (enough : (pdus.flatten ++ tail).length < fuel) :
    feed enqueue fuel chunks ([], []) = some (tail, pdus) := by
  apply feed_of_drain fuel chunks (by simp [popData])
  rw [List.nil_append, cut]
  simpa using drain_wellFormed pdus wellFormed ((popData_eq_none_iff tail).2 incomplete) enough

/-- Two `enquire_link` PDUs and three bytes of a third, cut inside the first length field and
inside the second header. -/
theorem dataReceived_chunks_two_enquireLinks :
    (∀ pdu ∈ [[0, 0, 0, 16, 0, 0, 0, 21, 0, 0, 0, 0, 0, 0, 0, 1],
        [0, 0, 0, 16, 0, 0, 0, 21, 0, 0, 0, 0, 0, 0, 0, 2]], WellFormed pdu) ∧
      ([0, 0, 16] : Bytes).length < 16 ∧
      feed enqueue 40 [[0, 0], [0, 16, 0, 0, 0, 21, 0, 0, 0, 0, 0, 0, 0, 1, 0, 0, 0, 16, 0],
        [0, 0, 21, 0, 0, 0, 0, 0, 0, 0, 2, 0, 0, 16]] ([], []) =
        some ([0, 0, 16], [[0, 0, 0, 16, 0, 0, 0, 21, 0, 0, 0, 0, 0, 0, 0, 1],
          [0, 0, 0, 16, 0, 0, 0, 21, 0, 0, 0, 0, 0, 0, 0, 2]]) :=
  ⟨by decide, by decide, dataReceived_chunks_wellFormed _ _ _ (by decide) (.inl (by decide))
    (by decide) 40 (by decide)⟩

section Loop

variable {Queue : Type} {put : Bytes → Queue → Queue}

/-- A header whose `command_length` is zero is popped as an empty frame that leaves the buffer
as it was, so no fuel is enough for the loop. -/
theorem drain_zero_commandLength {datastream : Bytes} (header : 16 ≤ datastream.length)
    (zero : commandLength datastream = 0) (fuel : Nat) (queue : Queue) :
    drain put fuel datastream queue = none := by
  have popped : popData datastream = some ([], datastream) := by
    simp [popData, header, zero]
  induction fuel generalizing queue with
  | zero => rfl
  | succ fuel ih => simp only [drain, popped, ih]

end Loop

/-- Sixteen zero bytes, a header whose `command_length` is zero: `pop_data` returns the empty
frame `''`, which is not `None`, without shortening `datastream`, and `dataReceived` never
returns. -/
theorem dataReceived_zero_header_loops (fuel : Nat) :
    popData (List.replicate 16 0) = some ([], List.replicate 16 0) ∧
      dataReceived enqueue fuel [] [] (List.replicate 16 0) = none :=
  ⟨by decide, drain_zero_commandLength (by decide) (by decide) fuel []⟩

end Framing

end VumiSmpp

import VumiSmpp.Session.Reactor
import VumiSmpp.Session.Codec

/-!
# Ordered dispatch of the PDU queue

`_process_pdu_queue` is the only consumer of `_pdu_queue`. In every reachable session the
frames handed to `handle_data`, followed by the frames still pending, are exactly the frames
put on the queue, in order; a consumer waiting on `get()` has none pending. So frames are
handled in the order they arrive, none twice, and a frame stays pending only while a handler
runs or after the consumer has ended. It ends at the first exception out of `handle_data`
(a frame `unpack_pdu` cannot read, a failing store call or callback), and from then on no
frame is handled again, whatever the run does. Every `submit_sm_resp` handed to
`handle_data`, and nothing else, issues one `LPOP unacked`.
-/

namespace VumiSmpp.Client

/-- The queue, its consumer, and the frames put on it and handled. -/
def Session.queue (session : Session) : List Bytes × List Bytes × List Bytes × Consumer :=
  (session.handled, session.enqueued, session.pduQueue, session.consumer)

/-! ## What the handlers and the other events leave -/

section Frame

variable (session : Session)

/-- A bind response handler leaves the queue. -/
@[simp] theorem handleBindResp_queue (bound : SmppState) (pdu : Pdu) :
    (handleBindResp bound pdu session).1.queue = session.queue := by
  rcases handleBindResp_eq bound pdu session with same | ⟨_, _, _, _, started, -⟩
  · rw [same]
  · rw [started]
    rfl

/-- A handler leaves the queue. -/
@[simp] theorem Handler.run_queue (handler : Handler) (pdu : Pdu) :
    (handler.run pdu session).1.queue = session.queue := by
  cases handler <;> simp only [Handler.run, handleBindTransceiverResp, handleBindTransmitterResp,
    handleBindReceiverResp, handleBindResp_queue]
  all_goals first
    | rfl
    | (unfold handleDeliverSm; split_ifs <;> rfl)
    | (unfold handleEnquireLink; split_ifs <;> rfl)

end Frame

/-- What an event outside the consumer does to the consumer's records: it leaves the queue and
the frames handled, issues no `LPOP`, and writes only the class's bind PDU, `enquire_link` and
`query_sm`. -/
structure Aside (session after : Session) : Prop where
  /-- The queue and the frames put and handled stay. -/
  queue : after.queue = session.queue
  /-- No `LPOP` is issued. -/
  lpops : after.lpops = session.lpops
  /-- PDUs are written only after those already written, and each is a bind, an
  `enquire_link` or a `query_sm`. -/
  written : ∃ more, after.written = session.written ++ more ∧ ∀ pdu ∈ more,
    pdu.commandId = session.role.bindPdu ∨ pdu.commandId = .enquire_link ∨
      pdu.commandId = .query_sm

/-- An event outside the consumer hands no frame to `handle_data`. -/
theorem Aside.handled {session after : Session} (aside : Aside session after) :
    after.handled = session.handled :=
  congrArg Prod.fst aside.queue

/-- What one event does for the consumer: nothing, as an event outside it; a `dataReceived`
that puts frames; or the resumed handler's result, settled by the consumer. -/
theorem step_aside {env : Collaborators} {session after : Session} {event : Event}
    (stepped : step env session event = some after) :
    Aside session after ∨ (∃ data, dataReceived env data session = some after) ∨
      (∃ handlerStep outcome, session.consumer = .handling handlerStep ∧
        after = settle env session (resumeHandler env handlerStep outcome)) := by
  have unchanged : ∀ {next : Session}, next.queue = session.queue →
      next.lpops = session.lpops → next.written = session.written → Aside session next :=
    fun queue lpops written => ⟨queue, lpops, [], by rw [written, List.append_nil],
      fun _ none => absurd none (List.not_mem_nil _)⟩
  rcases step_eq_some stepped with ⟨-, -, rfl⟩ | ⟨-, -, rfl⟩ | ⟨data, -, -, received⟩ |
    ⟨index, outcome, task, -, -, rfl⟩ | ⟨handlerStep, outcome, -, handling, rfl⟩ |
    ⟨-, fired⟩ | ⟨loop, -, -, rfl⟩ | ⟨-, rfl⟩
  · exact .inl (unchanged rfl rfl rfl)
  · obtain ⟨_, _, _, lost, -⟩ := connectionLost_eq session
    exact .inl (lost ▸ unchanged rfl rfl rfl)
  · exact .inr (.inl ⟨data, received⟩)
  · left
    cases task <;> cases outcome
    case connectionMade.ok | enquireLink.ok | querySm.ok => exact ⟨rfl, rfl, [_], rfl, by simp⟩
    all_goals exact unchanged rfl rfl rfl
  · exact .inr (.inr ⟨handlerStep, outcome, handling, rfl⟩)
  · unfold bindTimeout at fired
    split at fired <;> cases fired
    unfold loseUnboundConnection
    exact .inl (by split <;> exact unchanged rfl rfl rfl)
  · obtain ⟨_, _, ticked⟩ := enquireLink_eq loop session
    exact .inl (ticked ▸ unchanged rfl rfl rfl)
  · unfold querySm
    exact .inl (by split <;> exact unchanged rfl rfl rfl)

/-- A run of several event lists is their concatenation. -/
theorem run_append (env : Collaborators) (session : Session) (first second : List Event) :
    run env session (first ++ second) = (run env session first).bind (run env · second) := by
  induction first generalizing session with
  | nil => rfl
  | cons event events ih =>
    simp only [List.cons_append, run]
    cases step env session event <;> simp [ih]

/-- A property every step keeps holds after every run. -/
theorem run_keeps {env : Collaborators} {keeps : Session → Prop}
    (kept : ∀ {session after : Session} {event : Event},
      keeps session → step env session event = some after → keeps after)
    {session after : Session} {events : List Event} (start : keeps session)
    (ran : run env session events = some after) : keeps after := by
  induction events generalizing session with
  | nil => exact Option.some.inj ran ▸ start
  | cons event events ih =>
    obtain ⟨next, stepped, rest⟩ := Option.bind_eq_some.1 ran
    exact ih (kept start stepped) rest

/-! ## The consumer -/

section Consumer

variable (env : Collaborators)

/-- `handle_data` records the frame and leaves the queue to the consumer. -/
theorem handleData_queue (data : Bytes) (session : Session) :
    (handleData env data session).1.queue =
      (session.handled ++ [data], session.enqueued, session.pduQueue, session.consumer) := by
  unfold handleData
  dsimp only
  split
  · rfl
  · exact Handler.run_queue _ _ _

/-- Taking frames moves them from the front of the pending ones to the handled ones. -/
theorem consume_queue : ∀ (session : Session) (frames : List Bytes),
    (consume env session frames).handled ++ (consume env session frames).pduQueue =
        session.handled ++ frames ∧
      (consume env session frames).enqueued = session.enqueued ∧
      ((consume env session frames).consumer = .waiting →
        (consume env session frames).pduQueue = [])
  | session, [] => by simp [consume]
  | session, frame :: rest => by
    have handled := handleData_queue env frame session
    rcases found : handleData env frame session with ⟨after, _ | _ | step⟩ <;>
      simp only [found, Session.queue, Prod.mk.injEq] at handled <;>
      obtain ⟨first, same, -, -⟩ := handled
    · obtain ⟨order, kept, waiting⟩ := consume_queue after rest
      simp only [consume, found]
      exact ⟨by rw [order, first, List.append_assoc]; rfl, kept.trans same, waiting⟩
    · simp [consume, found, first, same]
    · simp [consume, found, first, same]

end Consumer

/-- A property of the session that the queue's bookkeeping and `handle_data` keep; then
`dataReceived` and the consumer's resumption keep it too. -/
structure Handled (env : Collaborators) (keeps : Session → Prop) : Prop where
  /-- Moving frames through the buffer and the queue keeps it. -/
  bookkeeping : ∀ (session : Session) enqueued pending consumer datastream,
    keeps session → keeps { session with
      enqueued := enqueued, pduQueue := pending, consumer := consumer, datastream := datastream }
  /-- `handle_data`, up to the handler's first suspension, keeps it. -/
  handleData : ∀ data session, keeps session → keeps (handleData env data session).1

namespace Handled

variable {env : Collaborators} {keeps : Session → Prop} {session : Session}

/-- Taking frames off the queue keeps the property. -/
theorem consume (handled : Handled env keeps) (frames : List Bytes) (kept : keeps session) :
    keeps (consume env session frames) := by
  induction frames generalizing session with
  | nil => exact handled.bookkeeping _ _ _ _ _ kept
  | cons frame rest ih =>
    have next := handled.handleData frame session kept
    unfold Client.consume
    split <;> rename_i result <;> rw [result] at next
    · exact ih next
    · exact handled.bookkeeping _ _ _ _ _ next
    · exact handled.bookkeeping _ _ _ _ _ next

/-- A put keeps the property. -/
theorem put (handled : Handled env keeps) (frame : Bytes) (kept : keeps session) :
    keeps (put env frame session) := by
  unfold Client.put
  dsimp only
  split
  · exact handled.consume _ <| handled.bookkeeping session (session.enqueued ++ [frame])
      session.pduQueue session.consumer session.datastream kept
  · exact handled.bookkeeping session _ _ _ _ kept

/-- The consumer going on after a handler keeps the property. -/
theorem settle (handled : Handled env keeps) (result : HandlerResult) (kept : keeps session) :
    keeps (settle env session result) := by
  cases result with
  | finished => exact handled.consume _ kept
  | raised => exact handled.bookkeeping _ _ _ _ _ kept
  | awaiting => exact handled.bookkeeping _ _ _ _ _ kept

/-- `dataReceived` keeps the property. -/
theorem dataReceived (handled : Handled env keeps) {data : Bytes} {after : Session}
    (received : Client.dataReceived env data session = some after) (kept : keeps session) :
    keeps after := by
  unfold Client.dataReceived Framing.dataReceived at received
  obtain ⟨⟨rest, drained⟩, ran, rfl⟩ := Option.map_eq_some'.1 received
  exact handled.bookkeeping _ _ _ _ _ <|
    @Framing.drain_preserves _ (Client.put env) keeps (fun frame _ kept => handled.put frame kept)
      _ _ _ _ _ ran kept

end Handled

/-! ## Framing in the session -/

/-- `_pdu_queue.put` records the frame after those put before. -/
theorem put_enqueued (env : Collaborators) (frame : Bytes) (session : Session) :
    (put env frame session).enqueued = session.enqueued ++ [frame] := by
  unfold put
  dsimp only
  split
  · exact (consume_queue env _ [frame]).2.1
  · rfl

/-- The buffer `dataReceived` leaves and the frames it puts are those of the framing loop of
`VumiSmpp.Framing`, run with the same fuel. -/
theorem dataReceived_frames (env : Collaborators) (data : Bytes) (session : Session) :
    (dataReceived env data session).map (fun after => (after.datastream, after.enqueued)) =
      Framing.dataReceived Framing.enqueue (session.datastream ++ data).length.succ
        session.datastream session.enqueued data := by
  unfold dataReceived Framing.dataReceived
  rw [Option.map_map]
  exact Framing.drain_map Session.enqueued (put_enqueued env) _ _ _

/-- `dataReceived` keeps the connection. -/
theorem dataReceived_connection {env : Collaborators} {data : Bytes} {session after : Session}
    (received : dataReceived env data session = some after) :
    after.connection = session.connection :=
  @Handled.dataReceived env (fun next => next.connection = session.connection) session
    ⟨fun _ _ _ _ _ same => same,
      fun data _ same => (handleData_connection env data _).trans same⟩
    data after received rfl

/-- `dataReceived` calls on an open session, one a chunk, leave the buffer and put the frames
that the framing loop fed the same chunks does, with whatever fuel, when those frames are
nonempty. -/
theorem run_dataReceived_feed (env : Collaborators) (fuel : Nat) :
    ∀ (chunks : List Bytes) (session : Session) {rest : Bytes} {frames : List Bytes},
      session.connection = .made →
      Framing.feed Framing.enqueue fuel chunks (session.datastream, session.enqueued) =
        some (rest, session.enqueued ++ frames) →
      (∀ frame ∈ frames, frame ≠ []) →
      (run env session (chunks.map .dataReceived)).map
        (fun after => (after.datastream, after.enqueued)) = some (rest, session.enqueued ++ frames)
  | [], session, rest, frames, _, fed, _ => by
    simp only [Framing.feed, Option.some.injEq, Prod.mk.injEq, List.self_eq_append_right] at fed
    simp [run, fed.1, fed.2]
  | chunk :: chunks, session, rest, frames, made, fed, nonempty => by
    obtain ⟨⟨middle, between⟩, first, later⟩ := Option.bind_eq_some.1 fed
    obtain ⟨new, rfl⟩ := Framing.drain_enqueue_extends first
    obtain ⟨more, final⟩ := Framing.feed_enqueue_extends later
    obtain rfl : frames = new ++ more := by simpa using final
    have framed := dataReceived_frames env chunk session
    rw [Framing.dataReceived, Framing.drain_enqueue_fuel first
      (fun frame mem => nonempty frame (List.mem_append_left _ mem))] at framed
    obtain ⟨next, received, same⟩ := Option.map_eq_some'.1 framed
    simp only [Prod.mk.injEq] at same
    have stepped : step env session (.dataReceived chunk) = some next := by
      simp [step, made, received]
    have rest := run_dataReceived_feed env fuel chunks next
      ((dataReceived_connection received).trans made)
      (by rw [same.1, same.2]; exact later.trans (by rw [List.append_assoc]))
      (fun frame mem => nonempty frame (List.mem_append_right _ mem))
    simpa only [List.map_cons, run, stepped, Option.some_bind, same.2, List.append_assoc]
      using rest

/-- Any cutting of well-formed PDUs followed by a tail that holds no complete frame, fed one
`dataReceived` call a chunk to an open session with an empty buffer, puts exactly those PDUs
on `_pdu_queue`, each once and in order, and leaves the tail in `datastream`. -/
theorem run_dataReceived_chunks (env : Collaborators) (pdus : List Bytes) (tail : Bytes)
    (chunks : List Bytes) (wellFormed : ∀ pdu ∈ pdus, Framing.WellFormed pdu)
    (incomplete : tail.length < 16 ∨ tail.length < Framing.commandLength tail)
    (cut : chunks.flatten = pdus.flatten ++ tail) (session : Session)
    (made : session.connection = .made) (empty : session.datastream = []) :
    (run env session (chunks.map .dataReceived)).map
      (fun after => (after.datastream, after.enqueued)) =
        some (tail, session.enqueued ++ pdus) := by
  have fed : Framing.feed Framing.enqueue ((pdus.flatten ++ tail).length + 1) chunks
      (session.datastream, session.enqueued) = some (tail, session.enqueued ++ pdus) := by
    rw [empty]
    apply Framing.feed_of_drain _ chunks (by simp [Framing.popData])
    rw [List.nil_append, cut]
    exact Framing.drain_wellFormed pdus wellFormed
      ((Framing.popData_eq_none_iff tail).2 incomplete) (Nat.lt_succ_self _)
  refine run_dataReceived_feed env _ chunks session made fed fun pdu mem nil => ?_
  have header := (wellFormed pdu mem).1
  simp [nil] at header

/-- What one event does to the queue: nothing; a `dataReceived` loop of puts; or the resumed
handler's result, settled by the consumer. -/
theorem step_cases {env : Collaborators} {session after : Session} {event : Event}
    (stepped : step env session event = some after) :
    after.queue = session.queue ∨
      (∃ fuel datastream rest drained,
        Framing.drain (put env) fuel datastream session = some (rest, drained) ∧
          after.queue = drained.queue) ∨
      (∃ handlerStep outcome, session.consumer = .handling handlerStep ∧
        after = settle env session (resumeHandler env handlerStep outcome)) := by
  rcases step_aside stepped with aside | ⟨data, received⟩ | settled
  · exact .inl aside.queue
  · unfold dataReceived Framing.dataReceived at received
    obtain ⟨⟨rest, drained⟩, ran, rfl⟩ := Option.map_eq_some'.1 received
    exact .inr (.inl ⟨_, _, rest, drained, ran, rfl⟩)
  · exact .inr (.inr settled)

/-- The queue discipline: the frames handled, then the frames pending, are the frames put, in
order; a consumer waiting on `get()` has none pending. -/
structure Fifo (session : Session) : Prop where
  /-- Handled, then pending, is what was put. -/
  order : session.handled ++ session.pduQueue = session.enqueued
  /-- `get()` waits only on an empty queue. -/
  waiting : session.consumer = .waiting → session.pduQueue = []

namespace Fifo

variable {env : Collaborators} {session : Session}

/-- A new session has an empty queue and a waiting consumer. -/
theorem init (role : Role) : Fifo (Session.init role) :=
  ⟨rfl, fun _ => rfl⟩

/-- A session with the same queue keeps the discipline. -/
theorem of_queue (fifo : Fifo session) {after : Session} (same : after.queue = session.queue) :
    Fifo after := by
  simp only [Session.queue, Prod.mk.injEq] at same
  obtain ⟨handled, enqueued, pending, consumer⟩ := same
  exact ⟨by rw [handled, enqueued, pending, fifo.order],
    fun waiting => pending.trans (fifo.waiting (consumer ▸ waiting))⟩

/-- A put keeps the discipline, handing the frame on at once to a waiting consumer. -/
theorem put (fifo : Fifo session) (frame : Bytes) : Fifo (put env frame session) := by
  unfold Client.put
  dsimp only
  split
  · rename_i waiting
    obtain ⟨order, same, empty⟩ := consume_queue env
      { session with enqueued := session.enqueued ++ [frame] } [frame]
    refine ⟨?_, empty⟩
    rw [order, same]
    simp [← fifo.order, fifo.waiting waiting]
  · rename_i busy
    exact ⟨by simp [← fifo.order], fun waiting => absurd waiting busy⟩

/-- The consumer going on after a handler keeps the discipline. -/
theorem settle (fifo : Fifo session) (result : HandlerResult) :
    Fifo (settle env session result) := by
  cases result with
  | finished =>
    obtain ⟨order, same, empty⟩ := consume_queue env session session.pduQueue
    exact ⟨order.trans (fifo.order.trans same.symm), empty⟩
  | raised => exact ⟨fifo.order, fun waiting => by cases waiting⟩
  | awaiting step => exact ⟨fifo.order, fun waiting => by cases waiting⟩

/-- Every step keeps the discipline. -/
theorem step (fifo : Fifo session) {event : Event} {after : Session}
    (stepped : Client.step env session event = some after) : Fifo after := by
  rcases step_cases stepped with same | ⟨_, _, _, drained, ran, same⟩ | ⟨_, _, _, rfl⟩
  · exact fifo.of_queue same
  · exact (Framing.drain_preserves (fun frame _ kept => kept.put frame) ran fifo).of_queue same
  · exact fifo.settle _

/-- Every run keeps the discipline. -/
theorem run (fifo : Fifo session) {events : List Event} {after : Session}
    (ran : Client.run env session events = some after) : Fifo after :=
  run_keeps (fun fifo stepped => fifo.step stepped) fifo ran

end Fifo

/-- In every run, `_process_pdu_queue` hands the frames to `handle_data` in the order they were
put on the queue, each at most once, and the rest are still pending; it waits on `get()` only
when none is pending. -/
theorem processPduQueue_in_order (env : Collaborators) (role : Role) (events : List Event)
    (after : Session) (ran : run env (Session.init role) events = some after) :
    after.handled ++ after.pduQueue = after.enqueued ∧
      (after.consumer = .waiting → after.pduQueue = []) :=
  let fifo := (Fifo.init role).run ran
  ⟨fifo.order, fifo.waiting⟩

/-- A `submit_sm_resp` and an `enquire_link` in one chunk: the consumer is in the handler of
the first, and the second is pending. -/
theorem processPduQueue_in_order_two_frames :
    let events : List Event := [.connectionMade, .resumeTask 0 (.ok 1),
      .dataReceived (Pdu.encode ⟨.submit_sm_resp, esmeRok, 5⟩ ++
        Pdu.encode ⟨.enquire_link, esmeRok, 6⟩)]
    let after := (run headerCollaborators (Session.init .transceiver) events).getD
      (Session.init .transceiver)
    run headerCollaborators (Session.init .transceiver) events = some after ∧
      after.handled ++ after.pduQueue = after.enqueued ∧
        (after.consumer = .waiting → after.pduQueue = []) :=
  ⟨rfl, processPduQueue_in_order headerCollaborators .transceiver
    [.connectionMade, .resumeTask 0 (.ok 1),
      .dataReceived (Pdu.encode ⟨.submit_sm_resp, esmeRok, 5⟩ ++
        Pdu.encode ⟨.enquire_link, esmeRok, 6⟩)] _ rfl⟩

/-- A frame whose `command_id` names no command unpacks to `None`, for which no class has a
handler: `_command_handler_not_found` logs and returns, and `handle_data` finishes. -/
theorem handleData_unnamed (env : Collaborators) {data : Bytes} {pdu : Pdu} (session : Session)
    (unpacked : env.unpackPdu data = some pdu) (unnamed : pdu.commandId = .None) :
    handleData env data session =
      ({ session with handled := session.handled ++ [data] }, .finished) := by
  simp only [handleData, unpacked, unnamed]
  rfl

/-- A header with `command_id` 0 and an `enquire_link` in one chunk: both are handled, and the
consumer waits on `get()` again. -/
example : (run headerCollaborators (Session.init .transceiver)
    [.connectionMade, .resumeTask 0 (.ok 1),
      .dataReceived (Pdu.encode ⟨.None, esmeRok, 2⟩ ++ Pdu.encode ⟨.enquire_link, esmeRok, 3⟩)]).map
      (fun session => (session.handled.length, session.pduQueue, session.consumer)) =
    some (2, [], .waiting) := by
  decide

/-- Once `_process_pdu_queue` has ended, no event makes it handle another frame. -/
theorem step_stopped {env : Collaborators} {session after : Session} {event : Event}
    (stopped : session.consumer = .stopped) (stepped : step env session event = some after) :
    after.consumer = .stopped ∧ after.handled = session.handled := by
  rcases step_cases stepped with same | ⟨_, _, _, drained, ran, same⟩ | ⟨_, _, handling, _⟩
  · simp only [Session.queue, Prod.mk.injEq] at same
    exact ⟨same.2.2.2.trans stopped, same.1⟩
  · have kept : drained.consumer = .stopped ∧ drained.handled = session.handled :=
      @Framing.drain_preserves _ (put env)
        (fun queue => queue.consumer = .stopped ∧ queue.handled = session.handled)
        (fun _ _ dead => by simp [put, dead]) _ _ _ _ _ ran ⟨stopped, rfl⟩
    simp only [Session.queue, Prod.mk.injEq] at same
    exact ⟨same.2.2.2.trans kept.1, same.1.trans kept.2⟩
  · cases stopped.symm.trans handling

/-- Once `_process_pdu_queue` has ended, no run makes it handle another frame. -/
theorem run_stopped {env : Collaborators} {session after : Session} {events : List Event}
    (stopped : session.consumer = .stopped) (ran : run env session events = some after) :
    after.consumer = .stopped ∧ after.handled = session.handled :=
  @run_keeps _ (fun next => next.consumer = .stopped ∧ next.handled = session.handled)
    (fun ⟨dead, same⟩ stepped => (step_stopped dead stepped).imp id (·.trans same)) _ _ _
    ⟨stopped, rfl⟩ ran

/-- After a run that ended the consumer, no continuation hands `handle_data` another frame. -/
theorem run_append_handled {env : Collaborators} {session : Session} {events : List Event}
    {handled enqueued pending : List Bytes}
    (stopped : (run env session events).map Session.queue =
      some (handled, enqueued, pending, .stopped)) (more : List Event) :
    ∀ after ∈ run env session (events ++ more), after.handled = handled := by
  intro after ran
  obtain ⟨ended, first, rest⟩ := Option.bind_eq_some.1 ((run_append _ _ _ _).symm.trans ran)
  simp only [first, Option.map_some', Option.some.injEq, Session.queue, Prod.mk.injEq] at stopped
  exact (run_stopped stopped.2.2.2 rest).2.trans stopped.1

/-- A transceiver that has written its bind receives, in one chunk, a `submit_sm_resp` and an
`enquire_link`: the `LPOP` of `handle_submit_sm_resp` fails, `handle_data` raises,
`_process_pdu_queue` ends, and the `enquire_link` stays on the queue, never handled in any
continuation of the run. -/
theorem processPduQueue_ends_on_failed_lpop :
    (run headerCollaborators (Session.init .transceiver)
        [.connectionMade, .resumeTask 0 (.ok 1),
          .dataReceived (Pdu.encode ⟨.submit_sm_resp, esmeRok, 2⟩ ++
            Pdu.encode ⟨.enquire_link, esmeRok, 3⟩), .resumeHandler .failed]).map
        Session.queue =
      some ([Pdu.encode ⟨.submit_sm_resp, esmeRok, 2⟩],
        [Pdu.encode ⟨.submit_sm_resp, esmeRok, 2⟩, Pdu.encode ⟨.enquire_link, esmeRok, 3⟩],
        [Pdu.encode ⟨.enquire_link, esmeRok, 3⟩], .stopped) ∧
    ∀ events, ∀ after ∈ run headerCollaborators (Session.init .transceiver)
        ([.connectionMade, .resumeTask 0 (.ok 1),
          .dataReceived (Pdu.encode ⟨.submit_sm_resp, esmeRok, 2⟩ ++
            Pdu.encode ⟨.enquire_link, esmeRok, 3⟩), .resumeHandler .failed] ++ events),
      after.handled = [Pdu.encode ⟨.submit_sm_resp, esmeRok, 2⟩] :=
  (and_iff_left_of_imp run_append_handled).2 (by decide)

/-! ## One `LPOP` per `submit_sm_resp` -/

/-- `handle_data` calls `handle_submit_sm_resp` on the frame: it unpacks to a
`submit_sm_resp`. -/
def respondsToSubmit (env : Collaborators) (frame : Bytes) : Bool :=
  (env.unpackPdu frame).any (·.commandId == .submit_sm_resp)

/-- Every class handles `submit_sm_resp`, and only it, with `handle_submit_sm_resp`. -/
theorem Role.handler_eq_submitSmResp (role : Role) (commandId : CommandId) :
    role.handler commandId = .handle_submit_sm_resp ↔ commandId = .submit_sm_resp := by
  cases role <;> cases commandId <;> decide

/-- Of the handlers only `handle_submit_sm_resp` issues an `LPOP`, and one. -/
theorem Handler.run_lpops (pdu : Pdu) (session : Session) : ∀ handler : Handler,
    (handler.run pdu session).1.lpops =
      session.lpops + if handler = .handle_submit_sm_resp then 1 else 0
  | .handle_unbind | .handle_submit_sm_resp | .handle_enquire_link_resp
  | .command_handler_not_found => rfl
  | .handle_bind_transceiver_resp | .handle_bind_transmitter_resp
  | .handle_bind_receiver_resp => by
    rcases handleBindResp_eq _ pdu session with same | ⟨_, _, _, _, started, -⟩ <;>
      [have lpops := congrArg Session.lpops same; have lpops := congrArg Session.lpops started] <;>
      exact lpops
  | .handle_deliver_sm => by
    simp only [Handler.run, handleDeliverSm, reduceCtorEq, if_false, Nat.add_zero]
    split_ifs <;> rfl
  | .handle_enquire_link => by
    simp only [Handler.run, handleEnquireLink, reduceCtorEq, if_false, Nat.add_zero]
    split_ifs <;> rfl

/-- `handle_data` issues an `LPOP` exactly for a frame that unpacks to a `submit_sm_resp`. -/
theorem handleData_lpops (env : Collaborators) (data : Bytes) (session : Session) :
    (handleData env data session).1.lpops =
      session.lpops + if respondsToSubmit env data then 1 else 0 := by
  unfold handleData respondsToSubmit
  split
  · rename_i rejected
    simp [rejected]
  · rename_i pdu found
    simp [Handler.run_lpops, found, Role.handler_eq_submitSmResp]

/-- The `LPOP`s issued are the `submit_sm_resp` frames handed to `handle_data`. -/
def LpopsMatch (env : Collaborators) (session : Session) : Prop :=
  session.lpops = (session.handled.filter (respondsToSubmit env)).length

/-- The consumer keeps the count of `LPOP`s matched. -/
theorem lpopsMatch_handled (env : Collaborators) : Handled env (LpopsMatch env) where
  bookkeeping _ _ _ _ _ matched := matched
  handleData data session matched := by
    have handled := congrArg Prod.fst (handleData_queue env data session)
    unfold LpopsMatch at matched ⊢
    simp only [Session.queue] at handled
    rw [handleData_lpops, handled, List.filter_append, List.length_append, matched]
    cases responds : respondsToSubmit env data <;> simp [responds]

/-- Every step keeps the count of `LPOP`s matched: only the consumer issues them. -/
theorem LpopsMatch.step {env : Collaborators} {session after : Session} {event : Event}
    (matched : LpopsMatch env session) (stepped : step env session event = some after) :
    LpopsMatch env after := by
  rcases step_aside stepped with aside | ⟨data, received⟩ | ⟨_, _, -, rfl⟩
  · unfold LpopsMatch
    rw [aside.lpops, aside.handled]
    exact matched
  · exact (lpopsMatch_handled env).dataReceived received matched
  · exact (lpopsMatch_handled env).settle _ matched

/-- In every run the session has issued one `LPOP` for each `submit_sm_resp` it handed to
`handle_data`, and no other: the dispatch step of the shared-list model in
`VumiSmpp.Unacked`. -/
theorem run_lpops_match (env : Collaborators) (role : Role) (events : List Event)
    (after : Session) (ran : run env (Session.init role) events = some after) :
    after.lpops = (after.handled.filter (respondsToSubmit env)).length :=
  run_keeps (fun matched stepped => LpopsMatch.step matched stepped)
    (show LpopsMatch env (Session.init role) from rfl) ran

/-- The same two frames: the `submit_sm_resp` handed to `handle_data` has had its `LPOP`. -/
theorem run_lpops_match_two_frames :
    let events : List Event := [.connectionMade, .resumeTask 0 (.ok 1),
      .dataReceived (Pdu.encode ⟨.submit_sm_resp, esmeRok, 5⟩ ++
        Pdu.encode ⟨.enquire_link, esmeRok, 6⟩)]
    let after := (run headerCollaborators (Session.init .transceiver) events).getD
      (Session.init .transceiver)
    run headerCollaborators (Session.init .transceiver) events = some after ∧
      after.lpops = (after.handled.filter (respondsToSubmit headerCollaborators)).length :=
  ⟨rfl, run_lpops_match headerCollaborators .transceiver [.connectionMade, .resumeTask 0 (.ok 1),
    .dataReceived (Pdu.encode ⟨.submit_sm_resp, esmeRok, 5⟩ ++
      Pdu.encode ⟨.enquire_link, esmeRok, 6⟩)] _ rfl⟩

end VumiSmpp.Client

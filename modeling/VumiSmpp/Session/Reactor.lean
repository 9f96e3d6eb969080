import VumiSmpp.Session.Basic

/-!
# Handlers, the PDU queue consumer, and runs

`handle_data` unpacks a frame and calls the method `handle_<command_id>` the class has, or
`_command_handler_not_found`. `_process_pdu_queue` takes one frame at a time from
`_pdu_queue` and waits for `handle_data` to finish before it takes the next; an exception from
`handle_data` ends it. `dataReceived` puts frames on the queue through the framing loop of
`VumiSmpp.Framing`; a put with the consumer waiting runs the handler at once.

A run is a list of events the reactor may deliver: the transport's calls, the firing of a
suspended coroutine's `Deferred` with any outcome, the bind timeout, a loop's tick, and a
`query_sm` call. `step` is `none` for an event that cannot happen in that state, and for a
`dataReceived` whose loop never ends.
-/

namespace VumiSmpp.Client

/-- The method `getattr(self, 'handle_%s' % command_id, self._command_handler_not_found)`
returns. -/
inductive Handler where
  | handle_unbind | handle_bind_transceiver_resp | handle_bind_transmitter_resp
  | handle_bind_receiver_resp | handle_submit_sm_resp | handle_deliver_sm | handle_enquire_link
  | handle_enquire_link_resp | command_handler_not_found
  deriving DecidableEq, Repr

/-- The handlers of each class: `EsmeTransceiver`'s, which both subclasses inherit, and the
subclass's own bind response handler. -/
def Role.handler (role : Role) : CommandId → Handler
  | .unbind => .handle_unbind
  | .bind_transceiver_resp => .handle_bind_transceiver_resp
  | .bind_transmitter_resp =>
    if role = .transmitter then .handle_bind_transmitter_resp else .command_handler_not_found
  | .bind_receiver_resp =>
    if role = .receiver then .handle_bind_receiver_resp else .command_handler_not_found
  | .submit_sm_resp => .handle_submit_sm_resp
  | .deliver_sm => .handle_deliver_sm
  | .enquire_link => .handle_enquire_link
  | .enquire_link_resp => .handle_enquire_link_resp
  | _ => .command_handler_not_found

/-- Only an `EsmeTransmitter` handles `bind_transmitter_resp`, and only an `EsmeReceiver`
`bind_receiver_resp`. -/
theorem Role.handler_bound (role : Role) (commandId : CommandId) :
    (role.handler commandId = .handle_bind_transmitter_resp → role = .transmitter) ∧
      (role.handler commandId = .handle_bind_receiver_resp → role = .receiver) := by
  cases role <;> cases commandId <;> decide

/-- What a handler has come to: it returned, it raised, or it waits at a step. -/
inductive HandlerResult where
  | finished
  | raised
  | awaiting (step : HandlerStep)
  deriving DecidableEq, Repr

/-- The body the three bind response handlers share; they differ in the state they set. -/
def handleBindResp (bound : SmppState) (pdu : Pdu) (session : Session) :
    Session × HandlerResult :=
  if pdu.commandStatus = esmeRok then
    match startEnquireLink { session with state := bound } with
    | (session, false) => (session, .awaiting .connect)
    | (session, true) => (session, .raised)
  else (session, .finished)

/-- A bind response handler leaves the session, or sets the bound state and changes besides only
what `start_enquire_link` changes. -/
theorem handleBindResp_eq (bound : SmppState) (pdu : Pdu) (session : Session) :
    (handleBindResp bound pdu session).1 = session ∨
      ∃ loseConn loops tasks connects, (handleBindResp bound pdu session).1 =
        { session with
          state := bound, loseConn := loseConn, loops := loops, tasks := tasks,
          connects := connects } ∧ (loseConn = none ∨ loseConn = session.loseConn) := by
  obtain ⟨loseConn, loops, tasks, connects, started, which⟩ :=
    startEnquireLink_eq { session with state := bound }
  unfold handleBindResp
  split
  · refine .inr ⟨loseConn, loops, tasks, connects, ?_, which⟩
    split <;> rename_i result <;> rw [result] at started <;> exact started
  · exact .inl rfl

/-- `EsmeTransceiver.handle_bind_transceiver_resp`. -/
def handleBindTransceiverResp : Pdu → Session → Session × HandlerResult :=
  handleBindResp .BOUND_TRX

/-- `EsmeTransmitter.handle_bind_transmitter_resp`. -/
def handleBindTransmitterResp : Pdu → Session → Session × HandlerResult :=
  handleBindResp .BOUND_TX

/-- `EsmeReceiver.handle_bind_receiver_resp`. -/
def handleBindReceiverResp : Pdu → Session → Session × HandlerResult :=
  handleBindResp .BOUND_RX

/-- `handle_unbind`: answer, then close the transport. -/
def handleUnbind (pdu : Pdu) (session : Session) : Session × HandlerResult :=
  (loseConnection (sendPdu .unbind_resp pdu.sequenceNumber session), .finished)

/-- `handle_submit_sm_resp`, up to the `LPOP` of `pop_unacked`. -/
def handleSubmitSmResp (session : Session) : Session × HandlerResult :=
  ({ session with lpops := session.lpops + 1 }, .awaiting .lpop)

/-- `handle_deliver_sm` up to the delivery-report processor: a PDU in a state that may not
receive, or with a status other than `ESME_ROK`, is dropped; any other is acknowledged. -/
def handleDeliverSm (pdu : Pdu) (session : Session) : Session × HandlerResult :=
  if !session.state.canReceive then (session, .finished)
  else if pdu.commandStatus ≠ esmeRok then (session, .finished)
  else (sendPdu .deliver_sm_resp pdu.sequenceNumber session,
    .awaiting (.deliver pdu .deliveryReportPdu))

/-- `handle_enquire_link`. -/
def handleEnquireLink (pdu : Pdu) (session : Session) : Session × HandlerResult :=
  if pdu.commandStatus = esmeRok then
    (sendPdu .enquire_link_resp pdu.sequenceNumber session, .finished)
  else (session, .finished)

/-- `handle_enquire_link_resp`, which only logs. -/
def handleEnquireLinkResp (session : Session) : Session × HandlerResult :=
  (session, .finished)

/-- `_command_handler_not_found`, which only logs. -/
def commandHandlerNotFound (session : Session) : Session × HandlerResult :=
  (session, .finished)

/-- The handler called on a PDU, up to its first suspension. -/
def Handler.run : Handler → Pdu → Session → Session × HandlerResult
  | .handle_unbind, pdu, session => handleUnbind pdu session
  | .handle_bind_transceiver_resp, pdu, session => handleBindTransceiverResp pdu session
  | .handle_bind_transmitter_resp, pdu, session => handleBindTransmitterResp pdu session
  | .handle_bind_receiver_resp, pdu, session => handleBindReceiverResp pdu session
  | .handle_submit_sm_resp, _, session => handleSubmitSmResp session
  | .handle_deliver_sm, pdu, session => handleDeliverSm pdu session
  | .handle_enquire_link, pdu, session => handleEnquireLink pdu session
  | .handle_enquire_link_resp, _, session => handleEnquireLinkResp session
  | .command_handler_not_found, _, session => commandHandlerNotFound session

/-- The rest of `handle_deliver_sm` once the processor of a stage has answered: a processor
that handled the PDU ends it; the decoder's verdict decides whether the content is offered. -/
def continueDeliverSm (env : Collaborators) (pdu : Pdu) : DeliverStage → Bool → HandlerResult
  | .shortMessage, _ => .finished
  | _, true => .finished
  | .deliveryReportPdu, false => .awaiting (.deliver pdu .multipart)
  | .multipart, false => .awaiting (.deliver pdu .ussd)
  | .ussd, false =>
    if env.decodesToUnicode pdu then .awaiting (.deliver pdu .deliveryReportContent)
    else .finished
  | .deliveryReportContent, false => .awaiting (.deliver pdu .shortMessage)

/-- A suspended handler goes on once its `Deferred` fires; a failure leaves `handle_data`. -/
def resumeHandler (env : Collaborators) : HandlerStep → Outcome → HandlerResult
  | _, .failed => .raised
  | .connect, .ok _ => .finished
  | .lpop, .ok _ => .awaiting .llen
  | .llen, .ok _ => .awaiting .submitSmResp
  | .submitSmResp, .ok _ => .finished
  | .deliver pdu stage, .ok value => continueDeliverSm env pdu stage (value ≠ 0)

/-- `handle_data` up to the handler's first suspension; it raises where `unpack_pdu` does. -/
def handleData (env : Collaborators) (data : Bytes) (session : Session) :
    Session × HandlerResult :=
  let session := { session with handled := session.handled ++ [data] }
  match env.unpackPdu data with
  | none => (session, .raised)
  | some pdu => (session.role.handler pdu.commandId).run pdu session

/-- Bind response handlers keep the connection and the class. -/
theorem handleBindResp_connection (bound : SmppState) (pdu : Pdu) (session : Session) :
    (handleBindResp bound pdu session).1.connection = session.connection ∧
      (handleBindResp bound pdu session).1.role = session.role := by
  rcases handleBindResp_eq bound pdu session with same | ⟨_, _, _, _, started, -⟩
  · rw [same]
    exact ⟨rfl, rfl⟩
  · rw [started]
    exact ⟨rfl, rfl⟩

/-- Handlers keep the connection and the class. -/
theorem handler_connection (pdu : Pdu) (session : Session) : ∀ handler : Handler,
    (handler.run pdu session).1.connection = session.connection ∧
      (handler.run pdu session).1.role = session.role
  | .handle_unbind | .handle_submit_sm_resp | .handle_enquire_link_resp
  | .command_handler_not_found => ⟨rfl, rfl⟩
  | .handle_bind_transceiver_resp | .handle_bind_transmitter_resp
  | .handle_bind_receiver_resp => handleBindResp_connection _ pdu session
  | .handle_deliver_sm => by
    simp only [Handler.run, handleDeliverSm]
    split_ifs <;> exact ⟨rfl, rfl⟩
  | .handle_enquire_link => by
    simp only [Handler.run, handleEnquireLink]
    split_ifs <;> exact ⟨rfl, rfl⟩

/-- `handle_data` keeps the connection. -/
theorem handleData_connection (env : Collaborators) (data : Bytes) (session : Session) :
    (handleData env data session).1.connection = session.connection := by
  unfold Client.handleData
  split
  · rfl
  · exact (handler_connection _ _ _).1

/-- `handle_data` keeps the class. -/
theorem handleData_role (env : Collaborators) (data : Bytes) (session : Session) :
    (handleData env data session).1.role = session.role := by
  unfold Client.handleData
  split
  · rfl
  · exact (handler_connection _ _ _).2

/-- `_process_pdu_queue` with frames it can take at once: handle them in turn until a handler
waits or raises; `get()` then waits if none is left. -/
def consume (env : Collaborators) : Session → List Bytes → Session
  | session, [] => { session with pduQueue := [], consumer := .waiting }
  | session, frame :: rest =>
    match handleData env frame session with
    | (session, .finished) => consume env session rest
    | (session, .raised) => { session with pduQueue := rest, consumer := .stopped }
    | (session, .awaiting step) => { session with pduQueue := rest, consumer := .handling step }

/-- `_process_pdu_queue` once the `handle_data` it waits on has come to a result. -/
def settle (env : Collaborators) (session : Session) : HandlerResult → Session
  | .finished => consume env session session.pduQueue
  | .raised => { session with consumer := .stopped }
  | .awaiting step => { session with consumer := .handling step }

/-- `_pdu_queue.put(data)`: to the waiting consumer if there is one, else onto the queue. -/
def put (env : Collaborators) (frame : Bytes) (session : Session) : Session :=
  let session := { session with enqueued := session.enqueued ++ [frame] }
  match session.consumer with
  | .waiting => consume env session [frame]
  | _ => { session with pduQueue := session.pduQueue ++ [frame] }

/-- `dataReceived`, with as many iterations as a loop that ends can take; `none` for a loop
that never ends. -/
def dataReceived (env : Collaborators) (data : Bytes) (session : Session) : Option Session :=
  (Framing.dataReceived (put env) (session.datastream ++ data).length.succ session.datastream
    session data).map fun (rest, session) => { session with datastream := rest }

/-- The loop's call returned; the `LoopingCall` schedules the next while it runs. -/
def loopFinished (loop : Nat) (session : Session) : Session :=
  let idle (call : Loop) : Loop := { call with busy := false }
  { session with loops := session.loops.modify idle loop }

/-- The loop's call failed; the `LoopingCall` stops. -/
def loopFailed (loop : Nat) (session : Session) : Session :=
  let failed (_ : Loop) : Loop := ⟨false, false⟩
  { session with loops := session.loops.modify failed loop }

/-- A suspended coroutine goes on once its `Deferred` fires; a failure ends it. -/
def resumeTask (session : Session) : Task → Outcome → Session
  | .connectionMade, .ok seq =>
    scheduleLoseConnection session.role.connectedState (sendPdu session.role.bindPdu seq session)
  | .connectionMade, .failed => session
  | .enquireLink loop, .ok seq => loopFinished loop (sendPdu .enquire_link seq session)
  | .enquireLink loop, .failed => loopFailed loop session
  | .querySm, .ok seq => sendPdu .query_sm seq session
  | .querySm, .failed => session

/-- The reactor runs the pending bind timeout. -/
def bindTimeout (session : Session) : Option Session :=
  match session.loseConn with
  | some ⟨expected, false⟩ =>
    some (loseUnboundConnection expected { session with loseConn := some ⟨expected, true⟩ })
  | _ => none

/-- What the reactor and the application may do next. -/
inductive Event where
  /-- The transport calls `connectionMade`. -/
  | connectionMade
  /-- The transport calls `connectionLost`. -/
  | connectionLost
  /-- The transport calls `dataReceived`. -/
  | dataReceived (data : Bytes)
  /-- The `Deferred` of the suspended coroutine at that index fires. -/
  | resumeTask (index : Nat) (outcome : Outcome)
  /-- The `Deferred` the suspended handler waits on fires. -/
  | resumeHandler (outcome : Outcome)
  /-- The bind timeout elapses. -/
  | bindTimeout
  /-- The interval of the loop at that index elapses. -/
  | loopTick (loop : Nat)
  /-- The application calls `query_sm`. -/
  | querySm
  deriving DecidableEq, Repr

/-- One event; `none` where it cannot happen, or where `dataReceived` never returns. -/
def step (env : Collaborators) (session : Session) : Event → Option Session
  | .connectionMade =>
    if session.connection = .fresh then some (connectionMade session) else none
  | .connectionLost =>
    if session.connection = .made then some (connectionLost session) else none
  | .dataReceived data =>
    if session.connection = .made then dataReceived env data session else none
  | .resumeTask index outcome =>
    session.tasks[index]?.map fun task =>
      resumeTask { session with tasks := session.tasks.eraseIdx index } task outcome
  | .resumeHandler outcome =>
    match session.consumer with
    | .handling step => some (settle env session (resumeHandler env step outcome))
    | _ => none
  | .bindTimeout => bindTimeout session
  | .loopTick loop =>
    if session.loops[loop]? = some ⟨true, false⟩ then some (enquireLink loop session) else none
  | .querySm => some (querySm session)

/-- What one step can do: the code of its event, run when the event's guard holds. -/
theorem step_eq_some {env : Collaborators} {session after : Session} {event : Event}
    (stepped : step env session event = some after) :
    (event = .connectionMade ∧ session.connection = .fresh ∧ after = connectionMade session) ∨
    (event = .connectionLost ∧ session.connection = .made ∧ after = connectionLost session) ∨
    (∃ data, event = .dataReceived data ∧ session.connection = .made ∧
      dataReceived env data session = some after) ∨
    (∃ index outcome task, event = .resumeTask index outcome ∧
      session.tasks[index]? = some task ∧
      after = resumeTask { session with tasks := session.tasks.eraseIdx index } task outcome) ∨
    (∃ handlerStep outcome, event = .resumeHandler outcome ∧
      session.consumer = .handling handlerStep ∧
      after = settle env session (resumeHandler env handlerStep outcome)) ∨
    (event = .bindTimeout ∧ bindTimeout session = some after) ∨
    (∃ loop, event = .loopTick loop ∧ session.loops[loop]? = some ⟨true, false⟩ ∧
      after = enquireLink loop session) ∨
    (event = .querySm ∧ after = querySm session) := by
  cases event with
  | connectionMade =>
    simp only [step] at stepped
    split at stepped <;> cases stepped
    exact .inl ⟨rfl, ‹_›, rfl⟩
  | connectionLost =>
    simp only [step] at stepped
    split at stepped <;> cases stepped
    exact .inr <| .inl ⟨rfl, ‹_›, rfl⟩
  | dataReceived data =>
    simp only [step] at stepped
    split at stepped
    · exact .inr <| .inr <| .inl ⟨data, rfl, ‹_›, stepped⟩
    · cases stepped
  | resumeTask index outcome =>
    obtain ⟨task, found, rfl⟩ := Option.map_eq_some'.1 stepped
    exact .inr <| .inr <| .inr <| .inl ⟨index, outcome, task, rfl, found, rfl⟩
  | resumeHandler outcome =>
    simp only [step] at stepped
    split at stepped <;> cases stepped
    exact .inr <| .inr <| .inr <| .inr <| .inl ⟨_, outcome, rfl, ‹_›, rfl⟩
  | bindTimeout => exact .inr <| .inr <| .inr <| .inr <| .inr <| .inl ⟨rfl, stepped⟩
  | loopTick loop =>
    simp only [step] at stepped
    split at stepped <;> cases stepped
    exact .inr <| .inr <| .inr <| .inr <| .inr <| .inr <| .inl ⟨loop, rfl, ‹_›, rfl⟩
  | querySm =>
    exact .inr <| .inr <| .inr <| .inr <| .inr <| .inr <| .inr
      ⟨rfl, (Option.some.inj stepped).symm⟩

/-- A run: the events in order, `none` if one of them cannot happen. -/
def run (env : Collaborators) (session : Session) : List Event → Option Session
  | [] => some session
  | event :: events => (step env session event).bind fun next => run env next events

end VumiSmpp.Client

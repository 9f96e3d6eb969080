import VumiSmpp.Framing

/-!
# The session object and its synchronous methods

An `EsmeTransceiver` (or its subclass `EsmeTransmitter` or `EsmeReceiver`) is a Twisted
protocol: the reactor calls `connectionMade`, `dataReceived` and `connectionLost`, runs the
bind-timeout call and the enquire-link `LoopingCall`s, and fires the `Deferred`s its
`inlineCallbacks` coroutines wait on. This module holds the session's fields and the code that
runs between two suspensions. A coroutine that waits on a store command, a callback or a
processor is a continuation (`Task`, `HandlerStep`), resumed later with an `Outcome` chosen by
the environment: the store and the callbacks are outside the model, so every result and
every failure is possible. PDU bodies are not modelled; a written PDU is its command, its
sequence number, and the state of the session when it was written.
-/

namespace VumiSmpp.Client

/-- The values the code assigns to `self.state`; the spec's `UNBINDING` is never assigned. -/
inductive SmppState where
  | CLOSED | OPEN | BOUND_TX | BOUND_RX | BOUND_TRX
  deriving DecidableEq, Repr

/-- The session classes: `EsmeTransceiver` and its subclasses. -/
inductive Role where
  | transceiver | transmitter | receiver
  deriving DecidableEq, Repr

/-- SMPP command names, as `unpack_pdu` gives `command_id` and the PDU builders write them;
`None` is what `unpack_pdu` gives for a `command_id` the `smpp` library has no name for. -/
inductive CommandId where
  | bind_transceiver | bind_transmitter | bind_receiver
  | bind_transceiver_resp | bind_transmitter_resp | bind_receiver_resp
  | unbind | unbind_resp | enquire_link | enquire_link_resp
  | submit_sm | submit_sm_resp | deliver_sm | deliver_sm_resp | query_sm | query_sm_resp
  | generic_nack
  | None
  deriving DecidableEq, Repr

/-- `CONNECTED_STATE` of each class. -/
def Role.connectedState : Role → SmppState
  | .transceiver => .BOUND_TRX
  | .transmitter => .BOUND_TX
  | .receiver => .BOUND_RX

/-- `BIND_PDU` of each class. -/
def Role.bindPdu : Role → CommandId
  | .transceiver => .bind_transceiver
  | .transmitter => .bind_transmitter
  | .receiver => .bind_receiver

/-- The header fields of a decoded PDU that the handlers read. -/
structure Pdu where
  /-- `pdu['header']['command_id']`. -/
  commandId : CommandId
  /-- `pdu['header']['command_status']`, as its number. -/
  commandStatus : Nat
  /-- `pdu['header']['sequence_number']`. -/
  sequenceNumber : Nat
  deriving DecidableEq, Repr

/-- `ESME_ROK`, command status zero. -/
def esmeRok : Nat := 0

/-- The external code the session calls without waiting: the PDU codec of the `smpp`
library and the short-message processor's decoder. -/
structure Collaborators where
  /-- `unpack_pdu`; `none` where it raises. -/
  unpackPdu : Bytes → Option Pdu
  /-- Whether every part `sm_processor.decode_pdus([pdu])` returns is `unicode`. -/
  decodesToUnicode : Pdu → Bool

/-- How an awaited `Deferred` fires: with a value (a sequence number, or a result read for its
truth value, zero being false), or with a failure. -/
inductive Outcome where
  | ok (value : Nat)
  | failed
  deriving DecidableEq, Repr

/-- `self._lose_conn`: the call `schedule_lose_connection` armed with `callLater`. -/
structure DelayedCall where
  /-- Its argument, `expected_status`. -/
  expected : SmppState
  /-- The reactor has run it; `cancel()` on it raises `AlreadyCalled`. -/
  called : Bool
  deriving DecidableEq, Repr

/-- An enquire-link `LoopingCall`. -/
structure Loop where
  /-- `LoopingCall.running`. -/
  running : Bool
  /-- The `enquire_link` call it made has not finished. -/
  busy : Bool
  deriving DecidableEq, Repr

/-- A suspended coroutine other than the PDU-queue consumer. -/
inductive Task where
  /-- `connectionMade`, at `seq = yield self.get_next_seq()`. -/
  | connectionMade
  /-- `enquire_link` called by the loop of that index, at `yield self.get_next_seq()`. -/
  | enquireLink (loop : Nat)
  /-- `query_sm`, at `yield self.get_next_seq()`. -/
  | querySm
  deriving DecidableEq, Repr

/-- The stages of `handle_deliver_sm` that wait on a processor. -/
inductive DeliverStage where
  | deliveryReportPdu | multipart | ussd | deliveryReportContent | shortMessage
  deriving DecidableEq, Repr

/-- Where the handler that `handle_data` runs is suspended. -/
inductive HandlerStep where
  /-- `start_enquire_link`, at `yield self.esme_callbacks.connect(self)`. -/
  | connect
  /-- `pop_unacked`, at `yield self.redis.lpop("unacked")`. -/
  | lpop
  /-- `pop_unacked`, at `yield self.get_unacked_count()`. -/
  | llen
  /-- `handle_submit_sm_resp`, at `yield self.esme_callbacks.submit_sm_resp(...)`. -/
  | submitSmResp
  /-- `handle_deliver_sm`, waiting on the processor of that stage. -/
  | deliver (pdu : Pdu) (stage : DeliverStage)
  deriving DecidableEq, Repr

/-- The coroutine `_process_pdu_queue`. -/
inductive Consumer where
  /-- At `yield self._pdu_queue.get()`, no frame pending. -/
  | waiting
  /-- At `yield self.handle_data(data)`, the handler suspended there. -/
  | handling (step : HandlerStep)
  /-- Ended: an exception from `handle_data` left the generator. -/
  | stopped
  deriving DecidableEq, Repr

/-- What the transport has done with the protocol. -/
inductive Connection where
  | fresh | made | lost
  deriving DecidableEq, Repr

/-- A PDU written to the transport. -/
structure Written where
  /-- Its command. -/
  commandId : CommandId
  /-- Its sequence number. -/
  sequenceNumber : Nat
  /-- `self.state` when it was written (a record of the run). -/
  state : SmppState
  deriving DecidableEq, Repr

/-- One protocol instance with what the run has recorded of it. -/
structure Session where
  /-- The class. -/
  role : Role
  /-- Whether `connectionMade` and `connectionLost` have run. -/
  connection : Connection
  /-- `self.state`. -/
  state : SmppState
  /-- `self.datastream`. -/
  datastream : Bytes
  /-- The frames pending in `self._pdu_queue`. -/
  pduQueue : List Bytes
  /-- `_process_pdu_queue`. -/
  consumer : Consumer
  /-- `self._lose_conn`. -/
  loseConn : Option DelayedCall
  /-- Every `LoopingCall` the session created, in order; `self.lc_enquire` is the last. -/
  loops : List Loop
  /-- Suspended coroutines, in the order they suspended. -/
  tasks : List Task
  /-- PDUs written to the transport, in order. -/
  written : List Written
  /-- Calls of `esme_callbacks.connect`. -/
  connects : Nat
  /-- Calls of `esme_callbacks.disconnect`. -/
  disconnects : Nat
  /-- `self.transport.loseConnection()` has been called. -/
  loseConnectionCalled : Bool
  /-- `LPOP unacked` commands issued. -/
  lpops : Nat
  /-- Every frame put on `_pdu_queue`, in order (a record of the run). -/
  enqueued : List Bytes
  /-- Every frame given to `handle_data`, in order (a record of the run). -/
  handled : List Bytes
  deriving Repr

/-- A new protocol instance, as `__init__` leaves it: `CLOSED`, with the consumer started. -/
def Session.init (role : Role) : Session where
  role := role
  connection := .fresh
  state := .CLOSED
  datastream := []
  pduQueue := []
  consumer := .waiting
  loseConn := none
  loops := []
  tasks := []
  written := []
  connects := 0
  disconnects := 0
  loseConnectionCalled := false
  lpops := 0
  enqueued := []
  handled := []

/-- One of `BOUND_TX`, `BOUND_RX`, `BOUND_TRX`. -/
def SmppState.isBound : SmppState → Bool
  | .BOUND_TX | .BOUND_RX | .BOUND_TRX => true
  | _ => false

/-- `self.state in ['BOUND_TX', 'BOUND_TRX']`, the states that may submit. -/
def SmppState.canTransmit : SmppState → Bool
  | .BOUND_TX | .BOUND_TRX => true
  | _ => false

/-- `self.state in ['BOUND_RX', 'BOUND_TRX']`, the states that may receive. -/
def SmppState.canReceive : SmppState → Bool
  | .BOUND_RX | .BOUND_TRX => true
  | _ => false

/-- `send_pdu`: write the PDU to the transport. -/
def sendPdu (commandId : CommandId) (sequenceNumber : Nat) (session : Session) : Session :=
  { session with written := session.written ++ [⟨commandId, sequenceNumber, session.state⟩] }

/-- `self.transport.loseConnection()`. -/
def loseConnection (session : Session) : Session :=
  { session with loseConnectionCalled := true }

/-- `schedule_lose_connection`: arm the bind timeout. -/
def scheduleLoseConnection (expectedStatus : SmppState) (session : Session) : Session :=
  { session with loseConn := some ⟨expectedStatus, false⟩ }

/-- `lose_unbound_connection`, run by the bind timeout. -/
def loseUnboundConnection (requiredState : SmppState) (session : Session) : Session :=
  if session.state ≠ requiredState then loseConnection { session with loseConn := none }
  else session

/-- `cancel_drop_connection_call`, and whether it raised: `cancel()` on a call the reactor has
already run raises `AlreadyCalled` before `_lose_conn` is cleared. -/
def cancelDropConnectionCall (session : Session) : Session × Bool :=
  match session.loseConn with
  | none => (session, false)
  | some call =>
    if call.called then (session, true) else ({ session with loseConn := none }, false)

/-- `cancel_drop_connection_call` changes only `_lose_conn`: it clears it, or leaves it when
`cancel()` raises. -/
theorem cancelDropConnectionCall_eq (session : Session) :
    ∃ loseConn, (cancelDropConnectionCall session).1 = { session with loseConn := loseConn } ∧
      (loseConn = none ∨ loseConn = session.loseConn) := by
  unfold cancelDropConnectionCall
  split
  · exact ⟨_, rfl, .inr rfl⟩
  · split
    · exact ⟨_, rfl, .inr rfl⟩
    · exact ⟨none, rfl, .inl rfl⟩

/-- `stop_enquire_link`: stop `self.lc_enquire`, the last loop, if it runs. -/
def stopEnquireLink (session : Session) : Session :=
  let stop (loop : Loop) : Loop := { loop with running := false }
  { session with loops := session.loops.modify stop (session.loops.length - 1) }

/-- `connectionLost`; `esme_callbacks.disconnect()` is not reached when cancelling the bind
timeout raises. -/
def connectionLost (session : Session) : Session :=
  let closed := { session with connection := .lost, state := .CLOSED }
  match cancelDropConnectionCall (stopEnquireLink closed) with
  | (session, true) => session
  | (session, false) => { session with disconnects := session.disconnects + 1 }

/-- `connectionLost` closes the session and changes besides only the loops, `_lose_conn`, which
it clears or leaves, and the count of `disconnect` calls. -/
theorem connectionLost_eq (session : Session) :
    ∃ loseConn loops disconnects, connectionLost session =
      { session with
        connection := .lost, state := .CLOSED, loseConn := loseConn, loops := loops,
        disconnects := disconnects } ∧ (loseConn = none ∨ loseConn = session.loseConn) := by
  obtain ⟨loseConn, cancelled, which⟩ := cancelDropConnectionCall_eq <|
    stopEnquireLink { session with connection := .lost, state := .CLOSED }
  unfold connectionLost
  dsimp only
  split <;> rename_i result <;> rw [result] at cancelled <;> subst cancelled <;>
    exact ⟨loseConn, _, _, rfl, which⟩

/-- `enquire_link` called by the loop of that index: while bound it waits for a sequence
number, otherwise it returns at once. -/
def enquireLink (loop : Nat) (session : Session) : Session :=
  if session.state.isBound then
    let call (running : Loop) : Loop := { running with busy := true }
    { session with
      loops := session.loops.modify call loop
      tasks := session.tasks ++ [.enquireLink loop] }
  else session

/-- `enquire_link` changes only the loops and the suspended coroutines. -/
theorem enquireLink_eq (loop : Nat) (session : Session) :
    ∃ loops tasks,
      enquireLink loop session = { session with loops := loops, tasks := tasks } := by
  unfold enquireLink
  split <;> exact ⟨_, _, rfl⟩

/-- `start_enquire_link` up to `yield self.esme_callbacks.connect(self)`: a new loop started
with an immediate call, then the bind timeout cancelled; and whether the cancel raised, in
which case `connect` is not called. -/
def startEnquireLink (session : Session) : Session × Bool :=
  let started := enquireLink session.loops.length
    { session with loops := session.loops ++ [⟨true, false⟩] }
  match cancelDropConnectionCall started with
  | (session, true) => (session, true)
  | (session, false) => ({ session with connects := session.connects + 1 }, false)

/-- `start_enquire_link` changes only the loops, the suspended coroutines, the count of
`connect` calls, and `_lose_conn`, which it clears or leaves. -/
theorem startEnquireLink_eq (session : Session) :
    ∃ loseConn loops tasks connects, (startEnquireLink session).1 =
      { session with
        loseConn := loseConn, loops := loops, tasks := tasks, connects := connects } ∧
      (loseConn = none ∨ loseConn = session.loseConn) := by
  obtain ⟨loops, tasks, started⟩ := enquireLink_eq session.loops.length
    { session with loops := session.loops ++ [⟨true, false⟩] }
  obtain ⟨loseConn, cancelled, which⟩ :=
    cancelDropConnectionCall_eq { session with loops := loops, tasks := tasks }
  unfold startEnquireLink
  dsimp only
  rw [started]
  split <;> rename_i result <;> rw [result] at cancelled <;> subst cancelled <;>
    exact ⟨loseConn, loops, tasks, _, rfl, which⟩

/-- `query_sm`, up to its sequence number. -/
def querySm (session : Session) : Session :=
  if session.state.canTransmit then { session with tasks := session.tasks ++ [.querySm] }
  else session

/-- `connectionMade`, up to its sequence number. -/
def connectionMade (session : Session) : Session :=
  { session with
    connection := .made, state := .OPEN, tasks := session.tasks ++ [.connectionMade] }

end VumiSmpp.Client

import VumiSmpp.Session.Dispatch

/-!
# The session's life: its states, the bind timeout, and what outlives the connection

`connectionMade` opens the session and, once it has a sequence number, writes the bind PDU and
arms the bind timeout. A bind response with `ESME_ROK` sets a bound state, starts an
enquire-link loop, cancels the timeout and calls `esme_callbacks.connect`; `connectionLost`
closes the session, stops the last loop and cancels the timeout.

`Sound` collects what every run keeps: each class stays within `CLOSED`, `OPEN`, its own
`CONNECTED_STATE` and `BOUND_TRX`; a `deliver_sm` is acknowledged only in a state that may
receive; and once the bind PDU is written, an open session that is not bound has its bind
timeout pending or has told the transport to close. The runs at the end show what the code
leaves open: a sequence number that fails inside `connectionMade`, work that resumes after
`connectionLost`, a repeated bind response, and the bind response of another class.
-/

namespace VumiSmpp.Client

/-- The fields a session's life is read from: its class, the connection, the state, the bind
timeout, whether the transport was told to close, and the PDUs written. -/
def Session.life (session : Session) :
    Role × Connection × SmppState × Option DelayedCall × Bool × List Written :=
  (session.role, session.connection, session.state, session.loseConn,
    session.loseConnectionCalled, session.written)

/-! ## What every run keeps -/

/-- The states a session of the class can be in: `CLOSED`, `OPEN`, the class's
`CONNECTED_STATE`, and `BOUND_TRX`, which the inherited `handle_bind_transceiver_resp` sets in
every class. -/
def Role.Reaches (role : Role) (state : SmppState) : Prop :=
  state = .CLOSED ∨ state = .OPEN ∨ state = role.connectedState ∨ state = .BOUND_TRX

/-- Whether a class can be in a state is decided. -/
instance (role : Role) : DecidablePred role.Reaches :=
  fun _ => inferInstanceAs (Decidable (_ ∨ _))

/-- The bind PDU of the class is among the PDUs written. -/
def Session.BindWritten (session : Session) : Prop :=
  ∃ pdu ∈ session.written, pdu.commandId = session.role.bindPdu

/-- The bind timeout is armed and has not run. -/
def Session.BindPending (session : Session) : Prop :=
  ∃ expected, session.loseConn = some ⟨expected, false⟩

/-- What every run of a session of the class keeps. -/
structure Sound (role : Role) (session : Session) : Prop where
  /-- The class never changes. -/
  ofRole : session.role = role
  /-- Before `connectionMade` nothing has run. -/
  fresh : session.connection = .fresh →
    session.state = .CLOSED ∧ session.consumer = .waiting ∧ session.tasks = [] ∧
      session.loops = [] ∧ session.loseConn = none ∧ session.written = []
  /-- The state is one the class can be in. -/
  reaches : role.Reaches session.state
  /-- It was one whenever a PDU was written. -/
  written : ∀ pdu ∈ session.written, role.Reaches pdu.state
  /-- A `deliver_sm_resp` is written only in a state that may receive. -/
  acks : ∀ pdu ∈ session.written, pdu.commandId = .deliver_sm_resp → pdu.state.canReceive
  /-- The bind timeout expects the class's `CONNECTED_STATE`. -/
  expected : ∀ call, session.loseConn = some call → call.expected = role.connectedState
  /-- Once the bind PDU is written, an open session that is not bound has its bind timeout
  pending or has told the transport to close. -/
  guarded : session.connection = .made → session.BindWritten →
    session.state.isBound ∨ session.BindPending ∨ session.loseConnectionCalled

/-- `CONNECTED_STATE` is a bound state. -/
theorem Role.connectedState_isBound (role : Role) : role.connectedState.isBound := by
  cases role <;> rfl

namespace Sound

variable {role : Role} {session : Session}

/-- A new session is sound. -/
theorem init (role : Role) : Sound role (Session.init role) :=
  ⟨rfl, fun _ => ⟨rfl, rfl, rfl, rfl, rfl, rfl⟩, .inl rfl,
    fun _ none => absurd none (List.not_mem_nil _), fun _ none => absurd none (List.not_mem_nil _),
    nofun, nofun⟩

/-- Past `connectionMade`, a session with the same life keeps the invariant. -/
theorem of_life (sound : Sound role session) {after : Session}
    (connected : session.connection ≠ .fresh) (same : after.life = session.life) :
    Sound role after := by
  simp only [Session.life, Prod.mk.injEq] at same
  obtain ⟨sameRole, connection, state, loseConn, called, written⟩ := same
  refine ⟨sameRole.trans sound.ofRole, fun fresh => absurd (connection ▸ fresh) connected,
    state ▸ sound.reaches, written ▸ sound.written, written ▸ sound.acks,
    loseConn ▸ sound.expected, ?_⟩
  unfold Session.BindWritten Session.BindPending
  rw [connection, state, loseConn, called, written, sameRole]
  exact sound.guarded

/-- Clearing the bind timeout, or leaving it, keeps what it expects. -/
theorem expected_of_cleared (sound : Sound role session) {loseConn : Option DelayedCall}
    (which : loseConn = none ∨ loseConn = session.loseConn) :
    ∀ call, loseConn = some call → call.expected = role.connectedState := by
  rcases which with rfl | rfl
  · exact nofun
  · exact sound.expected

/-- Appending a PDU written in the current state keeps the record of writes, a
`deliver_sm_resp` only in a state that may receive. -/
theorem written_sendPdu (sound : Sound role session) {commandId : CommandId}
    (acked : commandId = .deliver_sm_resp → session.state.canReceive) (sequenceNumber : Nat) :
    (∀ pdu ∈ (sendPdu commandId sequenceNumber session).written, role.Reaches pdu.state) ∧
      ∀ pdu ∈ (sendPdu commandId sequenceNumber session).written,
        pdu.commandId = .deliver_sm_resp → pdu.state.canReceive := by
  simp only [sendPdu, List.mem_append, List.mem_singleton]
  constructor
  · rintro pdu (old | rfl)
    exacts [sound.written pdu old, sound.reaches]
  · rintro pdu (old | rfl)
    exacts [sound.acks pdu old, acked]

/-- Writing a PDU other than the bind keeps the invariant, a `deliver_sm_resp` only in a state
that may receive. -/
theorem sendPdu (sound : Sound role session) (connected : session.connection ≠ .fresh)
    {commandId : CommandId} (notBind : commandId ≠ role.bindPdu)
    (acked : commandId = .deliver_sm_resp → session.state.canReceive) (sequenceNumber : Nat) :
    Sound role (sendPdu commandId sequenceNumber session) := by
  obtain ⟨written, acks⟩ := sound.written_sendPdu acked sequenceNumber
  refine ⟨sound.ofRole, fun fresh => absurd fresh connected, sound.reaches, written, acks,
    sound.expected, ?_⟩
  rintro made ⟨pdu, mem, bind⟩
  simp only [Client.sendPdu, List.mem_append, List.mem_singleton] at mem
  rcases mem with old | rfl
  · exact sound.guarded made ⟨pdu, old, bind⟩
  · exact absurd (bind.trans (congrArg Role.bindPdu sound.ofRole)) notBind

/-- `connectionMade`'s continuation, which writes the bind PDU and arms the timeout, keeps the
invariant. -/
theorem bind (sound : Sound role session) (connected : session.connection ≠ .fresh)
    (sequenceNumber : Nat) :
    Sound role (scheduleLoseConnection session.role.connectedState
      (Client.sendPdu session.role.bindPdu sequenceNumber session)) := by
  obtain ⟨written, acks⟩ := @written_sendPdu role session sound session.role.bindPdu
    (fun bind => absurd bind (by cases session.role <;> decide)) sequenceNumber
  refine ⟨sound.ofRole, fun fresh => absurd fresh connected, sound.reaches, written, acks,
    fun call armed => ?_, fun _ _ => .inr (.inl ⟨_, rfl⟩)⟩
  cases armed
  exact congrArg Role.connectedState sound.ofRole

/-- Telling the transport to close keeps the invariant. -/
theorem loseConnection (sound : Sound role session) (connected : session.connection ≠ .fresh) :
    Sound role (loseConnection session) :=
  ⟨sound.ofRole, fun fresh => absurd fresh connected, sound.reaches, sound.written, sound.acks,
    sound.expected, fun _ _ => .inr (.inr rfl)⟩

/-- A bind response handler keeps the invariant when the state it sets is one the class can be
in. -/
theorem handleBindResp (sound : Sound role session) (connected : session.connection ≠ .fresh)
    {bound : SmppState} (reaches : role.Reaches bound) (isBound : bound.isBound) (pdu : Pdu) :
    Sound role (handleBindResp bound pdu session).1 := by
  rcases handleBindResp_eq bound pdu session with same | ⟨_, _, _, _, started, which⟩
  · rw [same]
    exact sound
  · rw [started]
    exact ⟨sound.ofRole, fun fresh => absurd fresh connected, reaches, sound.written, sound.acks,
      sound.expected_of_cleared which, fun _ _ => .inl isBound⟩

/-- Every handler keeps the invariant. -/
theorem handler (sound : Sound role session) (connected : session.connection ≠ .fresh)
    (pdu : Pdu) : Sound role ((session.role.handler pdu.commandId).run pdu session).1 := by
  have bound := session.role.handler_bound pdu.commandId
  have notBind : ∀ commandId : CommandId, commandId ∈ [.unbind_resp, .deliver_sm_resp,
      .enquire_link_resp, .enquire_link, .query_sm] → commandId ≠ role.bindPdu := by
    cases role <;> decide
  cases handler : session.role.handler pdu.commandId with
  | handle_unbind =>
    exact (sound.sendPdu connected (notBind .unbind_resp (by simp)) nofun _).loseConnection
      connected
  | handle_bind_transceiver_resp =>
    exact sound.handleBindResp connected (.inr (.inr (.inr rfl))) rfl pdu
  | handle_bind_transmitter_resp =>
    obtain rfl := sound.ofRole.symm.trans (bound.1 handler)
    exact sound.handleBindResp connected (.inr (.inr (.inl rfl))) rfl pdu
  | handle_bind_receiver_resp =>
    obtain rfl := sound.ofRole.symm.trans (bound.2 handler)
    exact sound.handleBindResp connected (.inr (.inr (.inl rfl))) rfl pdu
  | handle_submit_sm_resp => exact sound.of_life connected rfl
  | handle_deliver_sm =>
    simp only [Handler.run, handleDeliverSm]
    split
    · exact sound
    · rename_i receives
      split
      · exact sound
      · exact sound.sendPdu connected (notBind .deliver_sm_resp (by simp))
          (fun _ => by simpa using receives) _
  | handle_enquire_link =>
    simp only [Handler.run, handleEnquireLink]
    split
    · exact sound.sendPdu connected (notBind .enquire_link_resp (by simp)) nofun _
    · exact sound
  | handle_enquire_link_resp => exact sound
  | command_handler_not_found => exact sound

/-- `handle_data` keeps the invariant. -/
theorem handleData (sound : Sound role session) (connected : session.connection ≠ .fresh)
    (env : Collaborators) (data : Bytes) : Sound role (Client.handleData env data session).1 := by
  have recorded : Sound role { session with handled := session.handled ++ [data] } :=
    sound.of_life connected rfl
  unfold Client.handleData
  split
  · exact recorded
  · exact recorded.handler connected _

/-- Past `connectionMade`, the consumer's work keeps the invariant. -/
theorem handled (env : Collaborators) (role : Role) :
    Handled env fun session => session.connection ≠ .fresh ∧ Sound role session :=
  ⟨fun _ _ _ _ _ ⟨connected, sound⟩ => ⟨connected, sound.of_life connected rfl⟩,
    fun data session ⟨connected, sound⟩ =>
      ⟨(handleData_connection env data session).trans_ne connected,
        sound.handleData connected env data⟩⟩

/-- Every step keeps the invariant. -/
theorem step (sound : Sound role session) {env : Collaborators} {event : Event} {after : Session}
    (stepped : Client.step env session event = some after) : Sound role after := by
  rcases step_eq_some stepped with ⟨-, fresh, rfl⟩ | ⟨-, -, rfl⟩ |
    ⟨data, -, made, received⟩ | ⟨index, outcome, task, -, found, rfl⟩ |
    ⟨handlerStep, outcome, -, handling, rfl⟩ |
    ⟨-, fired⟩ | ⟨loop, -, ticking, rfl⟩ | ⟨-, rfl⟩
  · obtain ⟨-, -, -, -, none, empty⟩ := sound.fresh fresh
    refine ⟨sound.ofRole, nofun, .inr (.inl rfl), ?_, ?_, ?_, ?_⟩ <;>
      simp [connectionMade, Session.BindWritten, empty, none]
  · obtain ⟨_, _, _, lost, which⟩ := connectionLost_eq session
    rw [lost]
    exact ⟨sound.ofRole, nofun, .inl rfl, sound.written, sound.acks,
      sound.expected_of_cleared which, nofun⟩
  · exact ((handled env role).dataReceived received ⟨by rw [made]; decide, sound⟩).2
  · have connected : session.connection ≠ .fresh := fun fresh => by
      simp [(sound.fresh fresh).2.2.1] at found
    have erased : Sound role { session with tasks := session.tasks.eraseIdx index } :=
      sound.of_life connected rfl
    have notBind : ∀ commandId : CommandId, commandId ∈ [.enquire_link, .query_sm] →
        commandId ≠ role.bindPdu := by
      cases role <;> decide
    cases task <;> cases outcome
    · exact erased.bind connected _
    · exact erased
    · exact (erased.sendPdu connected (notBind .enquire_link (by simp)) nofun _).of_life
        connected rfl
    · exact erased.of_life connected rfl
    · exact erased.sendPdu connected (notBind .query_sm (by simp)) nofun _
    · exact erased
  · have connected : session.connection ≠ .fresh := fun fresh => by
      simp [(sound.fresh fresh).2.1] at handling
    exact ((handled env role).settle _ ⟨connected, sound⟩).2
  · simp only [Client.bindTimeout] at fired
    split at fired <;> cases fired
    rename_i expected armed
    have connected : session.connection ≠ .fresh := fun fresh => by
      simp [(sound.fresh fresh).2.2.2.2.1] at armed
    have same : expected = role.connectedState := sound.expected _ armed
    unfold loseUnboundConnection
    split
    · exact ⟨sound.ofRole, fun fresh => absurd fresh connected, sound.reaches, sound.written,
        sound.acks, nofun, fun _ _ => .inr (.inr rfl)⟩
    · rename_i bound
      refine ⟨sound.ofRole, fun fresh => absurd fresh connected, sound.reaches, sound.written,
        sound.acks, fun call fired => ?_, fun _ _ => .inl ?_⟩
      · cases fired
        exact same
      · rw [not_not.1 bound, same]
        exact role.connectedState_isBound
  · have connected : session.connection ≠ .fresh := fun fresh => by
      simp [(sound.fresh fresh).2.2.2.1] at ticking
    obtain ⟨_, _, ticked⟩ := enquireLink_eq loop session
    exact ticked ▸ sound.of_life connected rfl
  · unfold Client.querySm
    split
    · rename_i transmits
      have connected : session.connection ≠ .fresh := fun fresh => by
        simp [(sound.fresh fresh).1, SmppState.canTransmit] at transmits
      exact sound.of_life connected rfl
    · exact sound

/-- Every run keeps the invariant. -/
theorem run (sound : Sound role session) {env : Collaborators} {events : List Event}
    {after : Session} (ran : Client.run env session events = some after) : Sound role after :=
  run_keeps (fun sound stepped => sound.step stepped) sound ran

end Sound

/-! ## Every run -/

/-- In every run each class stays within `CLOSED`, `OPEN`, its own `CONNECTED_STATE` and
`BOUND_TRX`, also at every write, and a `deliver_sm` is acknowledged only in a state that may
receive. -/
theorem run_states_reached (env : Collaborators) (role : Role) (events : List Event)
    (after : Session) (ran : run env (Session.init role) events = some after) :
    role.Reaches after.state ∧ ∀ pdu ∈ after.written,
      role.Reaches pdu.state ∧ (pdu.commandId = .deliver_sm_resp → pdu.state.canReceive) :=
  let sound := (Sound.init role).run ran
  ⟨sound.reaches, fun pdu mem => ⟨sound.written pdu mem, sound.acks pdu mem⟩⟩

/-- A transmitter given a `bind_transceiver_resp` and a `deliver_sm`. -/
theorem run_states_reached_transmitter :
    let events : List Event := [.connectionMade, .resumeTask 0 (.ok 1),
      .dataReceived (Pdu.encode ⟨.bind_transceiver_resp, esmeRok, 1⟩ ++
        Pdu.encode ⟨.deliver_sm, esmeRok, 7⟩), .resumeHandler (.ok 1)]
    let after := (run headerCollaborators (Session.init .transmitter) events).getD
      (Session.init .transmitter)
    run headerCollaborators (Session.init .transmitter) events = some after ∧
      Role.transmitter.Reaches after.state ∧ ∀ pdu ∈ after.written,
        Role.transmitter.Reaches pdu.state ∧
          (pdu.commandId = .deliver_sm_resp → pdu.state.canReceive) :=
  ⟨rfl, run_states_reached headerCollaborators .transmitter [.connectionMade, .resumeTask 0 (.ok 1),
    .dataReceived (Pdu.encode ⟨.bind_transceiver_resp, esmeRok, 1⟩ ++
      Pdu.encode ⟨.deliver_sm, esmeRok, 7⟩), .resumeHandler (.ok 1)] _ rfl⟩

/-- An `EsmeTransmitter` acknowledges a `deliver_sm` only in `BOUND_TRX`, which only the
inherited `handle_bind_transceiver_resp` sets. -/
theorem transmitter_acks_only_in_bound_trx (env : Collaborators) (events : List Event)
    (after : Session) (ran : run env (Session.init .transmitter) events = some after) :
    ∀ pdu ∈ after.written, pdu.commandId = .deliver_sm_resp → pdu.state = .BOUND_TRX := by
  intro pdu mem ack
  let sound := (Sound.init .transmitter).run ran
  have reaches := sound.written pdu mem
  have receives := sound.acks pdu mem ack
  rcases reaches with state | state | state | state <;>
    simp_all [SmppState.canReceive, Role.connectedState]

/-- The same transmitter acknowledges the `deliver_sm`, in `BOUND_TRX`. -/
theorem transmitter_acks_only_in_bound_trx_after_bind_transceiver_resp :
    let events : List Event := [.connectionMade, .resumeTask 0 (.ok 1),
      .dataReceived (Pdu.encode ⟨.bind_transceiver_resp, esmeRok, 1⟩ ++
        Pdu.encode ⟨.deliver_sm, esmeRok, 7⟩), .resumeHandler (.ok 1)]
    let after := (run headerCollaborators (Session.init .transmitter) events).getD
      (Session.init .transmitter)
    run headerCollaborators (Session.init .transmitter) events = some after ∧
      ∀ pdu ∈ after.written, pdu.commandId = .deliver_sm_resp → pdu.state = .BOUND_TRX :=
  ⟨rfl, transmitter_acks_only_in_bound_trx headerCollaborators [.connectionMade, .resumeTask 0 (.ok 1),
    .dataReceived (Pdu.encode ⟨.bind_transceiver_resp, esmeRok, 1⟩ ++
      Pdu.encode ⟨.deliver_sm, esmeRok, 7⟩), .resumeHandler (.ok 1)] _ rfl⟩

/-- Once `connectionMade` has written the bind PDU, an open session that is not bound has its
bind timeout pending or has told the transport to close. -/
theorem run_bind_guarded (env : Collaborators) (role : Role) (events : List Event)
    (after : Session) (ran : run env (Session.init role) events = some after)
    (made : after.connection = .made) (bind : after.BindWritten) :
    after.state.isBound ∨ after.BindPending ∨ after.loseConnectionCalled :=
  ((Sound.init role).run ran).guarded made bind

/-- A transceiver that has written its bind and heard nothing back. -/
theorem run_bind_guarded_unanswered :
    let events : List Event := [.connectionMade, .resumeTask 0 (.ok 1)]
    let after := (run headerCollaborators (Session.init .transceiver) events).getD
      (Session.init .transceiver)
    run headerCollaborators (Session.init .transceiver) events = some after ∧
      after.connection = .made ∧ after.BindWritten ∧
      (after.state.isBound ∨ after.BindPending ∨ after.loseConnectionCalled) :=
  ⟨rfl, rfl, ⟨⟨.bind_transceiver, 1, .OPEN⟩, by decide, rfl⟩, run_bind_guarded headerCollaborators
    .transceiver [.connectionMade, .resumeTask 0 (.ok 1)] _ rfl rfl
    ⟨⟨.bind_transceiver, 1, .OPEN⟩, by decide, rfl⟩⟩

/-! ## What the code leaves open -/

/-- The calls the transport makes. -/
def Event.fromTransport : Event → Bool
  | .connectionMade | .connectionLost | .dataReceived _ => true
  | _ => false

/-- Without a call from the transport, an open session with nothing pending stays as it is. -/
theorem step_open_idle {env : Collaborators} {role : Role} {event : Event} {after : Session}
    (quiet : event.fromTransport = false)
    (stepped : step env { Session.init role with connection := .made, state := .OPEN } event =
      some after) :
    after = { Session.init role with connection := .made, state := .OPEN } := by
  cases event <;> simp [Event.fromTransport] at quiet <;>
    simp [step, bindTimeout, querySm, Session.init, SmppState.canTransmit] at stepped ⊢
  exact stepped.symm

/-- Without a call from the transport, such a session stays as it is for the whole run. -/
theorem run_open_idle {env : Collaborators} {role : Role} {events : List Event}
    {after : Session} (quiet : ∀ event ∈ events, event.fromTransport = false)
    (ran : run env { Session.init role with connection := .made, state := .OPEN } events =
      some after) :
    after = { Session.init role with connection := .made, state := .OPEN } := by
  induction events with
  | nil => exact (Option.some.inj ran).symm
  | cons event events ih =>
    obtain ⟨next, stepped, rest⟩ := Option.bind_eq_some.1 ran
    obtain rfl := step_open_idle (quiet event (.head _)) stepped
    exact ih (fun other mem => quiet other (.tail _ mem)) rest

/-- When the sequence number `connectionMade` waits on fails, the session stays `OPEN`, with no
bind timeout armed and the transport not told to close, for as long as the transport does not
call it again. -/
theorem connectionMade_seq_failure_strands_session (env : Collaborators) (role : Role) :
    run env (Session.init role) [.connectionMade, .resumeTask 0 .failed] =
      some { Session.init role with connection := .made, state := .OPEN } ∧
    ∀ events, (∀ event ∈ events, event.fromTransport = false) →
      ∀ after ∈ run env (Session.init role) ([.connectionMade, .resumeTask 0 .failed] ++ events),
        after.state = .OPEN ∧ after.loseConn = none ∧ after.loseConnectionCalled = false := by
  refine (and_iff_left_of_imp fun failed events quiet after ran => ?_).2 rfl
  rw [Option.mem_def, run_append, failed, Option.some_bind] at ran
  rw [run_open_idle quiet ran]
  exact ⟨rfl, rfl, rfl⟩

/-- A session loses its connection while `connectionMade` waits for its sequence number and a
bind response waits behind a `submit_sm_resp`: after the loss the bind PDU is written and the
bind timeout armed, and the bind response, handled next, takes the session from `CLOSED` to
`BOUND_TRX`, starts a running loop and calls `connect`. -/
theorem connectionLost_leaves_work_to_resume :
    (run headerCollaborators (Session.init .transceiver)
        [.connectionMade,
          .dataReceived (Pdu.encode ⟨.submit_sm_resp, esmeRok, 5⟩ ++
            Pdu.encode ⟨.bind_transceiver_resp, esmeRok, 1⟩),
          .connectionLost, .resumeTask 0 (.ok 1)]).map
        (fun session => (session.connection, session.state, session.loseConn, session.written)) =
      some (.lost, .CLOSED, some ⟨.BOUND_TRX, false⟩, [⟨.bind_transceiver, 1, .CLOSED⟩]) ∧
    (run headerCollaborators (Session.init .transceiver)
        [.connectionMade,
          .dataReceived (Pdu.encode ⟨.submit_sm_resp, esmeRok, 5⟩ ++
            Pdu.encode ⟨.bind_transceiver_resp, esmeRok, 1⟩),
          .connectionLost, .resumeTask 0 (.ok 1), .resumeHandler (.ok 1),
          .resumeHandler (.ok 1), .resumeHandler (.ok 1)]).map (fun session =>
        (session.connection, session.state, session.loops, session.connects)) =
      some (.lost, .BOUND_TRX, [⟨true, true⟩], 1) := by
  decide

/-- Two bind responses with `ESME_ROK` on one connection: `connect` is called twice and two
loops run at once; `connectionLost` then stops only the second. -/
theorem bindResp_twice_runs_two_loops :
    (run headerCollaborators (Session.init .transceiver)
        [.connectionMade, .resumeTask 0 (.ok 1),
          .dataReceived (Pdu.encode ⟨.bind_transceiver_resp, esmeRok, 1⟩ ++
            Pdu.encode ⟨.bind_transceiver_resp, esmeRok, 2⟩),
          .resumeHandler (.ok 1)]).map (fun session => (session.connects, session.loops)) =
      some (2, [⟨true, true⟩, ⟨true, true⟩]) ∧
    (run headerCollaborators (Session.init .transceiver)
        [.connectionMade, .resumeTask 0 (.ok 1),
          .dataReceived (Pdu.encode ⟨.bind_transceiver_resp, esmeRok, 1⟩ ++
            Pdu.encode ⟨.bind_transceiver_resp, esmeRok, 2⟩),
          .resumeHandler (.ok 1), .connectionLost]).map
        (fun session => (session.connects, session.loops)) =
      some (2, [⟨true, true⟩, ⟨false, true⟩]) := by
  decide

/-- An `EsmeTransmitter` given a `bind_transceiver_resp` with `ESME_ROK` enters `BOUND_TRX`, not
its own `BOUND_TX`, and then acknowledges a `deliver_sm`. -/
theorem transmitter_bound_as_transceiver :
    (run headerCollaborators (Session.init .transmitter)
        [.connectionMade, .resumeTask 0 (.ok 1),
          .dataReceived (Pdu.encode ⟨.bind_transceiver_resp, esmeRok, 1⟩ ++
            Pdu.encode ⟨.deliver_sm, esmeRok, 7⟩),
          .resumeHandler (.ok 1)]).map (fun session => (session.state, session.written)) =
      some (.BOUND_TRX, [⟨.bind_transmitter, 1, .OPEN⟩, ⟨.deliver_sm_resp, 7, .BOUND_TRX⟩]) := by
  decide

end VumiSmpp.Client

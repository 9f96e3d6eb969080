import VumiSmpp.Session.Answers
import VumiSmpp.Session.Lifecycle

/-!
# One bind per connection

Only `connectionMade` writes a bind PDU, the class's `BIND_PDU`, once its sequence number has
arrived, and the transport calls it once. So over every run the session writes at most one
bind PDU, and only its class's: a repeated or unsolicited bind response starts another
enquire-link loop, but no handler, loop or call of the application writes a bind.
-/

namespace VumiSmpp.Client

/-- The bind requests. -/
def CommandId.isBind : CommandId → Bool
  | .bind_transceiver | .bind_transmitter | .bind_receiver => true
  | _ => false

/-- The binds a session has written or may still write: the bind PDUs written, a
`connectionMade` waiting for its sequence number, and `connectionMade` itself while the
transport has not called it. -/
def Session.binds (session : Session) : Nat :=
  session.written.countP (·.commandId.isBind) + session.tasks.count .connectionMade +
    if session.connection = .fresh then 1 else 0

/-- At most one bind, written or to come, and only the class's. -/
structure BindOnce (session : Session) : Prop where
  /-- One bind at most, written or to come. -/
  atMostOne : session.binds ≤ 1
  /-- A bind written is the class's. -/
  ofClass : ∀ pdu ∈ session.written, pdu.commandId.isBind →
    pdu.commandId = session.role.bindPdu

/-- Resuming a suspended coroutine removes one of its kind from those suspended. -/
theorem count_eraseIdx {tasks : List Task} {index : Nat} {task : Task}
    (found : tasks[index]? = some task) (other : Task) :
    tasks.count other = (tasks.eraseIdx index).count other + if task = other then 1 else 0 := by
  obtain ⟨bound, rfl⟩ := List.getElem?_eq_some_iff.1 found
  conv_lhs => rw [← List.take_append_drop index tasks, List.drop_eq_getElem_cons bound]
  rw [List.eraseIdx_eq_take_drop_succ, List.count_append, List.count_append, List.count_cons]
  simp only [beq_iff_eq]
  omega

/-! ## What the consumer does to the binds -/

/-- `enquire_link` suspends no `connectionMade`. -/
theorem enquireLink_connectionMade (loop : Nat) (session : Session) :
    (enquireLink loop session).tasks.count .connectionMade =
      session.tasks.count .connectionMade := by
  unfold enquireLink
  split <;> simp

/-- `start_enquire_link` suspends no `connectionMade`. -/
theorem startEnquireLink_connectionMade (session : Session) :
    (startEnquireLink session).1.tasks.count .connectionMade =
      session.tasks.count .connectionMade := by
  have started := enquireLink_connectionMade session.loops.length
    { session with loops := session.loops ++ [⟨true, false⟩] }
  obtain ⟨_, cancelled, -⟩ := cancelDropConnectionCall_eq <| enquireLink session.loops.length
    { session with loops := session.loops ++ [⟨true, false⟩] }
  unfold startEnquireLink
  dsimp only
  split <;> rename_i result <;> rw [result] at cancelled <;> subst cancelled <;> exact started

/-- A bind response handler suspends no `connectionMade`. -/
theorem handleBindResp_connectionMade (bound : SmppState) (pdu : Pdu) (session : Session) :
    (handleBindResp bound pdu session).1.tasks.count .connectionMade =
      session.tasks.count .connectionMade := by
  unfold handleBindResp
  split
  · have started := startEnquireLink_connectionMade { session with state := bound }
    split <;> rename_i result <;> rw [result] at started <;> exact started
  · rfl

/-- The handler `handle_data` picks suspends no `connectionMade`. -/
theorem handler_connectionMade (role : Role) (pdu : Pdu) (session : Session) :
    ((role.handler pdu.commandId).run pdu session).1.tasks.count .connectionMade =
      session.tasks.count .connectionMade := by
  cases role.handler pdu.commandId
  case handle_bind_transceiver_resp | handle_bind_transmitter_resp
    | handle_bind_receiver_resp => exact handleBindResp_connectionMade _ pdu session
  case handle_deliver_sm =>
    simp only [Handler.run, handleDeliverSm]
    split_ifs <;> rfl
  case handle_enquire_link =>
    simp only [Handler.run, handleEnquireLink]
    split_ifs <;> rfl
  all_goals rfl

/-- No answer is a bind. -/
theorem answer_not_bind (state : SmppState) (pdu : Pdu) :
    (answer state pdu).toList.countP (·.commandId.isBind) = 0 := by
  unfold answer
  split <;> (try split_ifs) <;> rfl

/-- `handle_data` writes no bind and suspends no `connectionMade`. -/
theorem handleData_binds (env : Collaborators) (data : Bytes) (session : Session) :
    (handleData env data session).1.binds = session.binds ∧
      (handleData env data session).1.role = session.role ∧
      ∀ pdu ∈ (handleData env data session).1.written, pdu.commandId.isBind →
        pdu ∈ session.written := by
  have written := handleData_written env data session
  have connection := handleData_connection env data session
  have tasks : (handleData env data session).1.tasks.count .connectionMade =
      session.tasks.count .connectionMade := by
    unfold handleData
    split
    · rfl
    · exact handler_connectionMade _ _ _
  have unanswered : ((env.unpackPdu data).bind (answer session.state)).toList.countP
      (·.commandId.isBind) = 0 := by
    cases env.unpackPdu data with
    | none => rfl
    | some pdu => exact answer_not_bind session.state pdu
  refine ⟨?_, handleData_role env data session, fun pdu mem bind => ?_⟩
  · rw [Session.binds, Session.binds, written, connection, tasks, List.countP_append, unanswered,
      Nat.add_zero]
  · rw [written, List.mem_append] at mem
    refine mem.resolve_right fun answered => ?_
    have bound : 0 < ((env.unpackPdu data).bind (answer session.state)).toList.countP
        (·.commandId.isBind) := List.countP_pos_iff.2 ⟨pdu, answered, bind⟩
    omega

/-! ## Every run -/

/-- The class's bind PDU is a bind. -/
theorem Role.bindPdu_isBind (role : Role) : role.bindPdu.isBind = true := by
  cases role <;> rfl

namespace BindOnce

variable {session : Session}

/-- A new session may still bind once. -/
theorem init (role : Role) : BindOnce (Session.init role) :=
  ⟨Nat.le_of_eq rfl, fun _ none => absurd none (List.not_mem_nil _)⟩

/-- A session with no more binds, the same writes and the same class keeps the invariant. -/
theorem of_binds (once : BindOnce session) {after : Session}
    (binds : after.binds ≤ session.binds) (written : after.written = session.written)
    (role : after.role = session.role) : BindOnce after :=
  ⟨binds.trans once.atMostOne, fun pdu mem bind =>
    role ▸ once.ofClass pdu (written ▸ mem) bind⟩

/-- Writing a PDU other than a bind keeps the invariant. -/
theorem sendPdu (once : BindOnce session) {commandId : CommandId}
    (other : commandId.isBind = false) (sequenceNumber : Nat) :
    BindOnce (sendPdu commandId sequenceNumber session) := by
  refine ⟨by simpa [Session.binds, Client.sendPdu, other] using once.atMostOne, ?_⟩
  simp only [Client.sendPdu, List.mem_append, List.mem_singleton]
  rintro pdu (old | rfl) bind
  exacts [once.ofClass pdu old bind, absurd bind (by simp [other])]

/-- The consumer keeps the invariant. -/
theorem handled (env : Collaborators) : Handled env BindOnce where
  bookkeeping _ _ _ _ _ once := ⟨once.atMostOne, once.ofClass⟩
  handleData data session once := by
    obtain ⟨binds, role, older⟩ := handleData_binds env data session
    exact ⟨binds ▸ once.atMostOne,
      fun pdu mem bind => role ▸ once.ofClass pdu (older pdu mem bind) bind⟩

/-- Every step keeps the invariant. -/
theorem step (once : BindOnce session) {env : Collaborators} {event : Event} {after : Session}
    (stepped : Client.step env session event = some after) : BindOnce after := by
  rcases step_eq_some stepped with ⟨-, fresh, rfl⟩ | ⟨-, made, rfl⟩ |
    ⟨data, -, -, received⟩ | ⟨index, outcome, task, -, found, rfl⟩ |
    ⟨_, _, -, -, rfl⟩ | ⟨-, fired⟩ | ⟨loop, -, -, rfl⟩ | ⟨-, rfl⟩
  · exact once.of_binds (by simp [Session.binds, connectionMade, fresh]; omega) rfl rfl
  · obtain ⟨_, _, _, lost, -⟩ := connectionLost_eq session
    rw [lost]
    exact once.of_binds (by simp [Session.binds, made]) rfl rfl
  · exact (handled env).dataReceived received once
  · have erased := count_eraseIdx found .connectionMade
    have resumed : BindOnce { session with tasks := session.tasks.eraseIdx index } := by
      refine once.of_binds ?_ rfl rfl
      unfold Session.binds
      dsimp only
      omega
    cases task <;> cases outcome
    case connectionMade.ok sequenceNumber =>
      refine ⟨?_, ?_⟩
      · have := once.atMostOne
        unfold Session.binds at this ⊢
        dsimp only [resumeTask, scheduleLoseConnection, Client.sendPdu]
        rw [List.countP_append, List.countP_singleton, Role.bindPdu_isBind, if_pos rfl]
        simp only [if_pos] at erased
        omega
      · simp only [resumeTask, scheduleLoseConnection, Client.sendPdu, List.mem_append,
          List.mem_singleton]
        rintro pdu (old | rfl) bind
        exacts [once.ofClass pdu old bind, rfl]
    case enquireLink.ok sequenceNumber =>
      exact (@BindOnce.sendPdu _ resumed .enquire_link rfl sequenceNumber).of_binds
        (Nat.le_of_eq rfl) rfl rfl
    case querySm.ok sequenceNumber => exact @BindOnce.sendPdu _ resumed .query_sm rfl sequenceNumber
    all_goals exact resumed.of_binds (Nat.le_of_eq rfl) rfl rfl
  · exact (handled env).settle _ once
  · unfold bindTimeout at fired
    split at fired <;> cases fired
    unfold loseUnboundConnection
    split <;> exact once.of_binds (Nat.le_of_eq rfl) rfl rfl
  · obtain ⟨_, _, ticked⟩ := enquireLink_eq loop session
    have count := enquireLink_connectionMade loop session
    rw [ticked] at count ⊢
    exact once.of_binds (by simp only [Session.binds, count]; rfl) rfl rfl
  · unfold querySm
    split
    · exact once.of_binds (by simp [Session.binds]) rfl rfl
    · exact once

end BindOnce

/-- In every run the session writes at most one bind PDU, and only its class's `BIND_PDU`. -/
theorem run_binds_once (env : Collaborators) (role : Role) (events : List Event)
    (after : Session) (ran : run env (Session.init role) events = some after) :
    after.written.countP (·.commandId.isBind) ≤ 1 ∧
      ∀ pdu ∈ after.written, pdu.commandId.isBind → pdu.commandId = role.bindPdu := by
  have once := run_keeps (fun once stepped => BindOnce.step once stepped) (BindOnce.init role) ran
  have role_eq : after.role = role := ((Sound.init role).run ran).ofRole
  refine ⟨?_, fun pdu mem bind => role_eq ▸ once.ofClass pdu mem bind⟩
  have := once.atMostOne
  unfold Session.binds at this
  omega

/-- A transceiver given two bind responses with `ESME_ROK`. -/
theorem run_binds_once_two_responses :
    let events : List Event := [.connectionMade, .resumeTask 0 (.ok 1),
      .dataReceived (Pdu.encode ⟨.bind_transceiver_resp, esmeRok, 1⟩ ++
        Pdu.encode ⟨.bind_transceiver_resp, esmeRok, 2⟩), .resumeHandler (.ok 1)]
    let after := (run headerCollaborators (Session.init .transceiver) events).getD
      (Session.init .transceiver)
    run headerCollaborators (Session.init .transceiver) events = some after ∧
      after.written.countP (·.commandId.isBind) ≤ 1 ∧
      ∀ pdu ∈ after.written, pdu.commandId.isBind → pdu.commandId = Role.transceiver.bindPdu :=
  ⟨rfl, run_binds_once headerCollaborators .transceiver [.connectionMade, .resumeTask 0 (.ok 1),
    .dataReceived (Pdu.encode ⟨.bind_transceiver_resp, esmeRok, 1⟩ ++
      Pdu.encode ⟨.bind_transceiver_resp, esmeRok, 2⟩), .resumeHandler (.ok 1)] _ rfl⟩

/-- Two bind responses with `ESME_ROK` start two loops, and the session still wrote one bind. -/
example : (run headerCollaborators (Session.init .transceiver)
    [.connectionMade, .resumeTask 0 (.ok 1),
      .dataReceived (Pdu.encode ⟨.bind_transceiver_resp, esmeRok, 1⟩ ++
        Pdu.encode ⟨.bind_transceiver_resp, esmeRok, 2⟩),
      .resumeHandler (.ok 1)]).map
    (fun session => (session.loops.length, session.written.countP (·.commandId.isBind))) =
      some (2, 1) := by
  decide

end VumiSmpp.Client

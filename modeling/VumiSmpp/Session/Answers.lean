import VumiSmpp.Session.Dispatch

/-!
# The answers the ESME owes the SMSC

Three handlers answer a request of the SMSC: `handle_unbind` writes an `unbind_resp`,
`handle_enquire_link` an `enquire_link_resp` to an `enquire_link` with `ESME_ROK`, and
`handle_deliver_sm` a `deliver_sm_resp` to a `deliver_sm` with `ESME_ROK` while the session may
receive. Each echoes the request's sequence number, and nothing else the session writes is one
of these commands. So over every run the `unbind_resp`s and `enquire_link_resp`s on the
transport answer, in order and once each, the `unbind`s and the `enquire_link`s with
`ESME_ROK` handed to `handle_data`, and the `deliver_sm_resp`s answer, in order and at most
once each, some of its `deliver_sm`s with `ESME_ROK`: no answer is written unasked, and none
twice.
-/

namespace VumiSmpp.Client

/-- The answer a handler writes at once to a PDU handed to it in a state: an `unbind_resp` to
an `unbind`, an `enquire_link_resp` to an `enquire_link` with `ESME_ROK`, a `deliver_sm_resp`
to a `deliver_sm` with `ESME_ROK` in a state that may receive, each with the request's
sequence number; nothing to any other PDU. -/
def answer (state : SmppState) (pdu : Pdu) : Option Written :=
  match pdu.commandId with
  | .unbind => some ⟨.unbind_resp, pdu.sequenceNumber, state⟩
  | .enquire_link =>
    if pdu.commandStatus = esmeRok then some ⟨.enquire_link_resp, pdu.sequenceNumber, state⟩
    else none
  | .deliver_sm =>
    if state.canReceive ∧ pdu.commandStatus = esmeRok then
      some ⟨.deliver_sm_resp, pdu.sequenceNumber, state⟩
    else none
  | _ => none

/-- The sequence numbers of the PDUs of a command written, in order. -/
def Session.sent (commandId : CommandId) (session : Session) : List Nat :=
  (session.written.filter (·.commandId = commandId)).map (·.sequenceNumber)

/-- The sequence numbers of the frames handed to `handle_data` that unpack to a PDU the test
accepts, in order. -/
def Session.asked (env : Collaborators) (request : Pdu → Bool) (session : Session) :
    List Nat :=
  ((session.handled.filterMap env.unpackPdu).filter request).map (·.sequenceNumber)

/-! ## One handler call -/

/-- The handler `handle_data` picks for a PDU writes the answer owed to it, and nothing else. -/
theorem handler_written (role : Role) (pdu : Pdu) (session : Session) :
    ((role.handler pdu.commandId).run pdu session).1.written =
      session.written ++ (answer session.state pdu).toList := by
  have bindResp : ∀ bound, (handleBindResp bound pdu session).1.written = session.written :=
    fun bound => by
      rcases handleBindResp_eq bound pdu session with same | ⟨_, _, _, _, started, -⟩
      · rw [same]
      · rw [started]
  obtain ⟨commandId, status, sequenceNumber⟩ := pdu
  cases commandId
  case unbind => rfl
  case enquire_link =>
    simp only [Role.handler, Handler.run, handleEnquireLink, answer]
    split_ifs
    · rfl
    · exact (List.append_nil _).symm
  case deliver_sm =>
    simp only [Role.handler, Handler.run, handleDeliverSm, answer]
    split_ifs <;> simp_all [sendPdu]
  case bind_transceiver_resp => exact (bindResp _).trans (List.append_nil _).symm
  case bind_transmitter_resp | bind_receiver_resp =>
    simp only [Role.handler, answer]
    split
    · exact (bindResp _).trans (List.append_nil _).symm
    · exact (List.append_nil _).symm
  all_goals exact (List.append_nil _).symm

/-- `handle_data` writes the answer owed to the PDU the frame unpacks to, if any. -/
theorem handleData_written (env : Collaborators) (data : Bytes) (session : Session) :
    (handleData env data session).1.written =
      session.written ++ ((env.unpackPdu data).bind (answer session.state)).toList := by
  unfold handleData
  dsimp only
  split
  · rename_i rejected
    simp [rejected]
  · rename_i pdu found
    rw [handler_written, found]
    rfl

/-- `handle_data` adds to the answers of a command written those owed to the frame's PDU, and
to the requests asked the frame's PDU if the test accepts it. -/
theorem handleData_sent_asked (env : Collaborators) (data : Bytes) (session : Session)
    (commandId : CommandId) (request : Pdu → Bool) :
    (handleData env data session).1.sent commandId = session.sent commandId ++
        ((((env.unpackPdu data).bind (answer session.state)).toList.filter
          (·.commandId = commandId)).map (·.sequenceNumber)) ∧
      (handleData env data session).1.asked env request = session.asked env request ++
        (((env.unpackPdu data).toList.filter request).map (·.sequenceNumber)) := by
  have handled : (handleData env data session).1.handled = session.handled ++ [data] :=
    congrArg Prod.fst (handleData_queue env data session)
  constructor
  · simp only [Session.sent, handleData_written, List.filter_append, List.map_append]
  · cases found : env.unpackPdu data <;> simp [Session.asked, handled, found]

/-- A relation between the answers of a command written and the requests a test accepts,
which appending keeps and which holds of the answer owed to each PDU, is kept by
`handle_data`. -/
theorem handleData_keeps {env : Collaborators} {commandId : CommandId} {request : Pdu → Bool}
    {relation : List Nat → List Nat → Prop}
    (append : ∀ {sent asked more owed}, relation sent asked → relation more owed →
      relation (sent ++ more) (asked ++ owed))
    (empty : relation [] [])
    (owes : ∀ state pdu, relation
      (((answer state pdu).toList.filter (·.commandId = commandId)).map (·.sequenceNumber))
      (([pdu].filter request).map (·.sequenceNumber)))
    (data : Bytes) (session : Session)
    (kept : relation (session.sent commandId) (session.asked env request)) :
    relation ((handleData env data session).1.sent commandId)
      ((handleData env data session).1.asked env request) := by
  obtain ⟨sent, asked⟩ := handleData_sent_asked env data session commandId request
  rw [sent, asked]
  refine append kept ?_
  cases env.unpackPdu data with
  | none => exact empty
  | some pdu => exact owes session.state pdu

/-- An event outside the consumer writes no answer. -/
theorem Aside.sent {session after : Session} (aside : Aside session after)
    {commandId : CommandId} (answering : commandId = .unbind_resp ∨
      commandId = .enquire_link_resp ∨ commandId = .deliver_sm_resp) :
    after.sent commandId = session.sent commandId := by
  obtain ⟨more, written, others⟩ := aside.written
  have apart : ∀ pdu ∈ more, pdu.commandId ≠ commandId := fun pdu mem same => by
    rcases others pdu mem with other | other | other <;> rw [← same, other] at answering <;>
      revert answering <;> cases session.role <;> decide
  have unanswered : more.filter (·.commandId = commandId) = [] :=
    List.filter_eq_nil_iff.2 fun pdu mem => by simpa using apart pdu mem
  simp [Session.sent, written, unanswered]

/-- An event outside the consumer hands no request to `handle_data`. -/
theorem Aside.asked {session after : Session} (aside : Aside session after)
    (env : Collaborators) (request : Pdu → Bool) :
    after.asked env request = session.asked env request := by
  unfold Session.asked
  rw [aside.handled]

/-- Read per command, the answer owed to a PDU is: an `unbind_resp` to an `unbind`, an
`enquire_link_resp` to an `enquire_link` with `ESME_ROK`, and at most a `deliver_sm_resp` to a
`deliver_sm` with `ESME_ROK`, with its sequence number. -/
theorem answer_owed (state : SmppState) (pdu : Pdu) :
    ((answer state pdu).toList.filter (·.commandId = .unbind_resp)).map (·.sequenceNumber) =
        ([pdu].filter (·.commandId = .unbind)).map (·.sequenceNumber) ∧
      ((answer state pdu).toList.filter (·.commandId = .enquire_link_resp)).map
          (·.sequenceNumber) =
        ([pdu].filter fun pdu => pdu.commandId = .enquire_link ∧ pdu.commandStatus = esmeRok).map
          (·.sequenceNumber) ∧
      (((answer state pdu).toList.filter (·.commandId = .deliver_sm_resp)).map
          (·.sequenceNumber)).Sublist
        (([pdu].filter fun pdu => pdu.commandId = .deliver_sm ∧ pdu.commandStatus = esmeRok).map
          (·.sequenceNumber)) := by
  obtain ⟨commandId, status, sequenceNumber⟩ := pdu
  cases commandId
  case enquire_link | deliver_sm =>
    simp only [answer]
    split_ifs <;> simp_all
  all_goals simp [answer]

/-! ## Every run -/

/-- The answers written match the requests handled: the `unbind_resp`s are the `unbind`s, the
`enquire_link_resp`s the `enquire_link`s with `ESME_ROK`, and the `deliver_sm_resp`s some of
the `deliver_sm`s with `ESME_ROK`, by sequence number and in order. -/
structure Answered (env : Collaborators) (session : Session) : Prop where
  /-- Every `unbind` is answered once. -/
  unbind : session.sent .unbind_resp = session.asked env (·.commandId = .unbind)
  /-- Every `enquire_link` with `ESME_ROK` is answered once. -/
  enquireLink : session.sent .enquire_link_resp =
    session.asked env fun pdu => pdu.commandId = .enquire_link ∧ pdu.commandStatus = esmeRok
  /-- A `deliver_sm` with `ESME_ROK` is answered at most once, and no other PDU is. -/
  deliverSm : (session.sent .deliver_sm_resp).Sublist
    (session.asked env fun pdu => pdu.commandId = .deliver_sm ∧ pdu.commandStatus = esmeRok)

namespace Answered

variable {env : Collaborators} {session : Session}

/-- The consumer keeps the answers matched. -/
theorem handled (env : Collaborators) : Handled env (Answered env) where
  bookkeeping _ _ _ _ _ answered := ⟨answered.unbind, answered.enquireLink, answered.deliverSm⟩
  handleData data session answered :=
    ⟨handleData_keeps (congrArg₂ (· ++ ·)) rfl (fun state pdu => (answer_owed state pdu).1)
        data session answered.unbind,
      handleData_keeps (congrArg₂ (· ++ ·)) rfl (fun state pdu => (answer_owed state pdu).2.1)
        data session answered.enquireLink,
      handleData_keeps List.Sublist.append (List.Sublist.refl _)
        (fun state pdu => (answer_owed state pdu).2.2) data session answered.deliverSm⟩

/-- Every step keeps the answers matched. -/
theorem step (answered : Answered env session) {event : Event} {after : Session}
    (stepped : Client.step env session event = some after) : Answered env after := by
  rcases step_aside stepped with aside | ⟨data, received⟩ | ⟨_, _, -, rfl⟩
  · refine ⟨?_, ?_, ?_⟩ <;> rw [aside.sent (by decide), aside.asked]
    exacts [answered.unbind, answered.enquireLink, answered.deliverSm]
  · exact (handled env).dataReceived received answered
  · exact (handled env).settle _ answered

/-- A fresh session has written no answer and been asked nothing. -/
theorem init (role : Role) : Answered env (Session.init role) := ⟨rfl, rfl, .slnil⟩

/-- Every run from a fresh session keeps the answers matched. -/
theorem run {role : Role} {events : List Event} {after : Session}
    (ran : Client.run env (Session.init role) events = some after) : Answered env after :=
  run_keeps (fun answered stepped => step answered stepped) (init role) ran

end Answered

/-- In every run the ESME answers, by sequence number and in order, each `unbind` and each
`enquire_link` with `ESME_ROK` handed to `handle_data` once, and some of its `deliver_sm`s
with `ESME_ROK` at most once; it writes no `unbind_resp`, `enquire_link_resp` or
`deliver_sm_resp` unasked. -/
theorem run_answers (env : Collaborators) (role : Role) (events : List Event) (after : Session)
    (ran : run env (Session.init role) events = some after) :
    after.sent .unbind_resp = after.asked env (·.commandId = .unbind) ∧
      after.sent .enquire_link_resp =
        after.asked env (fun pdu => pdu.commandId = .enquire_link ∧
          pdu.commandStatus = esmeRok) ∧
      (after.sent .deliver_sm_resp).Sublist
        (after.asked env fun pdu => pdu.commandId = .deliver_sm ∧ pdu.commandStatus = esmeRok) :=
  let answered := Answered.run ran
  ⟨answered.unbind, answered.enquireLink, answered.deliverSm⟩

/-- A transceiver handed an `unbind` and an `enquire_link` in one chunk. -/
theorem run_answers_unbind_and_enquireLink :
    let events : List Event := [.connectionMade, .resumeTask 0 (.ok 1),
      .dataReceived (Pdu.encode ⟨.unbind, esmeRok, 5⟩ ++ Pdu.encode ⟨.enquire_link, esmeRok, 6⟩)]
    let after := (run headerCollaborators (Session.init .transceiver) events).getD
      (Session.init .transceiver)
    run headerCollaborators (Session.init .transceiver) events = some after ∧
      after.sent .unbind_resp = after.asked headerCollaborators (·.commandId = .unbind) ∧
      after.sent .enquire_link_resp =
        after.asked headerCollaborators (fun pdu => pdu.commandId = .enquire_link ∧
          pdu.commandStatus = esmeRok) ∧
      (after.sent .deliver_sm_resp).Sublist (after.asked headerCollaborators fun pdu =>
        pdu.commandId = .deliver_sm ∧ pdu.commandStatus = esmeRok) :=
  ⟨rfl, run_answers headerCollaborators .transceiver [.connectionMade, .resumeTask 0 (.ok 1),
    .dataReceived (Pdu.encode ⟨.unbind, esmeRok, 5⟩ ++ Pdu.encode ⟨.enquire_link, esmeRok, 6⟩)]
    _ rfl⟩

/-- A transceiver that has written its bind answers an `enquire_link` and an `unbind` handed to
it in one chunk. -/
example : (run headerCollaborators (Session.init .transceiver)
    [.connectionMade, .resumeTask 0 (.ok 1),
      .dataReceived
        (Pdu.encode ⟨.enquire_link, esmeRok, 3⟩ ++ Pdu.encode ⟨.unbind, esmeRok, 4⟩)]
    ).map (fun session => (session.sent .enquire_link_resp, session.sent .unbind_resp)) =
      some ([3], [4]) := by
  decide

end VumiSmpp.Client

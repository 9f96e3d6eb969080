import VumiSmpp.Session.Answers

/-!
# The numbers the ESME's requests carry

The ESME numbers its own requests, the bind, `enquire_link` and `query_sm`, with
`get_next_seq`: each is written by the coroutine that awaited the call, with the number the
call returned. Every other PDU it writes answers the SMSC with the SMSC's number. So over every
run the numbers of the requests written are, in order and once each, the numbers the
`get_next_seq` calls handed to the session's suspended coroutines (`run_numbers`): none is
made up, and none is used twice.
-/

namespace VumiSmpp.Client

/-- The commands the ESME numbers with `get_next_seq`: the binds, `enquire_link` and
`query_sm`. -/
def CommandId.numbered : CommandId → Bool
  | .bind_transceiver | .bind_transmitter | .bind_receiver | .enquire_link | .query_sm => true
  | _ => false

/-- The sequence numbers of the requests written, in order. -/
def Session.numbers (session : Session) : List Nat :=
  (session.written.filter (·.commandId.numbered)).map (·.sequenceNumber)

/-- The number a `get_next_seq` call hands to a suspended coroutine at the event, if any. -/
def Event.taken : Event → Option Nat
  | .resumeTask _ (.ok seq) => some seq
  | _ => none

/-- Writing a PDU adds its number, if it is a request. -/
theorem numbers_sendPdu (commandId : CommandId) (sequenceNumber : Nat) (session : Session) :
    (sendPdu commandId sequenceNumber session).numbers =
      session.numbers ++ if commandId.numbered then [sequenceNumber] else [] := by
  unfold Session.numbers sendPdu
  split <;> simp_all

/-- The bind PDU of every class is a request. -/
@[simp] theorem Role.bindPdu_numbered (role : Role) : role.bindPdu.numbered = true := by
  cases role <;> rfl

/-- No answer is a request. -/
theorem answer_not_numbered (state : SmppState) (pdu : Pdu) :
    (answer state pdu).toList.filter (·.commandId.numbered) = [] := by
  unfold answer
  split <;> (try split) <;> rfl

/-- The consumer writes no request. -/
theorem numbers_handled (env : Collaborators) (numbers : List Nat) :
    Handled env (·.numbers = numbers) where
  bookkeeping _ _ _ _ _ kept := kept
  handleData data session kept := by
    rw [← kept, Session.numbers, Session.numbers, handleData_written, List.filter_append]
    cases env.unpackPdu data <;> simp [answer_not_numbered]

/-- One step adds to the requests' numbers the number it hands to a coroutine, if any. -/
theorem step_numbers {env : Collaborators} {session after : Session} {event : Event}
    (stepped : step env session event = some after) :
    after.numbers = session.numbers ++ event.taken.toList := by
  have kept : ∀ {next : Session}, next.written = session.written →
      next.numbers = session.numbers ++ [] := fun written => by
    rw [List.append_nil, Session.numbers, written, Session.numbers]
  rcases step_eq_some stepped with ⟨rfl, -, rfl⟩ | ⟨rfl, -, rfl⟩ | ⟨data, rfl, -, received⟩ |
    ⟨index, outcome, task, rfl, -, rfl⟩ | ⟨handlerStep, outcome, rfl, -, rfl⟩ |
    ⟨rfl, fired⟩ | ⟨loop, rfl, -, rfl⟩ | ⟨rfl, rfl⟩
  · exact kept rfl
  · obtain ⟨_, _, _, lost, -⟩ := connectionLost_eq session
    exact kept (by rw [lost])
  · exact ((numbers_handled env _).dataReceived received rfl).trans (List.append_nil _).symm
  · have erased : ({ session with tasks := session.tasks.eraseIdx index } : Session).numbers =
        session.numbers := rfl
    cases task <;> cases outcome
    case connectionMade.ok =>
      exact (numbers_sendPdu _ _ _).trans (by simp [erased, Event.taken])
    case enquireLink.ok | querySm.ok =>
      exact (numbers_sendPdu _ _ _).trans (by simp [erased, Event.taken, CommandId.numbered])
    all_goals exact kept rfl
  · exact ((numbers_handled env _).settle _ rfl).trans (List.append_nil _).symm
  · unfold bindTimeout at fired
    split at fired <;> cases fired
    unfold loseUnboundConnection loseConnection
    split <;> exact kept rfl
  · obtain ⟨_, _, ticked⟩ := enquireLink_eq loop session
    exact kept (by rw [ticked])
  · unfold querySm
    split <;> exact kept rfl

/-- Over a run, the requests written carry, in order, the numbers handed to the session's
coroutines at its events. -/
theorem run_numbers {env : Collaborators} {session after : Session} {events : List Event}
    (ran : run env session events = some after) :
    after.numbers = session.numbers ++ events.filterMap Event.taken := by
  induction events generalizing session with
  | nil =>
    cases ran
    exact (List.append_nil _).symm
  | cons event events ih =>
    obtain ⟨next, stepped, rest⟩ := Option.bind_eq_some.1 ran
    rw [ih rest, step_numbers stepped, List.filterMap_cons]
    cases event.taken <;> simp

end VumiSmpp.Client

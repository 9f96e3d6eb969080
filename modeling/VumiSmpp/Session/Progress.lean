import VumiSmpp.Session.Dispatch

/-!
# The consumer drains the queue while its calls succeed

A suspended handler waits on at most five `Deferred`s in turn: `handle_deliver_sm` on its five
processor stages, `handle_submit_sm_resp` on `LPOP`, `LLEN` and the `submit_sm_resp` callback,
a bind response on `connect`. So while every `Deferred` the consumer waits on fires with a
result, whatever the results are, `_process_pdu_queue` comes back to `get()` within five
resumes a pending frame, having handed every frame put on the queue to `handle_data`, unless
`handle_data` raises on one of them. Together with the end of the consumer at the first
exception, this says which frames are ever handled. Frames whose handler never waits
(`unbind`, `enquire_link`, `enquire_link_resp`, commands with no handler) need no resume at
all: a consumer waiting on `get()` handles each as it is put and waits again.
-/

namespace VumiSmpp.Client

/-- How many more successful resumes a processor stage of `handle_deliver_sm` needs at most. -/
def DeliverStage.rank : DeliverStage → Nat
  | .deliveryReportPdu => 5
  | .multipart => 4
  | .ussd => 3
  | .deliveryReportContent => 2
  | .shortMessage => 1

/-- How many successful resumes a suspended handler needs at most before it returns. -/
def HandlerStep.rank : HandlerStep → Nat
  | .connect => 1
  | .lpop => 3
  | .llen => 2
  | .submitSmResp => 1
  | .deliver _ stage => stage.rank

/-- A suspended handler needs one resume at least and five at most. -/
theorem HandlerStep.rank_bounds (step : HandlerStep) : 1 ≤ step.rank ∧ step.rank ≤ 5 := by
  rcases step with _ | _ | _ | _ | ⟨_, stage⟩ <;> try cases stage
  all_goals simp [HandlerStep.rank, DeliverStage.rank]

/-- A successful resume returns from the handler or suspends it nearer its end. -/
theorem resumeHandler_ok (env : Collaborators) (step : HandlerStep) (value : Nat) :
    resumeHandler env step (.ok value) = .finished ∨
      ∃ next, resumeHandler env step (.ok value) = .awaiting next ∧ next.rank < step.rank := by
  rcases step with _ | _ | _ | _ | ⟨pdu, stage⟩
  · exact .inl rfl
  · exact .inr ⟨_, rfl, by decide⟩
  · exact .inr ⟨_, rfl, by decide⟩
  · exact .inl rfl
  · simp only [resumeHandler]
    generalize decide (value ≠ 0) = processed
    cases stage <;> cases processed <;> simp only [continueDeliverSm]
    case ussd.false => split <;> simp [HandlerStep.rank, DeliverStage.rank]
    all_goals simp [HandlerStep.rank, DeliverStage.rank]

/-- `_process_pdu_queue` taking frames comes back to `get()`, ends, or suspends in a handler with
fewer frames pending than it took. -/
theorem consume_progress (env : Collaborators) : ∀ (session : Session) (frames : List Bytes),
    (consume env session frames).consumer = .waiting ∨
      (consume env session frames).consumer = .stopped ∨
      ∃ step, (consume env session frames).consumer = .handling step ∧
        (consume env session frames).pduQueue.length < frames.length
  | session, [] => .inl rfl
  | session, frame :: rest => by
    rcases found : handleData env frame session with ⟨after, _ | _ | step⟩
    · rcases consume_progress env after rest with waiting | stopped | ⟨step, handling, fewer⟩
      · exact .inl (by simpa only [consume, found] using waiting)
      · exact .inr (.inl (by simpa only [consume, found] using stopped))
      · refine .inr (.inr ⟨step, by simpa only [consume, found] using handling, ?_⟩)
        simp only [consume, found, List.length_cons]
        omega
    · exact .inr (.inl (by simp only [consume, found]))
    · exact .inr (.inr ⟨step, by simp only [consume, found], by simp [consume, found]⟩)

/-- The next resumes of the suspended handler, each successful, the `i`-th with `values i`. -/
def resumes (values : Nat → Nat) : Nat → List Event
  | 0 => []
  | count + 1 => .resumeHandler (.ok (values 0)) :: resumes (fun i => values (i + 1)) count

/-- A consumer suspended in a handler comes back to `get()` or ends within the resumes its
handler needs and five a pending frame. -/
theorem handling_progress (env : Collaborators) : ∀ (measure : Nat) (session : Session)
    (step : HandlerStep) (values : Nat → Nat), session.consumer = .handling step →
    step.rank + 5 * session.pduQueue.length ≤ measure →
    ∃ count ≤ measure, ∃ after, run env session (resumes values count) = some after ∧
      (after.consumer = .waiting ∨ after.consumer = .stopped)
  | 0, _, step, _, _, bounded => absurd bounded (by have := step.rank_bounds.1; omega)
  | measure + 1, session, step, values, handling, bounded => by
    have := step.rank_bounds.1
    have resumed : Client.step env session (.resumeHandler (.ok (values 0))) =
        some (settle env session (resumeHandler env step (.ok (values 0)))) := by
      simp [Client.step, handling]
    have continued : ∀ {count after}, run env
        (settle env session (resumeHandler env step (.ok (values 0))))
        (resumes (fun i => values (i + 1)) count) = some after →
        run env session (resumes values (count + 1)) = some after := fun ran => by
      simpa only [resumes, run, resumed, Option.some_bind] using ran
    rcases resumeHandler_ok env step (values 0) with finished | ⟨next, awaiting, nearer⟩
    · rw [finished] at continued
      rcases consume_progress env session session.pduQueue with
        waiting | stopped | ⟨later, suspended, fewer⟩
      · exact ⟨1, by omega, _, continued rfl, .inl waiting⟩
      · exact ⟨1, by omega, _, continued rfl, .inr stopped⟩
      · have := later.rank_bounds.2
        obtain ⟨count, within, after, ran, done⟩ := handling_progress env measure _ later
          (fun i => values (i + 1)) suspended (by omega)
        exact ⟨count + 1, by omega, after, continued ran, done⟩
    · rw [awaiting] at continued
      obtain ⟨count, within, after, ran, done⟩ := handling_progress env measure
        { session with consumer := .handling next } next (fun i => values (i + 1)) rfl
        (by simp only; omega)
      exact ⟨count + 1, by omega, after, continued ran, done⟩

/-- The consumer going on after a handler puts nothing on the queue. -/
theorem settle_enqueued (env : Collaborators) (session : Session) (result : HandlerResult) :
    (settle env session result).enqueued = session.enqueued := by
  cases result with
  | finished => exact (consume_queue env session session.pduQueue).2.1
  | raised | awaiting => rfl

/-- Resumes of the handler put nothing on the queue. -/
theorem run_resumes_enqueued (env : Collaborators) : ∀ (count : Nat) (values : Nat → Nat)
    (session after : Session), run env session (resumes values count) = some after →
    after.enqueued = session.enqueued
  | 0, _, session, _, ran => by cases ran; rfl
  | count + 1, values, session, after, ran => by
    obtain ⟨next, stepped, rest⟩ := Option.bind_eq_some.1 ran
    simp only [step] at stepped
    split at stepped <;> cases stepped
    rw [run_resumes_enqueued env count _ _ after rest]
    exact settle_enqueued env session _

/-- In every run, while the `Deferred`s the consumer waits on fire with results, whatever they
are, `_process_pdu_queue` hands every frame put on the queue so far to `handle_data` within
five resumes a pending frame and five for the handler it is in, unless it has ended. -/
theorem run_drains_queue (env : Collaborators) (role : Role) (events : List Event)
    (session : Session) (ran : run env (Session.init role) events = some session)
    (values : Nat → Nat) :
    ∃ count ≤ 5 * (session.pduQueue.length + 1), ∃ after,
      run env session (resumes values count) = some after ∧
        (after.handled = session.enqueued ∨ after.consumer = .stopped) := by
  have fifo := (Fifo.init role).run ran
  cases consumer : session.consumer with
  | waiting =>
    refine ⟨0, Nat.zero_le _, session, rfl, .inl ?_⟩
    rw [← fifo.order, fifo.waiting consumer, List.append_nil]
  | stopped => exact ⟨0, Nat.zero_le _, session, rfl, .inr consumer⟩
  | handling step =>
    obtain ⟨count, within, after, resumed, done⟩ :=
      handling_progress env (5 * (session.pduQueue.length + 1)) session step values consumer
        (by have := step.rank_bounds.2; omega)
    refine ⟨count, within, after, resumed, done.imp_left fun waiting => ?_⟩
    rw [← run_resumes_enqueued env count values session after resumed,
      ← (fifo.run resumed).order, (fifo.run resumed).waiting waiting, List.append_nil]

/-- A transceiver with a `submit_sm_resp` in hand and an `enquire_link` pending. -/
theorem run_drains_queue_two_frames :
    let events : List Event := [.connectionMade, .resumeTask 0 (.ok 1),
      .dataReceived (Pdu.encode ⟨.submit_sm_resp, esmeRok, 5⟩ ++
        Pdu.encode ⟨.enquire_link, esmeRok, 6⟩)]
    let session := (run headerCollaborators (Session.init .transceiver) events).getD
      (Session.init .transceiver)
    run headerCollaborators (Session.init .transceiver) events = some session ∧
      ∃ count ≤ 5 * (session.pduQueue.length + 1), ∃ after,
        run headerCollaborators session (resumes (fun _ => 0) count) = some after ∧
          (after.handled = session.enqueued ∨ after.consumer = .stopped) :=
  ⟨rfl, run_drains_queue headerCollaborators .transceiver [.connectionMade, .resumeTask 0 (.ok 1),
    .dataReceived (Pdu.encode ⟨.submit_sm_resp, esmeRok, 5⟩ ++ Pdu.encode ⟨.enquire_link, esmeRok, 6⟩)] _ rfl fun _ => 0⟩

/-- A `submit_sm_resp` and an `enquire_link` arrive in one chunk: three successful resumes of
`handle_submit_sm_resp` bring the consumer to the `enquire_link`, which it answers, and back to
`get()`. -/
example : ((run headerCollaborators (Session.init .transceiver)
    [.connectionMade, .resumeTask 0 (.ok 1),
      .dataReceived
        (Pdu.encode ⟨.submit_sm_resp, esmeRok, 5⟩ ++ Pdu.encode ⟨.enquire_link, esmeRok, 6⟩)
    ]).bind fun session => run headerCollaborators session (resumes (fun _ => 0) 3)).map
    (fun session => (session.handled.length, session.consumer, session.written.length)) =
      some (2, .waiting, 2) := by
  decide

/-! ## Frames handled as they arrive -/

/-- The commands `handle_data` returns on at once in every class and state: `unbind`,
`enquire_link`, `enquire_link_resp`, and those no class has a handler for. -/
def CommandId.returnsAtOnce : CommandId → Bool
  | .submit_sm_resp | .deliver_sm | .bind_transceiver_resp | .bind_transmitter_resp
  | .bind_receiver_resp => false
  | _ => true

/-- `handle_data` returns at once on the frame: it unpacks to a PDU of such a command. -/
def returnsAtOnce (env : Collaborators) (frame : Bytes) : Bool :=
  (env.unpackPdu frame).any (·.commandId.returnsAtOnce)

/-- `handle_data` returns without waiting on a frame that returns at once. -/
theorem handleData_returnsAtOnce {env : Collaborators} {frame : Bytes}
    (atOnce : returnsAtOnce env frame) (session : Session) :
    (handleData env frame session).2 = .finished := by
  unfold returnsAtOnce at atOnce
  unfold handleData
  dsimp only
  split
  · rename_i rejected
    simp [rejected] at atOnce
  · rename_i pdu found
    simp only [found, Option.any_some] at atOnce
    obtain ⟨commandId, status, sequenceNumber⟩ := pdu
    cases commandId
    case submit_sm_resp | deliver_sm | bind_transceiver_resp | bind_transmitter_resp
      | bind_receiver_resp => exact absurd atOnce Bool.false_ne_true
    case enquire_link =>
      simp only [Role.handler, Handler.run, handleEnquireLink]
      split_ifs <;> rfl
    all_goals rfl

/-- Since `start` frames had been put, the consumer has waited on `get()`, unless a frame put
since does not return at once. -/
structure Calm (env : Collaborators) (start : Nat) (session : Session) : Prop where
  /-- The frames counted had been put. -/
  within : start ≤ session.enqueued.length
  /-- The consumer waits on `get()`, or a frame put since does not return at once. -/
  waiting : session.consumer = .waiting ∨
    ∃ frame ∈ session.enqueued.drop start, returnsAtOnce env frame = false

namespace Calm

variable {env : Collaborators} {start : Nat} {session : Session}

/-- A put keeps the consumer calm: a waiting consumer handles a frame that returns at once and
waits again. -/
theorem put (calm : Calm env start session) (frame : Bytes) :
    Calm env start (put env frame session) := by
  have within := calm.within
  have grown : (Client.put env frame session).enqueued.drop start =
      session.enqueued.drop start ++ [frame] := by
    rw [put_enqueued, List.drop_append_of_le_length within]
  refine ⟨by rw [put_enqueued, List.length_append]; omega, ?_⟩
  rw [grown]
  rcases calm.waiting with waiting | ⟨slow, mem, late⟩
  · cases atOnce : returnsAtOnce env frame
    · exact .inr ⟨frame, by simp, atOnce⟩
    · left
      rcases handled : handleData env frame { session with enqueued := session.enqueued ++ [frame] }
        with ⟨after, result⟩
      obtain rfl : result = .finished := by
        rw [← handleData_returnsAtOnce atOnce, handled]
      unfold Client.put
      dsimp only
      split
      · simp only [consume, handled]
      · contradiction
  · exact .inr ⟨slow, List.mem_append_left _ mem, late⟩

/-- Every step keeps the consumer calm. -/
theorem step (calm : Calm env start session) {event : Event} {after : Session}
    (stepped : Client.step env session event = some after) : Calm env start after := by
  rcases step_aside stepped with
    aside | ⟨data, received⟩ | ⟨suspended, outcome, handling, rfl⟩
  · have same := aside.queue
    simp only [Session.queue, Prod.mk.injEq] at same
    obtain ⟨-, enqueued, -, consumer⟩ := same
    exact ⟨enqueued ▸ calm.within, by rw [enqueued, consumer]; exact calm.waiting⟩
  · unfold dataReceived Framing.dataReceived at received
    obtain ⟨⟨rest, drained⟩, ran, rfl⟩ := Option.map_eq_some'.1 received
    have kept := Framing.drain_preserves (fun frame _ kept => kept.put frame) ran calm
    exact ⟨kept.within, kept.waiting⟩
  · rcases calm.waiting with waiting | slow
    · cases waiting.symm.trans handling
    · have same := settle_enqueued env session (resumeHandler env suspended outcome)
      exact ⟨by rw [same]; exact calm.within, .inr (by rw [same]; exact slow)⟩

end Calm

/-- In every run from a reachable session whose consumer waits on `get()`, if every frame put
during the run returns at once, the consumer waits on `get()` at the end and has handled every
frame put. -/
theorem run_handles_at_once (env : Collaborators) (role : Role) (earlier events : List Event)
    (session after : Session) (reached : run env (Session.init role) earlier = some session)
    (waiting : session.consumer = .waiting) (ran : run env session events = some after)
    (atOnce : ∀ frame ∈ after.enqueued.drop session.enqueued.length, returnsAtOnce env frame) :
    after.consumer = .waiting ∧ after.handled = after.enqueued := by
  have calm := run_keeps (fun calm stepped => Calm.step calm stepped)
    (show Calm env session.enqueued.length session from ⟨le_rfl, .inl waiting⟩) ran
  have consumer : after.consumer = .waiting := by
    rcases calm.waiting with waiting | ⟨slow, mem, late⟩
    · exact waiting
    · simp [atOnce slow mem] at late
  have fifo := ((Fifo.init role).run reached).run ran
  exact ⟨consumer, by rw [← fifo.order, fifo.waiting consumer, List.append_nil]⟩

end VumiSmpp.Client

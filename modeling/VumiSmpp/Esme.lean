import VumiSmpp.Session.Bind
import VumiSmpp.Submit.Pushes

/-!
# The session with the application's `submit_sm` calls

The reactor drives a protocol instance and the application's `submit_sm` calls at once. The
session moves on the transport's events and on the firing of its own coroutines
(`Client.step`); each `submit_sm` call is a coroutine of its own, which reads `self.state` when
it is made and then runs a stretch at a time (`Program.advance`, `Stage.resume`), in any
interleaving with everything else. Each `SubmitSM` it writes goes to the session's transport
with `send_pdu`, in the state the session is in at that moment: nothing stops a call that is
suspended when the connection is lost.

Over every run: each call has done what a run of `submit_sm` does on the replies it has had
(`run_calls_follow_submitSm`); the transport has received exactly the `submit_sm`s the calls
wrote, each once, and only calls made in a state that may transmit wrote any, for an
`EsmeReceiver` only calls made in `BOUND_TRX` (`run_submits_written_by_calls`); and each call
has issued the `LPUSH` of every number it wrote, the last one possibly still pending
(`run_calls_push_each_write`). The calls leave the session's own laws in force: the order of
the frames handled, one `LPOP` per `submit_sm_resp`, one bind, and the states PDUs are written
in (`run_session_laws`).
-/

namespace VumiSmpp.Client

/-- Past `connectionMade` the connection is never fresh again. -/
theorem step_connected {env : Collaborators} {session after : Session} {event : Event}
    (connected : session.connection ≠ .fresh) (stepped : step env session event = some after) :
    after.connection ≠ .fresh := by
  have handled : Handled env (·.connection ≠ .fresh) :=
    ⟨fun _ _ _ _ _ kept => kept, fun data next kept => by rwa [handleData_connection]⟩
  rcases step_eq_some stepped with ⟨-, fresh, -⟩ | ⟨-, -, rfl⟩ | ⟨data, -, -, received⟩ |
    ⟨index, outcome, task, -, -, rfl⟩ | ⟨handlerStep, outcome, -, -, rfl⟩ |
    ⟨-, fired⟩ | ⟨loop, -, -, rfl⟩ | ⟨-, rfl⟩
  · exact absurd fresh connected
  · obtain ⟨_, _, _, lost, -⟩ := connectionLost_eq session
    rw [lost]
    nofun
  · exact handled.dataReceived received connected
  · cases task <;> cases outcome <;> exact connected
  · exact handled.settle _ connected
  · unfold bindTimeout at fired
    split at fired <;> cases fired
    unfold loseUnboundConnection loseConnection
    split <;> exact connected
  · obtain ⟨_, _, ticked⟩ := enquireLink_eq loop session
    rw [ticked]
    exact connected
  · unfold querySm
    split <;> exact connected

/-- No answer is a `submit_sm`. -/
theorem answer_not_submit_sm (state : SmppState) (pdu : Pdu) :
    (answer state pdu).toList.filter (·.commandId = .submit_sm) = [] := by
  unfold answer
  split <;> (try split) <;> rfl

/-- The session's own work writes no `submit_sm`: it writes its bind, `enquire_link`,
`query_sm` and the answers. -/
theorem step_sent_submit_sm {env : Collaborators} {session after : Session} {event : Event}
    (stepped : step env session event = some after) :
    after.sent .submit_sm = session.sent .submit_sm := by
  have handled : Handled env (·.sent .submit_sm = session.sent .submit_sm) :=
    ⟨fun _ _ _ _ _ kept => kept, fun data next kept => by
      rw [← kept, (handleData_sent_asked env data next .submit_sm fun _ => true).1]
      cases env.unpackPdu data <;> simp [answer_not_submit_sm]⟩
  rcases step_aside stepped with aside | ⟨data, received⟩ | ⟨_, _, -, rfl⟩
  · obtain ⟨more, written, others⟩ := aside.written
    have unsent : more.filter (·.commandId = .submit_sm) = [] :=
      List.filter_eq_nil_iff.2 fun pdu mem submit => by
        have kind := others pdu mem
        rw [of_decide_eq_true submit] at kind
        revert kind
        cases session.role <;> decide
    simp [Session.sent, written, unsent]
  · exact handled.dataReceived received rfl
  · exact handled.settle _ rfl

/-- An `EsmeReceiver` is in a state that may transmit only in `BOUND_TRX`. -/
theorem Role.receiver_transmits {state : SmppState} (reaches : Role.receiver.Reaches state)
    (transmits : state.canTransmit = true) : state = .BOUND_TRX := by
  rcases reaches with rfl | rfl | rfl | rfl <;> first | rfl | cases transmits

end VumiSmpp.Client

namespace VumiSmpp.Esme

open Client

/-- A `submit_sm` call the application made on the session. -/
structure Call where
  /-- `self.state` when it was made. -/
  state : SmppState
  /-- Its keyword arguments. -/
  kwargs : Params
  /-- What `randint` draws on, in order. -/
  choices : Nat → Nat
  /-- How the store commands it waited on fired, in order. -/
  replies : List Outcome
  /-- What it has done, in order. -/
  effects : List (Effect SubmitSm)
  /-- Where it stands. -/
  stage : Stage SubmitSm SubmitResult

/-- A protocol instance with the `submit_sm` calls the application has made on it, in order. -/
structure State where
  /-- The protocol instance. -/
  session : Session
  /-- The calls. -/
  calls : List Call

/-- A new protocol instance on which nothing has been called. -/
def State.init (role : Role) : State :=
  ⟨Session.init role, []⟩

/-- What the reactor and the application may do next. -/
inductive Event where
  /-- An event of the session alone. -/
  | session (event : Client.Event)
  /-- The application calls `submit_sm(**kwargs)`; `randint` draws on `choices`. -/
  | submitSm (kwargs : Params) (choices : Nat → Nat)
  /-- The store command the call at that index waits on fires. -/
  | resumeSubmit (index : Nat) (outcome : Outcome)

/-- `send_pdu` of each `SubmitSM` a stretch of a call wrote, in order. -/
def sendSubmits (effects : List (Effect SubmitSm)) (session : Session) : Session :=
  (Effect.written effects).foldl
    (fun session pdu => sendPdu .submit_sm pdu.sequenceNumber session) session

section Run

variable (env : Collaborators) (config : Config) (bindParams : Params)

/-- One event; `none` where it cannot happen. -/
def step (state : State) : Event → Option State
  | .session event =>
    (Client.step env state.session event).map fun session => { state with session }
  | .submitSm kwargs choices =>
    let stretch := (submitSm config state.session.state bindParams kwargs).advance choices
    some ⟨sendSubmits stretch.1 state.session,
      state.calls ++ [⟨state.session.state, kwargs, choices, [], stretch.1, stretch.2⟩]⟩
  | .resumeSubmit index outcome =>
    state.calls[index]?.bind fun call => (call.stage.resume outcome).map fun stretch =>
      ⟨sendSubmits stretch.1 state.session, state.calls.set index
        { call with
          replies := call.replies ++ [outcome], effects := call.effects ++ stretch.1,
          stage := stretch.2 }⟩

/-- A run: the events in order, `none` if one of them cannot happen. -/
def run (state : State) : List Event → Option State
  | [] => some state
  | event :: events => (step env config bindParams state event).bind fun next => run next events

end Run

/-! ## Writing a stretch's PDUs -/

/-- A stretch's PDUs are appended to those written, as `submit_sm`s in the session's state. -/
theorem sendSubmits_eq (effects : List (Effect SubmitSm)) (session : Session) :
    sendSubmits effects session = { session with
      written := session.written ++ (Effect.written effects).map fun pdu =>
        ⟨.submit_sm, pdu.sequenceNumber, session.state⟩ } := by
  unfold sendSubmits
  induction Effect.written effects generalizing session with
  | nil => simp
  | cons pdu pdus ih =>
    rw [List.foldl_cons, ih]
    simp [sendPdu]

/-- Writing keeps the connection. -/
@[simp] theorem sendSubmits_connection (effects : List (Effect SubmitSm)) (session : Session) :
    (sendSubmits effects session).connection = session.connection := by
  rw [sendSubmits_eq]

/-- The `submit_sm`s written grow by the numbers of the stretch's PDUs. -/
theorem sendSubmits_sent (effects : List (Effect SubmitSm)) (session : Session) :
    (sendSubmits effects session).sent .submit_sm =
      session.sent .submit_sm ++ (Effect.written effects).map (·.sequenceNumber) := by
  simp [sendSubmits_eq, Session.sent, List.filter_map, Function.comp_def]

/-- What writing one `submit_sm` keeps, writing a stretch's keeps. -/
theorem sendSubmits_keeps {keeps : Session → Prop}
    (submit : ∀ {session : Session} (sequenceNumber : Nat), keeps session →
      keeps (sendPdu .submit_sm sequenceNumber session))
    (effects : List (Effect SubmitSm)) {session : Session} (kept : keeps session) :
    keeps (sendSubmits effects session) := by
  unfold sendSubmits
  induction Effect.written effects generalizing session with
  | nil => exact kept
  | cons pdu pdus ih => exact ih (submit _ kept)

/-- Writing `submit_sm`s past `connectionMade` keeps the session's invariant. -/
theorem sendSubmits_sound {role : Role} {session : Session} (sound : Client.Sound role session)
    (connected : session.connection ≠ .fresh) (effects : List (Effect SubmitSm)) :
    Client.Sound role (sendSubmits effects session) := by
  have notBind : CommandId.submit_sm ≠ role.bindPdu := by cases role <;> decide
  exact (@sendSubmits_keeps (fun session => session.connection ≠ .fresh ∧
      Client.Sound role session) (fun _ ⟨connected, sound⟩ =>
    ⟨connected, sound.sendPdu connected notBind nofun _⟩) effects _ ⟨connected, sound⟩).2

/-- Growing one item of a list by `more` grows its `flatMap` by `more`, up to order. -/
theorem flatMap_set_perm {α β : Type} (f : α → List β) {items : List α} {index : Nat}
    {item changed : α} {more : List β} (found : items[index]? = some item)
    (grown : f changed = f item ++ more) :
    List.Perm ((items.set index changed).flatMap f) (items.flatMap f ++ more) := by
  induction items generalizing index with
  | nil => cases found
  | cons head items ih =>
    cases index with
    | zero =>
      rw [List.getElem?_cons_zero, Option.some.injEq] at found
      subst found
      simp only [List.set_cons_zero, List.flatMap_cons, grown, List.append_assoc]
      exact List.perm_append_comm.append_left _
    | succ index =>
      rw [List.getElem?_cons_succ] at found
      simp only [List.set_cons_succ, List.flatMap_cons, List.append_assoc]
      exact (ih found).append_left _

/-- A property of every item, and of the item added at the end, holds of every item after. -/
theorem forall_mem_concat {α : Type} {p : α → Prop} {items : List α} {added : α}
    (old : ∀ item ∈ items, p item) (new : p added) : ∀ item ∈ items ++ [added], p item :=
  List.forall_mem_append.2 ⟨old, List.forall_mem_singleton.2 new⟩

/-- A property of every item, and of the item put in place of one, holds of every item
after the update. -/
theorem forall_mem_set {α : Type} {p : α → Prop} {items : List α} {index : Nat} {changed : α}
    (old : ∀ item ∈ items, p item) (new : p changed) : ∀ item ∈ items.set index changed, p item :=
  fun _ member => (List.mem_or_eq_of_mem_set member).elim (old _) (· ▸ new)

/-! ## What every run keeps -/

/-- The numbers of the `SubmitSM`s the calls wrote. -/
def submitted (calls : List Call) : List Nat :=
  calls.flatMap fun call => (Effect.written call.effects).map (·.sequenceNumber)

/-- A call has done what `submit_sm` does on the replies it has had, and from where it stands
the rest of the run is the rest of a run of `submit_sm`, whatever the replies to come. -/
def Call.Follows (config : Config) (bindParams : Params) (call : Call) : Prop :=
  ∀ future, (submitSm config call.state bindParams call.kwargs).run
      (Outcome.replay call.replies future) call.choices =
    (call.effects ++ (call.stage.run future).1, (call.stage.run future).2)

/-- What every run of a session with `submit_sm` calls keeps. -/
structure Sound (config : Config) (bindParams : Params) (role : Role) (state : State) :
    Prop where
  /-- The session keeps its own invariant. -/
  session : Client.Sound role state.session
  /-- Every call was made in a state the class can be in. -/
  reaches : ∀ call ∈ state.calls, role.Reaches call.state
  /-- A call made in a state that may transmit was made past `connectionMade`. -/
  connected : ∀ call ∈ state.calls, call.state.canTransmit → state.session.connection ≠ .fresh
  /-- A call made in a state that may not transmit did nothing, and waits on nothing. -/
  silent : ∀ call ∈ state.calls, call.state.canTransmit = false →
    call.effects = [] ∧ ∀ outcome, call.stage.resume outcome = none
  /-- Each call follows `submit_sm`. -/
  follows : ∀ call ∈ state.calls, call.Follows config bindParams
  /-- The transport has received exactly the `submit_sm`s the calls wrote. -/
  sent : List.Perm (state.session.sent .submit_sm) (submitted state.calls)

namespace Sound

variable {env : Collaborators} {config : Config} {bindParams : Params} {role : Role}
  {state : State}

/-- A new protocol instance is sound. -/
theorem init (config : Config) (bindParams : Params) (role : Role) :
    Sound config bindParams role (State.init role) :=
  ⟨Client.Sound.init role, nofun, nofun, nofun, nofun, .nil⟩

/-- An event of the session alone keeps the invariant. -/
theorem session_step (sound : Sound config bindParams role state) {event : Client.Event}
    {session : Session} (stepped : Client.step env state.session event = some session) :
    Sound config bindParams role { state with session } :=
  ⟨sound.session.step stepped, sound.reaches,
    fun call mem transmits => step_connected (sound.connected call mem transmits) stepped,
    sound.silent, sound.follows, step_sent_submit_sm stepped ▸ sound.sent⟩

/-- A new call keeps the invariant. -/
theorem submitSm (sound : Sound config bindParams role state) (kwargs : Params)
    (choices : Nat → Nat) :
    let stretch := (Client.submitSm config state.session.state bindParams kwargs).advance choices
    Sound config bindParams role ⟨sendSubmits stretch.1 state.session,
      state.calls ++ [⟨state.session.state, kwargs, choices, [], stretch.1, stretch.2⟩]⟩ := by
  intro stretch
  have transmitting : state.session.state.canTransmit → state.session.connection ≠ .fresh :=
    fun transmits fresh => by
      simp [(sound.session.fresh fresh).1, SmppState.canTransmit] at transmits
  have idle : state.session.state.canTransmit = false → stretch = ([], .returned .zero) :=
    fun silent => by simp only [stretch, Client.submitSm, silent]; rfl
  have session : Client.Sound role (sendSubmits stretch.1 state.session) := by
    cases transmits : state.session.state.canTransmit
    · rw [idle transmits]
      exact sound.session
    · exact sendSubmits_sound sound.session (transmitting transmits) _
  refine ⟨session, forall_mem_concat sound.reaches sound.session.reaches, ?_,
    forall_mem_concat sound.silent fun silent => by rw [idle silent]; exact ⟨rfl, fun _ => rfl⟩,
    forall_mem_concat sound.follows fun future => Program.run_advance _ future choices, ?_⟩
  · rw [sendSubmits_connection]
    exact forall_mem_concat sound.connected transmitting
  · rw [sendSubmits_sent, submitted, List.flatMap_append, List.flatMap_singleton]
    exact sound.sent.append_right _

/-- Resuming a call keeps the invariant. -/
theorem resumeSubmit (sound : Sound config bindParams role state) {index : Nat} {call : Call}
    (found : state.calls[index]? = some call) {outcome : Outcome}
    {stretch : List (Effect SubmitSm) × Stage SubmitSm SubmitResult}
    (resumed : call.stage.resume outcome = some stretch) :
    Sound config bindParams role ⟨sendSubmits stretch.1 state.session, state.calls.set index
      { call with
        replies := call.replies ++ [outcome], effects := call.effects ++ stretch.1,
        stage := stretch.2 }⟩ := by
  have mem : call ∈ state.calls := List.getElem?_mem found
  have transmits : call.state.canTransmit = true := by
    cases silent : call.state.canTransmit
    · simp [(sound.silent call mem silent).2 outcome] at resumed
    · rfl
  have connected := sound.connected call mem transmits
  refine ⟨sendSubmits_sound sound.session connected _,
    forall_mem_set sound.reaches (sound.reaches call mem), ?_,
    forall_mem_set sound.silent fun silent => (nomatch transmits.symm.trans silent),
    forall_mem_set sound.follows (fun future => ?_), ?_⟩
  · rw [sendSubmits_connection]
    exact forall_mem_set sound.connected fun _ => connected
  · rw [Outcome.replay_append, sound.follows call mem, Stage.run_resume resumed future,
      List.append_assoc]
  · rw [sendSubmits_sent, submitted]
    refine sound.sent.append_right _ |>.trans (flatMap_set_perm _ found ?_).symm
    simp

/-- Every event keeps the invariant. -/
theorem step (sound : Sound config bindParams role state) {event : Event} {after : State}
    (stepped : Esme.step env config bindParams state event = some after) :
    Sound config bindParams role after := by
  cases event with
  | session event =>
    obtain ⟨session, moved, rfl⟩ := Option.map_eq_some'.1 stepped
    exact sound.session_step moved
  | submitSm kwargs choices =>
    cases stepped
    exact sound.submitSm kwargs choices
  | resumeSubmit index outcome =>
    obtain ⟨call, found, resumed⟩ := Option.bind_eq_some.1 stepped
    obtain ⟨stretch, stretched, rfl⟩ := Option.map_eq_some'.1 resumed
    exact sound.resumeSubmit found stretched

/-- Every run keeps the invariant. -/
theorem run (sound : Sound config bindParams role state) {events : List Event} {after : State}
    (ran : Esme.run env config bindParams state events = some after) :
    Sound config bindParams role after := by
  induction events generalizing state with
  | nil => exact Option.some.inj ran ▸ sound
  | cons event events ih =>
    obtain ⟨next, stepped, rest⟩ := Option.bind_eq_some.1 ran
    exact ih (sound.step stepped) rest

end Sound

/-- A property of the session that the session's own events keep, and that writing a
`submit_sm` keeps, holds of the session in every run with `submit_sm` calls. -/
theorem run_keeps_session {env : Collaborators} {config : Config} {bindParams : Params}
    {keeps : Session → Prop}
    (step : ∀ {session after : Session} {event : Client.Event}, keeps session →
      Client.step env session event = some after → keeps after)
    (submit : ∀ {session : Session} (sequenceNumber : Nat), keeps session →
      keeps (sendPdu .submit_sm sequenceNumber session))
    {state after : State} {events : List Event} (start : keeps state.session)
    (ran : Esme.run env config bindParams state events = some after) : keeps after.session := by
  induction events generalizing state with
  | nil => exact Option.some.inj ran ▸ start
  | cons event events ih =>
    obtain ⟨next, stepped, rest⟩ := Option.bind_eq_some.1 ran
    refine ih ?_ rest
    cases event with
    | session event =>
      obtain ⟨session, moved, rfl⟩ := Option.map_eq_some'.1 stepped
      exact step start moved
    | submitSm kwargs choices =>
      cases stepped
      exact sendSubmits_keeps submit _ start
    | resumeSubmit index outcome =>
      obtain ⟨call, -, resumed⟩ := Option.bind_eq_some.1 stepped
      obtain ⟨stretch, -, rfl⟩ := Option.map_eq_some'.1 resumed
      exact sendSubmits_keeps submit _ start

/-! ## Every run -/

section Runs

variable (env : Collaborators) (config : Config) (bindParams : Params) (role : Role)
  (events : List Event) (after : State)

/-- In every run the transport has received exactly the `submit_sm`s the calls wrote, each
once; and a call wrote only if it was made in a state that may transmit and that the class can
be in, which for an `EsmeReceiver` is `BOUND_TRX`, set by the inherited
`handle_bind_transceiver_resp`. -/
theorem run_submits_written_by_calls
    (ran : Esme.run env config bindParams (State.init role) events = some after) :
    List.Perm (after.session.sent .submit_sm) (submitted after.calls) ∧
      ∀ call ∈ after.calls, Effect.written call.effects ≠ [] →
        call.state.canTransmit ∧ role.Reaches call.state ∧
          (role = .receiver → call.state = .BOUND_TRX) := by
  have sound := (Sound.init config bindParams role).run ran
  refine ⟨sound.sent, fun call mem wrote => ?_⟩
  have transmits : call.state.canTransmit = true := by
    cases silent : call.state.canTransmit
    · exact absurd (by rw [(sound.silent call mem silent).1]; rfl) wrote
    · rfl
  refine ⟨transmits, sound.reaches call mem, ?_⟩
  rintro rfl
  exact Role.receiver_transmits (sound.reaches call mem) transmits

/-- An `EsmeReceiver` given a `bind_transceiver_resp` enters `BOUND_TRX`, and a `submit_sm`
call made then writes its `submit_sm`. -/
theorem run_submits_written_by_calls_receiver :
    let events : List Event := [.session .connectionMade, .session (.resumeTask 0 (.ok 1)),
      .session (.dataReceived (Pdu.encode ⟨.bind_transceiver_resp, esmeRok, 1⟩)),
      .submitSm [("short_message", .str [97])] (fun _ => 0), .resumeSubmit 0 (.ok 2)]
    let after := (Esme.run headerCollaborators ⟨false, false, false⟩ []
      (State.init .receiver) events).getD (State.init .receiver)
    Esme.run headerCollaborators ⟨false, false, false⟩ [] (State.init .receiver) events =
        some after ∧
      after.session.sent .submit_sm = [2] ∧ after.calls.map (·.state) = [.BOUND_TRX] ∧
      List.Perm (after.session.sent .submit_sm) (submitted after.calls) ∧
      ∀ call ∈ after.calls, Effect.written call.effects ≠ [] →
        call.state.canTransmit ∧ Role.receiver.Reaches call.state ∧
          (Role.receiver = .receiver → call.state = .BOUND_TRX) :=
  ⟨rfl, rfl, rfl, run_submits_written_by_calls headerCollaborators ⟨false, false, false⟩ []
    .receiver [.session .connectionMade, .session (.resumeTask 0 (.ok 1)),
      .session (.dataReceived (Pdu.encode ⟨.bind_transceiver_resp, esmeRok, 1⟩)),
      .submitSm [("short_message", .str [97])] (fun _ => 0), .resumeSubmit 0 (.ok 2)] _ rfl⟩

/-- In every run each call has issued the `LPUSH` of the number of every `SubmitSM` it wrote,
in the order written: the `LPUSH`es that have fired, then the one it waits on, if any. -/
theorem run_calls_push_each_write
    (ran : Esme.run env config bindParams (State.init role) events = some after) :
    ∀ call ∈ after.calls, (Effect.written call.effects).map (·.sequenceNumber) =
      Effect.pushed call.effects ++ call.stage.pushing := by
  intro call mem
  have follows := ((Sound.init config bindParams role).run ran).follows call mem fun _ => .failed
  have pushed := pushed_eq_written (submitSm_pushes_each_write config call.state bindParams
    call.kwargs (Outcome.replay call.replies fun _ => .failed) call.choices).1
  obtain ⟨unwritten, waiting⟩ := call.stage.run_failed
  rw [follows, Effect.pushed_append, Effect.written_append, unwritten, waiting,
    List.append_nil] at pushed
  exact pushed.symm

/-- Two `submit_sm` calls on a bound transmitter, interleaved: the first has pushed its number
`2`, the second waits on the `LPUSH` of its number `3`. -/
theorem run_calls_push_each_write_interleaved :
    let events : List Event := [.session .connectionMade, .session (.resumeTask 0 (.ok 1)),
      .session (.dataReceived (Pdu.encode ⟨.bind_transmitter_resp, esmeRok, 1⟩)),
      .submitSm [("short_message", .str [97])] (fun _ => 0),
      .submitSm [("short_message", .str [98])] (fun _ => 0),
      .resumeSubmit 0 (.ok 2), .resumeSubmit 1 (.ok 3), .resumeSubmit 0 (.ok 1)]
    let after := (Esme.run headerCollaborators ⟨false, false, false⟩ []
      (State.init .transmitter) events).getD (State.init .transmitter)
    Esme.run headerCollaborators ⟨false, false, false⟩ [] (State.init .transmitter) events =
        some after ∧
      after.session.sent .submit_sm = [2, 3] ∧
      after.calls.map (fun call => (Effect.pushed call.effects, call.stage.pushing)) =
        [([2], []), ([], [3])] ∧
      ∀ call ∈ after.calls, (Effect.written call.effects).map (·.sequenceNumber) =
        Effect.pushed call.effects ++ call.stage.pushing :=
  ⟨rfl, rfl, rfl, run_calls_push_each_write headerCollaborators ⟨false, false, false⟩ []
    .transmitter [.session .connectionMade, .session (.resumeTask 0 (.ok 1)),
      .session (.dataReceived (Pdu.encode ⟨.bind_transmitter_resp, esmeRok, 1⟩)),
      .submitSm [("short_message", .str [97])] (fun _ => 0),
      .submitSm [("short_message", .str [98])] (fun _ => 0),
      .resumeSubmit 0 (.ok 2), .resumeSubmit 1 (.ok 3), .resumeSubmit 0 (.ok 1)] _ rfl⟩

/-- The `submit_sm` calls leave the session's own laws in force. In every run the frames are
handled in the order they were put on the queue, each at most once; one `LPOP` is issued per
`submit_sm_resp` handled, and no other; at most one bind is written; and every PDU, the calls'
`submit_sm`s included, is written in a state the class can be in, a `deliver_sm_resp` only in a
state that may receive. -/
theorem run_session_laws
    (ran : Esme.run env config bindParams (State.init role) events = some after) :
    after.session.handled ++ after.session.pduQueue = after.session.enqueued ∧
      after.session.lpops = (after.session.handled.filter (respondsToSubmit env)).length ∧
      after.session.written.countP (·.commandId.isBind) ≤ 1 ∧
      ∀ pdu ∈ after.session.written, role.Reaches pdu.state ∧
        (pdu.commandId = .deliver_sm_resp → pdu.state.canReceive) := by
  have fifo : Fifo after.session := run_keeps_session (fun fifo stepped => fifo.step stepped)
    (fun _ fifo => ⟨fifo.order, fifo.waiting⟩) (Fifo.init role) ran
  have matched : LpopsMatch env after.session := run_keeps_session
    (fun matched stepped => matched.step stepped) (fun _ matched => matched)
    (show LpopsMatch env (Session.init role) from rfl) ran
  have once : BindOnce after.session := run_keeps_session (fun once stepped => once.step stepped)
    (fun _ once => once.sendPdu (show CommandId.submit_sm.isBind = false from rfl) _)
    (BindOnce.init role) ran
  have sound := ((Sound.init config bindParams role).run ran).session
  have binds := once.atMostOne
  unfold Session.binds at binds
  exact ⟨fifo.order, matched, by omega,
    fun pdu mem => ⟨sound.written pdu mem, sound.acks pdu mem⟩⟩

/-- A transceiver, bound and connected, takes a `submit_sm` call, which writes `2` and pushes
it; then the `submit_sm_resp` for `2` arrives and is handled with one `LPOP`. -/
theorem run_session_laws_submit_sm_resp :
    let events : List Event := [.session .connectionMade, .session (.resumeTask 0 (.ok 1)),
      .session (.dataReceived (Pdu.encode ⟨.bind_transceiver_resp, esmeRok, 1⟩)),
      .session (.resumeHandler (.ok 0)),
      .submitSm [("short_message", .str [97])] (fun _ => 0), .resumeSubmit 0 (.ok 2),
      .resumeSubmit 0 (.ok 1), .session (.dataReceived (Pdu.encode ⟨.submit_sm_resp, esmeRok, 2⟩))]
    let after := (Esme.run headerCollaborators ⟨false, false, false⟩ []
      (State.init .transceiver) events).getD (State.init .transceiver)
    Esme.run headerCollaborators ⟨false, false, false⟩ [] (State.init .transceiver) events =
        some after ∧
      after.session.lpops = 1 ∧ after.session.sent .submit_sm = [2] ∧
      (after.session.handled ++ after.session.pduQueue = after.session.enqueued ∧
        after.session.lpops =
          (after.session.handled.filter (respondsToSubmit headerCollaborators)).length ∧
        after.session.written.countP (·.commandId.isBind) ≤ 1 ∧
        ∀ pdu ∈ after.session.written, Role.transceiver.Reaches pdu.state ∧
          (pdu.commandId = .deliver_sm_resp → pdu.state.canReceive)) :=
  ⟨rfl, rfl, rfl, run_session_laws headerCollaborators ⟨false, false, false⟩ [] .transceiver
    [.session .connectionMade, .session (.resumeTask 0 (.ok 1)),
      .session (.dataReceived (Pdu.encode ⟨.bind_transceiver_resp, esmeRok, 1⟩)),
      .session (.resumeHandler (.ok 0)),
      .submitSm [("short_message", .str [97])] (fun _ => 0), .resumeSubmit 0 (.ok 2),
      .resumeSubmit 0 (.ok 1), .session (.dataReceived (Pdu.encode ⟨.submit_sm_resp, esmeRok, 2⟩))]
    _ rfl⟩

end Runs

end VumiSmpp.Esme

import VumiSmpp.SequenceNumber.Distinct
import VumiSmpp.Session.Numbers
import VumiSmpp.Submit.Pushes

/-!
# Sequence numbers across sessions

Any number of ESME sessions and `submit_sm` calls share one store, and every request any of
them writes takes its sequence number from `get_next_seq` on the shared counter: a session's
bind, `enquire_link` and `query_sm` the number the call its coroutine awaited returned
(`Client.run_numbers`), a submit's PDUs the numbers its `_submit_sm`s took, each at most once
(`Client.submitSm_pushes_each_write`). Wired to one run of the counter, each number taken being
returned by a call of its own, the requests of all the sessions and submits carry distinct
sequence numbers as long as the counter stays below `0xFFFF0000`, whatever the interleaving of
the sessions, the submits and the counter's commands (`requests_numbered_apart`).
-/

namespace VumiSmpp.Fleet

open Client

/-- A session and one run of it. -/
structure SessionRun where
  /-- The collaborators it calls. -/
  env : Collaborators
  /-- Its class. -/
  role : Role
  /-- The events of the run. -/
  events : List Client.Event
  /-- Where the run leaves it. -/
  after : Session
  /-- The run goes through. -/
  ran : Client.run env (Session.init role) events = some after

/-- A `submit_sm` call and one run of it. -/
structure SubmitRun where
  /-- The transport's configuration. -/
  config : Config
  /-- The session's state when it is called. -/
  state : SmppState
  /-- `self.bind_params`. -/
  bindParams : Params
  /-- Its keyword arguments. -/
  kwargs : Params
  /-- The store's replies, in the order it asks. -/
  replies : Nat → Outcome
  /-- What `randint` draws on. -/
  choices : Nat → Nat

/-- What the run of the call did. -/
def SubmitRun.effects (submit : SubmitRun) : List (Effect SubmitSm) :=
  ((submitSm submit.config submit.state submit.bindParams submit.kwargs).run submit.replies
    submit.choices).1

/-- The numbers the session's `get_next_seq` calls handed it, in order. -/
def SessionRun.taken (session : SessionRun) : List Nat :=
  session.events.filterMap Client.Event.taken

/-- The numbers the submit's `get_next_seq` calls returned, in order. -/
def SubmitRun.taken (submit : SubmitRun) : List Nat :=
  Effect.allocated submit.effects

/-- The numbers of the requests the session wrote, in order. -/
def SessionRun.numbers (session : SessionRun) : List Nat :=
  session.after.numbers

/-- The numbers of the `submit_sm` PDUs the submit wrote, in order. -/
def SubmitRun.numbers (submit : SubmitRun) : List Nat :=
  (Effect.written submit.effects).map SubmitSm.sequenceNumber

/-- A session's requests carry the numbers it took, in order, once each. -/
theorem SessionRun.numbers_eq_taken (session : SessionRun) : session.numbers = session.taken :=
  run_numbers session.ran

/-- A submit's PDUs carry some of the numbers it took, in order, once each. -/
theorem SubmitRun.numbers_sublist (submit : SubmitRun) : submit.numbers.Sublist submit.taken :=
  (submitSm_pushes_each_write submit.config submit.state submit.bindParams submit.kwargs
    submit.replies submit.choices).2

/-- Pointwise sublists make a sublist of the joined lists. -/
theorem flatMap_sublist {α β : Type} {f g : α → List β} :
    ∀ {items : List α}, (∀ item ∈ items, (f item).Sublist (g item)) →
      (items.flatMap f).Sublist (items.flatMap g)
  | [], _ => .slnil
  | item :: items, each => by
    rw [List.flatMap_cons, List.flatMap_cons]
    exact (each item (List.mem_cons_self _ _)).append
      (flatMap_sublist fun other mem => each other (List.mem_cons_of_mem _ mem))

/-- Across any sessions and `submit_sm` calls sharing one store, run in any interleaving: when
every number their `get_next_seq` calls took was returned by a call of its own in one run of
the counter from a store below the threshold, and the counter stayed below `0xFFFF0000`, the
requests they write (binds, `enquire_link`s, `query_sm`s and `submit_sm`s) carry pairwise
different sequence numbers. -/
theorem requests_numbered_apart (counter : Option Nat)
    (below : ∀ value ∈ counter, value < SequenceNumber.wrapThreshold)
    (events : List SequenceNumber.Event) (sessions : List SessionRun) (submits : List SubmitRun)
    (calls : List Nat)
    (returned : (sessions.flatMap SessionRun.taken ++ submits.flatMap SubmitRun.taken).Forall₂
      (fun seq call => ((SequenceNumber.System.init counter).run events).calls call = .returned seq)
      calls)
    (distinct : calls.Nodup)
    (low : ∀ value ∈ ((SequenceNumber.System.init counter).run events).produced,
      value < SequenceNumber.wrapThreshold) :
    (sessions.flatMap SessionRun.numbers ++ submits.flatMap SubmitRun.numbers).Nodup :=
  (((SequenceNumber.Fresh.init below).run events).returned_nodup low returned distinct).sublist
    ((flatMap_sublist fun session _ => by rw [session.numbers_eq_taken]).append
      (flatMap_sublist fun submit _ => submit.numbers_sublist))

/-- A transceiver bound with number 1 and a one-byte `submit_sm` that took number 2, from two
calls of the counter. -/
theorem requests_numbered_apart_bind_and_submit :
    let events : List SequenceNumber.Event := [.run 0, .run 1]
    let env : Collaborators := ⟨fun _ => none, fun _ => true⟩
    let sessionEvents : List Client.Event := [.connectionMade, .resumeTask 0 (.ok 1)]
    let sessions : List SessionRun := [⟨env, .transceiver, sessionEvents,
      (Client.run env (Session.init .transceiver) sessionEvents).getD (Session.init .transceiver),
      rfl⟩]
    let submits : List SubmitRun :=
      [⟨⟨false, false, false⟩, .BOUND_TRX, [], [("short_message", .str [97])], fun _ => .ok 2,
        fun _ => 0⟩]
    (∀ value ∈ (none : Option Nat), value < SequenceNumber.wrapThreshold) ∧
      (sessions.flatMap SessionRun.taken ++ submits.flatMap SubmitRun.taken).Forall₂
        (fun seq call => ((SequenceNumber.System.init none).run events).calls call = .returned seq)
        [0, 1] ∧
      [0, 1].Nodup ∧
      (∀ value ∈ ((SequenceNumber.System.init none).run events).produced,
        value < SequenceNumber.wrapThreshold) ∧
      (sessions.flatMap SessionRun.numbers ++ submits.flatMap SubmitRun.numbers).Nodup :=
  ⟨by simp, by decide, by decide, by decide,
    requests_numbered_apart none (by simp) [.run 0, .run 1] _ _ [0, 1] (by decide) (by decide)
      (by decide)⟩

end VumiSmpp.Fleet

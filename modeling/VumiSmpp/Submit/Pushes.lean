import VumiSmpp.Submit.Basic
import VumiSmpp.Unacked

/-!
# Every PDU written is pushed

The `unacked` model (`VumiSmpp.Unacked`) takes a `submit_sm` to be one event: the PDU is
written and the `LPUSH` of its sequence number is issued with it. This module shows that the
code's `submit_sm` is made of such events. In every run, whatever the arguments, the state, the
store's replies (failures included) and the draws, each PDU written carries a number
`get_next_seq` returned, the next store command is the `LPUSH` of that number, and no other
`LPUSH` is issued. So the PDUs a run writes, fed to `Party.submitSm` in order, leave pending
exactly the `LPUSH`es the run issued.
-/

namespace VumiSmpp.Client

/-- What the `unacked` list sees of a run: the PDUs written and the values pushed. -/
def Effect.unackedView : Effect SubmitSm → Option (SubmitSm ⊕ Nat)
  | .write pdu => some (.inl pdu)
  | .request (.lpush value) _ => some (.inr value)
  | _ => none

/-- Effects in which each PDU written is followed by the `LPUSH` of its number and by no other
write or `LPUSH` before it, and the numbers written are among those `get_next_seq` returned. -/
def Pushed (effects : List (Effect SubmitSm)) : Prop :=
  effects.filterMap Effect.unackedView =
      (Effect.written effects).flatMap (fun pdu => [.inl pdu, .inr pdu.sequenceNumber]) ∧
    ((Effect.written effects).map SubmitSm.sequenceNumber).Sublist (Effect.allocated effects)

/-- Every run of the coroutine pushes each PDU it writes. -/
def PushesEachWrite {α : Type} (program : Program SubmitSm α) : Prop :=
  ∀ replies choices, Pushed (program.run replies choices).1

namespace Pushed

/-- A run that did nothing. -/
theorem nil : Pushed [] :=
  ⟨rfl, .slnil⟩

/-- Two runs in a row. -/
theorem append {first second : List (Effect SubmitSm)} (before : Pushed first)
    (after : Pushed second) : Pushed (first ++ second) := by
  refine ⟨?_, ?_⟩
  · rw [List.filterMap_append, before.1, after.1, Effect.written_append, List.flatMap_append]
  · rw [Effect.written_append, List.map_append, Effect.allocated_append]
    exact before.2.append after.2

/-- A command other than `LPUSH`, or a draw, changes nothing. -/
theorem cons_aside {effect : Effect SubmitSm} {effects : List (Effect SubmitSm)}
    (aside : Pushed effects) (view : effect.unackedView = none)
    (written : Effect.written [effect] = []) : Pushed (effect :: effects) := by
  have alone : Pushed [effect] :=
    ⟨by simp [view, written], by simp only [written, List.map_nil]; exact List.nil_sublist _⟩
  exact alone.append aside

end Pushed

namespace PushesEachWrite

variable {α β : Type}

/-- A coroutine that returns at once. -/
theorem done (value : α) : PushesEachWrite (Program.done value : Program SubmitSm α) :=
  fun _ _ => Pushed.nil

/-- A coroutine that raises at once. -/
theorem raise : PushesEachWrite (Program.raise : Program SubmitSm α) :=
  fun _ _ => Pushed.nil

/-- A value or the exception in its place. -/
theorem ofOption (value : Option α) :
    PushesEachWrite (Program.ofOption value : Program SubmitSm α) := by
  cases value
  exacts [raise, done _]

/-- `yield` on a coroutine, then the rest. -/
theorem bind {first : Program SubmitSm α} {rest : α → Program SubmitSm β}
    (before : PushesEachWrite first) (after : ∀ value, PushesEachWrite (rest value)) :
    PushesEachWrite (first.bind rest) := by
  intro replies choices
  rcases ran : first.run replies choices with ⟨effects, _ | value⟩
  · rw [Program.run_bind_none ran]
    simpa [ran] using before replies choices
  · rw [Program.run_bind_some ran]
    exact (by simpa [ran] using before replies choices : Pushed effects).append (after value _ _)

/-- `randint`, then the rest. -/
theorem randint {low high : Nat} {next : Nat → Program SubmitSm α}
    (each : ∀ value, PushesEachWrite (next value)) :
    PushesEachWrite (Program.randint low high next) :=
  fun _ _ => (each _ _ _).cons_aside rfl rfl

/-- The multipart loop, where each segment's coroutine pushes what it writes. -/
theorem submitSegments {segment : Nat → Bytes → Program SubmitSm Nat}
    (each : ∀ index msg, PushesEachWrite (segment index msg)) :
    ∀ index segments, PushesEachWrite (Client.submitSegments segment index segments)
  | _, [] => done []
  | index, msg :: rest => (each index msg).bind fun _ =>
      (submitSegments each (index + 1) rest).bind fun _ => done _

end PushesEachWrite

/-- `update_ussd_pdu` keeps the sequence number. -/
theorem updateUssdPdu_sequenceNumber {continueSession sessionInfo : Value} {pdu after : SubmitSm}
    (updated : updateUssdPdu continueSession sessionInfo pdu = some after) :
    after.sequenceNumber = pdu.sequenceNumber := by
  simp only [updateUssdPdu, Option.map_eq_some'] at updated
  obtain ⟨_, -, rfl⟩ := updated
  rfl

/-- Adding the message payload keeps the sequence number. -/
theorem addLongMessage_sequenceNumber {sendLongMessages : Bool} {message : Value}
    {pdu after : SubmitSm} (added : addLongMessage sendLongMessages message pdu = some after) :
    after.sequenceNumber = pdu.sequenceNumber := by
  unfold addLongMessage at added
  aesop

/-- Setting the SAR parameters keeps the sequence number. -/
theorem setSarParams_sequenceNumber {sarParams : Value} {pdu after : SubmitSm}
    (set : setSarParams sarParams pdu = some after) : after.sequenceNumber = pdu.sequenceNumber := by
  unfold setSarParams at set
  aesop

/-- The PDU `_submit_sm` builds has the sequence number it took. -/
theorem buildSubmitSm_sequenceNumber {config : Config} {sequenceNumber : Nat} {params : Params}
    {pdu : SubmitSm} (built : buildSubmitSm config sequenceNumber params = some pdu) :
    pdu.sequenceNumber = sequenceNumber := by
  simp only [buildSubmitSm, Params.pop, Option.bind_eq_bind, Option.bind_eq_some] at built
  obtain ⟨message, -, built⟩ := built
  split at built
  all_goals
    obtain ⟨first, firstBuilt, built⟩ := Option.bind_eq_some.1 built
    obtain ⟨longPdu, long, set⟩ := Option.bind_eq_some.1 built
    rw [setSarParams_sequenceNumber set, addLongMessage_sequenceNumber long]
  · exact updateUssdPdu_sequenceNumber firstBuilt
  · cases firstBuilt
    rfl

/-- `_submit_sm` writes at most its one PDU, with the number `get_next_seq` gave it, and the
next command is the `LPUSH` of that number; where `get_bin` raises it writes and pushes
nothing. -/
theorem submitSmPdu_pushes (config : Config) (params : Params) :
    PushesEachWrite (submitSmPdu config params) := by
  intro replies choices
  rcases first : replies 0 with sequenceNumber | _
  · simp only [submitSmPdu, Program.request, Program.bind_eq, Program.bind,
      Program.run_await_ok first]
    rcases built : buildSubmitSm config sequenceNumber params with _ | pdu
    · exact Pushed.nil.cons_aside rfl rfl
    · have numbered := buildSubmitSm_sequenceNumber built
      simp only [Program.ofOption, Program.bind, SubmitSm.sendPdu]
      split
      case isFalse => exact Pushed.nil.cons_aside rfl rfl
      case isTrue =>
        simp only [Program.bind, Program.send, pushUnacked, Program.request, Program.bind_eq,
          Program.run]
        -- the replies to the `LPUSH` and, after one that succeeds, to the `LLEN`
        split <;> (try split) <;> exact ⟨by simp [Effect.unackedView, Effect.written, numbered],
          by simp [Effect.written, Effect.allocated, numbered]⟩
  · rw [submitSmPdu, Program.bind_eq, Program.request, Program.bind,
      Program.run_await_failed first]
    exact Pushed.nil.cons_aside rfl rfl

/-- The values pushed are the right halves of what the list sees. -/
theorem Effect.pushed_eq_unackedView (effects : List (Effect SubmitSm)) :
    Effect.pushed effects = (effects.filterMap Effect.unackedView).filterMap Sum.getRight? := by
  induction effects with
  | nil => rfl
  | cons effect effects ih =>
    rcases effect with pdu | ⟨_ | value | _, reply⟩ | value <;>
      simpa [Effect.pushed, Effect.unackedView] using ih

/-- Where each write is followed by its `LPUSH`, the values pushed are the numbers written. -/
theorem pushed_eq_written {effects : List (Effect SubmitSm)}
    (paired : effects.filterMap Effect.unackedView =
      (Effect.written effects).flatMap (fun pdu => [.inl pdu, .inr pdu.sequenceNumber])) :
    Effect.pushed effects = (Effect.written effects).map SubmitSm.sequenceNumber := by
  rw [Effect.pushed_eq_unackedView, paired]
  induction Effect.written effects with
  | nil => rfl
  | cons pdu pdus ih => simp [ih]

/-- Submits fed in order to a party of the `unacked` model leave their `LPUSH`es pending, in
order, and count as written. -/
theorem Unacked.Party.foldl_submitSm (sequenceNumbers : List Nat) (party : Unacked.Party) :
    (sequenceNumbers.foldl (fun party sequenceNumber => party.submitSm sequenceNumber)
        party).pending = party.pending ++ sequenceNumbers.map Unacked.Command.lpush ∧
      (sequenceNumbers.foldl (fun party sequenceNumber => party.submitSm sequenceNumber)
        party).written = party.written + sequenceNumbers.length := by
  induction sequenceNumbers generalizing party with
  | nil => simp
  | cons sequenceNumber sequenceNumbers ih =>
    obtain ⟨pending, written⟩ := ih (party.submitSm sequenceNumber)
    rw [List.foldl_cons, pending, written]
    simp only [Unacked.Party.submitSm, List.map_cons, List.append_assoc, List.singleton_append,
      List.length_cons, true_and]
    omega

/-- In every run of `submit_sm`, whatever the arguments, the state, the store's replies and
the draws, each PDU written carries a number `get_next_seq` returned and is followed by the
`LPUSH` of that number before any other write or `LPUSH`, and no other `LPUSH` is issued. -/
theorem submitSm_pushes_each_write (config : Config) (state : SmppState)
    (bindParams kwargs : Params) : PushesEachWrite (submitSm config state bindParams kwargs) := by
  have multipart : ∀ segmentParams pduParams,
      PushesEachWrite (submitMultipart segmentParams config pduParams) := fun _ _ =>
    (PushesEachWrite.ofOption _).bind fun _ =>
      PushesEachWrite.randint fun _ =>
        PushesEachWrite.submitSegments (fun _ _ =>
          (PushesEachWrite.ofOption _).bind fun _ => submitSmPdu_pushes config _) _ _
  unfold submitSm
  split
  · refine (PushesEachWrite.ofOption _).bind fun _ => (PushesEachWrite.ofOption _).bind fun _ => ?_
    split
    · exact (multipart _ _).bind fun _ => .done _
    · split
      · exact (multipart _ _).bind fun _ => .done _
      · exact (submitSmPdu_pushes config _).bind fun _ => .done _
  · exact .done _

/-- The PDUs a run of `submit_sm` writes, fed in order to the `unacked` model's
`Party.submitSm`, leave pending exactly the `LPUSH`es the run issued, in the order issued, and
count as that many submits written. -/
theorem submitSm_refines_unacked (config : Config) (state : SmppState)
    (bindParams kwargs : Params) (replies : Nat → Outcome) (choices : Nat → Nat)
    (party : Unacked.Party) :
    let effects := ((submitSm config state bindParams kwargs).run replies choices).1
    let after := ((Effect.written effects).map SubmitSm.sequenceNumber).foldl
      (fun party sequenceNumber => party.submitSm sequenceNumber) party
    after.pending = party.pending ++ (Effect.pushed effects).map Unacked.Command.lpush ∧
      after.written = party.written + (Effect.written effects).length := by
  have pushed := (submitSm_pushes_each_write config state bindParams kwargs replies choices).1
  dsimp only
  rw [pushed_eq_written pushed, ← List.length_map _ SubmitSm.sequenceNumber]
  exact Unacked.Party.foldl_submitSm _ party

end VumiSmpp.Client

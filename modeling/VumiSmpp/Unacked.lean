import Mathlib.Algebra.Order.BigOperators.Group.Finset
import Mathlib.Data.Fintype.Fin

/-!
# The `unacked` list that sessions share

Sessions count their unacknowledged submits in one list of the store. `_submit_sm` writes the
`submit_sm` and at once issues `LPUSH unacked <sequence number>` (`push_unacked`);
`handle_submit_sm_resp` at once issues `LPOP unacked` (`pop_unacked`). The store runs each
session's commands in the order the session issued them, and the commands of different sessions
in any interleaving. A session dispatches a `submit_sm_resp` only for a `submit_sm` it wrote and
has not yet seen answered. The reads of `get_unacked_count` change nothing and are left out.

Each session's pending commands are covered: running them in order from the entries the session
has pushed and not popped, no `LPOP` runs out. So in every run no `LPOP` finds the list empty,
and whenever no command is pending the list holds as many entries as submits written less
responses dispatched, over all sessions.
-/

namespace VumiSmpp.Unacked

open Finset

/-- A command a session has issued on the list. -/
inductive Command where
  /-- `self.redis.lpush("unacked", sequence_number)`. -/
  | lpush (value : Nat)
  /-- `self.redis.lpop("unacked")`. -/
  | lpop
  deriving DecidableEq, Repr

/-- The `LPUSH`es among commands. -/
def pushes : List Command → Nat
  | [] => 0
  | .lpush _ :: rest => pushes rest + 1
  | .lpop :: rest => pushes rest

/-- The `LPOP`s among commands. -/
def pops : List Command → Nat
  | [] => 0
  | .lpush _ :: rest => pops rest
  | .lpop :: rest => pops rest + 1

/-- The `LPUSH`es of two command lists add up. -/
@[simp] theorem pushes_append (first second : List Command) :
    pushes (first ++ second) = pushes first + pushes second := by
  induction first with
  | nil => simp [pushes]
  | cons command rest ih => cases command <;> simp [pushes, ih, Nat.add_right_comm]

/-- The `LPOP`s of two command lists add up. -/
@[simp] theorem pops_append (first second : List Command) :
    pops (first ++ second) = pops first + pops second := by
  induction first with
  | nil => simp [pops]
  | cons command rest ih => cases command <;> simp [pops, ih, Nat.add_right_comm]

/-- One session, as the list sees it. -/
structure Party where
  /-- Commands issued on the session's store connection and not yet run, oldest first. -/
  pending : List Command
  /-- Sequence numbers of the `submit_sm` PDUs written and not yet answered. -/
  outstanding : List Nat
  /-- `submit_sm` PDUs written (a record of the run). -/
  written : Nat
  /-- `submit_sm_resp` PDUs dispatched (a record of the run). -/
  dispatched : Nat
  /-- `LPUSH`es of the session the store has run (a record of the run). -/
  pushed : Nat
  /-- `LPOP`s of the session the store has run (a record of the run). -/
  popped : Nat
  deriving DecidableEq, Repr

/-- A session that has submitted nothing. -/
def Party.idle : Party := ⟨[], [], 0, 0, 0, 0⟩

/-- `_submit_sm` once it has its sequence number: `send_pdu`, then `push_unacked`, which issues
the `LPUSH`. -/
def Party.submitSm (sequenceNumber : Nat) (party : Party) : Party :=
  { party with
    pending := party.pending ++ [.lpush sequenceNumber]
    outstanding := party.outstanding ++ [sequenceNumber]
    written := party.written + 1 }

/-- `handle_submit_sm_resp` for the response to `sequenceNumber`, up to `pop_unacked`, which
issues the `LPOP`. -/
def Party.handleSubmitSmResp (sequenceNumber : Nat) (party : Party) : Party :=
  { party with
    pending := party.pending ++ [.lpop]
    outstanding := party.outstanding.erase sequenceNumber
    dispatched := party.dispatched + 1 }

/-- The store and the sessions sharing it. -/
structure Ledger (parties : Nat) where
  /-- The list `unacked`. -/
  unacked : List Nat
  /-- The sessions. -/
  party : Fin parties → Party
  /-- `LPOP`s that found the list empty (a record of the run). -/
  emptyPops : Nat

/-- An empty list, and sessions that have submitted nothing. -/
def Ledger.init (parties : Nat) : Ledger parties :=
  ⟨[], fun _ => .idle, 0⟩

/-- The store runs the oldest pending command of a session: `LPUSH` puts its value at the head,
`LPOP` removes the head and finds nothing on an empty list. -/
def Ledger.runCommand {parties : Nat} (ledger : Ledger parties) (index : Fin parties) :
    Option (Ledger parties) :=
  let party := ledger.party index
  match party.pending with
  | [] => none
  | .lpush value :: rest =>
    some { ledger with
      unacked := value :: ledger.unacked
      party := Function.update ledger.party index
        { party with pending := rest, pushed := party.pushed + 1 } }
  | .lpop :: rest =>
    some { ledger with
      unacked := ledger.unacked.tail
      emptyPops := if ledger.unacked = [] then ledger.emptyPops + 1 else ledger.emptyPops
      party := Function.update ledger.party index
        { party with pending := rest, popped := party.popped + 1 } }

/-- What may happen next. -/
inductive Event (parties : Nat) where
  /-- A session writes a `submit_sm` with that sequence number. -/
  | submitSm (index : Fin parties) (sequenceNumber : Nat)
  /-- A session dispatches the `submit_sm_resp` to that sequence number. -/
  | submitSmResp (index : Fin parties) (sequenceNumber : Nat)
  /-- The store runs the oldest pending command of a session. -/
  | store (index : Fin parties)
  deriving DecidableEq, Repr

/-- One event; `none` for a response to no outstanding submit of the session, or a store with
nothing pending from it. -/
def Ledger.step {parties : Nat} (ledger : Ledger parties) :
    Event parties → Option (Ledger parties)
  | .submitSm index sequenceNumber =>
    some { ledger with
      party := Function.update ledger.party index ((ledger.party index).submitSm sequenceNumber) }
  | .submitSmResp index sequenceNumber =>
    if sequenceNumber ∈ (ledger.party index).outstanding then
      some { ledger with
        party := Function.update ledger.party index
          ((ledger.party index).handleSubmitSmResp sequenceNumber) }
    else none
  | .store index => ledger.runCommand index

/-- A run: the events in order, `none` if one of them cannot happen. -/
def Ledger.run {parties : Nat} (ledger : Ledger parties) : List (Event parties) →
    Option (Ledger parties)
  | [] => some ledger
  | event :: events => (ledger.step event).bind fun next => next.run events

/-! ## Covered commands -/

/-- The commands run in order from `credit` entries of the session's own without an `LPOP`
finding none of them. -/
def Covered : Nat → List Command → Prop
  | _, [] => True
  | credit, .lpush _ :: rest => Covered (credit + 1) rest
  | credit, .lpop :: rest => 0 < credit ∧ Covered (credit - 1) rest

/-- An `LPUSH` issued after covered commands is covered. -/
theorem covered_append_lpush {credit : Nat} {commands : List Command}
    (covered : Covered credit commands) (value : Nat) :
    Covered credit (commands ++ [.lpush value]) := by
  induction commands generalizing credit with
  | nil => trivial
  | cons command rest ih =>
    cases command with
    | lpush => exact ih covered
    | lpop => exact ⟨covered.1, ih covered.2⟩

/-- An `LPOP` issued after covered commands is covered when they leave an entry for it. -/
theorem covered_append_lpop {credit : Nat} {commands : List Command}
    (covered : Covered credit commands) (enough : pops commands < credit + pushes commands) :
    Covered credit (commands ++ [.lpop]) := by
  induction commands generalizing credit with
  | nil => exact ⟨by simpa [pops, pushes] using enough, trivial⟩
  | cons command rest ih =>
    cases command with
    | lpush => exact ih covered (by simp only [pops, pushes] at enough; omega)
    | lpop =>
      exact ⟨covered.1, ih covered.2 (by simp only [pops, pushes] at enough; omega)⟩

/-! ## What every run keeps -/

/-- What each session keeps: its commands account for what it wrote and dispatched, every
response answers a distinct submit, and its pending commands are covered. -/
structure Party.Balanced (party : Party) : Prop where
  /-- Every submit written has its `LPUSH` run or pending. -/
  issuedPushes : party.pushed + pushes party.pending = party.written
  /-- Every response dispatched has its `LPOP` run or pending. -/
  issuedPops : party.popped + pops party.pending = party.dispatched
  /-- Every response answers a distinct submit. -/
  answered : party.outstanding.length + party.dispatched = party.written
  /-- The session has popped no more than it pushed. -/
  credit : party.popped ≤ party.pushed
  /-- Its pending commands are covered by what it pushed and has not popped. -/
  covered : Covered (party.pushed - party.popped) party.pending

namespace Party.Balanced

variable {party : Party}

/-- A session that has submitted nothing is balanced. -/
theorem idle : Party.idle.Balanced :=
  ⟨rfl, rfl, rfl, le_rfl, trivial⟩

/-- A submit keeps the session balanced. -/
theorem submitSm (balanced : party.Balanced) (sequenceNumber : Nat) :
    (party.submitSm sequenceNumber).Balanced where
  issuedPushes := by simp [Party.submitSm, pushes, ← balanced.issuedPushes]; omega
  issuedPops := by simp [Party.submitSm, pops, ← balanced.issuedPops]
  answered := by simp [Party.submitSm, ← balanced.answered]; omega
  credit := balanced.credit
  covered := covered_append_lpush balanced.covered sequenceNumber

/-- A response to an outstanding submit keeps the session balanced. -/
theorem handleSubmitSmResp (balanced : party.Balanced) {sequenceNumber : Nat}
    (outstanding : sequenceNumber ∈ party.outstanding) :
    (party.handleSubmitSmResp sequenceNumber).Balanced := by
  have shorter := List.length_erase_of_mem outstanding
  have nonempty := List.length_pos_of_mem outstanding
  have ⟨pushed, popped, answered, credit, covered⟩ := balanced
  exact {
    issuedPushes := by simp [Party.handleSubmitSmResp, pushes, pushed]
    issuedPops := by simp [Party.handleSubmitSmResp, pops, ← popped]; omega
    answered := by simp only [Party.handleSubmitSmResp, shorter]; omega
    credit := credit
    covered := covered_append_lpop covered (by dsimp only [Party.handleSubmitSmResp]; omega) }

end Party.Balanced

/-- A sum over the sessions after one of them changes. -/
theorem sum_update {parties : Nat} (party : Fin parties → Party) (index : Fin parties)
    (new : Party) (field : Party → Nat) :
    ∑ other, field (Function.update party index new other) + field (party index) =
      ∑ other, field (party other) + field new := by
  simp only [Function.apply_update (fun _ => field)]
  rw [sum_update_of_mem (mem_univ index), sum_eq_add_sum_diff_singleton (mem_univ index)]
  omega

/-- What every run keeps: each session is balanced, the list holds what the sessions pushed
and did not pop, and no `LPOP` has found it empty. -/
structure Ledger.Balanced {parties : Nat} (ledger : Ledger parties) : Prop where
  /-- Each session is balanced. -/
  party : ∀ index, (ledger.party index).Balanced
  /-- The list holds what was pushed and not popped. -/
  length : ledger.unacked.length + ∑ index, (ledger.party index).popped =
    ∑ index, (ledger.party index).pushed
  /-- No `LPOP` has found the list empty. -/
  noEmptyPops : ledger.emptyPops = 0

namespace Ledger.Balanced

variable {parties : Nat} {ledger : Ledger parties}

/-- An empty list shared by idle sessions is balanced. -/
theorem init (parties : Nat) : (Ledger.init parties).Balanced :=
  ⟨fun _ => Party.Balanced.idle, by simp [Ledger.init, Party.idle], rfl⟩

/-- Replacing the list and a session by a balanced one keeps the ledger balanced when the list
grows by what the session's run `LPUSH`es grew, less what its run `LPOP`s grew. -/
theorem update (balanced : ledger.Balanced) {index : Fin parties} {new : Party}
    (kept : new.Balanced) {unacked : List Nat}
    (length : unacked.length + new.popped + (ledger.party index).pushed =
      ledger.unacked.length + (ledger.party index).popped + new.pushed) :
    ({ ledger with unacked := unacked, party := Function.update ledger.party index new } :
      Ledger parties).Balanced where
  party other := by
    by_cases same : other = index
    · subst same
      simpa using kept
    · simpa [same] using balanced.party other
  length := by
    have pushes := sum_update ledger.party index new Party.pushed
    have pops := sum_update ledger.party index new Party.popped
    have := balanced.length
    dsimp only at pushes pops ⊢
    omega
  noEmptyPops := balanced.noEmptyPops

/-- The store running a command keeps the ledger balanced: an `LPOP` finds an entry. -/
theorem runCommand (balanced : ledger.Balanced) {index : Fin parties} {after : Ledger parties}
    (ran : ledger.runCommand index = some after) : after.Balanced := by
  have ⟨issuedPushes, issuedPops, answered, credit, covered⟩ := balanced.party index
  unfold Ledger.runCommand at ran
  dsimp only at ran
  cases pending : (ledger.party index).pending with
  | nil => simp [pending] at ran
  | cons command rest =>
    rw [pending] at issuedPushes issuedPops covered
    cases command with
    | lpush value =>
      simp only [pending, Option.some.injEq] at ran
      subst ran
      simp only [pushes] at issuedPushes
      have kept : Party.Balanced { ledger.party index with
          pending := rest, pushed := (ledger.party index).pushed + 1 } :=
        ⟨by dsimp only; omega, issuedPops, answered, by dsimp only; omega,
          by simpa [Nat.sub_add_comm credit] using covered⟩
      exact balanced.update kept (by simp; omega)
    | lpop =>
      simp only [pending, Option.some.injEq] at ran
      subst ran
      obtain ⟨positive, covered⟩ := covered
      simp only [pops] at issuedPops
      have fewer :
          ∑ other, (ledger.party other).popped < ∑ other, (ledger.party other).pushed :=
        sum_lt_sum (fun other _ => (balanced.party other).credit) ⟨index, mem_univ _, by omega⟩
      have nonempty : 0 < ledger.unacked.length := by
        have := balanced.length
        omega
      have kept : Party.Balanced { ledger.party index with
          pending := rest, popped := (ledger.party index).popped + 1 } :=
        ⟨issuedPushes, by dsimp only; omega, answered, by dsimp only; omega,
          by simpa [Nat.sub_sub] using covered⟩
      rw [if_neg (List.length_pos.1 nonempty)]
      exact balanced.update kept (by simp only [List.length_tail]; omega)

/-- Every event keeps the ledger balanced. -/
theorem step (balanced : ledger.Balanced) {event : Event parties} {after : Ledger parties}
    (stepped : ledger.step event = some after) : after.Balanced := by
  cases event with
  | submitSm index sequenceNumber =>
    cases stepped
    exact balanced.update ((balanced.party index).submitSm sequenceNumber) rfl
  | submitSmResp index sequenceNumber =>
    simp only [Ledger.step] at stepped
    split at stepped
    · rename_i outstanding
      cases stepped
      exact balanced.update ((balanced.party index).handleSubmitSmResp outstanding) rfl
    · cases stepped
  | store index => exact balanced.runCommand stepped

/-- Every run keeps the ledger balanced. -/
theorem run (balanced : ledger.Balanced) {events : List (Event parties)} {after : Ledger parties}
    (ran : ledger.run events = some after) : after.Balanced := by
  induction events generalizing ledger with
  | nil => exact Option.some.inj ran ▸ balanced
  | cons event events ih =>
    obtain ⟨next, stepped, rest⟩ := Option.bind_eq_some.1 ran
    exact ih (balanced.step stepped) rest

end Ledger.Balanced

/-- In every run of any number of sessions, no `LPOP` finds the list empty, and whenever no
command is pending the list holds as many entries as submits written less responses
dispatched, over all sessions. -/
theorem unacked_balances_submits (parties : Nat) (events : List (Event parties))
    (after : Ledger parties) (ran : (Ledger.init parties).run events = some after) :
    after.emptyPops = 0 ∧ ((∀ index, (after.party index).pending = []) →
      after.unacked.length + ∑ index, (after.party index).dispatched =
        ∑ index, (after.party index).written) := by
  have balanced := (Ledger.Balanced.init parties).run ran
  refine ⟨balanced.noEmptyPops, fun settled => ?_⟩
  have pushed (index : Fin parties) :
      (after.party index).written = (after.party index).pushed := by
    simpa [settled index, pushes] using (balanced.party index).issuedPushes.symm
  have popped (index : Fin parties) :
      (after.party index).dispatched = (after.party index).popped := by
    simpa [settled index, pops] using (balanced.party index).issuedPops.symm
  simpa only [pushed, popped] using balanced.length

/-- Two sessions submit; the first has its response dispatched before the store runs its
`LPUSH`, which the store then runs before the `LPOP`. The run ends with no command pending,
`unacked` holding the second session's `6`, two submits written and one response
dispatched. -/
theorem unacked_balances_two_sessions :
    ∃ after, (Ledger.init 2).run
        [.submitSm 0 5, .submitSm 1 6, .submitSmResp 0 5, .store 1, .store 0, .store 0] =
        some after ∧
      (∀ index, (after.party index).pending = []) ∧ after.unacked = [6] ∧
      ∑ index, (after.party index).written = 2 ∧ ∑ index, (after.party index).dispatched = 1 ∧
      after.emptyPops = 0 ∧ ((∀ index, (after.party index).pending = []) →
        after.unacked.length + ∑ index, (after.party index).dispatched =
          ∑ index, (after.party index).written) :=
  ⟨_, rfl, by decide, rfl, by decide, by decide,
    unacked_balances_submits 2
      [.submitSm 0 5, .submitSm 1 6, .submitSmResp 0 5, .store 1, .store 0, .store 0] _ rfl⟩

end VumiSmpp.Unacked

import Mathlib.Data.List.Chain

/-!
# The shared sequence-number counter

`EsmeTransceiver.get_next_seq` allocates SMPP sequence numbers with `INCR` on a counter in the
shared store. From `0xFFFF0000` on it also calls `_reset_seq_counter`, which takes the lock
`smpp_last_sequence_number_wrap` with `SETNX`, sets a ten-second expiry when `TTL` finds none,
and deletes the counter when `GET` still finds it at or above the threshold. Any number of
calls, from any sessions, run at once: each store command is atomic and the commands of
different calls interleave. A run is a list of events: a call runs its next command, a call
stops for good, or the lock's expiry elapses. The run keeps the values `INCR` produced, in
order; the code does not, the statements below are about them.
-/

namespace VumiSmpp.SequenceNumber

/-- `0xFFFF0000`, from which `get_next_seq` tries to reset the counter. -/
def wrapThreshold : Nat := 0xFFFF0000

/-- `0xFFFFFFFF`, the largest valid SMPP sequence number. -/
def maxSequenceNumber : Nat := 0xFFFFFFFF

/-- The key `smpp_last_sequence_number_wrap`. -/
inductive Lock where
  /-- Never taken, or expired. -/
  | absent
  /-- Set by `SETNX`; `expiring` once an `EXPIRE` has given it a time to live. -/
  | held (expiring : Bool)
  deriving DecidableEq, Repr

/-- The two keys of the shared store that `get_next_seq` uses. -/
structure Store where
  /-- `smpp_last_sequence_number`, absent before the first `INCR` and after a `DEL`. -/
  counter : Option Nat
  /-- `smpp_last_sequence_number_wrap`. -/
  lock : Lock
  deriving DecidableEq, Repr

/-- Where one `get_next_seq` call stands: the store command it runs next, with the values its
code holds (`seq` from `INCR`, `locked` from `SETNX`). -/
inductive Call where
  /-- Before `INCR`. -/
  | incr
  /-- In `_reset_seq_counter`, before `SETNX`. -/
  | setnx (seq : Nat)
  /-- Before `TTL`. -/
  | ttl (seq : Nat) (locked : Bool)
  /-- Before `EXPIRE`, the time to live having been found negative. -/
  | expire (seq : Nat) (locked : Bool)
  /-- Holding the lock, before `GET`. -/
  | get (seq : Nat)
  /-- Holding the lock, before `DEL`. -/
  | del (seq : Nat)
  /-- `returnValue(seq)`. -/
  | returned (seq : Nat)
  /-- Stopped for good. -/
  | stopped
  deriving DecidableEq, Repr

/-- `INCR smpp_last_sequence_number`: an absent counter counts from zero. -/
def incrResult (counter : Option Nat) : Nat :=
  counter.getD 0 + 1

/-- The rest of `get_next_seq` after `INCR`: reset from the threshold on, then return. -/
def afterIncr (seq : Nat) : Call :=
  if wrapThreshold ≤ seq then .setnx seq else .returned seq

/-- `SETNX smpp_last_sequence_number_wrap 1`: whether it set the key, and the key after. -/
def Lock.setnx : Lock → Bool × Lock
  | .absent => (true, .held false)
  | .held expiring => (false, .held expiring)

/-- `TTL` is negative for a key that is absent or has no expiry. -/
def Lock.ttlNegative : Lock → Bool
  | .absent => true
  | .held expiring => !expiring

/-- `EXPIRE` gives a key that exists a time to live. -/
def Lock.expire : Lock → Lock
  | .absent => .absent
  | .held _ => .held true

/-- `if not locked: return`, after the `TTL` check. -/
def afterTtl (seq : Nat) (locked : Bool) : Call :=
  if locked then .get seq else .returned seq

/-- `(yield self.redis.get(...)) < 0xFFFF0000`; Python 2 orders `None` below every integer. -/
def belowThreshold : Option Nat → Bool
  | none => true
  | some value => value < wrapThreshold

/-- One store command of a call, with the code that runs up to its next command. -/
def Call.run : Call → Store → Call × Store
  | .incr, store =>
    (afterIncr (incrResult store.counter),
      { store with counter := some (incrResult store.counter) })
  | .setnx seq, store => (.ttl seq store.lock.setnx.1, { store with lock := store.lock.setnx.2 })
  | .ttl seq locked, store =>
    (if store.lock.ttlNegative then .expire seq locked else afterTtl seq locked, store)
  | .expire seq locked, store => (afterTtl seq locked, { store with lock := store.lock.expire })
  | .get seq, store => (if belowThreshold store.counter then .returned seq else .del seq, store)
  | .del seq, store => (.returned seq, { store with counter := none })
  | .returned seq, store => (.returned seq, store)
  | .stopped, store => (.stopped, store)

/-- The sequence number a call holds, once its `INCR` has run. -/
def Call.seq? : Call → Option Nat
  | .incr | .stopped => none
  | .setnx seq | .ttl seq _ | .expire seq _ | .get seq | .del seq | .returned seq => some seq

/-- The call holds the lock: its `SETNX` returned 1 and its reset has not finished. -/
def Call.Holding : Call → Prop
  | .ttl _ locked | .expire _ locked => locked = true
  | .get _ | .del _ => True
  | _ => False

/-- The shared store, every call, and the values `INCR` produced so far, in order. -/
structure System where
  /-- The shared store. -/
  store : Store
  /-- Each call by its number; calls not yet started stand before `INCR`. -/
  calls : Nat → Call
  /-- The values `INCR` returned, in the order it ran. -/
  produced : List Nat

/-- What happens next in a run. -/
inductive Event where
  /-- The call runs its next store command. -/
  | run (call : Nat)
  /-- The call stops for good. -/
  | stop (call : Nat)
  /-- The lock's time to live elapses. -/
  | expire
  deriving DecidableEq, Repr

namespace System

/-- A store with the given counter and no lock, no call started. -/
def init (counter : Option Nat) : System where
  store := ⟨counter, .absent⟩
  calls := fun _ => .incr
  produced := []

/-- The call runs its next command; one that returned or stopped runs none. -/
def runCall (system : System) (call : Nat) : System where
  store := ((system.calls call).run system.store).2
  calls := Function.update system.calls call ((system.calls call).run system.store).1
  produced :=
    if system.calls call = .incr then system.produced ++ [incrResult system.store.counter]
    else system.produced

/-- The call stops for good, unless it has returned. -/
def stopCall (system : System) (call : Nat) : System :=
  match system.calls call with
  | .returned _ => system
  | _ => { system with calls := Function.update system.calls call .stopped }

/-- The lock expires, if an `EXPIRE` has given it a time to live. -/
def expireLock (system : System) : System :=
  match system.store.lock with
  | .held true => { system with store := { system.store with lock := .absent } }
  | _ => system

/-- One event. -/
def step (system : System) : Event → System
  | .run call => system.runCall call
  | .stop call => system.stopCall call
  | .expire => system.expireLock

/-- A run: the events in order. -/
def run (system : System) (events : List Event) : System :=
  events.foldl step system

end System

/-! ## One command -/

/-- A command other than `INCR` keeps the sequence number the call holds. -/
theorem Call.run_seq {current : Call} (store : Store) (started : current ≠ .incr) :
    (current.run store).1.seq? = current.seq? := by
  cases current <;> simp only [Call.run, ne_eq, not_true_eq_false] at started ⊢ <;>
    (try split) <;> (try cases ‹Bool›) <;> rfl

/-- A command other than `INCR` leaves the counter alone or deletes it. -/
theorem Call.run_counter {current : Call} (store : Store) (started : current ≠ .incr) :
    (current.run store).2.counter = store.counter ∨ (current.run store).2.counter = none := by
  cases current <;> simp [Call.run] at started ⊢

/-- A call that has just run `INCR` holds no lock. -/
@[simp] theorem Call.holding_afterIncr (seq : Nat) : ¬ (afterIncr seq).Holding := by
  unfold afterIncr; split_ifs <;> exact id

/-- After `TTL` a call holds the lock exactly when it took it. -/
@[simp] theorem Call.holding_afterTtl (seq : Nat) (locked : Bool) :
    (afterTtl seq locked).Holding ↔ locked = true := by
  cases locked <;> simp [afterTtl, Call.Holding]

/-- A call comes to hold the lock only by a `SETNX` that finds it absent. -/
theorem Call.holding_run {current : Call} {store : Store}
    (holding : (current.run store).1.Holding) :
    current.Holding ∨ (store.lock = .absent ∧ (current.run store).2.lock ≠ .absent) := by
  cases current with
  | incr => exact absurd holding (Call.holding_afterIncr _)
  | setnx seq => cases lock : store.lock <;> simp_all [Call.run, Lock.setnx, Call.Holding]
  | ttl seq locked =>
    simp only [Call.run] at holding
    split_ifs at holding
    · exact .inl holding
    · exact .inl ((Call.holding_afterTtl seq locked).1 holding)
  | expire seq locked => exact .inl ((Call.holding_afterTtl seq locked).1 holding)
  | get seq => exact .inl trivial
  | del seq | returned seq | stopped => simp [Call.run, Call.Holding] at holding

/-- No command removes the lock; only its expiry does. -/
theorem Call.lock_run {current : Call} {store : Store}
    (absent : (current.run store).2.lock = .absent) : store.lock = .absent := by
  cases current <;> cases lock : store.lock <;> simp_all [Call.run, Lock.setnx, Lock.expire]

/-- Only `DEL` removes a counter that is there. -/
theorem Call.counter_run_none {current : Call} {store : Store}
    (removed : (current.run store).2.counter = none) :
    store.counter = none ∨ ∃ seq, current = .del seq := by
  cases current <;> simp_all [Call.run]

/-- The comparison is false only for a counter there and at or above the threshold. -/
theorem belowThreshold_eq_false {counter : Option Nat} :
    belowThreshold counter = false ↔
      ∃ value, counter = some value ∧ wrapThreshold ≤ value := by
  cases counter <;> simp [belowThreshold]

/-- A call reaches `DEL` only from a `GET` that found the counter at or above the threshold. -/
theorem Call.del_run {current : Call} {store : Store} {seq : Nat}
    (deleting : (current.run store).1 = .del seq) :
    current.Holding ∧ belowThreshold store.counter = false ∧
      (current.run store).2.counter = store.counter := by
  cases current with
  | incr => simp [Call.run, afterIncr] at deleting; split_ifs at deleting
  | ttl seq locked => simp [Call.run, afterTtl] at deleting; split_ifs at deleting
  | expire seq locked => simp [Call.run, afterTtl] at deleting; split_ifs at deleting
  | get seq =>
    simp only [Call.run] at deleting
    split_ifs at deleting with below
    exact ⟨trivial, by simpa using below, rfl⟩
  | _ => simp [Call.run] at deleting

namespace System

/-- A command changes the store as the call runs it. -/
@[simp] theorem runCall_store (system : System) (call : Nat) :
    (system.runCall call).store = ((system.calls call).run system.store).2 := rfl

/-- A command moves only its own call on. -/
@[simp] theorem runCall_calls (system : System) (call other : Nat) :
    (system.runCall call).calls other =
      if other = call then ((system.calls call).run system.store).1 else system.calls other :=
  Function.update_apply _ _ _ _

/-- The empty run changes nothing. -/
@[simp] theorem run_nil (system : System) : system.run [] = system := rfl

/-- A run takes its first event, then the rest. -/
@[simp] theorem run_cons (system : System) (event : Event) (events : List Event) :
    system.run (event :: events) = (system.step event).run events := rfl

/-- An `INCR` appends its value and sets the counter to it. -/
theorem runCall_incr {system : System} {call : Nat} (started : system.calls call = .incr) :
    (system.runCall call).produced = system.produced ++ [incrResult system.store.counter] ∧
      (system.runCall call).store.counter = some (incrResult system.store.counter) ∧
      (system.runCall call).calls call = afterIncr (incrResult system.store.counter) := by
  simp [runCall, started, Call.run]

/-- Stopping a call leaves the store and the values produced. -/
@[simp] theorem stopCall_store (system : System) (call : Nat) :
    (system.stopCall call).store = system.store := by
  unfold stopCall; split <;> rfl

/-- Stopping a call produces nothing. -/
@[simp] theorem stopCall_produced (system : System) (call : Nat) :
    (system.stopCall call).produced = system.produced := by
  unfold stopCall; split <;> rfl

/-- Stopping a call leaves every call as it was or stopped. -/
theorem stopCall_calls (system : System) (call other : Nat) :
    (system.stopCall call).calls other = system.calls other ∨
      (system.stopCall call).calls other = .stopped := by
  unfold stopCall
  split
  · exact .inl rfl
  · by_cases same : other = call
    · exact .inr (same ▸ Function.update_same _ _ _)
    · exact .inl (Function.update_noteq same _ _)

/-- Expiry changes only the lock. -/
@[simp] theorem expireLock_calls (system : System) :
    system.expireLock.calls = system.calls := by
  unfold expireLock; split <;> rfl

/-- The lock expiring produces nothing. -/
@[simp] theorem expireLock_produced (system : System) :
    system.expireLock.produced = system.produced := by
  unfold expireLock; split <;> rfl

/-- The lock expiring leaves the counter. -/
@[simp] theorem expireLock_counter (system : System) :
    system.expireLock.store.counter = system.store.counter := by
  unfold expireLock; split <;> rfl

/-- The event of a command runs it. -/
@[simp] theorem step_run (system : System) (call : Nat) :
    system.step (.run call) = system.runCall call := rfl

/-- The event of a stop stops the call. -/
@[simp] theorem step_stop (system : System) (call : Nat) :
    system.step (.stop call) = system.stopCall call := rfl

/-- The event of an expiry expires the lock. -/
@[simp] theorem step_expire (system : System) : system.step .expire = system.expireLock := rfl

/-- Any other command appends nothing. -/
theorem runCall_produced {system : System} {call : Nat} (started : system.calls call ≠ .incr) :
    (system.runCall call).produced = system.produced := by
  simp [runCall, started]

end System

/-! ## What every run keeps -/

/-- Each `INCR` value is one more than the one before, or a restart at one. -/
def Increments (previous next : Nat) : Prop :=
  next = previous + 1 ∨ next = 1

/-- What every run keeps, whatever the lock does. -/
structure Tracked (system : System) : Prop where
  /-- The counter holds the last value produced, or its value below the threshold before any. -/
  counter : ∀ value, system.store.counter = some value →
    system.produced.getLast? = some value ∨ (system.produced = [] ∧ value < wrapThreshold)
  /-- Consecutive values increment or restart. -/
  increments : system.produced.Chain' Increments
  /-- The first value is at most the threshold. -/
  first : ∀ value ∈ system.produced.head?, value ≤ wrapThreshold
  /-- A call holds only a value that was produced. -/
  held : ∀ call, ∀ seq ∈ (system.calls call).seq?, seq ∈ system.produced
  /-- Every value produced is positive. -/
  positive : ∀ value ∈ system.produced, 1 ≤ value

namespace Tracked

variable {system : System}

/-- A run starts tracked from a counter below the threshold. -/
theorem init {counter : Option Nat} (below : ∀ value ∈ counter, value < wrapThreshold) :
    Tracked (System.init counter) where
  counter value initial := .inr ⟨rfl, below value initial⟩
  increments := List.chain'_nil
  first := by simp [System.init]
  held := by simp [System.init, Call.seq?]
  positive := by simp [System.init]

/-- An `INCR` follows the last value produced by one, or restarts at one. -/
theorem increments_incr (tracked : Tracked system) :
    ∀ last ∈ system.produced.getLast?, Increments last (incrResult system.store.counter) := by
  intro last found
  cases counter : system.store.counter with
  | none => exact .inr rfl
  | some value =>
    rcases tracked.counter value counter with same | ⟨empty, -⟩
    · obtain rfl : last = value := Option.some.inj (found.symm.trans same)
      exact .inl rfl
    · simp [empty] at found

/-- The first `INCR` produces at most the threshold. -/
theorem first_incr (tracked : Tracked system) (empty : system.produced = []) :
    incrResult system.store.counter ≤ wrapThreshold := by
  cases counter : system.store.counter with
  | none => simp [incrResult, wrapThreshold]
  | some value =>
    rcases tracked.counter value counter with same | ⟨-, below⟩
    · simp [empty] at same
    · simp only [incrResult, Option.getD_some]
      omega

/-- An `INCR` keeps the run tracked: its value follows the last one produced. -/
theorem incr (tracked : Tracked system) {call : Nat} (started : system.calls call = .incr) :
    Tracked (system.runCall call) := by
  obtain ⟨produced, counter, calls⟩ := System.runCall_incr started
  constructor
  · intro value set
    rw [counter] at set
    simp [produced, ← Option.some.inj set]
  · rw [produced]
    exact tracked.increments.append (List.chain'_singleton _) fun last found next head => by
      simp only [List.head?_cons, Option.mem_def, Option.some.injEq] at head
      exact head ▸ tracked.increments_incr last found
  · cases empty : system.produced with
    | nil => simpa [produced, empty] using tracked.first_incr empty
    | cons head tail => simpa [produced, empty] using tracked.first
  · intro other seq holds
    by_cases same : other = call
    · subst same
      rw [calls] at holds
      unfold afterIncr at holds
      split_ifs at holds <;> simp_all [Call.seq?]
    · simp only [System.runCall_calls, same, if_false] at holds
      exact produced ▸ List.mem_append_left _ (tracked.held other seq holds)
  · intro value mem
    rw [produced, List.mem_append, List.mem_singleton] at mem
    rcases mem with old | rfl
    · exact tracked.positive value old
    · simp [incrResult]

/-- A command past the `INCR` keeps the run tracked: it produces nothing and holds the value
its call held. -/
theorem resume (tracked : Tracked system) {call : Nat} (started : system.calls call ≠ .incr) :
    Tracked (system.runCall call) := by
  have produced := System.runCall_produced started
  constructor
  · intro value set
    rcases Call.run_counter system.store started with same | deleted
    · exact produced ▸ tracked.counter value (same ▸ set)
    · simp_all
  · exact produced ▸ tracked.increments
  · exact produced ▸ tracked.first
  · intro other seq holds
    by_cases same : other = call
    · subst same
      simp only [System.runCall_calls, if_true, Call.run_seq _ started] at holds
      exact produced ▸ tracked.held other seq holds
    · simp only [System.runCall_calls, same, if_false] at holds
      exact produced ▸ tracked.held other seq holds
  · exact produced ▸ tracked.positive

/-- Every command keeps the run tracked. -/
theorem runCall (tracked : Tracked system) (call : Nat) : Tracked (system.runCall call) :=
  if started : system.calls call = .incr then tracked.incr started else tracked.resume started

/-- Every event keeps the run tracked. -/
theorem step (tracked : Tracked system) (event : Event) : Tracked (system.step event) := by
  cases event with
  | run call => exact tracked.runCall call
  | stop call =>
    refine ⟨by simpa using tracked.counter, by simpa using tracked.increments,
      by simpa using tracked.first, ?_, by simpa using tracked.positive⟩
    intro other seq holds
    rcases System.stopCall_calls system call other with same | stopped
    · simpa using tracked.held other seq (same ▸ holds)
    · simp [stopped, Call.seq?] at holds
  | expire =>
    exact ⟨by simpa using tracked.counter, by simpa using tracked.increments,
      by simpa using tracked.first, by simpa using tracked.held, by simpa using tracked.positive⟩

/-- Every run stays tracked. -/
theorem run (tracked : Tracked system) (events : List Event) : Tracked (system.run events) := by
  induction events generalizing system with
  | nil => exact tracked
  | cons event events ih => exact ih (tracked.step event)

end Tracked

/-! ## The range of the values returned -/

/-- A value `gap` or more above `base`, in a list of values that increment or restart at one
and start at most at `base`, comes right after the `gap` values below it. -/
theorem range'_suffix_of_increments {values : List Nat} {value base : Nat} (gap : Nat)
    (increments : (values ++ [value]).Chain' Increments)
    (first : ∀ head ∈ (values ++ [value]).head?, head ≤ base) (two : 2 ≤ base)
    (high : base + gap ≤ value) : List.range' (value - gap) (gap + 1) <:+ values ++ [value] := by
  induction gap generalizing values value with
  | zero => simp
  | succ gap ih =>
    obtain rfl | ⟨init, previous, rfl⟩ := List.eq_nil_or_concat values
    · simp at first
      omega
    rw [List.concat_eq_append] at increments first
    have step : Increments previous value :=
      List.chain'_pair.1 (increments.suffix ⟨init, by simp⟩)
    have previous_eq : value = previous + 1 := by
      rcases step with next | restart
      · exact next
      · omega
    have before := @ih init previous increments.left_of_append
      (fun head found => first head (by rwa [List.head?_append_of_ne_nil _ (by simp)]))
      (by omega)
    obtain ⟨front, joined⟩ := before
    refine ⟨front, ?_⟩
    have low : value - (gap + 1) = previous - gap := by omega
    have top : previous - gap + 1 * (gap + 1) = value := by omega
    rw [List.range'_concat, low, top, ← List.append_assoc, joined, List.concat_eq_append]

/-- From a store below the threshold, every value a call returns is at least 1, and a value
above `0xFFFFFFFF` comes right after the `0x10000` values below it, all at or above the
threshold: the counter leaves the valid range only when `0x10000` allocations in a row pass
the threshold with no reset taking effect. -/
theorem get_next_seq_within_margin (counter : Option Nat)
    (below : ∀ value ∈ counter, value < wrapThreshold) (events : List Event) (call seq : Nat)
    (returned : ((System.init counter).run events).calls call = .returned seq) :
    1 ≤ seq ∧ (maxSequenceNumber < seq →
      List.range' (seq - 0x10000) 0x10001 <:+: ((System.init counter).run events).produced) := by
  have tracked := (Tracked.init below).run events
  have produced := tracked.held call seq (by simp [returned, Call.seq?])
  refine ⟨tracked.positive seq produced, fun high => ?_⟩
  obtain ⟨front, back, split⟩ := List.append_of_mem produced
  have leading : front ++ [seq] <+: ((System.init counter).run events).produced :=
    ⟨back, by simp [split]⟩
  have suffix := range'_suffix_of_increments 0x10000
    ( List.Chain'.prefix tracked.increments leading)
    (fun head found => tracked.first head (by rw [split]; cases front <;> simp_all))
    (by decide) (by unfold maxSequenceNumber at high; unfold wrapThreshold; omega)
  exact List.IsInfix.trans ( List.IsSuffix.isInfix suffix) ( List.IsPrefix.isInfix leading)

/-- From `0xFFFEFFFF` two interleaved calls pass the threshold: the first takes the lock and
resets the counter, the second finds the lock taken and returns `0xFFFF0001`, and a third call
then starts again from 1. -/
theorem get_next_seq_within_margin_across_reset :
    let events : List Event :=
      [.run 0, .run 1, .run 0, .run 1, .run 0, .run 0, .run 1, .run 0, .run 0, .run 2]
    let after := (System.init (some 0xFFFEFFFF)).run events
    (∀ value ∈ some 0xFFFEFFFF, value < wrapThreshold) ∧
      after.calls 1 = .returned 0xFFFF0001 ∧ after.calls 2 = .returned 1 ∧
      (1 ≤ 0xFFFF0001 ∧ (maxSequenceNumber < 0xFFFF0001 →
        List.range' (0xFFFF0001 - 0x10000) 0x10001 <:+: after.produced)) ∧
      (1 ≤ 1 ∧ (maxSequenceNumber < 1 → List.range' (1 - 0x10000) 0x10001 <:+: after.produced)) :=
  ⟨by simp [wrapThreshold], by decide, by decide,
    get_next_seq_within_margin (some 0xFFFEFFFF) (by simp [wrapThreshold])
      [.run 0, .run 1, .run 0, .run 1, .run 0, .run 0, .run 1, .run 0, .run 0, .run 2] 1
      0xFFFF0001 (by decide),
    get_next_seq_within_margin (some 0xFFFEFFFF) (by simp [wrapThreshold])
      [.run 0, .run 1, .run 0, .run 1, .run 0, .run 0, .run 1, .run 0, .run 0, .run 2] 2 1
      (by decide)⟩

/-- From `0xFFFFFFFE`, a second `INCR` before the first call's reset deletes the counter
yields `0x100000000`, which the second call returns. -/
theorem get_next_seq_returns_beyond_max :
    (∀ value ∈ some 0xFFFFFFFE, value ≤ 0xFFFFFFFE) ∧
      ((System.init (some 0xFFFFFFFE)).run
        [.run 0, .run 1, .run 1, .run 1, .run 1, .run 1, .run 1]).calls 1 =
        .returned 0x100000000 ∧ maxSequenceNumber < 0x100000000 :=
  ⟨by simp, by decide, by decide⟩

/-! ## Resets while the lock outlives its holder -/

/-- Each `INCR` value is one more than the one before, or a restart at one after a value at or
above the threshold. -/
def Successive (previous next : Nat) : Prop :=
  next = previous + 1 ∨ (next = 1 ∧ wrapThreshold ≤ previous)

/-- `_reset_seq_counter`'s docstring race: a holder's lock expires, a second call resets and
hands out 1 and 2, and the first holder's `DEL` then restarts the counter from 2. -/
theorem get_next_seq_reset_after_expiry :
    (∀ value ∈ some 0xFFFEFFFF, value < wrapThreshold) ∧
      ((System.init (some 0xFFFEFFFF)).run
        [.run 0, .run 0, .run 0, .run 0, .run 0, .expire,
          .run 1, .run 1, .run 1, .run 1, .run 1, .run 1,
          .run 2, .run 3, .run 0, .run 4]).produced = [0xFFFF0000, 0xFFFF0001, 1, 2, 1] ∧
      ¬ [0xFFFF0000, 0xFFFF0001, 1, 2, 1].Chain' Successive :=
  ⟨by simp [wrapThreshold], by decide, by simp [Successive, wrapThreshold]⟩

/-- The lock expires only while no call holds it: at each `expire` event of the run, no call
is between a `SETNX` that returned 1 and the end of its reset. -/
def ExpiresUnheld : System → List Event → Prop
  | _, [] => True
  | system, event :: events =>
    (event = .expire → ∀ call, ¬ (system.calls call).Holding) ∧
      ExpiresUnheld (system.step event) events

/-- What a run keeps while the lock outlives its holders. -/
structure Guarded (system : System) : Prop where
  /-- What every run keeps. -/
  tracked : Tracked system
  /-- At most one call holds the lock. -/
  single : ∀ one other,
    (system.calls one).Holding → (system.calls other).Holding → one = other
  /-- A held lock is in the store. -/
  locked : ∀ call, (system.calls call).Holding → system.store.lock ≠ .absent
  /-- A call about to `DEL` would find the counter at or above the threshold. -/
  deleting : ∀ call seq, system.calls call = .del seq →
    belowThreshold system.store.counter = false
  /-- A deleted counter was last at or above the threshold. -/
  deleted : system.store.counter = none →
    ∀ last ∈ system.produced.getLast?, wrapThreshold ≤ last
  /-- The values produced are successive. -/
  successive : system.produced.Chain' Successive

namespace Guarded

variable {system : System}

/-- A run starts guarded from a counter below the threshold. -/
theorem init {counter : Option Nat} (below : ∀ value ∈ counter, value < wrapThreshold) :
    Guarded (System.init counter) where
  tracked := Tracked.init below
  single := by simp [System.init, Call.Holding]
  locked := by simp [System.init, Call.Holding]
  deleting := by simp [System.init]
  deleted := by simp [System.init]
  successive := List.chain'_nil

/-- After a command, a holder held the lock before, or took it from an absent key. -/
theorem holders_runCall (call other : Nat)
    (holding : ((system.runCall call).calls other).Holding) :
    (system.calls other).Holding ∨
      (other = call ∧ system.store.lock = .absent ∧
        (system.runCall call).store.lock ≠ .absent) := by
  by_cases same : other = call
  · subst same
    simp only [System.runCall_calls, if_true] at holding
    exact (Call.holding_run holding).imp id fun fresh => ⟨rfl, fresh⟩
  · simp only [System.runCall_calls, same, if_false] at holding
    exact .inl holding

/-- After a command, a call about to `DEL` would still find the counter at or above the
threshold: only the lock's holder deletes it. -/
theorem deleting_runCall (guarded : Guarded system) (call : Nat) :
    ∀ other seq, (system.runCall call).calls other = .del seq →
      belowThreshold (system.runCall call).store.counter = false := by
  intro other seq deleting
  by_cases same : other = call
  · subst same
    simp only [System.runCall_calls, if_true] at deleting
    obtain ⟨-, below, counter⟩ := Call.del_run deleting
    simpa [counter] using below
  · simp only [System.runCall_calls, same, if_false] at deleting
    have below := guarded.deleting other seq deleting
    obtain ⟨value, counter, high⟩ := belowThreshold_eq_false.1 below
    by_cases started : system.calls call = .incr
    · rw [(System.runCall_incr started).2.1, belowThreshold_eq_false]
      exact ⟨_, rfl, by simp [incrResult, counter]; omega⟩
    · rcases Call.run_counter system.store started with kept | removed
      · simpa [kept] using below
      · rcases Call.counter_run_none removed with absent | ⟨seq', deleter⟩
        · simp [counter] at absent
        · exact absurd (guarded.single call other (by simp [deleter, Call.Holding])
            (by simp [deleting, Call.Holding])) (Ne.symm same)

/-- After a command, a deleted counter was last at or above the threshold. -/
theorem deleted_runCall (guarded : Guarded system) (call : Nat) :
    (system.runCall call).store.counter = none →
      ∀ last ∈ (system.runCall call).produced.getLast?, wrapThreshold ≤ last := by
  intro absent last found
  by_cases started : system.calls call = .incr
  · simp [started, Call.run] at absent
  · rw [System.runCall_produced started] at found
    rcases Call.counter_run_none absent with old | ⟨seq, deleter⟩
    · exact guarded.deleted old last found
    · obtain ⟨value, counter, high⟩ :=
        belowThreshold_eq_false.1 (guarded.deleting call seq deleter)
      rcases guarded.tracked.counter value counter with same | ⟨empty, -⟩
      · rw [same] at found
        exact Option.some.inj found ▸ high
      · simp [empty] at found

/-- After a command the values produced are still successive: an `INCR` restarts at 1 only
from a counter deleted after a value at or above the threshold. -/
theorem successive_runCall (guarded : Guarded system) (call : Nat) :
    (system.runCall call).produced.Chain' Successive := by
  by_cases started : system.calls call = .incr
  · rw [(System.runCall_incr started).1]
    refine guarded.successive.append (List.chain'_singleton _) fun last found next head => ?_
    simp only [List.head?_cons, Option.mem_def, Option.some.injEq] at head
    subst head
    cases counter : system.store.counter with
    | none => exact .inr ⟨by simp [incrResult, counter], guarded.deleted counter last found⟩
    | some value =>
      rcases guarded.tracked.counter value counter with same | ⟨empty, -⟩
      · exact .inl (by rw [same] at found; simp [incrResult, counter, Option.some.inj found])
      · simp [empty] at found
  · exact (System.runCall_produced started).symm ▸ guarded.successive

/-- Every command keeps the run guarded. -/
theorem runCall (guarded : Guarded system) (call : Nat) : Guarded (system.runCall call) := by
  have kept (present : system.store.lock ≠ .absent) :
      (system.runCall call).store.lock ≠ .absent := fun absent =>
    present (Call.lock_run absent)
  refine ⟨guarded.tracked.runCall call, ?_, ?_, guarded.deleting_runCall call,
    guarded.deleted_runCall call, guarded.successive_runCall call⟩
  · intro one other first second
    rcases holders_runCall call one first with old | ⟨taker, free, -⟩ <;>
      rcases holders_runCall call other second with old' | ⟨taker', free', -⟩
    · exact guarded.single one other old old'
    · exact absurd free' (guarded.locked one old)
    · exact absurd free (guarded.locked other old')
    · exact taker.trans taker'.symm
  · intro other holding
    rcases holders_runCall call other holding with old | ⟨-, -, present⟩
    · exact kept (guarded.locked other old)
    · exact present

/-- Every event keeps the run guarded, an expiry when no call holds the lock. -/
theorem step (guarded : Guarded system) (event : Event)
    (unheld : event = .expire → ∀ call, ¬ (system.calls call).Holding) :
    Guarded (system.step event) := by
  cases event with
  | run call => exact guarded.runCall call
  | stop call =>
    have holders (other : Nat) (holding : ((system.stopCall call).calls other).Holding) :
        (system.calls other).Holding := by
      rcases System.stopCall_calls system call other with same | stopped
      · exact same ▸ holding
      · simp [stopped, Call.Holding] at holding
    refine ⟨guarded.tracked.step (.stop call), fun one other first second =>
      guarded.single one other (holders one first) (holders other second),
      fun other holding => by simpa using guarded.locked other (holders other holding), ?_,
      by simpa using guarded.deleted, by simpa using guarded.successive⟩
    intro other seq deleting
    rcases System.stopCall_calls system call other with same | stopped
    · simpa using guarded.deleting other seq (same ▸ deleting)
    · simp [stopped] at deleting
  | expire =>
    have free := unheld rfl
    refine ⟨guarded.tracked.step .expire, fun one _ first => absurd (by simpa using first)
      (free one), fun other holding => absurd (by simpa using holding) (free other), ?_,
      by simpa using guarded.deleted, by simpa using guarded.successive⟩
    intro other seq deleting
    simp only [System.step_expire, System.expireLock_calls] at deleting
    exact absurd (by simp [deleting, Call.Holding]) (free other)

/-- A run whose expiries find the lock unheld stays guarded. -/
theorem run (guarded : Guarded system) (events : List Event)
    (unheld : ExpiresUnheld system events) : Guarded (system.run events) := by
  induction events generalizing system with
  | nil => exact guarded
  | cons event events ih => exact ih (guarded.step event unheld.1) unheld.2

end Guarded

/-- From a store below the threshold, in every run in which the lock never expires while a
call holds it, each `INCR` value is one more than the one before, or 1 after a value at or
above the threshold. -/
theorem get_next_seq_successive (counter : Option Nat)
    (below : ∀ value ∈ counter, value < wrapThreshold) (events : List Event)
    (unheld : ExpiresUnheld (System.init counter) events) :
    ((System.init counter).run events).produced.Chain' Successive :=
  ((Guarded.init below).run events unheld).successive

/-- A reset, the lock's expiry once its holder has returned, and a restart at 1. -/
theorem get_next_seq_successive_after_reset :
    (∀ value ∈ some 0xFFFEFFFF, value < wrapThreshold) ∧
      ExpiresUnheld (System.init (some 0xFFFEFFFF))
        [.run 0, .run 0, .run 0, .run 0, .run 0, .run 0, .expire, .run 1] ∧
      ((System.init (some 0xFFFEFFFF)).run
        [.run 0, .run 0, .run 0, .run 0, .run 0, .run 0, .expire, .run 1]).produced.Chain'
        Successive := by
  have below : ∀ value ∈ some 0xFFFEFFFF, value < wrapThreshold := by simp [wrapThreshold]
  have unheld : ExpiresUnheld (System.init (some 0xFFFEFFFF))
      [.run 0, .run 0, .run 0, .run 0, .run 0, .run 0, .expire, .run 1] := by
    simp [ExpiresUnheld, System.step, System.runCall, System.init, System.expireLock, Call.run,
      afterIncr, afterTtl, incrResult, wrapThreshold, Lock.setnx, Lock.ttlNegative, Lock.expire,
      belowThreshold, Function.update]
    intro call
    split_ifs <;> simp [Call.Holding]
  exact ⟨below, unheld, get_next_seq_successive _ below _ unheld⟩

end VumiSmpp.SequenceNumber

import Mathlib.Data.List.Nodup
import VumiSmpp.SequenceNumber

/-!
# Distinct calls get distinct numbers

What an SMPP peer needs of `get_next_seq` is that two requests in flight never carry one
sequence number. Each call holds the value of its own `INCR`, and no two calls share an `INCR`
(`Slots`). While the counter stays below `0xFFFF0000` no call starts a reset, so nothing
deletes the counter and each `INCR` is one more than the last: the values are distinct, and
so are the numbers distinct calls return, in every run, whatever the interleaving, the stops
and the lock's expiries (`get_next_seq_distinct`). From the threshold on numbers repeat by
design; in the runs whose expiries find the lock unheld, two calls return one number only
across a value at or above the threshold between their `INCR`s
(`get_next_seq_distinct_between_resets`): a wrap, not a race.
-/

namespace VumiSmpp.SequenceNumber

/-- Right after its `INCR` a call holds the value. -/
@[simp] theorem Call.seq?_afterIncr (seq : Nat) : (afterIncr seq).seq? = some seq := by
  unfold afterIncr; split_ifs <;> rfl

/-- Right after its `INCR` a call with a value below the threshold has returned it. -/
theorem afterIncr_of_lt {seq : Nat} (low : seq < wrapThreshold) : afterIncr seq = .returned seq :=
  if_neg (Nat.not_le.2 low)

/-- A call that has returned stays so. -/
@[simp] theorem Call.run_returned (seq : Nat) (store : Store) :
    (Call.returned seq).run store = (.returned seq, store) := rfl

/-! ## Each call its own `INCR` -/

/-- Each call that holds a number holds the value produced at its place `slot call`, and no two
calls holding numbers share a place. -/
structure Slots (system : System) (slot : Nat → Nat) : Prop where
  /-- A call holds the value produced at its place. -/
  held : ∀ call seq, (system.calls call).seq? = some seq → system.produced[slot call]? = some seq
  /-- Two calls holding numbers at one place are one call. -/
  apart : ∀ one other, (system.calls one).seq?.isSome → (system.calls other).seq?.isSome →
    slot one = slot other → one = other

namespace Slots

variable {system : System} {slot : Nat → Nat}

/-- The place of a call holding a number is among those produced. -/
theorem lt_length (slots : Slots system slot) {call : Nat} (holds : (system.calls call).seq?.isSome) :
    slot call < system.produced.length := by
  obtain ⟨seq, found⟩ := Option.isSome_iff_exists.1 holds
  exact (List.getElem?_eq_some_iff.1 (slots.held call seq found)).1

/-- A step that produces nothing and gives no call a number it did not hold keeps the places. -/
theorem keep (slots : Slots system slot) {after : System} (produced : after.produced = system.produced)
    (held : ∀ call seq, (after.calls call).seq? = some seq → (system.calls call).seq? = some seq) :
    Slots after slot := by
  have holds : ∀ call, (after.calls call).seq?.isSome → (system.calls call).seq?.isSome :=
    fun call found => by
      obtain ⟨seq, found⟩ := Option.isSome_iff_exists.1 found
      simp [held call seq found]
  exact ⟨fun call seq found => produced ▸ slots.held call seq (held call seq found),
    fun one other first second => slots.apart one other (holds one first) (holds other second)⟩

/-- An `INCR` gives its call the new place at the end. -/
theorem incr (slots : Slots system slot) {call : Nat} (started : system.calls call = .incr) :
    Slots (system.runCall call) (Function.update slot call system.produced.length) := by
  obtain ⟨produced, -, calls⟩ := System.runCall_incr started
  have others : ∀ other, other ≠ call →
      (system.runCall call).calls other = system.calls other := fun other same => by
    simp [same]
  constructor
  · intro other seq found
    rw [produced]
    by_cases same : other = call
    · subst same
      rw [calls, Call.seq?_afterIncr] at found
      rw [Function.update_same, ← found, List.getElem?_concat_length]
    · rw [others other same] at found
      rw [Function.update_noteq same, List.getElem?_append_left
        (slots.lt_length (by simp [found])), slots.held other seq found]
  · intro one other first second placed
    by_cases oneNew : one = call <;> by_cases otherNew : other = call
    · exact oneNew.trans otherNew.symm
    · rw [others other otherNew] at second
      rw [oneNew, Function.update_same, Function.update_noteq otherNew] at placed
      exact absurd placed.symm (Nat.ne_of_lt (slots.lt_length second))
    · rw [others one oneNew] at first
      rw [otherNew, Function.update_same, Function.update_noteq oneNew] at placed
      exact absurd placed (Nat.ne_of_lt (slots.lt_length first))
    · rw [others one oneNew] at first
      rw [others other otherNew] at second
      rw [Function.update_noteq oneNew, Function.update_noteq otherNew] at placed
      exact slots.apart one other first second placed

end Slots

/-! ## What every run keeps -/

/-- Distinct values, and each call its own, below the threshold: what every run keeps,
whatever the lock does. -/
structure Fresh (system : System) : Prop where
  /-- What every run keeps. -/
  tracked : Tracked system
  /-- Each call holding a number has its own `INCR`. -/
  slots : ∃ slot, Slots system slot
  /-- A call holding a number below the threshold has returned it: it started no reset. -/
  returned : ∀ call seq, (system.calls call).seq? = some seq → seq < wrapThreshold →
    system.calls call = .returned seq
  /-- The counter is deleted only after a value at or above the threshold. -/
  deleted : system.store.counter = none →
    system.produced = [] ∨ ∃ value ∈ system.produced, wrapThreshold ≤ value
  /-- Below the threshold, each value is one more than the one before. -/
  climbing : (∀ value ∈ system.produced, value < wrapThreshold) →
    system.produced.Chain' fun previous next => next = previous + 1

namespace Fresh

variable {system : System}

/-- A run starts fresh from a counter below the threshold. -/
theorem init {counter : Option Nat} (below : ∀ value ∈ counter, value < wrapThreshold) :
    Fresh (System.init counter) where
  tracked := Tracked.init below
  slots := ⟨fun _ => 0, by simp [System.init, Call.seq?], by simp [System.init, Call.seq?]⟩
  returned := by simp [System.init, Call.seq?]
  deleted _ := .inl rfl
  climbing _ := List.chain'_nil

/-- An `INCR` keeps the run fresh: below the threshold it returns at once, and it follows the
last value by one unless a value at or above the threshold came before. -/
theorem incr (fresh : Fresh system) {call : Nat} (started : system.calls call = .incr) :
    Fresh (system.runCall call) := by
  obtain ⟨produced, counter, calls⟩ := System.runCall_incr started
  obtain ⟨slot, slots⟩ := fresh.slots
  refine ⟨fresh.tracked.runCall call, ⟨_, slots.incr started⟩, ?_, ?_, ?_⟩
  · intro other seq found low
    by_cases same : other = call
    · subst same
      rw [calls, Call.seq?_afterIncr, Option.some.injEq] at found
      rw [calls, found, afterIncr_of_lt low]
    · simp only [System.runCall_calls, same, if_false] at found ⊢
      exact fresh.returned other seq found low
  · intro absent
    rw [counter] at absent
    cases absent
  · intro low
    rw [produced] at low ⊢
    refine (fresh.climbing fun value mem => low value (List.mem_append_left _ mem)).append
      (List.chain'_singleton _) fun last found next head => ?_
    simp only [List.head?_cons, Option.mem_def, Option.some.injEq] at head
    subst head
    cases stored : system.store.counter with
    | none =>
      rcases fresh.deleted stored with empty | ⟨high, mem, above⟩
      · simp [empty] at found
      · exact absurd (low high (List.mem_append_left _ mem)) (Nat.not_lt.2 above)
    | some value =>
      rcases fresh.tracked.counter value stored with same | ⟨empty, -⟩
      · rw [same] at found
        simp [incrResult, stored, Option.some.inj found]
      · simp [empty] at found

/-- A command past the `INCR` keeps the run fresh: a `DEL` runs only in a reset, started from
a value at or above the threshold. -/
theorem resume (fresh : Fresh system) {call : Nat} (started : system.calls call ≠ .incr) :
    Fresh (system.runCall call) := by
  have produced := System.runCall_produced started
  have held : ∀ other seq, ((system.runCall call).calls other).seq? = some seq →
      (system.calls other).seq? = some seq := fun other seq found => by
    by_cases same : other = call
    · subst same
      simpa [Call.run_seq _ started] using found
    · simpa [same] using found
  obtain ⟨slot, slots⟩ := fresh.slots
  refine ⟨fresh.tracked.runCall call, ⟨slot, slots.keep produced held⟩, ?_, ?_,
    produced.symm ▸ fresh.climbing⟩
  · intro other seq found low
    have before := fresh.returned other seq (held other seq found) low
    by_cases same : other = call
    · subst same
      simp [before]
    · simpa [same] using before
  · intro absent
    rw [System.runCall_store] at absent
    rw [produced]
    rcases Call.counter_run_none absent with old | ⟨seq, deleter⟩
    · exact fresh.deleted old
    · have holds : (system.calls call).seq? = some seq := by simp [deleter, Call.seq?]
      exact .inr ⟨seq, fresh.tracked.held call seq holds, Nat.not_lt.1 fun low => by
        simpa [deleter] using fresh.returned call seq holds low⟩

/-- Every command keeps the run fresh. -/
theorem runCall (fresh : Fresh system) (call : Nat) : Fresh (system.runCall call) :=
  if started : system.calls call = .incr then fresh.incr started else fresh.resume started

/-- Every event keeps the run fresh. -/
theorem step (fresh : Fresh system) (event : Event) : Fresh (system.step event) := by
  obtain ⟨slot, slots⟩ := fresh.slots
  cases event with
  | run call => exact fresh.runCall call
  | stop call =>
    rw [System.step_stop]
    have same : ∀ other seq, ((system.stopCall call).calls other).seq? = some seq →
        (system.stopCall call).calls other = system.calls other := fun other seq found =>
      (System.stopCall_calls system call other).resolve_right fun stopped => by
        simp [stopped, Call.seq?] at found
    refine ⟨fresh.tracked.step (.stop call),
      ⟨slot, slots.keep (by simp) fun other seq found => same other seq found ▸ found⟩,
      fun other seq found low => ?_, by simpa using fresh.deleted, by simpa using fresh.climbing⟩
    have kept := same other seq found
    rw [kept] at found ⊢
    exact fresh.returned other seq found low
  | expire =>
    rw [System.step_expire]
    exact ⟨fresh.tracked.step .expire, ⟨slot, slots.keep (by simp) (by simp)⟩,
      by simpa using fresh.returned, by simpa using fresh.deleted, by simpa using fresh.climbing⟩

/-- Every run stays fresh. -/
theorem run (fresh : Fresh system) (events : List Event) : Fresh (system.run events) := by
  induction events generalizing system with
  | nil => exact fresh
  | cons event events ih => exact ih (fresh.step event)

/-- While every value produced is below the threshold, two calls that returned one number are
one call. -/
theorem returned_inj (fresh : Fresh system)
    (low : ∀ value ∈ system.produced, value < wrapThreshold) {one other seq : Nat}
    (first : system.calls one = .returned seq) (second : system.calls other = .returned seq) :
    one = other := by
  obtain ⟨slot, slots⟩ := fresh.slots
  have nodup : system.produced.Nodup :=
    (List.chain'_iff_pairwise.1 (List.Chain'.imp (fun _ _ next => by omega)
      (fresh.climbing low) : system.produced.Chain' (· < ·))).imp Nat.ne_of_lt
  have atOne := slots.held one seq (by simp [first, Call.seq?])
  have atOther := slots.held other seq (by simp [second, Call.seq?])
  refine slots.apart one other (by simp [first, Call.seq?]) (by simp [second, Call.seq?]) ?_
  by_contra apart
  rcases Nat.lt_or_gt_of_ne apart with lt | gt
  · exact List.nodup_iff_getElem?_ne_getElem?.1 nodup _ _ lt
      (List.getElem?_eq_some_iff.1 atOther).1 (atOne.trans atOther.symm)
  · exact List.nodup_iff_getElem?_ne_getElem?.1 nodup _ _ gt
      (List.getElem?_eq_some_iff.1 atOne).1 (atOther.trans atOne.symm)

/-- While every value produced is below the threshold, distinct calls returned distinct
numbers: listed with the calls that returned them, the numbers are as distinct as the calls. -/
theorem returned_nodup (fresh : Fresh system)
    (low : ∀ value ∈ system.produced, value < wrapThreshold) {numbers calls : List Nat}
    (returned : numbers.Forall₂ (fun seq call => system.calls call = .returned seq) calls)
    (distinct : calls.Nodup) : numbers.Nodup := by
  induction returned with
  | nil => exact List.nodup_nil
  | cons first rest ih =>
    rw [List.nodup_cons] at distinct ⊢
    refine ⟨fun repeated => ?_, ih distinct.2⟩
    obtain ⟨other, mem, second⟩ := forall₂_exists_of_mem rest _ repeated
    exact distinct.1 (fresh.returned_inj low first second ▸ mem)
where
  /-- Each value of the left list is related to one of the right. -/
  forall₂_exists_of_mem {α β : Type} {R : α → β → Prop} :
      ∀ {as : List α} {bs : List β}, as.Forall₂ R bs → ∀ a ∈ as, ∃ b ∈ bs, R a b
    | _, _, .nil, _, absent => absurd absent (List.not_mem_nil _)
    | _, _, .cons related rest, a, mem => by
      rcases List.mem_cons.1 mem with rfl | later
      · exact ⟨_, List.mem_cons_self _ _, related⟩
      · obtain ⟨b, found, relates⟩ := forall₂_exists_of_mem rest a later
        exact ⟨b, List.mem_cons_of_mem _ found, relates⟩

end Fresh

/-- From a store below the threshold, in every run, whatever the interleaving of the calls'
commands, the calls stopped and the lock's expiries: while the counter stays below
`0xFFFF0000`, two different calls return different numbers. -/
theorem get_next_seq_distinct (counter : Option Nat)
    (below : ∀ value ∈ counter, value < wrapThreshold) (events : List Event)
    (low : ∀ value ∈ ((System.init counter).run events).produced, value < wrapThreshold)
    {one other first second : Nat}
    (returnedOne : ((System.init counter).run events).calls one = .returned first)
    (returnedOther : ((System.init counter).run events).calls other = .returned second)
    (different : one ≠ other) : first ≠ second := fun same =>
  different (((Fresh.init below).run events).returned_inj low returnedOne (same ▸ returnedOther))

/-- From an absent counter, two calls return 1 and 2. -/
theorem get_next_seq_distinct_two_calls :
    (∀ value ∈ (none : Option Nat), value < wrapThreshold) ∧
      (∀ value ∈ ((System.init none).run [.run 0, .run 1]).produced, value < wrapThreshold) ∧
      ((System.init none).run [.run 0, .run 1]).calls 0 = .returned 1 ∧
      ((System.init none).run [.run 0, .run 1]).calls 1 = .returned 2 ∧ (0 : Nat) ≠ 1 ∧
      (1 : Nat) ≠ 2 :=
  ⟨by simp, by decide, by decide, by decide, by decide,
    @get_next_seq_distinct none (by simp) [.run 0, .run 1] (by decide) 0 1 1 2 (by decide)
      (by decide) (by decide)⟩

/-! ## Repeats come from wraps -/

/-- Consecutive places of a chain are related. -/
theorem chain'_getElem? {α : Type} {R : α → α → Prop} :
    ∀ {values : List α} {place : Nat} {a b : α}, values.Chain' R →
      values[place]? = some a → values[place + 1]? = some b → R a b
  | [], _, _, _, _, found, _ => by simp at found
  | [_], _, _, _, _, _, next => by simp at next
  | _ :: _ :: _, 0, _, _, chain, found, next => by
    simp only [List.getElem?_cons_zero, List.getElem?_cons_succ, Option.some.injEq] at found next
    exact found ▸ next ▸ (List.chain'_cons.1 chain).1
  | _ :: rest, place + 1, _, _, chain, found, next =>
    chain'_getElem? (List.chain'_cons'.1 chain).2 (by simpa using found) (by simpa using next)

/-- Along successive values, as long as the values stay below the threshold, each place on
adds one. -/
theorem successive_climb {values : List Nat} (successive : values.Chain' Successive)
    {start first : Nat} (found : values[start]? = some first) :
    ∀ gap, (∀ step < gap, ∀ value, values[start + step]? = some value → value < wrapThreshold) →
      ∀ value, values[start + gap]? = some value → value = first + gap
  | 0, _, value, reached => by
    rw [Nat.add_zero] at reached
    exact Option.some.inj (reached.symm.trans found)
  | gap + 1, low, value, reached => by
    obtain ⟨inside, -⟩ := List.getElem?_eq_some_iff.1 reached
    have before : values[start + gap]? = some values[start + gap] :=
      List.getElem?_eq_getElem (by omega)
    have climbed := successive_climb successive found gap
      (fun step lt => low step (by omega)) _ before
    rcases chain'_getElem? successive before reached with next | ⟨-, high⟩
    · omega
    · exact absurd (low gap (by omega) _ before) (Nat.not_lt.2 high)

/-- A value repeated along successive values has a value at or above the threshold between its
two places. -/
theorem successive_repeat {values : List Nat} (successive : values.Chain' Successive)
    {earlier later seq : Nat} (before : earlier < later) (first : values[earlier]? = some seq)
    (second : values[later]? = some seq) :
    ∃ reset value : Nat, earlier ≤ reset ∧ reset < later ∧ values[reset]? = some value ∧
      wrapThreshold ≤ value := by
  by_contra noReset
  push_neg at noReset
  have climbed := successive_climb successive first (later - earlier)
    (fun step lt value found => noReset _ value (by omega) (by omega) found) seq
    (by rwa [Nat.add_sub_cancel' before.le])
  omega

/-- From a store below the threshold, in every run whose expiries find the lock unheld: two
different calls return different numbers, or one number produced twice with a value at or
above `0xFFFF0000` from the first time on and before the second: a wrap, not a race. -/
theorem get_next_seq_distinct_between_resets (counter : Option Nat)
    (below : ∀ value ∈ counter, value < wrapThreshold) (events : List Event)
    (unheld : ExpiresUnheld (System.init counter) events) {one other first second : Nat}
    (returnedOne : ((System.init counter).run events).calls one = .returned first)
    (returnedOther : ((System.init counter).run events).calls other = .returned second)
    (different : one ≠ other) :
    first ≠ second ∨ ∃ earlier later : Nat, earlier < later ∧
      ((System.init counter).run events).produced[earlier]? = some first ∧
      ((System.init counter).run events).produced[later]? = some first ∧
      ∃ reset value : Nat, earlier ≤ reset ∧ reset < later ∧
        ((System.init counter).run events).produced[reset]? = some value ∧
        wrapThreshold ≤ value := by
  refine or_iff_not_imp_left.2 fun same => ?_
  rw [not_not] at same
  subst same
  have successive := ((Guarded.init below).run events unheld).successive
  obtain ⟨slot, slots⟩ := ((Fresh.init below).run events).slots
  have atOne := slots.held one first (by simp [returnedOne, Call.seq?])
  have atOther := slots.held other first (by simp [returnedOther, Call.seq?])
  have apart : slot one ≠ slot other := fun placed =>
    different (slots.apart one other (by simp [returnedOne, Call.seq?])
      (by simp [returnedOther, Call.seq?]) placed)
  rcases Nat.lt_or_gt_of_ne apart with lt | gt
  · exact ⟨_, _, lt, atOne, atOther, successive_repeat successive lt atOne atOther⟩
  · exact ⟨_, _, gt, atOther, atOne, successive_repeat successive gt atOther atOne⟩

/-- From an absent counter with no expiry, two calls return 1 and 2. -/
theorem get_next_seq_distinct_between_resets_two_calls :
    (∀ value ∈ (none : Option Nat), value < wrapThreshold) ∧
      ExpiresUnheld (System.init none) [.run 0, .run 1] ∧
      ((System.init none).run [.run 0, .run 1]).calls 0 = .returned 1 ∧
      ((System.init none).run [.run 0, .run 1]).calls 1 = .returned 2 ∧ (0 : Nat) ≠ 1 ∧
      ((1 : Nat) ≠ 2 ∨ ∃ earlier later : Nat, earlier < later ∧
        ((System.init none).run [.run 0, .run 1]).produced[earlier]? = some 1 ∧
        ((System.init none).run [.run 0, .run 1]).produced[later]? = some 1 ∧
        ∃ reset value : Nat, earlier ≤ reset ∧ reset < later ∧
          ((System.init none).run [.run 0, .run 1]).produced[reset]? = some value ∧
          wrapThreshold ≤ value) := by
  have unheld : ExpiresUnheld (System.init none) [.run 0, .run 1] := by simp [ExpiresUnheld]
  exact ⟨by simp, unheld, by decide, by decide, by decide,
    @get_next_seq_distinct_between_resets none (by simp) _ unheld 0 1 1 2 (by decide)
      (by decide) (by decide)⟩

end VumiSmpp.SequenceNumber

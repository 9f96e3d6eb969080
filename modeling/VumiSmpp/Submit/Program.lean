import VumiSmpp.Session.Basic

/-!
# The coroutines of the submit path

`submit_sm` and the methods it calls are `inlineCallbacks` coroutines. Between two `yield`s a
coroutine runs at once: it writes PDUs with `send_pdu`, draws with `randint`, and may raise.
A `Program` is such a coroutine as the tree of what it does, the rest of the tree at a `yield`
depending on the store's reply; `yield` on another coroutine is `bind`. `Program.run` runs a
coroutine against the replies the store gives, in the order it asks, and the values `randint`
draws. Every reply and every draw is possible, whatever other coroutines do meanwhile, and a
failed reply raises at its `yield`, which none of these coroutines catches. A run is the list
of what the coroutine did and the value it returned, `none` where an exception left it.
-/

namespace VumiSmpp.Client

/-- A store command a coroutine of the submit path waits on. -/
inductive Request where
  /-- `get_next_seq()`, whose own store commands `SequenceNumber` models. -/
  | getNextSeq
  /-- `redis.lpush("unacked", value)`, in `push_unacked`. -/
  | lpush (value : Nat)
  /-- `redis.llen("unacked")`, in `get_unacked_count`. -/
  | llen
  deriving DecidableEq, Repr

/-- An `inlineCallbacks` coroutine that writes `ω`s and returns an `α`. -/
inductive Program (ω α : Type) where
  /-- `returnValue(value)`. -/
  | done (value : α)
  /-- An exception leaves the coroutine. -/
  | raise
  /-- `send_pdu`: the PDU goes to the transport, then the rest runs. -/
  | write (pdu : ω) (next : Program ω α)
  /-- `yield` on a store command; the rest runs with its reply. -/
  | await (request : Request) (next : Nat → Program ω α)
  /-- `randint(low, high)`; the rest runs with the value drawn. -/
  | randint (low high : Nat) (next : Nat → Program ω α)

/-- What a coroutine did, one thing at a time. -/
inductive Effect (ω : Type) where
  /-- It wrote a PDU. -/
  | write (pdu : ω)
  /-- It waited on a store command, which fired so. -/
  | request (request : Request) (reply : Outcome)
  /-- `randint` drew this value. -/
  | draw (value : Nat)
  deriving DecidableEq, Repr

namespace Program

variable {ω α β : Type}

/-- Run a coroutine, then the rest with what it returned: `yield` on a coroutine. -/
def bind : Program ω α → (α → Program ω β) → Program ω β
  | done value, rest => rest value
  | raise, _ => raise
  | write pdu next, rest => write pdu (next.bind rest)
  | await request next, rest => await request fun reply => (next reply).bind rest
  | randint low high next, rest => randint low high fun value => (next value).bind rest

instance : Monad (Program ω) where
  pure := done
  bind := bind

/-- `>>=` is `bind`. -/
@[simp] theorem bind_eq (first : Program ω α) (rest : α → Program ω β) :
    first >>= rest = first.bind rest := rfl

/-- `<$>` returns the image of what the coroutine returned. -/
@[simp] theorem map_eq (f : α → β) (program : Program ω α) :
    f <$> program = program.bind fun value => done (f value) := rfl

/-- The value, or the exception a missing one stands for: a failed lookup, a raising call. -/
def ofOption : Option α → Program ω α
  | some value => done value
  | none => raise

/-- Wait on a store command and return its reply. -/
def request (request : Request) : Program ω Nat :=
  await request done

/-- `send_pdu(pdu)`. -/
def send (pdu : ω) : Program ω Unit :=
  write pdu (done ())

/-- `randint(low, high)`. -/
def draw (low high : Nat) : Program ω Nat :=
  randint low high done

/-- The value `randint(low, high)` draws on the environment's choice `choice`: every value of
the range is one choice's. -/
def drawn (low high choice : Nat) : Nat :=
  low + choice % (high + 1 - low)

/-- Run a coroutine: the `i`-th command it waits on fires with `replies i`, the `i`-th
`randint` draws on `choices i`. -/
def run : Program ω α → (Nat → Outcome) → (Nat → Nat) → List (Effect ω) × Option α
  | done value, _, _ => ([], some value)
  | raise, _, _ => ([], none)
  | write pdu next, replies, choices =>
    let rest := next.run replies choices
    (.write pdu :: rest.1, rest.2)
  | await request next, replies, choices =>
    match replies 0 with
    | .ok reply =>
      let rest := (next reply).run (fun i => replies (i + 1)) choices
      (.request request (.ok reply) :: rest.1, rest.2)
    | .failed => ([.request request .failed], none)
  | randint low high next, replies, choices =>
    let value := drawn low high (choices 0)
    let rest := (next value).run replies fun i => choices (i + 1)
    (.draw value :: rest.1, rest.2)

end Program

namespace Effect

variable {ω : Type}

/-- The PDUs written, in order. -/
def written : List (Effect ω) → List ω :=
  List.filterMap fun | .write pdu => some pdu | _ => none

/-- The store commands issued, in order. -/
def requests : List (Effect ω) → List Request :=
  List.filterMap fun | .request command _ => some command | _ => none

/-- The sequence numbers `get_next_seq` returned, in order. -/
def allocated : List (Effect ω) → List Nat :=
  List.filterMap fun | .request .getNextSeq (.ok seq) => some seq | _ => none

/-- The values pushed onto `unacked`, in order. -/
def pushed : List (Effect ω) → List Nat :=
  List.filterMap fun | .request (.lpush value) _ => some value | _ => none

/-- The values `randint` drew, in order. -/
def draws : List (Effect ω) → List Nat :=
  List.filterMap fun | .draw value => some value | _ => none

/-- The effect is a store command that failed. -/
def failed : Effect ω → Bool
  | .request _ .failed => true
  | _ => false

/-- The PDUs two runs in a row wrote. -/
@[simp] theorem written_append (first second : List (Effect ω)) :
    written (first ++ second) = written first ++ written second :=
  List.filterMap_append _ _ _

/-- The commands two runs in a row issued. -/
@[simp] theorem requests_append (first second : List (Effect ω)) :
    requests (first ++ second) = requests first ++ requests second :=
  List.filterMap_append _ _ _

/-- The sequence numbers two runs in a row took. -/
@[simp] theorem allocated_append (first second : List (Effect ω)) :
    allocated (first ++ second) = allocated first ++ allocated second :=
  List.filterMap_append _ _ _

/-- The values two runs in a row pushed. -/
@[simp] theorem pushed_append (first second : List (Effect ω)) :
    pushed (first ++ second) = pushed first ++ pushed second :=
  List.filterMap_append _ _ _

/-- The values two runs in a row drew. -/
@[simp] theorem draws_append (first second : List (Effect ω)) :
    draws (first ++ second) = draws first ++ draws second :=
  List.filterMap_append _ _ _

end Effect

namespace Program

variable {ω α β : Type}

/-- A command that fires with a value: the run goes on with the reply. -/
theorem run_await_ok {request : Request} {next : Nat → Program ω α} {replies : Nat → Outcome}
    {reply : Nat} (replied : replies 0 = .ok reply) (choices : Nat → Nat) :
    (await request next).run replies choices =
      let rest := (next reply).run (fun i => replies (i + 1)) choices
      (.request request (.ok reply) :: rest.1, rest.2) := by
  rw [run.eq_4, replied]

/-- A command that fails raises at its `yield`. -/
theorem run_await_failed {request : Request} {next : Nat → Program ω α}
    {replies : Nat → Outcome} (replied : replies 0 = .failed) (choices : Nat → Nat) :
    (await request next).run replies choices = ([.request request .failed], none) := by
  rw [run.eq_4, replied]

/-- A run of `first.bind rest` where `first` returns is the run of `first`, then a run of
`rest` on the replies and choices `first` left. -/
theorem run_bind_some {first : Program ω α} {replies : Nat → Outcome} {choices : Nat → Nat}
    {effects : List (Effect ω)} {value : α} (ran : first.run replies choices = (effects, some value))
    (rest : α → Program ω β) :
    (first.bind rest).run replies choices =
      let after := (rest value).run (fun i => replies (i + (Effect.requests effects).length))
        fun i => choices (i + (Effect.draws effects).length)
      (effects ++ after.1, after.2) := by
  induction first generalizing replies choices effects with
  | done => cases ran; rfl
  | raise => cases ran
  | write pdu next ih =>
    rcases nextRan : next.run replies choices with ⟨nextEffects, result⟩
    simp only [run, nextRan, Prod.mk.injEq] at ran
    obtain ⟨rfl, rfl⟩ := ran
    simp [bind, run, ih nextRan, Effect.requests, Effect.draws]
  | await request next ih =>
    rcases replied : replies 0 with reply | _
    · rcases nextRan : (next reply).run (fun i => replies (i + 1)) choices
        with ⟨nextEffects, result⟩
      simp only [run_await_ok replied, nextRan, Prod.mk.injEq] at ran
      obtain ⟨rfl, rfl⟩ := ran
      simp [bind, run_await_ok replied, ih reply nextRan, Effect.requests, Effect.draws,
        Nat.add_assoc, Nat.add_comm 1]
    · simp [run_await_failed replied] at ran
  | randint low high next ih =>
    rcases nextRan : (next (drawn low high (choices 0))).run replies (fun i => choices (i + 1))
      with ⟨nextEffects, result⟩
    simp only [run, nextRan, Prod.mk.injEq] at ran
    obtain ⟨rfl, rfl⟩ := ran
    simp [bind, run, ih _ nextRan, Effect.requests, Effect.draws, Nat.add_assoc, Nat.add_comm 1]

/-- A run of `first.bind rest` where an exception leaves `first` is the run of `first`. -/
theorem run_bind_none {first : Program ω α} {replies : Nat → Outcome} {choices : Nat → Nat}
    {effects : List (Effect ω)} (ran : first.run replies choices = (effects, none))
    (rest : α → Program ω β) :
    (first.bind rest).run replies choices = (effects, none) := by
  induction first generalizing replies choices effects with
  | done => cases ran
  | raise => obtain ⟨rfl, -⟩ := Prod.mk.inj ran; rfl
  | write pdu next ih =>
    rcases nextRan : next.run replies choices with ⟨nextEffects, result⟩
    simp only [run, nextRan, Prod.mk.injEq] at ran
    obtain ⟨rfl, rfl⟩ := ran
    simp [bind, run, ih nextRan]
  | await request next ih =>
    rcases replied : replies 0 with reply | _
    · rcases nextRan : (next reply).run (fun i => replies (i + 1)) choices
        with ⟨nextEffects, result⟩
      simp only [run_await_ok replied, nextRan, Prod.mk.injEq] at ran
      obtain ⟨rfl, rfl⟩ := ran
      simp [bind, run_await_ok replied, ih reply nextRan]
    · rw [run_await_failed replied] at ran
      obtain ⟨rfl, -⟩ := Prod.mk.inj ran
      rw [bind, run_await_failed replied]
  | randint low high next ih =>
    rcases nextRan : (next (drawn low high (choices 0))).run replies (fun i => choices (i + 1))
      with ⟨nextEffects, result⟩
    simp only [run, nextRan, Prod.mk.injEq] at ran
    obtain ⟨rfl, rfl⟩ := ran
    simp [bind, run, ih _ nextRan]

/-- None of the coroutines catches: a run that returns saw no store command fail. -/
theorem run_returned_no_failure {program : Program ω α} {replies : Nat → Outcome}
    {choices : Nat → Nat} (returned : (program.run replies choices).2.isSome) :
    ∀ effect ∈ (program.run replies choices).1, effect.failed = false := by
  induction program generalizing replies choices with
  | done => exact fun _ none => absurd none (List.not_mem_nil _)
  | raise => cases returned
  | write pdu next ih =>
    simp only [run, List.mem_cons] at returned ⊢
    rintro effect (rfl | later)
    exacts [rfl, ih returned effect later]
  | await request next ih =>
    rcases replied : replies 0 with reply | _
    · simp only [run_await_ok replied, List.mem_cons] at returned ⊢
      rintro effect (rfl | later)
      exacts [rfl, ih reply returned effect later]
    · simp [run_await_failed replied] at returned
  | randint low high next ih =>
    simp only [run, List.mem_cons] at returned ⊢
    rintro effect (rfl | later)
    exacts [rfl, ih _ returned effect later]

end Program

/-! ## A stretch at a time

The reactor runs a coroutine from one `yield` to the next: `advance` runs it until it waits on
a store command or ends, and `Stage.resume` runs it on from its `yield` once the command has
fired. Run stretch after stretch, it does what `run` does (`run_advance`, `Stage.run_resume`).
-/

/-- Where a coroutine stands between two stretches. -/
inductive Stage (ω α : Type) where
  /-- At a `yield` on `request`: `next` runs with the reply, `randint` drawing on `choices`. -/
  | waiting (request : Request) (next : Nat → Program ω α) (choices : Nat → Nat)
  /-- It returned `value`. -/
  | returned (value : α)
  /-- An exception left it. -/
  | raised

/-- The replies a coroutine has had, in order, then `future`. -/
def Outcome.replay : List Outcome → (Nat → Outcome) → Nat → Outcome
  | [], future, i => future i
  | outcome :: _, _, 0 => outcome
  | _ :: replies, future, i + 1 => Outcome.replay replies future i

/-- The replies of two stretches in a row. -/
theorem Outcome.replay_append (first second : List Outcome) (future : Nat → Outcome) :
    Outcome.replay (first ++ second) future =
      Outcome.replay first (Outcome.replay second future) := by
  induction first with
  | nil => rfl
  | cons outcome first ih =>
    funext i
    cases i with
    | zero => rfl
    | succ i => exact congrFun ih i

namespace Program

variable {ω α : Type}

/-- Run a coroutine up to its next `yield` or its end, `randint` drawing on `choices`. -/
def advance : Program ω α → (Nat → Nat) → List (Effect ω) × Stage ω α
  | done value, _ => ([], .returned value)
  | raise, _ => ([], .raised)
  | write pdu next, choices =>
    let rest := next.advance choices
    (.write pdu :: rest.1, rest.2)
  | await request next, choices => ([], .waiting request next choices)
  | randint low high next, choices =>
    let value := drawn low high (choices 0)
    let rest := (next value).advance fun i => choices (i + 1)
    (.draw value :: rest.1, rest.2)

end Program

namespace Stage

variable {ω α : Type}

/-- The command the coroutine waits on fires with `outcome`: a reply runs it to its next
`yield` or its end, a failure raises at the `yield`. Only a waiting coroutine is resumed. -/
def resume : Stage ω α → Outcome → Option (List (Effect ω) × Stage ω α)
  | waiting request next choices, .ok reply =>
    let rest := (next reply).advance choices
    some (.request request (.ok reply) :: rest.1, rest.2)
  | waiting request _ _, .failed => some ([.request request .failed], raised)
  | _, _ => none

/-- The rest of a run from a stage, on the replies still to come. -/
def run : Stage ω α → (Nat → Outcome) → List (Effect ω) × Option α
  | waiting request next choices, replies => (Program.await request next).run replies choices
  | returned value, _ => ([], some value)
  | raised, _ => ([], none)

/-- The value whose `LPUSH` the coroutine waits on, if it waits on one. -/
def pushing : Stage ω α → List Nat
  | waiting (.lpush value) _ _ => [value]
  | _ => []

end Stage

namespace Program

variable {ω α : Type}

/-- A run is the first stretch, then the rest of the run from where it stopped. -/
theorem run_advance (program : Program ω α) (replies : Nat → Outcome) (choices : Nat → Nat) :
    program.run replies choices =
      ((program.advance choices).1 ++ ((program.advance choices).2.run replies).1,
        ((program.advance choices).2.run replies).2) := by
  induction program generalizing choices with
  | done | raise | await => rfl
  | write pdu next ih => simp only [run, advance, ih, List.cons_append]
  | randint low high next ih => simp only [run, advance, ih, List.cons_append]

end Program

/-- The run from a stage that is resumed with `outcome` is the resumed stretch, then the rest of
the run from where it stopped. -/
theorem Stage.run_resume {ω α : Type} {stage next : Stage ω α} {outcome : Outcome}
    {effects : List (Effect ω)} (resumed : stage.resume outcome = some (effects, next))
    (future : Nat → Outcome) :
    stage.run (Outcome.replay [outcome] future) =
      (effects ++ (next.run future).1, (next.run future).2) := by
  rcases stage with ⟨request, rest, choices⟩ | _ | _ <;> rcases outcome with reply | _ <;>
    cases resumed
  · have replied : Outcome.replay [.ok reply] future 0 = .ok reply := rfl
    rw [Stage.run, Program.run_await_ok replied, Program.run_advance]
    rfl
  · have replied : Outcome.replay [.failed] future 0 = .failed := rfl
    rw [Stage.run, Program.run_await_failed replied]
    rfl

/-- Where every command to come fails, the rest of a run writes nothing and pushes at most the
value whose `LPUSH` the coroutine waits on. -/
theorem Stage.run_failed {ω α : Type} (stage : Stage ω α) :
    Effect.written (stage.run fun _ => .failed).1 = [] ∧
      Effect.pushed (stage.run fun _ => .failed).1 = stage.pushing := by
  rcases stage with ⟨request, next, choices⟩ | _ | _
  · simp only [Stage.run, Program.run]
    cases request <;> exact ⟨rfl, rfl⟩
  all_goals exact ⟨rfl, rfl⟩

end VumiSmpp.Client

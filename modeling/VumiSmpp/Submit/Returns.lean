import VumiSmpp.Submit.Pushes

/-!
# What `submit_sm` returns

The caller of `submit_sm` keeps the sequence numbers it returns to match the SMSC's
`submit_sm_resp`s to its message. In every run that returns, whatever the arguments, the
state, the store's replies and the draws, what it returns is what it did: `0` exactly when the
state may not submit, having written nothing; otherwise the sequence numbers of the PDUs it
wrote, in the order written, which are the numbers it pushed onto `unacked`. A failed store
command raises out of it, so a run that returns saw none. `Returns` states of a coroutine how
the numbers it writes relate to the value it returns, with one lemma per way coroutines are
built, as `PushesEachWrite` does for the `LPUSH`es.
-/

namespace VumiSmpp.Client

/-- Every run of the coroutine that returns a value has written PDUs whose sequence numbers,
in order, the relation ties to the value. -/
def Returns {α : Type} (relation : α → List Nat → Prop) (program : Program SubmitSm α) : Prop :=
  ∀ replies choices value, (program.run replies choices).2 = some value →
    relation value ((Effect.written (program.run replies choices).1).map SubmitSm.sequenceNumber)

namespace Returns

variable {α β : Type}

/-- A coroutine that returns at once, having written nothing. -/
theorem done {relation : α → List Nat → Prop} {value : α} (none : relation value []) :
    Returns relation (Program.done value) := by
  rintro _ _ _ ⟨⟩
  exact none

/-- A value, or the exception in its place, then the rest. -/
theorem ofOption_bind {relation : β → List Nat → Prop} {value : Option α}
    {rest : α → Program SubmitSm β} (each : ∀ found, Returns relation (rest found)) :
    Returns relation ((Program.ofOption value).bind rest) := by
  cases value with
  | none => rintro _ _ _ ⟨⟩
  | some found => exact each found

/-- `yield` on a coroutine, then the rest: the numbers of both, joined. -/
theorem bind {first : Program SubmitSm α} {rest : α → Program SubmitSm β}
    {before : α → List Nat → Prop} {after : α → β → List Nat → Prop}
    {relation : β → List Nat → Prop} (returns : Returns before first)
    (continues : ∀ value, Returns (after value) (rest value))
    (joined : ∀ value result numbers more, before value numbers → after value result more →
      relation result (numbers ++ more)) :
    Returns relation (first.bind rest) := by
  intro replies choices result returned
  rcases ran : first.run replies choices with ⟨effects, _ | value⟩
  · rw [Program.run_bind_none ran] at returned
    cases returned
  · rw [Program.run_bind_some ran] at returned ⊢
    have numbered := returns replies choices value (by rw [ran])
    rw [ran] at numbered
    simpa using joined value result _ _ numbered (continues value _ _ result returned)

/-- `randint`, then the rest. -/
theorem randint {relation : α → List Nat → Prop} {low high : Nat}
    {next : Nat → Program SubmitSm α} (each : ∀ value, Returns relation (next value)) :
    Returns relation (Program.randint low high next) :=
  fun _ _ result returned => by simpa [Program.run] using each _ _ _ result returned

/-- `randint(low, high)`, then the rest. -/
theorem draw_bind {relation : α → List Nat → Prop} {low high : Nat}
    {rest : Nat → Program SubmitSm α} (each : ∀ value, Returns relation (rest value)) :
    Returns relation ((Program.draw low high).bind rest) :=
  randint each

/-- A coroutine, then `returnValue` of an image of its value. -/
theorem bind_done {relation : α → List Nat → Prop} {image : β → List Nat → Prop} {f : α → β}
    {program : Program SubmitSm α} (returns : Returns relation program)
    (related : ∀ value numbers, relation value numbers → image (f value) numbers) :
    Returns image (program.bind fun value => Program.done (f value)) := by
  intro replies choices result returned
  rcases ran : program.run replies choices with ⟨effects, _ | value⟩
  · rw [Program.run_bind_none ran] at returned
    cases returned
  · rw [Program.run_bind_some ran] at returned ⊢
    simp only [Program.run, Option.some.injEq] at returned
    have numbered := returns replies choices value (by rw [ran])
    rw [ran] at numbered
    simpa [← returned, Program.run] using related value _ numbered

/-- The image of the value, with the numbers it relates to. -/
theorem map {relation : α → List Nat → Prop} {image : β → List Nat → Prop} {f : α → β}
    {program : Program SubmitSm α} (returns : Returns relation program)
    (related : ∀ value numbers, relation value numbers → image (f value) numbers) :
    Returns image (f <$> program) := by
  rw [Program.map_eq]
  exact returns.bind_done related

end Returns

/-- `_submit_sm` returns the sequence number of the one PDU it wrote. -/
theorem submitSmPdu_returns (config : Config) (params : Params) :
    Returns (fun sequenceNumber numbers => numbers = [sequenceNumber])
      (submitSmPdu config params) := by
  intro replies choices value returned
  rcases first : replies 0 with sequenceNumber | _
  · simp only [submitSmPdu, Program.request, Program.bind_eq, Program.bind,
      Program.run_await_ok first] at returned ⊢
    rcases built : buildSubmitSm config sequenceNumber params with _ | pdu
    · simp [built, Program.ofOption, Program.bind, Program.run] at returned
    · have numbered := buildSubmitSm_sequenceNumber built
      simp only [built, Program.ofOption, Program.bind, SubmitSm.sendPdu] at returned ⊢
      split at returned
      case isFalse => cases returned
      case isTrue packs =>
        simp only [packs, if_true, Program.bind, Program.send, pushUnacked, Program.request,
          Program.bind_eq, Program.run] at returned ⊢
        -- the replies to the `LPUSH` and, after one that succeeds, to the `LLEN`
        split at returned <;> (try split at returned) <;>
          simp_all [Effect.written]
  · simp [submitSmPdu, Program.request, Program.bind, Program.run_await_failed first] at returned

/-- The multipart loop returns the sequence numbers of the segments' PDUs, in the order
written, where each segment's coroutine returns the number of the one PDU it wrote. -/
theorem submitSegments_returns {segment : Nat → Bytes → Program SubmitSm Nat}
    (each : ∀ index msg, Returns (fun sequenceNumber numbers => numbers = [sequenceNumber])
      (segment index msg)) :
    ∀ index segments, Returns (fun sequenceNumbers numbers => numbers = sequenceNumbers)
      (submitSegments segment index segments)
  | _, [] => Returns.done rfl
  | index, msg :: rest => (each index msg).bind
      (fun sequenceNumber =>
        show Returns (fun result numbers => result = sequenceNumber :: numbers) _ from
          (submitSegments_returns each (index + 1) rest).bind_done fun _ _ same => by rw [same])
      fun _ _ _ _ first rest => by rw [first, rest]; rfl

/-- Both multipart paths return the sequence numbers of the PDUs they wrote, in order. -/
theorem submitMultipart_returns
    (segmentParams : Params → Nat → Nat → Nat → Bytes → Option Params) (config : Config)
    (pduParams : Params) :
    Returns (fun sequenceNumbers numbers => numbers = sequenceNumbers)
      (submitMultipart segmentParams config pduParams) :=
  Returns.ofOption_bind fun _ => Returns.draw_bind fun _ =>
    submitSegments_returns (fun _ _ => Returns.ofOption_bind fun params =>
      submitSmPdu_returns config params) 0 _

/-- The sequence numbers `submit_sm`'s value lists: none for `0`. -/
def SubmitResult.numbers : SubmitResult → List Nat
  | .zero => []
  | .sequenceNumbers values => values

/-- `submit_sm` returns `0` exactly when the state may not submit, and otherwise the sequence
numbers of the PDUs it wrote, in order. -/
theorem submitSm_returns (config : Config) (state : SmppState) (bindParams kwargs : Params) :
    Returns (fun result numbers => numbers = result.numbers ∧
        (result = .zero ↔ state.canTransmit = false))
      (submitSm config state bindParams kwargs) := by
  unfold submitSm
  split
  case isTrue transmits =>
    have listed : ∀ values numbers, numbers = values →
        numbers = (SubmitResult.sequenceNumbers values).numbers ∧
          (SubmitResult.sequenceNumbers values = .zero ↔ state.canTransmit = false) :=
      fun _ _ same => ⟨same, by simp [transmits]⟩
    refine Returns.ofOption_bind fun _ => Returns.ofOption_bind fun _ => ?_
    split
    · exact (submitMultipart_returns _ _ _).map listed
    · split
      · exact (submitMultipart_returns _ _ _).map listed
      · exact (submitSmPdu_returns _ _).map fun _ _ same => listed _ _ same
  case isFalse silent => exact Returns.done ⟨rfl, by simpa using silent⟩

/-- In every run of `submit_sm` that returns, whatever the arguments, the state, the store's
replies and the draws: no store command it issued failed; it returned `0` exactly when the
state may not submit; and it returned the sequence numbers of the PDUs it wrote, in the order
written, which are the numbers it pushed onto `unacked`, in the same order (none for `0`). -/
theorem submitSm_returns_written (config : Config) (state : SmppState)
    (bindParams kwargs : Params) (replies : Nat → Outcome) (choices : Nat → Nat)
    {result : SubmitResult}
    (returned : ((submitSm config state bindParams kwargs).run replies choices).2 = some result) :
    let ran := (submitSm config state bindParams kwargs).run replies choices
    (∀ effect ∈ ran.1, effect.failed = false) ∧ (result = .zero ↔ state.canTransmit = false) ∧
      (Effect.written ran.1).map SubmitSm.sequenceNumber = result.numbers ∧
      Effect.pushed ran.1 = result.numbers := by
  obtain ⟨numbered, zero⟩ := submitSm_returns config state bindParams kwargs replies choices
    result returned
  have pushed := pushed_eq_written
    (submitSm_pushes_each_write config state bindParams kwargs replies choices).1
  exact ⟨Program.run_returned_no_failure (by rw [returned]; rfl), zero, numbered,
    pushed.trans numbered⟩

/-- A one-byte message in `BOUND_TX` against a store that replies 7 returns `[7]`. -/
theorem submitSm_returns_written_one_byte :
    ((submitSm ⟨false, false, false⟩ .BOUND_TX [] [("short_message", .str [97])]).run
        (fun _ => .ok 7) (fun _ => 0)).2 = some (.sequenceNumbers [7]) ∧
      let ran := (submitSm ⟨false, false, false⟩ .BOUND_TX [] [("short_message", .str [97])]).run
        (fun _ => .ok 7) (fun _ => 0)
      (∀ effect ∈ ran.1, effect.failed = false) ∧
        (SubmitResult.sequenceNumbers [7] = .zero ↔ SmppState.BOUND_TX.canTransmit = false) ∧
        (Effect.written ran.1).map SubmitSm.sequenceNumber =
          (SubmitResult.sequenceNumbers [7]).numbers ∧
        Effect.pushed ran.1 = (SubmitResult.sequenceNumbers [7]).numbers :=
  ⟨by decide, submitSm_returns_written _ _ _ _ _ _ (by decide)⟩

end VumiSmpp.Client

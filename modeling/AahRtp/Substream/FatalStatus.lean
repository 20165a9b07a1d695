import AahRtp.Substream.StartChecks
import AahRtp.Substream.UnitMeta

/-!
# A fatal error waits for `shutdown`

When `queueForDecode` refuses a unit, `processCompletedBuffer` stores its status
in `status_`, shuts the pump down and drops the unit (lines 429-435). From then
on `shouldAbort` (lines 92-102) makes `processPayloadStart` and
`processPayloadCont` return at once: "we are just waiting for our owner to shut
us down now". Only `shutdown` writes `status_` back to `OK` (line 67).

`Quiescent` is what the failure leaves: no unit in progress, and a pump with no
codec, an idle work thread and an empty queue. Every operation changes `status_`
only to `OK` or into a quiescent state (`step_failing`), and from a failed,
quiescent state every operation but `shutdown` succeeds and keeps both, a
payload changing nothing (`step_of_failing`). So in every reachable state a
failed substream is quiescent, and until `shutdown` it ignores every fragment
it is given (`reachable_fatalWaitsForShutdown`).
-/

namespace AahRtp

def SubstreamOp.isPayload : SubstreamOp → Bool
  | .processPayloadStart .. | .processPayloadCont .. => true
  | _ => false

namespace Substream

structure Quiescent (s : Substream) : Prop where
  noUnit : s.bufferInProgress = none
  noCodec : s.decoder.decoder = none
  idle : s.decoder.worker = .idle
  drained : s.decoder.inQueue = []

theorem abortBufferInProgress_status (s : Substream) :
    s.abortBufferInProgress.status = s.status := by
  rcases s.abortBufferInProgress_cases with cleaned | ⟨-, same⟩
  · rw [cleaned, cleanupBufferInProgress_status]
  · rw [same]

theorem checkPayloadStart_status {s : Substream} {buf : Payload} {tsLower : BitVec 32}
    {c : StartCheck} (checked : s.checkPayloadStart buf tsLower = .ok c) :
    c.state.status = s.status := by
  obtain ⟨c', checked', framed, -⟩ := s.checkPayloadStart_frame buf tsLower
  rw [checked] at checked'
  cases checked'
  rcases framed with ⟨-, rfl⟩ | ⟨-, frame⟩
  · rfl
  · rw [frame.status, abortBufferInProgress_status]

theorem startBuffer_status {s : Substream} {buf : Payload} {header : AudioHeader}
    {trtpHeaderLen : UInt32} {allocation : Allocation} {p : Progress}
    (started : s.startBuffer buf header trtpHeaderLen allocation = .ok p) :
    p.state.status = s.status := by
  cases allocation with
  | nullBuffer | nullData | nullMeta => cases started; rfl
  | allocated =>
      simp only [startBuffer] at started
      split at started <;> rw [(startPayload_cases rfl started).2]

theorem fillFromPayloadStart_status {s : Substream} {buf : Payload} {tsLower : BitVec 32}
    {allocation : Allocation} {p : Progress}
    (filled : s.fillFromPayloadStart buf tsLower allocation = .ok p) :
    p.state.status = s.status := by
  simp only [fillFromPayloadStart, bind, Except.bind, pure, Except.pure] at filled
  split at filled
  · cases filled
  · rename_i c checked
    have kept := checkPayloadStart_status checked
    cases c with
    | dropped t => cases filled; exact kept
    | accepted t header trtpHeaderLen => exact (startBuffer_status filled).trans kept

theorem fillFromPayloadCont_status {s : Substream} {buf : Payload} {p : Progress}
    (filled : s.fillFromPayloadCont buf = .ok p) : p.state.status = s.status := by
  rcases fillFromPayloadCont_cases filled with cleaned | ⟨-, framed⟩
  · rw [cleaned, cleanupBufferInProgress_status]
  · rw [framed]

theorem completionStage_frame {platform : Platform} {s : Substream} {env : CompletionEnv}
    {stage : CompletionStage} (staged : s.completionStage platform env = .ok stage) :
    stage.state = { s with
      codecMimeType := stage.state.codecMimeType
      substreamMeta := stage.state.substreamMeta
      decoder := stage.state.decoder } := by
  simp only [completionStage, bind, Except.bind, pure, Except.pure] at staged
  split at staged
  · split at staged
    · cases staged
    · rename_i derivedResult derived
      obtain ⟨t, ready⟩ := derivedResult
      have framed := (setupSubstreamMeta_frame derived).1
      dsimp only at staged
      split at staged
      · cases staged; exact framed
      split at staged
      · cases staged
      rename_i initResult inited
      obtain ⟨decoder, res⟩ := initResult
      dsimp only at staged
      split at staged
      · cases staged; rw [framed]; rfl
      split at staged
      · cases staged
      · cases staged; rw [framed]; rfl
  · cases staged

theorem enqueueCompletedBuffer_status (s : Substream) :
    s.enqueueCompletedBuffer.status = s.status ∨
      (s.enqueueCompletedBuffer.status ≠ StatusT.ok ∧ s.enqueueCompletedBuffer.Quiescent) := by
  unfold enqueueCompletedBuffer
  rcases DecoderPump.queueForDecode_cases s.decoder s.bufferInProgress with
    ⟨failed, same⟩ | ⟨unit, -, queued⟩
  · generalize s.decoder.queueForDecode s.bufferInProgress = result at failed same
    obtain ⟨decoder, res⟩ := result
    dsimp only at failed same ⊢
    subst same
    rw [if_pos failed]
    exact .inr ⟨failed, rfl, rfl, rfl, rfl⟩
  · rw [queued]
    dsimp only
    rw [if_neg (not_not.mpr rfl)]
    exact .inl rfl

theorem processCompletedBuffer_status {platform : Platform} {s s' : Substream}
    {env : CompletionEnv} (completed : s.processCompletedBuffer platform env = .ok s') :
    s'.status = s.status ∨ (s'.status ≠ StatusT.ok ∧ s'.Quiescent) := by
  simp only [processCompletedBuffer, bind, Except.bind, pure, Except.pure] at completed
  split at completed
  · cases completed
  · rename_i stage staged
    have kept : stage.state.status = s.status := by rw [completionStage_frame staged]
    cases stage with
    | bailout t => cases completed; exact .inl kept
    | enqueue t =>
        cases completed
        rcases enqueueCompletedBuffer_status t with same | failed
        · exact .inl (same.trans kept)
        · exact .inr failed

theorem Progress.finish_status {platform : Platform} {env : CompletionEnv} {p : Progress}
    {s' : Substream} (finished : p.finish platform env = .ok s') :
    s'.status = p.state.status ∨ (s'.status ≠ StatusT.ok ∧ s'.Quiescent) := by
  cases p with
  | done t => cases finished; exact .inl rfl
  | complete t => exact processCompletedBuffer_status finished

/-- An operation leaves a failing status behind only where there was the same
one, or in a quiescent state: `shutdown` writes `OK`, and a refused enqueue
shuts the pump down and drops the unit. -/
theorem step_failing {platform : Platform} {s s' : Substream} {op : SubstreamOp}
    (stepped : s.step platform op = .ok s') (failing : s'.status ≠ StatusT.ok) :
    s'.status = s.status ∨ s'.Quiescent := by
  have finished : ∀ {p : Progress} {env : CompletionEnv}, p.state.status = s.status →
      p.finish platform env = .ok s' → s'.status = s.status ∨ s'.Quiescent := by
    intro p env kept finished
    rcases Progress.finish_status finished with same | ⟨-, quiet⟩
    · exact .inl (same.trans kept)
    · exact .inr quiet
  cases op with
  | processPayloadStart buf tsLower env =>
      simp only [step, processPayloadStart, bind, Except.bind] at stepped
      split at stepped
      · cases stepped
      · exact finished (fillFromPayloadStart_status ‹_›) stepped
  | processPayloadCont buf env =>
      simp only [step, processPayloadCont, bind, Except.bind] at stepped
      split at stepped
      · cases stepped
      · exact finished (fillFromPayloadCont_status ‹_›) stepped
  | cleanupBufferInProgress | processTSTransform =>
      cases stepped; exact .inl rfl
  | shutdown => cases stepped; exact absurd rfl failing
  | worker action =>
      simp only [step, bind, Except.bind, pure, Except.pure] at stepped
      split at stepped
      · cases stepped
      · cases stepped; exact .inl rfl

theorem processPayloadStart_of_shouldAbort {platform : Platform} {s : Substream} {buf : Payload}
    {tsLower : BitVec 32} {env : StartEnv} (abort : s.shouldAbort = true) :
    s.processPayloadStart platform buf tsLower env = .ok s := by
  obtain ⟨c, checked, framed, -⟩ := s.checkPayloadStart_frame buf tsLower
  rcases framed with ⟨-, rfl⟩ | ⟨running, -⟩
  · simp only [processPayloadStart, fillFromPayloadStart, checked, bind, Except.bind, pure,
      Except.pure, Progress.finish]
  · exact absurd abort running

theorem processPayloadCont_of_shouldAbort {platform : Platform} {s : Substream} {buf : Payload}
    {env : CompletionEnv} (abort : s.shouldAbort = true) :
    s.processPayloadCont platform buf env = .ok s := by
  simp [processPayloadCont, fillFromPayloadCont, abort, Progress.finish]

theorem step_of_failing {platform : Platform} {s : Substream} (failing : s.status ≠ StatusT.ok)
    (quiet : s.Quiescent) {op : SubstreamOp} (notShutdown : op ≠ .shutdown) :
    ∃ s', s.step platform op = .ok s' ∧ s'.status = s.status ∧ s'.Quiescent ∧
      (op.isPayload = true → s' = s) := by
  have abort : s.shouldAbort = true := by simpa [shouldAbort] using failing
  cases op with
  | processPayloadStart buf tsLower env =>
      exact ⟨s, processPayloadStart_of_shouldAbort abort, rfl, quiet, fun _ => rfl⟩
  | processPayloadCont buf env =>
      exact ⟨s, processPayloadCont_of_shouldAbort abort, rfl, quiet, fun _ => rfl⟩
  | cleanupBufferInProgress =>
      exact ⟨_, rfl, rfl, ⟨rfl, quiet.noCodec, quiet.idle, quiet.drained⟩, nofun⟩
  | processTSTransform trans =>
      have kept : (s.decoder.setRenderTSTransform trans).decoder = s.decoder.decoder ∧
          (s.decoder.setRenderTSTransform trans).worker = s.decoder.worker := by
        unfold DecoderPump.setRenderTSTransform
        split_ifs <;> exact ⟨rfl, rfl⟩
      refine ⟨_, rfl, rfl, ⟨quiet.noUnit, kept.1.trans quiet.noCodec, kept.2.trans quiet.idle, ?_⟩,
        nofun⟩
      exact (DecoderPump.setRenderTSTransform_inQueue _ _).trans quiet.drained
  | shutdown => exact absurd rfl notShutdown
  | worker action =>
      refine ⟨s, ?_, rfl, quiet, nofun⟩
      simp only [step, DecoderPump.workerStep_idle quiet.idle, bind, Except.bind, pure, Except.pure]

theorem run_of_failing {platform : Platform} {s : Substream} (failing : s.status ≠ StatusT.ok)
    (quiet : s.Quiescent) (ops : List SubstreamOp) (noShutdown : ∀ op ∈ ops, op ≠ .shutdown) :
    ∃ s', s.run platform ops = .ok s' ∧ s'.status = s.status ∧ s'.Quiescent ∧
      s.run platform (ops.filter fun op => !op.isPayload) = .ok s' := by
  induction ops generalizing s with
  | nil => exact ⟨s, rfl, rfl, quiet, rfl⟩
  | cons op rest inductionHypothesis =>
      obtain ⟨t, stepped, status, quietT, payload⟩ :=
        @step_of_failing platform s failing quiet op (noShutdown op (List.mem_cons_self op rest))
      obtain ⟨s', ran, status', quiet', filtered⟩ := inductionHypothesis (status ▸ failing) quietT
        fun op held => noShutdown op (List.mem_cons_of_mem _ held)
      refine ⟨s', by simp only [run, stepped, bind, Except.bind, ran], status'.trans status, quiet',
        ?_⟩
      cases isPayload : op.isPayload with
      | true =>
          rw [payload isPayload] at filtered
          simpa only [List.filter_cons, isPayload, Bool.not_true, Bool.false_eq_true,
            if_false] using filtered
      | false =>
          simp only [List.filter_cons, isPayload, Bool.not_false, if_true, run, stepped, bind,
            Except.bind, filtered]

theorem reachable_quiescent {platform : Platform} {s : Substream}
    (reachable : Reachable platform s) (failing : s.status ≠ StatusT.ok) : s.Quiescent := by
  induction reachable with
  | new => exact absurd rfl failing
  | @step before after op _ stepped inductionHypothesis =>
      rcases step_failing stepped failing with same | quiet
      · have failingBefore := same ▸ failing
        have notShutdown : op ≠ .shutdown := by
          rintro rfl
          cases stepped
          exact failing rfl
        obtain ⟨t, again, -, quietT, -⟩ :=
          step_of_failing failingBefore (inductionHypothesis failingBefore) notShutdown
        rw [stepped] at again
        cases again
        exact quietT
      · exact quiet

/-- A substream that met a fatal error waits for `shutdown`: in every reachable
state with a failing `status_` it holds no unit and its pump no codec, no
running work thread and no queued buffer; and every sequence of operations
without `shutdown` succeeds from there, keeps the status and all of this, and
ends exactly where the same sequence with its fragment starts and
continuations left out ends. -/
theorem reachable_fatalWaitsForShutdown {platform : Platform} {s : Substream}
    (reachable : Reachable platform s) (failing : s.status ≠ StatusT.ok) :
    s.Quiescent ∧ ∀ ops : List SubstreamOp, (∀ op ∈ ops, op ≠ .shutdown) →
      ∃ s', s.run platform ops = .ok s' ∧ s'.status = s.status ∧ s'.Quiescent ∧
        s.run platform (ops.filter fun op => !op.isPayload) = .ok s' :=
  have quiet := reachable_quiescent reachable failing
  ⟨quiet, run_of_failing failing quiet⟩

def failedStart : List SubstreamOp :=
  [.processPayloadStart mp3FrameStart 0
    { completion := { interleaved := [.start StatusT.unknownError] } }]

theorem reachable_fatalWaitsForShutdown_afterFailedStart :
    ∃ s, Substream.new.run mpeg1Platform failedStart = .ok s ∧ s.status = StatusT.unknownError ∧
      s.Quiescent ∧ ∀ ops : List SubstreamOp, (∀ op ∈ ops, op ≠ .shutdown) →
        ∃ s', s.run mpeg1Platform ops = .ok s' ∧ s'.status = s.status ∧ s'.Quiescent ∧
          s.run mpeg1Platform (ops.filter fun op => !op.isPayload) = .ok s' :=
  ⟨_, rfl, rfl, reachable_fatalWaitsForShutdown
    (@reachable_of_run mpeg1Platform Substream.new _ failedStart .new rfl) (by decide)⟩

end Substream

end AahRtp

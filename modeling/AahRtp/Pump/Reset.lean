import AahRtp.Pump.Safety
import AahRtp.Pump.Render

/-!
# `shutdown_l` resets the pump

`shutdown_l` (lines 458-479) clears the queue, the two validity flags, the
volume, `thread_status_`, the codec and its format, but it leaves the last
queued PTS, the clock transform and the cached channel count and sample rate
as they were. Those values are dead: the code reads the PTS and the transform
only while their flags are set, and the cached format only while a decoder
exists (a work thread that renders has one, by `ThreadBacked`).

`Agree pump restored` says that `restored` differs from `pump` at most in such
dead values and in the two ghost logs. Every operation, from a state of the
invariant, takes two pumps that agree to outcomes that agree and hands the same
buffers across the queue (`step_agree`, `stepEvents_agree`), so agreement holds
along whole runs (`trace_agree`). A pump after `shutdown_l` from any state a
run reaches agrees with a newly constructed one, so from then on every run
behaves as on a new pump (`shutdownL_behavesAsNew`).
-/

namespace AahRtp

namespace DecoderPump

/-- `restored` is `pump` with other values only where no operation reads: the
last queued PTS while it is not valid, the clock transform while it is not
valid, the cached channel count and sample rate while there is no decoder, and
the ghost logs. -/
inductive Agree : DecoderPump → DecoderPump → Prop where
  | overwrite (pump : DecoderPump) {queued : BitVec 64} {transform : LinearTransform}
      {channels rate : UInt32} (handed released : List Nat)
      (sameQueued : pump.lastQueuedPtsValid = true → queued = pump.lastQueuedPts)
      (sameTransform : pump.lastTsTransformValid = true → transform = pump.lastTsTransform)
      (sameFormat : pump.decoder.isSome = true →
        channels = pump.formatChannels ∧ rate = pump.formatSampleRate) :
      Agree pump { pump with
        lastQueuedPts := queued, lastTsTransform := transform, formatChannels := channels,
        formatSampleRate := rate, handed := handed, released := released }

theorem Agree.worker {pump restored : DecoderPump} (agree : Agree pump restored) :
    restored.worker = pump.worker := by
  cases agree
  rfl

theorem Agree.renderer {pump restored : DecoderPump} (agree : Agree pump restored) :
    restored.renderer = pump.renderer ∧
      restored.lastTsTransformValid = pump.lastTsTransformValid := by
  cases agree
  exact ⟨rfl, rfl⟩

theorem Agree.stopAndCleanupRenderer {pump restored : DecoderPump} (agree : Agree pump restored) :
    Agree pump.stopAndCleanupRenderer restored.stopAndCleanupRenderer := by
  cases agree with
  | overwrite handed released sameQueued sameTransform sameFormat =>
      exact .overwrite _ _ _ sameQueued sameTransform sameFormat

def OutcomesAgree : Except Fault DecoderPump → Except Fault DecoderPump → Prop
  | .error f, .error f' => f = f'
  | .ok pump, .ok restored => Agree pump restored
  | _, _ => False

theorem OutcomesAgree.bind {outcome outcome' : Except Fault DecoderPump}
    {next : DecoderPump → Except Fault DecoderPump} (agree : OutcomesAgree outcome outcome')
    (nextAgree : ∀ {pump restored}, Agree pump restored →
      OutcomesAgree (next pump) (next restored)) :
    OutcomesAgree (outcome >>= next) (outcome' >>= next) := by
  cases outcome <;> cases outcome'
  all_goals first | exact agree | exact nextAgree agree | cases agree

/-- A render sink made from agreeing pumps is the same: the transform it gets
is valid, and the format it gets comes with a decoder. -/
theorem setupRenderer_agree {pump restored : DecoderPump} (held : pump.decoder.isSome)
    (agree : Agree pump restored) (env : RenderEnv) :
    OutcomesAgree (pump.setupRenderer env) (restored.setupRenderer env) := by
  unfold setupRenderer
  rw [agree.renderer.1, agree.renderer.2]
  split
  · exact agree
  · repeat' split
    all_goals try first | rfl | exact agree
    rename_i invalid _
    cases agree with
    | overwrite handed released sameQueued sameTransform sameFormat =>
        obtain ⟨rfl, rfl⟩ := sameFormat held
        obtain rfl := sameTransform (by simpa using invalid)
        exact .overwrite _ _ _ sameQueued sameTransform sameFormat

theorem queueToRenderer_agree {pump restored : DecoderPump} (held : pump.decoder.isSome)
    (agree : Agree pump restored) (sample : DecodedSample) (env : RenderEnv) :
    OutcomesAgree (pump.queueToRenderer sample env) (restored.queueToRenderer sample env) := by
  unfold queueToRenderer
  split
  · rfl
  · refine (setupRenderer_agree held agree env).bind fun agree => ?_
    cases agree with
    | overwrite handed released sameQueued sameTransform sameFormat =>
        dsimp only
        split_ifs
        all_goals first
          | exact .overwrite _ _ _ sameQueued sameTransform sameFormat
          | exact .overwrite _ _ _ (fun _ => rfl) sameTransform sameFormat

theorem workThreadIteration_agree {pump restored : DecoderPump} (held : pump.decoder.isSome)
    (agree : Agree pump restored) (errors longErrors : UInt32) (outcome : DecodeOutcome)
    (env : RenderEnv) :
    OutcomesAgree (pump.workThreadIteration errors longErrors outcome env)
      (restored.workThreadIteration errors longErrors outcome env) := by
  unfold workThreadIteration
  dsimp only
  have cleanedAgree : Agree
      (if outcome.result = StatusT.infoFormatChanged then pump.stopAndCleanupRenderer else pump)
      (if outcome.result = StatusT.infoFormatChanged then restored.stopAndCleanupRenderer
        else restored) := by
    split_ifs
    exacts [agree.stopAndCleanupRenderer, agree]
  have cleanedHeld : (if outcome.result = StatusT.infoFormatChanged then
      pump.stopAndCleanupRenderer else pump).decoder.isSome := by
    split_ifs <;> exact held
  generalize (if outcome.result = StatusT.infoFormatChanged then
    pump.stopAndCleanupRenderer else pump) = cleaned at cleanedAgree cleanedHeld ⊢
  generalize (if outcome.result = StatusT.infoFormatChanged then
    restored.stopAndCleanupRenderer else restored) = cleaned' at cleanedAgree ⊢
  generalize (if outcome.result = StatusT.infoFormatChanged then StatusT.ok
    else outcome.result) = res
  generalize (if outcome.durationUsecs ≥ kLongDecodeErrorThreshold then longErrors + 1
    else longErrors) = longErrors'
  have rendered := queueToRenderer_agree cleanedHeld cleanedAgree
  cases cleanedAgree with
  | overwrite handed released sameQueued sameTransform sameFormat =>
      split_ifs <;> try split
      all_goals try first | rfl | exact .overwrite _ _ _ sameQueued sameTransform sameFormat
      refine (rendered _ env).bind fun agree => ?_
      cases agree with
      | overwrite handed released sameQueued sameTransform sameFormat =>
          exact .overwrite _ _ _ sameQueued sameTransform sameFormat

/-- A work-thread step from a state of the invariant: an idle thread takes
none, and a running one has a decoder, so the cached format it may read is
live. -/
theorem workerStep_agree {pump restored : DecoderPump} (backed : ThreadBacked pump)
    (agree : Agree pump restored) (action : WorkerAction) :
    OutcomesAgree (pump.workerStep action) (restored.workerStep action) := by
  by_cases idle : pump.worker = .idle
  · rw [workerStep_idle idle, workerStep_idle (agree.worker.trans idle)]
    exact agree
  have held := (backed.running idle).1
  cases agree with
  | overwrite newHanded newReleased sameQueued sameTransform sameFormat =>
      obtain ⟨status, renderer, queuedValid, queued, transformValid, transform, volume, format,
        channels, rate, decoder, queue, exitPending, worker, handed, released⟩ := pump
      cases action with
      | start result =>
          cases worker
          all_goals dsimp only [workerStep, workThreadStart]
          all_goals try split_ifs
          all_goals first | rfl | exact .overwrite _ _ _ sameQueued sameTransform sameFormat
      | read =>
          dsimp only [workerStep, read]
          split_ifs
          · exact .overwrite _ _ _ sameQueued sameTransform sameFormat
          · exact .overwrite _ _ _ sameQueued sameTransform sameFormat
          · cases queue <;> exact .overwrite _ _ _ sameQueued sameTransform sameFormat
      | decode outcome env =>
          rcases worker with _ | _ | ⟨errors, longErrors⟩
          · exact .overwrite _ _ _ sameQueued sameTransform sameFormat
          · exact .overwrite _ _ _ sameQueued sameTransform sameFormat
          · exact workThreadIteration_agree held
              (.overwrite _ _ _ sameQueued sameTransform sameFormat) errors longErrors outcome env
      | exit =>
          cases worker
          all_goals dsimp only [workerStep, workThreadExit, stopAndCleanupRenderer]
          all_goals try split_ifs
          all_goals exact .overwrite _ _ _ sameQueued sameTransform sameFormat

/-- `init` reads the codec, `thread_status_` and the work thread's phase, and
writes the cached format before it reads it. -/
theorem init_agree {pump restored : DecoderPump} (agree : Agree pump restored)
    (params : Option MetaData) (codecCreated : Bool) (threadCreated : StatusT) :
    OutcomesAgree (Prod.fst <$> pump.init params codecCreated threadCreated)
      (Prod.fst <$> restored.init params codecCreated threadCreated) := by
  cases agree with
  | overwrite handed released sameQueued sameTransform sameFormat =>
      by_cases held : pump.decoder.isSome
      · simp only [init, held, if_true]
        exact .overwrite _ _ _ sameQueued sameTransform sameFormat
      rcases params with _ | params
      swap
      rcases hc : params.channelCount with _ | channels
      swap
      rcases hr : params.sampleRate with _ | rate
      swap
      by_cases failing : pump.threadStatus = StatusT.ok
      cases codecCreated
      swap
      by_cases idle : pump.worker = .idle
      by_cases started : threadCreated = StatusT.ok
      all_goals simp [init, runThread, *]
      all_goals first
        | rfl
        | exact .overwrite _ _ _ sameQueued sameTransform sameFormat
        | exact .overwrite _ _ _ sameQueued sameTransform (fun _ => ⟨rfl, rfl⟩)
        | exact .overwrite _ _ _ sameQueued sameTransform (fun present => absurd present held)

theorem step_agree {pump restored : DecoderPump} (backed : ThreadBacked pump)
    (agree : Agree pump restored) (op : PumpOp) :
    OutcomesAgree (pump.step op) (restored.step op) := by
  cases op with
  | init params codecCreated threadCreated => exact init_agree agree params codecCreated threadCreated
  | worker action => exact workerStep_agree backed agree action
  | queueForDecode buf =>
      cases agree with
      | overwrite handed released sameQueued sameTransform sameFormat =>
          rcases buf with _ | buf
          · exact .overwrite _ _ _ sameQueued sameTransform sameFormat
          · dsimp only [step, queueForDecode]
            split_ifs <;> exact .overwrite _ _ _ sameQueued sameTransform sameFormat
  | setRenderTSTransform trans =>
      cases agree with
      | overwrite handed released sameQueued sameTransform sameFormat =>
          dsimp only [step, setRenderTSTransform]
          by_cases valid : pump.lastTsTransformValid = true
          · obtain rfl := sameTransform valid
            split_ifs
            · exact .overwrite _ _ _ sameQueued sameTransform sameFormat
            · exact .overwrite _ _ _ sameQueued (fun _ => rfl) sameFormat
          · simp only [valid, false_and, if_false]
            exact .overwrite _ _ _ sameQueued (fun _ => rfl) sameFormat
  | setRenderVolume volume =>
      cases agree with
      | overwrite handed released sameQueued sameTransform sameFormat =>
          dsimp only [step, setRenderVolume]
          split_ifs <;> exact .overwrite _ _ _ sameQueued sameTransform sameFormat
  | requestExit =>
      cases agree with
      | overwrite handed released sameQueued sameTransform sameFormat =>
          exact .overwrite _ _ _ sameQueued sameTransform sameFormat
  | shutdown =>
      cases agree with
      | overwrite handed released sameQueued sameTransform sameFormat =>
          dsimp only [step, shutdownL, requestExitAndWait, stopAndCleanupRenderer]
          split_ifs <;> exact .overwrite _ _ _ nofun nofun nofun

theorem stepEvents_agree {pump restored : DecoderPump} (agree : Agree pump restored)
    (op : PumpOp) : restored.stepEvents op = pump.stepEvents op := by
  cases agree with
  | overwrite newHanded newReleased sameQueued sameTransform sameFormat =>
      obtain ⟨status, renderer, queuedValid, queued, transformValid, transform, volume, format,
        channels, rate, decoder, queue, exitPending, worker, handed, released⟩ := pump
      cases op <;> try rfl
      case queueForDecode buf =>
        rcases buf with _ | buf
        · rfl
        · dsimp only [stepEvents, queueForDecode]
          split_ifs <;> rfl
      case worker action =>
        cases action <;> try rfl
        dsimp only [stepEvents, read]
        split_ifs <;> try rfl
        cases queue <;> rfl

theorem trace_agree {pump restored : DecoderPump} (backed : ThreadBacked pump)
    (agree : Agree pump restored) (ops : List PumpOp) :
    (restored.trace ops).1 = (pump.trace ops).1 ∧
      OutcomesAgree (pump.trace ops).2 (restored.trace ops).2 := by
  induction ops generalizing pump restored with
  | nil => exact ⟨rfl, agree⟩
  | cons op rest inductionHypothesis =>
      have stepped := step_agree backed agree op
      cases hp : pump.step op <;> cases hq : restored.step op <;> rw [hp, hq] at stepped
      · simp only [trace, hp, hq, true_and]
        exact stepped
      · cases stepped
      · cases stepped
      · obtain ⟨events, outcome⟩ := inductionHypothesis (step_threadBacked backed hp) stepped
        simp only [trace, hp, hq, stepEvents_agree agree, events, true_and]
        exact outcome

/-- The pump with its dead values replaced by the constructor's and its ghost
logs emptied: what every operation and `isAboutToUnderflow` can observe. -/
def observed (pump : DecoderPump) : DecoderPump :=
  { pump with
    lastQueuedPts := if pump.lastQueuedPtsValid then pump.lastQueuedPts else 0
    lastTsTransform := if pump.lastTsTransformValid then pump.lastTsTransform else {}
    formatChannels := if pump.decoder.isSome then pump.formatChannels else 0
    formatSampleRate := if pump.decoder.isSome then pump.formatSampleRate else 0
    handed := []
    released := [] }

theorem Agree.observed_eq {pump restored : DecoderPump} (agree : Agree pump restored) :
    restored.observed = pump.observed := by
  cases agree with
  | overwrite handed released sameQueued sameTransform sameFormat =>
      unfold observed
      dsimp only
      congr 1
      · split_ifs with valid
        exacts [sameQueued valid, rfl]
      · split_ifs with valid
        exacts [sameTransform valid, rfl]
      · split_ifs with held
        exacts [(sameFormat held).1, rfl]
      · split_ifs with held
        exacts [(sameFormat held).2, rfl]

theorem OutcomesAgree.map_observed {outcome outcome' : Except Fault DecoderPump}
    (agree : OutcomesAgree outcome outcome') : outcome'.map observed = outcome.map observed := by
  cases outcome <;> cases outcome'
  · cases agree
    rfl
  · cases agree
  · cases agree
  · exact congrArg Except.ok (Agree.observed_eq agree)

theorem observed_isAboutToUnderflow (platform : Platform) (pump : DecoderPump)
    (threshold : BitVec 64) (now : Option (BitVec 64)) :
    pump.observed.isAboutToUnderflow platform threshold now =
      pump.isAboutToUnderflow platform threshold now := by
  unfold isAboutToUnderflow observed
  cases pump.lastQueuedPtsValid <;> cases pump.lastTsTransformValid <;> rfl

/-- A render sink exists only inside the decode loop, so after `shutdown_l` the
pump is a new one but for its dead values and its ghost logs. -/
theorem shutdownL_eq {pump : DecoderPump} (consistent : RenderConsistent pump) :
    pump.shutdownL = { ({} : DecoderPump) with
      lastQueuedPts := pump.lastQueuedPts, lastTsTransform := pump.lastTsTransform,
      formatChannels := pump.formatChannels, formatSampleRate := pump.formatSampleRate,
      handed := pump.handed, released := pump.released ++ pump.inQueue.map MediaBuffer.id } := by
  have none := shutdownL_renderer consistent
  unfold shutdownL requestExitAndWait stopAndCleanupRenderer at none ⊢
  split_ifs at none ⊢
  · rw [← none]
  · rfl

/-- After `shutdown_l` from any state a run of the pump reaches from its
constructor, every run hands the same buffers across the queue as on a newly
constructed pump, and fails at the same `CHECK` or ends in a pump that the
owner and the work thread cannot tell apart from the one the new pump ends in;
in particular `isAboutToUnderflow` answers there as on the new pump. -/
theorem shutdownL_behavesAsNew {pre : List PumpOp} {pump : DecoderPump}
    (reached : ({} : DecoderPump).run pre = .ok pump) (ops : List PumpOp) :
    (pump.shutdownL.trace ops).1 = (({} : DecoderPump).trace ops).1 ∧
      (pump.shutdownL.trace ops).2.map observed =
        (({} : DecoderPump).trace ops).2.map observed ∧
      ∀ platform threshold now,
        (pump.shutdownL.trace ops).2.map (isAboutToUnderflow platform · threshold now) =
          (({} : DecoderPump).trace ops).2.map (isAboutToUnderflow platform · threshold now) := by
  have consistent : RenderConsistent pump :=
    @run_invariant RenderConsistent (fun _ => True) (fun _ consistent stepped =>
      step_renderConsistent consistent stepped) {} pump pre (fun _ _ => trivial)
      (renderConsistent_of_none rfl) reached
  have agree : Agree {} pump.shutdownL := by
    rw [shutdownL_eq consistent]
    exact .overwrite _ _ _ nofun nofun nofun
  obtain ⟨events, outcome⟩ := trace_agree threadBacked_new agree ops
  have observedSame := outcome.map_observed
  refine ⟨events, observedSame, fun platform threshold now => ?_⟩
  revert observedSame
  cases (pump.shutdownL.trace ops).2 <;> cases (({} : DecoderPump).trace ops).2 <;>
    simp only [Except.map, Except.error.injEq, Except.ok.injEq, reduceCtorEq, imp_self,
      IsEmpty.forall_iff]
  intro same
  rw [← observed_isAboutToUnderflow, same, observed_isAboutToUnderflow]

/-- A pump that rendered a sample is shut down; decoding again before a new
clock transform fails at line 121, as it does on a new pump. -/
theorem shutdownL_behavesAsNew_afterRender :
    ∃ pump, ({} : DecoderPump).run (.setRenderTSTransform {} :: startAndDecode) = .ok pump ∧
      pump.renderer.isSome ∧
      ((pump.shutdownL.trace startAndDecode).1 = (({} : DecoderPump).trace startAndDecode).1 ∧
        (pump.shutdownL.trace startAndDecode).2.map observed =
          (({} : DecoderPump).trace startAndDecode).2.map observed ∧
        ∀ platform threshold now,
          (pump.shutdownL.trace startAndDecode).2.map (isAboutToUnderflow platform · threshold now) =
            (({} : DecoderPump).trace startAndDecode).2.map
              (isAboutToUnderflow platform · threshold now)) :=
  ⟨_, rfl, rfl, @shutdownL_behavesAsNew (.setRenderTSTransform {} :: startAndDecode) _ rfl
    startAndDecode⟩

end DecoderPump

end AahRtp

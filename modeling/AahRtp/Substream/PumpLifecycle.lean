import AahRtp.Substream.UnitMeta
import AahRtp.Substream.Format
import AahRtp.Pump.Render

/-!
# The pump across a substream's format changes

`processCompletedBuffer` shuts the pump down when a unit's format differs from
the substream's metadata (`cleanupDecoder`, lines 86-90, from lines 528-541 and
593-609), and `init`s it again from the new metadata. `shutdown_l` (lines
458-479) resets the stored clock transform's validity and the volume along
with the decoder, so the re-created decoder has no valid transform and full
volume until the owner sets them again (`processCompletedBuffer_formatChange`).

`init` (lines 397-451) answers `OK` also when `OMXCodec::Create` or
`thread_->run` fail: its `bailout` path clears the decoder and returns `OK`
(`init_ok_of_failure`), so `processCompletedBuffer` queues the unit on a pump
with no decoder and no work thread.
-/

namespace AahRtp

namespace DecoderPump

def RenderReset (transform : LinearTransform) (pump : DecoderPump) : Prop :=
  pump.renderConfig = (false, transform, 0xFF)

theorem shutdownL_renderReset (pump : DecoderPump) :
    RenderReset pump.lastTsTransform pump.shutdownL := by
  unfold RenderReset renderConfig shutdownL requestExitAndWait
  split <;> rfl

theorem RenderReset.shutdownL {transform : LinearTransform} {pump : DecoderPump}
    (reset : RenderReset transform pump) : RenderReset transform pump.shutdownL := by
  have kept : pump.lastTsTransform = transform := congrArg (·.2.1) reset
  exact kept ▸ shutdownL_renderReset pump

theorem RenderReset.init {transform : LinearTransform} {pump pump' : DecoderPump}
    {params : Option MetaData} {codecCreated : Bool} {threadCreated res : StatusT}
    (reset : RenderReset transform pump)
    (inited : pump.init params codecCreated threadCreated = .ok (pump', res)) :
    RenderReset transform pump' := by
  obtain ⟨_, _, _, _, _, _, rfl, -⟩ := init_frame inited
  exact reset

theorem RenderReset.runWorker {transform : LinearTransform} {pump pump' : DecoderPump}
    {actions : List WorkerAction} (reset : RenderReset transform pump)
    (ran : pump.runWorker actions = .ok pump') : RenderReset transform pump' :=
  (runWorker_renderConfig ran).trans reset

theorem RenderReset.queueForDecode {transform : LinearTransform} {pump : DecoderPump}
    (reset : RenderReset transform pump) (buf : Option MediaBuffer) :
    RenderReset transform (pump.queueForDecode buf).1 := by
  rcases queueForDecode_cases pump buf with ⟨-, same⟩ | ⟨_, -, queued⟩
  · rw [same]
    exact reset
  · rw [queued]
    exact reset

/-- `init` answers `OK` when the codec or the work thread cannot be created:
its `bailout` path clears the decoder and the format, and no work thread runs.
Only the exit request differs: `thread_->run` clears it before it fails. -/
theorem init_ok_of_failure {pump : DecoderPump} {params : MetaData} {channels rate : UInt32}
    {codecCreated : Bool} {threadCreated : StatusT} (noDecoder : pump.decoder = none)
    (hasChannels : params.channelCount = some channels) (hasRate : params.sampleRate = some rate)
    (running : pump.threadStatus = StatusT.ok) (idle : pump.worker = .idle)
    (failed : codecCreated = false ∨ threadCreated ≠ StatusT.ok) :
    ∃ pump', pump.init (some params) codecCreated threadCreated = .ok (pump', StatusT.ok) ∧
      pump'.decoder = none ∧ pump'.worker = .idle := by
  have bailout : ∀ exitPending,
      (pump.init (some params) codecCreated threadCreated =
        .ok ({ pump with
          formatChannels := channels, formatSampleRate := rate, format := none, decoder := none,
          exitPending := exitPending }, StatusT.ok)) →
      ∃ pump', pump.init (some params) codecCreated threadCreated = .ok (pump', StatusT.ok) ∧
        pump'.decoder = none ∧ pump'.worker = .idle :=
    fun _ inited => ⟨_, inited, rfl, idle⟩
  cases codecCreated with
  | false =>
      refine bailout pump.exitPending ?_
      simp [init, noDecoder, hasChannels, hasRate, running, StatusT.unknownError, StatusT.ok]
  | true =>
      have noThread : threadCreated ≠ StatusT.ok := by simpa using failed
      refine bailout false ?_
      simp [init, runThread, noDecoder, hasChannels, hasRate, running, idle, noThread]

end DecoderPump

namespace Substream

theorem setupSubstreamMeta_of_changed {platform : Platform} {s t : Substream}
    {unit : MediaBuffer} {metaAllocated ready : Bool} {meta : MetaData} {f : UnitFormat}
    (previous : s.substreamMeta = some meta) (format : s.unitFormat platform unit = some f)
    (changed : ¬f.Describes meta)
    (derived : s.setupSubstreamMeta platform unit metaAllocated = .ok (t, ready)) :
    t.decoder = s.decoder.shutdownL := by
  unfold unitFormat at format
  split_ifs at format with mp3 short aac
  · obtain ⟨⟨sampleRate, channelCount⟩, frame, rfl⟩ := Option.map_eq_some'.mp format
    have differs : meta.channelCount ≠ some channelCount ∨ meta.sampleRate ≠ some sampleRate := by
      by_contra same
      push_neg at same
      exact changed ⟨same.2, same.1⟩
    simp only [setupSubstreamMeta, setupMP3SubstreamMeta, mp3, if_true, short, if_false, frame,
      previous, if_pos differs] at derived
    cases derived
    rfl
  · dsimp only at format
    by_cases short : s.auxDataInProgress.length < 8
    · rw [if_pos short] at format
      cases format
    rw [if_neg short] at format
    obtain rfl := Option.some.inj format
    rw [setupSubstreamMeta, if_neg mp3, if_pos aac] at derived
    simp only [setupAACSubstreamMeta, short, if_false, previous] at derived
    split at derived
    · cases derived
    · cases derived
    · rename_i sampleRate channelCount rate channels
      generalize (if s.auxDataInProgress.length > 8 then some (s.auxDataInProgress.drop 8)
        else none) = esds at changed derived
      split_ifs at derived with unchanged
      · obtain ⟨sameEsds, rfl, rfl⟩ := unchanged
        refine absurd ⟨rate, channels, ?_⟩ changed
        cases held : meta.esds <;> cases esds <;> simp_all
      · unfold newAACSubstreamMeta at derived
        split at derived <;> cases derived <;> rfl

/-- After a format change, every way through lines 405-424 keeps the render
configuration that `shutdown_l` left. -/
theorem completionStage_renderReset {platform : Platform} {s : Substream} {env : CompletionEnv}
    {stage : CompletionStage} {unit : MediaBuffer} {meta : MetaData} {f : UnitFormat}
    (previous : s.substreamMeta = some meta) (inProgress : s.bufferInProgress = some unit)
    (format : s.unitFormat platform unit = some f) (changed : ¬f.Describes meta)
    (staged : s.completionStage platform env = .ok stage) :
    DecoderPump.RenderReset s.decoder.lastTsTransform stage.state.decoder := by
  simp only [completionStage, inProgress, bind, Except.bind, pure, Except.pure] at staged
  split at staged
  · cases staged
  rename_i derivedResult derived
  obtain ⟨t, ready⟩ := derivedResult
  have reset : DecoderPump.RenderReset s.decoder.lastTsTransform t.decoder := by
    rw [setupSubstreamMeta_of_changed previous format changed derived]
    exact DecoderPump.shutdownL_renderReset s.decoder
  dsimp only at staged
  split at staged
  · cases staged
    exact reset
  split at staged
  · cases staged
  rename_i initResult inited
  obtain ⟨decoder, res⟩ := initResult
  have initReset := reset.init inited
  dsimp only at staged
  split at staged
  · cases staged
    exact initReset.shutdownL
  split at staged
  · cases staged
  · cases staged
    exact initReset.runWorker ‹_›

theorem enqueueCompletedBuffer_renderReset {transform : LinearTransform} {s : Substream}
    (reset : DecoderPump.RenderReset transform s.decoder) :
    DecoderPump.RenderReset transform s.enqueueCompletedBuffer.decoder := by
  unfold enqueueCompletedBuffer
  have queued := reset.queueForDecode s.bufferInProgress
  generalize s.decoder.queueForDecode s.bufferInProgress = result at queued
  obtain ⟨decoder, res⟩ := result
  dsimp only
  split_ifs
  · exact queued.shutdownL
  · exact queued

theorem processCompletedBuffer_formatChange {platform : Platform} {s s' : Substream}
    {env : CompletionEnv} {unit : MediaBuffer} {meta : MetaData} {f : UnitFormat}
    (previous : s.substreamMeta = some meta) (inProgress : s.bufferInProgress = some unit)
    (format : s.unitFormat platform unit = some f) (changed : ¬f.Describes meta)
    (completed : s.processCompletedBuffer platform env = .ok s') :
    s'.decoder.renderConfig = (false, s.decoder.lastTsTransform, 0xFF) := by
  simp only [processCompletedBuffer, bind, Except.bind, pure, Except.pure] at completed
  split at completed
  · cases completed
  · rename_i stage staged
    have reset := completionStage_renderReset previous inProgress format changed staged
    cases stage with
    | bailout t =>
        cases completed
        exact reset
    | enqueue t =>
        cases completed
        exact enqueueCompletedBuffer_renderReset reset

def mp3StartAt (rate : UInt8) : Payload :=
  ⟨[0x01, 0x10, 0, 0, 0, 13, 3, 0x08, 0x40, 0xFF, 0xFB, rate, 0x64], by simp⟩

/-- After a clock transform and a 44.1 kHz unit at volume 0x40, the pump holds a
decoder, a valid transform and volume 0x40 when a 48 kHz unit completes; the
completion leaves it with no valid transform and volume 0xFF. -/
theorem processCompletedBuffer_resetsRenderConfig :
    ∃ s₀ s₁ s₂, Substream.new.run mpeg1Platform
        [.processTSTransform DecoderPump.unitTransform, .processPayloadStart (mp3StartAt 0x90) 0 {}] =
          .ok s₀ ∧
      s₀.fillFromPayloadStart (mp3StartAt 0x94) 0 .allocated = .ok (.complete s₁) ∧
      s₁.decoder.decoder.isSome ∧ s₁.decoder.renderConfig = (true, DecoderPump.unitTransform, 0x40) ∧
      s₁.processCompletedBuffer mpeg1Platform {} = .ok s₂ ∧
      s₂.decoder.renderConfig = (false, DecoderPump.unitTransform, 0xFF) :=
  ⟨_, _, _, rfl, rfl, rfl, rfl, rfl, rfl⟩

/-- With `OMXCodec::Create` failing, `init` answers `OK` and leaves the pump
without a decoder; the completion of `mp3FrameStart` then queues its unit there,
with no work thread to read it. -/
theorem run_queuedWithoutDecoder :
    (∃ pump, ({} : DecoderPump).init (some DecoderPump.stereoParams) false StatusT.ok =
        .ok (pump, StatusT.ok) ∧ pump.decoder = none) ∧
    ∃ s unit, Substream.new.run mpeg1Platform
        [.processPayloadStart mp3FrameStart 0 { completion := { codecCreated := false } }] = .ok s ∧
      s.decoder.decoder = none ∧ s.decoder.worker = .idle ∧ s.decoder.inQueue = [unit] :=
  ⟨⟨_, rfl, rfl⟩, _, _, rfl, rfl, rfl, rfl⟩

end Substream

end AahRtp

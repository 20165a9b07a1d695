import AahRtp.Pump.System

/-!
# The render sink and the underflow test

The render configuration of `AAH_DecoderPump`: the stored clock transform and
volume, and the `TimedAudioTrack` that `queueToRenderer` makes from them
(lines 99-143) and that `setRenderTSTransform` and `setRenderVolume` (lines
185-221) update. Every run of the pump keeps the sink current with the stored
values (`run_sinkCurrent`); a sink exists only inside the decode loop, which is
what lets `shutdown_l` reset the stored values without leaving a stale sink.

`isAboutToUnderflow` (lines 251-278) compares `now + threshold` with the
transformed PTS of the last queued sample in 64-bit arithmetic. It answers the
comparison of the integers wherever `now + threshold - D` fits in a signed
64-bit value (`isAboutToUnderflow_iff_of_fits`), and false wherever that
difference is at least `2^63`, which a PTS from the wire near `INT64_MIN`
brings about (`run_underflowWraps`).
-/

namespace AahRtp

namespace DecoderPump

def SinkCurrent (pump : DecoderPump) : Prop :=
  ∀ track, pump.renderer = some track →
    pump.lastTsTransformValid = true ∧ track.transform = pump.lastTsTransform ∧
      track.volume = pump.lastVolume

structure RenderConsistent (pump : DecoderPump) : Prop where
  current : SinkCurrent pump
  looping : ∀ track, pump.renderer = some track →
    ∃ errors longErrors, pump.worker = .looping errors longErrors

theorem renderConsistent_of_none {pump : DecoderPump} (none : pump.renderer = none) :
    RenderConsistent pump where
  current track made := by rw [none] at made; cases made
  looping track made := by rw [none] at made; cases made

theorem renderConsistent_of_looping {pump : DecoderPump} (current : SinkCurrent pump)
    (looping : ∃ errors longErrors, pump.worker = .looping errors longErrors) :
    RenderConsistent pump :=
  ⟨current, fun _ _ => looping⟩

theorem queueToRenderer_sinkCurrent {pump pump' : DecoderPump} {sample : DecodedSample}
    {env : RenderEnv} (current : SinkCurrent pump)
    (queued : pump.queueToRenderer sample env = .ok pump') : SinkCurrent pump' := by
  obtain ⟨ts, setUp, -, made, result⟩ := queueToRenderer_cases queued
  have madeCurrent : SinkCurrent setUp := by
    rcases setupRenderer_cases made with same | ⟨-, valid, built⟩
    · rw [same]
      exact current
    · rw [built]
      rintro track ⟨⟩
      exact ⟨valid, rfl, rfl⟩
  rcases result with same | ⟨-, recorded⟩ <;> rw [‹pump' = _›] <;> exact madeCurrent

theorem workThreadIteration_renderConsistent {pump pump' : DecoderPump}
    {errors longErrors : UInt32} {outcome : DecodeOutcome} {env : RenderEnv}
    (consistent : RenderConsistent pump)
    (iterated : pump.workThreadIteration errors longErrors outcome env = .ok pump') :
    RenderConsistent pump' := by
  have cleanedCurrent : ∀ cleaned : DecoderPump,
      cleaned = pump ∨ cleaned = pump.stopAndCleanupRenderer → SinkCurrent cleaned := by
    rintro _ (rfl | rfl)
    · exact consistent.current
    · exact (renderConsistent_of_none rfl).current
  rcases workThreadIteration_cases iterated with
    ⟨cleaned, which, ⟨_, rfl⟩ | ⟨_, _, rfl⟩ | ⟨_, _, queued, rfl⟩⟩
  · exact renderConsistent_of_none rfl
  · exact renderConsistent_of_looping (cleanedCurrent cleaned which) ⟨_, _, rfl⟩
  · have rendered := queueToRenderer_sinkCurrent (cleanedCurrent cleaned which) queued
    exact renderConsistent_of_looping rendered ⟨0, 0, rfl⟩

/-- A render sink never exists outside the decode loop, so `shutdown_l` leaves
none, whether or not a work thread was running. -/
theorem shutdownL_renderer {pump : DecoderPump} (consistent : RenderConsistent pump) :
    pump.shutdownL.renderer = none := by
  unfold shutdownL requestExitAndWait
  dsimp only
  split_ifs with idle
  · cases made : pump.renderer with
    | none => rfl
    | some track =>
        obtain ⟨_, _, looping⟩ := consistent.looping track made
        rw [looping] at idle
        cases idle
  · rfl

theorem workerStep_renderConsistent {pump pump' : DecoderPump} {action : WorkerAction}
    (consistent : RenderConsistent pump) (stepped : pump.workerStep action = .ok pump') :
    RenderConsistent pump' := by
  have noSink : pump.worker = .starting → pump.renderer = none := by
    intro starting
    cases made : pump.renderer with
    | none => rfl
    | some track =>
        obtain ⟨_, _, looping⟩ := consistent.looping track made
        rw [looping] at starting
        cases starting
  cases action with
  | start result =>
      simp only [workerStep] at stepped
      split at stepped
      · rename_i starting
        unfold workThreadStart at stepped
        split_ifs at stepped <;> cases stepped <;> exact renderConsistent_of_none (noSink starting)
      · cases stepped
        exact consistent
  | read =>
      simp only [workerStep] at stepped
      split_ifs at stepped
      · cases stepped
        exact consistent
      · split at stepped
        · rename_i returned
          cases stepped
          rcases read_eq_some returned with ⟨-, rfl, -⟩ | ⟨-, -, _, -, -, taken⟩
          · exact consistent
          · rw [taken]
            exact ⟨consistent.current, consistent.looping⟩
        · cases stepped
          exact consistent
  | decode outcome env =>
      simp only [workerStep] at stepped
      split at stepped
      · exact workThreadIteration_renderConsistent consistent stepped
      · cases stepped
        exact consistent
  | exit =>
      simp only [workerStep] at stepped
      split at stepped
      · split_ifs at stepped <;> cases stepped
        · exact renderConsistent_of_none rfl
        · exact consistent
      · cases stepped
        exact consistent

theorem step_renderConsistent {pump pump' : DecoderPump} {op : PumpOp}
    (consistent : RenderConsistent pump) (stepped : pump.step op = .ok pump') :
    RenderConsistent pump' := by
  cases op with
  | init params codecCreated threadCreated =>
      simp only [step, Functor.map, Except.map] at stepped
      split at stepped
      · cases stepped
      · cases stepped
        obtain ⟨_, _, _, _, _, worker, framed, -, kept | ⟨-, idle, -⟩⟩ := init_frame ‹_›
        all_goals rw [framed]
        · exact ⟨consistent.current, fun track made => kept ▸ consistent.looping track made⟩
        · refine ⟨consistent.current, fun track made => ?_⟩
          obtain ⟨_, _, looping⟩ := consistent.looping track made
          rw [looping] at idle
          cases idle
  | queueForDecode buf =>
      cases stepped
      rcases queueForDecode_cases pump buf with ⟨-, same⟩ | ⟨_, -, queued⟩
      · rw [same]
        exact consistent
      · rw [queued]
        exact ⟨consistent.current, consistent.looping⟩
  | setRenderTSTransform transform =>
      cases stepped
      unfold setRenderTSTransform
      split_ifs
      · exact consistent
      · constructor
        · intro track made
          obtain ⟨old, held, rfl⟩ := Option.map_eq_some'.mp made
          exact ⟨rfl, rfl, (consistent.current old held).2.2⟩
        · intro track made
          obtain ⟨old, held, -⟩ := Option.map_eq_some'.mp made
          exact consistent.looping old held
  | setRenderVolume volume =>
      cases stepped
      unfold setRenderVolume
      split_ifs
      · exact consistent
      · constructor
        · intro track made
          obtain ⟨old, held, rfl⟩ := Option.map_eq_some'.mp made
          obtain ⟨valid, transform, -⟩ := consistent.current old held
          exact ⟨valid, transform, rfl⟩
        · intro track made
          obtain ⟨old, held, -⟩ := Option.map_eq_some'.mp made
          exact consistent.looping old held
  | requestExit =>
      cases stepped
      exact ⟨consistent.current, consistent.looping⟩
  | shutdown =>
      cases stepped
      exact renderConsistent_of_none (shutdownL_renderer consistent)
  | worker action => exact workerStep_renderConsistent consistent stepped

/-- In every state a run of the pump reaches from its constructor, the render
sink, where there is one, was last given the stored clock transform, which is
valid, and the stored volume. -/
theorem run_sinkCurrent {ops : List PumpOp} {pump : DecoderPump}
    (ran : ({} : DecoderPump).run ops = .ok pump) :
    ∀ track, pump.renderer = some track →
      pump.lastTsTransformValid = true ∧ track.transform = pump.lastTsTransform ∧
        track.volume = pump.lastVolume :=
  (@run_invariant RenderConsistent (fun _ => True) (fun _ consistent stepped =>
    step_renderConsistent consistent stepped) {} pump ops (fun _ _ => trivial)
    (renderConsistent_of_none rfl) ran).current

theorem run_sinkCurrent_transformThenDecode :
    ∃ pump, ({} : DecoderPump).run (.setRenderTSTransform {} :: startAndDecode) = .ok pump ∧
      pump.renderer.isSome ∧
      ∀ track, pump.renderer = some track →
        pump.lastTsTransformValid = true ∧ track.transform = pump.lastTsTransform ∧
          track.volume = pump.lastVolume :=
  ⟨_, rfl, rfl, @run_sinkCurrent (.setRenderTSTransform {} :: startAndDecode) _ rfl⟩

def renderConfig (pump : DecoderPump) : Bool × LinearTransform × UInt8 :=
  (pump.lastTsTransformValid, pump.lastTsTransform, pump.lastVolume)

theorem workerStep_renderConfig {pump pump' : DecoderPump} {action : WorkerAction}
    (stepped : pump.workerStep action = .ok pump') : pump'.renderConfig = pump.renderConfig := by
  cases action with
  | start result =>
      simp only [workerStep] at stepped
      split at stepped
      · unfold workThreadStart at stepped
        split_ifs at stepped <;> cases stepped <;> rfl
      · cases stepped
        rfl
  | read =>
      simp only [workerStep] at stepped
      split_ifs at stepped
      · cases stepped
        rfl
      · split at stepped
        · cases stepped
          rcases read_eq_some ‹_› with ⟨-, rfl, -⟩ | ⟨-, -, _, -, -, taken⟩
          · rfl
          · rw [taken]
            rfl
        · cases stepped
          rfl
  | decode outcome env =>
      simp only [workerStep] at stepped
      split at stepped
      · obtain ⟨cleaned, which, after⟩ := workThreadIteration_cases stepped
        have cleanedConfig : cleaned.renderConfig = pump.renderConfig := by
          rcases which with rfl | rfl <;> rfl
        rcases after with ⟨_, rfl⟩ | ⟨_, _, rfl⟩ | ⟨_, rendered, queued, rfl⟩
        · exact cleanedConfig
        · exact cleanedConfig
        · obtain ⟨ts, setUp, -, made, result⟩ := queueToRenderer_cases queued
          have kept : setUp.renderConfig = cleaned.renderConfig := by
            rcases setupRenderer_cases made with same | ⟨-, -, built⟩
            · rw [same]
            · rw [built]
              rfl
          rcases result with same | ⟨-, recorded⟩ <;> rw [‹rendered = _›] <;>
            exact kept.trans cleanedConfig
      · cases stepped
        rfl
  | exit =>
      simp only [workerStep] at stepped
      split at stepped
      · split_ifs at stepped <;> cases stepped <;> rfl
      · cases stepped
        rfl

theorem runWorker_renderConfig {pump pump' : DecoderPump} {actions : List WorkerAction}
    (ran : pump.runWorker actions = .ok pump') : pump'.renderConfig = pump.renderConfig := by
  induction actions generalizing pump with
  | nil =>
      cases ran
      rfl
  | cons action rest inductionHypothesis =>
      simp only [runWorker, bind, Except.bind] at ran
      split at ran
      · cases ran
      · exact (inductionHypothesis ran).trans (workerStep_renderConfig ‹_›)

theorem isAboutToUnderflow_eq_true_iff (platform : Platform) (pump : DecoderPump)
    (threshold : BitVec 64) (now : Option (BitVec 64)) :
    pump.isAboutToUnderflow platform threshold now = true ↔
      pump.lastQueuedPtsValid = true ∧ pump.lastTsTransformValid = true ∧
        ∃ ttNow lastQueuedPtsTt, now = some ttNow ∧
          platform.doForwardTransform pump.lastTsTransform pump.lastQueuedPts =
            some lastQueuedPtsTt ∧
          BitVec.slt 0 (ttNow + threshold - lastQueuedPtsTt) = true := by
  unfold isAboutToUnderflow
  cases pump.lastQueuedPtsValid <;> cases pump.lastTsTransformValid <;>
    simp only [Bool.not_false, Bool.not_true, Bool.or_true, Bool.true_or, Bool.or_false, if_true,
      if_false, false_and, and_false, true_and, Bool.false_eq_true]
  cases now with
  | none => simp
  | some ttNow => cases platform.doForwardTransform pump.lastTsTransform pump.lastQueuedPts <;> simp

theorem toInt_bounds (x : BitVec 64) : -2 ^ 63 ≤ x.toInt ∧ x.toInt < 2 ^ 63 := by
  rw [BitVec.toInt_eq_toNat_bmod]
  have low := @Int.le_bmod x.toNat (2 ^ 64) (by decide)
  have high := @Int.bmod_lt x.toNat (2 ^ 64) (by decide)
  simp only [Nat.reducePow, Nat.cast_ofNat, Int.reduceNeg, Int.reduceDiv, Int.reduceAdd] at low high ⊢
  omega

theorem bmod_two_pow_of_fits {x : Int} (fits : -2 ^ 63 ≤ x ∧ x < 2 ^ 63) :
    Int.bmod x (2 ^ 64) = x := by
  unfold Int.bmod
  push_cast
  split <;> omega

/-- Where `now + threshold - D` fits in a signed 64-bit value, the code's test
is the comparison of the integers. -/
theorem slt_zero_sub_iff {ttNow threshold lastQueuedPtsTt : BitVec 64}
    (fits : -2 ^ 63 ≤ ttNow.toInt + threshold.toInt - lastQueuedPtsTt.toInt ∧
      ttNow.toInt + threshold.toInt - lastQueuedPtsTt.toInt < 2 ^ 63) :
    BitVec.slt 0 (ttNow + threshold - lastQueuedPtsTt) = true ↔
      lastQueuedPtsTt.toInt < ttNow.toInt + threshold.toInt := by
  have difference : (ttNow + threshold - lastQueuedPtsTt).toInt =
      ttNow.toInt + threshold.toInt - lastQueuedPtsTt.toInt := by
    rw [BitVec.toInt_sub, BitVec.toInt_add, Int.bmod_sub_bmod_congr]
    exact bmod_two_pow_of_fits fits
  have zero : (0 : BitVec 64).toInt = 0 := rfl
  simp only [BitVec.slt, difference, zero, decide_eq_true_eq]
  omega

/-- Where `now - D` is at least `2^63`, it wraps to a negative int64 and the
code's test fails. -/
theorem slt_zero_sub_eq_false {ttNow lastQueuedPtsTt : BitVec 64}
    (wraps : lastQueuedPtsTt.toInt ≤ ttNow.toInt - 2 ^ 63) :
    BitVec.slt 0 (ttNow - lastQueuedPtsTt) = false := by
  have nowBounds := toInt_bounds ttNow
  have ptsBounds := toInt_bounds lastQueuedPtsTt
  have difference : (ttNow - lastQueuedPtsTt).toInt =
      ttNow.toInt - lastQueuedPtsTt.toInt - 2 ^ 64 := by
    rw [BitVec.toInt_sub]
    unfold Int.bmod
    push_cast
    split <;> omega
  have zero : (0 : BitVec 64).toInt = 0 := rfl
  simp only [BitVec.slt, difference, zero, decide_eq_false_iff_not]
  omega

/-- With a sample queued, a transform stored, the clock read as `ttNow` and the
last PTS transformed to `D`, the code answers `D < ttNow + threshold` as
integers wherever the difference fits in a signed 64-bit value. -/
theorem isAboutToUnderflow_iff_of_fits {platform : Platform} {pump : DecoderPump}
    {threshold ttNow lastQueuedPtsTt : BitVec 64} (queued : pump.lastQueuedPtsValid = true)
    (stored : pump.lastTsTransformValid = true)
    (forward : platform.doForwardTransform pump.lastTsTransform pump.lastQueuedPts =
      some lastQueuedPtsTt)
    (fits : -2 ^ 63 ≤ ttNow.toInt + threshold.toInt - lastQueuedPtsTt.toInt ∧
      ttNow.toInt + threshold.toInt - lastQueuedPtsTt.toInt < 2 ^ 63) :
    pump.isAboutToUnderflow platform threshold (some ttNow) = true ↔
      lastQueuedPtsTt.toInt < ttNow.toInt + threshold.toInt := by
  rw [isAboutToUnderflow_eq_true_iff, ← slt_zero_sub_iff fits]
  simp [queued, stored, forward]

def unitTransform : LinearTransform := { aToBNumer := 1, aToBDenom := 1 }

/-- A platform whose `doForwardTransform` is `LinearTransform::doForwardTransform`
on `unitTransform`, the identity; it fails on every other transform. -/
def unitClock : Platform where
  getMPEGAudioFrameSize _ := none
  doForwardTransform transform pts := if transform = unitTransform then some pts else none

def decodeStampedAt (pts : BitVec 64) : WorkerAction :=
  .decode ⟨StatusT.ok, some ⟨some { time := some pts }⟩, 0⟩ {}

def underflowRun (pts : BitVec 64) : List PumpOp :=
  [.setRenderTSTransform unitTransform, .init (some stereoParams) true StatusT.ok,
    .worker (.start StatusT.ok), .worker (decodeStampedAt pts)]

/-- After a sample stamped `pts` was queued under the unit transform, with the
clock reading `1000000` and threshold `50000`: where `pts` is at most
`1050000 - 2^63`, it is below `now + threshold` as an integer, but the code
answers false. -/
theorem underflowRun_wraps (pts : BitVec 64)
    (early : pts.toInt ≤ (1000000 : BitVec 64).toInt + (50000 : BitVec 64).toInt - 2 ^ 63) :
    ∃ pump, ({} : DecoderPump).run (underflowRun pts) = .ok pump ∧
      pump.lastQueuedPtsValid = true ∧ pump.lastTsTransformValid = true ∧
      unitClock.doForwardTransform pump.lastTsTransform pump.lastQueuedPts = some pts ∧
      pts.toInt < (1000000 : BitVec 64).toInt + (50000 : BitVec 64).toInt ∧
      pump.isAboutToUnderflow unitClock 50000 (some 1000000) = false := by
  obtain ⟨pump, ran, queued, stored, forward⟩ : ∃ pump,
      ({} : DecoderPump).run (underflowRun pts) = .ok pump ∧ pump.lastQueuedPtsValid = true ∧
        pump.lastTsTransformValid = true ∧
        unitClock.doForwardTransform pump.lastTsTransform pump.lastQueuedPts = some pts :=
    ⟨_, rfl, rfl, rfl, rfl⟩
  have reading : (1000000 + 50000 : BitVec 64).toInt =
      (1000000 : BitVec 64).toInt + (50000 : BitVec 64).toInt := by decide
  refine ⟨pump, ran, queued, stored, forward, by omega, ?_⟩
  simp only [isAboutToUnderflow, queued, stored, forward, Bool.not_true, Bool.or_self,
    Bool.false_eq_true, if_false]
  exact slt_zero_sub_eq_false (by rw [reading]; exact early)

/-- The code answers the comparison of the integers wherever the difference
fits, but after a sample stamped `INT64_MIN` or `INT64_MIN + 1` was queued under
the unit transform, the clock reading `1000000` with threshold `50000` is past
the sample's time as an integer, `now + threshold - D` wraps to a negative
int64, and the code answers false. -/
theorem run_underflowWraps :
    (∀ (platform : Platform) (pump : DecoderPump) (threshold ttNow lastQueuedPtsTt : BitVec 64),
      pump.lastQueuedPtsValid = true → pump.lastTsTransformValid = true →
      platform.doForwardTransform pump.lastTsTransform pump.lastQueuedPts =
        some lastQueuedPtsTt →
      -2 ^ 63 ≤ ttNow.toInt + threshold.toInt - lastQueuedPtsTt.toInt →
      ttNow.toInt + threshold.toInt - lastQueuedPtsTt.toInt < 2 ^ 63 →
      (pump.isAboutToUnderflow platform threshold (some ttNow) = true ↔
        lastQueuedPtsTt.toInt < ttNow.toInt + threshold.toInt)) ∧
    (∃ pump, ({} : DecoderPump).run (underflowRun 0x8000000000000000) = .ok pump ∧
      pump.lastQueuedPtsValid = true ∧ pump.lastTsTransformValid = true ∧
      unitClock.doForwardTransform pump.lastTsTransform pump.lastQueuedPts =
        some 0x8000000000000000 ∧
      (0x8000000000000000 : BitVec 64).toInt <
        (1000000 : BitVec 64).toInt + (50000 : BitVec 64).toInt ∧
      pump.isAboutToUnderflow unitClock 50000 (some 1000000) = false) ∧
    ∃ pump, ({} : DecoderPump).run (underflowRun 0x8000000000000001) = .ok pump ∧
      pump.lastQueuedPtsValid = true ∧ pump.lastTsTransformValid = true ∧
      unitClock.doForwardTransform pump.lastTsTransform pump.lastQueuedPts =
        some 0x8000000000000001 ∧
      (0x8000000000000001 : BitVec 64).toInt <
        (1000000 : BitVec 64).toInt + (50000 : BitVec 64).toInt ∧
      pump.isAboutToUnderflow unitClock 50000 (some 1000000) = false :=
  ⟨fun _ _ _ _ _ queued stored forward low high =>
      isAboutToUnderflow_iff_of_fits queued stored forward ⟨low, high⟩,
    underflowRun_wraps _ (by decide), underflowRun_wraps _ (by decide)⟩

end DecoderPump

end AahRtp

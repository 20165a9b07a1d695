import AahRtp.Media.Basic

/-!
# The decoder pump: state and caller-side operations

`AAH_DecoderPump` of aah_decoder_pump.cpp as a record, with the operations its
owner calls: `queueForDecode`, `setRenderTSTransform`, `setRenderVolume`,
`isAboutToUnderflow`, `init` and `shutdown_l`. The work thread's side is in
`AahRtp.Pump.Worker`. What an external call returns (codec creation, thread
start) is an argument of the operation that makes the call.
-/

namespace AahRtp

structure TimedAudioTrack where
  sampleRate : UInt32
  channelCount : UInt32
  transform : LinearTransform
  volume : UInt8
  deriving DecidableEq, Repr

structure OMXCodec where
  format : MetaData
  deriving DecidableEq, Repr

inductive WorkerPhase where
  /-- No work thread runs. -/
  | idle
  /-- `thread_->run` succeeded and `decoder_->start` has not returned yet. -/
  | starting
  /-- Inside the decode loop of `workThread`, with its two error counters. -/
  | looping (consecutiveErrors consecutiveLongErrors : UInt32)
  deriving DecidableEq, Repr

/-- The fields of `AAH_DecoderPump` with the values its constructor gives them,
the work thread's phase, and two ghost logs: the ids of the buffers `read`
handed to the decoder and of those `shutdown_l` released. -/
structure DecoderPump where
  threadStatus : StatusT := StatusT.ok
  renderer : Option TimedAudioTrack := none
  lastQueuedPtsValid : Bool := false
  lastQueuedPts : BitVec 64 := 0
  lastTsTransformValid : Bool := false
  lastTsTransform : LinearTransform := {}
  lastVolume : UInt8 := 0xFF
  format : Option MetaData := none
  formatChannels : UInt32 := 0
  formatSampleRate : UInt32 := 0
  decoder : Option OMXCodec := none
  inQueue : List MediaBuffer := []
  /-- `thread_->exitPending()`. -/
  exitPending : Bool := false
  worker : WorkerPhase := .idle
  handed : List Nat := []
  released : List Nat := []
  deriving DecidableEq, Repr

namespace DecoderPump

/-- `queueForDecode` (lines 67-84). -/
def queueForDecode (pump : DecoderPump) : Option MediaBuffer → DecoderPump × StatusT
  | none => (pump, StatusT.badValue)
  | some buf =>
      if pump.threadStatus ≠ StatusT.ok then (pump, pump.threadStatus)
      else ({ pump with inQueue := pump.inQueue ++ [buf] }, StatusT.ok)

theorem queueForDecode_cases (pump : DecoderPump) (buf : Option MediaBuffer) :
    ((pump.queueForDecode buf).2 ≠ StatusT.ok ∧ (pump.queueForDecode buf).1 = pump) ∨
      ∃ unit, buf = some unit ∧
        pump.queueForDecode buf = ({ pump with inQueue := pump.inQueue ++ [unit] }, StatusT.ok) := by
  cases buf with
  | none => exact .inl ⟨by simp [queueForDecode, StatusT.badValue, StatusT.ok], rfl⟩
  | some unit =>
      simp only [queueForDecode]
      split_ifs with refused
      · exact .inl ⟨refused, rfl⟩
      · exact .inr ⟨unit, rfl, rfl⟩

/-- `setRenderTSTransform` (lines 185-205). -/
def setRenderTSTransform (pump : DecoderPump) (trans : LinearTransform) : DecoderPump :=
  if pump.lastTsTransformValid ∧ trans = pump.lastTsTransform then pump
  else
    { pump with
      lastTsTransform := trans
      lastTsTransformValid := true
      renderer := pump.renderer.map fun track => { track with transform := trans } }

/-- `setRenderVolume` (lines 207-221). -/
def setRenderVolume (pump : DecoderPump) (volume : UInt8) : DecoderPump :=
  if volume = pump.lastVolume then pump
  else
    { pump with
      lastVolume := volume
      renderer := pump.renderer.map fun track => { track with volume := volume } }

/-- `isAboutToUnderflow` (lines 251-278); `now` is what `getCommonTime` read,
`none` when it failed. -/
def isAboutToUnderflow (platform : Platform) (pump : DecoderPump) (threshold : BitVec 64)
    (now : Option (BitVec 64)) : Bool :=
  if !pump.lastQueuedPtsValid || !pump.lastTsTransformValid then false
  else
    match now with
    | none => false
    | some ttNow =>
        match platform.doForwardTransform pump.lastTsTransform pump.lastQueuedPts with
        | none => false
        | some lastQueuedPtsTt => BitVec.slt 0 (ttNow + threshold - lastQueuedPtsTt)

/-- `thread_->run` (utils/Threads.cpp): refused while the work thread runs;
otherwise it clears the exit request and, when the thread was created
(`created = OK`), the work thread starts. -/
def runThread (pump : DecoderPump) (created : StatusT) : DecoderPump × StatusT :=
  if pump.worker ≠ .idle then (pump, StatusT.invalidOperation)
  else if created = StatusT.ok then
    ({ pump with exitPending := false, worker := .starting }, StatusT.ok)
  else ({ pump with exitPending := false }, created)

/-- `init` (lines 397-451). `codecCreated` is whether `OMXCodec::Create`
returned a decoder, `threadCreated` the outcome of starting the work thread. -/
def init (pump : DecoderPump) (params : Option MetaData) (codecCreated : Bool)
    (threadCreated : StatusT) : Except Fault (DecoderPump × StatusT) :=
  if pump.decoder.isSome then .ok (pump, StatusT.ok)
  else
    match params with
    | none => .ok (pump, StatusT.badValue)
    | some params =>
        match params.channelCount with
        | none => .ok (pump, StatusT.badValue)
        | some channels =>
            let pump := { pump with formatChannels := channels }
            match params.sampleRate with
            | none => .ok (pump, StatusT.badValue)
            | some rate =>
                let pump := { pump with formatSampleRate := rate }
                if pump.threadStatus ≠ StatusT.ok then .error (.pumpCheck 417)
                else
                  let pump := { pump with
                    format := some params
                    decoder := if codecCreated then some ⟨params⟩ else none }
                  let (pump, retVal) :=
                    if codecCreated then pump.runThread threadCreated
                    else (pump, StatusT.unknownError)
                  let pump :=
                    if retVal ≠ StatusT.ok then { pump with decoder := none, format := none }
                    else pump
                  .ok (pump, StatusT.ok)

/-- `stopAndCleanupRenderer` (lines 175-183). -/
def stopAndCleanupRenderer (pump : DecoderPump) : DecoderPump :=
  { pump with renderer := none }

/-- `requestExit`, the signal and `requestExitAndWait` of `shutdown_l`: a running
work thread leaves through its exit path (`decoder_->stop()`,
`stopAndCleanupRenderer`) and ends, and the wait clears the exit request. -/
def requestExitAndWait (pump : DecoderPump) : DecoderPump :=
  let pump := if pump.worker = .idle then pump else pump.stopAndCleanupRenderer
  { pump with worker := .idle, exitPending := false }

/-- `shutdown_l` (lines 458-479), which `shutdown` runs under `init_lock_`. -/
def shutdownL (pump : DecoderPump) : DecoderPump :=
  let pump := pump.requestExitAndWait
  { pump with
    released := pump.released ++ pump.inQueue.map MediaBuffer.id
    inQueue := []
    lastQueuedPtsValid := false
    lastTsTransformValid := false
    lastVolume := 0xFF
    threadStatus := StatusT.ok
    decoder := none
    format := none }

theorem init_error {pump : DecoderPump} {params : Option MetaData} {codecCreated : Bool}
    {threadCreated : StatusT} {f : Fault}
    (failed : pump.init params codecCreated threadCreated = .error f) : f.IsPump := by
  unfold init at failed
  repeat' split at failed
  all_goals first | cases failed | (dsimp only at failed; split at failed <;> cases failed; trivial)

theorem init_frame {pump pump' : DecoderPump} {params : Option MetaData} {codecCreated : Bool}
    {threadCreated res : StatusT}
    (inited : pump.init params codecCreated threadCreated = .ok (pump', res)) :
    ∃ channels rate cached decoder exitPending worker,
      pump' = { pump with
        formatChannels := channels, formatSampleRate := rate, format := cached, decoder := decoder,
        exitPending := exitPending, worker := worker } ∧
      (decoder = pump.decoder ∨ decoder = none ∨
        ∃ format, params = some format ∧ decoder = some ⟨format⟩) ∧
      (worker = pump.worker ∨
        pump.threadStatus = StatusT.ok ∧ pump.worker = .idle ∧ worker = .starting) := by
  unfold init runThread at inited
  repeat' (first | split at inited | dsimp only at inited)
  all_goals cases inited
  all_goals refine ⟨_, _, _, _, _, _, rfl, ?_, ?_⟩
  all_goals first
    | exact .inl rfl
    | exact .inr (.inl rfl)
    | exact .inr (.inr ⟨_, rfl, rfl⟩)
    | exact .inr ⟨not_not.mp ‹_›, not_not.mp ‹_›, rfl⟩

theorem init_queue {pump pump' : DecoderPump} {params : Option MetaData} {codecCreated : Bool}
    {threadCreated res : StatusT}
    (inited : pump.init params codecCreated threadCreated = .ok (pump', res)) :
    pump'.inQueue = pump.inQueue ∧ pump'.handed = pump.handed ∧ pump'.released = pump.released := by
  obtain ⟨_, _, _, _, _, _, rfl, -⟩ := init_frame inited
  exact ⟨rfl, rfl, rfl⟩

theorem init_decoder {pump pump' : DecoderPump} {params : Option MetaData} {codecCreated : Bool}
    {threadCreated res : StatusT}
    (inited : pump.init params codecCreated threadCreated = .ok (pump', res)) :
    pump'.decoder = pump.decoder ∨ pump'.decoder = none ∨
      ∃ format, params = some format ∧ pump'.decoder = some ⟨format⟩ := by
  obtain ⟨_, _, _, _, _, _, rfl, made, -⟩ := init_frame inited
  exact made

/-- `init` never writes `thread_status_`, and with a failing one it stops at its
`CHECK` (line 417) before it could start a work thread. -/
theorem init_of_failing {pump pump' : DecoderPump} {params : Option MetaData}
    {codecCreated : Bool} {threadCreated res : StatusT} (failing : pump.threadStatus ≠ StatusT.ok)
    (inited : pump.init params codecCreated threadCreated = .ok (pump', res)) :
    pump'.threadStatus = pump.threadStatus ∧ pump'.worker = pump.worker := by
  obtain ⟨_, _, _, _, _, _, rfl, -, kept | ⟨running, -⟩⟩ := init_frame inited
  · exact ⟨rfl, kept⟩
  · exact absurd running failing

/-- `init` returns at once, `OK`, for a pump that has a decoder (line 400). -/
theorem init_of_decoder {pump : DecoderPump} (held : pump.decoder.isSome) (params : Option MetaData)
    (codecCreated : Bool) (threadCreated : StatusT) :
    pump.init params codecCreated threadCreated = .ok (pump, StatusT.ok) := by
  simp only [init, held, if_true]

theorem runThread_cases {pump pump' : DecoderPump} {created res : StatusT}
    (ran : pump.runThread created = (pump', res)) :
    pump'.decoder = pump.decoder ∧ pump'.format = pump.format ∧
      (pump'.worker = pump.worker ∨ res = StatusT.ok ∧ pump'.worker = .starting) := by
  unfold runThread at ran
  split_ifs at ran <;> cases ran
  · exact ⟨rfl, rfl, .inl rfl⟩
  · exact ⟨rfl, rfl, .inr ⟨rfl, rfl⟩⟩
  · exact ⟨rfl, rfl, .inl rfl⟩

theorem init_worker {pump pump' : DecoderPump} {params : Option MetaData} {codecCreated : Bool}
    {threadCreated res : StatusT}
    (inited : pump.init params codecCreated threadCreated = .ok (pump', res)) :
    pump'.worker = pump.worker ∨
      pump'.worker = .starting ∧ pump'.decoder.isSome ∧ pump'.format.isSome := by
  unfold init at inited
  split at inited
  · cases inited; exact .inl rfl
  rcases params with _ | ⟨mimeType, _ | channels, _ | rate, esds, time⟩
  all_goals dsimp only at inited
  all_goals try (cases inited; exact .inl rfl)
  generalize ran : DecoderPump.runThread _ threadCreated = started at inited
  obtain ⟨started, retVal⟩ := started
  obtain ⟨decoder, format, same | ⟨ok, starting⟩⟩ := runThread_cases ran
  all_goals split_ifs at inited <;> cases inited
  all_goals first
    | exact .inl rfl
    | exact .inl same
    | exact absurd ok ‹_›
    | exact .inr ⟨starting, by simp [decoder, *], by rw [format]; rfl⟩

/-- `init` fails only at its `CHECK` on `thread_status_` (line 417), reached
only without a decoder. -/
theorem init_eq_error {pump : DecoderPump} {params : Option MetaData} {codecCreated : Bool}
    {threadCreated : StatusT} {f : Fault}
    (failed : pump.init params codecCreated threadCreated = .error f) :
    f = .pumpCheck 417 ∧ pump.decoder = none ∧ pump.threadStatus ≠ StatusT.ok := by
  unfold init at failed
  repeat' split at failed
  all_goals try cases failed
  all_goals
    dsimp only at failed
    split at failed <;> cases failed
    exact ⟨rfl, Option.not_isSome_iff_eq_none.mp ‹_›, ‹_›⟩

@[simp]
theorem shutdownL_inQueue (pump : DecoderPump) : pump.shutdownL.inQueue = [] := rfl

@[simp]
theorem shutdownL_decoder (pump : DecoderPump) : pump.shutdownL.decoder = none := rfl

@[simp]
theorem shutdownL_released (pump : DecoderPump) :
    pump.shutdownL.released = pump.released ++ pump.inQueue.map MediaBuffer.id := by
  unfold shutdownL requestExitAndWait stopAndCleanupRenderer
  split <;> rfl

@[simp]
theorem shutdownL_handed (pump : DecoderPump) : pump.shutdownL.handed = pump.handed := by
  unfold shutdownL requestExitAndWait stopAndCleanupRenderer
  split <;> rfl

@[simp]
theorem shutdownL_worker (pump : DecoderPump) : pump.shutdownL.worker = .idle := rfl

@[simp]
theorem shutdownL_lastTsTransformValid (pump : DecoderPump) :
    pump.shutdownL.lastTsTransformValid = false := rfl

@[simp]
theorem shutdownL_threadStatus (pump : DecoderPump) : pump.shutdownL.threadStatus = StatusT.ok :=
  rfl

@[simp]
theorem setRenderVolume_inQueue (pump : DecoderPump) (volume : UInt8) :
    (pump.setRenderVolume volume).inQueue = pump.inQueue := by
  unfold setRenderVolume; split <;> rfl

@[simp]
theorem setRenderVolume_handed (pump : DecoderPump) (volume : UInt8) :
    (pump.setRenderVolume volume).handed = pump.handed := by
  unfold setRenderVolume; split <;> rfl

@[simp]
theorem setRenderVolume_released (pump : DecoderPump) (volume : UInt8) :
    (pump.setRenderVolume volume).released = pump.released := by
  unfold setRenderVolume; split <;> rfl

@[simp]
theorem setRenderVolume_decoder (pump : DecoderPump) (volume : UInt8) :
    (pump.setRenderVolume volume).decoder = pump.decoder := by
  unfold setRenderVolume; split <;> rfl

@[simp]
theorem setRenderTSTransform_inQueue (pump : DecoderPump) (trans : LinearTransform) :
    (pump.setRenderTSTransform trans).inQueue = pump.inQueue := by
  unfold setRenderTSTransform; split <;> rfl

@[simp]
theorem setRenderTSTransform_handed (pump : DecoderPump) (trans : LinearTransform) :
    (pump.setRenderTSTransform trans).handed = pump.handed := by
  unfold setRenderTSTransform; split <;> rfl

@[simp]
theorem setRenderTSTransform_released (pump : DecoderPump) (trans : LinearTransform) :
    (pump.setRenderTSTransform trans).released = pump.released := by
  unfold setRenderTSTransform; split <;> rfl

@[simp]
theorem setRenderTSTransform_decoder (pump : DecoderPump) (trans : LinearTransform) :
    (pump.setRenderTSTransform trans).decoder = pump.decoder := by
  unfold setRenderTSTransform; split <;> rfl

end DecoderPump

end AahRtp

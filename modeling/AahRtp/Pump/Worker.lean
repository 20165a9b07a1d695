import AahRtp.Pump.Basic

/-!
# The decoder pump: the work thread

`read` (the decoder pulls its input through it), `queueToRenderer`, and
`workThread` cut at its loop: the start, one iteration, and the exit path.
A `WorkerAction` is one step the work thread can take; one that is not
enabled in the current phase leaves the pump as it is, so a list of them is
any schedule of the thread.
-/

namespace AahRtp

/-- One decoded sample: its `MetaData`, `none` when `meta_data()` is `NULL`. -/
structure DecodedSample where
  meta : Option MetaData
  deriving DecidableEq, Repr

structure RenderEnv where
  /-- `new TimedAudioTrack()` returned a track. -/
  trackAllocated : Bool := true
  /-- `renderer_->set(...)`. -/
  setResult : StatusT := StatusT.ok
  /-- `renderer_->setMediaTimeTransform(...)` on a new track. -/
  transformResult : StatusT := StatusT.ok
  /-- `renderer_->allocateTimedBuffer(...)`. -/
  allocateResult : StatusT := StatusT.ok
  /-- `renderer_->queueTimedBuffer(...)`. -/
  queueResult : StatusT := StatusT.ok
  deriving DecidableEq, Repr

/-- What one `decoder_->read(&bufOut)` returned, and how long it took. -/
structure DecodeOutcome where
  result : StatusT
  output : Option DecodedSample
  durationUsecs : Nat
  deriving DecidableEq, Repr

def kLongDecodeErrorThreshold : Nat := 1000000

def kMaxLongErrorsBeforeFatal : UInt32 := 3

def kMaxErrorsBeforeFatal : UInt32 := 60

inductive WorkerAction where
  /-- `decoder_->start(format_)` returns `result`. -/
  | start (result : StatusT)
  /-- The decoder calls `read` for its next input. -/
  | read
  /-- One iteration of the decode loop, with what the sink returns if it renders. -/
  | decode (outcome : DecodeOutcome) (render : RenderEnv)
  /-- The loop sees the exit request and leaves. -/
  | exit
  deriving DecidableEq, Repr

namespace DecoderPump

/-- `read` (lines 481-506): `none` while it waits on `thread_cond_`. -/
def read (pump : DecoderPump) : Option (DecoderPump × StatusT × Option MediaBuffer) :=
  if pump.exitPending then some (pump, StatusT.invalidOperation, none)
  else
    match pump.inQueue with
    | [] => none
    | buf :: rest =>
        some ({ pump with inQueue := rest, handed := pump.handed ++ [buf.id] }, StatusT.ok, some buf)

/-- Lines 99-143 of `queueToRenderer`: make a render sink when there is none. -/
def setupRenderer (pump : DecoderPump) (env : RenderEnv) : Except Fault DecoderPump :=
  match pump.renderer with
  | some _ => .ok pump
  | none =>
      if !env.trackAllocated then .ok pump
      else if env.setResult ≠ StatusT.ok then .ok pump
      else if !pump.lastTsTransformValid then .error (.pumpCheck 121)
      else if env.transformResult ≠ StatusT.ok then .ok pump
      else
        .ok { pump with
          renderer := some
            { sampleRate := pump.formatSampleRate
              channelCount := pump.formatChannels
              transform := pump.lastTsTransform
              volume := pump.lastVolume } }

/-- `queueToRenderer` (lines 86-173). -/
def queueToRenderer (pump : DecoderPump) (sample : DecodedSample) (env : RenderEnv) :
    Except Fault DecoderPump :=
  match sample.meta.bind MetaData.time with
  | none => .error (.pumpCheck 97)
  | some ts => do
      let pump ← pump.setupRenderer env
      if pump.renderer.isNone then return pump
      if env.allocateResult ≠ StatusT.ok then return pump
      if env.queueResult ≠ StatusT.ok then return pump
      return { pump with lastQueuedPtsValid := true, lastQueuedPts := ts }

theorem setupRenderer_cases {pump pump' : DecoderPump} {env : RenderEnv}
    (setUp : pump.setupRenderer env = .ok pump') :
    pump' = pump ∨
      (pump.renderer = none ∧ pump.lastTsTransformValid = true ∧
        pump' = { pump with
          renderer := some
            { sampleRate := pump.formatSampleRate
              channelCount := pump.formatChannels
              transform := pump.lastTsTransform
              volume := pump.lastVolume } }) := by
  unfold setupRenderer at setUp
  split at setUp
  · cases setUp; exact .inl rfl
  · split_ifs at setUp with _ _ invalid <;> cases setUp
    all_goals first | exact .inl rfl | exact .inr ⟨‹_›, by simpa using invalid, rfl⟩

theorem queueToRenderer_cases {pump pump' : DecoderPump} {sample : DecodedSample}
    {env : RenderEnv} (queued : pump.queueToRenderer sample env = .ok pump') :
    ∃ ts setUp, sample.meta.bind MetaData.time = some ts ∧ pump.setupRenderer env = .ok setUp ∧
      (pump' = setUp ∨ (setUp.renderer.isSome ∧
        pump' = { setUp with lastQueuedPtsValid := true, lastQueuedPts := ts })) := by
  unfold queueToRenderer at queued
  split at queued
  · cases queued
  · rename_i ts stamped
    simp only [bind, Except.bind, pure, Except.pure] at queued
    split at queued
    · cases queued
    · rename_i setUp made
      refine ⟨ts, setUp, stamped, made, ?_⟩
      split_ifs at queued with none <;> cases queued
      all_goals first | exact .inl rfl | exact .inr ⟨Option.isSome_iff_ne_none.mpr (by simpa using none), rfl⟩

/-- Lines 284-300 of `workThread`: start the decoder. -/
def workThreadStart (pump : DecoderPump) (result : StatusT) : Except Fault DecoderPump :=
  if pump.decoder.isNone then .error (.pumpCheck 284)
  else if pump.format.isNone then .error (.pumpCheck 285)
  else if result ≠ StatusT.ok then .ok { pump with threadStatus := result, worker := .idle }
  else .ok { pump with threadStatus := result, worker := .looping 0 0 }

/-- Lines 391-394 of `workThread`, after the loop. -/
def workThreadExit (pump : DecoderPump) : DecoderPump :=
  { pump.stopAndCleanupRenderer with worker := .idle }

/-- One iteration of the decode loop of `workThread` (lines 303-388). -/
def workThreadIteration (pump : DecoderPump) (consecutiveErrors consecutiveLongErrors : UInt32)
    (outcome : DecodeOutcome) (env : RenderEnv) : Except Fault DecoderPump :=
  let formatChanged := outcome.result = StatusT.infoFormatChanged
  let pump := if formatChanged then pump.stopAndCleanupRenderer else pump
  let res := if formatChanged then StatusT.ok else outcome.result
  if res ≠ StatusT.ok then
    let consecutiveErrors := consecutiveErrors + 1
    let consecutiveLongErrors :=
      if outcome.durationUsecs ≥ kLongDecodeErrorThreshold then consecutiveLongErrors + 1
      else consecutiveLongErrors
    if outcome.output.isSome then .error (.pumpCheck 354)
    else if consecutiveErrors ≥ kMaxErrorsBeforeFatal ∨
        consecutiveLongErrors ≥ kMaxLongErrorsBeforeFatal then
      .ok { pump with threadStatus := res }.workThreadExit
    else .ok { pump with worker := .looping consecutiveErrors consecutiveLongErrors }
  else
    match outcome.output with
    | none => .ok { pump with worker := .looping consecutiveErrors consecutiveLongErrors }
    | some sample => do
        let pump ← pump.queueToRenderer sample env
        return { pump with worker := .looping 0 0 }

theorem workThreadIteration_cases {pump pump' : DecoderPump} {errors longErrors : UInt32}
    {outcome : DecodeOutcome} {env : RenderEnv}
    (iterated : pump.workThreadIteration errors longErrors outcome env = .ok pump') :
    ∃ cleaned, (cleaned = pump ∨ cleaned = pump.stopAndCleanupRenderer) ∧
      ((∃ status, pump' = { cleaned with threadStatus := status }.workThreadExit) ∨
        (∃ errors' longErrors', pump' = { cleaned with worker := .looping errors' longErrors' }) ∨
        ∃ sample rendered, cleaned.queueToRenderer sample env = .ok rendered ∧
          pump' = { rendered with worker := .looping 0 0 }) := by
  unfold workThreadIteration at iterated
  dsimp only at iterated
  generalize cleanedDef : (if outcome.result = StatusT.infoFormatChanged then
    pump.stopAndCleanupRenderer else pump) = cleaned at iterated
  have which : cleaned = pump ∨ cleaned = pump.stopAndCleanupRenderer := by
    subst cleanedDef
    split
    · exact .inr rfl
    · exact .inl rfl
  generalize (if outcome.result = StatusT.infoFormatChanged then StatusT.ok
    else outcome.result) = res at iterated
  generalize (if outcome.durationUsecs ≥ kLongDecodeErrorThreshold then longErrors + 1
    else longErrors) = longErrors' at iterated
  split_ifs at iterated <;> try cases iterated
  all_goals first
    | exact ⟨cleaned, which, .inl ⟨_, rfl⟩⟩
    | exact ⟨cleaned, which, .inr (.inl ⟨_, _, rfl⟩)⟩
    | skip
  all_goals
    split at iterated
    · cases iterated
      exact ⟨cleaned, which, .inr (.inl ⟨_, _, rfl⟩)⟩
    · simp only [bind, Except.bind, pure, Except.pure] at iterated
      split at iterated
      · cases iterated
      · cases iterated
        exact ⟨cleaned, which, .inr (.inr ⟨_, _, ‹_›, rfl⟩)⟩

/-- One step of the work thread; a step not enabled in the current phase
changes nothing. -/
def workerStep (pump : DecoderPump) : WorkerAction → Except Fault DecoderPump
  | .start result =>
      match pump.worker with
      | .starting => pump.workThreadStart result
      | _ => .ok pump
  | .read =>
      if pump.worker = .idle then .ok pump
      else
        match pump.read with
        | some (pump, _, _) => .ok pump
        | none => .ok pump
  | .decode outcome render =>
      match pump.worker with
      | .looping errors longErrors => pump.workThreadIteration errors longErrors outcome render
      | _ => .ok pump
  | .exit =>
      match pump.worker with
      | .looping _ _ => if pump.exitPending then .ok pump.workThreadExit else .ok pump
      | _ => .ok pump

def runWorker (pump : DecoderPump) : List WorkerAction → Except Fault DecoderPump
  | [] => .ok pump
  | action :: rest => do
      let pump ← pump.workerStep action
      pump.runWorker rest

theorem runWorker_append (pump : DecoderPump) (first later : List WorkerAction) :
    pump.runWorker (first ++ later) = pump.runWorker first >>= fun pump => pump.runWorker later := by
  induction first generalizing pump with
  | nil => rfl
  | cons action rest inductionHypothesis =>
      simp only [List.cons_append, runWorker]
      cases pump.workerStep action with
      | error => rfl
      | ok next => exact inductionHypothesis next

theorem workerStep_idle {pump : DecoderPump} (idle : pump.worker = .idle) (action : WorkerAction) :
    pump.workerStep action = .ok pump := by
  cases action <;> simp [workerStep, idle]

theorem runWorker_idle {pump : DecoderPump} (idle : pump.worker = .idle)
    (actions : List WorkerAction) : pump.runWorker actions = .ok pump := by
  induction actions with
  | nil => rfl
  | cons action rest inductionHypothesis =>
      simp only [runWorker, workerStep_idle idle, bind, Except.bind, inductionHypothesis]

def intake (pump : DecoderPump) :
    List MediaBuffer × List Nat × List Nat × Option OMXCodec × Option MetaData × Bool :=
  (pump.inQueue, pump.handed, pump.released, pump.decoder, pump.format, pump.exitPending)

theorem setupRenderer_intake {pump pump' : DecoderPump} {env : RenderEnv}
    (setUp : pump.setupRenderer env = .ok pump') : pump'.intake = pump.intake := by
  rcases setupRenderer_cases setUp with rfl | ⟨-, -, rfl⟩ <;> rfl

theorem queueToRenderer_intake {pump pump' : DecoderPump} {sample : DecodedSample}
    {env : RenderEnv} (queued : pump.queueToRenderer sample env = .ok pump') :
    pump'.intake = pump.intake := by
  obtain ⟨_, _, -, setUp, rfl | ⟨-, rfl⟩⟩ := queueToRenderer_cases queued <;>
    exact (setupRenderer_intake setUp :)

theorem workThreadStart_intake {pump pump' : DecoderPump} {result : StatusT}
    (started : pump.workThreadStart result = .ok pump') : pump'.intake = pump.intake := by
  unfold workThreadStart at started
  split_ifs at started <;> cases started <;> rfl

theorem workThreadIteration_intake {pump pump' : DecoderPump} {errors longErrors : UInt32}
    {outcome : DecodeOutcome} {env : RenderEnv}
    (iterated : pump.workThreadIteration errors longErrors outcome env = .ok pump') :
    pump'.intake = pump.intake := by
  obtain ⟨cleaned, which, shape⟩ := workThreadIteration_cases iterated
  have cleanup : cleaned.intake = pump.intake := by rcases which with rfl | rfl <;> rfl
  rcases shape with ⟨_, rfl⟩ | ⟨_, _, rfl⟩ | ⟨_, _, queued, rfl⟩
  · exact cleanup
  · exact cleanup
  · exact (queueToRenderer_intake queued).trans cleanup

theorem read_eq_some {pump pump' : DecoderPump} {result : StatusT} {buf : Option MediaBuffer}
    (returned : pump.read = some (pump', result, buf)) :
    (pump.exitPending = true ∧ pump' = pump ∧ result = StatusT.invalidOperation ∧ buf = none) ∨
      (pump.exitPending = false ∧ result = StatusT.ok ∧ ∃ head,
        buf = some head ∧ pump.inQueue = head :: pump'.inQueue ∧
          pump' = { pump with inQueue := pump'.inQueue, handed := pump.handed ++ [head.id] }) := by
  unfold read at returned
  by_cases pending : pump.exitPending
  · simp only [pending, if_true, Option.some.injEq, Prod.mk.injEq] at returned
    obtain ⟨rfl, rfl, rfl⟩ := returned
    exact .inl ⟨pending, rfl, rfl, rfl⟩
  · rw [if_neg pending] at returned
    cases listed : pump.inQueue with
    | nil => simp [listed] at returned
    | cons head rest =>
        simp only [listed, Option.some.injEq, Prod.mk.injEq] at returned
        obtain ⟨rfl, rfl, rfl⟩ := returned
        exact .inr ⟨by simpa using pending, rfl, head, rfl, rfl, rfl⟩

theorem workerStep_intake_of_ne_read {pump pump' : DecoderPump} {action : WorkerAction}
    (notRead : action ≠ .read) (stepped : pump.workerStep action = .ok pump') :
    pump'.intake = pump.intake := by
  cases action with
  | start result =>
      simp only [workerStep] at stepped
      split at stepped
      · exact workThreadStart_intake stepped
      · cases stepped; rfl
  | read => exact absurd rfl notRead
  | decode outcome render =>
      simp only [workerStep] at stepped
      split at stepped
      · exact workThreadIteration_intake stepped
      · cases stepped; rfl
  | exit =>
      simp only [workerStep] at stepped
      split at stepped
      · split at stepped <;> cases stepped <;> rfl
      · cases stepped; rfl

theorem workerStep_intake {pump pump' : DecoderPump} {action : WorkerAction}
    (stepped : pump.workerStep action = .ok pump') :
    pump'.decoder = pump.decoder ∧ pump'.format = pump.format ∧
      pump'.exitPending = pump.exitPending ∧ pump'.released = pump.released ∧
      pump'.handed ++ pump'.inQueue.map MediaBuffer.id =
        pump.handed ++ pump.inQueue.map MediaBuffer.id := by
  have unchanged : pump'.intake = pump.intake → pump'.decoder = pump.decoder ∧
      pump'.format = pump.format ∧ pump'.exitPending = pump.exitPending ∧
      pump'.released = pump.released ∧ pump'.handed ++ pump'.inQueue.map MediaBuffer.id =
        pump.handed ++ pump.inQueue.map MediaBuffer.id := by
    intro same
    simp only [intake, Prod.mk.injEq] at same
    simp [same]
  by_cases reading : action = .read
  · subst reading
    simp only [workerStep] at stepped
    split at stepped
    · cases stepped; exact unchanged rfl
    · split at stepped
      · rename_i returned
        cases stepped
        rcases read_eq_some returned with ⟨-, same, -, -⟩ | ⟨-, -, head, -, listed, shape⟩
        · exact unchanged (by rw [same])
        · rw [shape, listed]
          simp
      · cases stepped; exact unchanged rfl
  · exact unchanged (workerStep_intake_of_ne_read reading stepped)

theorem runWorker_intake {pump pump' : DecoderPump} {actions : List WorkerAction}
    (ran : pump.runWorker actions = .ok pump') :
    pump'.decoder = pump.decoder ∧ pump'.format = pump.format ∧
      pump'.exitPending = pump.exitPending ∧ pump'.released = pump.released ∧
      pump'.handed ++ pump'.inQueue.map MediaBuffer.id =
        pump.handed ++ pump.inQueue.map MediaBuffer.id := by
  induction actions generalizing pump with
  | nil =>
      cases ran
      exact ⟨rfl, rfl, rfl, rfl, rfl⟩
  | cons action rest inductionHypothesis =>
      simp only [runWorker, bind, Except.bind] at ran
      split at ran
      · cases ran
      · rename_i middle stepped
        obtain ⟨decoder, format, pending, released, moved⟩ := workerStep_intake stepped
        obtain ⟨decoder', format', pending', released', moved'⟩ := inductionHypothesis ran
        exact ⟨decoder'.trans decoder, format'.trans format, pending'.trans pending,
          released'.trans released, moved'.trans moved⟩

/-- `setupRenderer` fails only at its `CHECK` at line 121. -/
theorem setupRenderer_error {pump : DecoderPump} {env : RenderEnv} {f : Fault}
    (failed : pump.setupRenderer env = .error f) : f = .pumpCheck 121 := by
  unfold setupRenderer at failed
  split at failed
  · cases failed
  · split_ifs at failed
    cases failed
    rfl

/-- `setupRenderer` reaches the `CHECK` at line 121 exactly when there is no
render sink, the new track was allocated, its `set` succeeded, and no valid
clock transform is stored; a sink is made only with a valid transform. -/
theorem setupRenderer_error_iff (pump : DecoderPump) (env : RenderEnv) :
    (∃ f, pump.setupRenderer env = .error f) ↔
      pump.renderer = none ∧ env.trackAllocated = true ∧ env.setResult = StatusT.ok ∧
        pump.lastTsTransformValid = false := by
  unfold setupRenderer
  split
  · simp [*]
  · split_ifs <;> simp_all

/-- `queueToRenderer` fails only at its `CHECK`s on the sample's timestamp
(line 97) and on the clock transform (line 121). -/
theorem queueToRenderer_error {pump : DecoderPump} {sample : DecodedSample} {env : RenderEnv}
    {f : Fault} (failed : pump.queueToRenderer sample env = .error f) :
    f = .pumpCheck 97 ∨ f = .pumpCheck 121 := by
  unfold queueToRenderer at failed
  split at failed
  · cases failed
    exact .inl rfl
  · simp only [bind, Except.bind, pure, Except.pure] at failed
    split at failed
    · cases failed
      exact .inr (setupRenderer_error ‹_›)
    · split_ifs at failed

/-- An iteration of the decode loop fails only at the `CHECK` that a failed read
handed back no buffer (line 354), or in `queueToRenderer`. -/
theorem workThreadIteration_fault {pump : DecoderPump} {errors longErrors : UInt32}
    {outcome : DecodeOutcome} {env : RenderEnv} {f : Fault}
    (failed : pump.workThreadIteration errors longErrors outcome env = .error f) :
    f = .pumpCheck 97 ∨ f = .pumpCheck 121 ∨ f = .pumpCheck 354 := by
  unfold workThreadIteration at failed
  dsimp only at failed
  generalize (if outcome.result = StatusT.infoFormatChanged then
    pump.stopAndCleanupRenderer else pump) = cleaned at failed
  generalize (if outcome.result = StatusT.infoFormatChanged then StatusT.ok
    else outcome.result) = res at failed
  generalize (if outcome.durationUsecs ≥ kLongDecodeErrorThreshold then longErrors + 1
    else longErrors) = longErrors' at failed
  split_ifs at failed <;> try (cases failed <;> exact .inr (.inr rfl))
  all_goals
    split at failed
    · cases failed
    · simp only [bind, Except.bind, pure, Except.pure] at failed
      split at failed
      · cases failed
        exact (queueToRenderer_error ‹_›).elim .inl (.inr ∘ .inl)
      · cases failed

theorem workThreadIteration_error {pump : DecoderPump} {errors longErrors : UInt32}
    {outcome : DecodeOutcome} {env : RenderEnv} {f : Fault}
    (failed : pump.workThreadIteration errors longErrors outcome env = .error f) : f.IsPump := by
  rcases workThreadIteration_fault failed with rfl | rfl | rfl <;> trivial

/-- The `CHECK`s at the start of `workThread` (lines 284-285) fail only without
a decoder or without a format. -/
theorem workThreadStart_error {pump : DecoderPump} {result : StatusT} {f : Fault}
    (failed : pump.workThreadStart result = .error f) : pump.decoder = none ∨ pump.format = none := by
  unfold workThreadStart at failed
  split_ifs at failed with noDecoder noFormat
  · exact .inl (Option.isNone_iff_eq_none.mp noDecoder)
  · exact .inr (Option.isNone_iff_eq_none.mp noFormat)

theorem workerStep_error {pump : DecoderPump} {action : WorkerAction} {f : Fault}
    (failed : pump.workerStep action = .error f) : f.IsPump := by
  cases action with
  | start result =>
      simp only [workerStep] at failed
      split at failed
      · unfold workThreadStart at failed
        split_ifs at failed <;> cases failed <;> trivial
      · cases failed
  | read =>
      simp only [workerStep] at failed
      split at failed
      · cases failed
      · split at failed <;> cases failed
  | decode outcome render =>
      simp only [workerStep] at failed
      split at failed
      · exact workThreadIteration_error failed
      · cases failed
  | exit =>
      simp only [workerStep] at failed
      split at failed
      · split at failed <;> cases failed
      · cases failed

theorem runWorker_error {pump : DecoderPump} {actions : List WorkerAction} {f : Fault}
    (failed : pump.runWorker actions = .error f) : f.IsPump := by
  induction actions generalizing pump with
  | nil => cases failed
  | cons action rest inductionHypothesis =>
      simp only [runWorker, bind, Except.bind] at failed
      split at failed
      · cases failed
        exact workerStep_error ‹_›
      · exact inductionHypothesis failed

end DecoderPump

end AahRtp

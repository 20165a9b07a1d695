import AahRtp.Substream.PayloadCont

/-!
# The substream as a system

The operations the owning player calls on a substream, on its caller's
context, interleaved with the steps of the pump's work thread. A state is
reachable when some sequence of them leads to it from a new substream
without a crash.
-/

namespace AahRtp

inductive SubstreamOp where
  | processPayloadStart (buf : Payload) (tsLower : BitVec 32) (env : StartEnv)
  | processPayloadCont (buf : Payload) (env : CompletionEnv)
  | cleanupBufferInProgress
  | processTSTransform (trans : LinearTransform)
  | shutdown
  | worker (action : WorkerAction)

namespace Substream

def step (platform : Platform) (s : Substream) : SubstreamOp → Except Fault Substream
  | .processPayloadStart buf tsLower env => s.processPayloadStart platform buf tsLower env
  | .processPayloadCont buf env => s.processPayloadCont platform buf env
  | .cleanupBufferInProgress => .ok s.cleanupBufferInProgress
  | .processTSTransform transform => .ok (s.processTSTransform transform)
  | .shutdown => .ok s.shutdown
  | .worker action => do
      let decoder ← s.decoder.workerStep action
      return { s with decoder }

inductive Reachable (platform : Platform) : Substream → Prop where
  | new : Reachable platform Substream.new
  | step {s s' : Substream} {op : SubstreamOp} :
      Reachable platform s → s.step platform op = .ok s' → Reachable platform s'

def run (platform : Platform) (s : Substream) : List SubstreamOp → Except Fault Substream
  | [] => .ok s
  | op :: rest => do
      let s ← s.step platform op
      s.run platform rest

theorem reachable_of_run {platform : Platform} {s s' : Substream} {ops : List SubstreamOp}
    (start : Reachable platform s) (ran : s.run platform ops = .ok s') :
    Reachable platform s' := by
  induction ops generalizing s with
  | nil =>
      cases ran
      exact start
  | cons op rest inductionHypothesis =>
      simp only [run, bind, Except.bind] at ran
      split at ran
      · cases ran
      · exact inductionHypothesis (.step start ‹_›) ran

def busyRun : List SubstreamOp :=
  [.processPayloadStart mp3FrameStart 0 {}, .worker (.start StatusT.ok), .worker .read,
    .processPayloadStart mp3FrameStart 0 {}, .processPayloadStart mp3FrameStart 0 {},
    .processPayloadStart mp3PartialStart 0 {}]

end Substream

end AahRtp

import AahRtp.Pump.System

/-!
# The work thread's `CHECK`s

`workThread` begins with `CHECK(decoder_ != NULL)` and `CHECK(format_ != NULL)`
(lines 284-285), trusting that "the implementation of init and shutdown ensure
that other threads never touch decoder_ while the work thread is running"
(lines 282-283); `init` checks `OK == thread_status_` (line 417) once it has
found no decoder. `ThreadBacked` states that trust as an invariant: a work
thread that runs or is about to start has a decoder and a format, and a failing
`thread_status_` was stored by a work thread that had a decoder, which only
`shutdown_l` takes away, resetting the status with it.

Every operation of the pump keeps `ThreadBacked`, so in no run of the pump from
its constructor do those three `CHECK`s fail: a run fails only at the `CHECK`s
on what the decoder hands back (lines 97 and 354) or on the clock transform
(line 121).
-/

namespace AahRtp

namespace DecoderPump

structure ThreadBacked (pump : DecoderPump) : Prop where
  running : pump.worker ≠ .idle → pump.decoder.isSome ∧ pump.format.isSome
  failed : pump.threadStatus ≠ StatusT.ok → pump.decoder.isSome

theorem threadBacked_new : ThreadBacked ({} : DecoderPump) :=
  ⟨fun running => absurd rfl running, fun failing => absurd rfl failing⟩

theorem ThreadBacked.of_frame {pump pump' : DecoderPump} (backed : ThreadBacked pump)
    (worker : pump'.worker = pump.worker) (decoder : pump'.decoder = pump.decoder)
    (format : pump'.format = pump.format) (status : pump'.threadStatus = pump.threadStatus) :
    ThreadBacked pump' := by
  refine ⟨fun running => ?_, fun failing => ?_⟩
  · rw [decoder, format]
    exact backed.running (worker ▸ running)
  · rw [decoder]
    exact backed.failed (status ▸ failing)

/-- Without a decoder the invariant leaves the work thread idle and the status
`OK`, so `init` goes past its `CHECK` and starts a thread only with a decoder
and a format. -/
theorem init_threadBacked {pump pump' : DecoderPump} {params : Option MetaData}
    {codecCreated : Bool} {threadCreated res : StatusT} (backed : ThreadBacked pump)
    (inited : pump.init params codecCreated threadCreated = .ok (pump', res)) :
    ThreadBacked pump' := by
  by_cases held : pump.decoder.isSome
  · rw [init_of_decoder held] at inited
    cases inited
    exact backed
  have idle : pump.worker = .idle := by
    by_contra running
    exact held (backed.running running).1
  have status : pump.threadStatus = StatusT.ok := by
    by_contra failing
    exact held (backed.failed failing)
  obtain ⟨_, _, _, _, _, _, framed, -⟩ := init_frame inited
  refine ⟨fun running => ?_, fun failing => absurd (by rw [framed]; exact status) failing⟩
  rcases init_worker inited with same | ⟨-, started⟩
  · exact absurd (same.trans idle) running
  · exact started

/-- A work-thread step writes neither the codec nor its format, and writes
`thread_status_` only from a running thread. -/
theorem workerStep_threadBacked {pump pump' : DecoderPump} {action : WorkerAction}
    (backed : ThreadBacked pump) (stepped : pump.workerStep action = .ok pump') :
    ThreadBacked pump' := by
  by_cases idle : pump.worker = .idle
  · rw [workerStep_idle idle] at stepped
    cases stepped
    exact backed
  obtain ⟨decoder, format, -, -, -⟩ := workerStep_intake stepped
  obtain ⟨hasDecoder, hasFormat⟩ := backed.running idle
  rw [← decoder] at hasDecoder
  rw [← format] at hasFormat
  exact ⟨fun _ => ⟨hasDecoder, hasFormat⟩, fun _ => hasDecoder⟩

/-- A work-thread step from a state of the invariant fails only at lines 97, 121
or 354. -/
theorem workerStep_fault {pump : DecoderPump} {action : WorkerAction} {f : Fault}
    (backed : ThreadBacked pump) (failed : pump.workerStep action = .error f) :
    f = .pumpCheck 97 ∨ f = .pumpCheck 121 ∨ f = .pumpCheck 354 := by
  have running : pump.worker ≠ .idle := fun idle => by
    rw [workerStep_idle idle] at failed
    cases failed
  obtain ⟨hasDecoder, hasFormat⟩ := backed.running running
  cases action with
  | start result =>
      simp only [workerStep] at failed
      split at failed
      · rcases workThreadStart_error failed with none | none
        · simp [none] at hasDecoder
        · simp [none] at hasFormat
      · cases failed
  | decode outcome env =>
      simp only [workerStep] at failed
      split at failed
      · exact workThreadIteration_fault failed
      · cases failed
  | read | exit =>
      simp only [workerStep] at failed
      repeat' split at failed
      all_goals cases failed

theorem step_threadBacked {pump pump' : DecoderPump} {op : PumpOp} (backed : ThreadBacked pump)
    (stepped : pump.step op = .ok pump') : ThreadBacked pump' := by
  cases op with
  | init params codecCreated threadCreated =>
      simp only [step, Functor.map, Except.map] at stepped
      split at stepped
      · cases stepped
      · cases stepped
        exact init_threadBacked backed ‹_›
  | queueForDecode buf =>
      cases stepped
      rcases queueForDecode_cases pump buf with ⟨-, same⟩ | ⟨_, -, queued⟩
      · rw [same]
        exact backed
      · rw [queued]
        exact backed.of_frame rfl rfl rfl rfl
  | setRenderTSTransform transform =>
      cases stepped
      unfold setRenderTSTransform
      split_ifs
      · exact backed
      · exact backed.of_frame rfl rfl rfl rfl
  | setRenderVolume volume =>
      cases stepped
      unfold setRenderVolume
      split_ifs
      · exact backed
      · exact backed.of_frame rfl rfl rfl rfl
  | requestExit =>
      cases stepped
      exact backed.of_frame rfl rfl rfl rfl
  | shutdown =>
      cases stepped
      exact ⟨fun running => absurd (shutdownL_worker pump) running,
        fun failing => absurd (shutdownL_threadStatus pump) failing⟩
  | worker action => exact workerStep_threadBacked backed stepped

/-- An operation from a state of the invariant fails only at lines 97, 121 or
354: `init` does not reach its `CHECK`, and a started work thread has what its
first two `CHECK`s ask for. -/
theorem step_fault {pump : DecoderPump} {op : PumpOp} {f : Fault} (backed : ThreadBacked pump)
    (failed : pump.step op = .error f) :
    f = .pumpCheck 97 ∨ f = .pumpCheck 121 ∨ f = .pumpCheck 354 := by
  cases op with
  | init params codecCreated threadCreated =>
      simp only [step, Functor.map, Except.map] at failed
      split at failed
      · obtain ⟨-, noDecoder, failing⟩ := init_eq_error ‹_›
        have held := backed.failed failing
        rw [noDecoder] at held
        cases held
      · cases failed
  | worker action => exact workerStep_fault backed failed
  | queueForDecode | setRenderTSTransform | setRenderVolume | requestExit | shutdown =>
      cases failed

theorem run_fault {pump : DecoderPump} {ops : List PumpOp} {f : Fault} (backed : ThreadBacked pump)
    (failed : pump.run ops = .error f) :
    f = .pumpCheck 97 ∨ f = .pumpCheck 121 ∨ f = .pumpCheck 354 := by
  induction ops generalizing pump with
  | nil => cases failed
  | cons op rest inductionHypothesis =>
      simp only [run, bind, Except.bind] at failed
      split at failed
      · cases failed
        exact step_fault backed ‹_›
      · exact inductionHypothesis (step_threadBacked backed ‹_›) failed

/-- In no run of the pump from its constructor, over any interleaving of the
owner's calls and the work thread's steps, do the `CHECK`s at lines 284, 285
and 417 fail: a run fails only at the `CHECK`s on a decoded sample's timestamp
(line 97), on the clock transform (line 121) and on a failed read's buffer
(line 354). -/
theorem run_failsOnlyAtOutputChecks {ops : List PumpOp} {f : Fault}
    (failed : ({} : DecoderPump).run ops = .error f) :
    f = .pumpCheck 97 ∨ f = .pumpCheck 121 ∨ f = .pumpCheck 354 :=
  run_fault threadBacked_new failed

def untimedDecode : WorkerAction := .decode ⟨StatusT.ok, some ⟨some {}⟩, 0⟩ {}

def startAndDecodeUntimed : List PumpOp :=
  [.init (some stereoParams) true StatusT.ok, .worker (.start StatusT.ok), .worker untimedDecode]

theorem run_failsOnlyAtOutputChecks_untimed :
    ({} : DecoderPump).run startAndDecodeUntimed = .error (.pumpCheck 97) ∧
      (Fault.pumpCheck 97 = .pumpCheck 97 ∨ Fault.pumpCheck 97 = .pumpCheck 121 ∨
        Fault.pumpCheck 97 = .pumpCheck 354) :=
  ⟨rfl, @run_failsOnlyAtOutputChecks startAndDecodeUntimed _ rfl⟩

end DecoderPump

end AahRtp

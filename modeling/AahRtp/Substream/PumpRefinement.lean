import AahRtp.Substream.Reassembly
import AahRtp.Substream.PumpLifecycle
import AahRtp.Pump.Reset

/-!
# The substream drives its pump through the pump's operations

A substream changes its pump only by calls the pump offers: `init`,
`queueForDecode`, `setRenderVolume`, `setRenderTSTransform`, `shutdown_l`, and
the steps of the pump's work thread. So the pump of every state a substream
reaches is a state some run of the pump reaches from its constructor, and a
substream operation that fails inside its pump fails as such a run does
(`reachable_refinesPump`).

The substream's own `CHECK`s never fail: the reassembly invariant rules out
those of the reassembly, and the stored metadata always has a sample rate and a
channel count (`MetaComplete`), which rules out those at lines 582 and 584. With
the pump's invariant, a run of a substream fails only at the pump's `CHECK`s on
a decoded sample's timestamp, on the clock transform and on a failed read's
buffer (`run_failsOnlyAtPumpOutputChecks`).
-/

namespace AahRtp

namespace DecoderPump

theorem run_append (pump : DecoderPump) (first later : List PumpOp) :
    pump.run (first ++ later) = pump.run first >>= fun pump => pump.run later := by
  induction first generalizing pump with
  | nil => rfl
  | cons op rest inductionHypothesis =>
      simp only [List.cons_append, run]
      cases pump.step op with
      | error => rfl
      | ok next => exact inductionHypothesis next

theorem runWorker_eq_run (pump : DecoderPump) (actions : List WorkerAction) :
    pump.runWorker actions = pump.run (actions.map .worker) := by
  induction actions generalizing pump with
  | nil => rfl
  | cons action rest inductionHypothesis =>
      simp only [runWorker, run, List.map_cons, step]
      cases pump.workerStep action with
      | error => rfl
      | ok next => exact inductionHypothesis next

def RunsTo (pump pump' : DecoderPump) : Prop :=
  ∃ ops, pump.run ops = .ok pump'

def FailsWith (pump : DecoderPump) (f : Fault) : Prop :=
  ∃ ops, pump.run ops = .error f

namespace RunsTo

theorem refl (pump : DecoderPump) : pump.RunsTo pump :=
  ⟨[], rfl⟩

theorem trans {pump pump' pump'' : DecoderPump} (first : pump.RunsTo pump')
    (second : pump'.RunsTo pump'') : pump.RunsTo pump'' := by
  obtain ⟨ops, ran⟩ := first
  obtain ⟨ops', ran'⟩ := second
  exact ⟨ops ++ ops', by rw [run_append, ran]; exact ran'⟩

theorem failsWith {pump pump' : DecoderPump} {f : Fault} (runs : pump.RunsTo pump')
    (fails : pump'.FailsWith f) : pump.FailsWith f := by
  obtain ⟨ops, ran⟩ := runs
  obtain ⟨ops', failed⟩ := fails
  exact ⟨ops ++ ops', by rw [run_append, ran]; exact failed⟩

theorem of_step {pump pump' : DecoderPump} (op : PumpOp) (stepped : pump.step op = .ok pump') :
    pump.RunsTo pump' :=
  ⟨[op], by rw [run, stepped]; rfl⟩

theorem of_runWorker {pump pump' : DecoderPump} {actions : List WorkerAction}
    (ran : pump.runWorker actions = .ok pump') : pump.RunsTo pump' :=
  ⟨_, (runWorker_eq_run pump actions).symm.trans ran⟩

end RunsTo

theorem FailsWith.of_step {pump : DecoderPump} {f : Fault} (op : PumpOp)
    (failed : pump.step op = .error f) : pump.FailsWith f :=
  ⟨[op], by rw [run, failed]; rfl⟩

theorem FailsWith.of_runWorker {pump : DecoderPump} {actions : List WorkerAction} {f : Fault}
    (failed : pump.runWorker actions = .error f) : pump.FailsWith f :=
  ⟨_, (runWorker_eq_run pump actions).symm.trans failed⟩

end DecoderPump

theorem StartFrame.runsTo {s t : Substream} (frame : StartFrame s t) :
    s.decoder.RunsTo t.decoder := by
  rcases frame.decoder with same | ⟨volume, set⟩
  · rw [same]
    exact .refl _
  · rw [set]
    exact .of_step (.setRenderVolume volume) rfl

namespace Substream

def MetaComplete (s : Substream) : Prop :=
  ∀ meta, s.substreamMeta = some meta → meta.sampleRate.isSome ∧ meta.channelCount.isSome

/-! ### The fill phases -/

theorem abortBufferInProgress_decoder (s : Substream) :
    s.abortBufferInProgress.decoder = s.decoder := by
  rcases s.abortBufferInProgress_cases with cleaned | ⟨-, same⟩
  · rw [cleaned]
    rfl
  · rw [same]

theorem checkPayloadStart_runsTo {s : Substream} {buf : Payload} {tsLower : BitVec 32}
    {c : StartCheck} (checked : s.checkPayloadStart buf tsLower = .ok c) :
    s.decoder.RunsTo c.state.decoder := by
  obtain ⟨c', checked', framed, -⟩ := s.checkPayloadStart_frame buf tsLower
  rw [checked] at checked'
  cases checked'
  rcases framed with ⟨-, rfl⟩ | ⟨-, frame⟩
  · exact .refl _
  · rw [← abortBufferInProgress_decoder s]
    exact frame.runsTo

theorem startBuffer_decoder {s : Substream} {buf : Payload} {header : AudioHeader}
    {trtpHeaderLen : UInt32} {allocation : Allocation} {p : Progress}
    (started : s.startBuffer buf header trtpHeaderLen allocation = .ok p) :
    p.state.decoder = s.decoder := by
  cases allocation with
  | nullBuffer | nullData | nullMeta => cases started; rfl
  | allocated =>
      simp only [startBuffer] at started
      split at started <;> rw [(startPayload_cases rfl started).2]

theorem fillFromPayloadStart_runsTo {s : Substream} {buf : Payload} {tsLower : BitVec 32}
    {allocation : Allocation} {p : Progress}
    (filled : s.fillFromPayloadStart buf tsLower allocation = .ok p) :
    s.decoder.RunsTo p.state.decoder := by
  simp only [fillFromPayloadStart, bind, Except.bind, pure, Except.pure] at filled
  split at filled
  · cases filled
  · rename_i c checked
    have runs := checkPayloadStart_runsTo checked
    cases c with
    | dropped t => cases filled; exact runs
    | accepted t header trtpHeaderLen => rwa [startBuffer_decoder filled]

theorem fillFromPayloadCont_decoder {s : Substream} {buf : Payload} {p : Progress}
    (filled : s.fillFromPayloadCont buf = .ok p) : p.state.decoder = s.decoder := by
  rcases fillFromPayloadCont_cases filled with cleaned | ⟨-, framed⟩ <;> rw [‹p.state = _›]
  rfl

/-! ### Completing a unit -/

theorem setupAACSubstreamMeta_ok {s : Substream} (complete : s.MetaComplete)
    (metaAllocated : Bool) : ∃ result, s.setupAACSubstreamMeta metaAllocated = .ok result := by
  unfold setupAACSubstreamMeta
  cases held : s.substreamMeta with
  | none =>
      dsimp only
      split_ifs <;> exact ⟨_, rfl⟩
  | some meta =>
      obtain ⟨rate, count⟩ := complete meta held
      obtain ⟨sampleRate, hasRate⟩ := Option.isSome_iff_exists.mp rate
      obtain ⟨channelCount, hasCount⟩ := Option.isSome_iff_exists.mp count
      simp only [hasRate, hasCount]
      split_ifs <;> exact ⟨_, rfl⟩

theorem setupSubstreamMeta_ok {s : Substream} (complete : s.MetaComplete) (platform : Platform)
    (unit : MediaBuffer) (metaAllocated : Bool) :
    ∃ result, s.setupSubstreamMeta platform unit metaAllocated = .ok result := by
  unfold setupSubstreamMeta
  split_ifs
  · exact ⟨_, rfl⟩
  · exact setupAACSubstreamMeta_ok (s := { s with codecMimeType := mediaMimetypeAudioAac })
      complete metaAllocated
  · exact ⟨_, rfl⟩

theorem setupMP3SubstreamMeta_metaComplete {platform : Platform} {s t : Substream}
    {unit : MediaBuffer} {metaAllocated ready : Bool} (complete : s.MetaComplete)
    (derived : s.setupMP3SubstreamMeta platform unit metaAllocated = (t, ready)) :
    t.MetaComplete := by
  unfold setupMP3SubstreamMeta at derived
  repeat' split at derived
  all_goals cases derived
  all_goals intro meta held
  all_goals first
    | exact complete meta held
    | (cases held; exact ⟨rfl, rfl⟩)

theorem newAACSubstreamMeta_metaComplete {s t : Substream} {sampleRate channelCnt : UInt32}
    {esds : Option (List UInt8)} {metaAllocated ready : Bool}
    (made : s.newAACSubstreamMeta sampleRate channelCnt esds metaAllocated = (t, ready)) :
    t.MetaComplete := by
  unfold newAACSubstreamMeta at made
  split_ifs at made <;> cases made <;> intro meta held <;> cases held
  exact ⟨rfl, rfl⟩

theorem setupAACSubstreamMeta_metaComplete {s t : Substream} {metaAllocated ready : Bool}
    (complete : s.MetaComplete) (derived : s.setupAACSubstreamMeta metaAllocated = .ok (t, ready)) :
    t.MetaComplete := by
  unfold setupAACSubstreamMeta at derived
  dsimp only at derived
  generalize (if s.auxDataInProgress.length > 8 then some (s.auxDataInProgress.drop 8)
    else none) = esds at derived
  split_ifs at derived
  · cases derived
    exact complete
  split at derived
  · exact newAACSubstreamMeta_metaComplete (Except.ok.inj derived)
  split at derived
  · cases derived
  · cases derived
  split_ifs at derived
  · cases derived
    exact complete
  · exact newAACSubstreamMeta_metaComplete (Except.ok.inj derived)

theorem setupSubstreamMeta_metaComplete {platform : Platform} {s t : Substream}
    {unit : MediaBuffer} {metaAllocated ready : Bool} (complete : s.MetaComplete)
    (derived : s.setupSubstreamMeta platform unit metaAllocated = .ok (t, ready)) :
    t.MetaComplete := by
  unfold setupSubstreamMeta at derived
  split_ifs at derived
  · exact setupMP3SubstreamMeta_metaComplete (s := { s with codecMimeType := mediaMimetypeAudioMpeg })
      complete (Except.ok.inj derived)
  · exact setupAACSubstreamMeta_metaComplete (s := { s with codecMimeType := mediaMimetypeAudioAac })
      complete derived
  · cases derived
    exact complete

theorem completionStage_ok {platform : Platform} {s : Substream} {env : CompletionEnv}
    {stage : CompletionStage} (staged : s.completionStage platform env = .ok stage) :
    s.decoder.RunsTo stage.state.decoder ∧ (s.MetaComplete → stage.state.MetaComplete) := by
  simp only [completionStage, bind, Except.bind, pure, Except.pure] at staged
  split at staged
  · split at staged
    · cases staged
    · rename_i derivedResult derived
      obtain ⟨t, ready⟩ := derivedResult
      have derivedRuns : s.decoder.RunsTo t.decoder := by
        rcases (setupSubstreamMeta_frame derived).2 with same | shut
        · rw [same]
          exact .refl _
        · rw [shut]
          exact .of_step (.shutdown) rfl
      have derivedComplete := fun complete => setupSubstreamMeta_metaComplete complete derived
      dsimp only at staged
      split at staged
      · cases staged
        exact ⟨derivedRuns, derivedComplete⟩
      split at staged
      · cases staged
      rename_i initResult inited
      obtain ⟨decoder, res⟩ := initResult
      have initRuns : t.decoder.RunsTo decoder :=
        .of_step (.init t.substreamMeta env.codecCreated env.threadCreated)
          (by simp only [DecoderPump.step, inited]; rfl)
      dsimp only at staged
      split at staged
      · cases staged
        exact ⟨(derivedRuns.trans initRuns).trans (.of_step (.shutdown) rfl),
          fun _ _ absent => by cases absent⟩
      split at staged
      · cases staged
      · cases staged
        exact ⟨(derivedRuns.trans initRuns).trans (.of_runWorker ‹_›), derivedComplete⟩
  · cases staged

theorem completionStage_failsWith {platform : Platform} {s : Substream} {env : CompletionEnv}
    {f : Fault} (complete : s.MetaComplete) (failed : s.completionStage platform env = .error f) :
    (s.bufferInProgress = none ∧ f = .substreamCheck 405) ∨ s.decoder.FailsWith f := by
  simp only [completionStage, bind, Except.bind, pure, Except.pure] at failed
  split at failed
  · rename_i unit inProgress
    obtain ⟨result, derived⟩ := setupSubstreamMeta_ok complete platform unit
      env.metaAllocated
    rw [derived] at failed
    obtain ⟨t, ready⟩ := result
    have derivedRuns : s.decoder.RunsTo t.decoder := by
      rcases (setupSubstreamMeta_frame derived).2 with same | shut
      · rw [same]
        exact .refl _
      · rw [shut]
        exact .of_step (.shutdown) rfl
    dsimp only at failed
    split at failed
    · cases failed
    split at failed
    · cases failed
      exact .inr (derivedRuns.failsWith (.of_step (.init t.substreamMeta env.codecCreated
        env.threadCreated) (by simp only [DecoderPump.step, ‹t.decoder.init _ _ _ = _›]; rfl)))
    rename_i initResult inited
    obtain ⟨decoder, res⟩ := initResult
    have initRuns : t.decoder.RunsTo decoder :=
      .of_step (.init t.substreamMeta env.codecCreated env.threadCreated)
        (by simp only [DecoderPump.step, inited]; rfl)
    dsimp only at failed
    split at failed
    · cases failed
    split at failed
    · cases failed
      exact .inr ((derivedRuns.trans initRuns).failsWith (.of_runWorker ‹_›))
    · cases failed
  · rename_i noUnit
    cases failed
    exact .inl ⟨Option.eq_none_iff_forall_not_mem.mpr noUnit, rfl⟩

theorem enqueueCompletedBuffer_ok (s : Substream) :
    s.decoder.RunsTo s.enqueueCompletedBuffer.decoder ∧
      s.enqueueCompletedBuffer.substreamMeta = s.substreamMeta := by
  unfold enqueueCompletedBuffer
  have queued : s.decoder.RunsTo (s.decoder.queueForDecode s.bufferInProgress).1 :=
    .of_step (.queueForDecode s.bufferInProgress) rfl
  generalize s.decoder.queueForDecode s.bufferInProgress = result at queued
  obtain ⟨decoder, res⟩ := result
  dsimp only at queued ⊢
  split_ifs
  · exact ⟨queued.trans (.of_step (.shutdown) rfl), rfl⟩
  · exact ⟨queued, rfl⟩

theorem processCompletedBuffer_ok {platform : Platform} {s s' : Substream}
    {env : CompletionEnv} (completed : s.processCompletedBuffer platform env = .ok s') :
    s.decoder.RunsTo s'.decoder ∧ (s.MetaComplete → s'.MetaComplete) := by
  simp only [processCompletedBuffer, bind, Except.bind, pure, Except.pure] at completed
  split at completed
  · cases completed
  · rename_i stage staged
    obtain ⟨runs, complete⟩ := completionStage_ok staged
    cases stage with
    | bailout t => cases completed; exact ⟨runs, complete⟩
    | enqueue t =>
        cases completed
        obtain ⟨queued, sameMeta⟩ := enqueueCompletedBuffer_ok t
        exact ⟨runs.trans queued, fun held meta stored => complete held meta (sameMeta ▸ stored)⟩

theorem processCompletedBuffer_eq_error {platform : Platform} {s : Substream}
    {env : CompletionEnv} {f : Fault} (failed : s.processCompletedBuffer platform env = .error f) :
    s.completionStage platform env = .error f := by
  simp only [processCompletedBuffer, bind, Except.bind, pure, Except.pure] at failed
  split at failed
  · cases failed
    assumption
  · split at failed <;> cases failed

theorem Progress.finish_ok {platform : Platform} {env : CompletionEnv} {p : Progress}
    {s' : Substream} (finished : p.finish platform env = .ok s') :
    p.state.decoder.RunsTo s'.decoder ∧ (p.state.MetaComplete → s'.MetaComplete) := by
  cases p with
  | done t => cases finished; exact ⟨.refl _, id⟩
  | complete t => exact processCompletedBuffer_ok finished

/-! ### Operations and runs -/

theorem step_ok {platform : Platform} {s s' : Substream} {op : SubstreamOp}
    (stepped : s.step platform op = .ok s') :
    s.decoder.RunsTo s'.decoder ∧ (s.MetaComplete → s'.MetaComplete) := by
  cases op with
  | processPayloadStart buf tsLower env =>
      simp only [step, processPayloadStart, bind, Except.bind] at stepped
      split at stepped
      · cases stepped
      · rename_i p filled
        obtain ⟨runs, complete⟩ := Progress.finish_ok stepped
        have sameMeta : p.state.substreamMeta = s.substreamMeta :=
          congrArg Prod.snd (fillFromPayloadStart_codec filled)
        exact ⟨(fillFromPayloadStart_runsTo filled).trans runs,
          fun held => complete fun meta stored => held meta (sameMeta ▸ stored)⟩
  | processPayloadCont buf env =>
      simp only [step, processPayloadCont, bind, Except.bind] at stepped
      split at stepped
      · cases stepped
      · rename_i p filled
        obtain ⟨runs, complete⟩ := Progress.finish_ok stepped
        have sameMeta : p.state.substreamMeta = s.substreamMeta :=
          congrArg Prod.snd (fillFromPayloadCont_codec filled)
        exact ⟨fillFromPayloadCont_decoder filled ▸ runs,
          fun held => complete fun meta stored => held meta (sameMeta ▸ stored)⟩
  | cleanupBufferInProgress => cases stepped; exact ⟨.refl _, id⟩
  | processTSTransform trans =>
      cases stepped
      exact ⟨.of_step (.setRenderTSTransform trans) rfl, id⟩
  | shutdown =>
      cases stepped
      exact ⟨.of_step (.shutdown) rfl, fun _ _ absent => by cases absent⟩
  | worker action =>
      simp only [step, bind, Except.bind, pure, Except.pure] at stepped
      split at stepped
      · cases stepped
      · cases stepped
        exact ⟨.of_step (.worker action) ‹_›, id⟩

theorem step_failsWith {platform : Platform} {s : Substream} {op : SubstreamOp} {f : Fault}
    (inv : ReassemblyInv s) (complete : s.MetaComplete) (failed : s.step platform op = .error f) :
    s.decoder.FailsWith f := by
  have finished : ∀ {p : Progress} {env : CompletionEnv}, p.Sound s →
      s.decoder.RunsTo p.state.decoder → p.state.substreamMeta = s.substreamMeta →
      p.finish platform env = .error f → s.decoder.FailsWith f := by
    intro p env sound runs sameMeta failed
    cases p with
    | done t => cases failed
    | complete t =>
        rcases completionStage_failsWith (fun meta stored => complete meta (sameMeta ▸ stored))
          (processCompletedBuffer_eq_error failed) with ⟨idle, -⟩ | fails
        · have present : t.bufferInProgress.isSome = true := sound
          rw [show t.bufferInProgress = none from idle] at present
          cases present
        · exact runs.failsWith fails
  cases op with
  | processPayloadStart buf tsLower env =>
      obtain ⟨p, filled, sound⟩ := fillFromPayloadStart_sound inv buf tsLower env.allocation
      simp only [step, processPayloadStart, filled, bind, Except.bind] at failed
      exact finished sound (fillFromPayloadStart_runsTo filled)
        (congrArg Prod.snd (fillFromPayloadStart_codec filled)) failed
  | processPayloadCont buf env =>
      obtain ⟨p, filled, sound⟩ := fillFromPayloadCont_sound inv buf
      simp only [step, processPayloadCont, filled, bind, Except.bind] at failed
      exact finished sound (fillFromPayloadCont_decoder filled ▸ .refl _)
        (congrArg Prod.snd (fillFromPayloadCont_codec filled)) failed
  | worker action =>
      simp only [step, bind, Except.bind, pure, Except.pure] at failed
      split at failed
      · cases failed
        exact .of_step (.worker action) ‹_›
      · cases failed
  | cleanupBufferInProgress | processTSTransform | shutdown => cases failed

theorem reachable_runsTo {platform : Platform} {s : Substream} (reachable : Reachable platform s) :
    ({} : DecoderPump).RunsTo s.decoder ∧ s.MetaComplete := by
  induction reachable with
  | new => exact ⟨.refl _, fun _ absent => by cases absent⟩
  | step _ stepped inductionHypothesis =>
      obtain ⟨runs, complete⟩ := step_ok stepped
      exact ⟨inductionHypothesis.1.trans runs, complete inductionHypothesis.2⟩

/-- The substream refines its pump: the pump of every state a substream reaches
is a state some run of the pump's operations reaches from the pump's
constructor, and every operation that fails from such a state fails as some
run of the pump from its constructor does; no `CHECK` of the substream fails. -/
theorem reachable_refinesPump {platform : Platform} {s : Substream}
    (reachable : Reachable platform s) :
    ({} : DecoderPump).RunsTo s.decoder ∧
      ∀ op f, s.step platform op = .error f → ({} : DecoderPump).FailsWith f := by
  obtain ⟨runs, complete⟩ := reachable_runsTo reachable
  exact ⟨runs, fun _ _ failed =>
    runs.failsWith (step_failsWith (reachable_reassemblyInv reachable) complete failed)⟩

theorem reachable_refinesPump_busy :
    ∃ s, Substream.new.run mpeg1Platform busyRun = .ok s ∧ s.bufferInProgress.isSome ∧
      s.decoder.decoder.isSome ∧ s.decoder.inQueue.length = 2 ∧
      ({} : DecoderPump).RunsTo s.decoder ∧
        ∀ op f, s.step mpeg1Platform op = .error f → ({} : DecoderPump).FailsWith f :=
  ⟨_, rfl, rfl, rfl, rfl,
    reachable_refinesPump (@reachable_of_run mpeg1Platform Substream.new _ busyRun .new rfl)⟩

theorem run_failsWith {platform : Platform} {s : Substream} {ops : List SubstreamOp} {f : Fault}
    (reachable : Reachable platform s) (failed : s.run platform ops = .error f) :
    ({} : DecoderPump).FailsWith f := by
  induction ops generalizing s with
  | nil => cases failed
  | cons op rest inductionHypothesis =>
      simp only [run, bind, Except.bind] at failed
      split at failed
      · cases failed
        obtain ⟨runs, complete⟩ := reachable_runsTo reachable
        exact runs.failsWith (step_failsWith (reachable_reassemblyInv reachable) complete ‹_›)
      · exact inductionHypothesis (.step reachable ‹_›) failed

/-- A run of a substream from its constructor, over any interleaving of payload
starts, continuations, clock transforms, shutdowns and the pump's work-thread
steps, fails only at the pump's `CHECK`s on a decoded sample's timestamp (line
97), on the clock transform (line 121) and on a failed read's buffer (line
354): never at a `CHECK` of the reassembly or of the metadata, and never at the
pump's `CHECK`s at lines 284, 285 and 417. -/
theorem run_failsOnlyAtPumpOutputChecks {platform : Platform} {ops : List SubstreamOp} {f : Fault}
    (failed : Substream.new.run platform ops = .error f) :
    f = .pumpCheck 97 ∨ f = .pumpCheck 121 ∨ f = .pumpCheck 354 := by
  obtain ⟨pumpOps, pumpFailed⟩ := run_failsWith .new failed
  exact DecoderPump.run_fault DecoderPump.threadBacked_new pumpFailed

/-- An MP3 unit completes, and the work thread starts and decodes a stamped
sample before any clock transform: the run fails at line 121. -/
def completeThenDecode : List SubstreamOp :=
  [.processPayloadStart mp3FrameStart 0
    { completion := { interleaved := [.start StatusT.ok, DecoderPump.stampedDecode] } }]

theorem run_failsOnlyAtPumpOutputChecks_completeThenDecode :
    Substream.new.run mpeg1Platform completeThenDecode = .error (.pumpCheck 121) ∧
      (Fault.pumpCheck 121 = .pumpCheck 97 ∨ Fault.pumpCheck 121 = .pumpCheck 121 ∨
        Fault.pumpCheck 121 = .pumpCheck 354) :=
  ⟨rfl, @run_failsOnlyAtPumpOutputChecks mpeg1Platform completeThenDecode _ rfl⟩

end Substream

end AahRtp

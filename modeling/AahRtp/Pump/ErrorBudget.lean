import AahRtp.Pump.Render
import AahRtp.Trtp.Wire

/-!
# The decode loop's error budget

The decode loop of `workThread` (lines 302-388) counts the failed reads since
the last read that produced output, and the long ones among them (at least
`kLongDecodeErrorThreshold`); at `kMaxErrorsBeforeFatal` failures or
`kMaxLongErrorsBeforeFatal` long ones it stores the failing status in
`thread_status_` and leaves. `failuresSinceOutput` counts them from the
outcomes themselves, and `Counting` ties the loop's two counters to that count
(`workerStep_decode_counting`). Once the loop has left, `queueForDecode`
refuses every buffer with that status until `shutdown_l` (`run_halted`).

A read that produces output goes to `queueToRenderer`, whose `CHECK`s abort
the process on an output without a timestamp (line 97) and on a new sink while
no valid clock transform is stored (line 121): a run that reaches one of them
never gets to the loop's exit (`runWorker_rendersBeforeBudget`). With a valid
transform stored and stamped outputs, the work thread never writes the
transform and renders every output, and the loop follows its budget to the
exit (`runWorker_errorBudget`).
-/

namespace AahRtp

namespace DecodeOutcome

def failed (outcome : DecodeOutcome) : Bool :=
  outcome.result != StatusT.ok && outcome.result != StatusT.infoFormatChanged

def long (outcome : DecodeOutcome) : Bool :=
  decide (kLongDecodeErrorThreshold ≤ outcome.durationUsecs)

def produced (outcome : DecodeOutcome) : Bool :=
  !outcome.failed && outcome.output.isSome

theorem result_ne_ok {outcome : DecodeOutcome} (failed : outcome.failed = true) :
    outcome.result ≠ StatusT.ok := by
  simp_all [DecodeOutcome.failed]

end DecodeOutcome

/-- The sample carries a timestamp, as `queueToRenderer` requires (line 97). -/
def DecodedSample.stamped (sample : DecodedSample) : Bool :=
  (sample.meta.bind MetaData.time).isSome

/-- The reads the loop takes without aborting: a failed read hands back no
buffer (line 354), and every output carries a timestamp (line 97). -/
structure DecodeOutcome.InDomain (outcome : DecodeOutcome) : Prop where
  bare : outcome.failed = true → outcome.output = none
  stamped : outcome.output.all DecodedSample.stamped = true

def failuresSinceOutput (outcomes : List DecodeOutcome) : List DecodeOutcome :=
  (outcomes.reverse.takeWhile fun outcome => !outcome.produced).filter DecodeOutcome.failed

def budgetSpent (outcomes : List DecodeOutcome) : Bool :=
  60 ≤ (failuresSinceOutput outcomes).length ||
    3 ≤ ((failuresSinceOutput outcomes).filter DecodeOutcome.long).length

theorem failuresSinceOutput_append (outcomes : List DecodeOutcome) (outcome : DecodeOutcome) :
    failuresSinceOutput (outcomes ++ [outcome]) =
      if outcome.produced then []
      else if outcome.failed then outcome :: failuresSinceOutput outcomes
      else failuresSinceOutput outcomes := by
  unfold failuresSinceOutput
  by_cases produced : outcome.produced
  · simp [produced]
  · by_cases failed : outcome.failed <;> simp [produced, failed]

def decodeSteps (steps : List (DecodeOutcome × RenderEnv)) : List WorkerAction :=
  steps.map fun step => .decode step.1 step.2

@[simp]
theorem decodeSteps_cons (step : DecodeOutcome × RenderEnv) (steps : List (DecodeOutcome × RenderEnv)) :
    decodeSteps (step :: steps) = .decode step.1 step.2 :: decodeSteps steps := rfl

@[simp]
theorem decodeSteps_append (first later : List (DecodeOutcome × RenderEnv)) :
    decodeSteps (first ++ later) = decodeSteps first ++ decodeSteps later :=
  List.map_append _ _ _

theorem budgetSpent_append_of_succeeded {outcomes : List DecodeOutcome} {outcome : DecodeOutcome}
    (succeeded : outcome.failed = false) (unspent : budgetSpent outcomes = false) :
    budgetSpent (outcomes ++ [outcome]) = false := by
  unfold budgetSpent at unspent ⊢
  rw [failuresSinceOutput_append, if_neg (by simp [succeeded] : ¬outcome.failed = true)]
  split_ifs
  · rfl
  · exact unspent

namespace DecoderPump

theorem queueToRenderer_threadStatus {pump pump' : DecoderPump} {sample : DecodedSample}
    {env : RenderEnv} (queued : pump.queueToRenderer sample env = .ok pump') :
    pump'.threadStatus = pump.threadStatus := by
  obtain ⟨ts, setUp, -, made, result⟩ := queueToRenderer_cases queued
  have kept : setUp.threadStatus = pump.threadStatus := by
    rcases setupRenderer_cases made with same | ⟨-, -, built⟩ <;> rw [‹setUp = _›]
  rcases result with same | ⟨-, recorded⟩ <;> rw [‹pump' = _›] <;> exact kept

structure Counting (pump : DecoderPump) (outcomes : List DecodeOutcome) : Prop where
  status : pump.threadStatus = StatusT.ok
  counters : ∃ errors longErrors, pump.worker = .looping errors longErrors ∧
    errors.toNat = (failuresSinceOutput outcomes).length ∧
    longErrors.toNat = ((failuresSinceOutput outcomes).filter DecodeOutcome.long).length
  unspent : budgetSpent outcomes = false

theorem Counting.counters_lt {pump : DecoderPump} {outcomes : List DecodeOutcome}
    (counting : Counting pump outcomes) :
    ∃ errors longErrors, pump.worker = .looping errors longErrors ∧
      errors < kMaxErrorsBeforeFatal ∧ longErrors < kMaxLongErrorsBeforeFatal := by
  obtain ⟨-, ⟨errors, longErrors, looping, counted, longCounted⟩, unspent⟩ := counting
  simp only [budgetSpent, Bool.or_eq_false_iff, decide_eq_false_iff_not, not_le] at unspent
  refine ⟨errors, longErrors, looping, ?_, ?_⟩
  · change errors.toNat < 60
    omega
  · change longErrors.toNat < 3
    omega

theorem counting_started {pump : DecoderPump} (started : pump.worker = .looping 0 0)
    (running : pump.threadStatus = StatusT.ok) : Counting pump [] :=
  ⟨running, ⟨0, 0, started, rfl, rfl⟩, rfl⟩

theorem decodeResult_of_succeeded {outcome : DecodeOutcome} (succeeded : outcome.failed = false) :
    (if outcome.result = StatusT.infoFormatChanged then StatusT.ok else outcome.result) =
      StatusT.ok := by
  simp only [DecodeOutcome.failed, Bool.and_eq_false_iff, bne_eq_false_iff_eq] at succeeded
  split_ifs <;> simp_all

theorem workerStep_decode_quiet {pump : DecoderPump} {outcomes : List DecodeOutcome}
    {outcome : DecodeOutcome} (render : RenderEnv) (counting : Counting pump outcomes)
    (succeeded : outcome.failed = false) (empty : outcome.produced = false) :
    ∃ pump', pump.workerStep (.decode outcome render) = .ok pump' ∧
      Counting pump' (outcomes ++ [outcome]) := by
  obtain ⟨status, ⟨errors, longErrors, looping, counted, longCounted⟩, unspent⟩ := counting
  have same : failuresSinceOutput (outcomes ++ [outcome]) = failuresSinceOutput outcomes := by
    simp [failuresSinceOutput_append, succeeded, empty]
  have silent : outcome.output = none := by
    simpa [DecodeOutcome.produced, succeeded] using empty
  refine ⟨_, by simp only [workerStep, looping, workThreadIteration,
    decodeResult_of_succeeded succeeded, silent]; rfl, ?_, ?_, ?_⟩
  · split <;> exact status
  · exact ⟨errors, longErrors, by split <;> rfl, same ▸ counted, same ▸ longCounted⟩
  · unfold budgetSpent at unspent ⊢
    rw [same]
    exact unspent

theorem queueToRenderer_ok_of_stored {pump : DecoderPump} (stored : pump.lastTsTransformValid = true)
    {sample : DecodedSample} (stamped : sample.stamped = true) (env : RenderEnv) :
    ∃ pump', pump.queueToRenderer sample env = .ok pump' := by
  obtain ⟨ts, timed⟩ := Option.isSome_iff_exists.mp stamped
  cases made : pump.setupRenderer env with
  | error f =>
      have invalid := ((setupRenderer_error_iff pump env).mp ⟨f, made⟩).2.2.2
      rw [stored] at invalid
      cases invalid
  | ok setUp =>
      simp only [queueToRenderer, timed, made, bind, Except.bind, pure, Except.pure]
      split_ifs <;> exact ⟨_, rfl⟩

theorem workerStep_decode_produced {pump : DecoderPump} {outcomes : List DecodeOutcome}
    {outcome : DecodeOutcome} {sample : DecodedSample} (render : RenderEnv)
    (counting : Counting pump outcomes) (stored : pump.lastTsTransformValid = true)
    (succeeded : outcome.failed = false) (output : outcome.output = some sample)
    (stamped : sample.stamped = true) :
    ∃ pump', pump.workerStep (.decode outcome render) = .ok pump' ∧
      Counting pump' (outcomes ++ [outcome]) := by
  obtain ⟨status, ⟨errors, longErrors, looping, -, -⟩, -⟩ := counting
  have reset : failuresSinceOutput (outcomes ++ [outcome]) = [] := by
    simp [failuresSinceOutput_append, DecodeOutcome.produced, succeeded, output]
  generalize cleanedDef : (if outcome.result = StatusT.infoFormatChanged then
    pump.stopAndCleanupRenderer else pump) = cleaned
  have cleanedKeeps : cleaned.lastTsTransformValid = true ∧ cleaned.threadStatus = StatusT.ok := by
    subst cleanedDef
    split <;> exact ⟨stored, status⟩
  obtain ⟨rendered, queued⟩ := queueToRenderer_ok_of_stored cleanedKeeps.1 stamped render
  refine ⟨{ rendered with worker := .looping 0 0 }, ?_, ?_, ⟨0, 0, rfl, by rw [reset]; rfl,
    by rw [reset]; rfl⟩, by simp [budgetSpent, reset]⟩
  · simp only [workerStep, looping, workThreadIteration, decodeResult_of_succeeded succeeded, output,
      ne_eq, not_true_eq_false, if_false, cleanedDef, queued, bind, Except.bind, pure, Except.pure]
  · show rendered.threadStatus = StatusT.ok
    rw [queueToRenderer_threadStatus queued, cleanedKeeps.2]

/-- A failed read counts against the budget: at 60 failures since the last
output, or 3 long ones among them, the loop stores the read's status and ends;
below both it goes on counting. -/
theorem workerStep_decode_failed {pump : DecoderPump} {outcomes : List DecodeOutcome}
    {outcome : DecodeOutcome} (render : RenderEnv) (counting : Counting pump outcomes)
    (failed : outcome.failed = true) (silent : outcome.output = none) :
    (budgetSpent (outcomes ++ [outcome]) = true → ∃ pump',
      pump.workerStep (.decode outcome render) = .ok pump' ∧
        pump'.threadStatus = outcome.result ∧ pump'.worker = .idle) ∧
    (budgetSpent (outcomes ++ [outcome]) = false → ∃ pump',
      pump.workerStep (.decode outcome render) = .ok pump' ∧
        Counting pump' (outcomes ++ [outcome])) := by
  obtain ⟨status, ⟨errors, longErrors, looping, counted, longCounted⟩, unspent⟩ := counting
  obtain ⟨notOk, notChanged⟩ :
      outcome.result ≠ StatusT.ok ∧ outcome.result ≠ StatusT.infoFormatChanged := by
    simpa [DecodeOutcome.failed] using failed
  have grown : failuresSinceOutput (outcomes ++ [outcome]) =
      outcome :: failuresSinceOutput outcomes := by
    simp [failuresSinceOutput_append, DecodeOutcome.produced, failed]
  simp only [budgetSpent, Bool.or_eq_false_iff, decide_eq_false_iff_not, not_le] at unspent
  have errorsNext : (errors + 1).toNat = (failuresSinceOutput outcomes).length + 1 := by
    rw [uint32_toNat_add_of_lt (by change errors.toNat + 1 < 2 ^ 32; omega), counted]
    rfl
  simp only [workerStep, looping, workThreadIteration, notChanged, if_false, ne_eq, notOk,
    not_false_eq_true, if_true, silent, Option.isSome_none, Bool.false_eq_true]
  generalize longDef : (if outcome.durationUsecs ≥ kLongDecodeErrorThreshold then longErrors + 1
      else longErrors) = longErrors'
  have longNext : longErrors'.toNat =
      ((outcome :: failuresSinceOutput outcomes).filter DecodeOutcome.long).length := by
    subst longDef
    split_ifs with isLong
    · rw [List.filter_cons_of_pos (by simpa [DecodeOutcome.long] using isLong), List.length_cons,
        ← longCounted]
      exact uint32_toNat_add_of_lt (by change longErrors.toNat + 1 < 2 ^ 32; omega)
    · rw [List.filter_cons_of_neg (by simpa [DecodeOutcome.long] using isLong), ← longCounted]
  have spentIff : budgetSpent (outcomes ++ [outcome]) = true ↔
      (errors + 1 ≥ kMaxErrorsBeforeFatal ∨ longErrors' ≥ kMaxLongErrorsBeforeFatal) := by
    simp only [budgetSpent, grown, ge_iff_le, uint32_le_iff, errorsNext, longNext,
      Bool.or_eq_true, decide_eq_true_eq, List.length_cons]
    exact Iff.rfl
  split_ifs with fatal
  · exact ⟨fun _ => ⟨_, rfl, rfl, rfl⟩, fun unspent' => nomatch (spentIff.mpr fatal).symm.trans unspent'⟩
  · refine ⟨fun spent => absurd (spentIff.mp spent) fatal, fun unspent' => ⟨_, rfl, status,
      ⟨_, _, rfl, by rw [grown, errorsNext]; rfl, by rw [grown, longNext]⟩, unspent'⟩⟩

theorem workerStep_decode_counting {pump : DecoderPump} {outcomes : List DecodeOutcome}
    {outcome : DecodeOutcome} (render : RenderEnv) (counting : Counting pump outcomes)
    (stored : pump.lastTsTransformValid = true) (domain : outcome.InDomain) :
    (budgetSpent (outcomes ++ [outcome]) = false → ∃ pump',
      pump.workerStep (.decode outcome render) = .ok pump' ∧
        Counting pump' (outcomes ++ [outcome])) ∧
    (budgetSpent (outcomes ++ [outcome]) = true → ∃ pump',
      pump.workerStep (.decode outcome render) = .ok pump' ∧ pump'.threadStatus = outcome.result ∧
        outcome.result ≠ StatusT.ok ∧ pump'.worker = .idle) := by
  cases failed : outcome.failed
  case false =>
    refine ⟨fun _ => ?_, fun spent => ?_⟩
    · cases output : outcome.output with
      | none =>
          exact workerStep_decode_quiet render counting failed
            (by simp [DecodeOutcome.produced, output])
      | some sample =>
          have stamped := domain.stamped
          rw [output] at stamped
          exact workerStep_decode_produced render counting stored failed output stamped
    · rw [budgetSpent_append_of_succeeded failed counting.unspent] at spent
      cases spent
  case true =>
    obtain ⟨exits, goesOn⟩ := workerStep_decode_failed render counting failed (domain.bare failed)
    refine ⟨goesOn, fun spent => ?_⟩
    obtain ⟨pump', stepped, status, idle⟩ := exits spent
    exact ⟨pump', stepped, status, DecodeOutcome.result_ne_ok failed, idle⟩

theorem runWorker_decode_counting {pump : DecoderPump} {outcomes : List DecodeOutcome}
    (counting : Counting pump outcomes) (stored : pump.lastTsTransformValid = true)
    (steps : List (DecodeOutcome × RenderEnv)) (domain : ∀ step ∈ steps, step.1.InDomain)
    (unspent : ∀ m ≤ steps.length,
      budgetSpent (outcomes ++ (steps.take m).map Prod.fst) = false) :
    ∃ pump', pump.runWorker (decodeSteps steps) = .ok pump' ∧
      Counting pump' (outcomes ++ steps.map Prod.fst) ∧ pump'.lastTsTransformValid = true := by
  induction steps generalizing pump outcomes with
  | nil => exact ⟨pump, rfl, by simpa using counting, stored⟩
  | cons step rest inductionHypothesis =>
      have first : budgetSpent (outcomes ++ [step.1]) = false := by
        simpa using unspent 1 (by simp)
      obtain ⟨next, stepped, counting'⟩ :=
        (workerStep_decode_counting step.2 counting stored (domain step (.head _))).1 first
      have stored' : next.lastTsTransformValid = true :=
        (congrArg Prod.fst (workerStep_renderConfig stepped)).trans stored
      have later := inductionHypothesis counting' stored' (fun step' member => domain step' (.tail _ member))
        (fun m le => by simpa using unspent (m + 1) (by simpa using le))
      simpa [runWorker, stepped, bind, Except.bind] using later

theorem step_halted {pump pump' : DecoderPump} {op : PumpOp}
    (failing : pump.threadStatus ≠ StatusT.ok) (idle : pump.worker = .idle)
    (notShutdown : op ≠ .shutdown) (stepped : pump.step op = .ok pump') :
    pump'.threadStatus = pump.threadStatus ∧ pump'.worker = .idle := by
  cases op with
  | init params codecCreated threadCreated =>
      simp only [step, Functor.map, Except.map] at stepped
      split at stepped
      · cases stepped
      · cases stepped
        obtain ⟨status, worker⟩ := init_of_failing failing ‹_›
        exact ⟨status, worker.trans idle⟩
  | queueForDecode buf =>
      cases stepped
      cases buf <;> simp [queueForDecode, failing, idle]
  | setRenderTSTransform transform =>
      cases stepped
      unfold setRenderTSTransform
      split_ifs <;> exact ⟨rfl, idle⟩
  | setRenderVolume volume =>
      cases stepped
      unfold setRenderVolume
      split_ifs <;> exact ⟨rfl, idle⟩
  | requestExit => cases stepped; exact ⟨rfl, idle⟩
  | shutdown => exact absurd rfl notShutdown
  | worker action =>
      rw [step, workerStep_idle idle] at stepped
      cases stepped
      exact ⟨rfl, idle⟩

theorem run_halted {pump pump' : DecoderPump} {ops : List PumpOp}
    (failing : pump.threadStatus ≠ StatusT.ok) (idle : pump.worker = .idle)
    (noShutdown : ∀ op ∈ ops, op ≠ .shutdown) (ran : pump.run ops = .ok pump') :
    pump'.threadStatus = pump.threadStatus ∧ pump'.worker = .idle :=
  @run_invariant (fun next => next.threadStatus = pump.threadStatus ∧ next.worker = .idle)
    (· ≠ .shutdown) (fun notShutdown ⟨status, idle⟩ stepped =>
      let ⟨status', idle'⟩ := step_halted (status ▸ failing) idle notShutdown stepped
      ⟨status'.trans status, idle'⟩) pump pump' ops noShutdown ⟨rfl, idle⟩ ran

structure Halted (pump : DecoderPump) (status : StatusT) : Prop where
  failing : status ≠ StatusT.ok
  refuses : ∀ {ops : List PumpOp} {pump' : DecoderPump}, (∀ op ∈ ops, op ≠ .shutdown) →
    pump.run ops = .ok pump' → pump'.threadStatus = status ∧
      (∀ buf, pump'.queueForDecode (some buf) = (pump', status)) ∧
      pump'.shutdownL.threadStatus = StatusT.ok

theorem halted_of_idle {pump : DecoderPump} (failing : pump.threadStatus ≠ StatusT.ok)
    (idle : pump.worker = .idle) : Halted pump pump.threadStatus where
  failing := failing
  refuses noShutdown ran := by
    obtain ⟨status, -⟩ := run_halted failing idle noShutdown ran
    exact ⟨status, fun buf => by simp [queueForDecode, status, failing], rfl⟩

/-- What the decode loop of a started work thread, with no exit request, does
with the reads `steps`. While no prefix has spent the budget it counts, with
status `OK` and its counters below `kMaxErrorsBeforeFatal` and
`kMaxLongErrorsBeforeFatal`. After the first read that spends it, it has stored
that read's failing status and left, the later reads change nothing, and the
pump is `Halted`. -/
structure ErrorBudget (pump : DecoderPump) (steps : List (DecodeOutcome × RenderEnv)) : Prop where
  counting : ∀ {before after : List (DecodeOutcome × RenderEnv)}, steps = before ++ after →
    (∀ m ≤ before.length, budgetSpent ((before.take m).map Prod.fst) = false) →
    ∃ pump', pump.runWorker (decodeSteps before) = .ok pump' ∧
      Counting pump' (before.map Prod.fst) ∧
      ∃ errors longErrors, pump'.worker = .looping errors longErrors ∧
        errors < kMaxErrorsBeforeFatal ∧ longErrors < kMaxLongErrorsBeforeFatal
  exits : ∀ {before after : List (DecodeOutcome × RenderEnv)} {step : DecodeOutcome × RenderEnv},
    steps = before ++ step :: after →
    (∀ m ≤ before.length, budgetSpent ((before.take m).map Prod.fst) = false) →
    budgetSpent (before.map Prod.fst ++ [step.1]) = true →
    ∃ pump', pump.runWorker (decodeSteps (before ++ [step])) = .ok pump' ∧
      pump.runWorker (decodeSteps steps) = .ok pump' ∧ pump'.worker = .idle ∧
      pump'.threadStatus = step.1.result ∧ Halted pump' step.1.result

/-- A started decode loop with a valid clock transform stored, fed reads of its
domain, follows its error budget. -/
theorem runWorker_errorBudget {pump : DecoderPump} (started : pump.worker = .looping 0 0)
    (running : pump.threadStatus = StatusT.ok) (stored : pump.lastTsTransformValid = true)
    (steps : List (DecodeOutcome × RenderEnv))
    (bare : ∀ step ∈ steps, step.1.failed = true → step.1.output = none)
    (stamped : ∀ step ∈ steps, step.1.output.all DecodedSample.stamped = true) :
    ErrorBudget pump steps where
  counting {before after} split unspent := by
    subst split
    obtain ⟨pump', ran, counting, -⟩ := runWorker_decode_counting (counting_started started running)
      stored before (fun step member => ⟨bare step (List.mem_append_left _ member), stamped step (List.mem_append_left _ member)⟩)
      (by simpa using unspent)
    simp only [List.nil_append] at counting
    exact ⟨pump', ran, counting, counting.counters_lt⟩
  exits {before after step} split unspent spent := by
    subst split
    obtain ⟨middle, ran, counting, stored'⟩ := runWorker_decode_counting
      (counting_started started running) stored before
      (fun step member => ⟨bare step (List.mem_append_left _ member), stamped step (List.mem_append_left _ member)⟩)
      (by simpa using unspent)
    obtain ⟨exited, stepped, status, failing, idle⟩ := (workerStep_decode_counting step.2 counting
      stored' ⟨bare step (by simp), stamped step (by simp)⟩).2 (by simpa using spent)
    have upTo : pump.runWorker (decodeSteps (before ++ [step])) = .ok exited := by
      simp [runWorker_append, ran, runWorker, stepped, bind, Except.bind]
    refine ⟨exited, upTo, ?_, idle, status, status ▸ halted_of_idle (status ▸ failing) idle⟩
    rw [show before ++ step :: after = (before ++ [step]) ++ after by simp, decodeSteps_append,
      runWorker_append, upTo]
    exact runWorker_idle idle _

def longFailure : DecodeOutcome := ⟨StatusT.unknownError, none, kLongDecodeErrorThreshold⟩

def stampedOutput : DecodeOutcome := ⟨StatusT.ok, some ⟨some { time := some 0 }⟩, 0⟩

theorem runWorker_errorBudget_outputThenLongFailures :
    ErrorBudget { worker := .looping 0 0, lastTsTransformValid := true }
      ((stampedOutput, {}) :: List.replicate 3 (longFailure, {})) :=
  runWorker_errorBudget rfl rfl rfl _ (by decide) (by decide)

def unstampedOutput : DecodeOutcome := ⟨StatusT.ok, some ⟨some {}⟩, 0⟩

/-- A started loop that renders a stamped sample before the owner set a clock
transform aborts at line 121, before three long failures can end it, and with a
transform stored an output without a timestamp aborts at line 97. -/
theorem runWorker_rendersBeforeBudget :
    ({ worker := .looping 0 0 } : DecoderPump).runWorker
        (decodeSteps ((stampedOutput, {}) :: List.replicate 3 (longFailure, {}))) =
      .error (.pumpCheck 121) ∧
    ({ worker := .looping 0 0 } : DecoderPump).runWorker
        (decodeSteps (List.replicate 3 (longFailure, {}))) =
      .ok { worker := .idle, threadStatus := StatusT.unknownError } ∧
    ({ worker := .looping 0 0, lastTsTransformValid := true } : DecoderPump).runWorker
        (decodeSteps [(unstampedOutput, {})]) =
      .error (.pumpCheck 97) :=
  ⟨rfl, rfl, rfl⟩

end DecoderPump

end AahRtp

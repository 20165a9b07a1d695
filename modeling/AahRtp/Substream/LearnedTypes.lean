import AahRtp.Substream.FatalStatus

/-!
# The substream and codec types are learned once

`setupSubstreamType` (lines 643-675) records the header and codec types of the
first payload start that gets past the header checks, and accepts only an MP3
or AAC codec type; once `substream_details_known_` is set it only compares.
Nothing else writes these three fields, not `shutdown` either (lines 65-70).
Each operation therefore keeps the types a substream knows, or learns them
when it knew none (`LearnsTypes`, `step_learnsTypes`), and from a new substream
whatever a substream learned is an MP3 or AAC codec type that it keeps for the
rest of its life, through format changes, fatal errors and shutdowns
(`reachable_typesLearnedOnce`).
-/

namespace AahRtp

namespace Substream

def learnedTypes (s : Substream) : Option (UInt8 × UInt8) :=
  if s.substreamDetailsKnown then some (s.substreamType, s.codecType) else none

def LearnsTypes (s t : Substream) : Prop :=
  t.learnedTypes = s.learnedTypes ∨
    s.learnedTypes = none ∧ ∃ substreamType codecType,
      t.learnedTypes = some (substreamType, codecType) ∧
        (codecType = TRTPAudioPacket.kCodecMPEG1Audio ∨
          codecType = TRTPAudioPacket.kCodecAACAudio)

namespace LearnsTypes

theorem of_eq {s t : Substream} (same : t.learnedTypes = s.learnedTypes) : LearnsTypes s t :=
  .inl same

theorem refl (s : Substream) : LearnsTypes s s :=
  of_eq rfl

theorem trans {s t u : Substream} (first : LearnsTypes s t) (second : LearnsTypes t u) :
    LearnsTypes s u := by
  rcases second with same | ⟨unknown, learned⟩
  · rw [LearnsTypes, same]
    exact first
  · rcases first with same | ⟨-, _, _, known, -⟩
    · exact .inr ⟨same ▸ unknown, learned⟩
    · rw [unknown] at known
      cases known

theorem keeps {s t : Substream} (learns : LearnsTypes s t) {types : UInt8 × UInt8}
    (known : s.learnedTypes = some types) : t.learnedTypes = some types := by
  rcases learns with same | ⟨unknown, -⟩
  · rw [same, known]
  · rw [unknown] at known
    cases known

end LearnsTypes

theorem setupSubstreamType_learnsTypes {s s' : Substream} {substreamType codecType : UInt8}
    (setUp : s.setupSubstreamType substreamType codecType = some s') : LearnsTypes s s' := by
  unfold setupSubstreamType at setUp
  split_ifs at setUp with known _ supported
  · cases setUp
    exact .refl s
  · cases setUp
    exact .inr ⟨by simp [learnedTypes, known], substreamType, codecType, rfl, supported⟩

theorem admitHeader_learnsTypes (s : Substream) (header : AudioHeader) :
    LearnsTypes s (s.admitHeader header).1 := by
  unfold admitHeader
  split
  · exact .refl s
  · rename_i typed setUp
    exact (setupSubstreamType_learnsTypes setUp).trans (.of_eq rfl)

theorem abortBufferInProgress_learnedTypes (s : Substream) :
    s.abortBufferInProgress.learnedTypes = s.learnedTypes := by
  rcases s.abortBufferInProgress_cases with cleaned | ⟨-, same⟩
  · rw [cleaned]; rfl
  · rw [same]

theorem checkPayloadStart_learnsTypes {s : Substream} {buf : Payload} {tsLower : BitVec 32}
    {c : StartCheck} (checked : s.checkPayloadStart buf tsLower = .ok c) :
    LearnsTypes s c.state := by
  by_cases abort : s.shouldAbort
  · simp only [checkPayloadStart, abort, if_true, pure, Except.pure, Except.ok.injEq] at checked
    subst checked
    exact .refl s
  have aborted : LearnsTypes s s.abortBufferInProgress :=
    .of_eq (abortBufferInProgress_learnedTypes s)
  obtain ⟨parsedHeader, parsed, parsedSized⟩ := s.abortBufferInProgress.parseAudioHeader_ok buf tsLower
  simp only [checkPayloadStart, abort, parsed, Bool.false_eq_true, if_false, bind, Except.bind,
    pure, Except.pure] at checked
  cases parsedHeader with
  | none => cases checked; exact aborted
  | some header =>
      have admitted := aborted.trans (admitHeader_learnsTypes s.abortBufferInProgress header)
      cases pass : (s.abortBufferInProgress.admitHeader header).2
      · simp only [pass, Bool.not_false, if_true, Except.ok.injEq] at checked
        subst checked
        exact admitted
      · obtain ⟨t, result, read, eq, -, fits⟩ :=
          readAuxLength_ok (s.abortBufferInProgress.admitHeader header).1 buf (parsedSized _ rfl)
        simp only [pass, Bool.not_true, Bool.false_eq_true, if_false, read] at checked
        have auxRead : LearnsTypes s t := admitted.trans (.of_eq (by rw [eq]; rfl))
        cases result with
        | none => cases checked; exact auxRead
        | some trtpHeaderLen =>
            rcases sizeBuffer_cases t buf header (fits _ rfl) with dropped | ⟨accepted, -⟩
            · cases dropped.symm.trans checked; exact auxRead
            · cases accepted.symm.trans checked; exact auxRead

theorem startBuffer_learnedTypes {s : Substream} {buf : Payload} {header : AudioHeader}
    {trtpHeaderLen : UInt32} {allocation : Allocation} {p : Progress}
    (started : s.startBuffer buf header trtpHeaderLen allocation = .ok p) :
    p.state.learnedTypes = s.learnedTypes := by
  cases allocation with
  | nullBuffer | nullData | nullMeta => cases started; rfl
  | allocated =>
      simp only [startBuffer] at started
      split at started <;> rw [(startPayload_cases rfl started).2] <;> rfl

theorem fillFromPayloadStart_learnsTypes {s : Substream} {buf : Payload} {tsLower : BitVec 32}
    {allocation : Allocation} {p : Progress}
    (filled : s.fillFromPayloadStart buf tsLower allocation = .ok p) : LearnsTypes s p.state := by
  simp only [fillFromPayloadStart, bind, Except.bind, pure, Except.pure] at filled
  split at filled
  · cases filled
  · rename_i c checked
    have learns := checkPayloadStart_learnsTypes checked
    cases c with
    | dropped t => cases filled; exact learns
    | accepted t header trtpHeaderLen =>
        exact learns.trans (.of_eq (startBuffer_learnedTypes filled))

theorem fillFromPayloadCont_learnedTypes {s : Substream} {buf : Payload} {p : Progress}
    (filled : s.fillFromPayloadCont buf = .ok p) : p.state.learnedTypes = s.learnedTypes := by
  rcases fillFromPayloadCont_cases filled with cleaned | ⟨-, framed⟩
  · rw [cleaned]; rfl
  · rw [framed]; rfl

theorem enqueueCompletedBuffer_learnedTypes (s : Substream) :
    s.enqueueCompletedBuffer.learnedTypes = s.learnedTypes := by
  unfold enqueueCompletedBuffer
  generalize s.decoder.queueForDecode s.bufferInProgress = result
  obtain ⟨decoder, res⟩ := result
  dsimp only
  split_ifs <;> rfl

theorem Progress.finish_learnedTypes {platform : Platform} {env : CompletionEnv} {p : Progress}
    {s' : Substream} (finished : p.finish platform env = .ok s') :
    s'.learnedTypes = p.state.learnedTypes := by
  cases p with
  | done t => cases finished; rfl
  | complete t =>
      simp only [Progress.finish, processCompletedBuffer, bind, Except.bind, pure,
        Except.pure] at finished
      split at finished
      · cases finished
      · rename_i stage staged
        have kept : stage.state.learnedTypes = t.learnedTypes := by
          rw [completionStage_frame staged]; rfl
        cases stage with
        | bailout u => cases finished; exact kept
        | enqueue u => cases finished; exact (enqueueCompletedBuffer_learnedTypes u).trans kept

theorem step_learnsTypes {platform : Platform} {s s' : Substream} {op : SubstreamOp}
    (stepped : s.step platform op = .ok s') : LearnsTypes s s' := by
  cases op with
  | processPayloadStart buf tsLower env =>
      simp only [step, processPayloadStart, bind, Except.bind] at stepped
      split at stepped
      · cases stepped
      · exact (fillFromPayloadStart_learnsTypes ‹_›).trans
          (.of_eq (Progress.finish_learnedTypes stepped))
  | processPayloadCont buf env =>
      simp only [step, processPayloadCont, bind, Except.bind] at stepped
      split at stepped
      · cases stepped
      · exact .of_eq ((Progress.finish_learnedTypes stepped).trans
          (fillFromPayloadCont_learnedTypes ‹_›))
  | cleanupBufferInProgress | processTSTransform | shutdown => cases stepped; exact .refl _
  | worker action =>
      simp only [step, bind, Except.bind, pure, Except.pure] at stepped
      split at stepped
      · cases stepped
      · cases stepped; exact .refl _

theorem run_learnsTypes {platform : Platform} {s s' : Substream} {ops : List SubstreamOp}
    (ran : s.run platform ops = .ok s') : LearnsTypes s s' := by
  induction ops generalizing s with
  | nil => cases ran; exact .refl _
  | cons op rest inductionHypothesis =>
      simp only [run, bind, Except.bind] at ran
      split at ran
      · cases ran
      · exact (step_learnsTypes ‹_›).trans (inductionHypothesis ran)

theorem reachable_learnsTypes {platform : Platform} {s : Substream}
    (reachable : Reachable platform s) : LearnsTypes Substream.new s := by
  induction reachable with
  | new => exact .refl _
  | step _ stepped inductionHypothesis => exact inductionHypothesis.trans (step_learnsTypes stepped)

/-- The types a substream learns are learned once: in every reachable state
where the substream knows its header and codec types, the codec type is MP3 or
AAC, and every later run keeps both as they are, through format changes, fatal
errors and `shutdown`, which does not forget them. -/
theorem reachable_typesLearnedOnce {platform : Platform} {s : Substream}
    (reachable : Reachable platform s) {substreamType codecType : UInt8}
    (learned : s.learnedTypes = some (substreamType, codecType)) :
    (codecType = TRTPAudioPacket.kCodecMPEG1Audio ∨
        codecType = TRTPAudioPacket.kCodecAACAudio) ∧
      ∀ ops s', s.run platform ops = .ok s' → s'.learnedTypes = some (substreamType, codecType) := by
  refine ⟨?_, fun ops s' ran => (run_learnsTypes ran).keeps learned⟩
  rcases reachable_learnsTypes reachable with unknown | ⟨-, _, _, known, supported⟩
  · rw [unknown] at learned
    cases learned
  · rw [known] at learned
    cases learned
    exact supported

theorem reachable_typesLearnedOnce_mp3 :
    ∃ s, Substream.new.run mpeg1Platform [.processPayloadStart mp3FrameStart 0 {}] = .ok s ∧
      s.learnedTypes = some (TRTPPacket.kHeaderTypeAudio, TRTPAudioPacket.kCodecMPEG1Audio) ∧
      (TRTPAudioPacket.kCodecMPEG1Audio = TRTPAudioPacket.kCodecMPEG1Audio ∨
          TRTPAudioPacket.kCodecMPEG1Audio = TRTPAudioPacket.kCodecAACAudio) ∧
        ∀ ops s', s.run mpeg1Platform ops = .ok s' →
          s'.learnedTypes = some (TRTPPacket.kHeaderTypeAudio, TRTPAudioPacket.kCodecMPEG1Audio) :=
  ⟨_, rfl, rfl, reachable_typesLearnedOnce
    (@reachable_of_run mpeg1Platform Substream.new _ [.processPayloadStart mp3FrameStart 0 {}] .new rfl)
    rfl⟩

end Substream

end AahRtp

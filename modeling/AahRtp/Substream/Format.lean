import AahRtp.Substream.StartChecks

/-!
# The decoder's format

`processCompletedBuffer` derives the substream's metadata from each completed
unit (`setupSubstreamMeta`: MP3 from the unit's leading frame header, AAC from
the aux data that came with it), shuts the pump down when that metadata
changes, and initialises the pump from it when the pump has no decoder. So the
pump's decoder, when it has one, was created from the substream's current
metadata (`DecoderCurrent`, kept by every operation), and every unit that goes
to `queueForDecode` goes to a decoder created for the format the unit
determines (`reachable_formatCurrent`).
-/

namespace AahRtp

inductive UnitFormat where
  | mp3 (sampleRate channelCount : UInt32)
  | aac (sampleRate channelCount : UInt32) (esds : Option (List UInt8))
  deriving DecidableEq, Repr

def UnitFormat.Describes : UnitFormat → MetaData → Prop
  | .mp3 sampleRate channelCount, meta =>
      meta.sampleRate = some sampleRate ∧ meta.channelCount = some channelCount
  | .aac sampleRate channelCount esds, meta =>
      meta.sampleRate = some sampleRate ∧ meta.channelCount = some channelCount ∧ meta.esds = esds

instance (f : UnitFormat) (meta : MetaData) : Decidable (f.Describes meta) := by
  cases f <;> unfold UnitFormat.Describes <;> infer_instance

namespace Substream

def unitFormat (platform : Platform) (s : Substream) (unit : MediaBuffer) : Option UnitFormat :=
  if s.codecType = TRTPAudioPacket.kCodecMPEG1Audio then
    if unit.data.length < 4 then none
    else
      (platform.getMPEGAudioFrameSize (u32AtList unit.data 0)).map fun (sampleRate, channelCount) =>
        .mp3 sampleRate channelCount
  else if s.codecType = TRTPAudioPacket.kCodecAACAudio then
    let aux := s.auxDataInProgress
    if aux.length < 8 then none
    else
      some (.aac (u32AtList aux 0) (u32AtList aux 4)
        (if aux.length > 8 then some (aux.drop 8) else none))
  else none

def codec (s : Substream) : Option OMXCodec × Option MetaData :=
  (s.decoder.decoder, s.substreamMeta)

def DecoderCurrent (s : Substream) : Prop :=
  ∀ codec, s.decoder.decoder = some codec → s.substreamMeta = some codec.format

namespace DecoderCurrent

theorem of_codec {s t : Substream} (current : s.DecoderCurrent) (same : t.codec = s.codec) :
    t.DecoderCurrent := by
  simp only [Substream.codec, Prod.mk.injEq] at same
  intro codec held
  rw [same.2]
  exact current codec (same.1 ▸ held)

theorem of_none {t : Substream} (none : t.decoder.decoder = none) : t.DecoderCurrent := by
  intro codec held
  rw [none] at held
  cases held

theorem decoder_none {s : Substream} (current : s.DecoderCurrent)
    (noMeta : s.substreamMeta = none) : s.decoder.decoder = none := by
  cases held : s.decoder.decoder with
  | none => rfl
  | some codec => rw [current codec held] at noMeta; cases noMeta

end DecoderCurrent

/-! ### The fill phases keep the codec -/

end Substream

theorem StartFrame.codec {s t : Substream} (frame : StartFrame s t) : t.codec = s.codec := by
  rcases frame.decoder with same | ⟨volume, set⟩ <;>
    simp [Substream.codec, frame.substreamMeta, *]

namespace Substream

theorem abortBufferInProgress_codec (s : Substream) : s.abortBufferInProgress.codec = s.codec := by
  rcases s.abortBufferInProgress_cases with cleaned | ⟨-, same⟩
  · rw [cleaned]; rfl
  · rw [same]

theorem checkPayloadStart_codec {s : Substream} {buf : Payload} {tsLower : BitVec 32}
    {c : StartCheck} (checked : s.checkPayloadStart buf tsLower = .ok c) : c.state.codec = s.codec := by
  obtain ⟨c', checked', framed, -⟩ := s.checkPayloadStart_frame buf tsLower
  rw [checked] at checked'
  cases checked'
  rcases framed with ⟨-, rfl⟩ | ⟨-, frame⟩
  · rfl
  · exact frame.codec.trans (abortBufferInProgress_codec s)

theorem startBuffer_codec {s : Substream} {buf : Payload} {header : AudioHeader}
    {trtpHeaderLen : UInt32} {allocation : Allocation} {p : Progress}
    (started : s.startBuffer buf header trtpHeaderLen allocation = .ok p) : p.state.codec = s.codec := by
  cases allocation with
  | nullBuffer | nullData | nullMeta => cases started; rfl
  | allocated =>
      simp only [startBuffer] at started
      split at started <;> rw [(startPayload_cases rfl started).2] <;> rfl

theorem fillFromPayloadStart_codec {s : Substream} {buf : Payload} {tsLower : BitVec 32}
    {allocation : Allocation} {p : Progress}
    (filled : s.fillFromPayloadStart buf tsLower allocation = .ok p) : p.state.codec = s.codec := by
  simp only [fillFromPayloadStart, bind, Except.bind, pure, Except.pure] at filled
  split at filled
  · cases filled
  · rename_i c checked
    have kept := checkPayloadStart_codec checked
    cases c with
    | dropped t => cases filled; exact kept
    | accepted t header trtpHeaderLen => exact (startBuffer_codec filled).trans kept

theorem fillFromPayloadCont_codec {s : Substream} {buf : Payload} {p : Progress}
    (filled : s.fillFromPayloadCont buf = .ok p) : p.state.codec = s.codec := by
  rcases fillFromPayloadCont_cases filled with cleaned | ⟨-, framed⟩ <;> rw [‹p.state = _›] <;> rfl

/-! ### Completing a unit -/

theorem setupMP3SubstreamMeta_current {platform : Platform} {s t : Substream} {unit : MediaBuffer}
    {metaAllocated ready : Bool} (current : s.DecoderCurrent)
    (derived : s.setupMP3SubstreamMeta platform unit metaAllocated = (t, ready)) :
    t.DecoderCurrent := by
  unfold setupMP3SubstreamMeta cleanupDecoder at derived
  repeat' split at derived
  all_goals cases derived
  all_goals first
    | exact current
    | exact .of_none rfl
    | exact .of_none (current.decoder_none ‹_›)

theorem setupAACSubstreamMeta_current {s t : Substream} {metaAllocated ready : Bool}
    (current : s.DecoderCurrent) (derived : s.setupAACSubstreamMeta metaAllocated = .ok (t, ready)) :
    t.DecoderCurrent := by
  unfold setupAACSubstreamMeta newAACSubstreamMeta cleanupDecoder at derived
  repeat' (first | split at derived | dsimp only at derived)
  all_goals cases derived
  all_goals first
    | exact current
    | exact .of_none rfl
    | exact .of_none (current.decoder_none ‹_›)

theorem setupSubstreamMeta_current {platform : Platform} {s t : Substream} {unit : MediaBuffer}
    {metaAllocated ready : Bool} (current : s.DecoderCurrent)
    (derived : s.setupSubstreamMeta platform unit metaAllocated = .ok (t, ready)) :
    t.DecoderCurrent := by
  unfold setupSubstreamMeta at derived
  split_ifs at derived
  · refine setupMP3SubstreamMeta_current ?_ (Except.ok.inj derived)
    exact current
  · refine setupAACSubstreamMeta_current ?_ derived
    exact current
  · cases derived
    exact current

theorem setupMP3SubstreamMeta_describes {platform : Platform} {s t : Substream}
    {unit : MediaBuffer} {metaAllocated : Bool}
    (derived : s.setupMP3SubstreamMeta platform unit metaAllocated = (t, true)) :
    ¬unit.data.length < 4 ∧ ∃ sampleRate channelCount meta,
      platform.getMPEGAudioFrameSize (u32AtList unit.data 0) = some (sampleRate, channelCount) ∧
      t.substreamMeta = some meta ∧ (UnitFormat.mp3 sampleRate channelCount).Describes meta := by
  unfold setupMP3SubstreamMeta at derived
  repeat' split at derived
  all_goals cases derived
  all_goals first
    | exact ⟨‹_›, _, _, _, ‹_›, rfl, rfl, rfl⟩
    | exact ⟨‹_›, _, _, _, ‹_›, ‹_›, not_not.mp (not_or.mp ‹_›).2, not_not.mp (not_or.mp ‹_›).1⟩

theorem setupAACSubstreamMeta_describes {s t : Substream} {metaAllocated : Bool}
    (derived : s.setupAACSubstreamMeta metaAllocated = .ok (t, true)) :
    ¬s.auxDataInProgress.length < 8 ∧ ∃ meta, t.substreamMeta = some meta ∧
      (UnitFormat.aac (u32AtList s.auxDataInProgress 0) (u32AtList s.auxDataInProgress 4)
        (if s.auxDataInProgress.length > 8 then some (s.auxDataInProgress.drop 8)
          else none)).Describes meta := by
  unfold setupAACSubstreamMeta newAACSubstreamMeta at derived
  repeat' (first | split at derived | dsimp only at derived)
  all_goals cases derived
  all_goals simp_all [UnitFormat.Describes]
  all_goals rw [if_neg (by omega)]

theorem setupSubstreamMeta_describes {platform : Platform} {s t : Substream} {unit : MediaBuffer}
    {metaAllocated : Bool}
    (derived : s.setupSubstreamMeta platform unit metaAllocated = .ok (t, true)) :
    ∃ f meta, s.unitFormat platform unit = some f ∧ t.substreamMeta = some meta ∧
      f.Describes meta := by
  unfold setupSubstreamMeta at derived
  split_ifs at derived with mp3 aac
  · obtain ⟨long, _, _, meta, frame, described, describes⟩ :=
      setupMP3SubstreamMeta_describes (Except.ok.inj derived)
    exact ⟨_, meta, by rw [unitFormat, if_pos mp3, if_neg long, frame]; rfl, described, describes⟩
  · obtain ⟨long, meta, described, describes⟩ := setupAACSubstreamMeta_describes derived
    exact ⟨_, meta, by rw [unitFormat, if_neg mp3, if_pos aac]; exact if_neg long, described,
      describes⟩
  · cases derived

theorem setupSubstreamMeta_of_describes {platform : Platform} {s : Substream}
    {unit : MediaBuffer} {meta : MetaData} {f : UnitFormat} (metaAllocated : Bool)
    (previous : s.substreamMeta = some meta) (format : s.unitFormat platform unit = some f)
    (same : f.Describes meta) :
    ∃ mime, s.setupSubstreamMeta platform unit metaAllocated =
      .ok ({ s with codecMimeType := mime }, true) := by
  unfold unitFormat at format
  split_ifs at format with mp3 short aac
  · obtain ⟨⟨sampleRate, channelCount⟩, frame, rfl⟩ := Option.map_eq_some'.mp format
    obtain ⟨rate, channels⟩ := same
    exact ⟨mediaMimetypeAudioMpeg, by simp [setupSubstreamMeta, setupMP3SubstreamMeta, mp3,
      short, frame, previous, rate, channels]⟩
  · have distinct : TRTPAudioPacket.kCodecAACAudio ≠ TRTPAudioPacket.kCodecMPEG1Audio := by decide
    dsimp only at format
    split_ifs at format with short long <;> obtain rfl := Option.some.inj format <;>
      obtain ⟨rate, channels, esds⟩ := same <;>
      exact ⟨mediaMimetypeAudioAac, by simp [setupSubstreamMeta, setupAACSubstreamMeta, aac,
        distinct, short, long, previous, rate, channels, esds]⟩

/-- Metadata derivation shuts the pump down only for a unit whose format differs
from the previous metadata: for a unit whose format the previous metadata
describes, the pump is kept as it is. -/
theorem setupSubstreamMeta_keeps_decoder {platform : Platform} {s t : Substream}
    {unit : MediaBuffer} {metaAllocated ready : Bool} {meta : MetaData} {f : UnitFormat}
    (previous : s.substreamMeta = some meta) (format : s.unitFormat platform unit = some f)
    (same : f.Describes meta)
    (derived : s.setupSubstreamMeta platform unit metaAllocated = .ok (t, ready)) :
    t.decoder = s.decoder := by
  obtain ⟨mime, unchanged⟩ := setupSubstreamMeta_of_describes metaAllocated previous format same
  rw [unchanged] at derived
  cases derived
  rfl

theorem completionStage_current {platform : Platform} {s : Substream} {env : CompletionEnv}
    {stage : CompletionStage} (current : s.DecoderCurrent)
    (staged : s.completionStage platform env = .ok stage) :
    stage.state.DecoderCurrent ∧ ∀ t, stage = .enqueue t → ∀ codec,
      t.decoder.decoder = some codec → ∃ unit f, t.bufferInProgress = some unit ∧
        s.unitFormat platform unit = some f ∧ f.Describes codec.format := by
  simp only [completionStage, bind, Except.bind, pure, Except.pure] at staged
  split at staged
  · rename_i unit inProgress
    split at staged
    · cases staged
    rename_i derivedResult derived
    obtain ⟨t, ready⟩ := derivedResult
    have derivedCurrent := setupSubstreamMeta_current current derived
    dsimp only at staged
    split at staged
    · cases staged
      exact ⟨derivedCurrent, by intros; contradiction⟩
    obtain rfl : ready = true := by simpa using ‹¬(!ready) = true›
    obtain ⟨f, meta, format, derivedMeta, describes⟩ := setupSubstreamMeta_describes derived
    split at staged
    · cases staged
    rename_i initResult inited
    obtain ⟨decoder, res⟩ := initResult
    have initCurrent : ({ t with decoder } : Substream).DecoderCurrent := by
      rcases DecoderPump.init_decoder inited with same | none | ⟨params, fromMeta, created⟩
      · exact derivedCurrent.of_codec (by simp [codec, same])
      · exact .of_none none
      · intro codec held
        rw [created] at held
        cases held
        exact fromMeta
    dsimp only at staged
    split at staged
    · cases staged
      exact ⟨.of_none rfl, by intros; contradiction⟩
    split at staged
    · cases staged
    rename_i worked
    cases staged
    obtain ⟨same, -⟩ := DecoderPump.runWorker_intake worked
    refine ⟨initCurrent.of_codec (by simp [CompletionStage.state, codec, same]), ?_⟩
    intro _ enqueued codec held
    cases enqueued
    have created := initCurrent codec (by rw [← same]; exact held)
    rw [show ({ t with decoder } : Substream).substreamMeta = t.substreamMeta from rfl,
      derivedMeta] at created
    cases created
    refine ⟨unit, f, ?_, format, describes⟩
    rw [(setupSubstreamMeta_frame derived).1]
    exact inProgress
  · cases staged

theorem enqueueCompletedBuffer_current {s : Substream} (current : s.DecoderCurrent) :
    s.enqueueCompletedBuffer.DecoderCurrent := by
  unfold enqueueCompletedBuffer
  rcases DecoderPump.queueForDecode_cases s.decoder s.bufferInProgress with
    ⟨failed, -⟩ | ⟨unit, -, queued⟩
  · generalize s.decoder.queueForDecode s.bufferInProgress = result at failed
    obtain ⟨decoder, res⟩ := result
    dsimp only at failed ⊢
    rw [if_pos failed]
    exact .of_none rfl
  · rw [queued]
    dsimp only
    rw [if_neg (not_not.mpr rfl)]
    exact current.of_codec rfl

theorem processCompletedBuffer_current {platform : Platform} {s s' : Substream}
    {env : CompletionEnv} (current : s.DecoderCurrent)
    (completed : s.processCompletedBuffer platform env = .ok s') : s'.DecoderCurrent := by
  simp only [processCompletedBuffer, bind, Except.bind, pure, Except.pure] at completed
  split at completed
  · cases completed
  · rename_i stage staged
    have staged := (completionStage_current current staged).1
    cases stage with
    | bailout t => cases completed; exact staged.of_codec rfl
    | enqueue t => cases completed; exact enqueueCompletedBuffer_current staged

theorem Progress.finish_current {platform : Platform} {env : CompletionEnv} {p : Progress}
    {s' : Substream} (current : p.state.DecoderCurrent) (finished : p.finish platform env = .ok s') :
    s'.DecoderCurrent := by
  cases p with
  | done t => cases finished; exact current
  | complete t => exact processCompletedBuffer_current current finished

/-! ### Runs -/

theorem step_current {platform : Platform} {s s' : Substream} {op : SubstreamOp}
    (current : s.DecoderCurrent) (stepped : s.step platform op = .ok s') : s'.DecoderCurrent := by
  cases op with
  | processPayloadStart buf tsLower env =>
      simp only [step, processPayloadStart, bind, Except.bind] at stepped
      split at stepped
      · cases stepped
      · exact Progress.finish_current (current.of_codec (fillFromPayloadStart_codec ‹_›)) stepped
  | processPayloadCont buf env =>
      simp only [step, processPayloadCont, bind, Except.bind] at stepped
      split at stepped
      · cases stepped
      · exact Progress.finish_current (current.of_codec (fillFromPayloadCont_codec ‹_›)) stepped
  | cleanupBufferInProgress => cases stepped; exact current.of_codec rfl
  | processTSTransform transform =>
      cases stepped
      exact current.of_codec (by simp [codec, processTSTransform])
  | shutdown => cases stepped; exact .of_none rfl
  | worker action =>
      simp only [step, bind, Except.bind, pure, Except.pure] at stepped
      split at stepped
      · cases stepped
      · cases stepped
        exact current.of_codec (by simp [codec, (DecoderPump.workerStep_intake ‹_›).1])

theorem reachable_decoderCurrent {platform : Platform} {s : Substream}
    (reachable : Reachable platform s) : s.DecoderCurrent := by
  induction reachable with
  | new => exact .of_none rfl
  | step _ stepped inductionHypothesis => exact step_current inductionHypothesis stepped

def Completes (s : Substream) : SubstreamOp → Substream → Prop
  | .processPayloadStart buf tsLower env, u =>
      s.fillFromPayloadStart buf tsLower env.allocation = .ok (.complete u)
  | .processPayloadCont buf _, u => s.fillFromPayloadCont buf = .ok (.complete u)
  | _, _ => False

theorem Completes.current {s u : Substream} {op : SubstreamOp} (current : s.DecoderCurrent)
    (completes : s.Completes op u) : u.DecoderCurrent := by
  cases op with
  | processPayloadStart buf tsLower env =>
      exact current.of_codec (fillFromPayloadStart_codec (p := .complete u) completes)
  | processPayloadCont buf env =>
      exact current.of_codec (fillFromPayloadCont_codec (p := .complete u) completes)
  | _ => contradiction

/-- The format law in every state a run reaches: the pump's decoder, if any,
was created from the current metadata; at every call of `queueForDecode` that
`processCompletedBuffer` makes in the next operation, a decoder the pump holds
was created for the format of the unit handed over; and metadata derivation
shuts the pump down only for a unit whose format differs from the previous
metadata. -/
structure FormatCurrent (platform : Platform) (s : Substream) : Prop where
  decoderCurrent : s.DecoderCurrent
  enqueue : ∀ {op : SubstreamOp} {u t : Substream} {env : CompletionEnv} {codec : OMXCodec},
    s.Completes op u → u.completionStage platform env = .ok (.enqueue t) →
      t.decoder.decoder = some codec → ∃ unit f, t.bufferInProgress = some unit ∧
        u.unitFormat platform unit = some f ∧ f.Describes codec.format
  sameFormat : ∀ {u t : Substream} {unit : MediaBuffer} {metaAllocated ready : Bool}
    {meta : MetaData} {f : UnitFormat}, u.substreamMeta = some meta →
      u.unitFormat platform unit = some f → f.Describes meta →
      u.setupSubstreamMeta platform unit metaAllocated = .ok (t, ready) → t.decoder = u.decoder

theorem reachable_formatCurrent {platform : Platform} {s : Substream}
    (reachable : Reachable platform s) : FormatCurrent platform s where
  decoderCurrent := reachable_decoderCurrent reachable
  enqueue completes staged held :=
    (completionStage_current (Completes.current (reachable_decoderCurrent reachable) completes)
      staged).2 _ rfl _ held
  sameFormat previous format same derived :=
    setupSubstreamMeta_keeps_decoder previous format same derived

theorem reachable_formatCurrent_busy :
    ∃ s, Substream.new.run mpeg1Platform busyRun = .ok s ∧ s.bufferInProgress.isSome ∧
      s.decoder.decoder.isSome ∧ s.decoder.inQueue.length = 2 ∧ FormatCurrent mpeg1Platform s :=
  ⟨_, rfl, rfl, rfl, rfl,
    reachable_formatCurrent (@reachable_of_run mpeg1Platform Substream.new _ busyRun .new rfl)⟩

end Substream

end AahRtp

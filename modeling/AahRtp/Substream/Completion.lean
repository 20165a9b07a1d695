import AahRtp.Substream.Basic

/-!
# Completing an access unit

`processCompletedBuffer` (lines 402-465) and the metadata it derives first
(`setupSubstreamMeta`, `setupMP3SubstreamMeta`, `setupAACSubstreamMeta`).
`processCompletedBuffer` is cut where it calls `queueForDecode`:
`completionStage` runs lines 405-424 and returns the state it bails out with,
or the state at that call. The work thread can take any steps between `init`
and `queueForDecode`; they are run there, since that call reads
`thread_status_`, which the work thread writes.

`Progress` is where a payload start or continuation ends before the call of
`processCompletedBuffer`, and `Progress.finish` makes that call.
-/

namespace AahRtp

structure CompletionEnv where
  /-- `new MetaData()` returned an object. -/
  metaAllocated : Bool := true
  /-- `OMXCodec::Create` returned a decoder. -/
  codecCreated : Bool := true
  /-- The outcome of `thread_->run` creating the work thread. -/
  threadCreated : StatusT := StatusT.ok
  /-- Steps of the work thread between `init` and `queueForDecode`. -/
  interleaved : List WorkerAction := []
  deriving DecidableEq, Repr

/-- Where lines 405-424 of `processCompletedBuffer` leave the substream. -/
inductive CompletionStage where
  /-- `goto bailout`. -/
  | bailout (s : Substream)
  /-- About to call `queueForDecode(buffer_in_progress_)`. -/
  | enqueue (s : Substream)

def CompletionStage.state : CompletionStage → Substream
  | .bailout s => s
  | .enqueue s => s

inductive Progress where
  /-- The call returns with this state. -/
  | done (s : Substream)
  /-- `buffer_filled_ >= expected_buffer_size_`: `processCompletedBuffer` runs
  on this state. -/
  | complete (s : Substream)

namespace Substream

/-- `setupMP3SubstreamMeta` (lines 486-545); `unit` is `buffer_in_progress_`. -/
def setupMP3SubstreamMeta (platform : Platform) (s : Substream) (unit : MediaBuffer)
    (metaAllocated : Bool) : Substream × Bool :=
  if unit.data.length < 4 then (s, false)
  else
    match platform.getMPEGAudioFrameSize (u32AtList unit.data 0) with
    | none => (s, false)
    | some (sampleRate, channelCount) =>
        match s.substreamMeta with
        | none =>
            if metaAllocated then
              ({ s with
                substreamMeta := some
                  { mimeType := some mediaMimetypeAudioMpeg
                    channelCount := some channelCount
                    sampleRate := some sampleRate } }, true)
            else (s, false)
        | some meta =>
            if meta.channelCount ≠ some channelCount ∨ meta.sampleRate ≠ some sampleRate then
              ({ s.cleanupDecoder with
                substreamMeta := some
                  { meta with channelCount := some channelCount, sampleRate := some sampleRate } },
                true)
            else (s, true)

/-- Lines 611-626 of `setupAACSubstreamMeta`: a new `MetaData` for the stream. -/
def newAACSubstreamMeta (s : Substream) (sampleRate channelCnt : UInt32)
    (esds : Option (List UInt8)) (metaAllocated : Bool) : Substream × Bool :=
  if metaAllocated then
    ({ s with
      substreamMeta := some
        { mimeType := some mediaMimetypeAudioAac
          sampleRate := some sampleRate
          channelCount := some channelCnt
          esds } }, true)
  else ({ s with substreamMeta := none }, false)

/-- `setupAACSubstreamMeta` (lines 547-627). -/
def setupAACSubstreamMeta (s : Substream) (metaAllocated : Bool) :
    Except Fault (Substream × Bool) :=
  let aux := s.auxDataInProgress
  if aux.length < 8 then .ok (s, false)
  else
    let sampleRate := u32AtList aux 0
    let channelCnt := u32AtList aux 4
    let esds := if aux.length > 8 then some (aux.drop 8) else none
    match s.substreamMeta with
    | none => .ok (s.newAACSubstreamMeta sampleRate channelCnt esds metaAllocated)
    | some meta =>
        match meta.sampleRate, meta.channelCount with
        | none, _ => .error (.substreamCheck 582)
        | some _, none => .error (.substreamCheck 584)
        | some prevSampleRate, some prevChannelCount =>
            let hasData := esds.isSome
            let hadData := meta.esds.isSome
            let esdsChange := hadData ≠ hasData ∨ (hasData ∧ meta.esds ≠ esds)
            if ¬esdsChange ∧ prevSampleRate = sampleRate ∧ prevChannelCount = channelCnt then
              .ok (s, true)
            else
              .ok ({ s.cleanupDecoder with substreamMeta := none }.newAACSubstreamMeta
                sampleRate channelCnt esds metaAllocated)

/-- `setupSubstreamMeta` (lines 467-484). -/
def setupSubstreamMeta (platform : Platform) (s : Substream) (unit : MediaBuffer)
    (metaAllocated : Bool) : Except Fault (Substream × Bool) :=
  if s.codecType = TRTPAudioPacket.kCodecMPEG1Audio then
    .ok ({ s with codecMimeType := mediaMimetypeAudioMpeg }.setupMP3SubstreamMeta platform unit
      metaAllocated)
  else if s.codecType = TRTPAudioPacket.kCodecAACAudio then
    { s with codecMimeType := mediaMimetypeAudioAac }.setupAACSubstreamMeta metaAllocated
  else .ok (s, false)

/-- Lines 405-424 of `processCompletedBuffer`, then the work thread's steps up to
the call of `queueForDecode`. -/
def completionStage (platform : Platform) (s : Substream) (env : CompletionEnv) :
    Except Fault CompletionStage := do
  let some unit := s.bufferInProgress | throw (.substreamCheck 405)
  let (s, ready) ← s.setupSubstreamMeta platform unit env.metaAllocated
  if !ready then return .bailout s
  let (decoder, res) ← s.decoder.init s.substreamMeta env.codecCreated env.threadCreated
  let s := { s with decoder }
  if res ≠ StatusT.ok then return .bailout { s.cleanupDecoder with substreamMeta := none }
  let decoder ← s.decoder.runWorker env.interleaved
  return .enqueue { s with decoder }

/-- Lines 427-464 of `processCompletedBuffer`, from the call of `queueForDecode`. -/
def enqueueCompletedBuffer (s : Substream) : Substream :=
  let (decoder, res) := s.decoder.queueForDecode s.bufferInProgress
  let s := { s with decoder }
  let s :=
    if res ≠ StatusT.ok then { s with status := res }.cleanupDecoder.cleanupBufferInProgress
    else s
  { s with bufferInProgress := none }.cleanupBufferInProgress

/-- `processCompletedBuffer` (lines 402-465). -/
def processCompletedBuffer (platform : Platform) (s : Substream) (env : CompletionEnv) :
    Except Fault Substream := do
  match ← s.completionStage platform env with
  | .bailout s => return s.cleanupBufferInProgress
  | .enqueue s => return s.enqueueCompletedBuffer

/-- Every way out of `processCompletedBuffer` runs `cleanupBufferInProgress` last. -/
theorem processCompletedBuffer_eq_cleanup {platform : Platform} {s s' : Substream}
    {env : CompletionEnv} (completed : s.processCompletedBuffer platform env = .ok s') :
    ∃ t : Substream, s' = t.cleanupBufferInProgress := by
  simp only [processCompletedBuffer, bind, Except.bind, pure, Except.pure] at completed
  split at completed
  · cases completed
  · split at completed <;> cases completed
    · exact ⟨_, rfl⟩
    · exact ⟨_, rfl⟩

theorem setupAACSubstreamMeta_error {s : Substream} {metaAllocated : Bool} {f : Fault}
    (failed : s.setupAACSubstreamMeta metaAllocated = .error f) :
    f = .substreamCheck 582 ∨ f = .substreamCheck 584 := by
  simp only [setupAACSubstreamMeta] at failed
  split_ifs at failed
  all_goals
    split at failed
    · cases failed
    · split at failed
      · cases failed
        exact .inl rfl
      · cases failed
        exact .inr rfl
      · split_ifs at failed

theorem setupSubstreamMeta_error {platform : Platform} {s : Substream} {unit : MediaBuffer}
    {metaAllocated : Bool} {f : Fault}
    (failed : s.setupSubstreamMeta platform unit metaAllocated = .error f) :
    f = .substreamCheck 582 ∨ f = .substreamCheck 584 := by
  unfold setupSubstreamMeta at failed
  split_ifs at failed
  exact setupAACSubstreamMeta_error failed

theorem setupMP3SubstreamMeta_frame {platform : Platform} {s t : Substream} {unit : MediaBuffer}
    {metaAllocated ready : Bool}
    (derived : s.setupMP3SubstreamMeta platform unit metaAllocated = (t, ready)) :
    t = { s with substreamMeta := t.substreamMeta, decoder := t.decoder } ∧
      (t.decoder = s.decoder ∨ t.decoder = s.decoder.shutdownL) := by
  unfold setupMP3SubstreamMeta cleanupDecoder at derived
  repeat' split at derived
  all_goals cases derived
  all_goals exact ⟨rfl, by first | exact .inl rfl | exact .inr rfl⟩

theorem setupAACSubstreamMeta_frame {s t : Substream} {metaAllocated ready : Bool}
    (derived : s.setupAACSubstreamMeta metaAllocated = .ok (t, ready)) :
    t = { s with substreamMeta := t.substreamMeta, decoder := t.decoder } ∧
      (t.decoder = s.decoder ∨ t.decoder = s.decoder.shutdownL) := by
  unfold setupAACSubstreamMeta newAACSubstreamMeta cleanupDecoder at derived
  repeat' (first | split at derived | dsimp only at derived)
  all_goals cases derived
  all_goals exact ⟨rfl, by first | exact .inl rfl | exact .inr rfl⟩

theorem setupSubstreamMeta_frame {platform : Platform} {s t : Substream} {unit : MediaBuffer}
    {metaAllocated ready : Bool}
    (derived : s.setupSubstreamMeta platform unit metaAllocated = .ok (t, ready)) :
    t = { s with
      codecMimeType := t.codecMimeType
      substreamMeta := t.substreamMeta
      decoder := t.decoder } ∧
      (t.decoder = s.decoder ∨ t.decoder = s.decoder.shutdownL) := by
  unfold setupSubstreamMeta at derived
  split_ifs at derived
  · obtain ⟨framed, decoder⟩ := setupMP3SubstreamMeta_frame (Except.ok.inj derived)
    exact ⟨by rw [framed], decoder⟩
  · obtain ⟨framed, decoder⟩ := setupAACSubstreamMeta_frame derived
    exact ⟨by rw [framed], decoder⟩
  · cases derived
    exact ⟨rfl, .inl rfl⟩

theorem completionStage_error {platform : Platform} {s : Substream} {env : CompletionEnv}
    {f : Fault} (failed : s.completionStage platform env = .error f) :
    (s.bufferInProgress = none ∧ f = .substreamCheck 405) ∨ f = .substreamCheck 582 ∨
      f = .substreamCheck 584 ∨ f.IsPump := by
  simp only [completionStage, bind, Except.bind, pure, Except.pure] at failed
  split at failed
  · split at failed
    · cases failed
      rcases setupSubstreamMeta_error ‹_› with missingRate | missingCount
      · exact .inr (.inl missingRate)
      · exact .inr (.inr (.inl missingCount))
    · split at failed
      · cases failed
      · split at failed
        · cases failed
          exact .inr (.inr (.inr (DecoderPump.init_error ‹_›)))
        · split at failed
          · cases failed
          · split at failed
            · cases failed
              exact .inr (.inr (.inr (DecoderPump.runWorker_error ‹_›)))
            · cases failed
  · rename_i noUnit
    cases failed
    exact .inl ⟨Option.eq_none_iff_forall_not_mem.mpr noUnit, rfl⟩

theorem processCompletedBuffer_error {platform : Platform} {s : Substream}
    {env : CompletionEnv} {f : Fault} (failed : s.processCompletedBuffer platform env = .error f) :
    (s.bufferInProgress = none ∧ f = .substreamCheck 405) ∨ f = .substreamCheck 582 ∨
      f = .substreamCheck 584 ∨ f.IsPump := by
  simp only [processCompletedBuffer, bind, Except.bind, pure, Except.pure] at failed
  split at failed
  · cases failed
    exact completionStage_error ‹_›
  · split at failed <;> cases failed

end Substream

def Progress.state : Progress → Substream
  | .done s => s
  | .complete s => s

def Progress.finish (platform : Platform) (env : CompletionEnv) :
    Progress → Except Fault Substream
  | .done s => .ok s
  | .complete s => s.processCompletedBuffer platform env

end AahRtp

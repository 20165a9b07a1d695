import AahRtp.Substream.RapGate

/-!
# Payload starts the header checks reject

Where the checks of lines 122-283 drop a payload start, and what they leave.
The parse before line 238 (version, header type, the lengths its flags imply)
and `setupSubstreamType` drop it with the state as `abortBufferInProgress`
left it. The aux-length checks of lines 251-283 come after
`setupSubstreamType` and `setRenderVolume`, so a start they drop has already
established the substream and codec types and set the pump's volume
(`checkPayloadStart_headerRejections`).

The check at line 278 adds the aux length and the header length in
`uint32_t`: a declared aux length near `2 ^ 32` wraps the sum below the
declared total length, and the start is accepted with a unit whose size wrapped
too (`processPayloadStart_auxLengthWraps`).
-/

namespace AahRtp

namespace Substream

theorem setupSubstreamType_codecType {s s' : Substream} {substreamType codecType : UInt8}
    (setUp : s.setupSubstreamType substreamType codecType = some s') :
    s'.codecType = codecType := by
  unfold setupSubstreamType at setUp
  split_ifs at setUp with known mismatch
  · cases setUp
    exact (not_not.mp mismatch).symm
  · cases setUp
    rfl

theorem admitHeader_of_setupSubstreamType {s s' : Substream} {header : AudioHeader}
    (setUp : s.setupSubstreamType header.headerType header.codecType = some s') :
    s.admitHeader header =
      ({ s' with decoder := s'.decoder.setRenderVolume header.volume },
        !(s'.waitingForRap ∧
          header.flags &&& TRTPAudioPacket.kFlagRandomAccessPoint = 0)) := by
  simp only [admitHeader, setUp]

/-- Where the header checks drop a payload start, and the state they drop it
with. The parse before line 238 and `setupSubstreamType` leave the state after
aborting the unit in progress. The aux-length checks leave that state with the
substream and codec types established, the codec the header's, the header's
volume applied to the pump, and the aux-data fields as those checks wrote
them; `substream_meta_`, `status_` and the rest of the pump are kept. -/
structure HeaderRejections (s : Substream) (buf : Payload) (tsLower : BitVec 32) : Prop where
  parse : s.abortBufferInProgress.parseAudioHeader buf tsLower = .ok none →
    s.checkPayloadStart buf tsLower = .ok (.dropped s.abortBufferInProgress)
  kind : ∀ header, s.abortBufferInProgress.parseAudioHeader buf tsLower = .ok (some header) →
    s.abortBufferInProgress.setupSubstreamType header.headerType header.codecType = none →
    s.checkPayloadStart buf tsLower = .ok (.dropped s.abortBufferInProgress)
  aux : ∀ header t, s.abortBufferInProgress.parseAudioHeader buf tsLower = .ok (some header) →
    (s.abortBufferInProgress.admitHeader header).2 = true →
    (s.abortBufferInProgress.admitHeader header).1.readAuxLength buf header = .ok (t, none) →
    s.checkPayloadStart buf tsLower = .ok (.dropped t) ∧
      t = { s.abortBufferInProgress with
        substreamDetailsKnown := true
        substreamType := t.substreamType
        codecType := header.codecType
        decoder := s.abortBufferInProgress.decoder.setRenderVolume header.volume
        auxDataExpectedSize := t.auxDataExpectedSize
        auxDataInProgress := t.auxDataInProgress }

theorem checkPayloadStart_headerRejections (s : Substream) (buf : Payload) (tsLower : BitVec 32)
    (running : ¬s.shouldAbort) : HeaderRejections s buf tsLower where
  parse parsed := by
    simp [checkPayloadStart, running, parsed, bind, Except.bind, pure, Except.pure]
  kind header parsed unsupported := by
    have refused : s.abortBufferInProgress.admitHeader header = (s.abortBufferInProgress, false) := by
      simp only [admitHeader, unsupported]
    simp [checkPayloadStart, running, parsed, refused, bind, Except.bind, pure, Except.pure]
  aux header t parsed passed rejected := by
    refine ⟨by simp [checkPayloadStart, running, parsed, passed, rejected, bind, Except.bind,
      pure, Except.pure], ?_⟩
    obtain ⟨_, parsed', sized⟩ := s.abortBufferInProgress.parseAudioHeader_ok buf tsLower
    rw [parsed] at parsed'
    cases parsed'
    obtain ⟨t', result, read, framed, -, -⟩ := readAuxLength_ok _ buf (sized header rfl)
    rw [rejected] at read
    cases read
    cases setUp : s.abortBufferInProgress.setupSubstreamType header.headerType header.codecType with
    | none => simp [admitHeader, setUp] at passed
    | some u =>
        rw [admitHeader_of_setupSubstreamType setUp] at framed
        rw [framed, setupSubstreamType_eq_some setUp, setupSubstreamType_codecType setUp]

/-- An MP3 random-access start with the aux-length flag, volume `0x40`, and a
declared TRTP length of 12, too short for the aux-length field. -/
def auxShortStart : Payload :=
  ⟨[0x01, 0x10, 0, 0, 0, 12, 3, 0x18, 0x40], by decide⟩

theorem checkPayloadStart_headerRejections_auxShort : HeaderRejections Substream.new auxShortStart 0 :=
  checkPayloadStart_headerRejections _ _ _ (by decide)

/-- The aux-length check drops `auxShortStart`, no unit is allocated, but the
new substream's codec is now established as MP3 and its pump's volume moved
from `0xFF` to `0x40`. -/
theorem processPayloadStart_auxShort :
    ∃ s, Substream.new.processPayloadStart default auxShortStart 0 {} = .ok s ∧
      s.bufferInProgress = none ∧ s.nextBufferId = 0 ∧
      Substream.new.substreamDetailsKnown = false ∧ s.substreamDetailsKnown = true ∧
      s.codecType = TRTPAudioPacket.kCodecMPEG1Audio ∧
      Substream.new.decoder.lastVolume = 0xFF ∧ s.decoder.lastVolume = 0x40 :=
  ⟨_, rfl, rfl, rfl, rfl, rfl, rfl, rfl, rfl⟩

/-- An MP3 random-access start declaring a TRTP length of 14 and an aux length
of `0xFFFFFFFF`, with nothing after its 13-byte header. -/
def auxLengthWrapStart : Payload :=
  ⟨[0x01, 0x10, 0, 0, 0, 14, 3, 0x18, 0xFF, 0xFF, 0xFF, 0xFF, 0xFF], by decide⟩

/-- Aux data and header need `0xFFFFFFFF + 13` bytes of a declared 14, yet the
sum at line 278 wraps to 12, and the start is accepted with a unit of
`14 - 13 - 0xFFFFFFFF`, that is 2, bytes. -/
theorem processPayloadStart_auxLengthWraps :
    ∃ s unit, Substream.new.processPayloadStart default auxLengthWrapStart 0 {} = .ok s ∧
      s.auxDataExpectedSize = 0xFFFFFFFF ∧ s.bufferInProgress = some unit ∧
      unit.data.length = 2 :=
  ⟨_, _, rfl, rfl, rfl, rfl⟩

end Substream

end AahRtp

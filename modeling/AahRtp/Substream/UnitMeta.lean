import AahRtp.Substream.Fill

/-!
# The metadata of an access unit

`processPayloadStart` tags the unit it allocates (lines 323-327) with
`codec_mime_type_` and, when the header has `TS_VALID`, with the timestamp it
rebuilt at line 196 from the header's upper half and the caller's `ts_lower`.
`codec_mime_type_` is `""` from the constructor (line 46) until the first
completion runs `setupSubstreamMeta` (lines 470 and 474), after the first
unit was tagged (`new_firstUnit_untyped`). `ts_lower` is an `int32_t`, so its
sign bit fills the upper half of the rebuilt timestamp (`timestamp_eq`).
-/

namespace AahRtp

/-- Line 196: `(static_cast<int64_t>(ts_upper) << 32) | ts_lower` with an
`int32_t` `ts_lower`. Its lower half is `ts_lower`; its upper half is `ts_upper`
when `ts_lower` is not negative, and all ones when it is. -/
theorem timestamp_eq (tsUpper : UInt32) (tsLower : BitVec 32) :
    (tsUpper.toBitVec.zeroExtend 64 <<< 32 ||| tsLower.signExtend 64) =
      if tsLower.msb then BitVec.allOnes 32 ++ tsLower else tsUpper.toBitVec ++ tsLower := by
  apply BitVec.eq_of_getLsbD_eq
  intro i
  have upper : i.val - 32 < 32 := by omega
  have upper' : i.val - 32 < 64 := by omega
  split_ifs with negative
  all_goals
    rw [BitVec.getLsbD_append]
    simp only [BitVec.getLsbD_allOnes, cond_eq_if]
    by_cases lower : i.val < 32 <;> simp [BitVec.getLsbD_signExtend, lower, negative, upper, upper']

namespace Substream

/-- A header with `TS_VALID` carries the timestamp of line 196, rebuilt from the
upper half at offset 6 and `ts_lower`. -/
theorem parseTiming_ts {buf : Payload} {tsLower : BitVec 32} {timing : TimingFields}
    (parsed : parseTiming buf tsLower = .ok (some timing)) (valid : timing.tsValid = true) :
    ∃ tsUpper, buf.readU32 6 = .ok tsUpper ∧
      timing.ts = if tsLower.msb then BitVec.allOnes 32 ++ tsLower else tsUpper.toBitVec ++ tsLower := by
  simp only [parseTiming, bind, Except.bind, pure, Except.pure, UInt32.reduceToNat] at parsed
  split at parsed
  · cases parsed
  · rename_i flag _
    by_cases tsFlag : flag &&& TRTPPacket.kFlagTSValid = 0
    · simp only [tsFlag, ne_eq, not_true_eq_false, if_false] at parsed
      repeat' split at parsed
      all_goals cases parsed
      all_goals cases valid
    · simp only [tsFlag, ne_eq, not_false_eq_true, if_true] at parsed
      repeat' split at parsed
      all_goals cases parsed
      all_goals exact ⟨_, ‹_›, timestamp_eq _ _⟩

theorem fillFromPayloadStart_unitMeta {s t : Substream} {buf : Payload} {tsLower : BitVec 32}
    {header : AudioHeader} {trtpHeaderLen : UInt32} {p : Progress}
    (checked : s.checkPayloadStart buf tsLower = .ok (.accepted t header trtpHeaderLen))
    (filled : s.fillFromPayloadStart buf tsLower .allocated = .ok p) :
    ∃ unit, p.state.bufferInProgress = some unit ∧
      unit.meta =
        { mimeType := some s.codecMimeType
          time := if header.tsValid then some header.ts else none } := by
  obtain ⟨c, checked', framed, sized⟩ := s.checkPayloadStart_frame buf tsLower
  rw [checked] at checked'
  cases checked'
  obtain ⟨headerFits, positive, fits⟩ := sized t header trtpHeaderLen rfl
  have mime : t.codecMimeType = s.codecMimeType := by
    rcases framed with ⟨-, dropped⟩ | ⟨-, frame⟩
    · cases dropped
    · refine frame.codecMimeType.trans ?_
      unfold abortBufferInProgress
      split <;> rfl
  simp only [fillFromPayloadStart, checked, bind, Except.bind,
    startBuffer_allocated_eq headerFits positive fits] at filled
  cases filled
  rw [← mime]
  split <;> exact ⟨_, rfl, rfl⟩

/-- The first unit a new substream allocates is tagged with the MIME type `""`,
whatever its codec: `codec_mime_type_` is set only when a unit completes. -/
theorem new_firstUnit_untyped {buf : Payload} {tsLower : BitVec 32} {t : Substream}
    {header : AudioHeader} {trtpHeaderLen : UInt32} {p : Progress}
    (checked : Substream.new.checkPayloadStart buf tsLower = .ok (.accepted t header trtpHeaderLen))
    (filled : Substream.new.fillFromPayloadStart buf tsLower .allocated = .ok p) :
    ∃ unit, p.state.bufferInProgress = some unit ∧ unit.meta.mimeType = some "" := by
  obtain ⟨unit, held, tagged⟩ := fillFromPayloadStart_unitMeta checked filled
  exact ⟨unit, held, by rw [tagged]; rfl⟩

/-- The unit of `mp3FrameStart` completes and is queued for decode tagged `""`,
while the substream's codec MIME type is MP3's. -/
theorem run_firstUnitUntyped :
    ∃ s unit, Substream.new.run mpeg1Platform [.processPayloadStart mp3FrameStart 0 {}] = .ok s ∧
      s.decoder.inQueue = [unit] ∧ s.codecMimeType = mediaMimetypeAudioMpeg ∧
      unit.meta.mimeType = some "" :=
  ⟨_, _, rfl, rfl, rfl, rfl⟩

/-- The MP3 start of `mp3FrameStart` with `TS_VALID`, for the PTS `2^31`: `trtp_len`
17 and the upper half 0 at offset 6. The caller passes `ts_lower` = `0x80000000`,
the lower half of the PTS as an `int32_t`. -/
def timedMp3Start : Payload :=
  ⟨[0x01, 0x11, 0, 0, 0, 17, 0, 0, 0, 0, 3, 0x08, 0xFF, 0xFF, 0xFB, 0x90, 0x64], by decide⟩

/-- The unit of `timedMp3Start` is queued for decode with `kKeyTime`
`0xFFFFFFFF80000000`, not the PTS `0x80000000`. -/
theorem run_lowerHalfSignExtends :
    ∃ s unit, Substream.new.run mpeg1Platform
        [.processPayloadStart timedMp3Start 0x80000000 {}] = .ok s ∧
      s.decoder.inQueue = [unit] ∧ unit.meta.time = some 0xFFFFFFFF80000000 ∧
      unit.meta.time ≠ some 0x80000000 :=
  ⟨_, _, rfl, rfl, rfl, by decide⟩

end Substream

end AahRtp

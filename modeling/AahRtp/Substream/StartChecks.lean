import AahRtp.Substream.System

/-!
# What the checks of a payload start guarantee

The reads of the header parse stay below `amt`: none of its stages ends in a
fault. A header that parses has its three running lengths equal, inside the
payload and inside the declared TRTP length. Lines 122-305 of
`processPayloadStart` write only the substream and codec types, the pump's
volume, the aux data and the two sizes (`StartFrame`), and a payload they
accept has its header inside it and a unit of non-zero size that the rest of it
fits in (`checkPayloadStart_frame`).
-/

namespace AahRtp

structure TimingFields.Sized (timing : TimingFields) (buf : Payload) (bound : Nat) : Prop where
  minLength_eq : timing.minLength = timing.trtpHeaderLen
  parseOffset_eq : timing.parseOffset = timing.trtpHeaderLen
  six_le : 6 ≤ timing.trtpHeaderLen.toNat
  le_amt : timing.trtpHeaderLen.toNat ≤ buf.bytes.length
  le_bound : timing.trtpHeaderLen.toNat ≤ bound

structure AudioHeader.Sized (header : AudioHeader) (buf : Payload) : Prop where
  timing : header.toTimingFields.Sized buf 37
  le_trtpLen : header.trtpHeaderLen.toNat ≤ header.trtpLen.toNat

namespace Substream

theorem parseHeaderType_ok (s : Substream) (buf : Payload) :
    ∃ result, s.parseHeaderType buf = .ok result ∧
      ∀ headerType, result = some headerType → 6 ≤ buf.bytes.length := by
  by_cases short : buf.bytes.length < 6
  · refine ⟨none, ?_, by simp⟩
    have : buf.amt < 6 := by simpa [uint32_lt_iff] using short
    simp [parseHeaderType, this, pure, Except.pure]
  · have : ¬buf.amt < 6 := by simpa [uint32_lt_iff] using short
    simp only [parseHeaderType, this, if_false,
      Payload.byte_eq_ok (show 0 < buf.bytes.length by omega),
      Payload.byte_eq_ok (show 1 < buf.bytes.length by omega), bind, Except.bind, pure,
      Except.pure]
    split_ifs <;> exact ⟨_, rfl, fun _ _ => by omega⟩

theorem parseTiming_ok (buf : Payload) (tsLower : BitVec 32) (long : 6 ≤ buf.bytes.length) :
    ∃ result, parseTiming buf tsLower = .ok result ∧
      ∀ timing, result = some timing → timing.Sized buf 34 := by
  simp only [parseTiming, Payload.byte_eq_ok (show 1 < buf.bytes.length by omega),
    Payload.readU32_eq_ok (show 2 + 4 ≤ buf.bytes.length by omega), bind, Except.bind, pure,
    Except.pure, uint32_lt_iff, Payload.amt_toNat, UInt32.reduceAdd, UInt32.reduceToNat]
  by_cases tsFlag : buf.bytes.get ⟨1, by omega⟩ &&& TRTPPacket.kFlagTSValid = 0
  · simp only [tsFlag, ne_eq, not_true_eq_false, if_false]
    split_ifs <;> exact ⟨_, rfl, fun timing found => by
      cases found <;> exact ⟨rfl, rfl, by simp only [UInt32.reduceToNat]; omega,
        by simp only [UInt32.reduceToNat]; omega, by simp only [UInt32.reduceToNat]; omega⟩⟩
  · simp only [tsFlag, ne_eq, not_false_eq_true, if_true]
    by_cases short : buf.bytes.length < 10
    · simp only [short, if_true]
      exact ⟨_, rfl, fun _ found => by cases found⟩
    · simp only [short, if_false, Payload.readU32_eq_ok (show 6 + 4 ≤ buf.bytes.length by omega)]
      split_ifs <;> exact ⟨_, rfl, fun timing found => by
        cases found <;> exact ⟨rfl, rfl, by simp only [UInt32.reduceToNat]; omega,
          by simp only [UInt32.reduceToNat]; omega, by simp only [UInt32.reduceToNat]; omega⟩⟩

theorem parseAudioFields_ok (buf : Payload) (headerType : UInt8) {timing : TimingFields}
    (sized : timing.Sized buf 34) :
    ∃ result, parseAudioFields buf headerType timing = .ok result ∧
      ∀ header, result = some header → header.Sized buf := by
  obtain ⟨minEq, offsetEq, six, leAmt, leBound⟩ := sized
  have grown (k : UInt32) (small : k.toNat ≤ 3) :
      (timing.trtpHeaderLen + k).toNat = timing.trtpHeaderLen.toNat + k.toNat :=
    uint32_toNat_add_of_lt (by omega)
  simp only [parseAudioFields, minEq, offsetEq, uint32_lt_iff, Payload.amt_toNat,
    grown 3 (by decide), bind, Except.bind, pure, Except.pure, UInt32.reduceToNat]
  by_cases short : buf.bytes.length < timing.trtpHeaderLen.toNat + 3
  · simp only [short, if_true]
    split_ifs <;> exact ⟨_, rfl, fun header found => by cases found⟩
  · simp only [short, if_false, grown 1 (by decide), grown 2 (by decide), UInt32.reduceToNat,
      Payload.byte_eq_ok (show timing.trtpHeaderLen.toNat < buf.bytes.length by omega),
      Payload.byte_eq_ok (show timing.trtpHeaderLen.toNat + 1 < buf.bytes.length by omega),
      Payload.byte_eq_ok (show timing.trtpHeaderLen.toNat + 2 < buf.bytes.length by omega)]
    split_ifs with tooLong
    · exact ⟨_, rfl, fun header found => by cases found⟩
    · refine ⟨_, rfl, fun header found => ?_⟩
      cases found
      have three := grown 3 (by decide)
      simp only [UInt32.reduceToNat] at three
      exact ⟨⟨rfl, rfl, by simp only [three]; omega, by simp only [three]; omega,
        by simp only [three]; omega⟩, by simp only [three]; omega⟩

theorem parseAudioHeader_ok (s : Substream) (buf : Payload) (tsLower : BitVec 32) :
    ∃ result, s.parseAudioHeader buf tsLower = .ok result ∧
      ∀ header, result = some header → header.Sized buf := by
  obtain ⟨typeResult, typeParsed, typeLong⟩ := s.parseHeaderType_ok buf
  simp only [parseAudioHeader, typeParsed, bind, Except.bind, pure, Except.pure]
  cases typeResult with
  | none => exact ⟨none, rfl, by simp⟩
  | some headerType =>
      obtain ⟨timingResult, timingParsed, timingSized⟩ :=
        parseTiming_ok buf tsLower (typeLong _ rfl)
      simp only [timingParsed]
      cases timingResult with
      | none => exact ⟨none, rfl, by simp⟩
      | some timing => exact parseAudioFields_ok buf headerType (timingSized _ rfl)

@[simp]
theorem abortBufferInProgress_bufferInProgress (s : Substream) :
    s.abortBufferInProgress.bufferInProgress = none := by
  unfold abortBufferInProgress
  split
  · rfl
  · exact Option.not_isSome_iff_eq_none.mp ‹_›

theorem abortBufferInProgress_cases (s : Substream) :
    s.abortBufferInProgress = s.cleanupBufferInProgress ∨
      (s.bufferInProgress = none ∧ s.abortBufferInProgress = s) := by
  unfold abortBufferInProgress
  split
  · exact .inl rfl
  · exact .inr ⟨Option.not_isSome_iff_eq_none.mp ‹_›, rfl⟩

theorem admitHeader_fst (s : Substream) (header : AudioHeader) :
    (s.admitHeader header).1 = s ∨
      (s.admitHeader header).1 = { s with
        substreamDetailsKnown := true
        substreamType := (s.admitHeader header).1.substreamType
        codecType := (s.admitHeader header).1.codecType
        decoder := s.decoder.setRenderVolume header.volume } := by
  unfold admitHeader
  split
  · exact .inl rfl
  · rename_i typed setUp
    rw [setupSubstreamType_eq_some setUp]
    exact .inr rfl

theorem admitHeader_snd_of_waiting {s : Substream} {header : AudioHeader}
    (waiting : s.waitingForRap = true)
    (notRap : header.flags &&& TRTPAudioPacket.kFlagRandomAccessPoint = 0) :
    (s.admitHeader header).2 = false := by
  unfold admitHeader
  split
  · rfl
  · rename_i typed setUp
    rw [setupSubstreamType_eq_some setUp]
    simp [waiting, notRap]

theorem readAuxLength_ok (s : Substream) (buf : Payload) {header : AudioHeader}
    (sized : header.Sized buf) :
    ∃ t result, s.readAuxLength buf header = .ok (t, result) ∧
      t = { s with
        auxDataExpectedSize := t.auxDataExpectedSize
        auxDataInProgress := t.auxDataInProgress } ∧
      (t.auxDataInProgress = [] ∨ t.auxDataInProgress = s.auxDataInProgress) ∧
      ∀ trtpHeaderLen, result = some trtpHeaderLen → trtpHeaderLen.toNat ≤ buf.bytes.length := by
  obtain ⟨⟨minEq, offsetEq, -, leAmt, leBound⟩, leLen⟩ := sized
  have grown : (header.trtpHeaderLen + 4).toNat = header.trtpHeaderLen.toNat + 4 :=
    uint32_toNat_add_of_lt (by simp only [UInt32.reduceToNat]; omega)
  simp only [readAuxLength, minEq, offsetEq, bind, Except.bind, pure, Except.pure, uint32_lt_iff,
    Payload.amt_toNat, grown]
  by_cases auxPresent : header.flags &&& TRTPAudioPacket.kFlagAuxLengthPresent ≠ 0
  · by_cases short : header.trtpLen.toNat < header.trtpHeaderLen.toNat + 4 ∨
        buf.bytes.length < header.trtpHeaderLen.toNat + 4
    · have : header.trtpLen.toNat < header.trtpHeaderLen.toNat + 4 ∨
          (¬header.trtpLen.toNat < header.trtpHeaderLen.toNat + 4 ∧
            buf.bytes.length < header.trtpHeaderLen.toNat + 4) := by omega
      rcases this with shortLen | ⟨longLen, shortAmt⟩
      · rw [if_pos auxPresent, if_pos shortLen]
        exact ⟨s, none, rfl, rfl, .inr rfl, by simp⟩
      · rw [if_pos auxPresent, if_neg longLen, if_pos shortAmt]
        exact ⟨s, none, rfl, rfl, .inr rfl, by simp⟩
    · rw [if_pos auxPresent, if_neg (by omega), if_neg (by omega)]
      simp only [Payload.readU32_eq_ok (show header.trtpHeaderLen.toNat + 4 ≤ buf.bytes.length by
        omega)]
      split_ifs
      · exact ⟨_, none, rfl, rfl, .inl rfl, by simp⟩
      · exact ⟨_, _, rfl, rfl, .inl rfl, by simp only [Option.some.injEq, forall_eq']; omega⟩
  · rw [if_neg auxPresent]
    split_ifs
    · exact ⟨_, none, rfl, rfl, .inr rfl, by simp⟩
    · exact ⟨_, _, rfl, rfl, .inr rfl, by simp only [Option.some.injEq, forall_eq']; omega⟩

theorem sizeBuffer_cases (s : Substream) (buf : Payload) (header : AudioHeader)
    {trtpHeaderLen : UInt32} (headerFits : trtpHeaderLen.toNat ≤ buf.bytes.length) :
    let sized :=
      { s with expectedBufferSize := header.trtpLen - trtpHeaderLen - s.auxDataExpectedSize }
    s.sizeBuffer buf header trtpHeaderLen = .ok (.dropped sized) ∨
      (s.sizeBuffer buf header trtpHeaderLen = .ok (.accepted sized header trtpHeaderLen) ∧
        0 < sized.expectedBufferSize.toNat ∧
        buf.bytes.length - trtpHeaderLen.toNat ≤
          s.auxDataExpectedSize.toNat + sized.expectedBufferSize.toNat) := by
  intro sized
  have todoEq : (buf.amt - trtpHeaderLen).toNat = buf.bytes.length - trtpHeaderLen.toNat := by
    rw [UInt32.toNat_sub_of_le _ _ (uint32_le_iff.mpr (by rw [Payload.amt_toNat]; exact headerFits)),
      Payload.amt_toNat]
  have fitsCheck : buf.amt ≥ trtpHeaderLen := uint32_le_iff.mpr (by rw [Payload.amt_toNat]; exact headerFits)
  simp only [sizeBuffer, fitsCheck, not_true_eq_false, if_false, bind, Except.bind, pure, Except.pure]
  by_cases empty : sized.expectedBufferSize = 0
  · exact .inl (if_pos empty)
  · rw [if_neg empty]
    by_cases extra : sized.expectedBufferSize + s.auxDataExpectedSize < buf.amt - trtpHeaderLen
    · exact .inl (if_pos extra)
    · refine .inr ⟨if_neg extra, ?_, ?_⟩
      · exact Nat.pos_of_ne_zero fun zero => empty (UInt32.toNat.inj zero)
      · rw [uint32_lt_iff, todoEq, UInt32.toNat_add] at extra
        have := Nat.mod_le (sized.expectedBufferSize.toNat + s.auxDataExpectedSize.toNat) UInt32.size
        show _ ≤ s.auxDataExpectedSize.toNat + sized.expectedBufferSize.toNat
        omega

end Substream

def StartCheck.state : StartCheck → Substream
  | .dropped s => s
  | .accepted s _ _ => s

/-- The fields the checks of a payload start (lines 122-305) leave as
`abortBufferInProgress` left them: they write only the substream and codec
types, the pump's volume, the aux data and the aux and unit sizes. -/
structure StartFrame (s t : Substream) : Prop where
  bufferInProgress : t.bufferInProgress = s.bufferInProgress
  bufferFilled : t.bufferFilled = s.bufferFilled
  waitingForRap : t.waitingForRap = s.waitingForRap
  codecMimeType : t.codecMimeType = s.codecMimeType
  substreamMeta : t.substreamMeta = s.substreamMeta
  status : t.status = s.status
  nextBufferId : t.nextBufferId = s.nextBufferId
  released : t.released = s.released
  decoder : t.decoder = s.decoder ∨ ∃ volume, t.decoder = s.decoder.setRenderVolume volume
  aux : t.auxDataInProgress = [] ∨ t.auxDataInProgress = s.auxDataInProgress

namespace StartFrame

theorem refl (s : Substream) : StartFrame s s :=
  ⟨rfl, rfl, rfl, rfl, rfl, rfl, rfl, rfl, .inl rfl, .inr rfl⟩

theorem admitHeader (s : Substream) (header : AudioHeader) :
    StartFrame s (s.admitHeader header).1 := by
  rcases s.admitHeader_fst header with same | typed
  · rw [same]; exact refl s
  · rw [typed]; exact ⟨rfl, rfl, rfl, rfl, rfl, rfl, rfl, rfl, .inr ⟨_, rfl⟩, .inr rfl⟩

/-- Lines 251-283 write only the aux data and its size. -/
theorem withAux {s t u : Substream} (frame : StartFrame s t)
    (eq : u = { t with
      auxDataExpectedSize := u.auxDataExpectedSize
      auxDataInProgress := u.auxDataInProgress })
    (aux : u.auxDataInProgress = [] ∨ u.auxDataInProgress = t.auxDataInProgress) :
    StartFrame s u := by
  rw [eq]
  refine ⟨frame.1, frame.2, frame.3, frame.4, frame.5, frame.6, frame.7, frame.8, frame.9, ?_⟩
  rcases aux with cleared | kept
  · exact .inl cleared
  · rw [kept]; exact frame.aux

/-- Lines 285-305 write only the unit size. -/
theorem withSize {s t : Substream} (frame : StartFrame s t) (size : UInt32) :
    StartFrame s { t with expectedBufferSize := size } :=
  ⟨frame.1, frame.2, frame.3, frame.4, frame.5, frame.6, frame.7, frame.8, frame.9, frame.10⟩

end StartFrame

namespace Substream

/-- `checkPayloadStart` never faults. An aborting substream drops the payload
unchanged; otherwise the state it drops or accepts the payload with is a
`StartFrame` of `abortBufferInProgress`, and an accepted payload has a header
inside it and a unit of non-zero size that the rest of it fits in. -/
theorem checkPayloadStart_frame (s : Substream) (buf : Payload) (tsLower : BitVec 32) :
    ∃ c, s.checkPayloadStart buf tsLower = .ok c ∧
      ((s.shouldAbort ∧ c = .dropped s) ∨
        (¬s.shouldAbort ∧ StartFrame s.abortBufferInProgress c.state)) ∧
      ∀ t header trtpHeaderLen, c = .accepted t header trtpHeaderLen →
        trtpHeaderLen.toNat ≤ buf.bytes.length ∧ 0 < t.expectedBufferSize.toNat ∧
        buf.bytes.length - trtpHeaderLen.toNat ≤
          t.auxDataExpectedSize.toNat + t.expectedBufferSize.toNat := by
  by_cases abort : s.shouldAbort
  · exact ⟨_, by simp [checkPayloadStart, abort, pure, Except.pure], .inl ⟨abort, rfl⟩,
      by intros; contradiction⟩
  obtain ⟨parsedHeader, parsed, parsedSized⟩ := s.abortBufferInProgress.parseAudioHeader_ok buf tsLower
  simp only [checkPayloadStart, if_neg abort, parsed, bind, Except.bind, pure, Except.pure]
  cases parsedHeader with
  | none => exact ⟨_, rfl, .inr ⟨abort, StartFrame.refl _⟩, by intros; contradiction⟩
  | some header =>
      have admitted := StartFrame.admitHeader s.abortBufferInProgress header
      cases pass : (s.abortBufferInProgress.admitHeader header).2
      · simp only [pass, Bool.not_false, if_true]
        exact ⟨_, rfl, .inr ⟨abort, admitted⟩, by intros; contradiction⟩
      · obtain ⟨t, result, read, eq, aux, fits⟩ :=
          readAuxLength_ok (s.abortBufferInProgress.admitHeader header).1 buf (parsedSized _ rfl)
        simp only [pass, Bool.not_true, Bool.false_eq_true, if_false, read]
        have framed := admitted.withAux eq aux
        cases result with
        | none => exact ⟨_, rfl, .inr ⟨abort, framed⟩, by intros; contradiction⟩
        | some trtpHeaderLen =>
            rcases sizeBuffer_cases t buf header (fits _ rfl) with dropped | ⟨accepted, pos, fit⟩
            · exact ⟨_, dropped, .inr ⟨abort, framed.withSize _⟩, by intros; contradiction⟩
            · exact ⟨_, accepted, .inr ⟨abort, framed.withSize _⟩,
                by rintro _ _ _ ⟨⟩; exact ⟨fits _ rfl, pos, fit⟩⟩

/-! ### The checks read only the header -/

theorem parseHeaderType_sameHeader (s : Substream) {buf buf' : Payload} {n : Nat}
    (same : buf.SameHeader n buf') (six : 6 ≤ n) : s.parseHeaderType buf' = s.parseHeaderType buf := by
  simp only [parseHeaderType, same.not_amt_lt (show (6 : UInt32).toNat ≤ n from six),
    same.symm.not_amt_lt (show (6 : UInt32).toNat ≤ n from six),
    same.byte_eq (show 0 < n by omega), same.byte_eq (show 1 < n by omega)]

theorem parseTiming_sameHeader {buf buf' : Payload} {tsLower : BitVec 32} {timing : TimingFields}
    {n : Nat} (same : buf.SameHeader n buf') (six : 6 ≤ n)
    (parsed : parseTiming buf tsLower = .ok (some timing)) (covers : timing.trtpHeaderLen.toNat ≤ n) :
    parseTiming buf' tsLower = .ok (some timing) := by
  have long := same.long
  have long' := same.long'
  simp only [parseTiming, same.byte_eq (show 1 < n by omega), same.readU32_eq (show 2 + 4 ≤ n by omega),
    Payload.byte_eq_ok (show 1 < buf.bytes.length by omega),
    Payload.readU32_eq_ok (show 2 + 4 ≤ buf.bytes.length by omega), bind, Except.bind, pure,
    Except.pure, uint32_lt_iff, Payload.amt_toNat, UInt32.reduceAdd, UInt32.reduceToNat] at parsed ⊢
  by_cases tsFlag : buf.bytes.get ⟨1, by omega⟩ &&& TRTPPacket.kFlagTSValid = 0
  · simp only [tsFlag, ne_eq, not_true_eq_false, if_false] at parsed ⊢
    split_ifs at parsed <;> cases parsed <;> simp only [UInt32.reduceToNat] at covers <;>
      split_ifs <;> first | rfl | omega
  · simp only [tsFlag, ne_eq, not_false_eq_true, if_true] at parsed ⊢
    by_cases short : buf.bytes.length < 10
    · simp only [short, if_true] at parsed
      cases parsed
    · simp only [short, if_false, Payload.readU32_eq_ok (show 6 + 4 ≤ buf.bytes.length by omega)] at parsed
      split_ifs at parsed <;> cases parsed <;> simp only [UInt32.reduceToNat] at covers <;>
        simp only [show ¬buf'.bytes.length < 10 by omega, if_false,
          same.readU32_eq (show 6 + 4 ≤ n by omega),
          Payload.readU32_eq_ok (show 6 + 4 ≤ buf.bytes.length by omega)] <;>
        split_ifs <;> first | rfl | omega

theorem parseAudioFields_trtpHeaderLen {buf : Payload} {headerType : UInt8} {timing : TimingFields}
    {header : AudioHeader} (parsed : parseAudioFields buf headerType timing = .ok (some header)) :
    header.trtpHeaderLen = timing.trtpHeaderLen + 3 := by
  simp only [parseAudioFields, bind, Except.bind, pure, Except.pure] at parsed
  split_ifs at parsed
  repeat' split at parsed
  all_goals (cases parsed <;> rfl)

theorem parseAudioFields_sameHeader {buf buf' : Payload} {headerType : UInt8} {timing : TimingFields}
    {n : Nat} (same : buf.SameHeader n buf') (sized : timing.Sized buf 34)
    (covers : timing.trtpHeaderLen.toNat + 3 ≤ n) :
    parseAudioFields buf' headerType timing = parseAudioFields buf headerType timing := by
  obtain ⟨minEq, offsetEq, -, -, leBound⟩ := sized
  have grown (k : UInt32) (small : k.toNat ≤ 3) :
      (timing.trtpHeaderLen + k).toNat = timing.trtpHeaderLen.toNat + k.toNat :=
    uint32_toNat_add_of_lt (by omega)
  have reads (k : UInt32) (small : k.toNat < 3) :
      buf'.byte (timing.trtpHeaderLen + k).toNat = buf.byte (timing.trtpHeaderLen + k).toNat :=
    same.byte_eq (by rw [grown k small.le]; omega)
  have bound : (timing.trtpHeaderLen + 3).toNat ≤ n := by rw [grown 3 (by decide)]; exact covers
  simp only [parseAudioFields, minEq, offsetEq, same.byte_eq (show timing.trtpHeaderLen.toNat < n by omega),
    reads 1 (by decide), reads 2 (by decide), same.not_amt_lt bound, same.symm.not_amt_lt bound]

theorem parseAudioHeader_sameHeader (s : Substream) {buf buf' : Payload} {tsLower : BitVec 32}
    {header : AudioHeader} {n : Nat} (same : buf.SameHeader n buf')
    (parsed : s.parseAudioHeader buf tsLower = .ok (some header)) (covers : header.trtpHeaderLen.toNat ≤ n) :
    s.parseAudioHeader buf' tsLower = .ok (some header) := by
  obtain ⟨typeResult, typeParsed, typeLong⟩ := s.parseHeaderType_ok buf
  simp only [parseAudioHeader, typeParsed, bind, Except.bind, pure, Except.pure] at parsed
  cases typeResult with
  | none => cases parsed
  | some headerType =>
      obtain ⟨timingResult, timingParsed, timingSized⟩ := parseTiming_ok buf tsLower (typeLong _ rfl)
      simp only [timingParsed] at parsed
      cases timingResult with
      | none => cases parsed
      | some timing =>
          have sized := timingSized _ rfl
          have grown : header.trtpHeaderLen.toNat = timing.trtpHeaderLen.toNat + 3 := by
            rw [parseAudioFields_trtpHeaderLen parsed]
            exact uint32_toNat_add_of_lt (by have := sized.le_bound; simp only [UInt32.reduceToNat]; omega)
          have six := sized.six_le
          simp only [parseAudioHeader, s.parseHeaderType_sameHeader same (by omega), typeParsed,
            parseTiming_sameHeader same (by omega) timingParsed (by omega),
            parseAudioFields_sameHeader same sized (by omega), bind, Except.bind]
          exact parsed

theorem readAuxLength_trtpHeaderLen {s t : Substream} {buf : Payload} {header : AudioHeader}
    {trtpHeaderLen : UInt32} (read : s.readAuxLength buf header = .ok (t, some trtpHeaderLen)) :
    trtpHeaderLen = if header.flags &&& TRTPAudioPacket.kFlagAuxLengthPresent ≠ 0 then
      header.trtpHeaderLen + 4 else header.trtpHeaderLen := by
  simp only [readAuxLength, bind, Except.bind, pure, Except.pure] at read
  split_ifs at read ⊢
  repeat' split at read
  all_goals (cases read <;> rfl)

theorem readAuxLength_sameHeader (s : Substream) {buf buf' : Payload} {header : AudioHeader}
    {n : Nat} (same : buf.SameHeader n buf') (sized : header.Sized buf)
    (covers : (if header.flags &&& TRTPAudioPacket.kFlagAuxLengthPresent ≠ 0 then
      header.trtpHeaderLen + 4 else header.trtpHeaderLen).toNat ≤ n) :
    s.readAuxLength buf' header = s.readAuxLength buf header := by
  obtain ⟨⟨minEq, offsetEq, -, -, leBound⟩, -⟩ := sized
  by_cases auxPresent : header.flags &&& TRTPAudioPacket.kFlagAuxLengthPresent ≠ 0
  · have grown : (header.trtpHeaderLen + 4).toNat = header.trtpHeaderLen.toNat + 4 :=
      uint32_toNat_add_of_lt (by simp only [UInt32.reduceToNat]; omega)
    rw [if_pos auxPresent] at covers
    simp only [readAuxLength, if_pos auxPresent, minEq, offsetEq, same.not_amt_lt covers,
      same.symm.not_amt_lt covers, same.readU32_eq (show header.trtpHeaderLen.toNat + 4 ≤ n by omega)]
  · simp only [readAuxLength, if_neg auxPresent]

theorem sizeBuffer_sameHeader (s : Substream) {buf buf' : Payload} {header : AudioHeader}
    {t : Substream} {trtpHeaderLen : UInt32}
    (accepted : s.sizeBuffer buf header trtpHeaderLen = .ok (.accepted t header trtpHeaderLen))
    (long : trtpHeaderLen.toNat ≤ buf'.bytes.length)
    (fits : buf'.bytes.length - trtpHeaderLen.toNat ≤ (t.expectedBufferSize + t.auxDataExpectedSize).toNat) :
    s.sizeBuffer buf' header trtpHeaderLen = .ok (.accepted t header trtpHeaderLen) := by
  have fitsCheck : buf'.amt ≥ trtpHeaderLen := uint32_le_iff.mpr (by rw [Payload.amt_toNat]; exact long)
  have todoEq : (buf'.amt - trtpHeaderLen).toNat = buf'.bytes.length - trtpHeaderLen.toNat := by
    rw [UInt32.toNat_sub_of_le _ _ fitsCheck, Payload.amt_toNat]
  simp only [sizeBuffer, bind, Except.bind, pure, Except.pure] at accepted ⊢
  split_ifs at accepted with empty short extra <;> cases accepted
  rw [if_neg empty, if_neg (not_not.mpr fitsCheck), if_neg (by rw [uint32_lt_iff, todoEq]; dsimp only at fits; omega)]

/-- An accepted payload start is checked on its header alone: from the same
state, a payload with the same first `trtpHeaderLen` bytes whose rest fits in
the unit is accepted with the same state, header and header length. -/
theorem checkPayloadStart_sameHeader {s t : Substream} {buf buf' : Payload} {tsLower : BitVec 32}
    {header : AudioHeader} {trtpHeaderLen : UInt32}
    (accepted : s.checkPayloadStart buf tsLower = .ok (.accepted t header trtpHeaderLen))
    (same : buf.SameHeader trtpHeaderLen.toNat buf')
    (fits : buf'.bytes.length - trtpHeaderLen.toNat ≤
      (t.expectedBufferSize + t.auxDataExpectedSize).toNat) :
    s.checkPayloadStart buf' tsLower = .ok (.accepted t header trtpHeaderLen) := by
  by_cases abort : s.shouldAbort
  · simp [checkPayloadStart, abort, pure, Except.pure] at accepted
  obtain ⟨parsedHeader, parsed, parsedSized⟩ := s.abortBufferInProgress.parseAudioHeader_ok buf tsLower
  simp only [checkPayloadStart, if_neg abort, parsed, bind, Except.bind, pure, Except.pure] at accepted
  cases parsedHeader with
  | none => cases accepted
  | some h =>
      cases pass : (s.abortBufferInProgress.admitHeader h).2
      · simp only [pass, Bool.not_false, if_true] at accepted
        cases accepted
      · obtain ⟨u, result, read, -, -, headerFits⟩ :=
          readAuxLength_ok (s.abortBufferInProgress.admitHeader h).1 buf (parsedSized _ rfl)
        simp only [pass, Bool.not_true, Bool.false_eq_true, if_false, read] at accepted
        cases result with
        | none => cases accepted
        | some len =>
            have lenEq := readAuxLength_trtpHeaderLen read
            rcases sizeBuffer_cases u buf h (headerFits _ rfl) with dropped | ⟨sized, -, -⟩
            · cases dropped.symm.trans accepted
            · cases sized.symm.trans accepted
              have sizedHeader := parsedSized _ rfl
              have covers : header.trtpHeaderLen.toNat ≤ trtpHeaderLen.toNat := by
                have := sizedHeader.timing.le_bound
                rw [lenEq]
                split_ifs
                · rw [uint32_toNat_add_of_lt (by simp only [UInt32.reduceToNat]; omega)]; omega
                · exact le_rfl
              simp only [checkPayloadStart, if_neg abort,
                s.abortBufferInProgress.parseAudioHeader_sameHeader same parsed covers, pass,
                Bool.not_true, Bool.false_eq_true, if_false,
                readAuxLength_sameHeader _ same sizedHeader (by rw [← lenEq]), read, bind, Except.bind,
                pure, Except.pure]
              exact sizeBuffer_sameHeader u accepted same.long' fits

end Substream

end AahRtp

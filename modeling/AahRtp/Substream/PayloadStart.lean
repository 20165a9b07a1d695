import AahRtp.Substream.Completion

/-!
# Payload starts

`processPayloadStart` (lines 104-355), cut along the comments of the source:
the header parse up to the audio fields (`parseAudioHeader`), the optional
aux-data length (`readAuxLength`), sizing the access unit (`sizeBuffer`), and
allocating and filling it (`startBuffer`). `checkPayloadStart` is everything
that may drop the payload, `fillFromPayloadStart` the function up to the call
of `processCompletedBuffer`; `processPayloadStart` makes that call.
-/

namespace AahRtp

/-- What lines 169-210 parse: the timestamp, the TRTP length, and the running
lengths `min_length`, `trtp_header_len` and `parse_offset` after the optional
timestamp and clock transform. -/
structure TimingFields where
  tsValid : Bool
  ts : BitVec 64
  trtpLen : UInt32
  minLength : UInt32
  trtpHeaderLen : UInt32
  parseOffset : UInt32
  deriving DecidableEq, Repr

/-- The header fields lines 124-236 parse, with the running lengths as they
stand at line 237. -/
structure AudioHeader extends TimingFields where
  headerType : UInt8
  codecType : UInt8
  flags : UInt8
  volume : UInt8
  deriving DecidableEq, Repr

/-- How `new MediaBuffer(expected_buffer_size_)` turned out (lines 307-322). -/
inductive Allocation where
  /-- `new` returned `NULL`. -/
  | nullBuffer
  /-- The buffer was made but `data()` is `NULL`. -/
  | nullData
  /-- The buffer was made but `meta_data()` is `NULL`. -/
  | nullMeta
  /-- The buffer and its metadata were made. -/
  | allocated
  deriving DecidableEq, Repr

structure StartEnv where
  allocation : Allocation := .allocated
  completion : CompletionEnv := {}
  deriving DecidableEq, Repr

/-- Where lines 104-305 of `processPayloadStart` leave a payload start. -/
inductive StartCheck where
  /-- The payload is dropped; the call returns with this state. -/
  | dropped (s : Substream)
  /-- The header is accepted and the unit sized (`expected_buffer_size_` is
  written); the unit is about to be allocated. -/
  | accepted (s : Substream) (header : AudioHeader) (trtpHeaderLen : UInt32)

namespace Substream

/-- Lines 127-167 of `processPayloadStart`: the version byte and the header
type, which must be audio and match the type already known. -/
def parseHeaderType (s : Substream) (buf : Payload) : Except Fault (Option UInt8) := do
  let minLength : UInt32 := 6
  if buf.amt < minLength then return none
  if (← buf.byte 0) ≠ 0x01 then return none
  let headerType := ((← buf.byte 1) >>> 4) &&& 0xF
  if headerType ≠ TRTPPacket.kHeaderTypeAudio then return none
  if s.substreamDetailsKnown ∧ headerType ≠ s.substreamType then return none
  return some headerType

/-- Lines 169-210 of `processPayloadStart`: the timestamp flag, the TRTP
length, the upper half of the timestamp and the clock transform's room. -/
def parseTiming (buf : Payload) (tsLower : BitVec 32) : Except Fault (Option TimingFields) := do
  let mut minLength : UInt32 := 6
  let mut trtpHeaderLen : UInt32 := 6
  let tsValid := (← buf.byte 1) &&& TRTPPacket.kFlagTSValid ≠ 0
  if tsValid then
    minLength := minLength + 4
    trtpHeaderLen := trtpHeaderLen + 4
    if buf.amt < minLength then return none
  let trtpLen ← buf.readU32 2
  if trtpLen < minLength then return none
  let mut ts : BitVec 64 := 0
  let mut parseOffset : UInt32 := 6
  if tsValid then
    let tsUpper ← buf.readU32 parseOffset.toNat
    parseOffset := parseOffset + 4
    ts := (tsUpper.toBitVec.zeroExtend 64 <<< 32) ||| tsLower.signExtend 64
  if (← buf.byte 1) &&& TRTPPacket.kFlagTSTransformPresent ≠ 0 then
    minLength := minLength + 24
    parseOffset := parseOffset + 24
    trtpHeaderLen := trtpHeaderLen + 24
    if buf.amt < minLength then return none
  return some { tsValid, ts, trtpLen, minLength, trtpHeaderLen, parseOffset }

/-- Lines 212-236 of `processPayloadStart`: the codec type, audio flags and
volume. -/
def parseAudioFields (buf : Payload) (headerType : UInt8) (timing : TimingFields) :
    Except Fault (Option AudioHeader) := do
  let minLength := timing.minLength + 3
  if timing.trtpLen < minLength then return none
  if buf.amt < minLength then return none
  let codecType ← buf.byte timing.parseOffset.toNat
  let flags ← buf.byte (timing.parseOffset + 1).toNat
  let volume ← buf.byte (timing.parseOffset + 2).toNat
  return some
    { timing with
      headerType, codecType, flags, volume, minLength
      trtpHeaderLen := timing.trtpHeaderLen + 3
      parseOffset := timing.parseOffset + 3 }

/-- Lines 124-236 of `processPayloadStart`: parse the TRTP header up to the
volume byte; `none` where the code drops the payload. -/
def parseAudioHeader (s : Substream) (buf : Payload) (tsLower : BitVec 32) :
    Except Fault (Option AudioHeader) := do
  let some headerType ← s.parseHeaderType buf | return none
  let some timing ← parseTiming buf tsLower | return none
  parseAudioFields buf headerType timing

/-- Lines 251-283 of `processPayloadStart`: the optional aux-data length, and
the check of aux data plus header against `trtp_len`. The state comes back
with `aux_data_expected_size_` written when the code wrote it; the length is
the header length on success. -/
def readAuxLength (s : Substream) (buf : Payload) (header : AudioHeader) :
    Except Fault (Substream × Option UInt32) := do
  let mut minLength := header.minLength
  let mut trtpHeaderLen := header.trtpHeaderLen
  let mut s := s
  if header.flags &&& TRTPAudioPacket.kFlagAuxLengthPresent ≠ 0 then
    minLength := minLength + 4
    trtpHeaderLen := trtpHeaderLen + 4
    if header.trtpLen < minLength then return (s, none)
    if buf.amt < minLength then return (s, none)
    let auxDataExpectedSize ← buf.readU32 header.parseOffset.toNat
    s := { s with auxDataExpectedSize, auxDataInProgress := [] }
  else
    s := { s with auxDataExpectedSize := 0 }
  if s.auxDataExpectedSize + trtpHeaderLen > header.trtpLen then return (s, none)
  return (s, some trtpHeaderLen)

/-- Lines 285-305 of `processPayloadStart`: size the access unit and check that
what the payload carries after the header fits in it. -/
def sizeBuffer (s : Substream) (buf : Payload) (header : AudioHeader)
    (trtpHeaderLen : UInt32) : Except Fault StartCheck := do
  let s := { s with
    expectedBufferSize := header.trtpLen - trtpHeaderLen - s.auxDataExpectedSize }
  if s.expectedBufferSize = 0 then return .dropped s
  if ¬buf.amt ≥ trtpHeaderLen then throw (.substreamCheck 297)
  let todo := buf.amt - trtpHeaderLen
  if s.expectedBufferSize + s.auxDataExpectedSize < todo then return .dropped s
  return .accepted s header trtpHeaderLen

/-- Lines 118-121 of `processPayloadStart`: a payload start aborts the unit in
progress, if any. -/
def abortBufferInProgress (s : Substream) : Substream :=
  if s.bufferInProgress.isSome then s.cleanupBufferInProgress else s

/-- Lines 238-249 of `processPayloadStart`: establish the substream and codec
types, apply the header's volume, and drop the payload while waiting for a
random access point. The flag is whether the payload gets past these lines. -/
def admitHeader (s : Substream) (header : AudioHeader) : Substream × Bool :=
  match s.setupSubstreamType header.headerType header.codecType with
  | none => (s, false)
  | some s =>
      let s := { s with decoder := s.decoder.setRenderVolume header.volume }
      (s, !(s.waitingForRap ∧ header.flags &&& TRTPAudioPacket.kFlagRandomAccessPoint = 0))

/-- Lines 104-305 of `processPayloadStart`: everything that can drop a payload
start before the access unit is allocated. -/
def checkPayloadStart (s : Substream) (buf : Payload) (tsLower : BitVec 32) :
    Except Fault StartCheck := do
  if s.shouldAbort then return .dropped s
  let s := s.abortBufferInProgress
  let some header ← s.parseAudioHeader buf tsLower | return .dropped s
  let (s, admitted) := s.admitHeader header
  if !admitted then return .dropped s
  let (s, headerLen?) ← s.readAuxLength buf header
  let some trtpHeaderLen := headerLen? | return .dropped s
  s.sizeBuffer buf header trtpHeaderLen

/-- Lines 341-353 of `processPayloadStart`: as much of the `amt` bytes `rest`
left after the aux data as fits goes to the front of the new unit. -/
def startPayload (s : Substream) (unit : MediaBuffer) (rest : List UInt8) (amt : UInt32) :
    Except Fault Progress := do
  let todo := min s.expectedBufferSize amt
  let s ←
    if todo > 0 then do
      let unit ← unit.write 0 (rest.take todo.toNat)
      pure { s with bufferInProgress := some unit, bufferFilled := amt }
    else pure s
  if s.bufferFilled ≥ s.expectedBufferSize then return .complete s
  return .done s

theorem startPayload_cases {s : Substream} {unit : MediaBuffer} {rest : List UInt8}
    {amt : UInt32} {p : Progress} (inProgress : s.bufferInProgress = some unit)
    (started : s.startPayload unit rest amt = .ok p) :
    p.state.bufferInProgress.map MediaBuffer.id = some unit.id ∧
      p.state = { s with
        bufferInProgress := p.state.bufferInProgress
        bufferFilled := p.state.bufferFilled } := by
  unfold startPayload at started
  simp only [bind, Except.bind, pure, Except.pure] at started
  repeat' split at started
  all_goals cases started
  all_goals first
    | exact ⟨congrArg (Option.map MediaBuffer.id) inProgress, rfl⟩
    | exact ⟨congrArg some (MediaBuffer.write_id ‹_›), rfl⟩

/-- Lines 306-354 of `processPayloadStart`: allocate the access unit and copy
what the payload carries after the header, aux data first. -/
def startBuffer (s : Substream) (buf : Payload) (header : AudioHeader)
    (trtpHeaderLen : UInt32) (allocation : Allocation) : Except Fault Progress := do
  let s := { s with bufferFilled := 0 }
  match allocation with
  | .nullBuffer => return .done s.cleanupBufferInProgress
  | .nullData | .nullMeta =>
      let s := { s with
        bufferInProgress := some { id := s.nextBufferId, data := [], meta := {} }
        nextBufferId := s.nextBufferId + 1 }
      return .done s.cleanupBufferInProgress
  | .allocated =>
      let unit : MediaBuffer :=
        { id := s.nextBufferId
          data := List.replicate s.expectedBufferSize.toNat 0
          meta :=
            { mimeType := some s.codecMimeType
              time := if header.tsValid then some header.ts else none } }
      let s := { s with bufferInProgress := some unit, nextBufferId := s.nextBufferId + 1 }
      let rest := buf.bytes.drop trtpHeaderLen.toNat
      let amt := buf.amt - trtpHeaderLen
      let todo := min s.auxDataExpectedSize amt
      if todo ≠ 0 then
        let s := { s with auxDataInProgress := s.auxDataInProgress ++ rest.take todo.toNat }
        s.startPayload unit (rest.drop todo.toNat) (amt - todo)
      else s.startPayload unit rest amt

/-- `processPayloadStart` (lines 104-355) up to its call of
`processCompletedBuffer`. -/
def fillFromPayloadStart (s : Substream) (buf : Payload) (tsLower : BitVec 32)
    (allocation : Allocation) : Except Fault Progress := do
  match ← s.checkPayloadStart buf tsLower with
  | .dropped s => return .done s
  | .accepted s header trtpHeaderLen => s.startBuffer buf header trtpHeaderLen allocation

/-- `processPayloadStart` (lines 104-355). -/
def processPayloadStart (platform : Platform) (s : Substream) (buf : Payload)
    (tsLower : BitVec 32) (env : StartEnv) : Except Fault Substream := do
  (← s.fillFromPayloadStart buf tsLower env.allocation).finish platform env.completion

end Substream

end AahRtp

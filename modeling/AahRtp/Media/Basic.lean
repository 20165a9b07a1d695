import Mathlib

/-!
# Platform types of the receive pipeline

The `status_t` codes the pump and the substream pass around, the ways a run
can crash (a failed `CHECK`, or a memory access outside the buffer it
addresses), the `MetaData` keys the code reads and writes, `MediaBuffer`,
`LinearTransform`, and the two library functions the code calls whose bodies
are not in this source tree.
-/

namespace AahRtp

/-- `status_t`: an `int32_t` result code. -/
abbrev StatusT := Int

namespace StatusT

/-- `OK` (utils/Errors.h). -/
def ok : StatusT := 0

/-- `BAD_VALUE` (utils/Errors.h). -/
def badValue : StatusT := -22

/-- `INVALID_OPERATION` (utils/Errors.h). -/
def invalidOperation : StatusT := -38

/-- `UNKNOWN_ERROR` (utils/Errors.h). -/
def unknownError : StatusT := -2147483648

/-- `INFO_FORMAT_CHANGED` (media/stagefright/MediaErrors.h). -/
def infoFormatChanged : StatusT := -1012

end StatusT

inductive Fault where
  /-- A `CHECK` of aah_rx_player_substream.cpp failed at the given line. -/
  | substreamCheck (line : Nat)
  /-- A `CHECK` of aah_decoder_pump.cpp failed at the given line. -/
  | pumpCheck (line : Nat)
  /-- Byte `index` was read from a payload of `amt` bytes. -/
  | readPastEnd (index amt : Nat)
  /-- A `memcpy` of `length` bytes at `offset` into a buffer of `size` bytes. -/
  | writePastEnd (offset length size : Nat)
  deriving DecidableEq, Repr

def Fault.IsPump : Fault → Prop
  | .pumpCheck _ => True
  | _ => False

/-- The `MetaData` keys this code uses; `int32` values are kept as their bit
pattern. -/
structure MetaData where
  /-- `kKeyMIMEType`. -/
  mimeType : Option String := none
  /-- `kKeyChannelCount`. -/
  channelCount : Option UInt32 := none
  /-- `kKeySampleRate`. -/
  sampleRate : Option UInt32 := none
  /-- `kKeyESDS`, the AAC codec configuration. -/
  esds : Option (List UInt8) := none
  /-- `kKeyTime`, the presentation timestamp. -/
  time : Option (BitVec 64) := none
  deriving DecidableEq, Repr

/-- A `MediaBuffer` holding one access unit. `id` stands for its address and
is never reused; `data.length` is the size it was allocated with. -/
structure MediaBuffer where
  id : Nat
  data : List UInt8
  meta : MetaData
  deriving DecidableEq, Repr

namespace MediaBuffer

/-- `memcpy(data() + offset, src, src.length)`, a fault past the end of the
buffer. -/
def write (buf : MediaBuffer) (offset : Nat) (src : List UInt8) :
    Except Fault MediaBuffer :=
  if offset + src.length ≤ buf.data.length then
    .ok { buf with data := buf.data.take offset ++ src ++ buf.data.drop (offset + src.length) }
  else .error (.writePastEnd offset src.length buf.data.length)

theorem write_eq_ok {buf : MediaBuffer} {offset : Nat} {src : List UInt8}
    (fits : offset + src.length ≤ buf.data.length) :
    buf.write offset src =
      .ok { buf with data := buf.data.take offset ++ src ++ buf.data.drop (offset + src.length) } :=
  if_pos fits

@[simp]
theorem length_write_data {buf written : MediaBuffer} {offset : Nat} {src : List UInt8}
    (wrote : buf.write offset src = .ok written) :
    written.data.length = buf.data.length := by
  unfold write at wrote
  split at wrote
  · cases wrote
    simp only [List.length_append, List.length_take, List.length_drop]
    omega
  · cases wrote

theorem write_id {buf written : MediaBuffer} {offset : Nat} {src : List UInt8}
    (wrote : buf.write offset src = .ok written) : written.id = buf.id := by
  unfold write at wrote
  split at wrote
  · cases wrote
    rfl
  · cases wrote

end MediaBuffer

/-- `LinearTransform` (utils/LinearTransform.h): the affine map from media time
to common time. The `memcmp` comparison of two transforms is field equality. -/
structure LinearTransform where
  aZero : BitVec 64 := 0
  bZero : BitVec 64 := 0
  aToBNumer : BitVec 32 := 0
  aToBDenom : BitVec 32 := 0
  deriving DecidableEq, Repr

/-- `MEDIA_MIMETYPE_AUDIO_MPEG` (media/stagefright/MediaDefs.h). -/
def mediaMimetypeAudioMpeg : String := "audio/mpeg"

/-- `MEDIA_MIMETYPE_AUDIO_AAC` (media/stagefright/MediaDefs.h). -/
def mediaMimetypeAudioAac : String := "audio/mp4a-latm"

/-- Library functions whose bodies are not in this source tree. Every result
about the model holds for every choice of them. -/
structure Platform where
  /-- `GetMPEGAudioFrameSize` (include/avc_utils.h) on a 4-byte frame header:
  the sample rate and channel count when the header parses. -/
  getMPEGAudioFrameSize : UInt32 → Option (UInt32 × UInt32)
  /-- `LinearTransform::doForwardTransform`, `none` when it fails. -/
  doForwardTransform : LinearTransform → BitVec 64 → Option (BitVec 64)
  deriving Inhabited

/-- `GetMPEGAudioFrameSize` (include/avc_utils.h) on an MPEG-1 Layer III frame
header: the sync bits, version 1, layer III, a bitrate index other than free
and bad, and a sample-rate index other than reserved give the sample rate of
the index, and one channel in mono mode, two otherwise. It answers `none` for
every other header. -/
def mpeg1Layer3FrameInfo (header : UInt32) : Option (UInt32 × UInt32) :=
  let version := (header >>> 19) &&& 3
  let layer := (header >>> 17) &&& 3
  let bitrateIndex := (header >>> 12) &&& 0xF
  let sampleRateIndex := (header >>> 10) &&& 3
  let channelMode := (header >>> 6) &&& 3
  if header &&& 0xFFE00000 ≠ 0xFFE00000 ∨ version ≠ 3 ∨ layer ≠ 1 ∨ bitrateIndex = 0 ∨
      bitrateIndex = 0xF ∨ sampleRateIndex = 3 then none
  else some ([44100, 48000, 32000].getD sampleRateIndex.toNat 0, if channelMode = 3 then 1 else 2)

def mpeg1Platform : Platform where
  getMPEGAudioFrameSize := mpeg1Layer3FrameInfo
  doForwardTransform _ _ := none

example : mpeg1Layer3FrameInfo 0xFFFB9064 = some (44100, 2) := by decide

example : mpeg1Layer3FrameInfo 0xFFFB9464 = some (48000, 2) := by decide

end AahRtp

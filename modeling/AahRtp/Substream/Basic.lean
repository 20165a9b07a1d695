import AahRtp.Pump.Worker
import AahRtp.Trtp.Wire

/-!
# The substream: state and its small operations

`AAH_RXPlayer::Substream` of aah_rx_player_substream.cpp as a record, with its
constructor, `cleanupBufferInProgress`, `cleanupDecoder`, `shutdown`,
`shouldAbort`, `setupSubstreamType`, `processTSTransform` and
`isAboutToUnderflow`.

`decoder_` is the pump itself, not a pointer that may be `NULL`: the
constructor dereferences it (`decoder_->initCheck()`) right after `new`, so
every later `decoder_ != NULL` test is true.
-/

namespace AahRtp

/-- The fields of `AAH_RXPlayer::Substream`, and two ghost fields for buffer
ownership: the number of `MediaBuffer`s allocated so far (the id of the next
one) and the ids of those this substream released, in order. `ssrc_` appears
only in log messages and is left out. -/
structure Substream where
  substreamDetailsKnown : Bool := false
  substreamType : UInt8 := 0
  codecType : UInt8 := 0
  codecMimeType : String := ""
  bufferInProgress : Option MediaBuffer := none
  expectedBufferSize : UInt32 := 0
  bufferFilled : UInt32 := 0
  waitingForRap : Bool := true
  auxDataInProgress : List UInt8 := []
  auxDataExpectedSize : UInt32 := 0
  substreamMeta : Option MetaData := none
  status : StatusT := StatusT.ok
  decoder : DecoderPump := {}
  nextBufferId : Nat := 0
  released : List Nat := []
  deriving DecidableEq, Repr

namespace Substream

/-- `cleanupBufferInProgress` (lines 72-84). -/
def cleanupBufferInProgress (s : Substream) : Substream :=
  { s with
    released := s.released ++ (s.bufferInProgress.map MediaBuffer.id).toList
    bufferInProgress := none
    expectedBufferSize := 0
    bufferFilled := 0
    waitingForRap := true
    auxDataInProgress := []
    auxDataExpectedSize := 0 }

/-- The constructor (lines 41-59): a fresh pump, then `cleanupBufferInProgress`. -/
def new : Substream :=
  cleanupBufferInProgress {}

/-- `cleanupDecoder` (lines 86-90). -/
def cleanupDecoder (s : Substream) : Substream :=
  { s with decoder := s.decoder.shutdownL }

/-- `shutdown` (lines 65-70). -/
def shutdown (s : Substream) : Substream :=
  ({ s with substreamMeta := none, status := StatusT.ok }.cleanupBufferInProgress).cleanupDecoder

/-- `shouldAbort` (lines 92-102). -/
def shouldAbort (s : Substream) : Bool :=
  s.status ≠ StatusT.ok

/-- `setupSubstreamType` (lines 643-675); `none` where the code returns `false`. -/
def setupSubstreamType (s : Substream) (substreamType codecType : UInt8) : Option Substream :=
  if s.substreamDetailsKnown then
    if codecType ≠ s.codecType then none else some s
  else if codecType = TRTPAudioPacket.kCodecMPEG1Audio ∨
      codecType = TRTPAudioPacket.kCodecAACAudio then
    some { s with substreamType, codecType, substreamDetailsKnown := true }
  else none

/-- `processTSTransform` (lines 629-633). -/
def processTSTransform (s : Substream) (trans : LinearTransform) : Substream :=
  { s with decoder := s.decoder.setRenderTSTransform trans }

def kAboutToUnderflowThreshold : BitVec 64 := 50 * 1000

/-- `isAboutToUnderflow` (lines 635-641). -/
def isAboutToUnderflow (platform : Platform) (s : Substream) (now : Option (BitVec 64)) : Bool :=
  s.decoder.isAboutToUnderflow platform kAboutToUnderflowThreshold now

@[simp]
theorem cleanupBufferInProgress_bufferInProgress (s : Substream) :
    s.cleanupBufferInProgress.bufferInProgress = none := rfl

@[simp]
theorem cleanupBufferInProgress_auxDataInProgress (s : Substream) :
    s.cleanupBufferInProgress.auxDataInProgress = [] := rfl

@[simp]
theorem cleanupBufferInProgress_waitingForRap (s : Substream) :
    s.cleanupBufferInProgress.waitingForRap = true := rfl

@[simp]
theorem cleanupBufferInProgress_decoder (s : Substream) :
    s.cleanupBufferInProgress.decoder = s.decoder := rfl

@[simp]
theorem cleanupBufferInProgress_status (s : Substream) :
    s.cleanupBufferInProgress.status = s.status := rfl

@[simp]
theorem cleanupBufferInProgress_substreamMeta (s : Substream) :
    s.cleanupBufferInProgress.substreamMeta = s.substreamMeta := rfl

@[simp]
theorem cleanupBufferInProgress_nextBufferId (s : Substream) :
    s.cleanupBufferInProgress.nextBufferId = s.nextBufferId := rfl

@[simp]
theorem cleanupBufferInProgress_released (s : Substream) :
    s.cleanupBufferInProgress.released =
      s.released ++ (s.bufferInProgress.map MediaBuffer.id).toList := rfl

@[simp]
theorem cleanupDecoder_decoder (s : Substream) :
    s.cleanupDecoder.decoder = s.decoder.shutdownL := rfl

theorem setupSubstreamType_eq_some {s s' : Substream} {substreamType codecType : UInt8}
    (setUp : s.setupSubstreamType substreamType codecType = some s') :
    s' = { s with
      substreamDetailsKnown := true
      substreamType := s'.substreamType
      codecType := s'.codecType } := by
  unfold setupSubstreamType at setUp
  split_ifs at setUp with known
  · cases setUp
    cases s
    simp_all
  · cases setUp
    rfl

end Substream

end AahRtp

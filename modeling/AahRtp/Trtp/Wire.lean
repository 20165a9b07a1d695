import AahRtp.Media.Basic

/-!
# TRTP wire constants and received payloads

The header type, flag and codec values of `aah_tx_packet.h` that the receive
side tests, and the byte buffer a payload start or continuation arrives in.
Every read from a payload is bounds-checked: a read at or past `amt` ends the
run in `Fault.readPastEnd`.
-/

namespace AahRtp

namespace TRTPPacket

def kHeaderTypeAudio : UInt8 := 1

def kFlagTSTransformPresent : UInt8 := 0x02

def kFlagTSValid : UInt8 := 0x01

end TRTPPacket

namespace TRTPAudioPacket

def kFlagAuxLengthPresent : UInt8 := 0x10

def kFlagRandomAccessPoint : UInt8 := 0x08

def kCodecMPEG1Audio : UInt8 := 3

def kCodecAACAudio : UInt8 := 4

end TRTPAudioPacket

/-- Modelled from the spec: `U32_AT` (media/stagefright/Utils.h, not in this
source tree) reads the big-endian 32-bit fields of the wire header (§6). -/
def u32At (b0 b1 b2 b3 : UInt8) : UInt32 :=
  (b0.toUInt32 <<< 24) ||| (b1.toUInt32 <<< 16) ||| (b2.toUInt32 <<< 8) ||| b3.toUInt32

def u32AtList (bytes : List UInt8) (offset : Nat) : UInt32 :=
  u32At (bytes.getD offset 0) (bytes.getD (offset + 1) 0) (bytes.getD (offset + 2) 0)
    (bytes.getD (offset + 3) 0)

theorem uint32_lt_iff {a b : UInt32} : a < b ↔ a.toNat < b.toNat := Iff.rfl

theorem uint32_le_iff {a b : UInt32} : a ≤ b ↔ a.toNat ≤ b.toNat := Iff.rfl

theorem uint32_toNat_add_of_lt {a b : UInt32} (small : a.toNat + b.toNat < 2 ^ 32) :
    (a + b).toNat = a.toNat + b.toNat := by
  rw [UInt32.toNat_add]
  exact Nat.mod_eq_of_lt small

theorem uint32_toNat_min (a b : UInt32) : (min a b).toNat = min a.toNat b.toNat := by
  show (if a ≤ b then a else b).toNat = _
  split <;> rename_i le <;> simp only [uint32_le_iff] at le <;> omega

structure Payload where
  bytes : List UInt8
  length_lt : bytes.length < 2 ^ 32

namespace Payload

def amt (buf : Payload) : UInt32 := UInt32.ofNat buf.bytes.length

@[simp]
theorem amt_toNat (buf : Payload) : buf.amt.toNat = buf.bytes.length :=
  UInt32.toNat_ofNat_of_lt buf.length_lt

def byte (buf : Payload) (index : Nat) : Except Fault UInt8 :=
  match buf.bytes[index]? with
  | some value => .ok value
  | none => .error (.readPastEnd index buf.bytes.length)

def readU32 (buf : Payload) (offset : Nat) : Except Fault UInt32 := do
  let b0 ← buf.byte offset
  let b1 ← buf.byte (offset + 1)
  let b2 ← buf.byte (offset + 2)
  let b3 ← buf.byte (offset + 3)
  return u32At b0 b1 b2 b3

theorem byte_eq_ok {buf : Payload} {index : Nat} (inBounds : index < buf.bytes.length) :
    buf.byte index = .ok (buf.bytes.get ⟨index, inBounds⟩) := by
  simp [byte, List.getElem?_eq_getElem inBounds]

theorem readU32_eq_ok {buf : Payload} {offset : Nat} (inBounds : offset + 4 ≤ buf.bytes.length) :
    buf.readU32 offset = .ok (u32AtList buf.bytes offset) := by
  have first : offset < buf.bytes.length := by omega
  have second : offset + 1 < buf.bytes.length := by omega
  have third : offset + 2 < buf.bytes.length := by omega
  have fourth : offset + 3 < buf.bytes.length := by omega
  simp [readU32, u32AtList, byte, List.getElem?_eq_getElem, first, second, third, fourth,
    bind, Except.bind, pure, Except.pure]

structure SameHeader (n : Nat) (buf buf' : Payload) : Prop where
  long : n ≤ buf.bytes.length
  long' : n ≤ buf'.bytes.length
  take_eq : buf'.bytes.take n = buf.bytes.take n

namespace SameHeader

variable {n : Nat} {buf buf' : Payload}

theorem symm (same : SameHeader n buf buf') : SameHeader n buf' buf :=
  ⟨same.long', same.long, same.take_eq.symm⟩

theorem byte_eq (same : SameHeader n buf buf') {i : Nat} (lt : i < n) : buf'.byte i = buf.byte i := by
  have lookup : buf'.bytes[i]? = buf.bytes[i]? := by
    rw [← List.getElem?_take_of_lt lt, same.take_eq, List.getElem?_take_of_lt lt]
  have inBounds : i < buf.bytes.length := by have := same.long; omega
  simp only [byte, lookup, List.getElem?_eq_getElem inBounds]

theorem readU32_eq (same : SameHeader n buf buf') {i : Nat} (le : i + 4 ≤ n) :
    buf'.readU32 i = buf.readU32 i := by
  simp only [readU32, same.byte_eq (show i < n by omega), same.byte_eq (show i + 1 < n by omega),
    same.byte_eq (show i + 2 < n by omega), same.byte_eq (show i + 3 < n by omega)]

theorem of_take_append {rest : List UInt8} (long : n ≤ buf.bytes.length)
    (bytes : buf'.bytes = buf.bytes.take n ++ rest) : SameHeader n buf buf' :=
  have headerLen : (buf.bytes.take n).length = n := List.length_take_of_le long
  ⟨long, by rw [bytes, List.length_append, headerLen]; omega, by rw [bytes, List.take_left' headerLen]⟩

theorem not_amt_lt (same : SameHeader n buf buf') {m : UInt32} (le : m.toNat ≤ n) : ¬buf'.amt < m := by
  have := same.long'
  simp only [uint32_lt_iff, amt_toNat]
  omega

end SameHeader

end Payload

def mp3FrameStart : Payload :=
  ⟨[0x01, 0x10, 0, 0, 0, 13, 3, 0x08, 0xFF, 0xFF, 0xFB, 0x90, 0x64], by decide⟩

def mp3PartialStart : Payload :=
  ⟨[0x01, 0x10, 0, 0, 0, 13, 3, 0x08, 0xFF, 1, 2], by decide⟩

end AahRtp

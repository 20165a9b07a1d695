import AahRtp.Substream.StartChecks

/-!
# What the fill phases do

Exact results of the two fill phases. A continuation that fits appends its
bytes, aux data first and then payload at `buffer_filled_` (`appendAux`,
`appendPayload`), and completes the unit exactly when it fills both; one longer
than what is left of both discards the unit (`fillFromPayloadCont_eq`). A payload
start that was accepted and allocated fills the new unit the same way from the
bytes after its header (`startBuffer_allocated_eq`).
-/

namespace AahRtp

namespace Substream

def appendAux (s : Substream) (bytes : List UInt8) : Substream :=
  { s with auxDataInProgress := s.auxDataInProgress ++ bytes }

def appendPayload (s : Substream) (unit : MediaBuffer) (rest : List UInt8) : Substream :=
  { s with
    bufferInProgress := some
      { unit with
        data := unit.data.take s.bufferFilled.toNat ++ rest ++
          unit.data.drop (s.bufferFilled.toNat + rest.length) }
    bufferFilled := s.bufferFilled + UInt32.ofNat rest.length }

theorem appendAux_nil (s : Substream) : s.appendAux [] = s := by
  simp [appendAux]

@[simp]
theorem appendAux_bufferInProgress (s : Substream) (bytes : List UInt8) :
    (s.appendAux bytes).bufferInProgress = s.bufferInProgress := rfl

@[simp]
theorem appendAux_expectedBufferSize (s : Substream) (bytes : List UInt8) :
    (s.appendAux bytes).expectedBufferSize = s.expectedBufferSize := rfl

@[simp]
theorem appendAux_bufferFilled (s : Substream) (bytes : List UInt8) :
    (s.appendAux bytes).bufferFilled = s.bufferFilled := rfl

@[simp]
theorem appendAux_cleanupBufferInProgress (s : Substream) (bytes : List UInt8) :
    (s.appendAux bytes).cleanupBufferInProgress = s.cleanupBufferInProgress := rfl

@[simp]
theorem appendAux_auxDataInProgress (s : Substream) (bytes : List UInt8) :
    (s.appendAux bytes).auxDataInProgress = s.auxDataInProgress ++ bytes := rfl

@[simp]
theorem appendAux_auxDataExpectedSize (s : Substream) (bytes : List UInt8) :
    (s.appendAux bytes).auxDataExpectedSize = s.auxDataExpectedSize := rfl

@[simp]
theorem appendAux_nextBufferId (s : Substream) (bytes : List UInt8) :
    (s.appendAux bytes).nextBufferId = s.nextBufferId := rfl

@[simp]
theorem appendPayload_bufferInProgress (s : Substream) (unit : MediaBuffer) (rest : List UInt8) :
    (s.appendPayload unit rest).bufferInProgress = some
      { unit with
        data := unit.data.take s.bufferFilled.toNat ++ rest ++
          unit.data.drop (s.bufferFilled.toNat + rest.length) } := rfl

@[simp]
theorem appendPayload_bufferFilled (s : Substream) (unit : MediaBuffer) (rest : List UInt8) :
    (s.appendPayload unit rest).bufferFilled = s.bufferFilled + UInt32.ofNat rest.length := rfl

@[simp]
theorem appendPayload_expectedBufferSize (s : Substream) (unit : MediaBuffer) (rest : List UInt8) :
    (s.appendPayload unit rest).expectedBufferSize = s.expectedBufferSize := rfl

@[simp]
theorem appendPayload_auxDataInProgress (s : Substream) (unit : MediaBuffer) (rest : List UInt8) :
    (s.appendPayload unit rest).auxDataInProgress = s.auxDataInProgress := rfl

@[simp]
theorem appendPayload_auxDataExpectedSize (s : Substream) (unit : MediaBuffer)
    (rest : List UInt8) :
    (s.appendPayload unit rest).auxDataExpectedSize = s.auxDataExpectedSize := rfl

@[simp]
theorem appendPayload_nextBufferId (s : Substream) (unit : MediaBuffer) (rest : List UInt8) :
    (s.appendPayload unit rest).nextBufferId = s.nextBufferId := rfl

theorem appendPayload_nil {s : Substream} {unit : MediaBuffer}
    (inProgress : s.bufferInProgress = some unit) : s.appendPayload unit [] = s := by
  cases s
  cases inProgress
  simp [appendPayload]

theorem fillPayload_eq {s : Substream} {unit : MediaBuffer} {rest : List UInt8} {amt : UInt32}
    (inProgress : s.bufferInProgress = some unit)
    (filledLt : s.bufferFilled < s.expectedBufferSize)
    (sized : unit.data.length = s.expectedBufferSize.toNat)
    (amtEq : rest.length = amt.toNat) :
    s.fillPayload unit rest amt =
      .ok (if s.expectedBufferSize.toNat - s.bufferFilled.toNat < amt.toNat then
          .done s.cleanupBufferInProgress
        else if amt.toNat = s.expectedBufferSize.toNat - s.bufferFilled.toNat then
          .complete (s.appendPayload unit rest)
        else .done (s.appendPayload unit rest)) := by
  have filledLt' : s.bufferFilled.toNat < s.expectedBufferSize.toNat := filledLt
  have left : (s.expectedBufferSize - s.bufferFilled).toNat =
      s.expectedBufferSize.toNat - s.bufferFilled.toNat := UInt32.toNat_sub_of_le _ _ (show s.bufferFilled ≤ s.expectedBufferSize from Nat.le_of_lt filledLt')
  simp only [fillPayload, filledLt, not_true_eq_false, if_false, uint32_lt_iff, left, bind, Except.bind, pure, Except.pure]
  by_cases over : s.expectedBufferSize.toNat - s.bufferFilled.toNat < amt.toNat
  · simp only [over, if_true]
  · have ofNatAmt : UInt32.ofNat rest.length = amt := UInt32.toNat.inj (by
      rw [amtEq, UInt32.toNat_ofNat_of_lt amt.toNat_lt_size])
    simp only [over, if_false, UInt32.toNat_zero, ge_iff_le, uint32_le_iff]
    by_cases empty : amt.toNat = 0
    · have : rest = [] := List.eq_nil_of_length_eq_zero (amtEq.trans empty)
      subst this
      simp only [empty, lt_irrefl, if_false, appendPayload_nil inProgress,
        show ¬s.expectedBufferSize.toNat ≤ s.bufferFilled.toNat by omega,
        show ¬0 = s.expectedBufferSize.toNat - s.bufferFilled.toNat by omega]
    · have fits : s.bufferFilled.toNat + rest.length ≤ unit.data.length := by omega
      simp only [show 0 < amt.toNat by omega, if_true, MediaBuffer.write_eq_ok fits,
        uint32_toNat_add_of_lt (show s.bufferFilled.toNat + amt.toNat < 2 ^ 32 by
          have := s.expectedBufferSize.toNat_lt_size; simp only [UInt32.size] at this; omega)]
      simp only [appendPayload, ofNatAmt]
      by_cases full : amt.toNat = s.expectedBufferSize.toNat - s.bufferFilled.toNat
      · simp only [full, if_true, show s.expectedBufferSize.toNat ≤
          s.bufferFilled.toNat + (s.expectedBufferSize.toNat - s.bufferFilled.toNat) by omega]
      · simp only [full, if_false, show ¬s.expectedBufferSize.toNat ≤
          s.bufferFilled.toNat + amt.toNat by omega]

/-- `aux_left` of line 370: the aux bytes still expected. -/
def auxLeft (s : Substream) : Nat :=
  s.auxDataExpectedSize.toNat - s.auxDataInProgress.length

/-- `buffer_left` of line 382: the payload bytes still expected. -/
def bufferLeft (s : Substream) : Nat :=
  s.expectedBufferSize.toNat - s.bufferFilled.toNat

theorem fillFromPayloadCont_eq {s : Substream} {unit : MediaBuffer} (buf : Payload)
    (ok : s.status = StatusT.ok) (inProgress : s.bufferInProgress = some unit)
    (auxLe : s.auxDataInProgress.length ≤ s.auxDataExpectedSize.toNat)
    (filledLt : s.bufferFilled < s.expectedBufferSize)
    (sized : unit.data.length = s.expectedBufferSize.toNat) :
    let appended :=
      (s.appendAux (buf.bytes.take s.auxLeft)).appendPayload unit (buf.bytes.drop s.auxLeft)
    s.fillFromPayloadCont buf =
      .ok (if s.auxLeft + s.bufferLeft < buf.bytes.length then .done s.cleanupBufferInProgress
        else if buf.bytes.length = s.auxLeft + s.bufferLeft then .complete appended
        else .done appended) := by
  intro appended
  have auxLeftVal : s.auxLeft = s.auxDataExpectedSize.toNat - s.auxDataInProgress.length := rfl
  have bufferLeftVal : s.bufferLeft = s.expectedBufferSize.toNat - s.bufferFilled.toNat := rfl
  have filledLt' : s.bufferFilled.toNat < s.expectedBufferSize.toNat := filledLt
  have auxLeftEq : (s.auxDataExpectedSize - UInt32.ofNat s.auxDataInProgress.length).toNat =
      s.auxLeft := by
    have small := s.auxDataExpectedSize.toNat_lt_size
    rw [UInt32.toNat_sub_of_le _ _ (show UInt32.ofNat _ ≤ _ from by
      show (UInt32.ofNat _).toNat ≤ _
      rw [UInt32.toNat_ofNat_of_lt (by omega)]; exact auxLe),
      UInt32.toNat_ofNat_of_lt (by omega), auxLeftVal]
  have shouldAbort_false : s.shouldAbort = false := by simp [shouldAbort, ok]
  have amtEq : buf.bytes.length = buf.amt.toNat := buf.amt_toNat.symm
  have bufferLeftPos : 0 < s.bufferLeft := by omega
  simp only [fillFromPayloadCont, shouldAbort_false, Bool.false_eq_true, inProgress, auxLe,
    not_true_eq_false, if_false, bind, Except.bind, pure, Except.pure]
  simp only [← inProgress]
  by_cases noAux : s.auxLeft = 0
  · have : s.auxDataExpectedSize - UInt32.ofNat s.auxDataInProgress.length = 0 :=
      UInt32.toNat.inj (by rw [auxLeftEq, noAux]; rfl)
    simp only [this, ne_eq, not_true_eq_false, if_false, fillPayload_eq inProgress filledLt sized amtEq,
      appended, noAux, List.take_zero, List.drop_zero, appendAux_nil, ← amtEq, zero_add, bufferLeftVal]
  · have auxLeftNe : s.auxDataExpectedSize - UInt32.ofNat s.auxDataInProgress.length ≠ 0 :=
      fun zero => noAux (by rw [← auxLeftEq, zero]; rfl)
    have todoEq := uint32_toNat_min (s.auxDataExpectedSize - UInt32.ofNat s.auxDataInProgress.length) buf.amt
    rw [auxLeftEq, ← amtEq] at todoEq
    have restEq : (buf.amt - min (s.auxDataExpectedSize - UInt32.ofNat s.auxDataInProgress.length) buf.amt).toNat =
        buf.bytes.length - min s.auxLeft buf.bytes.length := by
      rw [UInt32.toNat_sub_of_le _ _ (uint32_le_iff.mpr (by rw [todoEq]; omega)), todoEq, amtEq]
    simp only [auxLeftNe, ne_eq, not_false_eq_true, if_true, todoEq]
    by_cases short : buf.bytes.length ≤ s.auxLeft
    · have : buf.amt - min (s.auxDataExpectedSize - UInt32.ofNat s.auxDataInProgress.length) buf.amt = 0 :=
        UInt32.toNat.inj (by rw [restEq]; simp only [UInt32.toNat_zero]; omega)
      simp only [this, if_true, show ¬s.auxLeft + s.bufferLeft < buf.bytes.length by omega,
        show ¬buf.bytes.length = s.auxLeft + s.bufferLeft by omega, if_false, appended,
        List.drop_eq_nil_of_le short, appendPayload_nil (s := s.appendAux _) inProgress,
        List.take_of_length_le short, List.take_of_length_le (show buf.bytes.length ≤ min s.auxLeft buf.bytes.length by omega)]
      rfl
    · have minEq : min s.auxLeft buf.bytes.length = s.auxLeft := by omega
      rw [minEq] at restEq
      have : buf.amt - min (s.auxDataExpectedSize - UInt32.ofNat s.auxDataInProgress.length) buf.amt ≠ 0 :=
        fun zero => by rw [zero, UInt32.toNat_zero] at restEq; omega
      simp only [this, if_false, minEq]
      show (s.appendAux (buf.bytes.take s.auxLeft)).fillPayload unit (buf.bytes.drop s.auxLeft) _ = _
      rw [fillPayload_eq (s := s.appendAux _) inProgress filledLt sized
        (by rw [List.length_drop, restEq])]
      simp only [appendAux_expectedBufferSize, appendAux_bufferFilled, appendAux_cleanupBufferInProgress, restEq]
      by_cases over : s.auxLeft + s.bufferLeft < buf.bytes.length
      · rw [if_pos over, if_pos (by omega)]
      · by_cases full : buf.bytes.length = s.auxLeft + s.bufferLeft
        · rw [if_neg over, if_pos full, if_neg (by omega), if_pos (by omega)]
        · rw [if_neg over, if_neg full, if_neg (by omega), if_neg (by omega)]

theorem startPayload_eq {s : Substream} {unit : MediaBuffer} {rest : List UInt8}
    {amt : UInt32} (inProgress : s.bufferInProgress = some unit) (empty : s.bufferFilled = 0)
    (sized : unit.data.length = s.expectedBufferSize.toNat)
    (nonzero : 0 < s.expectedBufferSize.toNat) (amtEq : rest.length = amt.toNat)
    (fits : rest.length ≤ s.expectedBufferSize.toNat) :
    s.startPayload unit rest amt =
      .ok (if rest.length = s.expectedBufferSize.toNat then .complete (s.appendPayload unit rest)
        else .done (s.appendPayload unit rest)) := by
  have todoEq := uint32_toNat_min s.expectedBufferSize amt
  rw [show min s.expectedBufferSize.toNat amt.toNat = amt.toNat by omega] at todoEq
  simp only [startPayload, bind, Except.bind, pure, Except.pure, uint32_lt_iff, todoEq,
    UInt32.toNat_zero, ge_iff_le, uint32_le_iff]
  by_cases zero : amt.toNat = 0
  · have : rest = [] := List.eq_nil_of_length_eq_zero (amtEq.trans zero)
    subst this
    simp only [zero, lt_irrefl, if_false, appendPayload_nil inProgress, empty, UInt32.toNat_zero,
      show ¬s.expectedBufferSize.toNat ≤ 0 by omega, List.length_nil,
      show ¬0 = s.expectedBufferSize.toNat by omega]
  · have ofNatAmt : UInt32.ofNat rest.length = amt := UInt32.toNat.inj (by
      rw [amtEq, UInt32.toNat_ofNat_of_lt amt.toNat_lt_size])
    simp only [show 0 < rest.length by omega, if_true, ← amtEq, List.take_length,
      MediaBuffer.write_eq_ok (show 0 + rest.length ≤ unit.data.length by omega), appendPayload,
      empty, UInt32.toNat_zero, ofNatAmt, show (0 : UInt32) + amt = amt from UInt32.toNat.inj (by
        rw [UInt32.toNat_add, UInt32.toNat_zero, Nat.zero_add, Nat.mod_eq_of_lt amt.toNat_lt_size]),
      ← amtEq]
    by_cases full : rest.length = s.expectedBufferSize.toNat
    · rw [if_pos (show s.expectedBufferSize.toNat ≤ rest.length by omega), if_pos full]
    · rw [if_neg (show ¬s.expectedBufferSize.toNat ≤ rest.length by omega), if_neg full]

theorem startBuffer_allocated_eq {s : Substream} {buf : Payload} {header : AudioHeader}
    {trtpHeaderLen : UInt32} (headerFits : trtpHeaderLen.toNat ≤ buf.bytes.length)
    (sized : 0 < s.expectedBufferSize.toNat)
    (fits : buf.bytes.length - trtpHeaderLen.toNat ≤
      s.auxDataExpectedSize.toNat + s.expectedBufferSize.toNat) :
    let unit : MediaBuffer :=
      { id := s.nextBufferId
        data := List.replicate s.expectedBufferSize.toNat 0
        meta :=
          { mimeType := some s.codecMimeType
            time := if header.tsValid then some header.ts else none } }
    let filled :=
      ({ s with
        bufferFilled := 0
        bufferInProgress := some unit
        nextBufferId := s.nextBufferId + 1 }.appendAux
          ((buf.bytes.drop trtpHeaderLen.toNat).take s.auxDataExpectedSize.toNat)).appendPayload
        unit ((buf.bytes.drop trtpHeaderLen.toNat).drop s.auxDataExpectedSize.toNat)
    s.startBuffer buf header trtpHeaderLen .allocated =
      .ok (if buf.bytes.length - trtpHeaderLen.toNat =
          s.auxDataExpectedSize.toNat + s.expectedBufferSize.toNat then .complete filled
        else .done filled) := by
  intro unit filled
  simp only [← List.length_drop, startBuffer, bind, Except.bind, pure, Except.pure]
  set rest := buf.bytes.drop trtpHeaderLen.toNat with restDef
  have restLen : (buf.amt - trtpHeaderLen).toNat = rest.length := by
    rw [UInt32.toNat_sub_of_le _ _ (uint32_le_iff.mpr (by rw [Payload.amt_toNat]; exact headerFits)),
      Payload.amt_toNat, restDef, List.length_drop]
  have auxTodo := uint32_toNat_min s.auxDataExpectedSize (buf.amt - trtpHeaderLen)
  rw [restLen] at auxTodo
  have takeEq : rest.take (min s.auxDataExpectedSize.toNat rest.length) =
      rest.take s.auxDataExpectedSize.toNat := List.take_eq_take.mpr (by omega)
  have dropEq : rest.drop (min s.auxDataExpectedSize.toNat rest.length) =
      rest.drop s.auxDataExpectedSize.toNat := by
    by_cases le : s.auxDataExpectedSize.toNat ≤ rest.length
    · rw [Nat.min_eq_left le]
    · rw [Nat.min_eq_right (by omega), List.drop_length, List.drop_eq_nil_of_le (by omega)]
  have restFits : rest.length ≤ s.auxDataExpectedSize.toNat + s.expectedBufferSize.toNat := by
    rw [restDef, List.length_drop]; exact fits
  have payloadFull : rest.length - s.auxDataExpectedSize.toNat = s.expectedBufferSize.toNat ↔
      rest.length = s.auxDataExpectedSize.toNat + s.expectedBufferSize.toNat := by omega
  by_cases copied : min s.auxDataExpectedSize (buf.amt - trtpHeaderLen) ≠ 0
  · rw [if_pos copied]
    refine (startPayload_eq rfl rfl (List.length_replicate _ _) ?_ ?_ ?_).trans ?_
    · exact sized
    · rw [List.length_drop, UInt32.toNat_sub_of_le _ _ (uint32_le_iff.mpr (by omega)), restLen, auxTodo]
    · dsimp only; rw [List.length_drop, auxTodo]; omega
    simp only [auxTodo, takeEq, dropEq, List.length_drop, payloadFull]
    rfl
  · rw [if_neg copied]
    have noCopy : min s.auxDataExpectedSize.toNat rest.length = 0 := by
      rw [← auxTodo, not_not.mp copied]; rfl
    refine (startPayload_eq rfl rfl (List.length_replicate _ _) ?_ restLen.symm ?_).trans ?_
    · exact sized
    · dsimp only; omega
    simp only [filled, ← restDef]
    rcases Nat.min_eq_zero_iff.mp noCopy with noAux | noRest
    · simp only [noAux, List.take_zero, List.drop_zero, zero_add, appendAux_nil]
    · rw [List.eq_nil_of_length_eq_zero noRest]
      simp only [List.take_nil, List.drop_nil, appendAux_nil, List.length_nil,
        show ¬0 = s.expectedBufferSize.toNat by omega,
        show ¬0 = s.auxDataExpectedSize.toNat + s.expectedBufferSize.toNat by omega, if_false]

end Substream

end AahRtp

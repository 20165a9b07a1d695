import AahRtp.Substream.Reassembly

/-!
# Continuations

What a continuation does to a unit in progress in a reachable state: it
discards the unit exactly when it carries more than the aux data and payload
still expected, and otherwise appends all its bytes, aux data first.
-/

namespace AahRtp

namespace Substream

structure ContinuationSpec (platform : Platform) (s : Substream) (unit : MediaBuffer)
    (buf : Payload) (env : CompletionEnv) : Prop where
  discards : s.auxLeft + s.bufferLeft < buf.bytes.length →
    s.processPayloadCont platform buf env = .ok s.cleanupBufferInProgress
  appends : buf.bytes.length ≤ s.auxLeft + s.bufferLeft → ∃ p unit',
    s.fillFromPayloadCont buf = .ok p ∧
    p.state = { s with
      auxDataInProgress := s.auxDataInProgress ++ buf.bytes.take s.auxLeft
      bufferInProgress := some unit'
      bufferFilled := p.state.bufferFilled } ∧
    unit'.id = unit.id ∧ unit'.meta = unit.meta ∧
    p.state.bufferFilled.toNat = s.bufferFilled.toNat + (buf.bytes.length - s.auxLeft) ∧
    unit'.data.take p.state.bufferFilled.toNat =
      unit.data.take s.bufferFilled.toNat ++ buf.bytes.drop s.auxLeft ∧
    unit'.data.drop p.state.bufferFilled.toNat = unit.data.drop p.state.bufferFilled.toNat

theorem processPayloadCont_discards_iff {platform : Platform} {s : Substream}
    {unit : MediaBuffer} (reachable : Reachable platform s) (ok : s.status = StatusT.ok)
    (inProgress : s.bufferInProgress = some unit) (buf : Payload) (env : CompletionEnv) :
    ContinuationSpec platform s unit buf env := by
  have inv := reachable_reassemblyInv reachable
  have sized := inv.size_eq unit inProgress
  have filledLt : s.bufferFilled.toNat < s.expectedBufferSize.toNat := inv.filled_lt unit inProgress
  have filled := fillFromPayloadCont_eq buf ok inProgress (inv.aux_le unit inProgress)
    (inv.filled_lt unit inProgress) sized
  have bufferLeftVal : s.bufferLeft = s.expectedBufferSize.toNat - s.bufferFilled.toNat := rfl
  refine ⟨fun over => ?_, fun fits => ?_⟩
  · simp only [processPayloadCont, filled, if_pos over, bind, Except.bind]
    rfl
  · have stated : ∀ p, s.fillFromPayloadCont buf = .ok p →
        p.state = (s.appendAux (buf.bytes.take s.auxLeft)).appendPayload unit
          (buf.bytes.drop s.auxLeft) := by
      intro p filled'
      rw [filled, if_neg (by omega)] at filled'
      cases filled'
      split <;> rfl
    obtain ⟨p, fillEq⟩ : ∃ p, s.fillFromPayloadCont buf = .ok p := ⟨_, filled⟩
    have rest : (buf.bytes.drop s.auxLeft).length = buf.bytes.length - s.auxLeft :=
      List.length_drop _ _
    have small := s.expectedBufferSize.toNat_lt_size
    have filledEq : p.state.bufferFilled.toNat = s.bufferFilled.toNat + (buf.bytes.length - s.auxLeft) := by
      rw [stated p fillEq, appendPayload_bufferFilled, appendAux_bufferFilled, UInt32.toNat_add,
        UInt32.toNat_ofNat_of_lt (by omega), rest, Nat.mod_eq_of_lt (by omega)]
    refine ⟨p, { unit with
        data := unit.data.take s.bufferFilled.toNat ++ buf.bytes.drop s.auxLeft ++
          unit.data.drop (s.bufferFilled.toNat + (buf.bytes.drop s.auxLeft).length) },
      fillEq, by rw [stated p fillEq]; rfl, rfl, rfl, filledEq, ?_, ?_⟩
    · rw [filledEq, ← rest]
      exact List.take_left' (by simp only [List.length_append, List.length_take]; omega)
    · rw [filledEq, ← rest]
      exact List.drop_left' (by simp only [List.length_append, List.length_take]; omega)

theorem processPayloadCont_discards_iff_afterPartialStart :
    ∃ s unit, Reachable default s ∧ s.status = StatusT.ok ∧ s.bufferInProgress = some unit ∧
      ContinuationSpec default s unit ⟨[3, 4, 5], by decide⟩ {} :=
  ⟨_, _, @reachable_of_run default _ _ [.processPayloadStart mp3PartialStart 0 {}] .new rfl, rfl, rfl,
    processPayloadCont_discards_iff
      (@reachable_of_run default _ _ [.processPayloadStart mp3PartialStart 0 {}] .new rfl) rfl rfl _ _⟩

end Substream

end AahRtp

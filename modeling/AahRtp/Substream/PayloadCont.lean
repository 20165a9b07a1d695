import AahRtp.Substream.PayloadStart

/-!
# Payload continuations

`processPayloadCont` (lines 357-400): the bytes of a continuation go to the
aux data still expected first, then to the access unit (`fillPayload`); a
continuation longer than what is left of both discards the unit.
-/

namespace AahRtp

namespace Substream

/-- Lines 380-397 of `processPayloadCont`: the `amt` bytes `rest` left after
the aux data go to the unit, at `buffer_filled_`. -/
def fillPayload (s : Substream) (unit : MediaBuffer) (rest : List UInt8) (amt : UInt32) :
    Except Fault Progress := do
  if ¬s.bufferFilled < s.expectedBufferSize then throw (.substreamCheck 381)
  let bufferLeft := s.expectedBufferSize - s.bufferFilled
  if amt > bufferLeft then return .done s.cleanupBufferInProgress
  let mut s := s
  if amt > 0 then
    let unit ← unit.write s.bufferFilled.toNat rest
    s := { s with bufferInProgress := some unit, bufferFilled := s.bufferFilled + amt }
  if s.bufferFilled ≥ s.expectedBufferSize then return .complete s
  return .done s

/-- `processPayloadCont` (lines 357-400) up to its call of
`processCompletedBuffer`. -/
def fillFromPayloadCont (s : Substream) (buf : Payload) : Except Fault Progress := do
  if s.shouldAbort then return .done s
  let some unit := s.bufferInProgress | return .done s
  if ¬s.auxDataInProgress.length ≤ s.auxDataExpectedSize.toNat then
    throw (.substreamCheck 369)
  let auxLeft := s.auxDataExpectedSize - UInt32.ofNat s.auxDataInProgress.length
  if auxLeft ≠ 0 then
    let todo := min auxLeft buf.amt
    let s := { s with auxDataInProgress := s.auxDataInProgress ++ buf.bytes.take todo.toNat }
    if buf.amt - todo = 0 then return .done s
    s.fillPayload unit (buf.bytes.drop todo.toNat) (buf.amt - todo)
  else s.fillPayload unit buf.bytes buf.amt

theorem fillPayload_cases {s : Substream} {unit : MediaBuffer} {rest : List UInt8}
    {amt : UInt32} {p : Progress} (inProgress : s.bufferInProgress = some unit)
    (filled : s.fillPayload unit rest amt = .ok p) :
    p.state = s.cleanupBufferInProgress ∨
      (p.state.bufferInProgress.map MediaBuffer.id = some unit.id ∧
        p.state = { s with
          bufferInProgress := p.state.bufferInProgress
          bufferFilled := p.state.bufferFilled }) := by
  unfold fillPayload at filled
  simp only [bind, Except.bind, pure, Except.pure] at filled
  repeat' split at filled
  all_goals cases filled
  all_goals first
    | exact .inl rfl
    | exact .inr ⟨congrArg (Option.map MediaBuffer.id) inProgress, rfl⟩
    | exact .inr ⟨congrArg some (MediaBuffer.write_id ‹_›), rfl⟩

theorem fillFromPayloadCont_cases {s : Substream} {buf : Payload} {p : Progress}
    (filled : s.fillFromPayloadCont buf = .ok p) :
    p.state = s.cleanupBufferInProgress ∨
      (p.state.bufferInProgress.map MediaBuffer.id = s.bufferInProgress.map MediaBuffer.id ∧
        p.state = { s with
          bufferInProgress := p.state.bufferInProgress
          bufferFilled := p.state.bufferFilled
          auxDataInProgress := p.state.auxDataInProgress }) := by
  unfold fillFromPayloadCont at filled
  simp only [bind, Except.bind, pure, Except.pure] at filled
  repeat' split at filled
  all_goals first
    | (cases filled <;> exact .inr ⟨rfl, rfl⟩)
    | (rcases fillPayload_cases (by assumption) filled with cleaned | ⟨kept, framed⟩
       · exact .inl cleaned
       · refine .inr ⟨?_, by rw [framed]⟩
         rw [kept, ‹s.bufferInProgress = some _›]
         rfl)

/-- `processPayloadCont` (lines 357-400). -/
def processPayloadCont (platform : Platform) (s : Substream) (buf : Payload)
    (env : CompletionEnv) : Except Fault Substream := do
  (← s.fillFromPayloadCont buf).finish platform env

end Substream

end AahRtp

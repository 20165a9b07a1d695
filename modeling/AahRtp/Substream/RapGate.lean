import AahRtp.Substream.SplitDelivery

/-!
# The random-access-point gate

`waiting_for_rap_` is written in one place only: `cleanupBufferInProgress`
sets it (line 80), and so does every path that resets the reassembly through
it (completion, an overflowing continuation, an aborted unit, a failed
allocation, `shutdown`). Nothing clears it, not even a payload start that
passes the gate at lines 246-249. A new substream starts with it set, so it is
set in every reachable state (`reachable_waitingForRap`), and every payload
start whose header lacks the `RANDOM_ACCESS_POINT` flag is dropped
(`processPayloadStart_drops_nonRap`), however many flagged starts passed
before it (`run_emptyRapStart_then_nonRapStart`).
-/

namespace AahRtp

namespace Substream

theorem abortBufferInProgress_waitingForRap {s : Substream} (armed : s.waitingForRap = true) :
    s.abortBufferInProgress.waitingForRap = true := by
  rcases s.abortBufferInProgress_cases with cleaned | ⟨-, same⟩
  · rw [cleaned]; rfl
  · rw [same]; exact armed

theorem fillFromPayloadStart_waitingForRap {s : Substream} {buf : Payload} {tsLower : BitVec 32}
    {allocation : Allocation} {p : Progress} (armed : s.waitingForRap = true)
    (filled : s.fillFromPayloadStart buf tsLower allocation = .ok p) :
    p.state.waitingForRap = true := by
  simp only [fillFromPayloadStart, bind, Except.bind, pure, Except.pure] at filled
  split at filled
  · cases filled
  · rename_i c checked
    have kept : c.state.waitingForRap = true := by
      obtain ⟨c', checked', framed, -⟩ := s.checkPayloadStart_frame buf tsLower
      rw [checked] at checked'
      cases checked'
      rcases framed with ⟨-, rfl⟩ | ⟨-, frame⟩
      · exact armed
      · rw [frame.waitingForRap]; exact abortBufferInProgress_waitingForRap armed
    cases c with
    | dropped t => cases filled; exact kept
    | accepted t header trtpHeaderLen =>
        cases allocation with
        | nullBuffer | nullData | nullMeta => cases filled; rfl
        | allocated =>
            simp only [startBuffer] at filled
            split at filled <;> rw [(startPayload_cases rfl filled).2] <;> exact kept

theorem fillFromPayloadCont_waitingForRap {s : Substream} {buf : Payload} {p : Progress}
    (armed : s.waitingForRap = true) (filled : s.fillFromPayloadCont buf = .ok p) :
    p.state.waitingForRap = true := by
  rcases fillFromPayloadCont_cases filled with cleaned | ⟨-, framed⟩
  · rw [cleaned]; rfl
  · rw [framed]; exact armed

theorem Progress.finish_waitingForRap {platform : Platform} {env : CompletionEnv} {p : Progress}
    {s' : Substream} (armed : p.state.waitingForRap = true) (finished : p.finish platform env = .ok s') :
    s'.waitingForRap = true := by
  cases p with
  | done t => cases finished; exact armed
  | complete t =>
      obtain ⟨u, rfl⟩ := processCompletedBuffer_eq_cleanup finished
      rfl

theorem step_keeps_gate {platform : Platform} {s s' : Substream} {op : SubstreamOp}
    (armed : s.waitingForRap = true) (stepped : s.step platform op = .ok s') :
    s'.waitingForRap = true := by
  cases op with
  | processPayloadStart buf tsLower env =>
      simp only [step, processPayloadStart, bind, Except.bind] at stepped
      split at stepped
      · cases stepped
      · exact Progress.finish_waitingForRap (fillFromPayloadStart_waitingForRap armed ‹_›) stepped
  | processPayloadCont buf env =>
      simp only [step, processPayloadCont, bind, Except.bind] at stepped
      split at stepped
      · cases stepped
      · exact Progress.finish_waitingForRap (fillFromPayloadCont_waitingForRap armed ‹_›) stepped
  | cleanupBufferInProgress | shutdown => cases stepped; rfl
  | processTSTransform trans => cases stepped; exact armed
  | worker action =>
      simp only [step, bind, Except.bind] at stepped
      split at stepped
      · cases stepped
      · cases stepped; exact armed

theorem reachable_waitingForRap {platform : Platform} {s : Substream}
    (reachable : Reachable platform s) : s.waitingForRap = true := by
  induction reachable with
  | new => rfl
  | step _ stepped inductionHypothesis => exact step_keeps_gate inductionHypothesis stepped

/-- In every reachable state, a payload start whose header lacks the
`RANDOM_ACCESS_POINT` flag is dropped by the checks: `processPayloadStart`
returns with no unit allocated. -/
theorem processPayloadStart_drops_nonRap {platform : Platform} {s : Substream}
    (reachable : Reachable platform s) (buf : Payload) (tsLower : BitVec 32) (env : StartEnv)
    {header : AudioHeader}
    (parsed : s.abortBufferInProgress.parseAudioHeader buf tsLower = .ok (some header))
    (nonRap : header.flags &&& TRTPAudioPacket.kFlagRandomAccessPoint = 0) :
    ∃ t, s.checkPayloadStart buf tsLower = .ok (.dropped t) ∧
      s.processPayloadStart platform buf tsLower env = .ok t ∧ t.nextBufferId = s.nextBufferId := by
  have armed := reachable_waitingForRap reachable
  suffices dropped : ∃ t, s.checkPayloadStart buf tsLower = .ok (.dropped t) ∧
      t.nextBufferId = s.nextBufferId by
    obtain ⟨t, checked, ids⟩ := dropped
    exact ⟨t, checked, by simp [processPayloadStart, fillFromPayloadStart, checked, bind,
      Except.bind, pure, Except.pure, Progress.finish], ids⟩
  by_cases abort : s.shouldAbort
  · exact ⟨s, by simp [checkPayloadStart, abort, pure, Except.pure], rfl⟩
  have admitted := admitHeader_snd_of_waiting (abortBufferInProgress_waitingForRap armed) nonRap
  refine ⟨(s.abortBufferInProgress.admitHeader header).1, by simp [checkPayloadStart, abort,
    parsed, admitted, bind, Except.bind, pure, Except.pure], ?_⟩
  rcases s.abortBufferInProgress.admitHeader_fst header with same | typed
  · rw [same, abortBufferInProgress_nextBufferId]
  · rw [typed]; exact abortBufferInProgress_nextBufferId s

/-- An MP3 payload start flagged as a random access point whose TRTP length is
its header's: its unit is empty. -/
def mp3EmptyRapStart : Payload :=
  ⟨[0x01, 0x10, 0, 0, 0, 9, 3, 0x08, 0xFF], by decide⟩

/-- An MP3 payload start carrying a whole 4-byte unit, without the random
access point flag. -/
def mp3NonRapStart : Payload :=
  ⟨[0x01, 0x10, 0, 0, 0, 13, 3, 0x00, 0xFF, 1, 2, 3, 4], by decide⟩

/-- `mp3EmptyRapStart` gets past the gate and is dropped at line 292 for its
empty unit, which resets nothing; the unflagged `mp3NonRapStart` right after it
is still dropped by the gate, where with the gate cleared it is accepted. -/
theorem run_emptyRapStart_then_nonRapStart :
    ∃ s, Substream.new.run default [.processPayloadStart mp3EmptyRapStart 0 {}] = .ok s ∧
      (∃ header, Substream.new.parseAudioHeader mp3EmptyRapStart 0 = .ok (some header) ∧
        (Substream.new.admitHeader header).2 = true) ∧
      Substream.new.checkPayloadStart mp3EmptyRapStart 0 = .ok (.dropped s) ∧
      s.expectedBufferSize = 0 ∧
      (∃ t, s.checkPayloadStart mp3NonRapStart 0 = .ok (.dropped t) ∧
        s.processPayloadStart default mp3NonRapStart 0 {} = .ok t ∧
        t.nextBufferId = s.nextBufferId) ∧
      ∃ t header trtpHeaderLen,
        { s with waitingForRap := false }.checkPayloadStart mp3NonRapStart 0 =
          .ok (.accepted t header trtpHeaderLen) :=
  ⟨_, rfl, ⟨_, rfl, rfl⟩, rfl, rfl,
    processPayloadStart_drops_nonRap
      (@reachable_of_run default Substream.new _ [.processPayloadStart mp3EmptyRapStart 0 {}] .new rfl)
      mp3NonRapStart 0 {} rfl (by decide),
    ⟨_, _, _, rfl⟩⟩

end Substream

end AahRtp

import AahRtp.Substream.Ownership
import AahRtp.Substream.UnitMeta

/-!
# Units reach the decoder in the order they were allocated

A payload start gives its unit the next id (`nextBufferId`), so ids record the
order in which the substream accepted fragment starts. The units allocated and
not yet released sit, in the order the decoder gets them, in the pump's record
of what `read` handed over, then in its queue, then in the in-progress slot
(`decodeOrder`). Every operation keeps that list a sublist of the old one
followed by the ids allocated in between (`KeepsOrder`, `step_keepsOrder`): a
unit only moves forward, from the slot to the back of the queue and from the
front of the queue to the decoder, or is released.

From a new substream the list is therefore strictly increasing and below
`nextBufferId` (`reachable_decodesInOrder`): across format changes, pump
shutdowns and refused enqueues, the decoder gets units in the order their
fragment starts were accepted, none of them twice, and every unit still waiting
comes after every unit it already got.
-/

namespace AahRtp

open scoped List

namespace DecoderPump

def decodeOrder (pump : DecoderPump) : List Nat :=
  pump.handed ++ pump.inQueue.map MediaBuffer.id

@[simp]
theorem decodeOrder_setRenderVolume (pump : DecoderPump) (volume : UInt8) :
    (pump.setRenderVolume volume).decodeOrder = pump.decodeOrder := by
  simp [decodeOrder]

@[simp]
theorem decodeOrder_setRenderTSTransform (pump : DecoderPump) (trans : LinearTransform) :
    (pump.setRenderTSTransform trans).decodeOrder = pump.decodeOrder := by
  simp [decodeOrder]

theorem decodeOrder_shutdownL (pump : DecoderPump) :
    pump.shutdownL.decodeOrder <+ pump.decodeOrder := by
  simp only [decodeOrder, shutdownL_handed, shutdownL_inQueue, List.map_nil, List.append_nil]
  exact List.sublist_append_left _ _

theorem decodeOrder_workerStep {pump pump' : DecoderPump} {action : WorkerAction}
    (stepped : pump.workerStep action = .ok pump') : pump'.decodeOrder = pump.decodeOrder :=
  (workerStep_intake stepped).2.2.2.2

theorem decodeOrder_runWorker {pump pump' : DecoderPump} {actions : List WorkerAction}
    (ran : pump.runWorker actions = .ok pump') : pump'.decodeOrder = pump.decodeOrder :=
  (runWorker_intake ran).2.2.2.2

theorem decodeOrder_init {pump pump' : DecoderPump} {params : Option MetaData}
    {codecCreated : Bool} {threadCreated res : StatusT}
    (inited : pump.init params codecCreated threadCreated = .ok (pump', res)) :
    pump'.decodeOrder = pump.decodeOrder := by
  obtain ⟨queue, handed, -⟩ := init_queue inited
  rw [decodeOrder, decodeOrder, queue, handed]

end DecoderPump

namespace Substream

def decodeOrder (s : Substream) : List Nat :=
  s.decoder.decodeOrder ++ (s.bufferInProgress.map MediaBuffer.id).toList

structure KeepsOrder (s t : Substream) : Prop where
  next_le : s.nextBufferId ≤ t.nextBufferId
  sublist : t.decodeOrder <+
    s.decodeOrder ++ List.range' s.nextBufferId (t.nextBufferId - s.nextBufferId)

namespace KeepsOrder

theorem refl (s : Substream) : KeepsOrder s s :=
  ⟨le_rfl, by simp⟩

theorem trans {s t u : Substream} (first : KeepsOrder s t) (second : KeepsOrder t u) :
    KeepsOrder s u := by
  refine ⟨first.next_le.trans second.next_le, ?_⟩
  calc u.decodeOrder
      <+ t.decodeOrder ++ List.range' t.nextBufferId (u.nextBufferId - t.nextBufferId) :=
        second.sublist
    _ <+ s.decodeOrder ++ List.range' s.nextBufferId (t.nextBufferId - s.nextBufferId) ++
          List.range' t.nextBufferId (u.nextBufferId - t.nextBufferId) :=
        first.sublist.append_right _
    _ = s.decodeOrder ++ List.range' s.nextBufferId (u.nextBufferId - s.nextBufferId) := by
        rw [List.append_assoc, range'_append_sub first.next_le second.next_le]

theorem of_sublist {s t : Substream} (next : t.nextBufferId = s.nextBufferId)
    (sub : t.decodeOrder <+ s.decodeOrder) : KeepsOrder s t :=
  ⟨next.ge, by rw [next, Nat.sub_self, List.range'_zero, List.append_nil]; exact sub⟩

theorem of_pump {s t : Substream}
    (slot : t.bufferInProgress.map MediaBuffer.id = s.bufferInProgress.map MediaBuffer.id)
    (next : t.nextBufferId = s.nextBufferId) (pump : t.decoder.decodeOrder <+ s.decoder.decodeOrder) :
    KeepsOrder s t :=
  of_sublist next (by rw [decodeOrder, decodeOrder, slot]; exact pump.append_right _)

theorem allocate {s t : Substream} (idle : s.bufferInProgress = none)
    (slot : t.bufferInProgress.map MediaBuffer.id = some s.nextBufferId)
    (next : t.nextBufferId = s.nextBufferId + 1)
    (pump : t.decoder.decodeOrder = s.decoder.decodeOrder) : KeepsOrder s t := by
  refine ⟨by omega, ?_⟩
  simp only [decodeOrder, slot, idle, pump, next, Nat.add_sub_cancel_left, List.range'_one,
    Option.map_none', Option.toList_none, Option.toList_some, List.append_nil]
  exact .refl _

end KeepsOrder

theorem keepsOrder_cleanupBufferInProgress (s : Substream) :
    KeepsOrder s s.cleanupBufferInProgress := by
  refine KeepsOrder.of_sublist rfl ?_
  simp only [decodeOrder, cleanupBufferInProgress_decoder, cleanupBufferInProgress_bufferInProgress,
    Option.map_none', Option.toList_none, List.append_nil]
  exact List.sublist_append_left _ _

theorem keepsOrder_abortBufferInProgress (s : Substream) :
    KeepsOrder s s.abortBufferInProgress := by
  rcases s.abortBufferInProgress_cases with cleaned | ⟨-, same⟩
  · rw [cleaned]; exact keepsOrder_cleanupBufferInProgress s
  · rw [same]; exact KeepsOrder.refl s

end Substream

theorem StartFrame.keepsOrder {s t : Substream} (frame : StartFrame s t) : s.KeepsOrder t := by
  refine Substream.KeepsOrder.of_pump (by rw [frame.bufferInProgress]) frame.nextBufferId ?_
  rcases frame.decoder with same | ⟨volume, set⟩
  · rw [same]
  · rw [set, DecoderPump.decodeOrder_setRenderVolume]

namespace Substream

theorem checkPayloadStart_keepsOrder {s : Substream} {buf : Payload} {tsLower : BitVec 32}
    {c : StartCheck} (checked : s.checkPayloadStart buf tsLower = .ok c) :
    KeepsOrder s c.state ∧ ∀ t header trtpHeaderLen, c = .accepted t header trtpHeaderLen →
      t.bufferInProgress = none := by
  obtain ⟨c', checked', framed, -⟩ := s.checkPayloadStart_frame buf tsLower
  rw [checked] at checked'
  cases checked'
  rcases framed with ⟨-, rfl⟩ | ⟨-, frame⟩
  · exact ⟨KeepsOrder.refl s, by intros; contradiction⟩
  · refine ⟨(keepsOrder_abortBufferInProgress s).trans frame.keepsOrder, ?_⟩
    rintro t header trtpHeaderLen rfl
    exact frame.bufferInProgress.trans (abortBufferInProgress_bufferInProgress s)

theorem startPayload_keepsOrder {s : Substream} {unit : MediaBuffer} {rest : List UInt8}
    {amt : UInt32} {p : Progress} (inProgress : s.bufferInProgress = some unit)
    (started : s.startPayload unit rest amt = .ok p) : KeepsOrder s p.state := by
  obtain ⟨slot, framed⟩ := startPayload_cases inProgress started
  exact KeepsOrder.of_pump (by rw [slot, inProgress]; rfl) (by rw [framed]) (by rw [framed])

theorem startBuffer_keepsOrder {s : Substream} {buf : Payload} {header : AudioHeader}
    {trtpHeaderLen : UInt32} {allocation : Allocation} {p : Progress}
    (idle : s.bufferInProgress = none)
    (started : s.startBuffer buf header trtpHeaderLen allocation = .ok p) :
    KeepsOrder s p.state := by
  cases allocation with
  | nullBuffer =>
      cases started
      exact (KeepsOrder.of_sublist rfl (.refl _)).trans (keepsOrder_cleanupBufferInProgress _)
  | nullData | nullMeta =>
      cases started
      refine (KeepsOrder.allocate idle ?_ ?_ ?_).trans (keepsOrder_cleanupBufferInProgress _)
      all_goals rfl
  | allocated =>
      simp only [startBuffer] at started
      split at started <;>
        refine (KeepsOrder.allocate idle ?_ ?_ ?_).trans (startPayload_keepsOrder rfl started) <;>
        rfl

theorem fillFromPayloadStart_keepsOrder {s : Substream} {buf : Payload} {tsLower : BitVec 32}
    {allocation : Allocation} {p : Progress}
    (filled : s.fillFromPayloadStart buf tsLower allocation = .ok p) : KeepsOrder s p.state := by
  simp only [fillFromPayloadStart, bind, Except.bind, pure, Except.pure] at filled
  split at filled
  · cases filled
  · rename_i c checked
    obtain ⟨kept, idle⟩ := checkPayloadStart_keepsOrder checked
    cases c with
    | dropped t => cases filled; exact kept
    | accepted t header trtpHeaderLen =>
        exact kept.trans (startBuffer_keepsOrder (idle t header trtpHeaderLen rfl) filled)

theorem fillFromPayloadCont_keepsOrder {s : Substream} {buf : Payload} {p : Progress}
    (filled : s.fillFromPayloadCont buf = .ok p) : KeepsOrder s p.state := by
  rcases fillFromPayloadCont_cases filled with cleaned | ⟨slot, framed⟩
  · rw [cleaned]; exact keepsOrder_cleanupBufferInProgress s
  · exact KeepsOrder.of_pump slot (by rw [framed]) (by rw [framed])

theorem keepsOrder_cleanupDecoder (s : Substream) : KeepsOrder s s.cleanupDecoder :=
  KeepsOrder.of_pump rfl rfl (DecoderPump.decodeOrder_shutdownL _)

theorem completionStage_keepsOrder {platform : Platform} {s : Substream} {env : CompletionEnv}
    {stage : CompletionStage} (staged : s.completionStage platform env = .ok stage) :
    KeepsOrder s stage.state := by
  simp only [completionStage, bind, Except.bind, pure, Except.pure] at staged
  split at staged
  · split at staged
    · cases staged
    · rename_i derivedResult derived
      obtain ⟨t, ready⟩ := derivedResult
      obtain ⟨framed, decoder⟩ := setupSubstreamMeta_frame derived
      have derivedKeeps : KeepsOrder s t := by
        refine KeepsOrder.of_pump (by rw [framed]) (by rw [framed]) ?_
        rcases decoder with same | shut
        · rw [same]
        · rw [shut]; exact DecoderPump.decodeOrder_shutdownL _
      dsimp only at staged
      split at staged
      · cases staged; exact derivedKeeps
      split at staged
      · cases staged
      rename_i initResult inited
      obtain ⟨decoder, res⟩ := initResult
      have initKeeps : KeepsOrder t { t with decoder } :=
        KeepsOrder.of_pump rfl rfl (DecoderPump.decodeOrder_init inited ▸ .refl _)
      dsimp only at staged
      split at staged
      · cases staged
        exact derivedKeeps.trans (initKeeps.trans (KeepsOrder.of_pump rfl rfl
          (DecoderPump.decodeOrder_shutdownL _)))
      split at staged
      · cases staged
      · cases staged
        exact derivedKeeps.trans (initKeeps.trans (KeepsOrder.of_pump rfl rfl
          (DecoderPump.decodeOrder_runWorker ‹_› ▸ .refl _)))
  · cases staged

theorem enqueueCompletedBuffer_keepsOrder (s : Substream) :
    KeepsOrder s s.enqueueCompletedBuffer := by
  unfold enqueueCompletedBuffer
  rcases DecoderPump.queueForDecode_cases s.decoder s.bufferInProgress with
    ⟨failed, same⟩ | ⟨unit, inProgress, queued⟩
  · generalize s.decoder.queueForDecode s.bufferInProgress = result at failed same
    obtain ⟨decoder, res⟩ := result
    dsimp only at failed same ⊢
    subst same
    rw [if_pos failed]
    have refused : KeepsOrder s { s with status := res }.cleanupDecoder.cleanupBufferInProgress :=
      ((KeepsOrder.of_sublist rfl (.refl _) : KeepsOrder s { s with status := res }).trans
        (keepsOrder_cleanupDecoder _)).trans (keepsOrder_cleanupBufferInProgress _)
    exact (refused.trans (KeepsOrder.of_sublist rfl (by simp [decodeOrder]))).trans
      (keepsOrder_cleanupBufferInProgress _)
  · rw [queued]
    dsimp only
    rw [if_neg (not_not.mpr rfl)]
    have handed : KeepsOrder s { s with
        decoder := { s.decoder with inQueue := s.decoder.inQueue ++ [unit] }
        bufferInProgress := none } :=
      KeepsOrder.of_sublist rfl (by simp [decodeOrder, DecoderPump.decodeOrder, inProgress])
    exact handed.trans (keepsOrder_cleanupBufferInProgress _)

theorem processCompletedBuffer_keepsOrder {platform : Platform} {s s' : Substream}
    {env : CompletionEnv} (completed : s.processCompletedBuffer platform env = .ok s') :
    KeepsOrder s s' := by
  simp only [processCompletedBuffer, bind, Except.bind, pure, Except.pure] at completed
  split at completed
  · cases completed
  · rename_i stage staged
    have staged := completionStage_keepsOrder staged
    cases stage with
    | bailout t => cases completed; exact staged.trans (keepsOrder_cleanupBufferInProgress t)
    | enqueue t => cases completed; exact staged.trans (enqueueCompletedBuffer_keepsOrder t)

theorem Progress.finish_keepsOrder {platform : Platform} {env : CompletionEnv} {p : Progress}
    {s' : Substream} (finished : p.finish platform env = .ok s') : KeepsOrder p.state s' := by
  cases p with
  | done t => cases finished; exact KeepsOrder.refl _
  | complete t => exact processCompletedBuffer_keepsOrder finished

theorem step_keepsOrder {platform : Platform} {s s' : Substream} {op : SubstreamOp}
    (stepped : s.step platform op = .ok s') : KeepsOrder s s' := by
  cases op with
  | processPayloadStart buf tsLower env =>
      simp only [step, processPayloadStart, bind, Except.bind] at stepped
      split at stepped
      · cases stepped
      · exact (fillFromPayloadStart_keepsOrder ‹_›).trans (Progress.finish_keepsOrder stepped)
  | processPayloadCont buf env =>
      simp only [step, processPayloadCont, bind, Except.bind] at stepped
      split at stepped
      · cases stepped
      · exact (fillFromPayloadCont_keepsOrder ‹_›).trans (Progress.finish_keepsOrder stepped)
  | cleanupBufferInProgress => cases stepped; exact keepsOrder_cleanupBufferInProgress s
  | processTSTransform trans =>
      cases stepped
      exact KeepsOrder.of_pump rfl rfl (by simp [processTSTransform])
  | shutdown =>
      cases stepped
      exact ((KeepsOrder.of_sublist rfl (.refl _) :
        KeepsOrder s { s with substreamMeta := none, status := StatusT.ok }).trans
          (keepsOrder_cleanupBufferInProgress _)).trans (keepsOrder_cleanupDecoder _)
  | worker action =>
      simp only [step, bind, Except.bind, pure, Except.pure] at stepped
      split at stepped
      · cases stepped
      · cases stepped
        exact KeepsOrder.of_pump rfl rfl (DecoderPump.decodeOrder_workerStep ‹_› ▸ .refl _)

theorem reachable_keepsOrder {platform : Platform} {s : Substream}
    (reachable : Reachable platform s) : KeepsOrder Substream.new s := by
  induction reachable with
  | new => exact KeepsOrder.refl _
  | step _ stepped inductionHypothesis => exact inductionHypothesis.trans (step_keepsOrder stepped)

theorem sorted_append_range' {ids : List Nat} {next : Nat}
    (sorted : (ids ++ [next]).Sorted (· < ·)) (count : Nat) :
    (ids ++ List.range' next (count + 1)).Sorted (· < ·) := by
  simp only [List.Sorted, List.pairwise_append, List.mem_singleton, forall_eq,
    List.pairwise_singleton, true_and] at sorted ⊢
  refine ⟨sorted.1, List.pairwise_lt_range' next (count + 1), fun id held later laterHeld => ?_⟩
  have := (List.mem_range'_1.mp laterHeld).1
  exact lt_of_lt_of_le (sorted.2 id held) this

theorem KeepsOrder.sorted {s t : Substream} (keeps : KeepsOrder s t)
    (sorted : (s.decodeOrder ++ [s.nextBufferId]).Sorted (· < ·)) :
    (t.decodeOrder ++ [t.nextBufferId]).Sorted (· < ·) := by
  have next : t.nextBufferId = s.nextBufferId + (t.nextBufferId - s.nextBufferId) := by
    have := keeps.next_le
    omega
  have sub : t.decodeOrder ++ [t.nextBufferId] <+
      s.decodeOrder ++ List.range' s.nextBufferId (t.nextBufferId - s.nextBufferId + 1) := by
    rw [List.range'_concat, Nat.one_mul, ← next, ← List.append_assoc]
    exact keeps.sublist.append_right _
  exact (sorted_append_range' sorted _).sublist sub

/-- In every state a run of a substream reaches: the units its pump handed to the
decoder, then those in the pump's queue, then the unit in progress, have
strictly increasing ids, all below the next id to allocate. Units are allocated
in the order their fragment starts were accepted, so the decoder gets them in
that order and none twice, across format changes, pump shutdowns and refused
enqueues, and every unit still waiting comes after every unit it already got. -/
theorem reachable_decodesInOrder {platform : Platform} {s : Substream}
    (reachable : Reachable platform s) :
    (s.decoder.handed ++ s.decoder.inQueue.map MediaBuffer.id ++
      (s.bufferInProgress.map MediaBuffer.id).toList ++ [s.nextBufferId]).Sorted (· < ·) :=
  (reachable_keepsOrder reachable).sorted (by decide)

def decodeTwoUnits : List SubstreamOp :=
  [.processPayloadStart mp3FrameStart 0 {}, .worker (.start StatusT.ok), .worker .read,
    .processPayloadStart mp3FrameStart 0 {}]

theorem reachable_decodesInOrder_twoUnits :
    ∃ s, Substream.new.run mpeg1Platform decodeTwoUnits = .ok s ∧ s.decoder.handed = [0] ∧
      s.decoder.inQueue.map MediaBuffer.id = [1] ∧
      (s.decoder.handed ++ s.decoder.inQueue.map MediaBuffer.id ++
        (s.bufferInProgress.map MediaBuffer.id).toList ++ [s.nextBufferId]).Sorted (· < ·) :=
  ⟨_, rfl, rfl, rfl, reachable_decodesInOrder
    (@reachable_of_run mpeg1Platform Substream.new _ decodeTwoUnits .new rfl)⟩

end Substream

end AahRtp

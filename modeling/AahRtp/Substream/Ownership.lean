import AahRtp.Substream.StartChecks

/-!
# Buffer ownership

Every `MediaBuffer` a payload start allocates gets the next id, and from then
on sits in exactly one place: the substream's in-progress slot, its release
log, or the pump, which holds it in its queue, has handed it to the decoder
through `read`, or has released it in `shutdown_l`. `owners` lists the ids over
all these places; every operation only moves ids between them, appends the
newly allocated ones, and never takes one back from the pump (`Moves`,
`step_moves`). From a new substream, `owners` is therefore always a permutation
of the ids allocated so far (`reachable_ownershipSafe`).
-/

namespace AahRtp

open scoped List

namespace DecoderPump

def owned (pump : DecoderPump) : List Nat :=
  pump.inQueue.map MediaBuffer.id ++ pump.handed ++ pump.released

@[simp]
theorem owned_setRenderVolume (pump : DecoderPump) (volume : UInt8) :
    (pump.setRenderVolume volume).owned = pump.owned := by
  simp [owned]

@[simp]
theorem owned_setRenderTSTransform (pump : DecoderPump) (trans : LinearTransform) :
    (pump.setRenderTSTransform trans).owned = pump.owned := by
  simp [owned]

theorem owned_shutdownL (pump : DecoderPump) : pump.shutdownL.owned ~ pump.owned := by
  simp only [owned, shutdownL_inQueue, shutdownL_handed, shutdownL_released, List.map_nil,
    List.nil_append, ← List.append_assoc]
  exact List.perm_append_comm.trans (by rw [List.append_assoc])

theorem owned_perm_of_moved {pump pump' : DecoderPump} (released : pump'.released = pump.released)
    (moved : pump'.handed ++ pump'.inQueue.map MediaBuffer.id =
      pump.handed ++ pump.inQueue.map MediaBuffer.id) :
    pump'.owned ~ pump.owned := by
  have swapped : pump'.inQueue.map MediaBuffer.id ++ pump'.handed ~
      pump.inQueue.map MediaBuffer.id ++ pump.handed := by
    refine List.perm_append_comm.trans ?_
    rw [moved]
    exact List.perm_append_comm
  simp only [owned, released]
  exact swapped.append_right _

theorem owned_runWorker {pump pump' : DecoderPump} {actions : List WorkerAction}
    (ran : pump.runWorker actions = .ok pump') : pump'.owned ~ pump.owned := by
  obtain ⟨-, -, -, released, moved⟩ := runWorker_intake ran
  exact owned_perm_of_moved released moved

theorem owned_workerStep {pump pump' : DecoderPump} {action : WorkerAction}
    (stepped : pump.workerStep action = .ok pump') : pump'.owned ~ pump.owned := by
  obtain ⟨-, -, -, released, moved⟩ := workerStep_intake stepped
  exact owned_perm_of_moved released moved

theorem owned_init {pump pump' : DecoderPump} {params : Option MetaData} {codecCreated : Bool}
    {threadCreated res : StatusT}
    (inited : pump.init params codecCreated threadCreated = .ok (pump', res)) :
    pump'.owned = pump.owned := by
  obtain ⟨queue, handed, released⟩ := init_queue inited
  rw [owned, owned, queue, handed, released]

end DecoderPump

namespace Substream

theorem range'_append_sub {a b c : Nat} (ab : a ≤ b) (bc : b ≤ c) :
    List.range' a (b - a) ++ List.range' b (c - b) = List.range' a (c - a) := by
  obtain ⟨k, rfl⟩ := Nat.exists_eq_add_of_le ab
  obtain ⟨m, rfl⟩ := Nat.exists_eq_add_of_le bc
  rw [Nat.add_sub_cancel_left, Nat.add_sub_cancel_left, List.range'_append_1]
  congr 1
  omega

def owners (s : Substream) : List Nat :=
  (s.bufferInProgress.map MediaBuffer.id).toList ++ s.released ++ s.decoder.owned

structure Moves (s t : Substream) : Prop where
  next_le : s.nextBufferId ≤ t.nextBufferId
  owners_perm : t.owners ~ s.owners ++ List.range' s.nextBufferId (t.nextBufferId - s.nextBufferId)
  pumpKeeps : s.decoder.owned ⊆ t.decoder.owned

namespace Moves

theorem refl (s : Substream) : Moves s s :=
  ⟨le_rfl, by simp, List.Subset.refl _⟩

theorem trans {s t u : Substream} (first : Moves s t) (second : Moves t u) : Moves s u := by
  refine ⟨first.next_le.trans second.next_le, ?_, first.pumpKeeps.trans second.pumpKeeps⟩
  calc u.owners
      ~ t.owners ++ List.range' t.nextBufferId (u.nextBufferId - t.nextBufferId) :=
        second.owners_perm
    _ ~ s.owners ++ List.range' s.nextBufferId (t.nextBufferId - s.nextBufferId) ++
          List.range' t.nextBufferId (u.nextBufferId - t.nextBufferId) :=
        first.owners_perm.append_right _
    _ = s.owners ++ List.range' s.nextBufferId (u.nextBufferId - s.nextBufferId) := by
        rw [List.append_assoc, range'_append_sub first.next_le second.next_le]

theorem of_frame {s t : Substream}
    (slot : t.bufferInProgress.map MediaBuffer.id = s.bufferInProgress.map MediaBuffer.id)
    (released : t.released = s.released) (next : t.nextBufferId = s.nextBufferId)
    (pump : t.decoder.owned ~ s.decoder.owned) : Moves s t := by
  refine ⟨next.ge, ?_, pump.symm.subset⟩
  simp only [owners, slot, released, next, Nat.sub_self, List.range'_zero, List.append_nil]
  exact pump.append_left _

theorem allocate {s t : Substream} (idle : s.bufferInProgress = none)
    (slot : t.bufferInProgress.map MediaBuffer.id = some s.nextBufferId)
    (released : t.released = s.released) (next : t.nextBufferId = s.nextBufferId + 1)
    (pump : t.decoder.owned = s.decoder.owned) : Moves s t := by
  refine ⟨by omega, ?_, by rw [pump]; exact List.Subset.refl _⟩
  simp only [owners, slot, idle, released, pump, next, Nat.add_sub_cancel_left,
    List.range'_one, Option.map_none', Option.toList_none, Option.toList_some, List.nil_append]
  rw [List.append_assoc]
  exact List.perm_append_comm

end Moves

theorem moves_cleanupBufferInProgress (s : Substream) : Moves s s.cleanupBufferInProgress := by
  refine ⟨le_rfl, ?_, List.Subset.refl _⟩
  simp only [owners, cleanupBufferInProgress_bufferInProgress, cleanupBufferInProgress_released,
    cleanupBufferInProgress_decoder, cleanupBufferInProgress_nextBufferId, Nat.sub_self,
    List.range'_zero, List.append_nil, Option.map_none', Option.toList_none, List.nil_append]
  exact List.perm_append_comm.append_right _

theorem Moves.handOver {s t : Substream} {unit : MediaBuffer}
    (inProgress : s.bufferInProgress = some unit) (idle : t.bufferInProgress = none)
    (released : t.released = s.released) (next : t.nextBufferId = s.nextBufferId)
    (pump : t.decoder.owned ~ s.decoder.owned ++ [unit.id]) : Moves s t := by
  refine ⟨next.ge, ?_, fun id held => pump.symm.subset (List.mem_append_left _ held)⟩
  simp only [owners, inProgress, idle, released, next, Nat.sub_self, List.range'_zero,
    List.append_nil, Option.map_none', Option.map_some', Option.toList_none, Option.toList_some,
    List.nil_append]
  calc s.released ++ t.decoder.owned
      ~ s.released ++ (s.decoder.owned ++ [unit.id]) := pump.append_left _
    _ ~ [unit.id] ++ s.released ++ s.decoder.owned := by
        rw [← List.append_assoc]
        exact List.perm_append_comm

end Substream

theorem StartFrame.moves {s t : Substream} (frame : StartFrame s t) : s.Moves t := by
  refine Substream.Moves.of_frame (by rw [frame.bufferInProgress]) frame.released
    frame.nextBufferId ?_
  rcases frame.decoder with same | ⟨volume, set⟩
  · rw [same]
  · rw [set, DecoderPump.owned_setRenderVolume]

namespace Substream

theorem moves_abortBufferInProgress (s : Substream) : Moves s s.abortBufferInProgress := by
  rcases s.abortBufferInProgress_cases with cleaned | ⟨-, same⟩
  · rw [cleaned]; exact moves_cleanupBufferInProgress s
  · rw [same]; exact Moves.refl s

theorem checkPayloadStart_moves {s : Substream} {buf : Payload} {tsLower : BitVec 32}
    {c : StartCheck} (checked : s.checkPayloadStart buf tsLower = .ok c) :
    Moves s c.state ∧ ∀ t header trtpHeaderLen, c = .accepted t header trtpHeaderLen →
      t.bufferInProgress = none := by
  obtain ⟨c', checked', framed, -⟩ := s.checkPayloadStart_frame buf tsLower
  rw [checked] at checked'
  cases checked'
  rcases framed with ⟨-, rfl⟩ | ⟨-, frame⟩
  · exact ⟨Moves.refl s, by intros; contradiction⟩
  · refine ⟨(moves_abortBufferInProgress s).trans frame.moves, ?_⟩
    rintro t header trtpHeaderLen rfl
    exact frame.bufferInProgress.trans (abortBufferInProgress_bufferInProgress s)

theorem startPayload_moves {s : Substream} {unit : MediaBuffer} {rest : List UInt8}
    {amt : UInt32} {p : Progress} (inProgress : s.bufferInProgress = some unit)
    (started : s.startPayload unit rest amt = .ok p) : Moves s p.state := by
  obtain ⟨slot, framed⟩ := startPayload_cases inProgress started
  exact Moves.of_frame (by rw [slot, inProgress]; rfl) (by rw [framed]) (by rw [framed])
    (by rw [framed])

theorem startBuffer_moves {s : Substream} {buf : Payload} {header : AudioHeader}
    {trtpHeaderLen : UInt32} {allocation : Allocation} {p : Progress}
    (idle : s.bufferInProgress = none)
    (started : s.startBuffer buf header trtpHeaderLen allocation = .ok p) : Moves s p.state := by
  cases allocation with
  | nullBuffer =>
      cases started
      exact (Moves.of_frame rfl rfl rfl (List.Perm.refl _)).trans (moves_cleanupBufferInProgress _)
  | nullData | nullMeta =>
      cases started
      refine (Moves.allocate idle ?_ ?_ ?_ ?_).trans (moves_cleanupBufferInProgress _)
      all_goals rfl
  | allocated =>
      simp only [startBuffer] at started
      split at started <;>
        refine (Moves.allocate idle ?_ ?_ ?_ ?_).trans (startPayload_moves rfl started) <;> rfl

theorem fillFromPayloadStart_moves {s : Substream} {buf : Payload} {tsLower : BitVec 32}
    {allocation : Allocation} {p : Progress}
    (filled : s.fillFromPayloadStart buf tsLower allocation = .ok p) : Moves s p.state := by
  simp only [fillFromPayloadStart, bind, Except.bind, pure, Except.pure] at filled
  split at filled
  · cases filled
  · rename_i c checked
    obtain ⟨moved, idle⟩ := checkPayloadStart_moves checked
    cases c with
    | dropped t => cases filled; exact moved
    | accepted t header trtpHeaderLen =>
        exact moved.trans (startBuffer_moves (idle t header trtpHeaderLen rfl) filled)

theorem fillFromPayloadCont_moves {s : Substream} {buf : Payload} {p : Progress}
    (filled : s.fillFromPayloadCont buf = .ok p) : Moves s p.state := by
  rcases fillFromPayloadCont_cases filled with cleaned | ⟨slot, framed⟩
  · rw [cleaned]; exact moves_cleanupBufferInProgress s
  · exact Moves.of_frame slot (by rw [framed]) (by rw [framed]) (by rw [framed])

theorem completionStage_moves {platform : Platform} {s : Substream} {env : CompletionEnv}
    {stage : CompletionStage} (staged : s.completionStage platform env = .ok stage) :
    Moves s stage.state := by
  simp only [completionStage, bind, Except.bind, pure, Except.pure] at staged
  split at staged
  · split at staged
    · cases staged
    · rename_i derivedResult derived
      obtain ⟨t, ready⟩ := derivedResult
      obtain ⟨framed, decoder⟩ := setupSubstreamMeta_frame derived
      have derivedMoves : Moves s t := by
        refine Moves.of_frame (by rw [framed]) (by rw [framed]) (by rw [framed]) ?_
        rcases decoder with same | shut
        · rw [same]
        · rw [shut]; exact DecoderPump.owned_shutdownL _
      dsimp only at staged
      split at staged
      · cases staged; exact derivedMoves
      split at staged
      · cases staged
      rename_i initResult inited
      obtain ⟨decoder, res⟩ := initResult
      have initMoves : Moves t { t with decoder } :=
        Moves.of_frame rfl rfl rfl (.of_eq (DecoderPump.owned_init inited))
      dsimp only at staged
      split at staged
      · cases staged
        exact derivedMoves.trans (initMoves.trans (Moves.of_frame rfl rfl rfl
          (DecoderPump.owned_shutdownL _)))
      split at staged
      · cases staged
      · cases staged
        exact derivedMoves.trans (initMoves.trans (Moves.of_frame rfl rfl rfl
          (DecoderPump.owned_runWorker ‹_›)))
  · cases staged

theorem moves_cleanupDecoder (s : Substream) : Moves s s.cleanupDecoder :=
  Moves.of_frame rfl rfl rfl (DecoderPump.owned_shutdownL _)

theorem enqueueCompletedBuffer_moves (s : Substream) : Moves s s.enqueueCompletedBuffer := by
  unfold enqueueCompletedBuffer
  rcases DecoderPump.queueForDecode_cases s.decoder s.bufferInProgress with
    ⟨failed, same⟩ | ⟨unit, inProgress, queued⟩
  · generalize s.decoder.queueForDecode s.bufferInProgress = result at failed same
    obtain ⟨decoder, res⟩ := result
    dsimp only at failed same ⊢
    subst same
    rw [if_pos failed]
    have refused : Moves s { s with status := res }.cleanupDecoder.cleanupBufferInProgress :=
      ((Moves.of_frame rfl rfl rfl (.refl _) : Moves s { s with status := res }).trans
        (moves_cleanupDecoder _)).trans (moves_cleanupBufferInProgress _)
    have emptied : Moves { s with status := res }.cleanupDecoder.cleanupBufferInProgress
        { { s with status := res }.cleanupDecoder.cleanupBufferInProgress with
          bufferInProgress := none } :=
      Moves.of_frame rfl rfl rfl (.refl _)
    exact (refused.trans emptied).trans (moves_cleanupBufferInProgress _)
  · rw [queued]
    dsimp only
    rw [if_neg (not_not.mpr rfl)]
    have handed : Moves s { s with
        decoder := { s.decoder with inQueue := s.decoder.inQueue ++ [unit] }
        bufferInProgress := none } := by
      refine Moves.handOver inProgress rfl rfl rfl ?_
      simp only [DecoderPump.owned, List.map_append, List.map_cons, List.map_nil,
        List.append_assoc]
      exact List.perm_append_comm.append_left _ |>.trans (by simp only [List.append_assoc]; rfl)
    exact handed.trans (moves_cleanupBufferInProgress _)

theorem processCompletedBuffer_moves {platform : Platform} {s s' : Substream}
    {env : CompletionEnv} (completed : s.processCompletedBuffer platform env = .ok s') :
    Moves s s' := by
  simp only [processCompletedBuffer, bind, Except.bind, pure, Except.pure] at completed
  split at completed
  · cases completed
  · rename_i stage staged
    have staged := completionStage_moves staged
    cases stage with
    | bailout t => cases completed; exact staged.trans (moves_cleanupBufferInProgress t)
    | enqueue t => cases completed; exact staged.trans (enqueueCompletedBuffer_moves t)

theorem Progress.finish_moves {platform : Platform} {env : CompletionEnv} {p : Progress}
    {s' : Substream} (finished : p.finish platform env = .ok s') : Moves p.state s' := by
  cases p with
  | done t => cases finished; exact Moves.refl _
  | complete t => exact processCompletedBuffer_moves finished

theorem step_moves {platform : Platform} {s s' : Substream} {op : SubstreamOp}
    (stepped : s.step platform op = .ok s') : Moves s s' := by
  cases op with
  | processPayloadStart buf tsLower env =>
      simp only [step, processPayloadStart, bind, Except.bind] at stepped
      split at stepped
      · cases stepped
      · exact (fillFromPayloadStart_moves ‹_›).trans (Progress.finish_moves stepped)
  | processPayloadCont buf env =>
      simp only [step, processPayloadCont, bind, Except.bind] at stepped
      split at stepped
      · cases stepped
      · exact (fillFromPayloadCont_moves ‹_›).trans (Progress.finish_moves stepped)
  | cleanupBufferInProgress => cases stepped; exact moves_cleanupBufferInProgress s
  | processTSTransform trans =>
      cases stepped
      exact Moves.of_frame rfl rfl rfl (.of_eq (DecoderPump.owned_setRenderTSTransform _ _))
  | shutdown =>
      cases stepped
      exact ((Moves.of_frame rfl rfl rfl (.refl _) :
        Moves s { s with substreamMeta := none, status := StatusT.ok }).trans
          (moves_cleanupBufferInProgress _)).trans (moves_cleanupDecoder _)
  | worker action =>
      simp only [step, bind, Except.bind, pure, Except.pure] at stepped
      split at stepped
      · cases stepped
      · cases stepped
        exact Moves.of_frame rfl rfl rfl (DecoderPump.owned_workerStep ‹_›)

theorem reachable_moves {platform : Platform} {s : Substream}
    (reachable : Reachable platform s) : Moves Substream.new s := by
  induction reachable with
  | new => exact Moves.refl _
  | step _ stepped inductionHypothesis => exact inductionHypothesis.trans (step_moves stepped)

theorem run_moves {platform : Platform} {s s' : Substream} {ops : List SubstreamOp}
    (ran : s.run platform ops = .ok s') : Moves s s' := by
  induction ops generalizing s with
  | nil => cases ran; exact Moves.refl _
  | cons op rest inductionHypothesis =>
      simp only [run, bind, Except.bind] at ran
      split at ran
      · cases ran
      · exact (step_moves ‹_›).trans (inductionHypothesis ran)

theorem reachable_owners_perm {platform : Platform} {s : Substream}
    (reachable : Reachable platform s) : s.owners ~ List.range s.nextBufferId := by
  have moved := (reachable_moves reachable).owners_perm
  rwa [List.range_eq_range']

/-- Buffer ownership in every state a run reaches: every buffer allocated so
far is in exactly one place; a buffer the pump took stays with it in every
later state and is never released by the substream or back in its slot; and
`shutdown` leaves no buffer in the slot or the queue, the substream releasing
the unit in progress and the pump the buffers in its queue. -/
structure OwnershipSafe (platform : Platform) (s : Substream) : Prop where
  exactlyOnce : s.owners ~ List.range s.nextBufferId
  pumpKeeps : ∀ ops s', s.run platform ops = .ok s' → ∀ id ∈ s.decoder.owned,
    id ∈ s'.decoder.owned ∧ id ∉ s'.released ∧
      s'.bufferInProgress.map MediaBuffer.id ≠ some id
  shutdown : s.shutdown.bufferInProgress = none ∧ s.shutdown.decoder.inQueue = [] ∧
    s.shutdown.released = s.released ++ (s.bufferInProgress.map MediaBuffer.id).toList ∧
    s.shutdown.decoder.released = s.decoder.released ++ s.decoder.inQueue.map MediaBuffer.id

theorem reachable_ownershipSafe {platform : Platform} {s : Substream}
    (reachable : Reachable platform s) : OwnershipSafe platform s where
  exactlyOnce := reachable_owners_perm reachable
  pumpKeeps ops s' ran id held := by
    have kept := (run_moves ran).pumpKeeps held
    have unique := (reachable_owners_perm (reachable_of_run reachable ran)).nodup_iff.mpr
      (List.nodup_range _)
    simp only [owners, List.nodup_append, List.disjoint_append_left] at unique
    obtain ⟨-, -, slotApart, releasedApart⟩ := unique
    exact ⟨kept, fun released => releasedApart released kept,
      fun slot => slotApart (by simp [slot]) kept⟩
  shutdown := ⟨rfl, rfl, rfl, DecoderPump.shutdownL_released _⟩

def everyOwnerRun : List SubstreamOp :=
  [.processPayloadStart mp3FrameStart 0 {}, .worker (.start StatusT.ok), .worker .read,
    .processPayloadStart mp3FrameStart 0 {}, .shutdown, .processPayloadStart mp3FrameStart 0 {},
    .processPayloadStart mp3PartialStart 0 {}, .cleanupBufferInProgress,
    .processPayloadStart mp3PartialStart 0 {}]

theorem reachable_ownershipSafe_everyOwner :
    ∃ s, Substream.new.run mpeg1Platform everyOwnerRun = .ok s ∧
      s.bufferInProgress.map MediaBuffer.id = some 4 ∧
      s.decoder.inQueue.map MediaBuffer.id = [2] ∧ s.decoder.handed = [0] ∧
      s.decoder.released = [1] ∧ s.released = [3] ∧ OwnershipSafe mpeg1Platform s :=
  ⟨_, rfl, rfl, rfl, rfl, rfl, rfl,
    reachable_ownershipSafe (@reachable_of_run mpeg1Platform Substream.new _ everyOwnerRun .new rfl)⟩

end Substream

end AahRtp

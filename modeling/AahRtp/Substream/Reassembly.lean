import AahRtp.Substream.Fill

/-!
# The reassembly invariant

In every state a run of a substream reaches, a unit in progress has the size
recorded in `expected_buffer_size_`, is not yet full, has room for the aux data
held so far and has an id already handed out; with no unit in progress, no aux
data is held (`ReassemblyInv`). Every step keeps it, and a unit a step keeps
keeps its size. From it, none of the checks that guard the reassembly fails:
the `CHECK`s at lines 297, 369, 381 and 405, the header reads and the copies
into the unit (`reachable_reassemblySafe`).
-/

namespace AahRtp

/-- A fault of the reassembly: one of the `CHECK`s at lines 297, 369, 381 and
405, a header byte read at or past `amt`, or a copy outside the unit. -/
def Fault.IsReassembly : Fault → Prop
  | .substreamCheck line => line = 297 ∨ line = 369 ∨ line = 381 ∨ line = 405
  | .pumpCheck _ => False
  | .readPastEnd _ _ => True
  | .writePastEnd _ _ _ => True

theorem Fault.IsPump.not_isReassembly {f : Fault} (pump : f.IsPump) : ¬f.IsReassembly := by
  cases f <;> simp_all [Fault.IsPump, Fault.IsReassembly]

theorem StartFrame.idle {s t : Substream} (frame : StartFrame s t)
    (idle : s.bufferInProgress = none) (noAux : s.auxDataInProgress = []) :
    t.bufferInProgress = none ∧ t.auxDataInProgress = [] := by
  refine ⟨frame.bufferInProgress.trans idle, ?_⟩
  rcases frame.aux with cleared | kept
  · exact cleared
  · exact kept.trans noAux

namespace Substream

structure ReassemblyInv (s : Substream) : Prop where
  size_eq : ∀ unit ∈ s.bufferInProgress, unit.data.length = s.expectedBufferSize.toNat
  filled_lt : ∀ unit ∈ s.bufferInProgress, s.bufferFilled < s.expectedBufferSize
  aux_le : ∀ unit ∈ s.bufferInProgress,
    s.auxDataInProgress.length ≤ s.auxDataExpectedSize.toNat
  id_lt : ∀ unit ∈ s.bufferInProgress, unit.id < s.nextBufferId
  aux_nil : s.bufferInProgress = none → s.auxDataInProgress = []

def SizeKept (s t : Substream) : Prop :=
  ∀ unit ∈ s.bufferInProgress, ∀ unit' ∈ t.bufferInProgress, unit'.id = unit.id →
    unit'.data.length = unit.data.length

theorem SizeKept.refl (s : Substream) : SizeKept s s := by
  intro unit mem unit' mem' _
  rw [Option.mem_unique mem mem']

theorem SizeKept.of_idle {s t : Substream} (idle : t.bufferInProgress = none) : SizeKept s t := by
  intro _ _ unit' mem'
  simp [idle] at mem'

theorem ReassemblyInv.of_idle {s : Substream} (idle : s.bufferInProgress = none)
    (noAux : s.auxDataInProgress = []) : ReassemblyInv s :=
  ⟨by simp [idle], by simp [idle], by simp [idle], by simp [idle], fun _ => noAux⟩

theorem reassemblyInv_cleanupBufferInProgress (s : Substream) :
    ReassemblyInv s.cleanupBufferInProgress :=
  .of_idle rfl rfl

theorem ReassemblyInv.withDecoder {s : Substream} (inv : ReassemblyInv s) (decoder : DecoderPump) :
    ReassemblyInv { s with decoder } :=
  ⟨inv.1, inv.2, inv.3, inv.4, inv.5⟩

theorem ReassemblyInv.abortBufferInProgress {s : Substream} (inv : ReassemblyInv s) :
    s.abortBufferInProgress.bufferInProgress = none ∧
      s.abortBufferInProgress.auxDataInProgress = [] := by
  rcases s.abortBufferInProgress_cases with cleaned | ⟨idle, same⟩
  · rw [cleaned]
    exact ⟨rfl, rfl⟩
  · rw [same]
    exact ⟨idle, inv.aux_nil idle⟩

theorem abortBufferInProgress_nextBufferId (s : Substream) :
    s.abortBufferInProgress.nextBufferId = s.nextBufferId := by
  rcases s.abortBufferInProgress_cases with cleaned | ⟨-, same⟩ <;> simp [*]

theorem reassemblyInv_appendPayload {s : Substream} {unit : MediaBuffer} {rest : List UInt8}
    (inProgress : s.bufferInProgress = some unit)
    (sized : unit.data.length = s.expectedBufferSize.toNat)
    (unfilled : s.bufferFilled.toNat + rest.length < s.expectedBufferSize.toNat)
    (auxLe : s.auxDataInProgress.length ≤ s.auxDataExpectedSize.toNat)
    (idLt : unit.id < s.nextBufferId) :
    ReassemblyInv (s.appendPayload unit rest) ∧ SizeKept s (s.appendPayload unit rest) := by
  have small := s.expectedBufferSize.toNat_lt_size
  have filled : (s.bufferFilled + UInt32.ofNat rest.length).toNat =
      s.bufferFilled.toNat + rest.length := by
    rw [UInt32.toNat_add, UInt32.toNat_ofNat_of_lt (by omega), Nat.mod_eq_of_lt (by omega)]
  have length : (unit.data.take s.bufferFilled.toNat ++ rest ++
      unit.data.drop (s.bufferFilled.toNat + rest.length)).length = unit.data.length := by
    simp only [List.length_append, List.length_take, List.length_drop]
    omega
  refine ⟨⟨?_, ?_, ?_, ?_, by simp⟩, ?_⟩
  · simpa using length.trans sized
  · simp only [appendPayload_bufferInProgress, Option.mem_def, Option.some.injEq,
      appendPayload_bufferFilled, appendPayload_expectedBufferSize, forall_eq']
    exact uint32_lt_iff.mpr (by rw [filled]; exact unfilled)
  · simpa using auxLe
  · simpa using idLt
  · intro unit₀ mem unit' mem' _
    simp only [inProgress, Option.mem_def, Option.some.injEq] at mem
    simp only [appendPayload_bufferInProgress, Option.mem_def, Option.some.injEq] at mem'
    rw [← mem', ← mem, length]

end Substream

def Progress.Sound (s : Substream) : Progress → Prop
  | .done t => t.ReassemblyInv ∧ s.SizeKept t
  | .complete t => t.bufferInProgress.isSome

namespace Substream

theorem startBuffer_sound {s t : Substream} {buf : Payload} {header : AudioHeader}
    {trtpHeaderLen : UInt32} (allocation : Allocation) (noAux : t.auxDataInProgress = []) (headerFits : trtpHeaderLen.toNat ≤ buf.bytes.length)
    (sized : 0 < t.expectedBufferSize.toNat)
    (fits : buf.bytes.length - trtpHeaderLen.toNat ≤
      t.auxDataExpectedSize.toNat + t.expectedBufferSize.toNat)
    (older : ∀ unit ∈ s.bufferInProgress, unit.id < t.nextBufferId) :
    ∃ p, t.startBuffer buf header trtpHeaderLen allocation = .ok p ∧ p.Sound s := by
  cases allocation with
  | nullBuffer => exact ⟨_, rfl, reassemblyInv_cleanupBufferInProgress _, .of_idle rfl⟩
  | nullData => exact ⟨_, rfl, reassemblyInv_cleanupBufferInProgress _, .of_idle rfl⟩
  | nullMeta => exact ⟨_, rfl, reassemblyInv_cleanupBufferInProgress _, .of_idle rfl⟩
  | allocated =>
      refine ⟨_, startBuffer_allocated_eq headerFits sized fits, ?_⟩
      split
      · rfl
      · rename_i notFull
        refine ⟨(reassemblyInv_appendPayload rfl ?_ ?_ ?_ ?_).1, fun unit mem unit' mem' same => ?_⟩
        · simp
        · simp only [appendAux_bufferFilled, UInt32.toNat_zero, List.length_drop,
            appendAux_expectedBufferSize]
          omega
        · simp only [appendAux_auxDataInProgress, noAux, List.nil_append, List.length_take,
            appendAux_auxDataExpectedSize]
          omega
        · simp
        · simp only [appendPayload_bufferInProgress, appendAux_bufferInProgress, Option.mem_def,
            Option.some.injEq] at mem'
          have := older unit mem
          rw [← mem'] at same
          simp only at same
          omega

theorem fillFromPayloadStart_sound {s : Substream} (inv : ReassemblyInv s) (buf : Payload)
    (tsLower : BitVec 32) (allocation : Allocation) :
    ∃ p, s.fillFromPayloadStart buf tsLower allocation = .ok p ∧ p.Sound s := by
  obtain ⟨c, checked, framed, accepted⟩ := s.checkPayloadStart_frame buf tsLower
  obtain ⟨idle, noAux⟩ := inv.abortBufferInProgress
  simp only [fillFromPayloadStart, checked, bind, Except.bind, pure, Except.pure]
  cases c with
  | dropped t =>
      rcases framed with ⟨-, ⟨⟩⟩ | ⟨-, frame⟩
      · exact ⟨_, rfl, inv, .refl s⟩
      · obtain ⟨idle', noAux'⟩ := frame.idle idle noAux
        exact ⟨_, rfl, .of_idle idle' noAux', .of_idle idle'⟩
  | accepted t header trtpHeaderLen =>
      rcases framed with ⟨-, ⟨⟩⟩ | ⟨-, frame⟩
      obtain ⟨headerFits, sized, fits⟩ := accepted t header trtpHeaderLen rfl
      refine startBuffer_sound allocation (frame.idle idle noAux).2 headerFits sized fits ?_
      intro unit mem
      rw [show t.nextBufferId = s.nextBufferId from
        frame.nextBufferId.trans (abortBufferInProgress_nextBufferId s)]
      exact inv.id_lt unit mem

theorem fillFromPayloadCont_sound {s : Substream} (inv : ReassemblyInv s) (buf : Payload) :
    ∃ p, s.fillFromPayloadCont buf = .ok p ∧ p.Sound s := by
  by_cases abort : s.shouldAbort
  · exact ⟨.done s, by simp [fillFromPayloadCont, abort, pure, Except.pure], inv, .refl s⟩
  cases inProgress : s.bufferInProgress with
  | none =>
      exact ⟨.done s, by simp [fillFromPayloadCont, abort, inProgress, bind, Except.bind, pure,
        Except.pure], inv,
        .refl s⟩
  | some unit =>
      have ok : s.status = StatusT.ok := by simpa [shouldAbort] using abort
      have auxLe := inv.aux_le unit inProgress
      have filledLt := inv.filled_lt unit inProgress
      have sized := inv.size_eq unit inProgress
      refine ⟨_, fillFromPayloadCont_eq buf ok inProgress auxLe filledLt sized, ?_⟩
      have filledLt' : s.bufferFilled.toNat < s.expectedBufferSize.toNat := filledLt
      have auxLeftVal : s.auxLeft = s.auxDataExpectedSize.toNat - s.auxDataInProgress.length := rfl
      have bufferLeftVal : s.bufferLeft = s.expectedBufferSize.toNat - s.bufferFilled.toNat := rfl
      split_ifs with over full
      · exact ⟨reassemblyInv_cleanupBufferInProgress s, .of_idle rfl⟩
      · rfl
      · exact reassemblyInv_appendPayload inProgress sized
          (by simp only [appendAux_bufferFilled, appendAux_expectedBufferSize, List.length_drop]; omega)
          (by simp only [appendAux_auxDataInProgress, List.length_append, List.length_take,
            appendAux_auxDataExpectedSize]; omega)
          (inv.id_lt unit inProgress)

end Substream

theorem Progress.finish_sound {s : Substream} {p : Progress} (sound : p.Sound s)
    (platform : Platform) (env : CompletionEnv) :
    (∀ f, p.finish platform env = .error f → ¬f.IsReassembly) ∧
      ∀ s', p.finish platform env = .ok s' → s'.ReassemblyInv ∧ s.SizeKept s' := by
  cases p with
  | done t => exact ⟨fun f failed => (by cases failed), fun s' finished => by cases finished; exact sound⟩
  | complete t =>
      refine ⟨fun f failed => ?_, fun s' finished => ?_⟩
      · rcases Substream.processCompletedBuffer_error failed with ⟨idle, -⟩ | rfl | rfl | pump
        · simp [Progress.Sound, idle] at sound
        · simp [Fault.IsReassembly]
        · simp [Fault.IsReassembly]
        · exact pump.not_isReassembly
      · obtain ⟨u, rfl⟩ := Substream.processCompletedBuffer_eq_cleanup finished
        exact ⟨Substream.reassemblyInv_cleanupBufferInProgress u, .of_idle rfl⟩

namespace Substream

theorem step_sound {platform : Platform} {s : Substream} (inv : ReassemblyInv s)
    (op : SubstreamOp) :
    (∀ f, s.step platform op = .error f → ¬f.IsReassembly) ∧
      ∀ s', s.step platform op = .ok s' → s'.ReassemblyInv ∧ s.SizeKept s' := by
  cases op with
  | processPayloadStart buf tsLower env =>
      obtain ⟨p, filled, sound⟩ := fillFromPayloadStart_sound inv buf tsLower env.allocation
      simpa [step, processPayloadStart, filled, bind, Except.bind] using
        Progress.finish_sound sound platform env.completion
  | processPayloadCont buf env =>
      obtain ⟨p, filled, sound⟩ := fillFromPayloadCont_sound inv buf
      simpa [step, processPayloadCont, filled, bind, Except.bind] using
        Progress.finish_sound sound platform env
  | cleanupBufferInProgress =>
      exact ⟨fun f failed => (by cases failed), fun s' stepped => by
        cases stepped; exact ⟨reassemblyInv_cleanupBufferInProgress s, .of_idle rfl⟩⟩
  | processTSTransform transform =>
      exact ⟨fun f failed => (by cases failed), fun s' stepped => by
        cases stepped; exact ⟨inv.withDecoder _, .refl s⟩⟩
  | shutdown =>
      exact ⟨fun f failed => (by cases failed), fun s' stepped => by
        cases stepped; exact ⟨(reassemblyInv_cleanupBufferInProgress _).withDecoder _, .of_idle rfl⟩⟩
  | worker action =>
      simp only [step, bind, Except.bind, pure, Except.pure]
      split
      · exact ⟨fun f failed => by
          cases failed; exact (DecoderPump.workerStep_error ‹_›).not_isReassembly,
          fun s' stepped => by cases stepped⟩
      · exact ⟨fun f failed => (by cases failed), fun s' stepped => by
          cases stepped; exact ⟨inv.withDecoder _, .refl s⟩⟩

theorem reachable_reassemblyInv {platform : Platform} {s : Substream}
    (reachable : Reachable platform s) : ReassemblyInv s := by
  induction reachable with
  | new => exact reassemblyInv_cleanupBufferInProgress {}
  | step _ stepped inductionHypothesis => exact ((step_sound inductionHypothesis _).2 _ stepped).1

/-- What the reassembly guarantees in a state: the invariant; no next operation
fails at a `CHECK` of the reassembly, a header read past `amt` or a copy outside
the unit; and a unit that an operation keeps in progress keeps its size and
`expected_buffer_size_`. -/
structure ReassemblySafe (platform : Platform) (s : Substream) : Prop where
  inv : ReassemblyInv s
  noFault : ∀ op f, s.step platform op = .error f → ¬f.IsReassembly
  sizeFixed : ∀ op s', s.step platform op = .ok s' →
    ∀ unit ∈ s.bufferInProgress, ∀ unit' ∈ s'.bufferInProgress, unit'.id = unit.id →
      unit'.data.length = unit.data.length ∧ s'.expectedBufferSize = s.expectedBufferSize

theorem reachable_reassemblySafe {platform : Platform} {s : Substream}
    (reachable : Reachable platform s) : ReassemblySafe platform s := by
  have inv := reachable_reassemblyInv reachable
  refine ⟨inv, fun op => (step_sound inv op).1, fun op s' stepped unit mem unit' mem' same => ?_⟩
  obtain ⟨inv', kept⟩ := (step_sound inv op).2 s' stepped
  have lengths := kept unit mem unit' mem' same
  exact ⟨lengths, UInt32.toNat.inj (by
    rw [← inv'.size_eq unit' mem', ← inv.size_eq unit mem, lengths])⟩

theorem reachable_reassemblySafe_busy :
    ∃ s, Substream.new.run mpeg1Platform busyRun = .ok s ∧ s.bufferInProgress.isSome ∧
      s.decoder.decoder.isSome ∧ s.decoder.inQueue.length = 2 ∧ ReassemblySafe mpeg1Platform s :=
  ⟨_, rfl, rfl, rfl, rfl,
    reachable_reassemblySafe (@reachable_of_run mpeg1Platform Substream.new _ busyRun .new rfl)⟩

end Substream

end AahRtp

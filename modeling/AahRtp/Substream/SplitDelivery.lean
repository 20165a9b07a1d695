import AahRtp.Substream.Delivery

/-!
# Split delivery

The bytes `aux ++ payload` of an access unit arrive split at arbitrary points:
a first piece after the payload start's header, then continuations of any
lengths, empty ones included. However they are split, once `n` of them have
arrived the substream is `received n`, a function of `n` alone, and a fragment
of `m` bytes takes `received n` to `received (n + m)`
(`fillFromPayloadCont_received`, `fillFromPayloadStart_received`). The
fragment that brings `n` to `aux.length + payload.length` completes the unit,
holding exactly `payload` with aux data `aux`; it is the only one that calls
`processCompletedBuffer`, because that call leaves no unit in progress and
every later fragment is dropped. The payload start is checked on its header
alone (`checkPayloadStart_sameHeader`), so the state `processCompletedBuffer`
runs on is the one that delivering the header, `aux` and `payload` as a single
fragment completes: it is the same for every split
(`traceDelivery_completes_once`).
-/

namespace AahRtp

/-- The aux bytes held after a chunk: the next `chunk` of `aux ++ payload` after
its first `n` bytes tops up `aux.take n` with its first `aux.length - n` bytes. -/
theorem take_append_chunk_aux {α : Type} (aux payload chunk : List α) (n : Nat)
    (next : chunk = ((aux ++ payload).drop n).take chunk.length) :
    aux.take n ++ chunk.take (aux.length - n) = aux.take (n + chunk.length) := by
  conv_lhs => rw [next]
  rw [List.take_take, List.drop_append_eq_append_drop, List.take_append_eq_append_take,
    List.take_add]
  simp only [List.length_drop, Nat.sub_eq_zero_of_le (Nat.min_le_left _ _), List.take_zero,
    List.append_nil]
  congr 1
  exact List.take_eq_take.mpr (by simp only [List.length_drop]; omega)

/-- The payload bytes held after a chunk: the bytes of `chunk` past the aux
data extend `payload.take (n - aux.length)`. -/
theorem take_append_chunk_payload {α : Type} (aux payload chunk : List α) (n : Nat)
    (next : chunk = ((aux ++ payload).drop n).take chunk.length) :
    payload.take (n - aux.length) ++ chunk.drop (aux.length - n) =
      payload.take (n + chunk.length - aux.length) := by
  generalize chunkLen : chunk.length = L at next
  subst next
  rw [List.drop_append_eq_append_drop, List.take_append_eq_append_take,
    List.drop_append_eq_append_drop]
  by_cases short : n ≤ aux.length
  · rw [Nat.sub_eq_zero_of_le short, List.take_zero, List.nil_append, List.drop_zero,
      List.drop_eq_nil_of_le (by simp only [List.length_take, List.length_drop]; omega),
      List.nil_append]
    simp only [List.length_take, List.length_drop]
    by_cases reaches : aux.length - n ≤ L
    · rw [show aux.length - n - min L (aux.length - n) = 0 by omega, List.drop_zero,
        show L - (aux.length - n) = n + L - aux.length by omega]
    · rw [show L - (aux.length - n) = 0 by omega, show n + L - aux.length = 0 by omega,
        List.take_zero, List.drop_nil]
  · rw [List.drop_eq_nil_of_le (show aux.length ≤ n by omega)]
    simp only [List.take_nil, List.drop_nil, List.length_nil, Nat.sub_zero, List.nil_append,
      show aux.length - n = 0 by omega, List.drop_zero]
    rw [← List.take_add, show n - aux.length + L = n + L - aux.length by omega]

namespace Substream

section Received

variable (t : Substream) (header : AudioHeader) (aux payload : List UInt8)

/-- The unit a payload start with header `header` allocates in `t` (lines
316-327), with the first `filled` bytes of `payload` copied in and the rest
still zero. -/
def receivedUnit (filled : Nat) : MediaBuffer :=
  { id := t.nextBufferId
    data := payload.take filled ++ List.replicate (payload.length - filled) 0
    meta :=
      { mimeType := some t.codecMimeType
        time := if header.tsValid then some header.ts else none } }

def received (n : Nat) : Substream :=
  { t with
    nextBufferId := t.nextBufferId + 1
    bufferInProgress := some (t.receivedUnit header payload (n - aux.length))
    bufferFilled := UInt32.ofNat (n - aux.length)
    auxDataInProgress := aux.take n }

structure Expecting : Prop where
  status_ok : t.status = StatusT.ok
  auxSize : t.auxDataExpectedSize.toNat = aux.length
  bufferSize : t.expectedBufferSize.toNat = payload.length
  payload_pos : 0 < payload.length

variable {t header aux payload}

@[simp]
theorem received_status (n : Nat) : (t.received header aux payload n).status = t.status := rfl

@[simp]
theorem received_auxDataExpectedSize (n : Nat) :
    (t.received header aux payload n).auxDataExpectedSize = t.auxDataExpectedSize := rfl

@[simp]
theorem received_expectedBufferSize (n : Nat) :
    (t.received header aux payload n).expectedBufferSize = t.expectedBufferSize := rfl

theorem received_total :
    (t.received header aux payload (aux.length + payload.length)).bufferInProgress =
        some { t.receivedUnit header payload 0 with data := payload } ∧
      (t.received header aux payload (aux.length + payload.length)).auxDataInProgress = aux := by
  simp [received, receivedUnit]

theorem appendPayload_received {n : Nat} {chunk : List UInt8}
    (small : payload.length < UInt32.size) (within : n ≤ aux.length + payload.length)
    (next : chunk = ((aux ++ payload).drop n).take chunk.length) :
    ((t.received header aux payload n).appendAux (chunk.take (aux.length - n))).appendPayload
        (t.receivedUnit header payload (n - aux.length)) (chunk.drop (aux.length - n)) =
      t.received header aux payload (n + chunk.length) := by
  have fits : chunk.length ≤ aux.length + payload.length - n := by
    have := congrArg List.length next
    simp only [List.length_take, List.length_drop, List.length_append] at this
    omega
  have filledVal : (UInt32.ofNat (n - aux.length)).toNat = n - aux.length :=
    UInt32.toNat_ofNat_of_lt (by omega)
  have restLen : (chunk.drop (aux.length - n)).length =
      n + chunk.length - aux.length - (n - aux.length) := by
    rw [List.length_drop]; omega
  have keptPrefix : (payload.take (n - aux.length) ++
      List.replicate (payload.length - (n - aux.length)) 0).take (n - aux.length) =
      payload.take (n - aux.length) :=
    List.take_left' (by simp only [List.length_take]; omega)
  have zeroSuffix : (payload.take (n - aux.length) ++
      List.replicate (payload.length - (n - aux.length)) 0).drop
        (n - aux.length + (chunk.drop (aux.length - n)).length) =
      List.replicate (payload.length - (n + chunk.length - aux.length)) 0 := by
    rw [List.drop_append_eq_append_drop, List.drop_eq_nil_of_le (by simp only [List.length_take]; omega),
      List.nil_append, List.drop_replicate, List.length_take, restLen]
    congr 1
    omega
  have filledSum : UInt32.ofNat (n - aux.length) + UInt32.ofNat (chunk.drop (aux.length - n)).length =
      UInt32.ofNat (n + chunk.length - aux.length) := by
    apply UInt32.toNat.inj
    rw [UInt32.toNat_add, filledVal, restLen, UInt32.toNat_ofNat_of_lt (by omega),
      UInt32.toNat_ofNat_of_lt (by omega), Nat.mod_eq_of_lt (by omega)]
    omega
  simp only [received, appendAux, appendPayload, receivedUnit, filledVal, keptPrefix, zeroSuffix,
    filledSum, take_append_chunk_aux aux payload chunk n next,
    take_append_chunk_payload aux payload chunk n next]

theorem fillFromPayloadCont_received (expecting : t.Expecting aux payload) {n : Nat}
    (lt : n < aux.length + payload.length) (chunk : Payload)
    (next : chunk.bytes = ((aux ++ payload).drop n).take chunk.bytes.length) :
    (t.received header aux payload n).fillFromPayloadCont chunk =
      .ok (if n + chunk.bytes.length = aux.length + payload.length then
          .complete (t.received header aux payload (n + chunk.bytes.length))
        else .done (t.received header aux payload (n + chunk.bytes.length))) := by
  obtain ⟨ok, auxSize, bufferSize, payload_pos⟩ := expecting
  have small : payload.length < UInt32.size := bufferSize ▸ t.expectedBufferSize.toNat_lt_size
  have fits : chunk.bytes.length ≤ aux.length + payload.length - n := by
    have := congrArg List.length next
    simp only [List.length_take, List.length_drop, List.length_append] at this
    omega
  have filledVal : (UInt32.ofNat (n - aux.length)).toNat = n - aux.length :=
    UInt32.toNat_ofNat_of_lt (by omega)
  have auxLeftVal : (t.received header aux payload n).auxLeft = aux.length - n := by
    show t.auxDataExpectedSize.toNat - (aux.take n).length = _
    rw [auxSize, List.length_take]; omega
  have bufferLeftVal :
      (t.received header aux payload n).bufferLeft = payload.length - (n - aux.length) := by
    show t.expectedBufferSize.toNat - (UInt32.ofNat (n - aux.length)).toNat = _
    rw [bufferSize, filledVal]
  refine (fillFromPayloadCont_eq chunk
    (show (t.received header aux payload n).status = StatusT.ok from ok) rfl ?auxLe ?filledLt ?sized).trans ?_
  case auxLe =>
    show (aux.take n).length ≤ t.auxDataExpectedSize.toNat
    rw [auxSize, List.length_take]; omega
  case filledLt =>
    show (UInt32.ofNat (n - aux.length)).toNat < t.expectedBufferSize.toNat
    rw [filledVal, bufferSize]; omega
  case sized =>
    simp only [receivedUnit, List.length_append, List.length_take, List.length_replicate,
      received_expectedBufferSize, bufferSize]
    omega
  simp only [auxLeftVal, bufferLeftVal, appendPayload_received small lt.le next]
  rw [if_neg (by omega)]
  by_cases full : n + chunk.bytes.length = aux.length + payload.length
  · rw [if_pos (by omega), if_pos full]
  · rw [if_neg (by omega), if_neg full]

theorem checkPayloadStart_expecting {s : Substream} {buf : Payload} {tsLower : BitVec 32}
    {trtpHeaderLen : UInt32}
    (accepted : s.checkPayloadStart buf tsLower = .ok (.accepted t header trtpHeaderLen))
    (auxSize : aux.length = t.auxDataExpectedSize.toNat)
    (payloadSize : payload.length = t.expectedBufferSize.toNat) :
    t.Expecting aux payload ∧ trtpHeaderLen.toNat ≤ buf.bytes.length ∧
      buf.bytes.length - trtpHeaderLen.toNat ≤ aux.length + payload.length ∧
      StartFrame s.abortBufferInProgress t := by
  obtain ⟨c, checked, framed, bounds⟩ := s.checkPayloadStart_frame buf tsLower
  rw [accepted] at checked
  cases checked
  obtain ⟨headerFits, sized, fits⟩ := bounds t header trtpHeaderLen rfl
  rcases framed with ⟨-, dropped⟩ | ⟨abort, frame⟩
  · cases dropped
  refine ⟨⟨?_, auxSize.symm, payloadSize.symm, by omega⟩, headerFits, by omega, frame⟩
  have kept : s.abortBufferInProgress.status = s.status := by
    rcases s.abortBufferInProgress_cases with cleaned | ⟨-, same⟩
    · rw [cleaned, cleanupBufferInProgress_status]
    · rw [same]
  rw [show t.status = _ from frame.status, kept]
  simpa [shouldAbort] using abort

theorem fillFromPayloadStart_received {platform : Platform} {s : Substream} {buf : Payload}
    {tsLower : BitVec 32} {trtpHeaderLen : UInt32} (reachable : Reachable platform s)
    (accepted : s.checkPayloadStart buf tsLower = .ok (.accepted t header trtpHeaderLen))
    (auxSize : aux.length = t.auxDataExpectedSize.toNat)
    (payloadSize : payload.length = t.expectedBufferSize.toNat)
    (first : buf.bytes.drop trtpHeaderLen.toNat =
      (aux ++ payload).take (buf.bytes.drop trtpHeaderLen.toNat).length) :
    s.fillFromPayloadStart buf tsLower .allocated =
      .ok (if (buf.bytes.drop trtpHeaderLen.toNat).length = aux.length + payload.length then
          .complete (t.received header aux payload (buf.bytes.drop trtpHeaderLen.toNat).length)
        else .done (t.received header aux payload (buf.bytes.drop trtpHeaderLen.toNat).length)) := by
  obtain ⟨expecting, headerFits, fits, frame⟩ :=
    checkPayloadStart_expecting accepted auxSize payloadSize
  have noAux : t.auxDataInProgress = [] := by
    rcases frame.aux with cleared | kept
    · exact cleared
    rw [kept]
    rcases s.abortBufferInProgress_cases with cleaned | ⟨idle, same⟩
    · rw [cleaned, cleanupBufferInProgress_auxDataInProgress]
    · rw [same]; exact (reachable_reassemblyInv reachable).aux_nil idle
  have unit0 : t.receivedUnit header payload 0 =
      { id := t.nextBufferId
        data := List.replicate t.expectedBufferSize.toNat 0
        meta :=
          { mimeType := some t.codecMimeType
            time := if header.tsValid then some header.ts else none } } := by
    simp [receivedUnit, expecting.bufferSize]
  have base : t.received header aux payload 0 =
      { t with
        bufferFilled := 0
        bufferInProgress := some (t.receivedUnit header payload 0)
        nextBufferId := t.nextBufferId + 1 } := by
    simp only [received, Nat.zero_sub, List.take_zero, ← noAux]
    rfl
  have start := @appendPayload_received t header aux payload 0 (buf.bytes.drop trtpHeaderLen.toNat)
    (expecting.bufferSize ▸ t.expectedBufferSize.toNat_lt_size) (Nat.zero_le _)
    (by rw [List.drop_zero]; exact first)
  rw [Nat.sub_zero, Nat.zero_sub, Nat.zero_add] at start
  simp only [fillFromPayloadStart, accepted, bind, Except.bind]
  refine (startBuffer_allocated_eq headerFits (by rw [expecting.bufferSize]; exact expecting.payload_pos)
    (by rw [expecting.auxSize, expecting.bufferSize]; exact fits)).trans ?_
  dsimp only
  rw [← unit0, ← base, expecting.auxSize, expecting.bufferSize, start, List.length_drop]

end Received

end Substream

def Progress.IsDone : Progress → Prop
  | .done _ => True
  | .complete _ => False

def SuppliesLastByte (n total : Nat) (fragments : List (List UInt8)) (k : Nat) : Prop :=
  n + ((fragments.take k).map List.length).sum < total ∧
    n + ((fragments.take (k + 1)).map List.length).sum = total

theorem SuppliesLastByte.head {n total : Nat} {fragment : List UInt8}
    {fragments : List (List UInt8)} (short : n < total) (full : n + fragment.length = total) :
    SuppliesLastByte n total (fragment :: fragments) 0 := by
  simp [SuppliesLastByte, short, full]

theorem SuppliesLastByte.cons {n total k : Nat} {fragment : List UInt8}
    {fragments : List (List UInt8)}
    (later : SuppliesLastByte (n + fragment.length) total fragments k) :
    SuppliesLastByte n total (fragment :: fragments) (k + 1) := by
  obtain ⟨before, reached⟩ := later
  simp only [SuppliesLastByte, List.take_succ_cons, List.map_cons, List.sum_cons]
  omega

namespace Substream

def traceFragment (platform : Platform) (env : CompletionEnv)
    (rest : Substream → List Progress × Except Fault Substream) :
    Except Fault Progress → List Progress × Except Fault Substream
  | .error f => ([], .error f)
  | .ok p =>
      match p.finish platform env with
      | .error f => ([p], .error f)
      | .ok s => (p :: (rest s).1, (rest s).2)

/-- Continuations delivered one after another, each by `processPayloadCont`
(lines 357-400): the fill result of each, and the state the run ends in or the
fault that stops it. -/
def traceConts (platform : Platform) (s : Substream) :
    List (Payload × CompletionEnv) → List Progress × Except Fault Substream
  | [] => ([], .ok s)
  | (buf, env) :: conts =>
      traceFragment platform env (fun s => s.traceConts platform conts) (s.fillFromPayloadCont buf)

/-- A payload start (`processPayloadStart`, lines 104-355) and then
continuations. -/
def traceDelivery (platform : Platform) (s : Substream) (buf : Payload) (tsLower : BitVec 32)
    (env : StartEnv) (conts : List (Payload × CompletionEnv)) :
    List Progress × Except Fault Substream :=
  traceFragment platform env.completion (fun s => s.traceConts platform conts)
    (s.fillFromPayloadStart buf tsLower env.allocation)

theorem traceFragment_snd (platform : Platform) (env : CompletionEnv)
    (rest : Substream → List Progress × Except Fault Substream) (filled : Except Fault Progress) :
    (traceFragment platform env rest filled).2 =
      (filled >>= fun p => p.finish platform env >>= fun s => (rest s).2) := by
  cases filled with
  | error f => rfl
  | ok p =>
      simp only [traceFragment, bind, Except.bind]
      cases p.finish platform env <;> rfl

theorem traceConts_snd (platform : Platform) (s : Substream) (conts : List (Payload × CompletionEnv)) :
    (s.traceConts platform conts).2 =
      s.run platform (conts.map fun c => SubstreamOp.processPayloadCont c.1 c.2) := by
  induction conts generalizing s with
  | nil => rfl
  | cons c conts inductionHypothesis =>
      obtain ⟨buf, env⟩ := c
      simp only [traceConts, traceFragment_snd, inductionHypothesis, List.map_cons, run, step,
        processPayloadCont, bind_assoc]

theorem traceDelivery_snd (platform : Platform) (s : Substream) (buf : Payload)
    (tsLower : BitVec 32) (env : StartEnv) (conts : List (Payload × CompletionEnv)) :
    (s.traceDelivery platform buf tsLower env conts).2 =
      s.run platform (.processPayloadStart buf tsLower env ::
        conts.map fun c => SubstreamOp.processPayloadCont c.1 c.2) := by
  simp only [traceDelivery, traceFragment_snd, traceConts_snd, run, step, processPayloadStart,
    bind_assoc]

/-- With no unit in progress, a continuation is dropped (lines 363-366). -/
theorem fillFromPayloadCont_of_idle {s : Substream} (idle : s.bufferInProgress = none)
    (buf : Payload) : s.fillFromPayloadCont buf = .ok (.done s) := by
  simp only [fillFromPayloadCont, idle]
  split <;> rfl

theorem traceConts_of_idle {platform : Platform} {s : Substream}
    (idle : s.bufferInProgress = none) (conts : List (Payload × CompletionEnv)) :
    s.traceConts platform conts = (conts.map fun _ => .done s, .ok s) := by
  induction conts with
  | nil => rfl
  | cons c conts inductionHypothesis =>
      obtain ⟨buf, env⟩ := c
      simp only [traceConts, fillFromPayloadCont_of_idle idle, traceFragment, Progress.finish,
        inductionHypothesis, List.map_cons]

/-- A fragment that completes the unit is followed only by fragments the run
reaches with no unit in progress, since `processCompletedBuffer` leaves none. -/
theorem traceFragment_complete (platform : Platform) (env : CompletionEnv)
    (rest : Substream → List Progress × Except Fault Substream) (completed : Substream) :
    ∃ later, (traceFragment platform env rest (.ok (.complete completed))).1 =
        .complete completed :: later ∧
      (later = [] ∨ ∃ s, s.bufferInProgress = none ∧ later = (rest s).1) := by
  simp only [traceFragment, Progress.finish]
  cases finished : completed.processCompletedBuffer platform env with
  | error f => exact ⟨[], rfl, .inl rfl⟩
  | ok s =>
      obtain ⟨u, rfl⟩ := processCompletedBuffer_eq_cleanup finished
      exact ⟨_, rfl, .inr ⟨_, cleanupBufferInProgress_bufferInProgress u, rfl⟩⟩

theorem traceConts_received {platform : Platform} {t : Substream} {header : AudioHeader}
    {aux payload : List UInt8} (expecting : t.Expecting aux payload) {n : Nat}
    (lt : n < aux.length + payload.length) (conts : List (Payload × CompletionEnv))
    (rest : (conts.map fun c => c.1.bytes).flatten = (aux ++ payload).drop n) :
    ∃ dones later,
      ((t.received header aux payload n).traceConts platform conts).1 =
        dones ++ .complete (t.received header aux payload (aux.length + payload.length)) :: later ∧
      (∀ p ∈ dones ++ later, p.IsDone) ∧
      SuppliesLastByte n (aux.length + payload.length) (conts.map fun c => c.1.bytes)
        dones.length := by
  induction conts generalizing n with
  | nil =>
      have := congrArg List.length rest
      simp only [List.map_nil, List.flatten_nil, List.length_nil, List.length_drop,
        List.length_append] at this
      omega
  | cons c conts inductionHypothesis =>
      obtain ⟨chunk, env⟩ := c
      simp only [List.map_cons, List.flatten_cons] at rest
      have next : chunk.bytes = ((aux ++ payload).drop n).take chunk.bytes.length := by
        rw [← rest, List.take_left' rfl]
      have restAfter : (conts.map fun c => c.1.bytes).flatten =
          (aux ++ payload).drop (n + chunk.bytes.length) := by
        rw [← List.drop_drop, ← rest, List.drop_left' rfl]
      have fits : n + chunk.bytes.length ≤ aux.length + payload.length := by
        have := congrArg List.length next
        simp only [List.length_take, List.length_drop, List.length_append] at this
        omega
      simp only [traceConts, fillFromPayloadCont_received expecting lt chunk next]
      by_cases full : n + chunk.bytes.length = aux.length + payload.length
      · rw [if_pos full, full]
        obtain ⟨later, traced, after⟩ := traceFragment_complete platform env
          (fun s => s.traceConts platform conts) (t.received header aux payload (aux.length + payload.length))
        refine ⟨[], later, traced, ?_, SuppliesLastByte.head lt full⟩
        rcases after with rfl | ⟨s, idle, rfl⟩
        · simp
        · simp [traceConts_of_idle idle, Progress.IsDone]
      · rw [if_neg full]
        obtain ⟨dones, later, traced, allDone, supplies⟩ :=
          inductionHypothesis (by omega) restAfter
        refine ⟨.done (t.received header aux payload (n + chunk.bytes.length)) :: dones, later,
          by simp only [traceFragment, Progress.finish, traced, List.cons_append], ?_,
          SuppliesLastByte.cons supplies⟩
        simp only [List.cons_append, List.mem_cons, forall_eq_or_imp]
        exact ⟨trivial, allDone⟩

theorem traceDelivery_whole {platform : Platform} {s t : Substream} {whole : Payload}
    {tsLower : BitVec 32} {header : AudioHeader} {trtpHeaderLen : UInt32}
    {aux payload : List UInt8} (reachable : Reachable platform s)
    (accepted : s.checkPayloadStart whole tsLower = .ok (.accepted t header trtpHeaderLen))
    (auxSize : aux.length = t.auxDataExpectedSize.toNat)
    (payloadSize : payload.length = t.expectedBufferSize.toNat)
    (env : StartEnv) (allocated : env.allocation = .allocated)
    (carried : whole.bytes.drop trtpHeaderLen.toNat = aux ++ payload) :
    (s.traceDelivery platform whole tsLower env []).1 =
      [.complete (t.received header aux payload (aux.length + payload.length))] := by
  have started := fillFromPayloadStart_received reachable accepted auxSize payloadSize
    (by rw [carried, List.take_length])
  rw [carried, List.length_append, if_pos rfl] at started
  simp only [traceDelivery, allocated, started]
  obtain ⟨later, traced, after⟩ := traceFragment_complete platform env.completion
    (fun s => s.traceConts platform []) (t.received header aux payload (aux.length + payload.length))
  rw [traced]
  rcases after with rfl | ⟨_, -, rfl⟩ <;> rfl

/-- A unit delivered split at arbitrary points: from a reachable state, a
payload start is accepted with aux size `aux.length` and unit size
`payload.length`, and its bytes after the header and the continuations after
it carry `aux ++ payload`. Then `processCompletedBuffer` runs exactly once, at
the fragment supplying the last byte, on the unit holding `payload` with aux
data `aux`. The state it runs on is the one in which a single fragment of the
same header followed by `aux ++ payload` completes the unit, so it does not
depend on the split. -/
theorem traceDelivery_completes_once {platform : Platform} {s t : Substream} {buf : Payload}
    {tsLower : BitVec 32} {header : AudioHeader} {trtpHeaderLen : UInt32}
    {aux payload : List UInt8} (reachable : Reachable platform s)
    (accepted : s.checkPayloadStart buf tsLower = .ok (.accepted t header trtpHeaderLen))
    (auxSize : aux.length = t.auxDataExpectedSize.toNat)
    (payloadSize : payload.length = t.expectedBufferSize.toNat)
    (env : StartEnv) (allocated : env.allocation = .allocated)
    (conts : List (Payload × CompletionEnv))
    (split : buf.bytes.drop trtpHeaderLen.toNat ++ (conts.map fun c => c.1.bytes).flatten =
      aux ++ payload) :
    (∃ dones later,
      (s.traceDelivery platform buf tsLower env conts).1 =
        dones ++ .complete (t.received header aux payload (aux.length + payload.length)) :: later ∧
      (∀ p ∈ dones ++ later, p.IsDone) ∧
      SuppliesLastByte 0 (aux.length + payload.length)
        (buf.bytes.drop trtpHeaderLen.toNat :: conts.map fun c => c.1.bytes) dones.length ∧
      (t.received header aux payload (aux.length + payload.length)).bufferInProgress =
        some { t.receivedUnit header payload 0 with data := payload } ∧
      (t.received header aux payload (aux.length + payload.length)).auxDataInProgress = aux) ∧
    ∀ whole : Payload, whole.bytes = buf.bytes.take trtpHeaderLen.toNat ++ aux ++ payload →
      (s.traceDelivery platform whole tsLower env []).1 =
        [.complete (t.received header aux payload (aux.length + payload.length))] := by
  obtain ⟨expecting, headerFits, -⟩ := checkPayloadStart_expecting accepted auxSize payloadSize
  refine ⟨?_, fun whole wholeBytes => ?single⟩
  case single =>
    rw [List.append_assoc] at wholeBytes
    have headerLen : (buf.bytes.take trtpHeaderLen.toNat).length = trtpHeaderLen.toNat :=
      List.length_take_of_le headerFits
    have wholeLen : whole.bytes.length = trtpHeaderLen.toNat + (aux.length + payload.length) := by
      rw [wholeBytes, List.length_append, headerLen, List.length_append]
    have fits : whole.bytes.length - trtpHeaderLen.toNat ≤
        (t.expectedBufferSize + t.auxDataExpectedSize).toNat := by
      have := whole.length_lt
      rw [uint32_toNat_add_of_lt (by omega)]
      omega
    exact traceDelivery_whole reachable (checkPayloadStart_sameHeader accepted
      (.of_take_append headerFits wholeBytes) fits) auxSize payloadSize env allocated
      (by rw [wholeBytes, List.drop_left' headerLen])
  set first := buf.bytes.drop trtpHeaderLen.toNat
  have prefixed : first = (aux ++ payload).take first.length := by rw [← split, List.take_left' rfl]
  have fits : first.length ≤ aux.length + payload.length := by
    have := congrArg List.length split
    simp only [List.length_append] at this
    omega
  have started := fillFromPayloadStart_received reachable accepted auxSize payloadSize prefixed
  simp only [traceDelivery, allocated, started]
  refine Exists.imp (fun dones => Exists.imp fun later => And.imp_right
    (And.imp_right fun supplies => ⟨supplies, received_total⟩)) ?_
  by_cases full : first.length = aux.length + payload.length
  · rw [if_pos full, full]
    obtain ⟨later, traced, after⟩ := traceFragment_complete platform env.completion
      (fun s => s.traceConts platform conts) (t.received header aux payload (aux.length + payload.length))
    refine ⟨[], later, traced, ?_, SuppliesLastByte.head (by have := expecting.payload_pos; omega)
      (by rw [Nat.zero_add, full])⟩
    rcases after with rfl | ⟨s, idle, rfl⟩
    · simp
    · simp [traceConts_of_idle idle, Progress.IsDone]
  · rw [if_neg full]
    obtain ⟨dones, later, traced, allDone, supplies⟩ := traceConts_received expecting
      (show first.length < aux.length + payload.length by omega) conts
      (by rw [← split, List.drop_left' rfl])
    refine ⟨.done (t.received header aux payload first.length) :: dones, later,
      congrArg (List.cons _) traced, ?_,
      SuppliesLastByte.cons (by rwa [Nat.zero_add])⟩
    simp only [List.cons_append, List.mem_cons, forall_eq_or_imp]
    exact ⟨trivial, allDone⟩

/-- The MP3 start `mp3PartialStart` carries two of its unit's four bytes, and a
continuation of two more completes the unit. -/
theorem traceDelivery_completes_once_mp3Split :
    ∃ t header trtpHeaderLen,
      Substream.new.checkPayloadStart mp3PartialStart 0 = .ok (.accepted t header trtpHeaderLen) ∧
      (∃ dones later,
        (Substream.new.traceDelivery default mp3PartialStart 0 {}
            [(⟨[3, 4], by decide⟩, {})]).1 =
          dones ++ .complete (t.received header [] [1, 2, 3, 4] 4) :: later ∧
        (∀ p ∈ dones ++ later, p.IsDone) ∧
        SuppliesLastByte 0 4 (mp3PartialStart.bytes.drop trtpHeaderLen.toNat :: [[3, 4]])
          dones.length ∧
        (t.received header [] [1, 2, 3, 4] 4).bufferInProgress =
          some { t.receivedUnit header [1, 2, 3, 4] 0 with data := [1, 2, 3, 4] } ∧
        (t.received header [] [1, 2, 3, 4] 4).auxDataInProgress = []) ∧
      ∀ whole : Payload,
        whole.bytes = mp3PartialStart.bytes.take trtpHeaderLen.toNat ++ [] ++ [1, 2, 3, 4] →
          (Substream.new.traceDelivery default whole 0 {} []).1 =
            [.complete (t.received header [] [1, 2, 3, 4] 4)] :=
  ⟨_, _, _, rfl, @traceDelivery_completes_once default Substream.new _ mp3PartialStart 0 _ _
    [] [1, 2, 3, 4] .new rfl rfl rfl {} rfl _ rfl⟩

end Substream

end AahRtp

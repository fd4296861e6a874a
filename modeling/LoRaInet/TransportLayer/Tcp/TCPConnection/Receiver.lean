import LoRaInet.TransportLayer.Tcp.TCPConnection.Events
import LoRaInet.TransportLayer.Tcp.TCPVirtualDataRcvQueue.Refinement

open omnetpp interval transition

namespace inet.tcp

namespace TCPSegment

variable {M : Type} {tcpseg : TCPSegment M}

/-- The bytes are virtual, or they are all in the byte array. -/
def HasBytes (tcpseg : TCPSegment M) : Prop :=
  tcpseg.byteArray = [] ∨ tcpseg.byteArray.length = tcpseg.payloadLength
deriving Decidable

theorem truncateByteArray_isOk (hbytes : tcpseg.HasBytes) {truncleft truncright : uint32}
    (hfits : (truncleft + truncright).toNat ≤ tcpseg.payloadLength) :
    ∃ byteArray, truncateByteArray tcpseg.byteArray truncleft truncright = .ok byteArray := by
  unfold truncateByteArray
  split
  · next hne =>
    have hlength : tcpseg.byteArray.length = tcpseg.payloadLength :=
      hbytes.resolve_left fun hnil => hne (by rw [hnil]; rfl)
    have hassert : tcpseg.byteArray.length ≥ (truncleft + truncright).toNat := by omega
    rw [ByteArray.truncateData, assert_bind hassert]
    exact ⟨_, rfl⟩
  · exact ⟨_, rfl⟩

/-- The bytes that a truncation cuts off are those outside the window. -/
theorem truncateSegment_of_reaches {low high s : ℤ} (hbytes : tcpseg.HasBytes) (hseq : tcpseg.sequenceNo = seqOf s)
    (hlow : low < s + tcpseg.payloadLength) (hhigh : s < high) (hleft : high < s + 2 ^ 31)
    (hright : s + tcpseg.payloadLength < low + 2 ^ 31) (hne : low < high)
    (hinside : low ≤ s ∨ s + tcpseg.payloadLength ≤ high) (hpos : 0 < tcpseg.payloadLength) :
    ∃ tcpseg', tcpseg.truncateSegment (seqOf low) (seqOf high) = .ok tcpseg' ∧
      tcpseg'.sequenceNo = seqOf (max low s) ∧
      max low s + tcpseg'.payloadLength = min high (s + tcpseg.payloadLength) := by
  have hend : tcpseg.endSeq = seqOf (s + tcpseg.payloadLength) := by
    rw [endSeq, hseq, seqOf_natCast, seqOf_add]
  have hmeets : (!(seqLess tcpseg.sequenceNo (seqOf high) && seqLess (seqOf low) tcpseg.endSeq)) = false := by
    rw [hseq, hend, Bool.not_eq_false', Bool.and_eq_true, seqLess_seqOf ⟨by omega, by omega⟩,
      seqLess_seqOf ⟨by omega, by omega⟩]
    exact ⟨hhigh, hlow⟩
  have htruncleft : (if seqLess tcpseg.sequenceNo (seqOf low) then seqOf low - tcpseg.sequenceNo else 0 : uint32) =
      seqOf (max low s - s) := by
    rw [hseq]
    by_cases hlt : s < low
    · rw [if_pos ((seqLess_seqOf ⟨by omega, by omega⟩).mpr hlt), seqOf_sub, max_eq_left hlt.le]
    · rw [if_neg (by rw [seqLess_seqOf ⟨by omega, by omega⟩]; exact hlt), max_eq_right (not_lt.mp hlt), sub_self]
      rfl
  have htruncright : (if seqGreater tcpseg.endSeq (seqOf high) then tcpseg.endSeq - seqOf high else 0 : uint32) =
      seqOf (s + tcpseg.payloadLength - min high (s + tcpseg.payloadLength)) := by
    rw [hend]
    by_cases hlt : high < s + tcpseg.payloadLength
    · rw [if_pos ((seqGreater_seqOf ⟨by omega, by omega⟩).mpr hlt), seqOf_sub, min_eq_left hlt.le]
    · rw [if_neg (by rw [seqGreater_seqOf ⟨by omega, by omega⟩]; exact hlt), min_eq_right (not_lt.mp hlt), sub_self]
      rfl
  have hcut : ((seqOf (max low s - s) + seqOf (s + tcpseg.payloadLength -
      min high (s + tcpseg.payloadLength))).toNat : ℤ) =
      (max low s - s) + (s + tcpseg.payloadLength - min high (s + tcpseg.payloadLength)) := by
    have hsub := @toNat_sub_of_near ((max low s - s) + (s + tcpseg.payloadLength -
      min high (s + tcpseg.payloadLength))) 0 (by omega) (by omega)
    rw [seqOf_sub, sub_zero] at hsub
    rw [seqOf_add, hsub]
  have hfits : tcpseg.payloadLength ≥ (seqOf (max low s - s) + seqOf (s + tcpseg.payloadLength -
      min high (s + tcpseg.payloadLength))).toNat := by omega
  obtain ⟨byteArray, hbytes'⟩ := truncateByteArray_isOk hbytes hfits
  rw [truncateSegment, assert_bind hpos, hmeets, htruncleft, htruncright, if_neg (by decide)]
  unfold truncateData
  rw [assert_bind hfits, hbytes']
  refine ⟨_, rfl, ?_, ?_⟩
  · dsimp only
    rw [hseq, seqOf_add]
    congr 1
    omega
  · dsimp only
    omega

end TCPSegment

/-- The queue holds the bytes below `next` without a gap. None that it has seen is as high as `edge`, or beyond its
capacity. -/
def TCPVirtualDataRcvQueue.Holding (q : TCPVirtualDataRcvQueue VirtualRegion) (capacity : ℕ) (next edge : ℤ) : Prop :=
  ∃ bytes blocks, q.Buffers VirtualRegion.laws bytes blocks ∧ bytes.next = next ∧
    ∀ p ∈ bytes.received, p < edge ∧ p < bytes.first + capacity

namespace TCPVirtualDataRcvQueue.Holding

variable {q : TCPVirtualDataRcvQueue VirtualRegion} {capacity : ℕ} {next edge : ℤ}

theorem rcv_nxt_eq (h : q.Holding capacity next edge) : q.rcv_nxt = seqOf next := by
  obtain ⟨bytes, blocks, hbuffers, rfl, -⟩ := h
  exact hbuffers.rcv_nxt_eq

theorem mono (h : q.Holding capacity next edge) {edge' : ℤ} (hle : edge ≤ edge') : q.Holding capacity next edge' := by
  obtain ⟨bytes, blocks, hbuffers, hnext, hbelow⟩ := h
  exact ⟨bytes, blocks, hbuffers, hnext, fun p hp => ⟨(hbelow p hp).1.trans_le hle, (hbelow p hp).2⟩⟩

theorem init (startSeq : uint32) (capacity : ℕ) (edge : ℤ) :
    (TCPVirtualDataRcvQueue.init startSeq).Holding capacity startSeq.toNat edge := by
  refine ⟨_, [], buffers_init VirtualRegion.laws startSeq, ?_, by simp⟩
  exact ReceivedBytes.next_eq (ReceivedBytes.WellFormed.init _) (le_refl _) (by simp) (by simp [ReceivedBytes.init])

/-- The first byte that has never arrived is not beyond the others. -/
theorem next_le_first {bytes : ReceivedBytes} (hwf : bytes.WellFormed)
    (hbelow : ∀ p ∈ bytes.received, p < bytes.first + capacity) : bytes.next ≤ bytes.first + capacity := by
  by_contra hlt
  have hmem := hwf.mem_received (hwf.start_le.trans (by omega : bytes.first ≤ bytes.first + capacity)) (not_le.mp hlt)
  exact lt_irrefl _ (hbelow _ hmem)

/-- A segment between the gapless bytes and the edge is inserted where there is space for it. -/
theorem insert (h : q.Holding capacity next edge) (hedge : next ≤ edge) {p : ℤ} {tcpseg : TCPSegment Unit}
    (hseq : tcpseg.sequenceNo = seqOf p) (hlow : next ≤ p) (hpos : 0 < tcpseg.payloadLength)
    (hhigh : p + tcpseg.payloadLength ≤ edge) (hcapacity : capacity < 2 ^ 31)
    (hroom : p + tcpseg.payloadLength ≤ next + capacity)
    (hspace : seqLE tcpseg.endSeq (q.getFirstSeqNo + BitVec.ofNat 32 capacity) = true) :
    ∃ q' next', q.insertBytesFromSegment tcpseg = .ok (q', seqOf next') ∧ q'.Holding capacity next' edge ∧
      next ≤ next' ∧ next' ≤ edge := by
  obtain ⟨bytes, blocks, hbuffers, rfl, hbelow⟩ := h
  have hwf := hbuffers.wellFormed
  have hfirst := hwf.first_le_next
  have hnext := next_le_first hwf fun p hp => (hbelow p hp).2
  have hend : tcpseg.endSeq = seqOf (p + tcpseg.payloadLength) := by
    rw [TCPSegment.endSeq, hseq, seqOf_natCast, seqOf_add]
  rw [hend, hbuffers.getFirstSeqNo, seqOf_natCast, seqOf_add, seqLE_seqOf ⟨by omega, by omega⟩] at hspace
  have hlt : p < p + tcpseg.payloadLength := by omega
  have hregion : VirtualRegion.createRegionFromSegment tcpseg = VirtualRegion.ofBlock ⟨p, _, hlt⟩ := by
    rw [VirtualRegion.createRegionFromSegment, VirtualRegion.ofBlock, hend, hseq]
  obtain ⟨q', hq', hbuffers'⟩ := hbuffers.insertRegion (s := ⟨p, _, hlt⟩) hregion
    ⟨hfirst.trans hlow, by dsimp only; omega⟩ (fun _ _ => trivial) q.str
  have hwf' := hbuffers'.wellFormed
  have hbelow' : ∀ x ∈ (bytes.insert ⟨p, _, hlt⟩).received, x < edge ∧ x < bytes.first + capacity := by
    rintro x (hx | hx)
    · have hxlt : x < p + tcpseg.payloadLength := hx.2
      exact ⟨by omega, by omega⟩
    · exact hbelow x hx
  have hmono := hwf.next_le_next_insert (b := ⟨p, _, hlt⟩) (hfirst.trans hlow) (by dsimp only; omega)
  refine ⟨q', (bytes.insert ⟨p, _, hlt⟩).next, ?_, ⟨_, _, hbuffers', rfl, hbelow'⟩, hmono, ?_⟩
  · rw [insertBytesFromSegment, hq', ← hbuffers'.rcv_nxt_eq]
    rfl
  · by_contra hgt
    have hmem := hwf'.mem_received (hwf.start_le_next.trans hedge) (not_le.mp hgt)
    exact lt_irrefl _ (hbelow' _ hmem).1

theorem extractLoop (rounds : ℕ) {q : TCPVirtualDataRcvQueue VirtualRegion} (h : q.Holding capacity next edge)
    (hcapacity : capacity < 2 ^ 31) :
    ∃ q', TCPConnection.extractLoop (seqOf next) rounds q = .ok q' ∧ q'.Holding capacity next edge := by
  induction rounds generalizing q with
  | zero => exact ⟨q, rfl, h⟩
  | succ rounds ih =>
    obtain ⟨bytes, blocks, hbuffers, rfl, hbelow⟩ := h
    have hwf := hbuffers.wellFormed
    have hfirst := hwf.first_le_next
    have hblocks : ∀ b ∈ blocks, b.high < bytes.next + 2 ^ 31 := by
      intro b hb
      have hwithin := hbuffers.within hb
      have hend := hwithin.2
      omega
    obtain ⟨q', out, blocks', hq', hbuffers', -, -, -⟩ := hbuffers.extractTo (le_refl _) (by omega) hblocks
    have hholding : q'.Holding capacity bytes.next edge := by
      refine ⟨_, _, hbuffers', ReceivedBytes.next_extract _, fun p hp => ⟨(hbelow p hp).1, ?_⟩⟩
      have hlt := (hbelow p hp).2
      have hle : bytes.first ≤ (bytes.extract bytes.next).first := le_max_left _ _
      omega
    have hcall : q.extractBytesUpTo (seqOf bytes.next) =
        .ok (q', out.map fun reg => (getLength reg).toNat) := by
      rw [extractBytesUpTo, hq']
      rfl
    rw [TCPConnection.extractLoop, hcall]
    dsimp only [bind, Except.bind]
    split
    · exact ih hholding
    · exact ⟨q', rfl, hholding⟩

end TCPVirtualDataRcvQueue.Holding

namespace TCPConnection

section Moves

variable (c : TCPConnection)

/-- What the receiving side of a connection reads and writes. -/
structure ReceiveView where
  snd_mss : uint32
  rcv_nxt : uint32
  rcv_wnd : uint32
  rcv_adv : uint32
  maxRcvBuffer : uint32
  ws_enabled : Bool
  rcv_wnd_scale : ℕ
  receiveQueue : TCPVirtualDataRcvQueue VirtualRegion
  deriving DecidableEq

def receiveView : ReceiveView :=
  ⟨c.snd_mss, c.rcv_nxt, c.rcv_wnd, c.rcv_adv, c.maxRcvBuffer, c.ws_enabled, c.rcv_wnd_scale, c.receiveQueue⟩

/-- The text of a segment goes into the receive queue where there is space for it. -/
def insertText (seg : ReceivedSegment) : Except Fault TCPConnection := do
  let tcpseg ← seg.tcpseg.truncateSegment c.rcv_nxt (c.rcv_nxt + c.rcv_wnd)
  if c.hasEnoughSpaceForSegmentInReceiveQueue tcpseg then do
    let (receiveQueue, rcv_nxt) ← c.receiveQueue.insertBytesFromSegment tcpseg
    .ok { c with receiveQueue, rcv_nxt }
  else .ok c

/-- What happens at the receiving side, whatever the rest of the connection does in between. -/
inductive Move where
  | text (seg : ReceivedSegment)
  | fin
  | extract
  | updateRcvWnd
  | other (c' : TCPConnection)

def isText (seg : ReceivedSegment) : Bool := c.isSegmentAcceptable seg && seg.getPayloadLength > 0

def move : Move → Except Fault TCPConnection
  | .text seg => if c.isText seg then c.insertText seg else .ok c
  | .fin => .ok { c with rcv_nxt := c.rcv_nxt + 1 }
  | .extract => c.extractAll
  | .updateRcvWnd => do
    let (c, _) ← c.updateRcvWnd
    .ok c
  | .other c' => .ok (if c'.receiveView = c.receiveView then c' else c)

def stepReceiver (m : Move) : Option (TCPConnection × Unit) := (c.move m).toOption.map fun c => (c, ())

/-- The window that has been promised to the other side and not been used yet. -/
def promised : uint32 := if seqLE c.rcv_nxt c.rcv_adv then c.rcv_adv - c.rcv_nxt else 0

/-- A call of `updateRcvWnd` returns; the advertised edge does not move backward, and nothing is advertised that is
neither free nor promised already. -/
def KeepsPromise : Prop := ∃ c' window, c.updateRcvWnd = .ok (c', window) ∧
  seqLE c.rcv_adv c'.rcv_adv = true ∧ seqLE c'.rcv_nxt c'.rcv_adv = true ∧
  c'.rcv_wnd ≤ umax c.freeRcvBuffer c.promised

/-- The largest window fits the header. -/
def FitsHeader : Prop := c.ws_enabled = true → c.rcv_wnd_scale ≤ 14 ∧ c.maxRcvBuffer >>> c.rcv_wnd_scale ≤ TCP_MAX_WIN

/-- The connection when it has received the SYN. -/
structure Synchronized : Prop where
  receiveQueue_eq : c.receiveQueue = .init c.rcv_nxt
  rcv_adv_eq : c.rcv_adv = c.rcv_nxt + c.rcv_wnd
  rcv_wnd_le : c.rcv_wnd ≤ c.maxRcvBuffer
  maxRcvBuffer_lt : c.maxRcvBuffer.toNat < 2 ^ 31
  fitsHeader : c.FitsHeader

/-- Nothing follows the FIN of the other side, which does not come when the advertised window is full, and text does
not end above the advertised edge while the window that it is checked against does. -/
def Allows : Move → Prop
  | .text seg => c.isText seg = true → c.rcv_nxt = c.receiveQueue.rcv_nxt ∧ seg.tcpseg.HasBytes ∧
      seg.getPayloadLength + c.maxRcvBuffer.toNat < 2 ^ 31 ∧
      (seqLE seg.tcpseg.endSeq c.rcv_adv = true ∨ seqLE (c.rcv_nxt + c.rcv_wnd) c.rcv_adv = true)
  | .fin => c.rcv_nxt = c.receiveQueue.rcv_nxt ∧ c.rcv_nxt ≠ c.rcv_adv
  | .extract => c.rcv_nxt = c.receiveQueue.rcv_nxt
  | _ => True

instance : (m : Move) → Decidable (c.Allows m)
  | .text _ => inferInstanceAs (Decidable (_ → _))
  | .fin => inferInstanceAs (Decidable (_ ∧ _))
  | .extract => inferInstanceAs (Decidable (_ = _))
  | .updateRcvWnd | .other _ => .isTrue trivial

end Moves

/-- The positions of `rcv_nxt` and of `rcv_adv`: one sequence number of the FIN may come after the bytes. -/
structure Receiving (next nxt adv : ℤ) (c : TCPConnection) : Prop where
  holding : c.receiveQueue.Holding c.maxRcvBuffer.toNat next adv
  rcv_nxt_eq : c.rcv_nxt = seqOf nxt
  rcv_adv_eq : c.rcv_adv = seqOf adv
  next_le : next ≤ nxt
  le_next : nxt ≤ next + 1
  nxt_le : nxt ≤ adv
  le_nxt : adv ≤ nxt + c.maxRcvBuffer.toNat
  rcv_wnd_le : c.rcv_wnd ≤ c.maxRcvBuffer
  maxRcvBuffer_lt : c.maxRcvBuffer.toNat < 2 ^ 31
  fitsHeader : c.FitsHeader

namespace Receiving

variable {next nxt adv : ℤ} {c c' : TCPConnection}

theorem congr (h : Receiving next nxt adv c) (hc : c'.receiveView = c.receiveView) : Receiving next nxt adv c' := by
  have hmax : c'.maxRcvBuffer = c.maxRcvBuffer := congrArg ReceiveView.maxRcvBuffer hc
  have hqueue : c'.receiveQueue = c.receiveQueue := congrArg ReceiveView.receiveQueue hc
  have hwnd : c'.rcv_wnd = c.rcv_wnd := congrArg ReceiveView.rcv_wnd hc
  have hws : c'.ws_enabled = c.ws_enabled := congrArg ReceiveView.ws_enabled hc
  have hscale : c'.rcv_wnd_scale = c.rcv_wnd_scale := congrArg ReceiveView.rcv_wnd_scale hc
  obtain ⟨h1, h2, h3, h4, h5, h6, h7, h8, h9, h10⟩ := h
  refine ⟨?_, (congrArg ReceiveView.rcv_nxt hc).trans h2, (congrArg ReceiveView.rcv_adv hc).trans h3, h4, h5, h6,
    ?_, ?_, ?_, ?_⟩
  · rw [hqueue, hmax]
    exact h1
  · rw [hmax]
    exact h7
  · rw [hwnd, hmax]
    exact h8
  · rw [hmax]
    exact h9
  · unfold FitsHeader
    rw [hws, hscale, hmax]
    exact h10

theorem promised_eq (h : Receiving next nxt adv c) : (c.rcv_adv - c.rcv_nxt).toNat = adv - nxt ∧
    c.promised = c.rcv_adv - c.rcv_nxt := by
  have hle := h.nxt_le
  have hle' := h.le_nxt
  have hmax := h.maxRcvBuffer_lt
  rw [promised, h.rcv_nxt_eq, h.rcv_adv_eq, if_pos ((seqLE_seqOf ⟨by omega, by omega⟩).mpr hle)]
  exact ⟨toNat_sub_of_near hle (by omega), rfl⟩

theorem freeRcvBuffer_le (c : TCPConnection) : c.freeRcvBuffer ≤ c.maxRcvBuffer := by
  unfold freeRcvBuffer
  dsimp only
  split
  · next hlt => bv_omega
  · bv_omega

theorem umax_le {a b bound : uint32} (ha : a ≤ bound) (hb : b ≤ bound) : umax a b ≤ bound := by
  unfold umax
  split
  · exact hb
  · exact ha

/-- The next window is not greater than what is free, or else than what is promised. -/
theorem nextRcvWnd_le (c : TCPConnection) : c.nextRcvWnd ≤ umax c.freeRcvBuffer (c.rcv_adv - c.rcv_nxt) ∧
    (c.ws_enabled = false → c.nextRcvWnd ≤ TCP_MAX_WIN) := by
  unfold nextRcvWnd
  dsimp only
  generalize c.freeRcvBuffer = free
  generalize c.rcv_adv - c.rcv_nxt = unused
  have hsilly : (if free < c.maxRcvBuffer / 4 && free < c.snd_mss then 0 else free) ≤ free := by
    split
    · bv_omega
    · exact BitVec.le_refl free
  generalize (if free < c.maxRcvBuffer / 4 && free < c.snd_mss then 0 else free) = win at hsilly ⊢
  have hkept : (if win < unused then unused else win) ≤ umax free unused := by
    unfold umax
    split <;> split <;> bv_omega
  generalize (if win < unused then unused else win) = win at hkept ⊢
  have hlimit : (if win > TCP_MAX_WIN && !c.ws_enabled then TCP_MAX_WIN else win) ≤ win := by
    split
    · next hgt =>
      rw [Bool.and_eq_true, decide_eq_true_eq] at hgt
      exact BitVec.le_of_lt hgt.1
    · exact BitVec.le_refl win
  refine ⟨BitVec.le_trans hlimit hkept, fun hws => ?_⟩
  rw [hws]
  split
  · exact BitVec.le_refl _
  · next hgt =>
    rw [Bool.not_false, Bool.and_true, decide_eq_true_eq] at hgt
    exact BitVec.not_lt.mp hgt

section

variable (h : Receiving next nxt adv c)
include h

theorem updateRcvWnd : c.KeepsPromise ∧
    ∃ c' window adv', c.updateRcvWnd = .ok (c', window) ∧ Receiving next nxt adv' c' ∧ adv ≤ adv' := by
  obtain ⟨hpromised, heq⟩ := h.promised_eq
  obtain ⟨hwin, hlimit⟩ := nextRcvWnd_le c
  have hle := h.nxt_le
  have hle' := h.le_nxt
  have hmax := h.maxRcvBuffer_lt
  have hbuffer : c.nextRcvWnd ≤ c.maxRcvBuffer := by
    refine BitVec.le_trans hwin (umax_le (freeRcvBuffer_le c) ?_)
    bv_omega
  have hscaled : ∃ window, c.scaleRcvWnd c.nextRcvWnd = .ok window ∧ window ≤ TCP_MAX_WIN := by
    unfold scaleRcvWnd
    cases hws : c.ws_enabled with
    | false => exact ⟨_, rfl, hlimit hws⟩
    | true =>
      obtain ⟨hscale, hfits⟩ := h.fitsHeader hws
      have hshift : c.nextRcvWnd >>> c.rcv_wnd_scale ≤ TCP_MAX_WIN := by
        refine BitVec.le_trans ?_ hfits
        rw [BitVec.le_def, BitVec.toNat_ushiftRight, BitVec.toNat_ushiftRight, Nat.shiftRight_eq_div_pow,
          Nat.shiftRight_eq_div_pow]
        exact Nat.div_le_div_right hbuffer
      by_cases hzero : c.rcv_wnd_scale = 0
      · rw [if_neg (by simp [hzero])]
        refine ⟨_, rfl, ?_⟩
        rw [hzero] at hshift
        exact hshift
      · rw [if_pos (by simp [hzero]), assert_bind hscale]
        exact ⟨_, rfl, hshift⟩
  obtain ⟨window, hscale, hwindow⟩ := hscaled
  have hcall : c.updateRcvWnd = .ok ({ c with
      rcv_adv := if c.nextRcvWnd > 0 && seqGE (c.rcv_nxt + c.nextRcvWnd) c.rcv_adv then c.rcv_nxt + c.nextRcvWnd
        else c.rcv_adv
      rcv_wnd := c.nextRcvWnd }, window) := by
    unfold TCPConnection.updateRcvWnd
    dsimp only
    rw [hscale]
    exact assert_bind hwindow
  have hedge : ∃ adv', (if c.nextRcvWnd > 0 && seqGE (c.rcv_nxt + c.nextRcvWnd) c.rcv_adv then
      c.rcv_nxt + c.nextRcvWnd else c.rcv_adv) = seqOf adv' ∧ adv ≤ adv' ∧ adv' ≤ nxt + c.maxRcvBuffer.toNat := by
    have hsum : c.rcv_nxt + c.nextRcvWnd = seqOf (nxt + c.nextRcvWnd.toNat) := by
      rw [h.rcv_nxt_eq, ← seqOf_add, seqOf_toNat]
    have hlt : c.nextRcvWnd.toNat ≤ c.maxRcvBuffer.toNat := hbuffer
    split
    · next hraise =>
      rw [Bool.and_eq_true, hsum, h.rcv_adv_eq, seqGE_seqOf ⟨by omega, by omega⟩] at hraise
      exact ⟨_, hsum, hraise.2, by omega⟩
    · exact ⟨adv, h.rcv_adv_eq, le_refl _, hle'⟩
  obtain ⟨adv', hadv, hge, hbound⟩ := hedge
  refine ⟨⟨_, window, hcall, ?_, ?_, ?_⟩, _, window, adv', hcall, ?_, hge⟩
  · rw [h.rcv_adv_eq] at hadv ⊢
    rw [hadv, seqLE_seqOf ⟨by omega, by omega⟩]
    exact hge
  · dsimp only
    rw [hadv, h.rcv_nxt_eq, seqLE_seqOf ⟨by omega, by omega⟩]
    exact hle.trans hge
  · rw [heq]
    exact hwin
  · exact ⟨h.holding.mono hge, h.rcv_nxt_eq, hadv, h.next_le, h.le_next, hle.trans hge, hbound, hbuffer, hmax,
      h.fitsHeader⟩

theorem nxt_eq_next (hfin : c.rcv_nxt = c.receiveQueue.rcv_nxt) : nxt = next := by
  have hle := h.next_le
  have hle' := h.le_next
  rw [h.rcv_nxt_eq, h.holding.rcv_nxt_eq, seqOf_inj ⟨by omega, by omega⟩] at hfin
  exact hfin

theorem exists_text {seg : ReceivedSegment} (htext : c.isText seg = true)
    (hroom : seg.getPayloadLength + c.maxRcvBuffer.toNat < 2 ^ 31) :
    ∃ s : ℤ, seg.tcpseg.sequenceNo = seqOf s ∧ 0 < seg.tcpseg.payloadLength ∧
      nxt < s + seg.tcpseg.payloadLength ∧ s < nxt + c.rcv_wnd.toNat ∧ nxt + c.rcv_wnd.toNat < s + 2 ^ 31 ∧
      s + seg.tcpseg.payloadLength < nxt + 2 ^ 31 ∧
      (nxt ≤ s ∨ s + seg.tcpseg.payloadLength ≤ nxt + c.rcv_wnd.toNat) := by
  have hwnd : c.rcv_wnd.toNat ≤ c.maxRcvBuffer.toNat := h.rcv_wnd_le
  have hmax := h.maxRcvBuffer_lt
  rw [isText, Bool.and_eq_true, decide_eq_true_eq] at htext
  obtain ⟨haccept, hpos⟩ := htext
  have hlength : seg.getPayloadLength = seg.tcpseg.payloadLength := rfl
  have hseq : seg.getSequenceNo = seg.tcpseg.sequenceNo := rfl
  have hlen : BitVec.ofNat 32 seg.getPayloadLength ≠ 0 := by
    intro hzero
    have hmod := congrArg BitVec.toNat hzero
    rw [BitVec.toNat_ofNat, Nat.mod_eq_of_lt (by omega)] at hmod
    exact absurd hmod (by simpa using hpos.ne')
  unfold isSegmentAcceptable at haccept
  dsimp only at haccept
  rw [if_neg hlen, Bool.and_eq_true, Bool.or_eq_true, Bool.and_eq_true, Bool.and_eq_true, hlength, hseq] at haccept
  have hend : c.rcv_nxt + c.rcv_wnd = seqOf (nxt + c.rcv_wnd.toNat) := by
    rw [h.rcv_nxt_eq, ← seqOf_add, seqOf_toNat]
  obtain ⟨-, ⟨hle, hlt⟩ | ⟨hlt, hle⟩⟩ := haccept
  · -- it begins in the window
    have hs : seg.tcpseg.sequenceNo = seqOf (nxt + (seg.tcpseg.sequenceNo - c.rcv_nxt).toNat) := by
      rw [← seqOf_add, seqOf_toNat, ← h.rcv_nxt_eq]
      bv_omega
    rw [seqLE, decide_eq_true_eq] at hle
    rw [hend, hs, seqLess_seqOf ⟨by omega, by omega⟩] at hlt
    exact ⟨_, hs, by omega, by omega, hlt, by omega, by omega, .inl (by omega)⟩
  · -- it ends in the window
    have hs : seg.tcpseg.sequenceNo = seqOf (nxt + (seg.tcpseg.sequenceNo +
        BitVec.ofNat 32 seg.tcpseg.payloadLength - c.rcv_nxt).toNat - seg.tcpseg.payloadLength) := by
      rw [← seqOf_sub, ← seqOf_add, seqOf_toNat, ← h.rcv_nxt_eq, ← seqOf_natCast]
      bv_omega
    have he : seg.tcpseg.sequenceNo + BitVec.ofNat 32 seg.tcpseg.payloadLength = seqOf (nxt + (seg.tcpseg.sequenceNo +
        BitVec.ofNat 32 seg.tcpseg.payloadLength - c.rcv_nxt).toNat) := by
      rw [← seqOf_add, seqOf_toNat, ← h.rcv_nxt_eq]
      bv_omega
    have hbefore : 0 < (seg.tcpseg.sequenceNo + BitVec.ofNat 32 seg.tcpseg.payloadLength - c.rcv_nxt).toNat ∧
        (seg.tcpseg.sequenceNo + BitVec.ofNat 32 seg.tcpseg.payloadLength - c.rcv_nxt).toNat < 2 ^ 31 := by
      rw [seqLess, decide_eq_true_eq] at hlt
      exact ⟨by bv_omega, hlt.2⟩
    rw [he, hend, seqLE_seqOf ⟨by omega, by omega⟩] at hle
    exact ⟨_, hs, by omega, by omega, by omega, by omega, by omega, .inr (by omega)⟩

theorem insertText {seg : ReceivedSegment} (htext : c.isText seg = true)
    (hallows : c.Allows (.text seg)) :
    ∃ c' next' nxt', c.insertText seg = .ok c' ∧ Receiving next' nxt' adv c' := by
  obtain ⟨hfin, hbytes, hroom, hedge⟩ := hallows htext
  obtain ⟨s, hseq, hpos, hlow, hhigh, hleft, hright, hinside⟩ := h.exists_text htext hroom
  have hwnd : c.rcv_wnd.toNat ≤ c.maxRcvBuffer.toNat := h.rcv_wnd_le
  have hmax := h.maxRcvBuffer_lt
  have hnxt := h.nxt_le
  have hadv := h.le_nxt
  have hnext := h.nxt_eq_next hfin
  have hlength : seg.getPayloadLength = seg.tcpseg.payloadLength := rfl
  have hend : c.rcv_nxt + c.rcv_wnd = seqOf (nxt + c.rcv_wnd.toNat) := by
    rw [h.rcv_nxt_eq, ← seqOf_add, seqOf_toNat]
  have hsegEnd : seg.tcpseg.endSeq = seqOf (s + seg.tcpseg.payloadLength) := by
    rw [TCPSegment.endSeq, hseq, seqOf_natCast, seqOf_add]
  obtain ⟨tcpseg, htruncate, hfirst, hlast⟩ := TCPSegment.truncateSegment_of_reaches hbytes hseq hlow
    hhigh hleft hright (by omega) hinside hpos
  have hbelow : max nxt s + tcpseg.payloadLength ≤ adv := by
    rcases hedge with hle | hle
    · rw [hsegEnd, h.rcv_adv_eq, seqLE_seqOf ⟨by omega, by omega⟩] at hle
      omega
    · rw [hend, h.rcv_adv_eq, seqLE_seqOf ⟨by omega, by omega⟩] at hle
      omega
  unfold TCPConnection.insertText
  rw [hend, h.rcv_nxt_eq, htruncate]
  dsimp only [bind, Except.bind]
  split
  · next hspace =>
    rw [hasEnoughSpaceForSegmentInReceiveQueue, Bool.and_eq_true] at hspace
    have hcapacity : BitVec.ofNat 32 c.maxRcvBuffer.toNat = c.maxRcvBuffer := BitVec.ofNat_toNat _ _
    obtain ⟨q', next', hq', hholding, hge, hle⟩ := h.holding.insert (by omega) hfirst (by omega) (by omega) hbelow
      hmax (by omega) (by rw [hcapacity]; exact hspace.2)
    rw [hq']
    exact ⟨_, next', next', rfl, hholding, rfl, h.rcv_adv_eq, le_refl _, by omega, hle, by dsimp only; omega,
      h.rcv_wnd_le, hmax, h.fitsHeader⟩
  · exact ⟨c, next, nxt, rfl, h⟩

theorem extractAll (hallows : c.Allows .extract) :
    ∃ c', c.extractAll = .ok c' ∧ Receiving next nxt adv c' := by
  obtain ⟨q', hq', hholding⟩ := h.holding.extractLoop (c.receiveQueue.regionList.length + 1) h.maxRcvBuffer_lt
  rw [← h.nxt_eq_next hallows, ← h.rcv_nxt_eq] at hq'
  rw [TCPConnection.extractAll, hq']
  exact ⟨_, rfl, hholding, h.rcv_nxt_eq, h.rcv_adv_eq, h.next_le, h.le_next, h.nxt_le, h.le_nxt, h.rcv_wnd_le,
    h.maxRcvBuffer_lt, h.fitsHeader⟩

theorem fin (hallows : c.Allows .fin) :
    Receiving next (nxt + 1) adv { c with rcv_nxt := c.rcv_nxt + 1 } := by
  have hle := h.nxt_le
  have hle' := h.le_nxt
  have hmax := h.maxRcvBuffer_lt
  have hnext := h.nxt_eq_next hallows.1
  have hne := hallows.2
  rw [h.rcv_nxt_eq, h.rcv_adv_eq, ne_eq, seqOf_inj ⟨by omega, by omega⟩] at hne
  have hone : c.rcv_nxt + 1 = seqOf (nxt + 1) := by
    rw [h.rcv_nxt_eq, ← seqOf_add]
    rfl
  exact ⟨h.holding, hone, h.rcv_adv_eq, by omega, by omega, by omega, by dsimp only; omega, h.rcv_wnd_le, hmax,
    h.fitsHeader⟩

theorem move {m : Move} (hallows : c.Allows m) :
    ∃ c' next' nxt' adv', c.move m = .ok c' ∧ Receiving next' nxt' adv' c' := by
  cases m with
  | text seg =>
    unfold TCPConnection.move
    dsimp only
    split
    · next htext =>
      obtain ⟨c', next', nxt', hc', h'⟩ := h.insertText htext hallows
      exact ⟨c', next', nxt', adv, hc', h'⟩
    · exact ⟨c, next, nxt, adv, rfl, h⟩
  | fin => exact ⟨_, next, nxt + 1, adv, rfl, h.fin hallows⟩
  | extract =>
    obtain ⟨c', hc', h'⟩ := h.extractAll hallows
    exact ⟨c', next, nxt, adv, hc', h'⟩
  | updateRcvWnd =>
    obtain ⟨-, c', window, adv', hc', h', -⟩ := h.updateRcvWnd
    refine ⟨c', next, nxt, adv', ?_, h'⟩
    unfold TCPConnection.move
    dsimp only
    rw [hc']
    rfl
  | other c' =>
    unfold TCPConnection.move
    dsimp only
    split
    · next hview => exact ⟨c', next, nxt, adv, rfl, h.congr hview⟩
    · exact ⟨c, next, nxt, adv, rfl, h⟩

end

end Receiving

theorem Synchronized.receiving {c : TCPConnection} (h : c.Synchronized) :
    Receiving c.rcv_nxt.toNat c.rcv_nxt.toNat (c.rcv_nxt.toNat + c.rcv_wnd.toNat) c := by
  have hle : c.rcv_wnd.toNat ≤ c.maxRcvBuffer.toNat := h.rcv_wnd_le
  refine ⟨?_, (seqOf_toNat _).symm, ?_, le_refl _, by omega, by omega, by omega, h.rcv_wnd_le, h.maxRcvBuffer_lt,
    h.fitsHeader⟩
  · rw [h.receiveQueue_eq]
    exact TCPVirtualDataRcvQueue.Holding.init _ _ _
  · rw [h.rcv_adv_eq, ← seqOf_add, seqOf_toNat, seqOf_toNat]

/-- The receiving side after every run of moves that meet the condition. -/
theorem exists_receiving {history : List (Move × (TCPConnection × Unit))} {c : TCPConnection}
    (hrun : Run Synchronized (StepOf (traced stepReceiver)) history c)
    (hallows : Always (fun _ l => l.2.1.Allows l.1) history) :
    ∃ next nxt adv, Receiving next nxt adv c := by
  induction hrun with
  | init hinit => exact ⟨_, _, _, hinit.receiving⟩
  | @step history s s' l hrun hstep ih =>
    obtain ⟨m, before, o⟩ := l
    obtain ⟨hearlier, hnow⟩ := hallows
    obtain ⟨rfl, htaken⟩ := traced_eq_some.mp hstep
    obtain ⟨next, nxt, adv, h⟩ := ih hearlier
    obtain ⟨c', next', nxt', adv', hc', h'⟩ := h.move hnow
    rw [stepReceiver, hc'] at htaken
    cases htaken
    exact ⟨next', nxt', adv', h'⟩

/-- The advertised window never shrinks, and no assertion of the receiving side fails, in every run of text, FINs,
extractions and advertisements that meet the condition. -/
theorem advertisedWindow_kept {history : List (Move × (TCPConnection × Unit))} {c : TCPConnection}
    (hrun : Run Synchronized (StepOf (traced stepReceiver)) history c)
    (hallows : Always (fun _ l => l.2.1.Allows l.1) history) :
    c.KeepsPromise ∧ ∀ m, c.Allows m → ∃ c', c.move m = .ok c' := by
  obtain ⟨next, nxt, adv, h⟩ := exists_receiving hrun hallows
  refine ⟨h.updateRcvWnd.1, fun m hm => ?_⟩
  obtain ⟨c', -, -, -, hc', -⟩ := h.move hm
  exact ⟨c', hc'⟩

instance (c : TCPConnection) : Decidable c.KeepsPromise :=
  match hcall : c.updateRcvWnd with
  | .ok (c', window) =>
    decidable_of_iff (seqLE c.rcv_adv c'.rcv_adv = true ∧ seqLE c'.rcv_nxt c'.rcv_adv = true ∧
        c'.rcv_wnd ≤ umax c.freeRcvBuffer c.promised) ⟨fun h => ⟨c', window, hcall, h⟩, fun h => by
      obtain ⟨_, _, heq, h⟩ := h
      obtain ⟨rfl, rfl⟩ := Prod.mk.inj (Except.ok.inj (hcall.symm.trans heq))
      exact h⟩
  | .error _ => .isFalse fun h => by
    obtain ⟨_, _, heq, -⟩ := h
    cases hcall.symm.trans heq

/-- A receive buffer of four bytes, all of which are advertised. -/
def fourBytes (ws_enabled : Bool) : TCPConnection where
  flavour := .TCPReno
  snd_mss := 536
  snd_una := 1
  snd_nxt := 1
  snd_max := 1
  snd_wnd := 4
  snd_wl1 := 0
  snd_wl2 := 1
  rcv_nxt := 1
  rcv_wnd := 4
  rcv_adv := 5
  maxRcvBuffer := 4
  ws_enabled := ws_enabled
  sendQueue := ⟨1, 1⟩
  receiveQueue := .init 1
  rexmitQueue := ⟨[], 1, 1⟩

theorem fourBytes_synchronized (ws_enabled : Bool) : (fourBytes ws_enabled).Synchronized :=
  by
  refine ⟨rfl, rfl, ?_, ?_, fun _ => ⟨?_, ?_⟩⟩
  all_goals cases ws_enabled <;> decide

/-- Four bytes and the FIN. -/
def lastSegment : ReceivedSegment where
  tcpseg := ⟨1, 4, [], []⟩
  ackNo := 1
  window := 4
  finBit := true

/-- Text that fills the window, taken at once, and the FIN after the next advertisement. -/
theorem advertisedWindow_kept_lastSegment : ∃ c history,
    Run Synchronized (StepOf (traced stepReceiver)) history c ∧ c.rcv_nxt = 6 ∧ c.KeepsPromise := by
  obtain ⟨c, history, hrun, hnxt, hallows⟩ := exists_run_of_initial (traced stepReceiver)
    (fourBytes_synchronized true) [.text lastSegment, .extract, .updateRcvWnd, .fin]
    (fun c history => c.rcv_nxt = 6 ∧ Always (fun _ l => l.2.1.Allows l.1) history) (by decide +kernel)
  exact ⟨c, history, hrun, hnxt, (advertisedWindow_kept hrun hallows).1⟩

/-- A FIN that comes when the window is full: 65535 bytes are advertised although four are free, and with window
scaling the simulation ends in an assertion. -/
theorem not_advertisedWindow_kept :
    (∃ c history, Run Synchronized (StepOf (traced stepReceiver)) history c ∧ ¬c.KeepsPromise) ∧
      (fourBytes true).handle (1, .segment lastSegment) = .error
        (.cRuntimeError "ASSERT: Condition 'scaled_rcv_wnd == (unsigned short)scaled_rcv_wnd' does not hold") := by
  constructor
  · exact exists_run_of_initial (traced stepReceiver) (fourBytes_synchronized false)
      [.text lastSegment, .extract, .fin] (fun c _ => ¬c.KeepsPromise) (by decide +kernel)
  · rfl

end TCPConnection

end inet.tcp

import LoRaInet.TransportLayer.Tcp.MessageTransfer.Receiver

open container omnetpp interval transition

namespace inet.tcp.MessageTransfer

variable {M : Type} {start : ℤ} {arrived : Set ℕ} {t t' : MessageTransfer M}

/-- The two queues and all segments agree on one list of messages. -/
structure Consistent (start : ℤ) (arrived : Set ℕ) (t : MessageTransfer M) : Prop where
  ordered : Ordered t.sent t.total
  sender : Holds t.sendQueue start t.sent t.discarded t.total
  segments : ∀ s ∈ t.segments, Carries start t.sent s ∧
    s.index + s.tcpseg.payloadLength ≤ t.total
  extracted_le : t.extracted ≤ t.total
  arrived_lt : ∀ i ∈ arrived, i < t.total
  receiver : ∃ bytes blocks, Stores t.receiveQueue start t.sent arrived t.extracted bytes blocks
  delivered_eq : t.delivered = (t.sent.filter fun m => m.endIndex ≤ t.extracted).map (·.msg)

/-- The indices of the bytes that an event brings. -/
def Event.bytes : Event M → Set ℕ
  | .insertBytesFromSegment s => Set.Ico s.index (s.index + s.tcpseg.payloadLength)
  | _ => ∅

theorem consistent_init (startSeq : uint32) :
    Consistent startSeq.toNat ∅ (init startSeq : MessageTransfer M) where
  ordered := by
    constructor
    · exact List.Pairwise.nil
    · simp [init]
    · simp [init]
  sender := by
    constructor
    · simp [init, TCPMsgBasedSendQueue.init, seqOf_toNat]
    · simp [init, TCPMsgBasedSendQueue.init, seqOf_toNat]
    · simp [init, TCPMsgBasedSendQueue.init]
    · exact le_refl _
    · simp [init]
  segments := by simp [init]
  extracted_le := le_refl _
  arrived_lt := by simp
  receiver := by
    refine ⟨.init startSeq.toNat, [], ?_⟩
    constructor
    · exact TCPVirtualDataRcvQueue.buffers_init VirtualRegion.laws startSeq
    · rfl
    · simp [init]
    · simp
    · exact ⟨[], rfl, .nil, by simp [init]⟩
  delivered_eq := by simp [init]

theorem Consistent.enqueueAppData (h : Consistent start arrived t) {msg : M} {byteLength : ℕ}
    {o : Option M} (hallowed : t.Allowed (.enqueueAppData msg byteLength))
    (hcall : t.handle (.enqueueAppData msg byteLength) = .ok (t', o)) :
    Consistent start arrived t' := by
  obtain ⟨hpos, hwindow⟩ := hallowed
  obtain ⟨sendQueue, henqueue, heq⟩ := bind_eq_ok_iff.mp hcall
  cases heq
  have hextracted := h.extracted_le
  constructor
  case ordered => exact h.ordered.append hpos msg
  case sender => exact h.sender.enqueueAppData hwindow hpos henqueue
  case segments =>
    intro s hs
    obtain ⟨hcarries, hbound⟩ := h.segments s hs
    refine ⟨hcarries.append hbound ?_, ?_⟩
    · dsimp only
      omega
    · dsimp only
      omega
  case extracted_le =>
    dsimp only
    omega
  case arrived_lt =>
    intro i hi
    have hlt := h.arrived_lt i hi
    dsimp only
    omega
  case receiver =>
    obtain ⟨bytes, blocks, hstores⟩ := h.receiver
    obtain ⟨kept, hkept, hascending, hmem⟩ := hstores.payloadList_eq
    refine ⟨bytes, blocks, hstores.buffers, hstores.start_eq, hstores.first_eq,
      hstores.received_eq, kept, hkept, hascending, fun m => ?_⟩
    have hnew : ∀ m : SentMessage M, m.endIndex = t.total + byteLength →
        start + m.endIndex - 1 ∉ bytes.buffered := by
      intro m hm hin
      have hreceived := hin.1
      rw [hstores.received_eq] at hreceived
      obtain ⟨i, hi, hp⟩ := hreceived
      have hlt := h.arrived_lt i hi
      omega
    rw [hmem, List.mem_append, List.mem_singleton]
    constructor
    · exact fun ⟨hsent, hin⟩ => ⟨.inl hsent, hin⟩
    · rintro ⟨hsent | heq, hin⟩
      · exact ⟨hsent, hin⟩
      · exact absurd hin (hnew m (heq ▸ rfl))
  case delivered_eq =>
    have hnot : ¬t.total + byteLength ≤ t.extracted := by omega
    rw [h.delivered_eq, List.filter_append]
    simp [hnot]

theorem Consistent.insertBytesFromSegment (h : Consistent start arrived t) {s : InFlight M}
    (hs : s ∈ t.segments) (hallowed : t.Allowed (.insertBytesFromSegment s)) :
    ∃ t', t.handle (.insertBytesFromSegment s) = .ok (t', none) ∧
      Consistent start ((Event.insertBytesFromSegment s).bytes ∪ arrived) t' := by
  obtain ⟨hpos, hlow, hhigh⟩ := hallowed
  obtain ⟨hcarries, hbound⟩ := h.segments s hs
  obtain ⟨bytes, blocks, hstores⟩ := h.receiver
  obtain ⟨q', seq, bytes', blocks', hq', hstores'⟩ :=
    hstores.insertBytesFromSegment h.ordered hcarries hpos hlow hhigh
  refine ⟨{ t with receiveQueue := q' }, ?_, h.ordered, h.sender, h.segments, h.extracted_le, ?_,
    ⟨bytes', blocks', hstores'⟩, h.delivered_eq⟩
  · rw [handle, hq']
    rfl
  · rintro i (hi | hi)
    · exact hi.2.trans_le hbound
    · exact h.arrived_lt i hi

variable {sent : List (SentMessage M)}

theorem next_of_stores {q : TCPMsgBasedRcvQueue M} {extracted : ℕ}
    {bytes : ReceivedBytes} {blocks : List (Block ℤ)}
    (h : Stores q start sent arrived extracted bytes blocks) :
    ∃ n : ℕ, IsLeast {i | i ∉ arrived} n ∧ bytes.next = start + n := by
  have hwf := h.buffers.wellFormed
  have hstart := hwf.start_le_next
  have hstartEq := h.start_eq
  refine ⟨(bytes.next - start).toNat, ⟨fun hmem => ?_, fun i hi => ?_⟩, by omega⟩
  · apply hwf.next_notMem
    rw [h.received_eq]
    exact ⟨_, hmem, by omega⟩
  · by_contra hlt
    have hreceived : start + i ∈ bytes.received := hwf.mem_received (by omega) (by omega)
    rw [h.received_eq] at hreceived
    obtain ⟨j, hj, heq⟩ := hreceived
    have hij : i = j := by omega
    exact hi (hij ▸ hj)

theorem Consistent.exists_next (h : Consistent start arrived t) :
    ∃ n, IsLeast {i | i ∉ arrived} n ∧ t.receiveQueue.rcv_nxt = seqOf (start + n) ∧
      t.extracted ≤ n ∧ n ≤ t.total := by
  obtain ⟨bytes, blocks, hstores⟩ := h.receiver
  obtain ⟨n, hleast, hnext⟩ := next_of_stores hstores
  have hfirst := hstores.buffers.wellFormed.first_le_next
  have hfirstEq := hstores.first_eq
  refine ⟨n, hleast, ?_, by omega, hleast.2 fun hmem => lt_irrefl _ (h.arrived_lt _ hmem)⟩
  rw [hstores.buffers.rcv_nxt_eq, hnext]

/-- An extraction delivers at most one message, and none only when no message that
is complete is left. -/
theorem Consistent.extractBytesUpTo (h : Consistent start arrived t) :
    ∃ t' msg, t.handle .extractBytesUpTo = .ok (t', msg) ∧ Consistent start arrived t' ∧
      t'.sent = t.sent ∧ t'.delivered = t.delivered ++ msg.toList ∧
      ∀ n, IsLeast {i | i ∉ arrived} n → msg = none → t'.extracted = n := by
  obtain ⟨bytes, blocks, hstores⟩ := h.receiver
  obtain ⟨q', msg, extracted', bytes', blocks', hq', hextracted', hle, hnext, hstores', hnone,
    hparts, hmsgs⟩ := hstores.extractBytesUpTo h.ordered
  obtain ⟨n, hleast, hnextEq⟩ := next_of_stores hstores
  have htotal : n ≤ t.total := hleast.2 fun hmem => lt_irrefl _ (h.arrived_lt _ hmem)
  refine ⟨{ t with
    receiveQueue := q'
    extracted := extracted'
    delivered := t.delivered ++ msg.toList }, msg, ?_, ⟨h.ordered, h.sender, h.segments, ?_,
    h.arrived_lt, ⟨bytes', blocks', hstores'⟩, ?_⟩, rfl, rfl, ?_⟩
  · rw [handle, hq', hextracted']
    rfl
  · dsimp only
    omega
  · dsimp only
    rw [hparts, List.map_append, hmsgs, h.delivered_eq]
  · intro n' hleast' hmsg
    have hsame := hleast'.unique hleast
    have hall := hnone hmsg
    dsimp only
    omega

theorem step_eq_some [DecidableEq M] {e : Event M} {o : Option M} :
    step t e = some (t', o) ↔ t.Possible e ∧ t.handle e = .ok (t', o) := by
  unfold step
  split
  · next hpossible =>
    cases hcall : t.handle e with
    | error fault => simp [Except.toOption]
    | ok r => simp [Except.toOption, hpossible]
  · next hnot => simp [hnot]

theorem Consistent.step (h : Consistent start arrived t) {e : Event M} {o : Option M}
    (hpossible : t.Possible e) (hallowed : t.Allowed e) (hcall : t.handle e = .ok (t', o)) :
    Consistent start (e.bytes ∪ arrived) t' := by
  cases e with
  | enqueueAppData msg byteLength =>
    simp only [Event.bytes, Set.empty_union]
    exact h.enqueueAppData hallowed hcall
  | createSegmentWithBytes fromSeq numBytes =>
    obtain ⟨tcpseg, hcreate, heq⟩ := bind_eq_ok_iff.mp hcall
    cases heq
    simp only [Event.bytes, Set.empty_union]
    refine ⟨h.ordered, h.sender, ?_, h.extracted_le, h.arrived_lt, h.receiver, h.delivered_eq⟩
    intro s hs
    cases List.mem_cons.mp hs with
    | inl heq =>
      rw [heq]
      exact h.sender.createSegmentWithBytes h.ordered hallowed hcreate
    | inr hmem => exact h.segments s hmem
  | discardUpTo seqNum =>
    obtain ⟨sendQueue, hdiscard, heq⟩ := bind_eq_ok_iff.mp hcall
    cases heq
    simp only [Event.bytes, Set.empty_union]
    exact ⟨h.ordered, h.sender.discardUpTo h.ordered hdiscard, h.segments, h.extracted_le,
      h.arrived_lt, h.receiver, h.delivered_eq⟩
  | truncateSegment s firstSeqNo endSeqNo =>
    obtain ⟨s', htruncate, heq⟩ := bind_eq_ok_iff.mp hcall
    cases heq
    obtain ⟨hcarries, hbound⟩ := h.segments s hpossible
    obtain ⟨hcarries', hbound'⟩ := hcarries.truncateSegment h.ordered htruncate
    simp only [Event.bytes, Set.empty_union]
    refine ⟨h.ordered, h.sender, ?_, h.extracted_le, h.arrived_lt, h.receiver, h.delivered_eq⟩
    intro s'' hs''
    cases List.mem_cons.mp hs'' with
    | inl heq =>
      rw [heq]
      exact ⟨hcarries', hbound'.trans hbound⟩
    | inr hmem => exact h.segments s'' hmem
  | insertBytesFromSegment s =>
    obtain ⟨t'', hcall', hconsistent⟩ := h.insertBytesFromSegment hpossible hallowed
    obtain ⟨rfl, -⟩ := Prod.mk.inj (Except.ok.inj (hcall'.symm.trans hcall))
    exact hconsistent
  | extractBytesUpTo =>
    obtain ⟨t'', msg, hcall', hconsistent, -⟩ := h.extractBytesUpTo
    obtain ⟨rfl, -⟩ := Prod.mk.inj (Except.ok.inj (hcall'.symm.trans hcall))
    simp only [Event.bytes, Set.empty_union]
    exact hconsistent

/-- The bytes that have arrived in a history. -/
def Arrived {L : Type} : List (Event M × L) → Set ℕ
  | [] => ∅
  | (e, _) :: history => e.bytes ∪ Arrived history

theorem consistent_of_run [DecidableEq M] {startSeq : uint32} {history} {t : MessageTransfer M}
    (hrun : Run (· = init startSeq) (StepOf (traced step)) history t)
    (hallowed : Always (fun _ l => l.2.1.Allowed l.1) history) :
    Consistent startSeq.toNat (Arrived history) t := by
  induction hrun with
  | init hinit => exact hinit ▸ consistent_init startSeq
  | @step history s s' l hrun hstep ih =>
    obtain ⟨e, before, o⟩ := l
    obtain ⟨hearlier, hnow⟩ := hallowed
    obtain ⟨rfl, htaken⟩ := traced_eq_some.mp hstep
    obtain ⟨hpossible, hcall⟩ := step_eq_some.mp htaken
    exact (ih hearlier).step hpossible hnow hcall

theorem Ordered.prefix_filter {total : ℕ} (h : Ordered sent total)
    {j k : ℕ} (hjk : j ≤ k) : (sent.filter fun m => m.endIndex ≤ j).map (·.msg) <+:
      (sent.filter fun m => m.endIndex ≤ k).map (·.msg) := by
  rw [h.ascending.filter_le hjk, List.map_append]
  exact List.prefix_append _ _

theorem Ordered.filter_total {total : ℕ} (h : Ordered sent total) :
    (sent.filter fun m => m.endIndex ≤ total) = sent :=
  List.filter_eq_self.mpr fun m hm => decide_eq_true (h.le_total m hm)

/-- Messages are delivered once each and in the order sent, only when all bytes up
to their end have arrived, and an extraction that returns none has left none. -/
theorem delivered_in_order [DecidableEq M] {startSeq : uint32} {history} {t : MessageTransfer M}
    (hrun : Run (· = init startSeq) (StepOf (traced step)) history t)
    (hallowed : Always (fun _ l => l.2.1.Allowed l.1) history) :
    ∃ n, IsLeast {i | i ∉ Arrived history} n ∧
      t.receiveQueue.rcv_nxt = startSeq + BitVec.ofNat 32 n ∧
      t.delivered <+: t.sent.map (·.msg) ∧
      t.delivered <+: (t.sent.filter fun m => m.endIndex ≤ n).map (·.msg) ∧
      (∃ t' msg, step t .extractBytesUpTo = some (t', msg) ∧ t'.sent = t.sent ∧
        t'.delivered = t.delivered ++ msg.toList ∧
        (msg = none → t'.delivered = (t.sent.filter fun m => m.endIndex ≤ n).map (·.msg))) ∧
      ∀ s, t.Possible (.insertBytesFromSegment s) → t.Allowed (.insertBytesFromSegment s) →
        ∃ t', step t (.insertBytesFromSegment s) = some (t', none) := by
  have hconsistent := consistent_of_run hrun hallowed
  obtain ⟨n, hleast, hnext, hextracted, htotal⟩ := hconsistent.exists_next
  have hordered := hconsistent.ordered
  refine ⟨n, hleast, ?_, ?_, ?_, ?_, fun s hpossible hallowed => ?_⟩
  · rw [hnext, ← seqOf_add, seqOf_toNat, seqOf_natCast]
  · have hbegins := hordered.prefix_filter (hextracted.trans htotal)
    rw [hordered.filter_total] at hbegins
    exact hconsistent.delivered_eq ▸ hbegins
  · exact hconsistent.delivered_eq ▸ hordered.prefix_filter hextracted
  · obtain ⟨t', msg, hcall, hconsistent', hsent, hdelivered, hnone⟩ := hconsistent.extractBytesUpTo
    refine ⟨t', msg, step_eq_some.mpr ⟨trivial, hcall⟩, hsent, hdelivered, fun hmsg => ?_⟩
    rw [hconsistent'.delivered_eq, hsent, hnone n hleast hmsg]
  · obtain ⟨t', hcall, -⟩ := hconsistent.insertBytesFromSegment hpossible hallowed
    exact ⟨t', step_eq_some.mpr ⟨hpossible, hcall⟩⟩

def msgSegment (index : ℕ) (sequenceNo : uint32) (payloadLength : ℕ)
    (payloadList : List (TCPPayloadMessage M)) : InFlight M where
  index := index
  tcpseg := {
    sequenceNo := sequenceNo
    payloadLength := payloadLength
    byteArray := []
    payloadList := payloadList }

/-- Two messages across the wraparound. The end of the first one arrives before
its beginning, which comes with a second copy of it. -/
def overlapping : List (Event String) :=
  [.enqueueAppData "a" 4, .enqueueAppData "b" 2, .createSegmentWithBytes 0 4,
    .createSegmentWithBytes 4294967294 5,
    .insertBytesFromSegment (msgSegment 2 0 4 [⟨"a", 2⟩, ⟨"b", 4⟩]), .extractBytesUpTo,
    .insertBytesFromSegment (msgSegment 0 4294967294 5 [⟨"a", 2⟩]), .extractBytesUpTo,
    .extractBytesUpTo]

theorem delivered_in_order_overlapping : ∃ t : MessageTransfer String,
    t.delivered = ["a", "b"] ∧ t.delivered <+: t.sent.map (·.msg) := by
  obtain ⟨t, history, hrun, hallowed, hdelivered⟩ := exists_run_of_execute (traced step)
    (init 4294967294) overlapping
    (fun t history => Always (fun _ l => l.2.1.Allowed l.1) history ∧ t.delivered = ["a", "b"])
    (by decide +kernel)
  obtain ⟨n, -, -, hbegins, -⟩ := delivered_in_order hrun hallowed
  exact ⟨t, hdelivered, hbegins⟩

/-- A segment that arrives again after its message was delivered delivers it again. -/
theorem delivered_again :
    (execute step (init 0) [] [.enqueueAppData "a" 2, .createSegmentWithBytes 0 2,
      .insertBytesFromSegment (msgSegment 0 0 2 [⟨"a", 2⟩]), .extractBytesUpTo,
      .insertBytesFromSegment (msgSegment 0 0 2 [⟨"a", 2⟩]), .extractBytesUpTo]).map
      (fun r => (r.1.sent, r.1.delivered)) = some ([⟨2, "a"⟩], ["a", "a"]) := by
  decide +kernel

end inet.tcp.MessageTransfer

import LoRaInet.TransportLayer.Tcp.MessageTransfer.Segments
import LoRaInet.TransportLayer.Tcp.TCPVirtualDataRcvQueue.Refinement

open container omnetpp interval

namespace inet.tcp.MessageTransfer

variable {M : Type}

section Receiver

variable {start : ℤ} {sent : List (SentMessage M)}

open SentMessage

open TCPMsgBasedRcvQueue

/-- The loop of an insertion keeps the messages in order and adds those that are
not there yet. -/
theorem insertPayloads_eq {lo : ℤ} {before after msgs : List (SentMessage M)}
    (hsorted : Ascending endIndex (before.reverse ++ after))
    (hmsgs : Ascending endIndex msgs) (hpos : ∀ b ∈ msgs, 0 < b.endIndex)
    (hbefore : ∀ a ∈ before, ∀ b ∈ msgs, a.endIndex < b.endIndex)
    (hsame : ∀ a ∈ after, ∀ b ∈ msgs, a.endIndex = b.endIndex → a = b)
    (hwindow : ∀ a, a ∈ before ∨ a ∈ after ∨ a ∈ msgs →
      lo ≤ start + a.endIndex ∧ start + a.endIndex < lo + 2 ^ 31) :
    ∃ out, insertPayloads (before.map (item start))
        (after.map (item start)) (msgs.map (payload start)) =
          .ok (out.map (item start)) ∧
      Ascending endIndex out ∧
      ∀ a, a ∈ out ↔ a ∈ before ∨ a ∈ after ∨ a ∈ msgs := by
  induction msgs generalizing before after with
  | nil =>
    refine ⟨before.reverse ++ after, ?_, hsorted, fun a => by simp⟩
    simp [insertPayloads]
  | cons m msgs ih =>
    obtain ⟨hm, hmsgs⟩ := List.pairwise_cons.mp hmsgs
    have hafter : Ascending endIndex after := (List.pairwise_append.mp hsorted).2.1
    have hmpos := hpos m (.head _)
    have hmwindow := hwindow m (.inr (.inr (.head _)))
    have hless : ∀ a ∈ after, precedes (payload start m)
        (item start a) = true ↔ a.endIndex ≤ m.endIndex - 1 := by
      intro a ha
      have hawindow := hwindow a (.inr (.inl ha))
      rw [precedes, item, payload, seqLess_seqOf ⟨by omega, by omega⟩]
      omega
    have hsplit := hafter.filter_append (m.endIndex - 1)
    have htake := (hafter.split_map hless).1
    have hdrop := (hafter.split_map hless).2
    have hleft : ∀ a ∈ after.filter (fun a => a.endIndex ≤ m.endIndex - 1),
        a.endIndex < m.endIndex := by
      intro a ha
      have hle : a.endIndex ≤ m.endIndex - 1 := by simpa using (List.mem_filter.mp ha).2
      omega
    have hright : ∀ a ∈ after.filter (fun a => m.endIndex - 1 < a.endIndex),
        m.endIndex ≤ a.endIndex := by
      intro a ha
      have hlt : m.endIndex - 1 < a.endIndex := by simpa using (List.mem_filter.mp ha).2
      omega
    generalize after.filter (fun a => a.endIndex ≤ m.endIndex - 1) = left at *
    generalize after.filter (fun a => m.endIndex - 1 < a.endIndex) = right at *
    subst hsplit
    -- the iterator has moved on past `left`
    have hsorted' : Ascending endIndex ((left.reverse ++ before).reverse ++ right) := by
      simpa using hsorted
    have hbefore' : ∀ a ∈ left.reverse ++ before, ∀ b ∈ msgs, a.endIndex < b.endIndex := by
      intro a ha b hb
      cases List.mem_append.mp ha with
      | inl hmem => exact lt_trans (hleft a (List.mem_reverse.mp hmem)) (hm b hb)
      | inr hmem => exact hbefore a hmem b (List.mem_cons_of_mem m hb)
    have hpos' : ∀ b ∈ msgs, 0 < b.endIndex := fun b hb => hpos b (List.mem_cons_of_mem m hb)
    have hpassed : ∀ a, a ∈ left.reverse ++ before ↔ a ∈ left ∨ a ∈ before := by
      intro a
      rw [List.mem_append, List.mem_reverse]
    have hwindow' : ∀ a, a ∈ left.reverse ++ before ∨ a ∈ right ∨ a ∈ m :: msgs →
        lo ≤ start + a.endIndex ∧ start + a.endIndex < lo + 2 ^ 31 := by
      rintro a (ha | ha | ha)
      · cases (hpassed a).mp ha with
        | inl hmem => exact hwindow a (.inr (.inl (List.mem_append_left _ hmem)))
        | inr hmem => exact hwindow a (.inl hmem)
      · exact hwindow a (.inr (.inl (List.mem_append_right _ ha)))
      · exact hwindow a (.inr (.inr ha))
    have hmap : ((left.map (item start)).reverse ++
        before.map (item start)) =
          (left.reverse ++ before).map (item start) := by
      simp
    rw [List.map_cons, insertPayloads]
    dsimp only
    rw [htake, hdrop, hmap]
    by_cases hfound : m ∈ right
    · have hhead : right.head? = some m := by
        cases right with
        | nil => simp at hfound
        | cons z zs =>
          cases List.mem_cons.mp hfound with
          | inl heq => rw [heq, List.head?_cons]
          | inr hmem =>
            have hzs := (List.pairwise_append.mp hsorted').2.1
            have hlt := (List.pairwise_cons.mp hzs).1 m hmem
            have hle := hright z (.head _)
            omega
      rw [List.head?_map, hhead, if_pos (by simp [item, payload])]
      obtain ⟨out, hout, hascending, hmem⟩ := ih hsorted' hmsgs hpos' hbefore'
        (fun a ha b hb => hsame a (List.mem_append_right _ ha) b (List.mem_cons_of_mem m hb))
        (fun a ha => hwindow' a (ha.imp_right (.imp_right (List.mem_cons_of_mem m))))
      refine ⟨out, hout, hascending, fun a => ?_⟩
      have hagain : a = m → a ∈ right := fun heq => heq ▸ hfound
      rw [hmem, hpassed, List.mem_append, List.mem_cons]
      clear * - hagain
      tauto
    · have hne : ∀ a ∈ right, m.endIndex < a.endIndex := by
        intro a ha
        have hle := hright a ha
        have hdiff : a.endIndex ≠ m.endIndex := by
          intro heq
          have hsame' := hsame a (List.mem_append_right _ ha) m (.head _) heq
          exact hfound (hsame' ▸ ha)
        omega
      have hother : ((right.map (item start)).head?.any fun i =>
          i.seqNo = (payload start m).endSequenceNo) = false := by
        cases right with
        | nil => rfl
        | cons z zs =>
          have hlt := hne z (.head _)
          have hzwindow := hwindow z (.inr (.inl (List.mem_append_right _ (.head _))))
          have hdiff : seqOf (start + z.endIndex) ≠ seqOf (start + m.endIndex) := by
            rw [ne_eq, seqOf_inj ⟨by omega, by omega⟩]
            omega
          exact decide_eq_false hdiff
      have hsorted'' : Ascending endIndex
          ((left.reverse ++ before).reverse ++ m :: right) := by
        obtain ⟨hlower, hupper, hcross⟩ := List.pairwise_append.mp hsorted'
        refine List.pairwise_append.mpr ⟨hlower, List.pairwise_cons.mpr ⟨hne, hupper⟩, ?_⟩
        intro a ha b hb
        cases List.mem_cons.mp hb with
        | inr hmem => exact hcross a ha b hmem
        | inl heq =>
          rw [heq]
          cases List.mem_append.mp (List.mem_reverse.mp ha) with
          | inl hmem => exact hleft a (List.mem_reverse.mp hmem)
          | inr hmem => exact hbefore a hmem m (.head _)
      obtain ⟨front, back, hfront, hback, hfrontMem, hbackMem, hle⟩ :=
        hsorted''.exists_head_getLast (a := m) (by simp)
      have hin : ∀ a ∈ (left.reverse ++ before).reverse ++ m :: right,
          a ∈ left.reverse ++ before ∨ a ∈ right ∨ a ∈ m :: msgs := by
        intro a ha
        cases List.mem_append.mp ha with
        | inl hmem => exact .inl (List.mem_reverse.mp hmem)
        | inr hmem =>
          cases List.mem_cons.mp hmem with
          | inl heq => exact .inr (.inr (heq ▸ (.head _)))
          | inr hmem => exact .inr (.inl hmem)
      have hfrontWindow := hwindow' front (hin front hfrontMem)
      have hbackWindow := hwindow' back (hin back hbackMem)
      have hassert : seqLE (item start front).seqNo
          (item start back).seqNo = true := by
        rw [item, item, seqLE_seqOf ⟨by omega, by omega⟩]
        omega
      have hlist : ((left.reverse ++ before).map (item start)).reverse ++
          item start m :: right.map (item start) =
            ((left.reverse ++ before).reverse ++ m :: right).map (item start) := by
        simp
      obtain ⟨out, hout, hascending, hmem⟩ := ih hsorted'' hmsgs hpos' hbefore'
        (fun a ha b hb heq => by
          cases List.mem_cons.mp ha with
          | inl ham => exact absurd heq (ham ▸ (hm b hb).ne)
          | inr hmem => exact hsame a (List.mem_append_right _ hmem) b (List.mem_cons_of_mem m hb) heq)
        (fun a ha => by
          rcases ha with ha | ha | ha
          · exact hwindow' a (.inl ha)
          · cases List.mem_cons.mp ha with
            | inl ham => exact ham ▸ hmwindow
            | inr hmem => exact hwindow' a (.inr (.inl hmem))
          · exact hwindow' a (.inr (.inr (List.mem_cons_of_mem m ha))))
      refine ⟨out, ?_, hascending, fun a => ?_⟩
      · rw [hother, if_neg Bool.false_ne_true]
        have hitem : PayloadItem.mk (payload start m).endSequenceNo
            (payload start m).msg = item start m := rfl
        rw [hitem, hlist, List.head?_map, List.getLast?_map, hfront, hback]
        dsimp only [Option.map_some]
        rw [assert_bind hassert]
        exact hout
      · rw [hmem, hpassed, List.mem_append, List.mem_cons, List.mem_cons]
        clear * -
        tauto

open TCPVirtualDataRcvQueue

/-- The receive queue holds the bytes that have arrived and the messages that end
with one of them, less what was extracted. -/
structure Stores (q : TCPMsgBasedRcvQueue M) (start : ℤ) (sent : List (SentMessage M))
    (arrived : Set ℕ) (extracted : ℕ) (bytes : ReceivedBytes) (blocks : List (Block ℤ)) : Prop where
  buffers : q.toTCPVirtualDataRcvQueue.Buffers VirtualRegion.laws bytes blocks
  start_eq : bytes.start = start
  first_eq : bytes.first = start + extracted
  received_eq : bytes.received = {p | ∃ i ∈ arrived, p = start + i}
  payloadList_eq : ∃ kept : List (SentMessage M), q.payloadList = kept.map (SentMessage.item start) ∧
    Ascending SentMessage.endIndex kept ∧
    ∀ m, m ∈ kept ↔ m ∈ sent ∧ start + m.endIndex - 1 ∈ bytes.buffered

variable {q : TCPMsgBasedRcvQueue M} {arrived : Set ℕ} {extracted total : ℕ} {bytes : ReceivedBytes}
  {blocks : List (Block ℤ)}

section

variable (h : Stores q start sent arrived extracted bytes blocks)
include h

open VirtualRegion

theorem Stores.insertBytesFromSegment
    (hordered : Ordered sent total) {s : InFlight M} (hcarries : Carries start sent s)
    (hpos : 0 < s.tcpseg.payloadLength) (hlow : extracted ≤ s.index)
    (hhigh : s.index + s.tcpseg.payloadLength < extracted + 2 ^ 31) :
    ∃ q' seq bytes' blocks', q.insertBytesFromSegment s.tcpseg = .ok (q', seq) ∧
      Stores q' start sent (Set.Ico s.index (s.index + s.tcpseg.payloadLength) ∪ arrived) extracted
        bytes' blocks' := by
  obtain ⟨kept, hkept, hascending, hmem⟩ := h.payloadList_eq
  have hfirst := h.first_eq
  obtain ⟨b, hblow, hbhigh⟩ : ∃ b : Block ℤ, b.low = start + s.index ∧
      b.high = start + s.index + s.tcpseg.payloadLength :=
    ⟨⟨_, _, lt_add_of_pos_right _ (Nat.cast_pos.mpr hpos)⟩, rfl, rfl⟩
  have hb : Within bytes.first b := by
    constructor <;> omega
  have hregion : createRegionFromSegment s.tcpseg = ofBlock b := by
    rw [createRegionFromSegment, ofBlock, hblow, hbhigh,
      hcarries.numbered.endSeq_eq, hcarries.numbered]
  obtain ⟨base, hbase, hbuffers⟩ := h.buffers.insertRegion hregion hb (fun _ _ => trivial) q.str
  have hwindow : ∀ m ∈ kept, bytes.first ≤ start + m.endIndex ∧
      start + m.endIndex < bytes.first + 2 ^ 31 := by
    intro m hm
    obtain ⟨-, hreceived, hge⟩ := (hmem m).mp hm
    have hlt := h.buffers.wellFormed.received_lt _ hreceived
    omega
  have hbefore : Ascending endIndex (([] : List (SentMessage M)).reverse ++ kept) :=
    hascending
  have hnew : Ascending endIndex
      (messagesIn sent s.index (s.index + s.tcpseg.payloadLength)) :=
    (hordered.ascending.filter _).filter _
  have hall : ∀ m, m ∈ [] ∨ m ∈ kept ∨ m ∈ messagesIn sent s.index
      (s.index + s.tcpseg.payloadLength) → bytes.first ≤ start + m.endIndex ∧
      start + m.endIndex < bytes.first + 2 ^ 31 := by
    rintro m (hm | hm | hm)
    · simp at hm
    · exact hwindow m hm
    · obtain ⟨-, hm₁, hm₂⟩ := mem_messagesIn.mp hm
      omega
  obtain ⟨out, hout, hascending', hmem'⟩ := insertPayloads_eq hbefore hnew
    (fun m hm => hordered.pos m (mem_messagesIn.mp hm).1) (by simp)
    (fun a ha m hm => hordered.ascending.eq_of_key_eq ((hmem a).mp ha).1 (mem_messagesIn.mp hm).1)
    hall
  refine ⟨⟨base, out.map (item start)⟩, base.rcv_nxt, _, _, ?_, hbuffers, h.start_eq,
    h.first_eq, ?_, out, rfl, hascending', fun m => ?_⟩
  · rw [TCPMsgBasedRcvQueue.insertBytesFromSegment, hbase, hkept, hcarries.payloadList_eq]
    rw [List.map_nil] at hout
    dsimp only [bind, Except.bind]
    rw [hout]
  · ext p
    rw [ReceivedBytes.received_insert, h.received_eq]
    simp only [Set.mem_union, Block.mem_toSet, Set.mem_ofPred_eq, Set.mem_Ico]
    constructor
    · rintro (hp | ⟨i, hi, hp⟩)
      · exact ⟨(p - start).toNat, .inl (by omega), by omega⟩
      · exact ⟨i, .inr hi, hp⟩
    · rintro ⟨i, hi | hi, hp⟩
      · exact .inl (by omega)
      · exact .inr ⟨i, hi, hp⟩
  · rw [hmem', ReceivedBytes.buffered_insert hb.1, hmem]
    simp only [List.not_mem_nil, false_or, Set.mem_union, Block.mem_toSet]
    have hends : (m ∈ messagesIn sent s.index (s.index + s.tcpseg.payloadLength)) ↔ m ∈ sent ∧
        b.low ≤ start + m.endIndex - 1 ∧ start + m.endIndex - 1 < b.high := by
      rw [mem_messagesIn]
      refine and_congr_right fun _ => ?_
      omega
    rw [hends]
    tauto

theorem Stores.mem_kept_of_le_next
    {m : SentMessage M} (hlow : extracted < m.endIndex) (hhigh : start + m.endIndex ≤ bytes.next) :
    start + m.endIndex - 1 ∈ bytes.buffered := by
  have hfirst := h.first_eq
  exact h.buffers.wellFormed.Ico_subset_buffered ⟨by omega, by omega⟩

/-- An extraction stops at the end of the first message that is kept, or at the
first missing byte. -/
theorem Stores.extractSeq_eq
    {kept : List (SentMessage M)} (hkept : q.payloadList = kept.map (item start))
    (hwindow : ∀ m ∈ kept, bytes.first < start + m.endIndex ∧
      start + m.endIndex < bytes.first + 2 ^ 31) :
    ∃ stop : ℤ, q.extractSeq q.rcv_nxt = seqOf stop ∧ bytes.first ≤ stop ∧ stop ≤ bytes.next ∧
      (kept = [] → stop = bytes.next) ∧
      ∀ m ∈ kept.head?, stop = min (start + m.endIndex) bytes.next := by
  have hwf := h.buffers.wellFormed
  have hle := hwf.first_le_next
  have hnext := hwf.next_lt
  rw [extractSeq, hkept, h.buffers.rcv_nxt_eq]
  cases kept with
  | nil => exact ⟨bytes.next, rfl, hle, le_refl _, fun _ => rfl, by simp⟩
  | cons m rest =>
    obtain ⟨hlow, hhigh⟩ := hwindow m (.head _)
    refine ⟨min (start + m.endIndex) bytes.next, ?_, by omega, min_le_right _ _, by simp, by simp⟩
    have hless := @seqLess_seqOf (start + m.endIndex) bytes.next ⟨by omega, by omega⟩
    rw [List.map_cons]
    dsimp only [item]
    split
    · next hlt => rw [min_eq_left (hless.mp hlt).le]
    · next hlt => rw [min_eq_right (not_lt.mp fun hcond => hlt (hless.mpr hcond))]

/-- The step of an extraction: it returns the first message that has not been
delivered, if all its bytes are there. -/
theorem Stores.extractBytesUpTo (hordered : Ordered sent total) :
    ∃ q' msg extracted' bytes' blocks', q.extractBytesUpTo q.rcv_nxt = .ok (q', msg) ∧
      extracted' = extracted + (q'.getFirstSeqNo - q.getFirstSeqNo).toNat ∧
      extracted ≤ extracted' ∧ start + extracted' ≤ bytes.next ∧
      Stores q' start sent arrived extracted' bytes' blocks' ∧
      (msg = none → start + extracted' = bytes.next) ∧
      sent.filter (fun m => m.endIndex ≤ extracted') =
        sent.filter (fun m => m.endIndex ≤ extracted) ++
          sent.filter (fun m => extracted < m.endIndex ∧ m.endIndex ≤ extracted') ∧
      (sent.filter fun m => extracted < m.endIndex ∧ m.endIndex ≤ extracted').map (·.msg) =
        msg.toList := by
  obtain ⟨kept, hkept, hascending, hmem⟩ := h.payloadList_eq
  have hfirst := h.first_eq
  have hwf := h.buffers.wellFormed
  have hnext := hwf.next_lt
  have hwindow : ∀ m ∈ kept, bytes.first < start + m.endIndex ∧
      start + m.endIndex < bytes.first + 2 ^ 31 := by
    intro m hm
    obtain ⟨-, hreceived, hge⟩ := (hmem m).mp hm
    have hlt := hwf.received_lt _ hreceived
    omega
  obtain ⟨stop, hstop, hlow, hhigh, hnil, hhead⟩ := h.extractSeq_eq hkept hwindow
  have hblocks : ∀ b ∈ blocks, b.high < stop + 2 ^ 31 := by
    intro b hb
    obtain ⟨hb₁, hb₂⟩ := h.buffers.within hb
    omega
  obtain ⟨base, out, blocks', hbase, hbuffers, -, hnone, hsome⟩ :=
    h.buffers.extractTo hhigh (by omega) hblocks
  have hfirst' : (bytes.extract stop).first = stop := max_eq_right hlow
  have hgone : start + (extracted + (stop - bytes.first).toNat : ℕ) = stop := by omega
  have hmoved : (base.getFirstSeqNo - q.getFirstSeqNo).toNat = (stop - bytes.first).toNat := by
    rw [hbuffers.getFirstSeqNo, h.buffers.getFirstSeqNo, hfirst']
    have hsub := toNat_sub_of_near hlow (by omega)
    omega
  have hbuffered : ∀ p, p ∈ (bytes.extract stop).buffered ↔ p ∈ bytes.buffered ∧ stop ≤ p := by
    intro p
    rw [ReceivedBytes.buffered_extract, max_eq_right hlow]
    rfl
  generalize hextracted : extracted + (stop - bytes.first).toNat = extracted' at hgone
  have hparts := hordered.ascending.filter_le (by omega : extracted ≤ extracted')
  -- the messages between the two marks have all arrived
  have hbetween : ∀ m ∈ sent, extracted < m.endIndex → m.endIndex ≤ extracted' → m ∈ kept := by
    intro m hm hlt hle
    exact (hmem m).mpr ⟨hm, h.mem_kept_of_le_next hlt (by omega)⟩
  by_cases hdeliver : ∃ m rest, kept = m :: rest ∧ start + m.endIndex ≤ bytes.next
  · obtain ⟨m, rest, rfl, hend⟩ := hdeliver
    obtain ⟨hrest, hascending'⟩ := List.pairwise_cons.mp hascending
    have hstopEq : stop = start + m.endIndex := by
      rw [hhead m rfl, min_eq_left hend]
    have hmfirst := (hwindow m (.head _)).1
    cases out with
    | none => exact absurd (hnone rfl) (by omega)
    | some reg =>
      obtain ⟨hlt, hreg⟩ := hsome reg rfl
      have htake : TCPMsgBasedRcvQueue.takeMessage q.payloadList (some reg) =
          (rest.map (item start), some m.msg) := by
        have hregEnd : reg.endSeq = seqOf stop := laws.getEnd_eq hreg
        rw [hkept, List.map_cons, TCPMsgBasedRcvQueue.takeMessage, hregEnd, hstopEq]
        exact if_pos rfl
      refine ⟨⟨base, rest.map (item start)⟩, some m.msg, extracted', _, _, ?_, ?_,
        by omega, by omega, ⟨hbuffers, h.start_eq, by rw [hfirst', hgone], h.received_eq, rest, rfl,
        hascending', fun a => ?_⟩, by simp, hparts, ?_⟩
      · rw [TCPMsgBasedRcvQueue.extractBytesUpTo, hstop, hbase]
        dsimp only [bind, Except.bind]
        rw [htake]
      · rw [hmoved, hextracted]
      · rw [hbuffered]
        constructor
        · intro ha
          obtain ⟨hsent, hin⟩ := (hmem a).mp (List.mem_cons_of_mem m ha)
          have hafter := hrest a ha
          exact ⟨hsent, hin, by omega⟩
        · rintro ⟨hsent, hin, hge⟩
          cases List.mem_cons.mp ((hmem a).mpr ⟨hsent, hin⟩) with
          | inl heq =>
            rw [heq] at hge
            omega
          | inr hmem => exact hmem
      · have hone : sent.filter (fun a => extracted < a.endIndex ∧ a.endIndex ≤ extracted') = [m] := by
          apply (hordered.ascending.filter _).ext (List.pairwise_singleton _ _)
          intro a
          rw [List.mem_singleton, List.mem_filter, decide_eq_true_eq]
          constructor
          · rintro ⟨hsent, hlt, hle⟩
            cases List.mem_cons.mp (hbetween a hsent hlt hle) with
            | inl heq => exact heq
            | inr hmem =>
              have hafter := hrest a hmem
              omega
          · intro heq
            obtain ⟨hsent, -⟩ := (hmem m).mp (.head _)
            rw [heq]
            exact ⟨hsent, by omega, by omega⟩
        rw [hone]
        rfl
  · -- no message is complete: the bytes up to the first missing one go
    have hlater : ∀ a ∈ kept, bytes.next < start + a.endIndex := by
      intro a ha
      cases kept with
      | nil => simp at ha
      | cons m rest =>
        have hm : ¬start + m.endIndex ≤ bytes.next := fun hle => hdeliver ⟨m, rest, rfl, hle⟩
        cases List.mem_cons.mp ha with
        | inl heq =>
          rw [heq]
          omega
        | inr hmem =>
          have hafter := (List.pairwise_cons.mp hascending).1 a hmem
          omega
    have hstopEq : stop = bytes.next := by
      cases kept with
      | nil => exact hnil rfl
      | cons m rest => rw [hhead m rfl, min_eq_right (hlater m (.head _)).le]
    have htake : TCPMsgBasedRcvQueue.takeMessage q.payloadList out =
        (kept.map (item start), none) := by
      rw [hkept]
      cases out with
      | none => rfl
      | some reg =>
        obtain ⟨hlt, hreg⟩ := hsome reg rfl
        have hregEnd : reg.endSeq = seqOf stop := laws.getEnd_eq hreg
        cases kept with
        | nil => rfl
        | cons m rest =>
          have hm := hlater m (.head _)
          have hmwindow := hwindow m (.head _)
          have hne : seqOf (start + m.endIndex) ≠ seqOf stop := by
            rw [ne_eq, seqOf_inj ⟨by omega, by omega⟩]
            omega
          rw [List.map_cons, TCPMsgBasedRcvQueue.takeMessage, hregEnd]
          exact if_neg hne
    refine ⟨⟨base, kept.map (item start)⟩, none, extracted', _, _, ?_, ?_, by omega,
      by omega, ⟨hbuffers, h.start_eq, by rw [hfirst', hgone], h.received_eq, kept, rfl, hascending,
      fun a => ?_⟩, fun _ => by omega, hparts, ?_⟩
    · rw [TCPMsgBasedRcvQueue.extractBytesUpTo, hstop, hbase]
      dsimp only [bind, Except.bind]
      rw [htake]
    · rw [hmoved, hextracted]
    · rw [hbuffered]
      constructor
      · intro ha
        obtain ⟨hsent, hin⟩ := (hmem a).mp ha
        have hafter := hlater a ha
        exact ⟨hsent, hin, by omega⟩
      · exact fun ha => (hmem a).mpr ⟨ha.1, ha.2.1⟩
    · have hnothing : sent.filter (fun a => extracted < a.endIndex ∧ a.endIndex ≤ extracted') = [] := by
        rw [List.filter_eq_nil_iff]
        intro a hsent hcond
        obtain ⟨hlt, hle⟩ := of_decide_eq_true hcond
        have hafter := hlater a (hbetween a hsent hlt hle)
        omega
      rw [hnothing]
      rfl

end

end Receiver

end inet.tcp.MessageTransfer

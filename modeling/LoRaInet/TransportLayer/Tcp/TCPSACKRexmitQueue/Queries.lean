import LoRaInet.Interval.Count
import LoRaInet.TransportLayer.Tcp.TCPSACKRexmitQueue.Changes

open omnetpp interval

namespace inet.tcp.TCPSACKRexmitQueue

def Bits.sacked (bits : Bits) (p : ℤ) : Bool := (bits p).1

def Bits.rexmitted (bits : Bits) (p : ℤ) : Bool := (bits p).2

section Tiles

variable {bits : Bits} {low high p : ℤ} {r i : Region} {l rest : List Region}

theorem Tile.sacked_eq (h : Tile bits low high r) :
    ∀ x, low ≤ x → x < high → bits.sacked x = r.sacked := by
  intro x hlow hhigh
  rw [Bits.sacked, h.bits_eq x hlow hhigh]

theorem Tile.rexmitted_eq (h : Tile bits low high r) :
    ∀ x, low ≤ x → x < high → bits.rexmitted x = r.rexmitted := by
  intro x hlow hhigh
  rw [Bits.rexmitted, h.bits_eq x hlow hhigh]

theorem Tile.contains (h : Tile bits low high r) (hlow : low ≤ p) (hhigh : p < high)
    (hwindow : high < low + 2 ^ 31) :
    (seqLE r.beginSeqNum (seqOf p) && seqLess (seqOf p) r.endSeqNum) = true := by
  rw [Bool.and_eq_true, h.begin_eq, h.end_eq, seqLE_seqOf ⟨by omega, by omega⟩,
    seqLess_seqOf ⟨by omega, by omega⟩]
  exact ⟨hlow, hhigh⟩

theorem Tile.length_eq (h : Tile bits low high r) :
    r.endSeqNum - r.beginSeqNum = BitVec.ofNat 32 (high - low).toNat := by
  have hlt := h.lt
  rw [h.begin_eq, h.end_eq, seqOf_sub, seqOf_natCast, Int.toNat_of_nonneg (by omega)]

theorem Tiles.foldl_sacked (h : Tiles bits low l high) (bytes : uint32) : l.foldl (fun bytes elem =>
        if elem.sacked then bytes + (elem.endSeqNum - elem.beginSeqNum) else bytes) bytes =
      bytes + BitVec.ofNat 32 (count bits.sacked low high) := by
  induction l generalizing low bytes with
  | nil =>
    obtain rfl : low = high := h
    simp [count_self]
  | cons r rest ih =>
    obtain ⟨mid, htile, hrest⟩ := h
    have hcount := count_eq_of_constant htile.sacked_eq
    rw [List.foldl_cons, ih hrest, count_append htile.lt.le hrest.le, hcount, htile.length_eq]
    cases r.sacked with
    | false => simp
    | true => simp [BitVec.ofNat_add, BitVec.add_assoc]

theorem Tiles.sackedLoop_eq (h : Tiles bits low l high) (hlow : low ≤ p) (hhigh : p ≤ high)
    (hwindow : high < low + 2 ^ 31) (bytes : uint32) :
    sackedLoop (seqOf p) bytes l.reverse = bytes + BitVec.ofNat 32 (count bits.sacked p high) := by
  induction l using List.reverseRecOn generalizing high bytes with
  | nil =>
    obtain rfl : low = high := h
    obtain rfl : p = low := le_antisymm hhigh hlow
    simp [sackedLoop, count_self]
  | append_singleton l r ih =>
    obtain ⟨mid, hl, hr⟩ := h.exists_of_append
    have htile := tiles_singleton.mp hr
    have hlt := htile.lt
    have hmid := hl.le
    have hbegin : seqLE (seqOf p) r.beginSeqNum = true ↔ p ≤ mid := by
      rw [htile.begin_eq, seqLE_seqOf ⟨by omega, by omega⟩]
    rw [List.reverse_append, List.reverse_singleton, List.singleton_append, sackedLoop]
    by_cases hbefore : p ≤ mid
    · rw [if_pos (hbegin.mpr hbefore), ih hl hbefore (by omega), count_append hbefore hlt.le,
        count_eq_of_constant htile.sacked_eq, htile.length_eq]
      cases r.sacked with
      | false => simp
      | true => simp [BitVec.ofNat_add, BitVec.add_assoc, BitVec.add_comm]
    · have hinside : mid < p := not_le.mp hbefore
      have hconstant := @count_eq_of_constant bits.sacked p high r.sacked
        fun x hx hx' => htile.sacked_eq x (hinside.le.trans hx) hx'
      have hless : (seqLess r.beginSeqNum (seqOf p) && seqLess (seqOf p) r.endSeqNum) = true ↔
          p < high := by
        rw [Bool.and_eq_true, htile.begin_eq, htile.end_eq, seqLess_seqOf ⟨by omega, by omega⟩,
          seqLess_seqOf ⟨by omega, by omega⟩]
        exact and_iff_right hinside
      rw [if_neg (fun hcond => hbefore (hbegin.mp hcond)), hconstant]
      by_cases hend : p < high
      · rw [hless.mpr hend, Bool.true_and, htile.end_eq, seqOf_sub, seqOf_natCast]
        cases r.sacked with
        | false => simp [seqOf]
        | true => simp [max_eq_left (sub_nonneg.mpr hend.le)]
      · have hnot := Bool.eq_false_iff.mpr (fun hcond => hend (hless.mp hcond))
        have hzero : (high - p).toNat = 0 := by omega
        rw [hnot, hzero]
        simp

theorem Tiles.discontiguousLoop_eq (h : Tiles bits low l high) (counter : uint32)
    (prevSacked : Bool) : discontiguousLoop counter prevSacked l =
      counter + BitVec.ofNat 32 (starts bits.sacked prevSacked low high) := by
  induction l generalizing low counter prevSacked with
  | nil =>
    obtain rfl : low = high := h
    simp [discontiguousLoop, starts_self]
  | cons r rest ih =>
    obtain ⟨mid, htile, hrest⟩ := h
    have hlt := htile.lt
    have hlast := htile.sacked_eq (mid - 1) (by omega) (by omega)
    rw [discontiguousLoop, ih hrest, starts_append hlt hrest.le,
      starts_eq_of_constant hlt htile.sacked_eq, hlast]
    cases (r.sacked && !prevSacked) with
    | false => simp
    | true => simp [BitVec.ofNat_add, BitVec.add_assoc]

/-- The loop counts the bytes up to the first one with neither bit. -/
theorem Tiles.forwardLoop_eq (h : Tiles bits low l high) (hwindow : high < low + 2 ^ 31)
    (bytes : uint32) :
    ∃ k : ℕ, forwardLoop bytes (seqOf low) l = .ok (bytes + BitVec.ofNat 32 k) ∧
      IsGreatest {n : ℕ | low + n ≤ high ∧
        ∀ x, low ≤ x → x < low + n → (bits.sacked x || bits.rexmitted x) = true} k := by
  induction l generalizing low bytes with
  | nil =>
    obtain rfl : low = high := h
    refine ⟨0, by simp [forwardLoop], ⟨by simp, fun x hx hx' => by omega⟩, ?_⟩
    rintro n ⟨hn, -⟩
    omega
  | cons r rest ih =>
    obtain ⟨mid, htile, hrest⟩ := h
    have hlt := htile.lt
    have hle := hrest.le
    rw [forwardLoop]
    by_cases hmarked : (r.sacked || r.rexmitted) = true
    · obtain ⟨k, hloop, ⟨hk, hall⟩, hgreatest⟩ :=
        ih hrest (by omega) (bytes + (seqOf mid - seqOf low))
      have hassert := htile.contains (le_refl low) hlt (by omega)
      refine ⟨(mid - low).toNat + k, ?_, ⟨by omega, fun x hx hx' => ?_⟩, ?_⟩
      · rw [if_pos hmarked, assert_bind hassert, htile.end_eq, hloop, seqOf_sub,
          BitVec.ofNat_add, seqOf_natCast (mid - low).toNat, Int.toNat_of_nonneg (by omega),
          BitVec.add_assoc]
      · by_cases hfirst : x < mid
        · rw [htile.sacked_eq x hx hfirst, htile.rexmitted_eq x hx hfirst]
          exact hmarked
        · exact hall x (by omega) (by omega)
      · rintro n ⟨hn, hn'⟩
        by_cases hshort : n ≤ (mid - low).toNat
        · omega
        · have hle' := @hgreatest (n - (mid - low).toNat)
            ⟨by omega, fun x hx hx' => hn' x (by omega) (by omega)⟩
          omega
    · refine ⟨0, by rw [if_neg hmarked]; simp, ⟨by omega, fun x hx hx' => by omega⟩, ?_⟩
      rintro n ⟨hn, hn'⟩
      by_contra hpos
      have hfirst := hn' low (le_refl low) (by omega)
      rw [htile.sacked_eq low (le_refl low) hlt, htile.rexmitted_eq low (le_refl low) hlt] at hfirst
      exact hmarked hfirst

/-- The end of the last region with a bit is where the last byte with it ends. -/
theorem Tiles.find_last (h : Tiles bits low l high) {f : Region → Bool} {P : ℤ → Bool}
    (hP : ∀ r a b, Tile bits a b r → ∀ x, a ≤ x → x < b → P x = f r) :
    ∃ top, ((l.reverse.find? f).map (·.endSeqNum)).getD (seqOf low) = seqOf top ∧
      IsGreatest (insert low {x | low < x ∧ x ≤ high ∧ P (x - 1) = true}) top := by
  induction l using List.reverseRecOn generalizing high with
  | nil =>
    obtain rfl : low = high := h
    refine ⟨low, rfl, Set.mem_insert low _, ?_⟩
    rintro x (hx | ⟨hx, hx', -⟩)
    · exact hx.le
    · exact hx'
  | append_singleton l r ih =>
    obtain ⟨mid, hl, hr⟩ := h.exists_of_append
    have htile := tiles_singleton.mp hr
    have hlt := htile.lt
    have hmid := hl.le
    rw [List.reverse_append, List.reverse_singleton, List.singleton_append]
    by_cases hlast : f r = true
    · rw [List.find?_cons_of_pos hlast]
      refine ⟨high, htile.end_eq, .inr ⟨by omega, le_refl high, ?_⟩, ?_⟩
      · rw [hP r mid high htile (high - 1) (by omega) (by omega)]
        exact hlast
      · rintro x (hx | ⟨-, hx, -⟩)
        · omega
        · exact hx
    · obtain ⟨top, htop, hmem, hgreatest⟩ := ih hl
      rw [List.find?_cons_of_neg hlast]
      refine ⟨top, htop, ?_, ?_⟩
      · refine hmem.imp id fun ⟨hx, hx', hbit⟩ => ⟨hx, by omega, hbit⟩
      · rintro x (hx | ⟨hx, hx', hbit⟩)
        · exact hgreatest (.inl hx)
        · by_cases hbelow : x ≤ mid
          · exact hgreatest (.inr ⟨hx, hbelow, hbit⟩)
          · rw [hP r mid high htile (x - 1) (by omega) (by omega)] at hbit
            exact absurd hbit hlast

end Tiles

section Queue

variable {q : TCPSACKRexmitQueue} {bits : Bits} {low high p : ℤ}

section

variable (h : q.Holds bits low high)
include h

theorem Holds.find (hlow : low ≤ p) (hhigh : p < high) :
    ∃ i rest mid next, q.rexmitQueue.dropWhile (endsBy (seqOf p)) = i :: rest ∧
      Tile bits mid next i ∧ low ≤ mid ∧ mid ≤ p ∧ p < next ∧ Tiles bits next rest high ∧
      (seqLE i.beginSeqNum (seqOf p) && seqLess (seqOf p) i.endSeqNum) = true := by
  have hlt := h.lt
  obtain ⟨mid, hbefore, hmid, -, -, hinside⟩ := h.tiles.search hlow hhigh.le hlt
  obtain ⟨i, rest, next, hdrop, hi, hnext, hrest⟩ := hinside hhigh
  have hle := hrest.le
  have hlowmid := hbefore.le
  exact ⟨i, rest, mid, next, hdrop, hi, hlowmid, hmid, hnext, hrest,
    hi.contains hmid hnext (by omega)⟩

theorem Holds.endSeq_eq_iff (hlow : low ≤ p) (hhigh : p ≤ high) :
    q.endSeq = seqOf p ↔ p = high := by
  have hlt := h.lt
  rw [h.end_eq, seqOf_inj ⟨by omega, by omega⟩]
  exact eq_comm

theorem Holds.getSackedBit_eq (hlow : low ≤ p) (hhigh : p ≤ high) :
    q.getSackedBit (seqOf p) = .ok (decide (p < high) && bits.sacked p) := by
  rw [getSackedBit, assert_bind (h.inRange hlow hhigh)]
  by_cases hend : p = high
  · rw [if_pos ((h.endSeq_eq_iff hlow hhigh).mpr hend), hend]
    simp
  · have hlt := lt_of_le_of_ne hhigh hend
    obtain ⟨i, rest, mid, next, hdrop, hi, -, hmid, hnext, -, hassert⟩ := h.find hlow hlt
    rw [if_neg (fun hcond => hend ((h.endSeq_eq_iff hlow hhigh).mp hcond)), hdrop]
    dsimp only
    rw [assert_bind hassert, hi.sacked_eq p hmid hnext, decide_eq_true hlt, Bool.true_and]

/-- The block that is returned has the bits of its first byte throughout. -/
theorem Holds.checkSackBlock_eq (hlow : low ≤ p) (hhigh : p < high) :
    ∃ n : ℕ, 0 < n ∧ p + n ≤ high ∧ q.checkSackBlock (seqOf p) = .ok (BitVec.ofNat 32 n, bits p) ∧
      ∀ x, p ≤ x → x < p + n → bits x = bits p := by
  have hlt := h.lt
  obtain ⟨i, rest, mid, next, hdrop, hi, -, hmid, hnext, hrest, hassert⟩ := h.find hlow hhigh
  have hle := hrest.le
  have hrange : (seqLE q.begin (seqOf p) && seqLess (seqOf p) q.endSeq) = true := by
    rw [Bool.and_eq_true, h.begin_eq, h.end_eq, seqLE_seqOf ⟨by omega, by omega⟩,
      seqLess_seqOf ⟨by omega, by omega⟩]
    exact ⟨hlow, hhigh⟩
  refine ⟨(next - p).toNat, by omega, by omega, ?_, fun x hx hx' => ?_⟩
  · rw [checkSackBlock, assert_bind hrange, hdrop]
    dsimp only
    rw [assert_bind hassert, hi.bits_eq p hmid hnext, hi.end_eq, seqOf_sub, seqOf_natCast,
      Int.toNat_of_nonneg (by omega)]
  · rw [hi.bits_eq x (by omega) (by omega), hi.bits_eq p hmid hnext]

theorem Holds.getTotalAmountOfSackedBytes_eq :
    q.getTotalAmountOfSackedBytes = BitVec.ofNat 32 (count bits.sacked low high) := by
  rw [getTotalAmountOfSackedBytes, h.tiles.foldl_sacked]
  simp

theorem Holds.getAmountOfSackedBytes_eq (hlow : low ≤ p) (hhigh : p ≤ high) :
    q.getAmountOfSackedBytes (seqOf p) = .ok (BitVec.ofNat 32 (count bits.sacked p high)) := by
  rw [getAmountOfSackedBytes, assert_bind (h.inRange hlow hhigh),
    h.tiles.sackedLoop_eq hlow hhigh h.lt]
  simp

theorem Holds.getNumOfDiscontiguousSacks_eq (hlow : low ≤ p)
    (hhigh : p ≤ high) : q.getNumOfDiscontiguousSacks (seqOf p) =
      .ok (BitVec.ofNat 32 (starts bits.sacked false p high)) := by
  rw [getNumOfDiscontiguousSacks, assert_bind (h.inRange hlow hhigh)]
  by_cases hend : p = high
  · rw [if_pos (.inr ((h.endSeq_eq_iff hlow hhigh).mpr hend).symm), hend, starts_self]
    simp
  · have hlt := lt_of_le_of_ne hhigh hend
    have hmode : ¬(q.rexmitQueue = [] ∨ seqOf p = q.endSeq) := by
      rintro (hnil | heq)
      · exact h.rexmitQueue_ne_nil (by omega) hnil
      · exact hend ((h.endSeq_eq_iff hlow hhigh).mp heq.symm)
    obtain ⟨i, rest, mid, next, hdrop, hi, -, hmid, hnext, hrest, -⟩ := h.find hlow hlt
    have htiles : Tiles bits p ({ i with beginSeqNum := seqOf p } :: rest) high :=
      ⟨next, hi.drop hmid hnext, hrest⟩
    have hloop := htiles.discontiguousLoop_eq 0 false
    simp only [BitVec.ofNat_eq_ofNat, BitVec.zero_add] at hloop
    rw [if_neg hmode, hdrop]
    exact congrArg Except.ok hloop

theorem Holds.checkRexmitQueue_eq (hlow : low ≤ p) (hhigh : p ≤ high) :
    ∃ k : ℕ, q.checkRexmitQueueForSackedOrRexmittedSegments (seqOf p) = .ok (BitVec.ofNat 32 k) ∧
      IsGreatest {n : ℕ | p + n ≤ high ∧
        ∀ x, p ≤ x → x < p + n → (bits.sacked x || bits.rexmitted x) = true} k := by
  have hlt := h.lt
  rw [checkRexmitQueueForSackedOrRexmittedSegments, assert_bind (h.inRange hlow hhigh)]
  by_cases hend : p = high
  · rw [if_pos (.inr ((h.endSeq_eq_iff hlow hhigh).mpr hend))]
    refine ⟨0, rfl, ⟨by omega, fun x hx hx' => by omega⟩, ?_⟩
    rintro n ⟨hn, -⟩
    omega
  · have hplt := lt_of_le_of_ne hhigh hend
    have hmode : ¬(q.rexmitQueue = [] ∨ q.endSeq = seqOf p) := by
      rintro (hnil | heq)
      · exact h.rexmitQueue_ne_nil (by omega) hnil
      · exact hend ((h.endSeq_eq_iff hlow hhigh).mp heq)
    obtain ⟨i, rest, mid, next, hdrop, hi, -, hmid, hnext, hrest, hassert⟩ := h.find hlow hplt
    have htile := hi.drop hmid hnext
    have htiles : Tiles bits p ({ i with beginSeqNum := seqOf p } :: rest) high :=
      ⟨next, htile, hrest⟩
    obtain ⟨k, hloop, hgreatest⟩ := htiles.forwardLoop_eq (by omega) 0
    refine ⟨k, ?_, hgreatest⟩
    simp only [BitVec.ofNat_eq_ofNat, BitVec.zero_add] at hloop
    rw [if_neg hmode, hdrop, ← hloop, forwardLoop, forwardLoop]
    have hle := hrest.le
    have hassert' := htile.contains (le_refl p) hnext (by omega)
    split
    · rw [assert_bind hassert, assert_bind hassert']
      rfl
    · rfl

theorem Holds.getHighestSackedSeqNum_eq : ∃ top, q.getHighestSackedSeqNum = seqOf top ∧
      IsGreatest (insert low {x | low < x ∧ x ≤ high ∧ bits.sacked (x - 1) = true}) top := by
  obtain ⟨top, htop, hgreatest⟩ := h.tiles.find_last fun _ _ _ htile => htile.sacked_eq
  refine ⟨top, ?_, hgreatest⟩
  rw [getHighestSackedSeqNum, h.begin_eq, ← htop]
  cases q.rexmitQueue.reverse.find? (·.sacked) with
  | none => rfl
  | some i => rfl

theorem Holds.getHighestRexmittedSeqNum_eq : ∃ top, q.getHighestRexmittedSeqNum = seqOf top ∧
      IsGreatest (insert low {x | low < x ∧ x ≤ high ∧ bits.rexmitted (x - 1) = true}) top := by
  obtain ⟨top, htop, hgreatest⟩ := h.tiles.find_last fun _ _ _ htile => htile.rexmitted_eq
  refine ⟨top, ?_, hgreatest⟩
  rw [getHighestRexmittedSeqNum, h.begin_eq, ← htop]
  cases q.rexmitQueue.reverse.find? (·.rexmitted) with
  | none => rfl
  | some i => rfl

theorem Holds.isLost_eq (hlow : low ≤ p) (hhigh : p ≤ high)
    {state : TCPStateVariables} (hsack : state.sack_enabled = true)
    (huna : seqGE (seqOf p) state.snd_una = true) :
    isLost state q (seqOf p) = .ok (decide (3 ≤ starts bits.sacked false p high ∨
      (DUPTHRESH * state.snd_mss).toNat ≤ count bits.sacked p high)) := by
  have hlt := h.lt
  have hstarts : (BitVec.ofNat 32 (starts bits.sacked false p high)).toNat =
      starts bits.sacked false p high := by
    have hle : starts bits.sacked false p high ≤ (high - p).toNat := starts_le
    rw [BitVec.toNat_ofNat]
    exact Nat.mod_eq_of_lt (by omega)
  have hcount : (BitVec.ofNat 32 (count bits.sacked p high)).toNat = count bits.sacked p high := by
    have hle : count bits.sacked p high ≤ (high - p).toNat := count_le
    rw [BitVec.toNat_ofNat]
    exact Nat.mod_eq_of_lt (by omega)
  have hthresh : DUPTHRESH.toNat = 3 := rfl
  rw [isLost, assert_bind hsack, assert_bind huna, h.getNumOfDiscontiguousSacks_eq hlow hhigh,
    h.getAmountOfSackedBytes_eq hlow hhigh]
  dsimp only [bind, Except.bind]
  simp only [ge_iff_le, BitVec.le_def, hstarts, hcount, hthresh]
  by_cases hsacks : 3 ≤ starts bits.sacked false p high
  · simp [hsacks]
  · simp [hsacks]

theorem Holds.isLost_antitone {state : TCPStateVariables} {p' : ℤ}
    (hlow : low ≤ p) (hle : p ≤ p') (hhigh : p' ≤ high)
    (huna : seqGE (seqOf p) state.snd_una = true) (hlost : isLost state q (seqOf p') = .ok true) :
    isLost state q (seqOf p) = .ok true := by
  obtain ⟨_, hsack, hrest⟩ := bind_eq_ok_iff.mp hlost
  obtain ⟨_, huna', -⟩ := bind_eq_ok_iff.mp hrest
  rw [assert_eq_ok] at hsack huna'
  rw [h.isLost_eq (hlow.trans hle) hhigh hsack huna', Except.ok.injEq, decide_eq_true_eq] at hlost
  rw [h.isLost_eq hlow (hle.trans hhigh) hsack huna, Except.ok.injEq, decide_eq_true_eq]
  have hstarts := @starts_antitone bits.sacked p' high p hle hhigh
  have hcount := @count_antitone bits.sacked p' high p hle hhigh
  rcases hlost with hsacks | hbytes
  · exact .inl (hsacks.trans hstarts)
  · exact .inr (hbytes.trans hcount)

end

end Queue

end inet.tcp.TCPSACKRexmitQueue

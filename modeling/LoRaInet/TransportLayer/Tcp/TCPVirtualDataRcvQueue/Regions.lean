import LoRaInet.TransportLayer.Tcp.ReceivedBytes
import LoRaInet.TransportLayer.Tcp.TCPVirtualDataRcvQueue

open omnetpp interval

namespace inet.tcp

/-- The block lies in the window above a position. -/
def Within (first : ℤ) (b : Block ℤ) : Prop := first ≤ b.low ∧ b.high < first + 2 ^ 31

variable {a b : Block ℤ} {first : ℤ}

theorem Within.near (ha : Within first a) (hb : Within first b) :
    Near a.low b.low ∧ Near a.high b.high ∧ Near a.high b.low := by
  have halt := a.low_lt_high
  have hblt := b.low_lt_high
  obtain ⟨ha₁, ha₂⟩ := ha
  obtain ⟨hb₁, hb₂⟩ := hb
  refine ⟨⟨?_, ?_⟩, ⟨?_, ?_⟩, ?_, ?_⟩ <;> omega

theorem Within.meets (ha : Within first a) (hb : Within first b) (hab : ¬a.Before b) (hba : ¬b.Before a) :
    (seqLess (seqOf a.high) (seqOf b.low) || seqLess (seqOf b.high) (seqOf a.low)) = false := by
  rw [Bool.or_eq_false_iff, Bool.eq_false_iff, Bool.eq_false_iff, ne_eq, ne_eq,
    seqLess_seqOf (ha.near hb).2.2, seqLess_seqOf (hb.near ha).2.2]
  exact ⟨hab, hba⟩

theorem Within.hull (ha : Within first a) (hb : Within first b) : Within first (a.hull b) :=
  ⟨le_min ha.1 hb.1, max_lt ha.2 hb.2⟩

/-- What a region class guarantees about its regions. `Joins` says of a new block
which of the stored ones it can be merged with. -/
structure RegionLaws (R : Type) [Region R] where
  Holds : R → Block ℤ → Prop
  Joins : Block ℤ → Block ℤ → Prop
  getBegin_eq : ∀ {r b}, Holds r b → Region.getBegin r = seqOf b.low
  getEnd_eq : ∀ {r b}, Holds r b → Region.getEnd r = seqOf b.high
  merge_eq : ∀ {first r s a b}, Holds r a → Holds s b → Within first a → Within first b →
    ¬a.Before b → ¬b.Before a → Joins a b →
    ∃ t, Region.merge r s = some t ∧ Holds t (a.hull b)
  joins_hull : ∀ {a b c}, Joins a b → Joins a c → ¬a.Before b → c.Before b → Joins (a.hull b) c
  split_eq : ∀ {first r b p} (hlow : b.low < p) (hhigh : p < b.high), Holds r b →
    Within first b → ∃ new rest, Region.split r (seqOf p) = .ok (new, rest) ∧
      Holds new ⟨b.low, p, hlow⟩ ∧ Holds rest ⟨p, b.high, hhigh⟩

namespace TCPVirtualDataRcvQueue

variable {R : Type} [Region R] (laws : RegionLaws R)

section Compare

variable {laws} {first : ℤ} {r s : R} {a b : Block ℤ}

section

variable (hr : laws.Holds r a) (hs : laws.Holds s b) (ha : Within first a) (hb : Within first b)
include hr hs ha hb

theorem compare_eq : compare r s = if a.high = b.low then .BEFORE_TOUCH
      else if a.low = b.high then .AFTER_TOUCH
      else if a.high < b.low then .BEFORE
      else if b.high < a.low then .AFTER
      else .OVERLAP := by
  simp only [compare, laws.getBegin_eq hr, laws.getEnd_eq hr, laws.getBegin_eq hs,
    laws.getEnd_eq hs, seqOf_inj (ha.near hb).2.2, seqOf_inj (hb.near ha).2.2.symm,
    seqLess_seqOf (ha.near hb).2.2, seqLess_seqOf (hb.near ha).2.2]

theorem compare_eq_before : compare r s = .BEFORE ↔ a.Before b := by
  have halt := a.low_lt_high
  have hblt := b.low_lt_high
  rw [compare_eq hr hs ha hb, Block.Before]
  by_cases h : a.high < b.low
  · have htouch : a.high ≠ b.low := by omega
    have htouch' : a.low ≠ b.high := by omega
    simp [h, htouch, htouch']
  · simp only [h, if_false, iff_false]
    split_ifs <;> simp

theorem compare_eq_after : compare r s = .AFTER ↔ b.Before a := by
  have halt := a.low_lt_high
  have hblt := b.low_lt_high
  rw [compare_eq hr hs ha hb, Block.Before]
  by_cases h : b.high < a.low
  · have htouch : a.high ≠ b.low := by omega
    have htouch' : a.low ≠ b.high := by omega
    have hbefore : ¬a.high < b.low := by omega
    simp [h, htouch, htouch', hbefore]
  · simp only [h, if_false, iff_false]
    split_ifs <;> simp

end

end Compare

section Merge

variable {laws} {first : ℤ}

theorem mergeLoop_holds {seg : R} {s : Block ℤ} {before after : List R}
    {lower upper : List (Block ℤ)} (hseg : laws.Holds seg s) (hs : Within first s)
    (hbefore : List.Forall₂ laws.Holds before lower)
    (hafter : List.Forall₂ laws.Holds after upper)
    (hlower : ∀ b ∈ lower, Within first b) (hjoins : ∀ b ∈ lower, laws.Joins s b)
    (hsorted : lower.Pairwise fun b c => c.Before b) :
    ∃ l, mergeLoop seg before after = .ok l ∧
      List.Forall₂ laws.Holds l (insertInto s lower upper) := by
  induction hbefore generalizing seg s after upper with
  | nil => exact ⟨_, rfl, .cons hseg hafter⟩
  | @cons i b before lower hi hbefore ih =>
    obtain ⟨hb, hlower⟩ := List.forall_mem_cons.mp hlower
    obtain ⟨hjoin, hjoins⟩ := List.forall_mem_cons.mp hjoins
    obtain ⟨hbelow, hsorted⟩ := List.pairwise_cons.mp hsorted
    have hcmpBefore := compare_eq_before hi hseg hb hs
    have hcmpAfter := compare_eq_after hi hseg hb hs
    unfold mergeLoop insertInto
    by_cases h₁ : b.Before s
    · rw [hcmpBefore.mpr h₁, if_pos h₁]
      refine ⟨_, rfl, ?_⟩
      exact List.rel_append (List.rel_reverse hbefore) (.cons hi (.cons hseg hafter))
    · rw [if_neg h₁]
      by_cases h₂ : s.Before b
      · rw [hcmpAfter.mpr h₂, if_pos h₂]
        exact ih hseg hs (.cons hi hafter) hlower hjoins hsorted
      · rw [if_neg h₂]
        obtain ⟨t, hmerge, ht⟩ := laws.merge_eq hseg hi hs hb h₂ h₁ hjoin
        have hrest := ih ht (hs.hull hb) hafter hlower
          (fun c hc => laws.joins_hull hjoin (hjoins c hc) h₂ (hbelow c hc)) hsorted
        split
        · next h => exact absurd (hcmpBefore.mp h) h₁
        · next h => exact absurd (hcmpAfter.mp h) h₂
        · rw [hmerge]
          exact hrest

end Merge

/-- The regions of the queue hold exactly what is buffered, in separate blocks. -/
structure Buffers (q : TCPVirtualDataRcvQueue R) (bytes : ReceivedBytes)
    (blocks : List (Block ℤ)) : Prop where
  wellFormed : bytes.WellFormed
  regions : List.Forall₂ laws.Holds q.regionList blocks
  separated : Separated blocks
  cover_eq : cover blocks = bytes.buffered
  rcv_nxt_eq : q.rcv_nxt = seqOf bytes.next

theorem buffers_init (startSeq : uint32) :
    (init startSeq).Buffers laws (.init startSeq.toNat) [] where
  wellFormed := .init _
  regions := .nil
  separated := .nil
  cover_eq := by simp
  rcv_nxt_eq := by
    have hnext : (ReceivedBytes.init startSeq.toNat).next = startSeq.toNat :=
      ReceivedBytes.next_eq (.init _) (le_refl _) (Set.notMem_empty _) (by simp [ReceivedBytes.init])
    rw [hnext, seqOf_toNat]
    rfl

section Blocks

variable {bytes : ReceivedBytes} {blocks : List (Block ℤ)} {b : Block ℤ}

theorem within_of_cover (hwf : bytes.WellFormed) (hcover : cover blocks = bytes.buffered)
    (hb : b ∈ blocks) : Within bytes.first b := by
  have hlt := b.low_lt_high
  have hlow : b.low ∈ bytes.buffered := hcover ▸ ⟨b, hb, le_refl _, hlt⟩
  have hlast : b.high - 1 ∈ bytes.buffered := hcover ▸ ⟨b, hb, by omega, by omega⟩
  have hwindow := hwf.received_lt _ hlast.1
  exact ⟨hlow.2, by omega⟩

variable {rest : List (Block ℤ)}

/-- Nothing is missing below the first block's end, when nothing is below its
beginning. -/
theorem next_eq_front (hwf : bytes.WellFormed)
    (hsep : Separated (b :: rest)) (hcover : cover (b :: rest) = bytes.buffered)
    (hlow : b.low ≤ bytes.next) : bytes.next = b.high := by
  have hwithin := within_of_cover hwf hcover (.head _)
  have hfirst := hwithin.1
  have hlt := b.low_lt_high
  have hstart := hwf.start_le
  apply ReceivedBytes.next_eq hwf
  · omega
  · intro hmem
    have hbuffered : b.high ∈ cover (b :: rest) := hcover ▸ ⟨hmem, by omega⟩
    exact hsep.high_notMem (.head _) hbuffered
  · intro p hp
    by_cases hnext : p < bytes.next
    · exact hwf.mem_received hp.1 hnext
    · have hbuffered : p ∈ bytes.buffered :=
        hcover ▸ ⟨b, (.head _), hlow.trans (not_lt.mp hnext), hp.2⟩
      exact hbuffered.1

theorem front_le (hsep : Separated (b :: rest)) {p : ℤ}
    (hp : p ∈ cover (b :: rest)) : b.low ≤ p := by
  obtain ⟨c, hc, hlow, -⟩ := hp
  cases List.mem_cons.mp hc with
  | inl heq => exact heq ▸ hlow
  | inr hmem =>
    have hbefore := (List.pairwise_cons.mp hsep).1 c hmem
    exact (le_of_lt (lt_trans b.low_lt_high hbefore)).trans hlow

/-- The first block begins with the first byte kept, unless that byte is missing. -/
theorem front_eq_first (hwf : bytes.WellFormed)
    (hsep : Separated (b :: rest)) (hcover : cover (b :: rest) = bytes.buffered)
    (hlt : bytes.first < bytes.next) : b.low = bytes.first := by
  have hmem : bytes.first ∈ cover (b :: rest) :=
    hcover ▸ hwf.Ico_subset_buffered ⟨le_refl _, hlt⟩
  exact le_antisymm (front_le hsep hmem) (within_of_cover hwf hcover (.head _)).1

end Blocks

section Insert

variable {laws} {q : TCPVirtualDataRcvQueue R} {bytes : ReceivedBytes} {blocks : List (Block ℤ)}

theorem Buffers.within (h : q.Buffers laws bytes blocks) {b : Block ℤ} (hb : b ∈ blocks) :
    Within bytes.first b :=
  within_of_cover h.wellFormed h.cover_eq hb

theorem Buffers.checkRange_eq (h : q.Buffers laws bytes blocks) {region : R} {s : Block ℤ}
    (hregion : laws.Holds region s) (hs : Within bytes.first s) (str : String) :
    q.checkRange region str = .ok () := by
  have hregions := h.regions
  have hsep := h.separated
  have hwithin : ∀ b ∈ blocks, Within bytes.first b := fun b hb => h.within hb
  unfold checkRange
  cases hlist : q.regionList with
  | nil => rfl
  | cons front rest =>
    rw [hlist] at hregions
    obtain _ | @⟨_, f, _, brest, hfront, hrest⟩ := hregions
    obtain ⟨hbefore, -⟩ := List.pairwise_cons.mp hsep
    have hback : ∃ back, (front :: rest).getLast? = some back ∧
        ∃ g ∈ f :: brest, laws.Holds back g ∧ f.low < g.high := by
      cases hlast : rest.getLast? with
      | none =>
        refine ⟨front, by rw [List.getLast?_cons, hlast]; rfl, f, (.head _), hfront, ?_⟩
        exact f.low_lt_high
      | some back =>
        obtain ⟨g, hg, hholds⟩ := exists_of_forall₂ hrest (List.mem_of_getLast? hlast)
        refine ⟨back, by rw [List.getLast?_cons, hlast]; rfl, g, List.mem_cons_of_mem f hg,
          hholds, ?_⟩
        exact lt_trans (lt_trans f.low_lt_high (hbefore g hg)) g.low_lt_high
    obtain ⟨back, hlast, g, hg, hholds, hlt⟩ := hback
    have hf := hwithin f (.head _)
    have hg := hwithin g hg
    have hslt := s.low_lt_high
    have hmin := seqMin_seqOf (hf.near hs).1
    have hmax := seqMax_seqOf (hg.near hs).2.1
    obtain ⟨hf₁, hf₂⟩ := hf
    obtain ⟨hg₁, hg₂⟩ := hg
    obtain ⟨hs₁, hs₂⟩ := hs
    have hflt := f.low_lt_high
    have hglt := g.low_lt_high
    have h₁ : seqGE (seqOf (min f.low s.low)) (seqOf g.high) = false := by
      rw [Bool.eq_false_iff, ne_eq, seqGE_seqOf ⟨by omega, by omega⟩]
      omega
    have h₂ : seqGE (seqOf (min f.low s.low)) (seqOf s.high) = false := by
      rw [Bool.eq_false_iff, ne_eq, seqGE_seqOf ⟨by omega, by omega⟩]
      omega
    have h₃ : seqGE (seqOf f.low) (seqOf (max g.high s.high)) = false := by
      rw [Bool.eq_false_iff, ne_eq, seqGE_seqOf ⟨by omega, by omega⟩]
      omega
    have h₄ : seqGE (seqOf s.low) (seqOf (max g.high s.high)) = false := by
      rw [Bool.eq_false_iff, ne_eq, seqGE_seqOf ⟨by omega, by omega⟩]
      omega
    have hrange : outOfRange front back region = false := by
      simp only [outOfRange, laws.getBegin_eq hfront, laws.getEnd_eq hholds,
        laws.getBegin_eq hregion, laws.getEnd_eq hregion, hmin, hmax, h₁, h₂, h₃, h₄, Bool.or_self]
    rw [List.head?_cons, hlast]
    simp [hrange]

theorem Buffers.merge_eq (h : q.Buffers laws bytes blocks) {region : R} {s : Block ℤ}
    (hregion : laws.Holds region s) (hs : Within bytes.first s)
    (hjoins : ∀ b ∈ blocks, laws.Joins s b) :
    ∃ l, q.merge region = .ok { q with regionList := l } ∧
      List.Forall₂ laws.Holds l (interval.insert s blocks) := by
  have hupper : List.Forall₂ laws.Holds [] [] := .nil
  have hloop := mergeLoop_holds hregion hs (List.rel_reverse h.regions) hupper
    (fun b hb => h.within (List.mem_reverse.mp hb)) (fun b hb => hjoins b (List.mem_reverse.mp hb))
    (List.pairwise_reverse.mpr h.separated)
  obtain ⟨l, hmerge, hl⟩ := hloop
  refine ⟨l, ?_, hl⟩
  rw [merge, hmerge]
  rfl

theorem Buffers.insertRegion (h : q.Buffers laws bytes blocks) {region : R} {s : Block ℤ}
    (hregion : laws.Holds region s) (hs : Within bytes.first s)
    (hjoins : ∀ b ∈ blocks, laws.Joins s b) (str : String) :
    ∃ q', q.insertRegion region str = .ok q' ∧
      q'.Buffers laws (bytes.insert s) (interval.insert s blocks) := by
  obtain ⟨l, hmerge, hl⟩ := h.merge_eq hregion hs hjoins
  have hwf := h.wellFormed.insert hs.1 hs.2
  have hsep : Separated (interval.insert s blocks) := separated_insert h.separated
  have hcover : cover (interval.insert s blocks) = (bytes.insert s).buffered := by
    rw [cover_insert, h.cover_eq, ReceivedBytes.buffered_insert hs.1]
  have hle := h.wellFormed.next_le_next_insert hs.1 hs.2
  have hupdate : ∃ q', updateRcvNxt { q with regionList := l } = .ok q' ∧
      q'.regionList = l ∧ q'.rcv_nxt = seqOf (bytes.insert s).next := by
    cases hblocks : interval.insert s blocks with
    | nil =>
      rw [hblocks, cover_nil, ReceivedBytes.buffered_insert hs.1] at hcover
      have hmem : s.low ∈ s.toSet ∪ bytes.buffered := .inl ⟨le_refl _, s.low_lt_high⟩
      exact absurd (hcover ▸ hmem) (Set.notMem_empty _)
    | cons b rest =>
      rw [hblocks] at hl hsep hcover
      obtain _ | @⟨front, _, tail, _, hfront, htail⟩ := hl
      have hb := within_of_cover hwf hcover (.head _)
      have hnext := h.wellFormed.next_lt
      have hfirst := h.wellFormed.first_le_next
      have hblt := b.low_lt_high
      obtain ⟨hb₁, hb₂⟩ := hb
      rw [ReceivedBytes.first_insert] at hb₁ hb₂
      have hge : seqGE (seqOf bytes.next) (seqOf b.low) = true ↔ b.low ≤ bytes.next :=
        seqGE_seqOf ⟨by omega, by omega⟩
      simp only [updateRcvNxt, laws.getBegin_eq hfront, laws.getEnd_eq hfront, h.rcv_nxt_eq, hge]
      by_cases hlow : b.low ≤ bytes.next
      · rw [if_pos hlow, next_eq_front hwf hsep hcover (hlow.trans hle)]
        exact ⟨_, rfl, rfl, rfl⟩
      · rw [if_neg hlow]
        have hstays : (bytes.insert s).next = bytes.next := by
          apply ReceivedBytes.next_eq hwf h.wellFormed.start_le_next
          · intro hmem
            have hbuffered : bytes.next ∈ cover (b :: rest) := hcover ▸ ⟨hmem, hfirst⟩
            exact hlow (front_le hsep hbuffered)
          · exact fun p hp => .inr (h.wellFormed.mem_received hp.1 hp.2)
        rw [hstays]
        exact ⟨_, rfl, rfl, rfl⟩
  obtain ⟨q', hq', hlist, hnext⟩ := hupdate
  refine ⟨q', ?_, hwf, hlist ▸ hl, hsep, hcover, hnext⟩
  rw [TCPVirtualDataRcvQueue.insertRegion, h.checkRange_eq hregion hs, hmerge]
  exact hq'

end Insert

section Extract

variable {laws} {q : TCPVirtualDataRcvQueue R} {bytes : ReceivedBytes} {blocks : List (Block ℤ)}

/-- The step of an extraction, which hands on one region: what lies below the
given position. -/
theorem Buffers.extractTo (h : q.Buffers laws bytes blocks) {stop : ℤ} (hstop : stop ≤ bytes.next)
    (hnear : bytes.next < stop + 2 ^ 31) (hblocks : ∀ b ∈ blocks, b.high < stop + 2 ^ 31) :
    ∃ q' out blocks', q.extractTo (seqOf stop) = .ok (q', out) ∧
      q'.Buffers laws (bytes.extract stop) blocks' ∧
      (∀ b ∈ blocks', ∃ c ∈ blocks, b.high = c.high) ∧
      (out = none → stop ≤ bytes.first) ∧
      (∀ r, out = some r → ∃ hlt : bytes.first < stop, laws.Holds r ⟨bytes.first, stop, hlt⟩) := by
  have hwf := h.wellFormed
  have hwf' := hwf.extract hstop
  have hassert : seqLE (seqOf stop) q.rcv_nxt = true := by
    rw [h.rcv_nxt_eq]
    exact (seqLE_seqOf ⟨by omega, by omega⟩).mpr hstop
  have hkept : stop ≤ bytes.first → q.Buffers laws (bytes.extract stop) blocks := by
    intro hle
    refine ⟨hwf', h.regions, h.separated, ?_, h.rcv_nxt_eq⟩
    rw [ReceivedBytes.buffered_extract, max_eq_left hle, ← h.cover_eq]
    ext p
    constructor
    · intro hp
      exact ⟨hp, (h.cover_eq ▸ hp : p ∈ bytes.buffered).2⟩
    · exact fun hp => hp.1
  have hregions := h.regions
  rw [TCPVirtualDataRcvQueue.extractTo, assert_bind hassert]
  cases hlist : q.regionList with
  | nil =>
    rw [hlist] at hregions
    have hempty : blocks = [] := List.forall₂_nil_left_iff.mp hregions
    have hle : stop ≤ bytes.first := by
      by_contra hlt
      have hmem : bytes.first ∈ bytes.buffered :=
        hwf.Ico_subset_buffered ⟨le_refl _, (not_le.mp hlt).trans_le hstop⟩
      rw [← h.cover_eq, hempty, cover_nil] at hmem
      exact hmem
    exact ⟨q, none, blocks, rfl, hkept hle, fun b hb => ⟨b, hb, rfl⟩, fun _ => hle, by simp⟩
  | cons reg rest =>
    rw [hlist] at hregions
    obtain _ | @⟨_, f, _, brest, hreg, hrest⟩ := hregions
    have hcover := h.cover_eq
    have hsep := h.separated
    have hf := h.within (.head _)
    have hfhigh := hblocks f (.head _)
    have hflt := f.low_lt_high
    have hnext := hwf.next_lt
    have hfirst := hwf.first_le_next
    have hfront := front_eq_first hwf hsep hcover
    have hle : seqLE (seqOf stop) (seqOf f.low) = true ↔ stop ≤ f.low :=
      seqLE_seqOf ⟨by linarith [hf.1], by omega⟩
    dsimp only
    rw [laws.getBegin_eq hreg]
    by_cases hlow : stop ≤ f.low
    · have hstop' : stop ≤ bytes.first := by
        by_contra hlt
        have heq := hfront (by omega)
        omega
      rw [if_pos (hle.mpr hlow)]
      exact ⟨q, none, f :: brest, rfl, hkept hstop', fun b hb => ⟨b, hb, rfl⟩, fun _ => hstop',
        by simp⟩
    · have hhigh := next_eq_front hwf hsep hcover (by omega)
      have hlt : bytes.first < stop := by linarith [hf.1]
      have hfirstEq := hfront (hlt.trans_le hstop)
      have hge : seqGE (seqOf stop) (seqOf f.high) = true ↔ f.high ≤ stop :=
        seqGE_seqOf ⟨by omega, by omega⟩
      rw [if_neg (fun hcond => hlow (hle.mp hcond)), laws.getEnd_eq hreg]
      by_cases hall : f.high ≤ stop
      · have hstopEq : stop = f.high := by omega
        rw [if_pos (hge.mpr hall)]
        refine ⟨_, some reg, brest, rfl, ⟨hwf', hrest, (List.pairwise_cons.mp hsep).2, ?_,
          h.rcv_nxt_eq⟩, fun b hb => ⟨b, List.mem_cons_of_mem f hb, rfl⟩, by simp, ?_⟩
        · rw [hsep.cover_tail, hcover, ReceivedBytes.buffered_extract, max_eq_right hlt.le, hstopEq]
        · rintro r heq
          cases heq
          refine ⟨hlt, ?_⟩
          have hblock : (⟨bytes.first, stop, hlt⟩ : Block ℤ) = f := by
            obtain ⟨low, high, hlh⟩ := f
            congr 1
            exact hfirstEq.symm
          exact hblock ▸ hreg
      · rw [if_neg (fun hcond => hall (hge.mp hcond))]
        obtain ⟨new, left, hsplit, hnew, hleft⟩ :=
          laws.split_eq (not_le.mp hlow) (not_le.mp hall) hreg hf
        have hcut : f.low ≤ (Block.mk stop f.high (not_le.mp hall)).low := (not_le.mp hlow).le
        obtain ⟨hsep', hcover'⟩ := hsep.cover_cut hcut rfl
        rw [hsplit]
        refine ⟨_, some new, _, rfl, ⟨hwf', .cons hleft hrest, hsep', ?_, h.rcv_nxt_eq⟩, ?_,
          by simp, ?_⟩
        · rw [hcover', hcover, ReceivedBytes.buffered_extract, max_eq_right hlt.le]
        · intro b hb
          cases List.mem_cons.mp hb with
          | inl heq => exact ⟨f, (.head _), heq ▸ rfl⟩
          | inr hmem => exact ⟨b, List.mem_cons_of_mem f hmem, rfl⟩
        · rintro r heq
          cases heq
          simp only [hfirstEq] at hnew
          exact ⟨hlt, hnew⟩

end Extract

section Queries

variable {laws} {q : TCPVirtualDataRcvQueue R} {bytes : ReceivedBytes} {blocks : List (Block ℤ)}

theorem foldl_getLength {l : List R} (h : List.Forall₂ laws.Holds l blocks) (total : ℤ) :
    l.foldl (fun bytes elem => bytes + getLength elem) (seqOf total) =
      seqOf (total + (blocks.map fun b => b.high - b.low).sum) := by
  induction h generalizing total with
  | nil => simp
  | cons hr _ ih =>
    rw [List.foldl_cons, getLength, laws.getBegin_eq hr, laws.getEnd_eq hr, seqOf_sub, seqOf_add,
      ih, List.map_cons, List.sum_cons, add_assoc]

theorem Buffers.getAmountOfBufferedBytes (h : q.Buffers laws bytes blocks) :
    q.getAmountOfBufferedBytes.toNat = bytes.buffered.ncard := by
  obtain ⟨hfinite, hsum⟩ := h.separated.ncard_cover
  have hsubset : bytes.buffered ⊆ Set.Ico bytes.first (bytes.first + 2 ^ 31) := by
    intro p hp
    have hlt := h.wellFormed.received_lt p hp.1
    exact ⟨hp.2, by omega⟩
  have hcard : bytes.buffered.ncard ≤ 2 ^ 31 := by
    have hle := Set.ncard_le_ncard hsubset (Set.finite_Ico _ _)
    rw [← Finset.coe_Ico, Set.ncard_coe_finset, Int.card_Ico] at hle
    omega
  have hfold := foldl_getLength h.regions 0
  rw [h.cover_eq] at hsum
  rw [zero_add, ← hsum] at hfold
  have hzero : seqOf 0 = 0 := rfl
  rw [hzero] at hfold
  rw [TCPVirtualDataRcvQueue.getAmountOfBufferedBytes, hfold]
  have hsub := @toNat_sub_of_near bytes.buffered.ncard 0 (by omega) (by omega)
  rw [seqOf_sub, sub_zero] at hsub
  omega

theorem Buffers.getFirstSeqNo (h : q.Buffers laws bytes blocks) :
    q.getFirstSeqNo = seqOf bytes.first := by
  have hwf := h.wellFormed
  have hregions := h.regions
  have hfirst := hwf.first_le_next
  unfold TCPVirtualDataRcvQueue.getFirstSeqNo
  cases hlist : q.regionList with
  | nil =>
    rw [hlist] at hregions
    have hempty : blocks = [] := List.forall₂_nil_left_iff.mp hregions
    have heq : bytes.next = bytes.first := by
      by_contra hne
      have hmem : bytes.first ∈ bytes.buffered :=
        hwf.Ico_subset_buffered ⟨le_refl _, lt_of_le_of_ne hfirst (Ne.symm hne)⟩
      rw [← h.cover_eq, hempty, cover_nil] at hmem
      exact hmem
    rw [← heq]
    exact h.rcv_nxt_eq
  | cons front rest =>
    rw [hlist] at hregions
    obtain _ | @⟨_, f, _, brest, hfront, hrest⟩ := hregions
    have hf := h.within (.head _)
    have hflt := f.low_lt_high
    have hnext := hwf.next_lt
    have hlow := front_eq_first hwf h.separated h.cover_eq
    obtain ⟨hf₁, hf₂⟩ := hf
    dsimp only
    rw [laws.getBegin_eq hfront, h.rcv_nxt_eq, seqMin_seqOf ⟨by omega, by omega⟩]
    congr 1
    omega

/-- A search for the region of a position finds it when it is there. -/
theorem Buffers.find_region (h : q.Buffers laws bytes blocks) {found : R → Bool} {p : ℤ}
    (hfound : ∀ r b, b ∈ blocks → laws.Holds r b → (found r = true ↔ p ∈ b.toSet)) :
    (∃ r b, q.regionList.find? found = some r ∧ b ∈ blocks ∧ laws.Holds r b ∧ p ∈ b.toSet) ∨
      (q.regionList.find? found = none ∧ p ∉ bytes.buffered) := by
  cases hfind : q.regionList.find? found with
  | none =>
    refine .inr ⟨rfl, fun hp => ?_⟩
    rw [← h.cover_eq] at hp
    obtain ⟨b, hb, hpb⟩ := hp
    obtain ⟨r, hr, hholds⟩ := exists_of_forall₂ h.regions.flip hb
    exact absurd ((hfound r b hb hholds).mpr hpb) (List.find?_eq_none.mp hfind r hr)
  | some r =>
    obtain ⟨b, hb, hholds⟩ := exists_of_forall₂ h.regions (List.mem_of_find?_eq_some hfind)
    exact .inl ⟨r, b, rfl, hb, hholds, (hfound r b hb hholds).mp (List.find?_some hfind)⟩

/-- The left edge of the gapless bytes around a position of the window. -/
theorem Buffers.getLE (h : q.Buffers laws bytes blocks) {p : ℤ} (hlow : bytes.first ≤ p)
    (hhigh : p < bytes.first + 2 ^ 31) :
    (p ∈ bytes.buffered → ∃ left, IsLeast {x | Set.Icc x p ⊆ bytes.buffered} left ∧
        q.getLE (seqOf p) = seqOf left) ∧
      (p ∉ bytes.buffered → q.getLE (seqOf p) = seqOf p) := by
  have hfound : ∀ r b, b ∈ blocks → laws.Holds r b →
      ((seqLE (Region.getBegin r) (seqOf p) && seqLess (seqOf p) (Region.getEnd r)) = true ↔
        p ∈ b.toSet) := by
    intro r b hb hr
    obtain ⟨hb₁, hb₂⟩ := h.within hb
    have hblt := b.low_lt_high
    rw [Bool.and_eq_true, laws.getBegin_eq hr, laws.getEnd_eq hr,
      seqLE_seqOf ⟨by omega, by omega⟩, seqLess_seqOf ⟨by omega, by omega⟩, Block.mem_toSet]
  rcases h.find_region hfound with ⟨r, b, hfind, hb, hholds, hpb⟩ | ⟨hfind, hp⟩
  · rw [TCPVirtualDataRcvQueue.getLE, hfind, ← h.cover_eq]
    refine ⟨fun _ => ⟨b.low, h.separated.isLeast_low hb hpb, laws.getBegin_eq hholds⟩, ?_⟩
    exact fun hp => absurd ⟨b, hb, hpb⟩ hp
  · rw [TCPVirtualDataRcvQueue.getLE, hfind]
    exact ⟨fun h => absurd h hp, fun _ => rfl⟩

theorem Buffers.getRE (h : q.Buffers laws bytes blocks) {p : ℤ} (hlow : bytes.first ≤ p)
    (hhigh : p < bytes.first + 2 ^ 31) :
    (p - 1 ∈ bytes.buffered → ∃ right, IsGreatest {x | Set.Ico (p - 1) x ⊆ bytes.buffered} right ∧
        q.getRE (seqOf p) = seqOf right) ∧
      (p - 1 ∉ bytes.buffered → q.getRE (seqOf p) = seqOf p) := by
  have hfound : ∀ r b, b ∈ blocks → laws.Holds r b →
      ((seqLess (Region.getBegin r) (seqOf p) && seqLE (seqOf p) (Region.getEnd r)) = true ↔
        p - 1 ∈ b.toSet) := by
    intro r b hb hr
    obtain ⟨hb₁, hb₂⟩ := h.within hb
    have hblt := b.low_lt_high
    rw [Bool.and_eq_true, laws.getBegin_eq hr, laws.getEnd_eq hr,
      seqLess_seqOf ⟨by omega, by omega⟩, seqLE_seqOf ⟨by omega, by omega⟩, Block.mem_toSet]
    omega
  rcases h.find_region hfound with ⟨r, b, hfind, hb, hholds, hpb⟩ | ⟨hfind, hp⟩
  · rw [TCPVirtualDataRcvQueue.getRE, hfind, ← h.cover_eq]
    refine ⟨fun _ => ⟨b.high, h.separated.isGreatest_high hb hpb, laws.getEnd_eq hholds⟩, ?_⟩
    exact fun hp => absurd ⟨b, hb, hpb⟩ hp
  · rw [TCPVirtualDataRcvQueue.getRE, hfind]
    exact ⟨fun h => absurd h hp, fun _ => rfl⟩

end Queries

end TCPVirtualDataRcvQueue

end inet.tcp

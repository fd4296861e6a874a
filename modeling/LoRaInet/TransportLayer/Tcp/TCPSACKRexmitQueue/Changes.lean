import LoRaInet.TransportLayer.Tcp.TCPSACKRexmitQueue

open omnetpp

namespace inet.tcp.TCPSACKRexmitQueue

/-- The bits of each byte, `sacked` and `rexmitted`. -/
abbrev Bits := ℤ → Bool × Bool

/-- The region has the bytes from one position up to another, with their bits. -/
structure Tile (bits : Bits) (low high : ℤ) (r : Region) : Prop where
  lt : low < high
  begin_eq : r.beginSeqNum = seqOf low
  end_eq : r.endSeqNum = seqOf high
  bits_eq : ∀ p, low ≤ p → p < high → bits p = (r.sacked, r.rexmitted)

/-- The regions have all bytes from one position up to another, without a gap. -/
def Tiles (bits : Bits) : ℤ → List Region → ℤ → Prop
  | low, [], high => low = high
  | low, r :: rest, high => ∃ mid, Tile bits low mid r ∧ Tiles bits mid rest high

section Tiles

variable {bits bits' : Bits} {low mid high s : ℤ} {r : Region} {l m : List Region}

theorem Tile.congr (h : Tile bits low high r)
    (hbits : ∀ p, low ≤ p → p < high → bits' p = bits p) : Tile bits' low high r where
  lt := h.lt
  begin_eq := h.begin_eq
  end_eq := h.end_eq
  bits_eq := fun p hlow hhigh => (hbits p hlow hhigh).trans (h.bits_eq p hlow hhigh)

theorem Tile.take (h : Tile bits low high r) (hlow : low < s) (hhigh : s < high) :
    Tile bits low s { r with endSeqNum := seqOf s } where
  lt := hlow
  begin_eq := h.begin_eq
  end_eq := rfl
  bits_eq := fun p hp hp' => h.bits_eq p hp (hp'.trans hhigh)

theorem Tile.drop (h : Tile bits low high r) (hlow : low ≤ s) (hhigh : s < high) :
    Tile bits s high { r with beginSeqNum := seqOf s } where
  lt := hhigh
  begin_eq := rfl
  end_eq := h.end_eq
  bits_eq := fun p hp hp' => h.bits_eq p (hlow.trans hp) hp'

theorem Tiles.le (h : Tiles bits low l high) : low ≤ high := by
  induction l generalizing low with
  | nil => exact h.le
  | cons r rest ih =>
    obtain ⟨mid, htile, hrest⟩ := h
    exact htile.lt.le.trans (ih hrest)

theorem Tiles.append (hl : Tiles bits low l mid) (hm : Tiles bits mid m high) :
    Tiles bits low (l ++ m) high := by
  induction l generalizing low with
  | nil =>
    obtain rfl : low = mid := hl
    exact hm
  | cons r rest ih =>
    obtain ⟨next, htile, hrest⟩ := hl
    exact ⟨next, htile, ih hrest⟩

theorem Tiles.exists_of_append (h : Tiles bits low (l ++ m) high) :
    ∃ mid, Tiles bits low l mid ∧ Tiles bits mid m high := by
  induction l generalizing low with
  | nil => exact ⟨low, rfl, h⟩
  | cons r rest ih =>
    obtain ⟨next, htile, hrest⟩ := h
    obtain ⟨mid, hl, hm⟩ := ih hrest
    exact ⟨mid, ⟨next, htile, hl⟩, hm⟩

theorem tiles_singleton : Tiles bits low [r] high ↔ Tile bits low high r := by
  constructor
  · rintro ⟨mid, htile, rfl⟩
    exact htile
  · exact fun h => ⟨high, h, rfl⟩

theorem Tiles.map (h : Tiles bits low l high) {f : Region → Region}
    (hf : ∀ r ∈ l, ∀ a b, low ≤ a → b ≤ high → Tile bits a b r → Tile bits' a b (f r)) :
    Tiles bits' low (l.map f) high := by
  induction l generalizing low with
  | nil => exact h
  | cons r rest ih =>
    obtain ⟨mid, htile, hrest⟩ := h
    refine ⟨mid, hf r (.head _) low mid (le_refl _) hrest.le htile, ih hrest ?_⟩
    intro r' hr' a b hlow hhigh
    exact hf r' (List.mem_cons_of_mem r hr') a b (htile.lt.le.trans hlow) hhigh

theorem Tiles.congr (h : Tiles bits low l high)
    (hbits : ∀ p, low ≤ p → p < high → bits' p = bits p) : Tiles bits' low l high := by
  have hmap : Tiles bits' low (l.map id) high := h.map fun r _ a b hlow hhigh htile =>
    htile.congr fun p hp hp' => hbits p (hlow.trans hp) (hp'.trans_le hhigh)
  simpa using hmap

/-- The loop that looks for a position stops before the region that has it. -/
theorem Tiles.search (h : Tiles bits low l high) (hlow : low ≤ s) (hhigh : s ≤ high)
    (hwindow : high < low + 2 ^ 31) :
    ∃ mid, Tiles bits low (l.takeWhile (endsBy (seqOf s))) mid ∧ mid ≤ s ∧
      Tiles bits mid (l.dropWhile (endsBy (seqOf s))) high ∧
      (s = high → mid = high ∧ l.dropWhile (endsBy (seqOf s)) = []) ∧
      (s < high → ∃ i rest next, l.dropWhile (endsBy (seqOf s)) = i :: rest ∧
        Tile bits mid next i ∧ s < next ∧ Tiles bits next rest high) := by
  induction l generalizing low with
  | nil =>
    obtain rfl : low = high := h
    exact ⟨low, rfl, hlow, rfl, fun _ => ⟨rfl, rfl⟩, fun hlt => absurd hlow (not_le_of_gt hlt)⟩
  | cons r rest ih =>
    obtain ⟨next, htile, hrest⟩ := h
    have hle := hrest.le
    have hlt := htile.lt
    have hends : endsBy (seqOf s) r = true ↔ next ≤ s := by
      rw [endsBy, htile.end_eq, seqLE_seqOf ⟨by omega, by omega⟩]
    by_cases hpassed : next ≤ s
    · obtain ⟨mid, hbefore, hmid, hafter, hend, hinside⟩ := ih hrest hpassed (by omega)
      rw [List.takeWhile_cons_of_pos (hends.mpr hpassed),
        List.dropWhile_cons_of_pos (hends.mpr hpassed)]
      exact ⟨mid, ⟨next, htile, hbefore⟩, hmid, hafter, hend, hinside⟩
    · have hnot : ¬endsBy (seqOf s) r = true := fun hcond => hpassed (hends.mp hcond)
      rw [List.takeWhile_cons_of_neg hnot, List.dropWhile_cons_of_neg hnot]
      refine ⟨low, rfl, hlow, ⟨next, htile, hrest⟩, fun heq => ?_, fun _ => ?_⟩
      · omega
      · exact ⟨r, rest, next, rfl, htile, not_le.mp hpassed, hrest⟩

theorem chunk_tiles (h : Tile bits low high r) (hlow : low ≤ s) (hhigh : s < high)
    (hwindow : high < low + 2 ^ 31) :
    Tiles bits low (chunk (seqOf s) r).1 s ∧ Tile bits s high (chunk (seqOf s) r).2 := by
  have heq := @seqOf_inj low s ⟨by omega, by omega⟩
  have hcut : r.beginSeqNum ≠ seqOf s ↔ low ≠ s := by
    rw [h.begin_eq, ne_eq, heq]
  unfold chunk
  by_cases hsame : low = s
  · rw [if_neg (fun hcond => hcut.mp hcond hsame)]
    subst hsame
    exact ⟨rfl, h⟩
  · rw [if_pos (hcut.mpr hsame)]
    have hlt : low < s := lt_of_le_of_ne hlow hsame
    exact ⟨tiles_singleton.mpr (h.take hlt hhigh), h.drop hlow hhigh⟩

theorem Tiles.getLast_end (h : Tiles bits low l high) :
    (l.getLast?.map (·.endSeqNum)).getD (seqOf low) = seqOf high := by
  induction l generalizing low with
  | nil =>
    obtain rfl : low = high := h
    rfl
  | cons r rest ih =>
    obtain ⟨mid, htile, hrest⟩ := h
    have hlast := ih hrest
    rw [List.getLast?_cons]
    cases hrestLast : rest.getLast? with
    | none =>
      rw [hrestLast] at hlast
      exact htile.end_eq.trans hlast
    | some last =>
      rw [hrestLast] at hlast
      exact hlast

theorem Tiles.checkLoop_eq (h : Tiles bits low l high) (hwindow : high < low + 2 ^ 31) :
    checkLoop (seqOf high) (seqOf low) l = true := by
  induction l generalizing low with
  | nil =>
    obtain rfl : low = high := h
    simp [checkLoop]
  | cons r rest ih =>
    obtain ⟨mid, htile, hrest⟩ := h
    have hle := hrest.le
    have hlt := htile.lt
    have hless := (@seqLess_seqOf low mid ⟨by omega, by omega⟩).mpr hlt
    rw [checkLoop, htile.begin_eq, htile.end_eq, hless, ih hrest (by omega)]
    simp

end Tiles

/-- The queue holds the bits of the bytes from `low` up to `high`. -/
structure Holds (q : TCPSACKRexmitQueue) (bits : Bits) (low high : ℤ) : Prop where
  begin_eq : q.begin = seqOf low
  end_eq : q.endSeq = seqOf high
  tiles : Tiles bits low q.rexmitQueue high
  lt : high < low + 2 ^ 31

theorem Holds.checked_eq {q : TCPSACKRexmitQueue} {bits : Bits} {low high : ℤ}
    (h : q.Holds bits low high) : checked q = .ok q := by
  have hcheck : q.checkQueue = true := by
    rw [checkQueue, h.begin_eq, h.end_eq]
    exact h.tiles.checkLoop_eq h.lt
  rw [checked, assert_bind hcheck]

/-- The bits of the bytes from one position up to another are changed. -/
def change (f : Bool × Bool → Bool × Bool) (bits : Bits) (low high : ℤ) : Bits :=
  fun p => if low ≤ p ∧ p < high then f (bits p) else bits p

section Change

variable {bits : Bits} {f : Bool × Bool → Bool × Bool} {low high s t a next : ℤ} {r i : Region}
  {l rest : List Region}

theorem change_inside {p : ℤ} (hlow : low ≤ p) (hhigh : p < high) :
    change f bits low high p = f (bits p) :=
  if_pos ⟨hlow, hhigh⟩

theorem change_outside {p : ℤ} (h : p < low ∨ high ≤ p) : change f bits low high p = bits p :=
  if_neg (by omega)

theorem Tile.change (h : Tile bits low high r) (hlow : s ≤ low) (hhigh : high ≤ t) {r' : Region}
    (hbegin : r'.beginSeqNum = r.beginSeqNum) (hend : r'.endSeqNum = r.endSeqNum)
    (hbits : (r'.sacked, r'.rexmitted) = f (r.sacked, r.rexmitted)) :
    Tile (change f bits s t) low high r' where
  lt := h.lt
  begin_eq := hbegin.trans h.begin_eq
  end_eq := hend.trans h.end_eq
  bits_eq := fun p hp hp' => by
    rw [change_inside (hlow.trans hp) (hp'.trans_le hhigh), h.bits_eq p hp hp', hbits]

theorem Tiles.change_before (h : Tiles bits low l high) (hhigh : high ≤ s) :
    Tiles (change f bits s t) low l high :=
  h.congr fun _ _ hp => change_outside (.inl (hp.trans_le hhigh))

theorem Tiles.change_after (h : Tiles bits low l high) (hlow : t ≤ low) :
    Tiles (change f bits s t) low l high :=
  h.congr fun _ hp _ => change_outside (.inr (hlow.trans hp))

theorem Tiles.exists_ends (h : Tiles bits low l high) (hlt : low < high) :
    ∃ front back, l.head? = some front ∧ l.getLast? = some back ∧
      front.beginSeqNum = seqOf low ∧ back.endSeqNum = seqOf high := by
  have hlast := h.getLast_end
  cases l with
  | nil => exact absurd h hlt.ne
  | cons r rest =>
    obtain ⟨mid, htile, -⟩ := h
    cases hback : (r :: rest).getLast? with
    | none => simp at hback
    | some back =>
      rw [hback] at hlast
      exact ⟨r, back, rfl, rfl, htile.begin_eq, hlast⟩

/-- The regions that lie in the change are marked, after the first one was cut.
What is left ends at the end of the change, or in a region that goes beyond it. -/
theorem mark_tiles (hi : Tile bits a next i) (hrest : Tiles bits next rest high)
    (hlow : a ≤ s) (hnext : s < next) (hst : s < t) (ht : t ≤ high)
    (hwindow : high < a + 2 ^ 31) {mark : Region → Region}
    (hmark : ∀ r x y, s ≤ x → y ≤ t → Tile bits x y r → Tile (change f bits s t) x y (mark r)) :
    ∃ mid, Tiles (change f bits s t) a (chunk (seqOf s) i).1 s ∧ Tiles (change f bits s t) s
        ((((chunk (seqOf s) i).2 :: rest).takeWhile (endsBy (seqOf t))).map mark) mid ∧
      mid ≤ t ∧
      (mid = t → Tiles (change f bits s t) t
        (((chunk (seqOf s) i).2 :: rest).dropWhile (endsBy (seqOf t))) high) ∧
      (mid < t → ∃ j rest' next',
        ((chunk (seqOf s) i).2 :: rest).dropWhile (endsBy (seqOf t)) = j :: rest' ∧
        Tile bits mid next' j ∧ t < next' ∧ Tiles (change f bits s t) next' rest' high) := by
  have hle := hrest.le
  obtain ⟨hcut, hi'⟩ := chunk_tiles hi hlow hnext (by omega)
  have hall : Tiles bits s ((chunk (seqOf s) i).2 :: rest) high := ⟨next, hi', hrest⟩
  obtain ⟨mid, hbefore, hmid, hafter, hend, hinside⟩ := hall.search hst.le ht (by omega)
  refine ⟨mid, hcut.change_before (le_refl _), ?_, hmid, fun heq => ?_, fun hlt => ?_⟩
  · exact hbefore.map fun r _ x y hx hy htile => hmark r x y hx (hy.trans hmid) htile
  · rw [heq] at hafter
    exact hafter.change_after (le_refl _)
  · have hthigh : t < high := by
      by_contra hnot
      have heq := (hend (le_antisymm ht (not_lt.mp hnot))).1
      omega
    obtain ⟨j, rest', next', hdrop, hj, hnext', hrest'⟩ := hinside hthigh
    exact ⟨j, rest', next', hdrop, hj, hnext', hrest'.change_after hnext'.le⟩

theorem rexmitRest_eq_self {seqNum : uint32} {found : Bool} :
    rexmitRest seqNum seqNum found rest = .ok (rest, found) := by
  simp [rexmitRest]

theorem rexmitRest_eq_cons {fromSeqNum toSeqNum : uint32} {found : Bool}
    (hne : fromSeqNum ≠ toSeqNum) (hless : seqLess i.beginSeqNum toSeqNum = true) :
    rexmitRest fromSeqNum toSeqNum found (i :: rest) =
      .ok (⟨fromSeqNum, toSeqNum, i.sacked, true⟩ :: { i with beginSeqNum := toSeqNum } :: rest,
        true) := by
  simp only [rexmitRest, if_pos hne]
  exact assert_bind hless

theorem Tiles.sackRest_eq (h : Tiles bits low l high) : sackRest (seqOf low) l = l := by
  cases l with
  | nil => rfl
  | cons r rest =>
    obtain ⟨mid, htile, -⟩ := h
    have hnot : seqLess r.beginSeqNum (seqOf low) = false := by
      rw [htile.begin_eq]
      simp [seqLess]
    simp [sackRest, hnot]

theorem Tile.inside (hi : Tile bits a next i) (hlow : a ≤ s) (hnext : s < next) (hnear : next < a + 2 ^ 31) :
    (seqLE i.beginSeqNum (seqOf s) && seqLess (seqOf s) i.endSeqNum) = true := by
  rw [Bool.and_eq_true, hi.begin_eq, hi.end_eq, seqLE_seqOf ⟨by omega, by omega⟩, seqLess_seqOf ⟨by omega, by omega⟩]
  exact ⟨hlow, hnext⟩

theorem rexmit_tiles (hi : Tile bits a next i) (hrest : Tiles bits next rest high)
    (hlow : a ≤ s) (hnext : s < next) (hst : s < t) (ht : t ≤ high)
    (hwindow : high < a + 2 ^ 31) :
    ∃ out, rexmit (seqOf s) (seqOf t) (i :: rest) = .ok out ∧
      Tiles (change (fun b => (b.1, true)) bits s t) a out high := by
  have hle := hrest.le
  obtain ⟨mid, hcut, hmarked, hmid, htouch, hinside⟩ :=
    mark_tiles (f := fun b => (b.1, true)) hi hrest hlow hnext hst ht hwindow
      fun r x y hx hy htile =>
        (htile.change hx hy rfl rfl rfl : Tile _ x y (setRexmitted r))
  have hassert := hi.inside hlow hnext (by omega)
  have hfrom := hmarked.getLast_end
  have hsmid := hmarked.le
  rw [rexmit, assert_bind hassert]
  dsimp only
  generalize (((chunk (seqOf s) i).2 :: rest).takeWhile (endsBy (seqOf t))).map setRexmitted =
    marked at *
  rw [hfrom]
  by_cases heq : mid = t
  · have hfound : marked ≠ [] := by
      rintro rfl
      have hsame : s = mid := hmarked
      omega
    refine ⟨(chunk (seqOf s) i).1 ++ marked ++
      ((chunk (seqOf s) i).2 :: rest).dropWhile (endsBy (seqOf t)), ?_,
      (hcut.append hmarked).append (heq ▸ htouch heq)⟩
    rw [heq, rexmitRest_eq_self]
    exact assert_bind (decide_eq_true hfound)
  · have hlt : mid < t := lt_of_le_of_ne hmid heq
    obtain ⟨j, rest', next', hdrop, hj, hnext', hrest'⟩ := hinside hlt
    have hle' := hrest'.le
    have hne : seqOf mid ≠ seqOf t := by
      rw [ne_eq, seqOf_inj ⟨by omega, by omega⟩]
      exact heq
    have hless : seqLess j.beginSeqNum (seqOf t) = true := by
      rw [hj.begin_eq, seqLess_seqOf ⟨by omega, by omega⟩]
      exact hlt
    have hregion : Tile (change (fun b => (b.1, true)) bits s t) mid t
        ⟨seqOf mid, seqOf t, j.sacked, true⟩ := by
      have htake := hj.take hlt hnext'
      exact htake.change hsmid (le_refl _) hj.begin_eq.symm rfl rfl
    have hrestTile : Tile (change (fun b => (b.1, true)) bits s t) t next'
        { j with beginSeqNum := seqOf t } :=
      (hj.drop hmid hnext').congr fun p hp _ => change_outside (.inr hp)
    refine ⟨(chunk (seqOf s) i).1 ++ marked ++ (⟨seqOf mid, seqOf t, j.sacked, true⟩ ::
      { j with beginSeqNum := seqOf t } :: rest'), ?_,
      (hcut.append hmarked).append ⟨t, hregion, next', hrestTile, hrest'⟩⟩
    rw [hdrop, rexmitRest_eq_cons hne hless]
    rfl

theorem sack_tiles (hi : Tile bits a next i) (hrest : Tiles bits next rest high)
    (hlow : a ≤ s) (hnext : s < next) (hst : s < t) (ht : t ≤ high)
    (hwindow : high < a + 2 ^ 31) :
    ∃ out, sack (seqOf s) (seqOf t) (i :: rest) = .ok out ∧
      Tiles (change (fun b => (true, b.2)) bits s t) a out high := by
  have hle := hrest.le
  have hmark : ∀ r x y, s ≤ x → y ≤ t → Tile bits x y r →
      Tile (change (fun b => (true, b.2)) bits s t) x y (setSacked (seqOf s) r) := by
    intro r x y hx hy htile
    have hlt := htile.lt
    have hge : seqGE r.beginSeqNum (seqOf s) = true := by
      rw [htile.begin_eq, seqGE_seqOf ⟨by omega, by omega⟩]
      exact hx
    rw [setSacked, if_pos hge]
    exact htile.change hx hy rfl rfl rfl
  obtain ⟨mid, hcut, hmarked, hmid, htouch, hinside⟩ :=
    mark_tiles hi hrest hlow hnext hst ht hwindow hmark
  have hassert := hi.inside hlow hnext (by omega)
  have hsmid := hmarked.le
  rw [sack, assert_bind hassert]
  dsimp only
  refine ⟨_, rfl, (hcut.append hmarked).append ?_⟩
  by_cases heq : mid = t
  · have htiles := htouch heq
    rw [htiles.sackRest_eq, heq]
    exact htiles
  · have hlt : mid < t := lt_of_le_of_ne hmid heq
    obtain ⟨j, rest', next', hdrop, hj, hnext', hrest'⟩ := hinside hlt
    have hle' := hrest'.le
    have hinner : (seqLess j.beginSeqNum (seqOf t) && seqLess (seqOf t) j.endSeqNum) = true := by
      rw [Bool.and_eq_true, hj.begin_eq, hj.end_eq, seqLess_seqOf ⟨by omega, by omega⟩,
        seqLess_seqOf ⟨by omega, by omega⟩]
      exact ⟨hlt, hnext'⟩
    have hregion : Tile (change (fun b => (true, b.2)) bits s t) mid t
        { j with endSeqNum := seqOf t, sacked := true } :=
      (hj.take hlt hnext').change hsmid (le_refl _) rfl rfl rfl
    have hrestTile : Tile (change (fun b => (true, b.2)) bits s t) t next'
        { j with beginSeqNum := seqOf t } :=
      (hj.drop hmid hnext').congr fun p hp _ => change_outside (.inr hp)
    rw [hdrop, sackRest, if_pos hinner]
    exact ⟨t, hregion, next', hrestTile, hrest'⟩

end Change

section Queue

variable {q : TCPSACKRexmitQueue} {bits : Bits} {low high s t : ℤ}

theorem Holds.inRange (h : q.Holds bits low high) (hlow : low ≤ s) (hhigh : s ≤ high) :
    (seqLE q.begin (seqOf s) && seqLE (seqOf s) q.endSeq) = true := by
  have hlt := h.lt
  rw [Bool.and_eq_true, h.begin_eq, h.end_eq, seqLE_seqOf ⟨by omega, by omega⟩,
    seqLE_seqOf ⟨by omega, by omega⟩]
  exact ⟨hlow, hhigh⟩

theorem Holds.rexmitQueue_ne_nil (h : q.Holds bits low high) (hlt : low < high) :
    q.rexmitQueue ≠ [] := by
  intro hnil
  have htiles := h.tiles
  rw [hnil] at htiles
  have heq : low = high := htiles
  omega

theorem Holds.discardUpTo (h : q.Holds bits low high) (hlow : low ≤ s) (hhigh : s ≤ high) :
    ∃ q', q.discardUpTo (seqOf s) = .ok q' ∧ q'.Holds bits s high := by
  have hlt := h.lt
  obtain ⟨mid, hbefore, hmid, -, hend, hinside⟩ := h.tiles.search hlow hhigh hlt
  have hlowmid := hbefore.le
  rw [TCPSACKRexmitQueue.discardUpTo, assert_bind (h.inRange hlow hhigh)]
  by_cases heq : s = high
  · have hholds : Holds { q with rexmitQueue := [], begin := seqOf s } bits s high :=
      ⟨rfl, h.end_eq, heq, by omega⟩
    rw [(hend heq).2]
    exact ⟨_, hholds.checked_eq, hholds⟩
  · obtain ⟨i, rest, next, hdrop, hi, hnext, hrest⟩ := hinside (lt_of_le_of_ne hhigh heq)
    have hle := hrest.le
    have hassert := hi.inside hmid hnext (by omega)
    have hholds : Holds { q with
        rexmitQueue := { i with beginSeqNum := seqOf s } :: rest
        begin := seqOf s } bits s high :=
      ⟨rfl, h.end_eq, ⟨next, hi.drop hmid hnext, hrest⟩, by omega⟩
    rw [hdrop, discardRegions, assert_bind hassert]
    exact ⟨_, hholds.checked_eq, hholds⟩

/-- The end of an insertion, for any list of regions without a gap. -/
theorem enqueue_eq {regions : List Region} (htiles : Tiles bits low regions high)
    (hlt : low < high) (hwindow : high < low + 2 ^ 31) (hlow : low ≤ s) (hst : s < t)
    (ht : t ≤ high) (hrange : (seqLE q.begin (seqOf s) && seqLE (seqOf s) q.endSeq) = true)
    (hregions : q.enqueueRegions (seqOf s) (seqOf t) = .ok regions) :
    ∃ q', q.enqueueSentData (seqOf s) (seqOf t) = .ok q' ∧ q'.Holds bits low high := by
  obtain ⟨front, back, hfront, hback, hbegin, hend⟩ := htiles.exists_ends hlt
  have hless : seqLess (seqOf s) (seqOf t) = true :=
    (seqLess_seqOf ⟨by omega, by omega⟩).mpr hst
  have hholds : Holds ⟨regions, front.beginSeqNum, back.endSeqNum⟩ bits low high :=
    ⟨hbegin, hend, htiles, hwindow⟩
  refine ⟨_, ?_, hholds⟩
  rw [enqueueSentData, assert_bind hrange, assert_bind hless, hregions]
  dsimp only [bind, Except.bind]
  rw [hfront, hback]
  exact hholds.checked_eq

theorem Holds.enqueueNew (h : q.Holds bits low high) (hst : high < t) (ht : t < low + 2 ^ 31) :
    ∃ q', q.enqueueSentData (seqOf high) (seqOf t) = .ok q' ∧
      q'.Holds (change (fun _ => (false, false)) bits high t) low t := by
  have hle := h.tiles.le
  have hregion : Tile (change (fun _ => (false, false)) bits high t) high t
      ⟨seqOf high, seqOf t, false, false⟩ :=
    ⟨hst, rfl, rfl, fun p hp hp' => change_inside hp hp'⟩
  have htiles := (h.tiles.change_before (le_refl _)).append (tiles_singleton.mpr hregion)
  apply enqueue_eq htiles (by omega) ht hle hst (le_refl _) (h.inRange hle (le_refl _))
  rw [enqueueRegions, if_pos (.inr h.end_eq)]

theorem Holds.enqueueRexmit (h : q.Holds bits low high) (hlow : low ≤ s) (hst : s < t)
    (ht : t ≤ high) :
    ∃ q', q.enqueueSentData (seqOf s) (seqOf t) = .ok q' ∧
      q'.Holds (change (fun b => (b.1, true)) bits s t) low high := by
  have hlt := h.lt
  obtain ⟨mid, hbefore, hmid, -, -, hinside⟩ := h.tiles.search hlow (hst.le.trans ht) hlt
  obtain ⟨i, rest, next, hdrop, hi, hnext, hrest⟩ := hinside (hst.trans_le ht)
  have hlowmid := hbefore.le
  obtain ⟨out, hout, hafter⟩ := rexmit_tiles hi hrest hmid hnext hst ht (by omega)
  have hmode : ¬(q.rexmitQueue = [] ∨ q.endSeq = seqOf s) := by
    rw [h.end_eq, seqOf_inj ⟨by omega, by omega⟩]
    rintro (hnil | heq)
    · exact h.rexmitQueue_ne_nil (by omega) hnil
    · omega
  apply enqueue_eq ((hbefore.change_before hmid).append hafter) (by omega) hlt hlow hst ht
    (h.inRange hlow (hst.le.trans ht))
  rw [enqueueRegions, if_neg hmode, hdrop, hout]
  rfl

theorem Holds.setSackedBit (h : q.Holds bits low high) (hlow : low ≤ s) (hst : s < t)
    (ht : t ≤ high) :
    ∃ q', q.setSackedBit (seqOf s) (seqOf t) = .ok q' ∧
      q'.Holds (change (fun b => (true, b.2)) bits s t) low high := by
  have hlt := h.lt
  obtain ⟨mid, hbefore, hmid, -, -, hinside⟩ := h.tiles.search hlow (hst.le.trans ht) hlt
  obtain ⟨i, rest, next, hdrop, hi, hnext, hrest⟩ := hinside (hst.trans_le ht)
  have hlowmid := hbefore.le
  obtain ⟨out, hout, hafter⟩ := sack_tiles hi hrest hmid hnext hst ht (by omega)
  have hfrom : seqLess (seqOf s) q.begin = false := by
    rw [Bool.eq_false_iff, ne_eq, h.begin_eq, seqLess_seqOf ⟨by omega, by omega⟩]
    omega
  have hassert₁ : seqLess (seqOf s) q.endSeq = true := by
    rw [h.end_eq, seqLess_seqOf ⟨by omega, by omega⟩]
    omega
  have hassert₂ : (seqLess q.begin (seqOf t) && seqLE (seqOf t) q.endSeq) = true := by
    rw [Bool.and_eq_true, h.begin_eq, h.end_eq, seqLess_seqOf ⟨by omega, by omega⟩,
      seqLE_seqOf ⟨by omega, by omega⟩]
    omega
  have hassert₃ : seqLess (seqOf s) (seqOf t) = true :=
    (seqLess_seqOf ⟨by omega, by omega⟩).mpr hst
  have hholds : Holds { q with rexmitQueue := q.rexmitQueue.takeWhile (endsBy (seqOf s)) ++ out }
      (change (fun b => (true, b.2)) bits s t) low high :=
    ⟨h.begin_eq, h.end_eq, (hbefore.change_before hmid).append hafter, hlt⟩
  refine ⟨_, ?_, hholds⟩
  rw [TCPSACKRexmitQueue.setSackedBit, hfrom, if_neg Bool.false_ne_true,
    assert_bind hassert₁, assert_bind hassert₂, assert_bind hassert₃, sackRegions,
    if_neg (h.rexmitQueue_ne_nil (by omega)), hdrop, hout]
  exact hholds.checked_eq

theorem Holds.resetSackedBit (h : q.Holds bits low high) :
    q.resetSackedBit.Holds (change (fun b => (false, b.2)) bits low high) low high where
  begin_eq := h.begin_eq
  end_eq := h.end_eq
  tiles := h.tiles.map fun _ _ _ _ ha hb htile => htile.change ha hb rfl rfl rfl
  lt := h.lt

theorem Holds.resetRexmittedBit (h : q.Holds bits low high) :
    q.resetRexmittedBit.Holds (change (fun b => (b.1, false)) bits low high) low high where
  begin_eq := h.begin_eq
  end_eq := h.end_eq
  tiles := h.tiles.map fun _ _ _ _ ha hb htile => htile.change ha hb rfl rfl rfl
  lt := h.lt

end Queue

end inet.tcp.TCPSACKRexmitQueue

import LoRaInet.PhysicalLayer.ConvolutionalCoder.Puncturing

open omnetpp

namespace inet

/-- The bits of a `BitVector`, from the first one. -/
abbrev BitVector := List Bool

namespace BitVector

def getBit (bits : BitVector) (pos : ℕ) : Except Fault Bool :=
  match bits[pos]? with
  | some bit => .ok bit
  | none => .error (.cRuntimeError s!"Out of range with bit position {pos}")

/-- The vector grows when the position is behind its end. -/
def setBit (bits : BitVector) (pos : ℕ) (value : Bool) : BitVector :=
  (bits ++ List.replicate (pos + 1 - bits.length) false).set pos value

variable {bits : BitVector}

theorem getBit_eq_ok {pos : ℕ} {bit : Bool} : getBit bits pos = .ok bit ↔ bits[pos]? = some bit := by
  rw [getBit]
  split
  · next b h => rw [h, Except.ok.injEq, Option.some.injEq]
  · next h =>
    rw [h]
    exact ⟨fun h' => (by cases h'), fun h' => (by cases h')⟩

theorem exists_mapM {A B : Type} {f : A → Except Fault B} (l : List A) (h : ∀ a ∈ l, ∃ b, f a = .ok b) :
    ∃ l', l.mapM f = .ok l' := by
  induction l with
  | nil => exact ⟨[], rfl⟩
  | cons a l ih =>
    obtain ⟨b, hb⟩ := h a (.head _)
    obtain ⟨l', hl'⟩ := ih fun a ha => h a (.tail _ ha)
    refine ⟨b :: l', ?_⟩
    rw [List.mapM_cons, hb, hl']
    rfl

theorem exists_getBit {pos : ℕ} (h : pos < bits.length) : ∃ bit, getBit bits pos = .ok bit :=
  ⟨bits[pos], getBit_eq_ok.mpr (List.getElem?_eq_getElem h)⟩

theorem mapM_getBit {start length : ℕ} (h : start + length ≤ bits.length) :
    (List.range length).mapM (fun i => getBit bits (start + i)) = .ok ((bits.drop start).take length) := by
  have hlength : ((bits.drop start).take length).length = length := by
    rw [List.length_take, List.length_drop]
    omega
  rw [mapM_eq_ok_iff, List.forall₂_iff_get]
  refine ⟨by rw [List.length_range, hlength], fun i hi hi' => getBit_eq_ok.mpr ?_⟩
  rw [List.length_range] at hi
  simp only [List.get_eq_getElem, List.getElem_range, List.getElem_take, List.getElem_drop]
  exact List.getElem?_eq_getElem (by omega)

section Write

variable {bits : BitVector} {pos place n : ℕ} {value : Bool}

theorem length_setBit : (setBit bits pos value).length = max bits.length (pos + 1) := by
  rw [setBit, List.length_set, List.length_append, List.length_replicate]
  omega

theorem getElem?_setBit_self : (setBit bits pos value)[pos]? = some value := by
  rw [setBit, List.getElem?_set_self]
  rw [List.length_append, List.length_replicate]
  omega

theorem getElem?_setBit_of_ne (hne : place ≠ pos) {bit : Bool} (h : bits[place]? = some bit) :
    (setBit bits pos value)[place]? = some bit := by
  rw [setBit, List.getElem?_set_ne hne.symm, List.getElem?_append_left (List.getElem?_eq_some_iff.mp h).1, h]

/-- Bits are written to places of a vector one after the other. -/
def write (bits : BitVector) (writes : List (ℕ × Bool)) : BitVector :=
  writes.foldl (fun bits w => setBit bits w.1 w.2) bits

variable {writes : List (ℕ × Bool)}

theorem getElem?_write_of_notMem (hplace : place ∉ writes.map Prod.fst) {bit : Bool}
    (h : bits[place]? = some bit) : (write bits writes)[place]? = some bit := by
  induction writes generalizing bits with
  | nil => exact h
  | cons w writes ih =>
    rw [List.map_cons, List.mem_cons, not_or] at hplace
    exact ih hplace.2 (getElem?_setBit_of_ne hplace.1 h)

theorem getElem?_write (hnodup : (writes.map Prod.fst).Nodup)
    (h : (place, value) ∈ writes) : (write bits writes)[place]? = some value := by
  induction writes generalizing bits with
  | nil => cases h
  | cons w writes ih =>
    rw [List.map_cons, List.nodup_cons] at hnodup
    rcases List.mem_cons.mp h with rfl | h
    · exact getElem?_write_of_notMem hnodup.1 getElem?_setBit_self
    · exact ih hnodup.2 h

theorem length_write_le (hbits : bits.length ≤ n) (h : ∀ w ∈ writes, w.1 < n) :
    (write bits writes).length ≤ n := by
  induction writes generalizing bits with
  | nil => exact hbits
  | cons w writes ih =>
    refine ih ?_ fun v hv => h v (.tail _ hv)
    have hw := h w (.head _)
    rw [length_setBit]
    omega

end Write

end BitVector

namespace physicallayer

open BitVector

/-- The numbers of a `Ieee80211OFDMInterleaving`. -/
structure Ieee80211OFDMInterleaving where
  numberOfCodedBitsPerSymbol : ℕ
  numberOfCodedBitsPerSubcarrier : ℕ

namespace Ieee80211OFDMInterleaver

section Permute

/-- The bits of each symbol are read in their order and set at the places of a permutation. -/
def permute (numberOfCodedBitsPerSymbol : ℕ) (perm : ℕ → ℕ) (bits : BitVector) : Except Fault BitVector :=
  (List.range (bits.length / numberOfCodedBitsPerSymbol)).foldlM (fun permutedBits i =>
    (List.range numberOfCodedBitsPerSymbol).foldlM (fun permutedBits j => do
      let bit ← getBit bits (i * numberOfCodedBitsPerSymbol + j)
      return setBit permutedBits (perm j + i * numberOfCodedBitsPerSymbol) bit) permutedBits) []

/-- Each of two permutations of the places of a symbol undoes the other. -/
structure Inverse (n : ℕ) (perm inv : ℕ → ℕ) : Prop where
  perm_lt : ∀ j < n, perm j < n
  inv_lt : ∀ j < n, inv j < n
  inv_perm : ∀ j < n, inv (perm j) = j
  perm_inv : ∀ j < n, perm (inv j) = j

variable {n symbols : ℕ} {perm inv : ℕ → ℕ} {bits : BitVector}

/-- One side is enough, since there are finitely many places. -/
theorem Inverse.of_inv_perm (hperm : ∀ j < n, perm j < n) (hinv : ∀ j < n, inv (perm j) = j) : Inverse n perm inv := by
  have hinjective : Function.Injective fun j : Fin n => (⟨perm j, hperm j j.isLt⟩ : Fin n) := by
    intro i j h
    apply Fin.ext
    rw [← hinv i i.isLt, ← hinv j j.isLt, Fin.mk.inj h]
  have hplace (j : ℕ) (hj : j < n) : ∃ i < n, perm i = j := by
    obtain ⟨i, hi⟩ := Finite.surjective_of_injective hinjective ⟨j, hj⟩
    exact ⟨i, i.isLt, Fin.mk.inj hi⟩
  refine ⟨hperm, fun j hj => ?_, hinv, fun j hj => ?_⟩
  · obtain ⟨i, hi, rfl⟩ := hplace j hj
    rwa [hinv i hi]
  · obtain ⟨i, hi, rfl⟩ := hplace j hj
    rw [hinv i hi]

theorem foldlM_getBit (pairs : List (ℕ × ℕ)) (h : ∀ p ∈ pairs, p.1 * n + p.2 < bits.length) (permutedBits : BitVector) :
    pairs.foldlM (fun permutedBits p => do
      let bit ← getBit bits (p.1 * n + p.2)
      return setBit permutedBits (perm p.2 + p.1 * n) bit) permutedBits =
      .ok (write permutedBits
        (pairs.map fun p => (perm p.2 + p.1 * n, (bits[p.1 * n + p.2]?).getD false))) := by
  induction pairs generalizing permutedBits with
  | nil => rfl
  | cons p pairs ih =>
    obtain ⟨bit, hbit⟩ := exists_getBit (h p (.head _))
    rw [List.foldlM_cons, hbit]
    refine (ih (fun q hq => h q (.tail _ hq)) _).trans ?_
    rw [List.map_cons, getBit_eq_ok.mp hbit]
    rfl

open ConvolutionalCoder

theorem permute_returns (h : Inverse n perm inv) (hn : 0 < n) (hbits : bits.length = symbols * n) :
    ∃ permutedBits, permute n perm bits = .ok permutedBits ∧ permutedBits.length = bits.length ∧
      ∀ i < symbols, ∀ j < n, permutedBits[perm j + i * n]? = bits[i * n + j]? := by
  let pairs := stateInputs symbols n
  let writes := pairs.map fun p => (perm p.2 + p.1 * n, (bits[p.1 * n + p.2]?).getD false)
  have hplace : ∀ i < symbols, ∀ j < n, i * n + j < symbols * n := by
    intro i hi j hj
    have := Nat.mul_le_mul_right n (Nat.succ_le_of_lt hi)
    rw [Nat.succ_mul] at this
    omega
  have hwrite : permute n perm bits = .ok (write [] writes) := by
    rw [permute, hbits, Nat.mul_div_cancel _ hn]
    refine (foldlM_stateInputs symbols n _ _).trans ?_
    refine foldlM_getBit pairs (fun p hp => ?_) []
    obtain ⟨hi, hj⟩ := mem_stateInputs.mp hp
    rw [hbits]
    exact hplace _ hi _ hj
  have hnodup : (writes.map Prod.fst).Nodup := by
    rw [List.map_map]
    refine List.Nodup.map_on (fun p hp q hq heq => ?_) (List.nodup_range.product List.nodup_range)
    obtain ⟨hi, hj⟩ := mem_stateInputs.mp hp
    obtain ⟨hi', hj'⟩ := mem_stateInputs.mp hq
    have hdiv : p.1 = q.1 := by
      have := congrArg (· / n) heq
      simpa [Nat.add_mul_div_right _ _ hn, Nat.div_eq_of_lt (h.perm_lt _ hj),
        Nat.div_eq_of_lt (h.perm_lt _ hj')] using this
    have hperm : perm p.2 = perm q.2 := by
      simpa [hdiv] using heq
    refine Prod.ext hdiv ?_
    rw [← h.inv_perm _ hj, hperm, h.inv_perm _ hj']
  have hget : ∀ i < symbols, ∀ j < n, (write [] writes)[perm j + i * n]? = bits[i * n + j]? := by
    intro i hi j hj
    have hmem : (perm j + i * n, (bits[i * n + j]?).getD false) ∈ writes :=
      List.mem_map.mpr ⟨(i, j), mem_stateInputs.mpr ⟨hi, hj⟩, rfl⟩
    rw [getElem?_write hnodup hmem, List.getElem?_eq_getElem (hbits ▸ hplace i hi j hj)]
    rfl
  refine ⟨_, hwrite, le_antisymm ?_ ?_, hget⟩
  · refine length_write_le (Nat.zero_le _) fun w hw => ?_
    obtain ⟨p, hp, rfl⟩ := List.mem_map.mp hw
    obtain ⟨hi, hj⟩ := mem_stateInputs.mp hp
    have := hplace _ hi _ (h.perm_lt _ hj)
    change perm p.2 + p.1 * n < bits.length
    omega
  · refine Nat.le_of_not_lt fun hlt => ?_
    have hsymbol : (write [] writes).length / n < symbols := (Nat.div_lt_iff_lt_mul hn).mpr (hbits ▸ hlt)
    have hlast := hget _ hsymbol _ (h.inv_lt _ (Nat.mod_lt (write [] writes).length hn))
    rw [h.perm_inv _ (Nat.mod_lt _ hn), Nat.mul_comm, Nat.mod_add_div, List.getElem?_eq_none le_rfl,
      Nat.mul_comm, List.getElem?_eq_getElem (hbits ▸ hplace _ hsymbol _ (h.inv_lt _ (Nat.mod_lt _ hn)))] at hlast
    cases hlast

theorem permute_inverse (h : Inverse n perm inv) (hn : 0 < n) (hbits : bits.length = symbols * n)
    {permutedBits : BitVector} (hpermute : permute n perm bits = .ok permutedBits) :
    permute n inv permutedBits = .ok bits := by
  obtain ⟨_, hperm, hlength, hget⟩ := permute_returns h hn hbits
  rw [hpermute] at hperm
  cases hperm
  have hinverse : Inverse n inv perm := ⟨h.inv_lt, h.perm_lt, h.perm_inv, h.inv_perm⟩
  obtain ⟨restored, hrestored, hlength', hget'⟩ := permute_returns hinverse hn (hlength.trans hbits)
  rw [hrestored]
  refine congrArg Except.ok (List.ext_getElem? fun place => ?_)
  by_cases hplace : place < symbols * n
  · have hsymbol : place / n < symbols := (Nat.div_lt_iff_lt_mul hn).mpr hplace
    have hmod := Nat.mod_lt place hn
    have hrestore := hget' _ hsymbol _ (h.perm_lt _ hmod)
    rw [h.inv_perm _ hmod, Nat.add_comm (place / n * n), hget _ hsymbol _ hmod, Nat.mul_comm, Nat.mod_add_div,
      Nat.div_add_mod] at hrestore
    exact hrestore
  · rw [List.getElem?_eq_none (by omega), List.getElem?_eq_none (by omega)]

end Permute

section Places

variable (interleaving : Ieee80211OFDMInterleaving)

def s : ℕ := max (interleaving.numberOfCodedBitsPerSubcarrier / 2) 1

/-- Where the bit of a symbol is set after both permutations. -/
def interleavedPlace (j : ℕ) : ℕ :=
  let firstPerm := interleaving.numberOfCodedBitsPerSymbol / 16 * (j % 16) + j / 16
  s interleaving * (firstPerm / s interleaving) + (firstPerm + interleaving.numberOfCodedBitsPerSymbol -
    16 * firstPerm / interleaving.numberOfCodedBitsPerSymbol) % s interleaving

def deinterleavedPlace (j : ℕ) : ℕ :=
  let firstPerm := s interleaving * (j / s interleaving) +
    (j + 16 * j / interleaving.numberOfCodedBitsPerSymbol) % s interleaving
  16 * firstPerm - (interleaving.numberOfCodedBitsPerSymbol - 1) *
    (16 * firstPerm / interleaving.numberOfCodedBitsPerSymbol)

def interleave (deinterleavedBits : BitVector) : Except Fault BitVector :=
  if deinterleavedBits.length % interleaving.numberOfCodedBitsPerSymbol ≠ 0 then
    .error (.cRuntimeError s!"deinterleavedBits length = {deinterleavedBits.length} must be a multiple of numberOfCodedBitsPerSymbol = {interleaving.numberOfCodedBitsPerSymbol}")
  else permute interleaving.numberOfCodedBitsPerSymbol (interleavedPlace interleaving) deinterleavedBits

def deinterleave (interleavedBits : BitVector) : Except Fault BitVector :=
  if interleavedBits.length % interleaving.numberOfCodedBitsPerSymbol ≠ 0 then
    .error (.cRuntimeError s!"interleavedBits length must be a multiple of numberOfCodedBitsPerSymbol = {interleaving.numberOfCodedBitsPerSymbol}")
  else permute interleaving.numberOfCodedBitsPerSymbol (deinterleavedPlace interleaving) interleavedBits

/-- The two permutations of an interleaving undo each other. -/
structure Bijective : Prop extends Inverse interleaving.numberOfCodedBitsPerSymbol (interleavedPlace interleaving)
    (deinterleavedPlace interleaving) where
  pos : 0 < interleaving.numberOfCodedBitsPerSymbol

variable {interleaving} {symbols : ℕ} {bits : BitVector}

/-- Sixteen columns of whole groups of `s` bits. -/
theorem bijective_of_dvd (hpos : 0 < interleaving.numberOfCodedBitsPerSymbol)
    (hdvd : 16 * s interleaving ∣ interleaving.numberOfCodedBitsPerSymbol) : Bijective interleaving := by
  obtain ⟨m, hm⟩ := hdvd
  have hs : 0 < s interleaving := lt_max_of_lt_right Nat.one_pos
  have hmpos : 0 < m := Nat.pos_of_ne_zero fun h => hpos.ne' (by rw [hm, h, Nat.mul_zero])
  have hwpos : 0 < s interleaving * m := Nat.mul_pos hs hmpos
  have hw : interleaving.numberOfCodedBitsPerSymbol / 16 = s interleaving * m := by
    rw [hm, Nat.mul_assoc, Nat.mul_div_cancel_left _ (by decide)]
  have hcolumn (i : ℕ) : 16 * i / interleaving.numberOfCodedBitsPerSymbol = i / (s interleaving * m) := by
    rw [hm, Nat.mul_assoc, Nat.mul_div_mul_left _ _ (by decide)]
  have hrow {j : ℕ} (hj : j < interleaving.numberOfCodedBitsPerSymbol) : j / 16 < s interleaving * m := by
    rw [hm, Nat.mul_assoc] at hj
    exact Nat.div_lt_of_lt_mul hj
  have hfirst {j : ℕ} (hj : j < interleaving.numberOfCodedBitsPerSymbol) :
      (s interleaving * m * (j % 16) + j / 16) / (s interleaving * m) = j % 16 := by
    rw [Nat.mul_add_div hwpos, Nat.div_eq_of_lt (hrow hj), Nat.add_zero]
  -- The second permutation moves a bit within its group of `s` bits, and so within its column.
  have hgroup (j : ℕ) : interleavedPlace interleaving j / s interleaving =
      (s interleaving * m * (j % 16) + j / 16) / s interleaving := by
    simp only [interleavedPlace, hw]
    rw [Nat.mul_add_div hs, Nat.div_eq_of_lt (Nat.mod_lt _ hs), Nat.add_zero]
  have hkept {j : ℕ} (hj : j < interleaving.numberOfCodedBitsPerSymbol) :
      interleavedPlace interleaving j / (s interleaving * m) = j % 16 := by
    rw [← Nat.div_div_eq_div_mul, hgroup, Nat.div_div_eq_div_mul, hfirst hj]
  refine ⟨.of_inv_perm (fun j hj => ?_) (fun j hj => ?_), hpos⟩
  · rw [hm, Nat.mul_assoc, ← Nat.div_lt_iff_lt_mul hwpos, hkept hj]
    exact Nat.mod_lt _ (by decide)
  · have hlt := Nat.mod_lt j (show 0 < 16 by decide)
    have hle : j % 16 ≤ s interleaving * m * (j % 16) + j / 16 + interleaving.numberOfCodedBitsPerSymbol := by
      rw [hm, Nat.mul_assoc]
      omega
    have hshift : (interleavedPlace interleaving j + j % 16) % s interleaving =
        (s interleaving * m * (j % 16) + j / 16) % s interleaving := by
      simp only [interleavedPlace, hw, hcolumn, hfirst hj]
      rw [Nat.add_assoc, Nat.mul_add_mod, Nat.mod_add_mod, Nat.sub_add_cancel hle, hm, Nat.mul_assoc 16,
        Nat.mul_left_comm 16, Nat.add_mul_mod_self_left]
    have hcolumns := Nat.le_mul_of_pos_left (j % 16) hwpos
    simp only [deinterleavedPlace, hcolumn, hkept hj, hgroup]
    rw [hshift, Nat.div_add_mod, hfirst hj, hm, Nat.sub_mul, Nat.one_mul, Nat.mul_add, Nat.mul_assoc 16,
      Nat.mul_assoc 16]
    omega

theorem interleave_returns (h : Bijective interleaving)
    (hbits : bits.length = symbols * interleaving.numberOfCodedBitsPerSymbol) :
    ∃ interleavedBits, interleave interleaving bits = .ok interleavedBits ∧ interleavedBits.length = bits.length := by
  obtain ⟨interleavedBits, hpermute, hlength, -⟩ := permute_returns h.toInverse h.pos hbits
  refine ⟨interleavedBits, ?_, hlength⟩
  rw [interleave, hbits, Nat.mul_mod_left, if_neg (not_not.mpr rfl), hpermute]

theorem deinterleave_interleave (h : Bijective interleaving)
    (hbits : bits.length = symbols * interleaving.numberOfCodedBitsPerSymbol) {interleavedBits : BitVector}
    (hinterleave : interleave interleaving bits = .ok interleavedBits) :
    deinterleave interleaving interleavedBits = .ok bits := by
  rw [interleave, hbits, Nat.mul_mod_left, if_neg (not_not.mpr rfl)] at hinterleave
  obtain ⟨_, hpermute, hlength, -⟩ := permute_returns h.toInverse h.pos hbits
  rw [hinterleave] at hpermute
  cases hpermute
  rw [deinterleave, hlength, hbits, Nat.mul_mod_left, if_neg (not_not.mpr rfl)]
  exact permute_inverse h.toInverse h.pos hbits hinterleave

end Places

end Ieee80211OFDMInterleaver

/-- The generator polynomial has a register for each of its bits. -/
structure AdditiveScrambling where
  seed : ShortBitVector
  generatorPolynomial : ShortBitVector
  length_le : generatorPolynomial.length ≤ seed.length

namespace AdditiveScrambler

/-- The bits of the registers that leave them are put in front. -/
def generateLoop (generatorPolynomial : ShortBitVector) : ℕ → ShortBitVector → BitVector
  | 0, _ => []
  | rounds + 1, shiftRegisters =>
    let registerSum := ConvolutionalCoder.modulo2Adder shiftRegisters generatorPolynomial
    registerSum :: generateLoop generatorPolynomial rounds (registerSum :: shiftRegisters.dropLast)

def generateScramblingSequence (scrambling : AdditiveScrambling) : BitVector :=
  generateLoop scrambling.generatorPolynomial (2 ^ scrambling.seed.length - 1) scrambling.seed

def scramble (scrambling : AdditiveScrambling) (bits : BitVector) : Except Fault BitVector :=
  let scramblingSequence := generateScramblingSequence scrambling
  bits.zipIdx.mapM fun (bit, i) => do
    let scramblingBit ← getBit scramblingSequence (i % scramblingSequence.length)
    return bit != scramblingBit

theorem length_generateLoop (generatorPolynomial : ShortBitVector) (rounds : ℕ) (shiftRegisters : ShortBitVector) :
    (generateLoop generatorPolynomial rounds shiftRegisters).length = rounds := by
  induction rounds generalizing shiftRegisters with
  | zero => rfl
  | succ rounds ih => rw [generateLoop, List.length_cons, ih]

theorem scramble_returns {scrambling : AdditiveScrambling} (h : scrambling.seed ≠ []) (bits : BitVector) :
    ∃ scrambledBits, scramble scrambling bits = .ok scrambledBits ∧ scrambledBits.length = bits.length := by
  have hpos : 0 < (generateScramblingSequence scrambling).length := by
    have := Nat.one_lt_two_pow (List.length_pos_iff.mpr h).ne'
    rw [generateScramblingSequence, length_generateLoop]
    omega
  have hround (p : Bool × ℕ) : ∃ bit, (do
      let scramblingBit ← getBit (generateScramblingSequence scrambling)
        (p.2 % (generateScramblingSequence scrambling).length)
      return p.1 != scramblingBit) = (.ok bit : Except Fault Bool) := by
    obtain ⟨bit, hbit⟩ := exists_getBit (Nat.mod_lt p.2 hpos)
    rw [hbit]
    exact ⟨_, rfl⟩
  obtain ⟨scrambledBits, hscrambled⟩ := exists_mapM bits.zipIdx fun p _ => hround p
  refine ⟨scrambledBits, hscrambled, ?_⟩
  rw [← (mapM_eq_ok_iff.mp hscrambled).length_eq, List.length_zipIdx]

/-- Scrambling undoes itself. -/
theorem scramble_scramble {scrambling : AdditiveScrambling} {bits scrambledBits : BitVector}
    (h : scramble scrambling bits = .ok scrambledBits) : scramble scrambling scrambledBits = .ok bits := by
  unfold scramble at h ⊢
  generalize 0 = start at h ⊢
  induction bits generalizing start scrambledBits with
  | nil =>
    cases h
    rfl
  | cons bit bits ih =>
    rw [List.zipIdx_cons, List.mapM_cons] at h
    obtain ⟨scrambledBit, hbit, h⟩ := bind_eq_ok_iff.mp h
    obtain ⟨rest, hrest, h⟩ := bind_eq_ok_iff.mp h
    obtain ⟨scramblingBit, hget, hbit⟩ := bind_eq_ok_iff.mp hbit
    cases h
    cases hbit
    rw [List.zipIdx_cons, List.mapM_cons, ih _ hrest]
    simp only [hget]
    cases bit <;> cases scramblingBit <;> rfl

end AdditiveScrambler

/-- The parts that are null are left out. -/
structure Ieee80211OFDMCode where
  convolutionalCode : Option ConvolutionalCode
  interleaving : Option Ieee80211OFDMInterleaving
  scrambling : Option AdditiveScrambling

namespace Ieee80211OFDMEncoder

def scramble (scrambling : Option AdditiveScrambling) (bits : BitVector) : Except Fault BitVector :=
  match scrambling with
  | some scrambling => AdditiveScrambler.scramble scrambling bits
  | none => .ok bits

def convolve (convolutionalCode : Option ConvolutionalCode) (bits : BitVector) : Except Fault BitVector :=
  match convolutionalCode with
  | some convolutionalCode => do
    let coder ← ConvolutionalCoder.new convolutionalCode
    coder.encode bits
  | none => .ok bits

def interleave (interleaving : Option Ieee80211OFDMInterleaving) (bits : BitVector) : Except Fault BitVector :=
  match interleaving with
  | some interleaving => Ieee80211OFDMInterleaver.interleave interleaving bits
  | none => .ok bits

def encode (code : Ieee80211OFDMCode) (serializedPacket : BitVector) : Except Fault BitVector := do
  let scrambledBits ← scramble code.scrambling serializedPacket
  let encodedBits ← convolve code.convolutionalCode scrambledBits
  interleave code.interleaving encodedBits

theorem encode_of_steps {code : Ieee80211OFDMCode} {bits scrambledBits encodedBits interleavedBits : BitVector}
    (hscramble : scramble code.scrambling bits = .ok scrambledBits)
    (hconvolve : convolve code.convolutionalCode scrambledBits = .ok encodedBits)
    (hinterleave : interleave code.interleaving encodedBits = .ok interleavedBits) :
    encode code bits = .ok interleavedBits := by
  rw [encode, hscramble]
  change (convolve code.convolutionalCode scrambledBits >>= _) = _
  rw [hconvolve]
  exact hinterleave

theorem convolve_some {convolutionalCode : ConvolutionalCode} {coder : ConvolutionalCoder}
    (h : ConvolutionalCoder.new convolutionalCode = .ok coder) (bits : BitVector) :
    convolve (some convolutionalCode) bits = coder.encode bits := by
  rw [convolve, h]
  rfl

end Ieee80211OFDMEncoder

namespace Ieee80211OFDMDecoder

def deinterleave (interleaving : Option Ieee80211OFDMInterleaving) (bits : BitVector) : Except Fault BitVector :=
  match interleaving with
  | some interleaving => Ieee80211OFDMInterleaver.deinterleave interleaving bits
  | none => .ok bits

def fecDecode (dblrand : ℕ → ℚ) (convolutionalCode : Option ConvolutionalCode) (bits : BitVector) :
    Except Fault BitVector :=
  match convolutionalCode with
  | some convolutionalCode => do
    let coder ← ConvolutionalCoder.new convolutionalCode
    let fecDecodedDataField ← coder.decode dblrand bits
    throwIf (fecDecodedDataField.2 = false) "FEC error"
    return fecDecodedDataField.1
  | none => .ok bits

/-- Descrambling is the same as scrambling. -/
def decode (dblrand : ℕ → ℚ) (code : Ieee80211OFDMCode) (bits : BitVector) : Except Fault BitVector := do
  let deinterleavedBits ← deinterleave code.interleaving bits
  let decodedBits ← fecDecode dblrand code.convolutionalCode deinterleavedBits
  Ieee80211OFDMEncoder.scramble code.scrambling decodedBits

theorem decode_of_steps {dblrand : ℕ → ℚ} {code : Ieee80211OFDMCode}
    {bits deinterleavedBits decodedBits descrambledBits : BitVector}
    (hdeinterleave : deinterleave code.interleaving bits = .ok deinterleavedBits)
    (hfecDecode : fecDecode dblrand code.convolutionalCode deinterleavedBits = .ok decodedBits)
    (hdescramble : Ieee80211OFDMEncoder.scramble code.scrambling decodedBits = .ok descrambledBits) :
    decode dblrand code bits = .ok descrambledBits := by
  rw [decode, hdeinterleave]
  change (fecDecode dblrand code.convolutionalCode deinterleavedBits >>= _) = _
  rw [hfecDecode]
  exact hdescramble

theorem fecDecode_some {dblrand : ℕ → ℚ} {convolutionalCode : ConvolutionalCode} {coder : ConvolutionalCoder}
    {bits decodedBits : BitVector} (h : ConvolutionalCoder.new convolutionalCode = .ok coder)
    (hdecode : coder.decode dblrand bits = .ok (decodedBits, true)) :
    fecDecode dblrand (some convolutionalCode) bits = .ok decodedBits := by
  rw [fecDecode, h]
  change (coder.decode dblrand bits >>= _) = _
  rw [hdecode]
  rfl

end Ieee80211OFDMDecoder

/-- The code of a rate, with the puncturing matrix that belongs to it. -/
def Ieee80211ConvolutionalCode (codeRateK codeRateN : ℕ) (puncturingMatrix : List (List ℤ)) : ConvolutionalCode where
  transferFunctionMatrix := [[133, 171]]
  puncturingMatrix := puncturingMatrix
  constraintLengthVector := [7]
  codeRatePuncturingK := codeRateK
  codeRatePuncturingN := codeRateN
  mode := "truncated"

namespace Ieee80211OFDMCompliantCodes

def NUMBER_OF_OFDM_DATA_SUBCARRIERS : ℕ := 48

def ofdmConvolutionalCode1_2 : ConvolutionalCode := Ieee80211ConvolutionalCode 1 2 [[1], [1]]

def ofdmConvolutionalCode2_3 : ConvolutionalCode := Ieee80211ConvolutionalCode 2 3 [[1, 1], [1, 0]]

def ofdmConvolutionalCode3_4 : ConvolutionalCode := Ieee80211ConvolutionalCode 3 4 [[1, 1, 0], [1, 0, 1]]

def ofdmBPSKInterleaving : Ieee80211OFDMInterleaving := ⟨NUMBER_OF_OFDM_DATA_SUBCARRIERS, 1⟩

def ofdmQPSKInterleaving : Ieee80211OFDMInterleaving := ⟨2 * NUMBER_OF_OFDM_DATA_SUBCARRIERS, 2⟩

def ofdmQAM16Interleaving : Ieee80211OFDMInterleaving := ⟨4 * NUMBER_OF_OFDM_DATA_SUBCARRIERS, 4⟩

def ofdmQAM64Interleaving : Ieee80211OFDMInterleaving := ⟨6 * NUMBER_OF_OFDM_DATA_SUBCARRIERS, 6⟩

def ofdmScrambling : AdditiveScrambling where
  seed := [true, false, true, true, true, false, true]
  generatorPolynomial := [false, false, false, true, false, false, true]
  length_le := le_rfl

def ofdmCC1_2BPSKInterleaving : Ieee80211OFDMCode :=
  ⟨some ofdmConvolutionalCode1_2, some ofdmBPSKInterleaving, some ofdmScrambling⟩

def ofdmCC1_2BPSKInterleavingWithoutScrambling : Ieee80211OFDMCode :=
  ⟨some ofdmConvolutionalCode1_2, some ofdmBPSKInterleaving, none⟩

def ofdmCC3_4BPSKInterleaving : Ieee80211OFDMCode :=
  ⟨some ofdmConvolutionalCode3_4, some ofdmBPSKInterleaving, some ofdmScrambling⟩

def ofdmCC1_2QPSKInterleaving : Ieee80211OFDMCode :=
  ⟨some ofdmConvolutionalCode1_2, some ofdmQPSKInterleaving, some ofdmScrambling⟩

def ofdmCC3_4QPSKInterleaving : Ieee80211OFDMCode :=
  ⟨some ofdmConvolutionalCode3_4, some ofdmQPSKInterleaving, some ofdmScrambling⟩

def ofdmCC1_2QAM16Interleaving : Ieee80211OFDMCode :=
  ⟨some ofdmConvolutionalCode1_2, some ofdmQAM16Interleaving, some ofdmScrambling⟩

def ofdmCC3_4QAM16Interleaving : Ieee80211OFDMCode :=
  ⟨some ofdmConvolutionalCode3_4, some ofdmQAM16Interleaving, some ofdmScrambling⟩

def ofdmCC2_3QAM64Interleaving : Ieee80211OFDMCode :=
  ⟨some ofdmConvolutionalCode2_3, some ofdmQAM64Interleaving, some ofdmScrambling⟩

def ofdmCC3_4QAM64Interleaving : Ieee80211OFDMCode :=
  ⟨some ofdmConvolutionalCode3_4, some ofdmQAM64Interleaving, some ofdmScrambling⟩

end Ieee80211OFDMCompliantCodes

def Ieee80211HTCompliantCodes.htConvolutionalCode5_6 : ConvolutionalCode :=
  Ieee80211ConvolutionalCode 5 6 [[1, 1, 0, 1, 0], [1, 0, 1, 0, 1]]

section Encode

open Ieee80211OFDMInterleaver Ieee80211OFDMCompliantCodes

/-- The coder of a code turns `codeRatePuncturingK` bits into `codeRatePuncturingN`. -/
def ConvolutionalCode.Encodes (convolutionalCode : ConvolutionalCode) : Prop :=
  ∃ coder, ConvolutionalCoder.new convolutionalCode = .ok coder ∧
    ∀ (informationBits : BitVector) (periods : ℕ),
      informationBits.length = periods * convolutionalCode.codeRatePuncturingK →
        ∃ encoded, coder.encode informationBits = .ok encoded ∧
          encoded.length = periods * convolutionalCode.codeRatePuncturingN

variable {code : Ieee80211OFDMCode} {convolutionalCode : ConvolutionalCode} {interleaving : Ieee80211OFDMInterleaving}

/-- A code with all that an encoder needs. -/
structure Ieee80211OFDMCode.Usable (code : Ieee80211OFDMCode) (convolutionalCode : ConvolutionalCode)
    (interleaving : Ieee80211OFDMInterleaving) : Prop where
  convolutionalCode_eq : code.convolutionalCode = some convolutionalCode
  interleaving_eq : code.interleaving = some interleaving
  encodes : convolutionalCode.Encodes
  bijective : Bijective interleaving
  seed_ne : ∀ scrambling ∈ code.scrambling, scrambling.seed ≠ []

theorem Ieee80211OFDMCode.Usable.scramble (h : code.Usable convolutionalCode interleaving) (bits : BitVector) :
    ∃ scrambledBits, Ieee80211OFDMEncoder.scramble code.scrambling bits = .ok scrambledBits ∧
      scrambledBits.length = bits.length ∧
      Ieee80211OFDMEncoder.scramble code.scrambling scrambledBits = .ok bits := by
  cases hscrambling : code.scrambling with
  | none => exact ⟨bits, rfl, rfl, rfl⟩
  | some scrambling =>
    obtain ⟨scrambledBits, hscramble, hlength⟩ :=
      AdditiveScrambler.scramble_returns (h.seed_ne scrambling hscrambling) bits
    exact ⟨scrambledBits, hscramble, hlength, AdditiveScrambler.scramble_scramble hscramble⟩

/-- Bits of whole symbols are encoded with the rate of the convolutional code. -/
theorem Ieee80211OFDMCode.Usable.encode (h : code.Usable convolutionalCode interleaving) {bits : BitVector}
    {periods symbols : ℕ} (hbits : bits.length = periods * convolutionalCode.codeRatePuncturingK)
    (hsymbols : periods * convolutionalCode.codeRatePuncturingN = symbols * interleaving.numberOfCodedBitsPerSymbol) :
    ∃ encodedBits, Ieee80211OFDMEncoder.encode code bits = .ok encodedBits ∧
      encodedBits.length = periods * convolutionalCode.codeRatePuncturingN := by
  obtain ⟨scrambledBits, hscrambled, hlength, -⟩ := h.scramble bits
  obtain ⟨coder, hnew, hencode⟩ := h.encodes
  obtain ⟨encoded, hencoded, hencodedLength⟩ := hencode scrambledBits periods (hlength.trans hbits)
  obtain ⟨encodedBits, hinterleave, hinterleaved⟩ := interleave_returns h.bijective (hencodedLength.trans hsymbols)
  have hconvolve : Ieee80211OFDMEncoder.convolve code.convolutionalCode scrambledBits = .ok encoded := by
    rw [h.convolutionalCode_eq, Ieee80211OFDMEncoder.convolve_some hnew, hencoded]
  have hplaced : Ieee80211OFDMEncoder.interleave code.interleaving encoded = .ok encodedBits := by
    rw [h.interleaving_eq]
    exact hinterleave
  exact ⟨encodedBits, Ieee80211OFDMEncoder.encode_of_steps hscrambled hconvolve hplaced,
    hinterleaved.trans hencodedLength⟩

end Encode

section Compliant

open Ieee80211OFDMInterleaver Ieee80211OFDMCompliantCodes Ieee80211HTCompliantCodes ConvolutionalCoder

instance (coder : ConvolutionalCoder) (size : ℕ) : Decidable (coder.Punctures size) :=
  decidable_of_iff (0 < size ∧ coder.puncturingMatrix.length = coder.codeRateParamaterN ∧
    0 < coder.codeRateParamaterN ∧ (∀ row ∈ coder.puncturingMatrix, row.length = size) ∧
    coder.codeRatePuncturingK = size * coder.codeRateParamaterK ∧
    Nat.count (fun position => coder.isKept size position = true) (coder.codeRateParamaterN * size) =
      coder.codeRatePuncturingN)
    ⟨fun h => ⟨h.1, h.2.1, h.2.2.1, h.2.2.2.1, h.2.2.2.2.1, h.2.2.2.2.2⟩,
      fun h => ⟨h.size_pos, h.matrix, h.outputs_pos, h.rows, h.information, h.kept⟩⟩

/-- The codes of all rates. -/
def convolutionalCodes : List ConvolutionalCode :=
  [ofdmConvolutionalCode1_2, ofdmConvolutionalCode2_3, ofdmConvolutionalCode3_4] ++ [htConvolutionalCode5_6]

variable {convolutionalCode : ConvolutionalCode} {bits : BitVector}

/-- The puncturing matrix of a rate has as many columns as there are information bits in a period, and each of them
keeps a bit that tells the inputs apart. -/
theorem exists_coder (hmem : convolutionalCode ∈ convolutionalCodes) : ∃ coder, new convolutionalCode = .ok coder ∧
    coder.Regular ∧ coder.Punctures convolutionalCode.codeRatePuncturingK ∧
    coder.Separates convolutionalCode.codeRatePuncturingK ∧
    coder.codeRatePuncturingK = convolutionalCode.codeRatePuncturingK ∧
    coder.codeRatePuncturingN = convolutionalCode.codeRatePuncturingN ∧ 0 < coder.codeRatePuncturingN ∧
    coder.codeRateParamaterN = 2 ∧ coder.mode = "truncated" := by
  have hlengths : convolutionalCode.constraintLengthVector = [7] := by
    revert convolutionalCode
    decide
  obtain ⟨coder, hnew, h⟩ := @exists_of_any _ (new convolutionalCode) (fun coder =>
    coder.Punctures convolutionalCode.codeRatePuncturingK ∧ coder.Separates convolutionalCode.codeRatePuncturingK ∧
    coder.codeRatePuncturingK = convolutionalCode.codeRatePuncturingK ∧
    coder.codeRatePuncturingN = convolutionalCode.codeRatePuncturingN ∧ 0 < coder.codeRatePuncturingN ∧
    coder.codeRateParamaterN = 2 ∧ coder.mode = "truncated") _ (by
      clear hlengths
      revert convolutionalCode
      decide +kernel)
  refine ⟨coder, hnew, regular_of_constraintLengths (new_polynomials hnew) ?_, h⟩
  rw [hlengths]
  decide

theorem encodes_of_mem (hmem : convolutionalCode ∈ convolutionalCodes) : convolutionalCode.Encodes := by
  obtain ⟨coder, hnew, hregular, hpunctures, -, hK, hN, -⟩ := exists_coder hmem
  refine ⟨coder, hnew, fun informationBits periods hbits => ?_⟩
  rw [← hN]
  exact hpunctures.encode (new_proper hnew hregular) (new_polynomials hnew).inputs_pos (hbits.trans (by rw [hK]))

theorem bijective_of_mem : ∀ interleaving ∈ [ofdmBPSKInterleaving, ofdmQPSKInterleaving, ofdmQAM16Interleaving,
    ofdmQAM64Interleaving], Bijective interleaving := by
  have hdvd : ∀ interleaving ∈ [ofdmBPSKInterleaving, ofdmQPSKInterleaving, ofdmQAM16Interleaving,
      ofdmQAM64Interleaving], 0 < interleaving.numberOfCodedBitsPerSymbol ∧
        16 * s interleaving ∣ interleaving.numberOfCodedBitsPerSymbol := by
    decide
  exact fun interleaving hmem => bijective_of_dvd (hdvd interleaving hmem).1 (hdvd interleaving hmem).2

open Ieee80211OFDMDecoder

/-- Without errors the bits that have been convolved are decoded as they were. -/
theorem fecDecode_convolve (hmem : convolutionalCode ∈ convolutionalCodes) {periods : ℕ}
    (hbits : bits.length = periods * convolutionalCode.codeRatePuncturingK)
    (hlength : ((2 * bits.length : ℕ) : ℤ) < INT32_MAX) (dblrand : ℕ → ℚ) :
    ∃ encoded, Ieee80211OFDMEncoder.convolve (some convolutionalCode) bits = .ok encoded ∧
      encoded.length = periods * convolutionalCode.codeRatePuncturingN ∧
      fecDecode dblrand (some convolutionalCode) encoded = .ok bits := by
  obtain ⟨coder, hnew, hregular, hpunctures, hseparates, hK, hN, hpos, houtputs, hmode⟩ := exists_coder hmem
  have hinputs := (new_polynomials hnew).inputs_pos
  have hproper := new_proper hnew hregular
  have hperiods : bits.length = periods * coder.codeRatePuncturingK := hK ▸ hbits
  obtain ⟨encoded, hencoded, hencodedLength⟩ := hpunctures.encode hproper hinputs hperiods
  have hdecode := hpunctures.decode_encode hproper hseparates hinputs hpos hmode hperiods hencoded
    (by rwa [houtputs, ← hbits, Nat.mul_comm]) dblrand
  exact ⟨encoded, (Ieee80211OFDMEncoder.convolve_some hnew bits).trans hencoded, hN ▸ hencodedLength,
    fecDecode_some hnew hdecode⟩

/-- Without errors the bits of the signal field are decoded as they were. -/
theorem decode_encode_signal {symbols : ℕ} (hbits : bits.length = 24 * symbols)
    (hlength : ((48 * symbols : ℕ) : ℤ) < INT32_MAX) (dblrand : ℕ → ℚ) :
    ∃ encodedBits, Ieee80211OFDMEncoder.encode ofdmCC1_2BPSKInterleavingWithoutScrambling bits = .ok encodedBits ∧
      encodedBits.length = 48 * symbols ∧
      decode dblrand ofdmCC1_2BPSKInterleavingWithoutScrambling encodedBits = .ok bits := by
  obtain ⟨encoded, hconvolve, hencoded, hdecode⟩ := @fecDecode_convolve ofdmConvolutionalCode1_2 bits (by simp [convolutionalCodes])
    bits.length (Nat.mul_one _).symm (by rw [hbits]; omega) dblrand
  have hsymbols : encoded.length = symbols * ofdmBPSKInterleaving.numberOfCodedBitsPerSymbol := by
    rw [hencoded, hbits, Nat.mul_comm 24, Nat.mul_assoc]
    rfl
  have hbijective := bijective_of_mem ofdmBPSKInterleaving (by simp)
  obtain ⟨encodedBits, hinterleave, hinterleaved⟩ := interleave_returns hbijective hsymbols
  exact ⟨encodedBits, Ieee80211OFDMEncoder.encode_of_steps rfl hconvolve hinterleave,
    (hinterleaved.trans hsymbols).trans (Nat.mul_comm _ _),
    decode_of_steps (deinterleave_interleave hbijective hsymbols hinterleave) hdecode rfl⟩

theorem Ieee80211OFDMCode.Usable.decode_encode {code : Ieee80211OFDMCode} {interleaving : Ieee80211OFDMInterleaving}
    (h : code.Usable convolutionalCode interleaving) (hmem : convolutionalCode ∈ convolutionalCodes)
    {periods symbols : ℕ} (hbits : bits.length = periods * convolutionalCode.codeRatePuncturingK)
    (hsymbols : periods * convolutionalCode.codeRatePuncturingN = symbols * interleaving.numberOfCodedBitsPerSymbol)
    (hlength : ((2 * bits.length : ℕ) : ℤ) < INT32_MAX) (dblrand : ℕ → ℚ) :
    ∃ encodedBits, Ieee80211OFDMEncoder.encode code bits = .ok encodedBits ∧
      encodedBits.length = symbols * interleaving.numberOfCodedBitsPerSymbol ∧
      Ieee80211OFDMDecoder.decode dblrand code encodedBits = .ok bits := by
  obtain ⟨scrambledBits, hscramble, hscrambled, hdescramble⟩ := h.scramble bits
  rw [← hscrambled] at hlength hbits
  obtain ⟨encoded, hconvolve, hencoded, hdecode⟩ := fecDecode_convolve hmem hbits hlength dblrand
  obtain ⟨encodedBits, hinterleave, hinterleaved⟩ := interleave_returns h.bijective (hencoded.trans hsymbols)
  have hdeinterleave := deinterleave_interleave h.bijective (hencoded.trans hsymbols) hinterleave
  rw [← h.convolutionalCode_eq] at hconvolve hdecode
  refine ⟨encodedBits, Ieee80211OFDMEncoder.encode_of_steps hscramble hconvolve ?_,
    hinterleaved.trans (hencoded.trans hsymbols), Ieee80211OFDMDecoder.decode_of_steps ?_ hdecode hdescramble⟩
  · rw [h.interleaving_eq]
    exact hinterleave
  · rw [h.interleaving_eq]
    exact hdeinterleave

/-- A code decodes what it has encoded, however it convolves, interleaves and scrambles the bits. -/
theorem ofdmDecoder_decode_encode {code : Ieee80211OFDMCode} {interleaving : Ieee80211OFDMInterleaving}
    (hcode : code.convolutionalCode = some convolutionalCode) (hmem : convolutionalCode ∈ convolutionalCodes)
    (hinterleaving : code.interleaving = some interleaving) (hpos : 0 < interleaving.numberOfCodedBitsPerSymbol)
    (hdvd : 16 * s interleaving ∣ interleaving.numberOfCodedBitsPerSymbol)
    (hseed : ∀ scrambling ∈ code.scrambling, scrambling.seed ≠ []) {periods symbols : ℕ}
    (hbits : bits.length = periods * convolutionalCode.codeRatePuncturingK)
    (hsymbols : periods * convolutionalCode.codeRatePuncturingN = symbols * interleaving.numberOfCodedBitsPerSymbol)
    (hlength : ((2 * bits.length : ℕ) : ℤ) < INT32_MAX) (dblrand : ℕ → ℚ) :
    ∃ encodedBits, Ieee80211OFDMEncoder.encode code bits = .ok encodedBits ∧
      encodedBits.length = symbols * interleaving.numberOfCodedBitsPerSymbol ∧
      Ieee80211OFDMDecoder.decode dblrand code encodedBits = .ok bits := by
  have husable : code.Usable convolutionalCode interleaving :=
    ⟨hcode, hinterleaving, encodes_of_mem hmem, bijective_of_dvd hpos hdvd, hseed⟩
  exact husable.decode_encode hmem hbits hsymbols hlength dblrand

theorem ofdmDecoder_decode_encode_bpsk : ∃ encodedBits,
    Ieee80211OFDMEncoder.encode ofdmCC3_4BPSKInterleaving (List.replicate 36 true) = .ok encodedBits ∧
      encodedBits.length = 48 ∧
      decode (fun _ => 0) ofdmCC3_4BPSKInterleaving encodedBits =
        .ok (List.replicate 36 true) :=
  @ofdmDecoder_decode_encode ofdmConvolutionalCode3_4 (List.replicate 36 true) ofdmCC3_4BPSKInterleaving ofdmBPSKInterleaving
    rfl (by simp [convolutionalCodes]) rfl (by decide) (by decide) (by decide) 12 1 rfl rfl (by decide) _

end Compliant

end physicallayer

end inet

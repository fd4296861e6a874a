import LoRaInet.Addressing.Network
import LoRaInet.NetworkLayer.Configurator.AssignAddresses

open omnetpp addressing container

namespace inet.IPv4NetworkConfigurator

variable {merged : MergedInterfaces} {info candidate : InterfaceInfo} {interfaces : List InterfaceInfo}

/-- What the merged bits say about an interface that was merged: its netmask where it is
specified, and its address where no other one was incompatible. -/
structure MergedInterfaces.Covers (merged : MergedInterfaces) (info : InterfaceInfo) : Prop where
  netmask : ∀ k, info.netmaskSpecifiedBits.getLsbD k = true →
    merged.netmaskSpecifiedBits.getLsbD k = true ∧ merged.netmask.getLsbD k = info.netmask.getLsbD k
  address : ∀ k, info.addressSpecifiedBits.getLsbD k = true →
    merged.addressSpecifiedBits.getLsbD k = true ∧
      (merged.addressIncompatibleBits.getLsbD k = false →
        merged.address.getLsbD k = info.address.getLsbD k)

/-- Bits that are not specified are zero. -/
structure MergedInterfaces.WellFormed (merged : MergedInterfaces) : Prop where
  netmask : Within merged.netmask merged.netmaskSpecifiedBits
  address : Within merged.address merged.addressSpecifiedBits
  compatible : merged.netmaskIncompatibleBits = 0

theorem wellFormed_empty : ({} : MergedInterfaces).WellFormed :=
  ⟨fun _ hk => hk, fun _ hk => hk, rfl⟩

open MergedInterfaces

theorem wellFormed_merge (h : merged.WellFormed)
    (hcompatible : (merged.merge candidate).isCompatible = true) :
    (merged.merge candidate).WellFormed := by
  rw [isCompatible, Bool.and_eq_true, decide_eq_true_eq] at hcompatible
  refine ⟨fun k hk => ?_, fun k hk => ?_, hcompatible.1⟩
  · have hmask := h.netmask k
    simp only [merge, BitVec.getLsbD_or, BitVec.getLsbD_and, Bool.or_eq_true,
      Bool.and_eq_true] at hk ⊢
    exact hk.imp hmask And.right
  · have haddress := h.address k
    simp only [merge, BitVec.getLsbD_or, BitVec.getLsbD_and, Bool.or_eq_true,
      Bool.and_eq_true] at hk ⊢
    exact hk.imp haddress And.right

/-- Where the merged bits and the candidate both specify a netmask bit they agree. -/
theorem netmask_agrees (hcompatible : (merged.merge candidate).netmaskIncompatibleBits = 0) {k : ℕ}
    (hmerged : merged.netmaskSpecifiedBits.getLsbD k = true)
    (hcandidate : candidate.netmaskSpecifiedBits.getLsbD k = true) :
    merged.netmask.getLsbD k = candidate.netmask.getLsbD k := by
  have hbit := congrArg (fun bits => bits.getLsbD k) hcompatible
  simp only [merge, BitVec.getLsbD_or, BitVec.getLsbD_xor, BitVec.getLsbD_and,
    hmerged, hcandidate, Bool.and_true, BitVec.ofNat_eq_ofNat, BitVec.getLsbD_zero,
    Bool.or_eq_false_iff] at hbit
  simpa using hbit.2

theorem address_agrees {k : ℕ}
    (hcompatible : (merged.merge candidate).addressIncompatibleBits.getLsbD k = false)
    (hmerged : merged.addressSpecifiedBits.getLsbD k = true)
    (hcandidate : candidate.addressSpecifiedBits.getLsbD k = true) :
    merged.addressIncompatibleBits.getLsbD k = false ∧
      merged.address.getLsbD k = candidate.address.getLsbD k := by
  simp only [merge, BitVec.getLsbD_or, BitVec.getLsbD_xor, BitVec.getLsbD_and,
    hmerged, hcandidate, Bool.and_true, Bool.or_eq_false_iff] at hcompatible
  exact ⟨hcompatible.1, by simpa using hcompatible.2⟩

theorem covers_merge (h : merged.Covers info)
    (hcompatible : (merged.merge candidate).netmaskIncompatibleBits = 0) :
    (merged.merge candidate).Covers info := by
  refine ⟨fun k hk => ?_, fun k hk => ?_⟩
  · obtain ⟨hspecified, hbit⟩ := h.netmask k hk
    refine ⟨by simp [merge, hspecified], ?_⟩
    cases hcandidate : candidate.netmaskSpecifiedBits.getLsbD k with
    | false => simp [merge, hcandidate, hbit]
    | true =>
      have hagrees := netmask_agrees hcompatible hspecified hcandidate
      simp [merge, hcandidate, ← hagrees, hbit]
  · obtain ⟨hspecified, hbit⟩ := h.address k hk
    refine ⟨by simp [merge, hspecified], fun hincompatible => ?_⟩
    have hbefore : merged.addressIncompatibleBits.getLsbD k = false := by
      simp only [merge, BitVec.getLsbD_or, Bool.or_eq_false_iff] at hincompatible
      exact hincompatible.1
    cases hcandidate : candidate.addressSpecifiedBits.getLsbD k with
    | false => simp [merge, hcandidate, hbit hbefore]
    | true =>
      obtain ⟨-, hagrees⟩ := address_agrees hincompatible hspecified hcandidate
      simp [merge, hcandidate, ← hagrees, hbit hbefore]

theorem merge_covers (h : merged.WellFormed)
    (hcompatible : (merged.merge candidate).netmaskIncompatibleBits = 0) :
    (merged.merge candidate).Covers candidate := by
  refine ⟨fun k hk => ?_, fun k hk => ?_⟩
  · refine ⟨by simp [merge, hk], ?_⟩
    cases hmerged : merged.netmaskSpecifiedBits.getLsbD k with
    | false =>
      have hzero : merged.netmask.getLsbD k = false :=
        Bool.eq_false_iff.mpr fun hbit => by rw [h.netmask k hbit] at hmerged; cases hmerged
      simp [merge, hk, hzero]
    | true =>
      have hagrees := netmask_agrees hcompatible hmerged hk
      simp [merge, hk, hagrees]
  · refine ⟨by simp [merge, hk], fun hincompatible => ?_⟩
    cases hmerged : merged.addressSpecifiedBits.getLsbD k with
    | false =>
      have hzero : merged.address.getLsbD k = false :=
        Bool.eq_false_iff.mpr fun hbit => by rw [h.address k hbit] at hmerged; cases hmerged
      simp [merge, hk, hzero]
    | true =>
      obtain ⟨-, hagrees⟩ := address_agrees hincompatible hmerged hk
      simp [merge, hk, hagrees]

/-- What is collected is covered, and so is what was covered before. -/
theorem collectFrom_covers (h : merged.WellFormed) :
    (∀ info ∈ (collectFrom merged interfaces).1, (collectFrom merged interfaces).2.Covers info) ∧
      ∀ info, merged.Covers info → (collectFrom merged interfaces).2.Covers info := by
  induction interfaces generalizing merged with
  | nil => exact ⟨fun info hinfo => by simp [collectFrom] at hinfo, fun info hinfo => hinfo⟩
  | cons candidate interfaces ih =>
    rw [collectFrom]
    split
    · next hcompatible =>
      have hwell := wellFormed_merge h hcompatible
      obtain ⟨hcollected, hcovered⟩ := ih hwell
      refine ⟨fun info hinfo => ?_, fun info hinfo =>
        hcovered info (covers_merge hinfo hwell.compatible)⟩
      rcases List.mem_cons.mp hinfo with rfl | hinfo
      · exact hcovered _ (merge_covers h hwell.compatible)
      · exact hcollected info hinfo
    · exact ih h

theorem collectFrom_sublist : (collectFrom merged interfaces).1.Sublist interfaces := by
  induction interfaces generalizing merged with
  | nil => exact List.Sublist.refl []
  | cons candidate interfaces ih =>
    rw [collectFrom]
    split
    · exact ih.cons_cons candidate
    · exact ih.cons candidate

theorem collectFrom_ne_nil (h : interfaces ≠ []) : (collectFrom {} interfaces).1 ≠ [] := by
  cases interfaces with
  | nil => exact absurd rfl h
  | cons candidate interfaces =>
    have hcompatible : (({} : MergedInterfaces).merge candidate).isCompatible = true := by
      simp [isCompatible, merge]
    rw [collectFrom]
    simp only [hcompatible, if_pos]
    exact List.cons_ne_nil _ _

theorem collectCompatibleInterfaces_perm (interfaces : List InterfaceInfo) :
    (collectCompatibleInterfaces interfaces).1.Perm (collectFrom {} interfaces).1 :=
  List.perm_insertionSort _ _

theorem collectCompatibleInterfaces_covers (interfaces : List InterfaceInfo) :
    ∀ info ∈ (collectCompatibleInterfaces interfaces).1,
      (collectCompatibleInterfaces interfaces).2.Covers info := by
  intro info hinfo
  exact (collectFrom_covers wellFormed_empty).1 info
    ((collectCompatibleInterfaces_perm interfaces).mem_iff.mp hinfo)

theorem collectCompatibleInterfaces_diff (interfaces : List InterfaceInfo) :
    ((collectCompatibleInterfaces interfaces).1 ++
      interfaces.diff (collectCompatibleInterfaces interfaces).1).Perm interfaces := by
  apply List.subperm_append_diff_self_of_count_le
  intro info _
  rw [(collectCompatibleInterfaces_perm interfaces).count_eq]
  exact collectFrom_sublist.count_le info

section Network

theorem getLsbD_netmaskOfLength (netmaskLength : ℤ) (k : ℕ) :
    (netmaskOfLength netmaskLength).getLsbD k =
      (decide (k < 32) && decide (32 ≤ k + netmaskLength.toNat)) := by
  rw [netmaskOfLength, BitVec.getLsbD_not, BitVec.getLsbD_ushiftRight, BitVec.getLsbD_allOnes]
  by_cases h : 32 ≤ k + netmaskLength.toNat
  · simp [h, Nat.add_comm netmaskLength.toNat]
  · simp [h, Nat.add_comm netmaskLength.toNat]
    omega

theorem contiguous_netmaskOfLength (netmaskLength : ℤ) :
    Contiguous (netmaskOfLength netmaskLength) := by
  intro k l hkl hl hk
  rw [getLsbD_netmaskOfLength] at hk ⊢
  simp only [Bool.and_eq_true, decide_eq_true_eq] at hk ⊢
  omega

variable {netmaskLength : ℤ}

/-- A length in the range gives a netmask that has the merged bits, and none that is
incompatible. -/
theorem netmaskOfLength_merged {compatibleInterfaceCount : ℕ}
    (hminimum : merged.minimumNetmaskLength ≤ netmaskLength)
    (hmaximum : netmaskLength ≤ merged.maximumNetmaskLength compatibleInterfaceCount) :
    Matches merged.netmask merged.netmaskSpecifiedBits (netmaskOfLength netmaskLength) ∧
      ∀ k, (netmaskOfLength netmaskLength).getLsbD k = true →
        merged.addressIncompatibleBits.getLsbD k = false := by
  rw [minimumNetmaskLength] at hminimum
  rw [maximumNetmaskLength] at hmaximum
  refine ⟨matches_iff.mpr fun k hk => ?_, fun k hk => ?_⟩
  · rw [getLsbD_netmaskOfLength]
    have hlt : k < 32 := BitVec.lt_of_getLsbD hk
    cases hbit : merged.netmask.getLsbD k with
    | true =>
      have hone : (merged.netmask &&& merged.netmaskSpecifiedBits).getLsbD k = true := by
        simp [hbit, hk]
      have hle := getLeastSignificantBitIndex_le 32 hone
      simp only [Bool.and_eq_true, decide_eq_true_eq]
      omega
    | false =>
      have hzero : (~~~merged.netmask &&& merged.netmaskSpecifiedBits).getLsbD k = true := by
        rw [BitVec.getLsbD_and, BitVec.getLsbD_not, hbit, hk]
        simp [hlt]
      have hge := getMostSignificantBitIndex_ge (-1) hzero
      simp only [Bool.and_eq_false_iff, decide_eq_false_iff_not]
      omega
  · rw [getLsbD_netmaskOfLength, Bool.and_eq_true, decide_eq_true_eq, decide_eq_true_eq] at hk
    refine Bool.eq_false_iff.mpr fun hbit => ?_
    have hge := getMostSignificantBitIndex_ge (-1) hbit
    omega

theorem mem_netmaskLengths {minimum maximum netmaskLength : ℤ} :
    netmaskLength ∈ netmaskLengths minimum maximum ↔
      minimum ≤ netmaskLength ∧ netmaskLength ≤ maximum := by
  rw [netmaskLengths, List.mem_map]
  constructor
  · rintro ⟨i, hi, rfl⟩
    rw [List.mem_range] at hi
    omega
  · rintro ⟨hminimum, hmaximum⟩
    exact ⟨(maximum - netmaskLength).toNat, List.mem_range.mpr (by omega), by omega⟩

theorem findNetworkAddress_some {disjunct : Bool} {assigned : List IPv4Address}
    {count rounds : ℕ} {part networkAddress : IPv4Address}
    (h : findNetworkAddress merged netmaskLength disjunct assigned count rounds part =
      some networkAddress) :
    (∃ part, networkAddress = networkAddressFor merged netmaskLength part) ∧
      isAcceptable netmaskLength disjunct assigned count networkAddress = true := by
  induction rounds generalizing part with
  | zero => cases h
  | succ rounds ih =>
    rw [findNetworkAddress] at h
    split at h
    · next haccepted =>
      cases h
      exact ⟨⟨part, rfl⟩, haccepted⟩
    · exact ih h

theorem findNetwork_some {disjunct : Bool} {s : AddressAssignment} {count : ℕ}
    {networkAddress : IPv4Address}
    (h : findNetwork disjunct s merged count = some (netmaskLength, networkAddress)) :
    merged.minimumNetmaskLength ≤ netmaskLength ∧
      netmaskLength ≤ merged.maximumNetmaskLength count ∧
      (∃ part, networkAddress = networkAddressFor merged netmaskLength part) ∧
      isAcceptable netmaskLength disjunct s.assignedInterfaceAddresses count networkAddress =
        true := by
  rw [findNetwork] at h
  obtain ⟨length, hlength, hfound⟩ := List.exists_of_findSome?_eq_some h
  rw [Option.map_eq_some_iff] at hfound
  obtain ⟨address, haddress, heq⟩ := hfound
  cases heq
  obtain ⟨hminimum, hmaximum⟩ := mem_netmaskLengths.mp hlength
  exact ⟨hminimum, hmaximum, findNetworkAddress_some haddress⟩

/-- The network address lies in the netmask, and has the merged bits there. -/
theorem networkAddressFor_merged (merged : MergedInterfaces) (netmaskLength : ℤ)
    (part : IPv4Address) :
    Inside (networkAddressFor merged netmaskLength part) (netmaskOfLength netmaskLength) ∧
      ∀ k, (netmaskOfLength netmaskLength).getLsbD k = true →
        merged.addressSpecifiedBits.getLsbD k = true →
          (networkAddressFor merged netmaskLength part).getLsbD k = merged.address.getLsbD k := by
  refine ⟨fun k hk => ?_, fun k hmask hspecified => ?_⟩
  · by_contra hmask
    rw [Bool.not_eq_true] at hmask
    have hunspecified : (networkAddressUnspecifiedBits merged netmaskLength).getLsbD k = false := by
      rw [networkAddressUnspecifiedBits, BitVec.getLsbD_and, hmask, Bool.and_false]
    rw [networkAddressFor, getLsbD_setPackedBits_of_not hunspecified, networkAddressBase,
      BitVec.getLsbD_and, hmask, Bool.and_false] at hk
    cases hk
  · have hunspecified : (networkAddressUnspecifiedBits merged netmaskLength).getLsbD k = false := by
      simp [networkAddressUnspecifiedBits, hspecified]
    rw [networkAddressFor, getLsbD_setPackedBits_of_not hunspecified]
    simp [networkAddressBase, hspecified, hmask]

end Network

end inet.IPv4NetworkConfigurator

import LoRaInet.NetworkLayer.Configurator.AssignAddresses.Soundness
import Mathlib.Algebra.Order.Ring.Nat

open omnetpp addressing

namespace inet

namespace IPv4NetworkConfigurator

variable {s s' : AddressAssignment} {info : InterfaceInfo} {interfaces : List InterfaceInfo}
  {netmaskLength : ℤ} {networkAddress : IPv4Address}

/-- The number of bits of the host part. -/
def hostBits (netmaskLength : ℤ) : ℕ := 32 - netmaskLength.toNat

theorem getLsbD_not_netmaskOfLength (netmaskLength : ℤ) (k : ℕ) :
    (~~~netmaskOfLength netmaskLength).getLsbD k = decide (k < hostBits netmaskLength) := by
  rw [BitVec.getLsbD_not, getLsbD_netmaskOfLength, hostBits]
  by_cases hk : k < 32
  · by_cases hhost : 32 ≤ k + netmaskLength.toNat
    · simp [hk, hhost]
    · simp [hk, hhost]
      omega
  · simp [hk]
    omega

theorem toNat_not_netmaskOfLength (netmaskLength : ℤ) :
    (~~~netmaskOfLength netmaskLength).toNat = 2 ^ hostBits netmaskLength - 1 := by
  have hle : hostBits netmaskLength ≤ 32 := Nat.sub_le 32 _
  have hlt : 2 ^ hostBits netmaskLength - 1 < 2 ^ 32 := by
    have hpow := Nat.pow_le_pow_right (by omega : 0 < 2) hle
    have hpos := Nat.two_pow_pos (hostBits netmaskLength)
    omega
  have heq : ~~~netmaskOfLength netmaskLength =
      BitVec.ofNat 32 (2 ^ hostBits netmaskLength - 1) := by
    apply BitVec.eq_of_getLsbD_eq
    intro k hk
    rw [getLsbD_not_netmaskOfLength, BitVec.getLsbD_ofNat, Nat.testBit_two_pow_sub_one]
    simp [hk]
  rw [heq, BitVec.toNat_ofNat, Nat.mod_eq_of_lt hlt]

/-- The part of an address outside the netmask. -/
def hostPart (netmaskLength : ℤ) (address : IPv4Address) : ℕ :=
  (address &&& ~~~netmaskOfLength netmaskLength).toNat

theorem getPackedBits_host (netmaskLength : ℤ) (address : IPv4Address) :
    (getPackedBits address (~~~netmaskOfLength netmaskLength)).toNat =
      hostPart netmaskLength address := by
  rw [hostPart]
  congr 1
  apply BitVec.eq_of_getLsbD_eq
  intro k _
  rw [getLsbD_getPackedBits_of_low (getLsbD_not_netmaskOfLength netmaskLength),
    BitVec.getLsbD_and, getLsbD_not_netmaskOfLength, Bool.and_comm]

theorem unspecifiedPartMaximum_le {assigned : List (IPv4Address × IPv4Address)}
    {address unspecifiedBits bound : IPv4Address}
    (h : ∀ entry ∈ assigned, entry.1 &&& ~~~unspecifiedBits = address &&& ~~~unspecifiedBits →
      getPackedBits entry.2 unspecifiedBits ≤ bound) :
    unspecifiedPartMaximum assigned address unspecifiedBits ≤ bound := by
  have hfold (maximum : IPv4Address) (hmaximum : maximum ≤ bound) :
      assigned.foldl (fun maximum entry =>
        if entry.1 &&& ~~~unspecifiedBits = address &&& ~~~unspecifiedBits then
          let assignedUnspecifiedPart := getPackedBits entry.2 unspecifiedBits
          if maximum < assignedUnspecifiedPart then assignedUnspecifiedPart else maximum
        else maximum) maximum ≤ bound := by
    induction assigned generalizing maximum with
    | nil => exact hmaximum
    | cons entry assigned ih =>
      rw [List.foldl_cons]
      apply ih fun e he => h e (List.mem_cons_of_mem entry he)
      split
      · next hagrees =>
        dsimp only
        split
        · exact h entry (.head _) hagrees
        · exact hmaximum
      · exact hmaximum
  exact hfold 0 (by simp [BitVec.le_def])

theorem and_not_eq_zero_of_within {m : IPv4Address} (h : Within info.addressSpecifiedBits m) :
    ~~~info.addressSpecifiedBits &&& ~~~m = ~~~m := by
  apply BitVec.eq_of_getLsbD_eq
  intro k hk
  rw [BitVec.getLsbD_and, BitVec.getLsbD_not, BitVec.getLsbD_not]
  cases hbit : info.addressSpecifiedBits.getLsbD k with
  | false => simp [hk]
  | true => simp [h k hbit]

/-- An interface whose host bits are not specified gets a host part that is at most one more
than those that are assigned in its network. -/
theorem hostPart_completeAddress (hunspecified :
      Within info.addressSpecifiedBits (netmaskOfLength netmaskLength))
    (hinside : Inside networkAddress (netmaskOfLength netmaskLength))
    {assigned : List IPv4Address} {bound : ℕ} (hbound : bound + 1 < 2 ^ hostBits netmaskLength)
    (hassigned : ∀ address ∈ assigned, address &&& netmaskOfLength netmaskLength = networkAddress →
        hostPart netmaskLength address ≤ bound) :
    0 < hostPart netmaskLength
        (completeAddress networkAddress (netmaskOfLength netmaskLength) assigned info) ∧
      hostPart netmaskLength
        (completeAddress networkAddress (netmaskOfLength netmaskLength) assigned info) ≤
          bound + 1 := by
  obtain ⟨mask, hmask⟩ : ∃ mask, netmaskOfLength netmaskLength = mask := ⟨_, rfl⟩
  have hpow : 2 ^ hostBits netmaskLength ≤ 2 ^ 32 :=
    Nat.pow_le_pow_right (by omega) (Nat.sub_le 32 _)
  obtain ⟨maximum, hmaximum⟩ : ∃ maximum, unspecifiedPartMaximum
      (assigned.map fun other => (other, other))
      (networkAddress ||| info.address &&& ~~~mask) (~~~mask) = maximum := ⟨_, rfl⟩
  have hnetwork : (networkAddress ||| info.address &&& ~~~mask) &&& ~~~ ~~~mask =
      networkAddress := by
    rw [BitVec.not_not]
    apply BitVec.eq_of_getLsbD_eq
    intro k hk
    simp only [BitVec.getLsbD_and, BitVec.getLsbD_or, BitVec.getLsbD_not, hk, decide_true,
      Bool.true_and]
    cases hbit : mask.getLsbD k with
    | true => simp
    | false =>
      rw [Bool.and_false]
      exact (Bool.eq_false_iff.mpr fun hnet => by
        rw [← hmask, hinside k hnet] at hbit
        cases hbit).symm
  have hle : maximum.toNat ≤ bound := by
    have hbits : maximum ≤ BitVec.ofNat 32 bound := by
      rw [← hmaximum]
      apply unspecifiedPartMaximum_le
      intro entry hentry hagrees
      obtain ⟨address, haddress, rfl⟩ := List.mem_map.mp hentry
      rw [hnetwork, BitVec.not_not, ← hmask] at hagrees
      rw [BitVec.le_def, ← hmask, getPackedBits_host, BitVec.toNat_ofNat,
        Nat.mod_eq_of_lt (by omega)]
      exact hassigned address haddress hagrees
    rw [BitVec.le_def, BitVec.toNat_ofNat, Nat.mod_eq_of_lt (by omega)] at hbits
    exact hbits
  have hnext : (maximum + 1).toNat = maximum.toNat + 1 := by
    have hone : (1 : IPv4Address).toNat = 1 := rfl
    rw [BitVec.toNat_add, hone, Nat.mod_eq_of_lt (by omega)]
  have hhost : hostPart netmaskLength (completeAddress networkAddress
      (netmaskOfLength netmaskLength) assigned info) = (maximum + 1).toNat := by
    have hbits : completeAddress networkAddress (netmaskOfLength netmaskLength) assigned info &&&
        ~~~netmaskOfLength netmaskLength = (maximum + 1) &&& ~~~netmaskOfLength netmaskLength := by
      apply BitVec.eq_of_getLsbD_eq
      intro k _
      rw [BitVec.getLsbD_and, BitVec.getLsbD_and, getLsbD_not_netmaskOfLength]
      by_cases hk : k < hostBits netmaskLength
      · have hlow (j : ℕ) (hj : j ≤ k) : (~~~netmaskOfLength netmaskLength).getLsbD j = true := by
          rw [getLsbD_not_netmaskOfLength, decide_eq_true_eq]
          omega
        have hnone : networkAddress.getLsbD k = false := by
          refine Bool.eq_false_iff.mpr fun hnet => ?_
          have hnot := hlow k le_rfl
          rw [BitVec.getLsbD_not, hinside k hnet] at hnot
          simp at hnot
        rw [completeAddress, and_not_eq_zero_of_within hunspecified, hmask, hmaximum, ← hmask,
          BitVec.getLsbD_or, hnone, getLsbD_setPackedBits_of_low hlow, Bool.false_or]
      · simp [hk]
    rw [hostPart, hbits, BitVec.toNat_and, toNat_not_netmaskOfLength,
      Nat.and_two_pow_sub_one_eq_mod, Nat.mod_eq_of_lt (by omega)]
  rw [hhost, hnext]
  omega

theorem configureInterfaces_hosts {configured : List (InterfaceInfo × InterfaceInfo)}
    (h : configureInterfaces networkAddress (netmaskOfLength netmaskLength) interfaces s =
      .ok (s', configured))
    (hinside : Inside networkAddress (netmaskOfLength netmaskLength))
    (hunspecified : ∀ info ∈ interfaces,
      Within info.addressSpecifiedBits (netmaskOfLength netmaskLength))
    {bound : ℕ} (hroom : bound + interfaces.length + 1 < 2 ^ hostBits netmaskLength)
    (hassigned : ∀ address ∈ s.assignedInterfaceAddresses,
      address &&& netmaskOfLength netmaskLength = networkAddress →
        hostPart netmaskLength address ≤ bound) :
    ∀ entry ∈ configured, 0 < hostPart netmaskLength entry.2.address ∧
      hostPart netmaskLength entry.2.address ≤ bound + interfaces.length := by
  induction interfaces generalizing s configured bound with
  | nil =>
    cases h
    intro entry hentry
    cases hentry
  | cons info interfaces ih =>
    rw [configureInterfaces] at h
    dsimp only at h
    split at h
    · cases h
    · obtain ⟨⟨t, rest⟩, hrest, hok⟩ := bind_eq_ok_iff.mp h
      cases hok
      rw [List.length_cons] at hroom ⊢
      obtain ⟨hpos, hle⟩ := hostPart_completeAddress (hunspecified info (.head _)) hinside
        (by omega) hassigned
      intro entry hentry
      rcases List.mem_cons.mp hentry with rfl | hentry
      · exact ⟨hpos, hle.trans (by omega)⟩
      · have hassigned' : ∀ address ∈ (s.assign (completeAddress networkAddress
            (netmaskOfLength netmaskLength) s.assignedInterfaceAddresses info)
              info.interfaceEntry).assignedInterfaceAddresses,
            address &&& netmaskOfLength netmaskLength = networkAddress →
              hostPart netmaskLength address ≤ bound + 1 := by
          intro address haddress hnetwork
          rcases List.mem_append.mp haddress with haddress | haddress
          · exact (hassigned address haddress hnetwork).trans (Nat.le_succ bound)
          · rw [List.mem_singleton.mp haddress]
            exact hle
        obtain ⟨hpos', hle'⟩ := ih hrest
          (fun i hi => hunspecified i (List.mem_cons_of_mem info hi)) (by omega) hassigned' entry
          hentry
        exact ⟨hpos', by omega⟩

/-- A network that passes the tests has none of the assigned addresses, and room for the
interfaces. -/
theorem of_isAcceptable {assigned : List IPv4Address} {count : ℕ}
    (h : isAcceptable netmaskLength true assigned count networkAddress = true) :
    (∀ address ∈ assigned, address &&& netmaskOfLength netmaskLength ≠ networkAddress) ∧
      count ≤ 2 ^ hostBits netmaskLength := by
  simp only [isAcceptable, Bool.true_and, Bool.and_eq_true, Bool.not_eq_true', decide_eq_true_eq,
    decide_eq_false_iff_not, not_not, List.countP_eq_zero] at h
  obtain ⟨hnone, hroom⟩ := h
  refine ⟨hnone, ?_⟩
  have hcount : assigned.countP (fun address =>
      decide (address &&& netmaskOfLength netmaskLength = networkAddress)) = 0 :=
    List.countP_eq_zero.mpr fun address haddress => by simpa using hnone address haddress
  rw [hcount] at hroom
  have htoInt : (1#32 <<< (32 - netmaskLength).toNat).toInt ≤
      ((1#32 <<< (32 - netmaskLength).toNat).toNat : ℤ) := by
    rw [BitVec.toInt_eq_toNat_cond]
    split <;> omega
  have htoNat : (1#32 <<< (32 - netmaskLength).toNat).toNat ≤ 2 ^ hostBits netmaskLength := by
    rw [BitVec.toNat_shiftLeft, Nat.shiftLeft_eq]
    by_cases hnegative : netmaskLength < 0
    · have hdvd : 2 ^ 32 ∣ (1#32).toNat * 2 ^ (32 - netmaskLength).toNat :=
        Dvd.dvd.mul_left (Nat.pow_dvd_pow 2 (by omega)) _
      rw [Nat.mod_eq_zero_of_dvd hdvd]
      exact Nat.zero_le _
    · have hbits : (32 - netmaskLength).toNat = hostBits netmaskLength := by
        rw [hostBits]
        omega
      rw [hbits]
      exact (Nat.mod_le _ _).trans (by simp)
  omega

end IPv4NetworkConfigurator

namespace IPv4NetworkConfigurator

variable {s s' : AddressAssignment} {merged : MergedInterfaces} {count : ℕ} {disjunct : Bool}
  {unconfigured left : List InterfaceInfo} {links rest : List (List InterfaceInfo)}

section Search

/-- A netmask length and a value of the unspecified part of the network address that a step
of the loop may come to. -/
structure Tried (s : AddressAssignment) (merged : MergedInterfaces) (count : ℕ) (netmaskLength : ℤ)
    (part : IPv4Address) : Prop where
  minimum : merged.minimumNetmaskLength ≤ netmaskLength
  maximum : netmaskLength ≤ merged.maximumNetmaskLength count
  partMaximum : networkAddressUnspecifiedPartMaximum merged netmaskLength s.groups ≤ part
  partLimit : part ≤ networkAddressUnspecifiedPartLimit merged netmaskLength

/-- Longer netmasks are tried first, and for one netmask smaller values. -/
def Before (netmaskLength netmaskLength' : ℤ) (part part' : IPv4Address) : Prop :=
  netmaskLength' < netmaskLength ∨ netmaskLength = netmaskLength' ∧ part < part'

variable {netmaskLength : ℤ} {assigned : List IPv4Address} {networkAddress : IPv4Address}

variable {part : IPv4Address}

end Search

end IPv4NetworkConfigurator

end inet

import LoRaInet.NetworkLayer.Configurator.AssignAddresses.Subnets

open omnetpp addressing

namespace inet.IPv4NetworkConfigurator

variable {s s' : AddressAssignment} {unconfigured left : List InterfaceInfo}
  {links rest : List (List InterfaceInfo)}

variable (group : ConfiguredGroup)

/-- The address lies in the subnet of the group. -/
def ConfiguredGroup.Contains (address : IPv4Address) : Prop :=
  Matches group.networkAddress group.networkNetmask address

def ConfiguredGroup.Disjoint (group group' : ConfiguredGroup) : Prop :=
  ∀ address, ¬(group.Contains address ∧ group'.Contains address)

/-- The templates leave the host bits unspecified. -/
def ConfiguredGroup.HostUnspecified : Prop :=
  ∀ entry ∈ group.interfaces, Within entry.1.addressSpecifiedBits group.networkNetmask
deriving Decidable

/-- No interface has the all-zeros or the all-ones host part. -/
def ConfiguredGroup.Usable : Prop :=
  ∀ entry ∈ group.interfaces, entry.2.address &&& ~~~group.networkNetmask ≠ 0 ∧
    entry.2.address &&& ~~~group.networkNetmask ≠ ~~~group.networkNetmask

/-- The steps that the loops of `assignAddresses` come to: the interfaces of the current
link that are left, the links that follow, and what is assigned. -/
inductive Reached (disjunct : Bool) (links : List (List InterfaceInfo)) :
    List InterfaceInfo → List (List InterfaceInfo) → AddressAssignment → Prop
  | start : Reached disjunct links [] links {}
  | link {interfaces : List InterfaceInfo} {rest : List (List InterfaceInfo)}
      {s : AddressAssignment} (h : Reached disjunct links [] (interfaces :: rest) s) :
      Reached disjunct links interfaces rest s
  | group {unconfigured left : List InterfaceInfo} {rest : List (List InterfaceInfo)}
      {s s' : AddressAssignment} (h : Reached disjunct links unconfigured rest s)
      (hne : unconfigured ≠ [])
      (hstep : configureGroup disjunct unconfigured s = .ok (left, s')) :
      Reached disjunct links left rest s'

section Runs

variable {disjunct : Bool}

/-- What is left to do at a step. -/
def continueFrom (disjunct : Bool) (unconfigured : List InterfaceInfo)
    (rest : List (List InterfaceInfo)) (s : AddressAssignment) : Except Fault AddressAssignment :=
  configureLink disjunct unconfigured.length unconfigured s >>= fun s =>
    rest.foldlM (fun s interfaces => configureLink disjunct interfaces.length interfaces s) s

theorem configureLink_cons (hne : unconfigured ≠ []) :
    configureLink disjunct unconfigured.length unconfigured s =
      configureGroup disjunct unconfigured s >>= fun result =>
        configureLink disjunct result.1.length result.1 result.2 := by
  cases unconfigured with
  | nil => exact absurd rfl hne
  | cons info rest =>
    change (configureGroup disjunct (info :: rest) s >>= fun result =>
        configureLink disjunct rest.length result.1 result.2) = _
    cases hstep : configureGroup disjunct (info :: rest) s with
    | error fault => rfl
    | ok result =>
      have hlength := configureGroup_length hstep hne
      rw [List.length_cons] at hlength
      exact configureLink_rounds (by omega)

theorem continueFrom_group (hne : unconfigured ≠ [])
    (hstep : configureGroup disjunct unconfigured s = .ok (left, s')) :
    continueFrom disjunct unconfigured rest s = continueFrom disjunct left rest s' := by
  rw [continueFrom, continueFrom, configureLink_cons hne, hstep]
  rfl

theorem configureGroup_prefix (h : configureGroup disjunct unconfigured s = .ok (left, s')) :
    ∃ group, s'.groups = s.groups ++ [group] := by
  obtain ⟨group, merged, netmaskLength, hgroup⟩ := configureGroup_ok h
  obtain ⟨t, hconfigured, rfl⟩ := hgroup.configured
  obtain ⟨hgroups, -⟩ := configureInterfaces_ok hconfigured
  exact ⟨group, by rw [AddressAssignment.register, hgroups]⟩

/-- The steps end where the function returns, and the groups that are configured stay. -/
theorem Reached.finish {final : AddressAssignment} (h : Reached disjunct links unconfigured rest s)
    (hfinal : continueFrom disjunct unconfigured rest s = .ok final) :
    Reached disjunct links [] [] final ∧ s.groups <+: final.groups := by
  induction rest generalizing unconfigured s with
  | nil =>
    induction hn : unconfigured.length using Nat.strong_induction_on
      generalizing unconfigured s with
    | _ n ih =>
      by_cases hne : unconfigured = []
      · subst hne
        cases hfinal
        exact ⟨h, List.prefix_refl _⟩
      · have hok := hfinal
        rw [continueFrom, configureLink_cons hne] at hok
        obtain ⟨t, hlink, -⟩ := bind_eq_ok_iff.mp hok
        obtain ⟨⟨left, s'⟩, hstep, -⟩ := bind_eq_ok_iff.mp hlink
        rw [continueFrom_group hne hstep] at hfinal
        have hlength := configureGroup_length hstep hne
        obtain ⟨hreached, hprefix⟩ := ih left.length (by omega) (h.group hne hstep) hfinal rfl
        obtain ⟨group, hgroups⟩ := configureGroup_prefix hstep
        exact ⟨hreached, (hgroups ▸ List.prefix_append _ _).trans hprefix⟩
  | cons interfaces rest ihrest =>
    induction hn : unconfigured.length using Nat.strong_induction_on
      generalizing unconfigured s with
    | _ n ih =>
      by_cases hne : unconfigured = []
      · subst hne
        exact ihrest h.link hfinal
      · have hok := hfinal
        rw [continueFrom, configureLink_cons hne] at hok
        obtain ⟨t, hlink, -⟩ := bind_eq_ok_iff.mp hok
        obtain ⟨⟨left, s'⟩, hstep, -⟩ := bind_eq_ok_iff.mp hlink
        rw [continueFrom_group hne hstep] at hfinal
        have hlength := configureGroup_length hstep hne
        obtain ⟨hreached, hprefix⟩ := ih left.length (by omega) (h.group hne hstep) hfinal rfl
        obtain ⟨group, hgroups⟩ := configureGroup_prefix hstep
        exact ⟨hreached, (hgroups ▸ List.prefix_append _ _).trans hprefix⟩

theorem Reached.sound (h : Reached disjunct links unconfigured rest s) : s.Sound := by
  induction h with
  | start => exact sound_empty
  | link h ih => exact ih
  | group h hne hstep ih => exact (configureGroup_sound hstep ih).1

end Runs

section Step

/-- What a step adds when no two networks may be the same: a group of some interfaces, in a
network without an address before. -/
structure Adds (s s' : AddressAssignment) (group : ConfiguredGroup) : Prop where
  groups : s'.groups = s.groups ++ [group]
  inside : Inside group.networkAddress group.networkNetmask
  contiguous : Contiguous group.networkNetmask
  nonempty : group.interfaces ≠ []
  vacant : ∀ address ∈ s.assignedInterfaceAddresses, ¬group.Contains address
  usable : group.HostUnspecified → group.Usable

theorem contains_iff {group : ConfiguredGroup} {address : IPv4Address}
    (hinside : Inside group.networkAddress group.networkNetmask) :
    group.Contains address ↔ address &&& group.networkNetmask = group.networkAddress := by
  rw [ConfiguredGroup.Contains, matches_iff]
  constructor
  · intro h
    apply BitVec.eq_of_getLsbD_eq
    intro k _
    rw [BitVec.getLsbD_and]
    cases hmask : group.networkNetmask.getLsbD k with
    | true => rw [h k hmask, Bool.and_true]
    | false =>
      rw [Bool.and_false]
      exact (Bool.eq_false_iff.mpr fun hbit => by rw [hinside k hbit] at hmask; cases hmask).symm
  · intro h k hk
    rw [← h, BitVec.getLsbD_and, hk, Bool.and_true]

variable {merged : MergedInterfaces} {netmaskLength : ℤ}

theorem configures_adds {group : ConfiguredGroup} (hne : unconfigured ≠ [])
    (h : Configures true unconfigured s left s' group merged netmaskLength) : Adds s s' group := by
  obtain ⟨t, hconfigured, rfl⟩ := h.configured
  obtain ⟨hgroups, htemplates, -, -, -⟩ := configureInterfaces_ok hconfigured
  obtain ⟨-, -, ⟨part, hpart⟩, hacceptable⟩ := findNetwork_some h.found
  obtain ⟨hvacant, hroom⟩ := of_isAcceptable hacceptable
  have hinside : Inside group.networkAddress group.networkNetmask := by
    rw [hpart, h.networkNetmask]
    exact (networkAddressFor_merged merged netmaskLength part).1
  have hcollected : (collectCompatibleInterfaces unconfigured).1 ≠ [] := fun hnil =>
    collectFrom_ne_nil hne
      (List.perm_nil.mp (hnil ▸ (collectCompatibleInterfaces_perm unconfigured).symm))
  refine ⟨by rw [AddressAssignment.register, hgroups], hinside, ?_, ?_, ?_, ?_⟩
  · rw [h.networkNetmask]
    exact contiguous_netmaskOfLength netmaskLength
  · intro hnil
    rw [← htemplates, hnil] at hcollected
    exact hcollected rfl
  · intro address haddress hcontains
    rw [contains_iff hinside, h.networkNetmask] at hcontains
    exact hvacant address haddress hcontains
  · intro hunspecified
    have hlength : group.interfaces.length = (collectCompatibleInterfaces unconfigured).1.length := by
      rw [← htemplates, List.length_map]
    have hspecified : ∀ info ∈ (collectCompatibleInterfaces unconfigured).1,
        Within info.addressSpecifiedBits (netmaskOfLength netmaskLength) := by
      intro info hinfo
      rw [← htemplates] at hinfo
      obtain ⟨entry, hentry, rfl⟩ := List.mem_map.mp hinfo
      rw [← h.networkNetmask]
      exact hunspecified entry hentry
    rw [h.networkNetmask] at hconfigured hinside
    have hroom' : 0 + (collectCompatibleInterfaces unconfigured).1.length + 1 <
        2 ^ hostBits netmaskLength := by omega
    have hhosts := configureInterfaces_hosts hconfigured hinside hspecified hroom'
      fun address haddress hnetwork => absurd hnetwork (hvacant address haddress)
    intro entry hentry
    obtain ⟨hpos, hle⟩ := hhosts entry hentry
    rw [hostPart, ← h.networkNetmask] at hpos hle
    refine ⟨fun hzero => ?_, fun hones => ?_⟩
    · rw [hzero] at hpos
      exact absurd hpos (by decide)
    · have hall := toNat_not_netmaskOfLength netmaskLength
      rw [← h.networkNetmask] at hall
      rw [hones, hall] at hle
      omega

end Step

theorem Reached.usable (h : Reached true links unconfigured rest s) :
    ∀ group ∈ s.groups, group.HostUnspecified → group.Usable := by
  induction h with
  | start => intro group hgroup; simp at hgroup
  | link h ih => exact ih
  | group h hne hstep ih =>
    obtain ⟨new, merged, netmaskLength, hconfigures⟩ := configureGroup_ok hstep
    have hadds := configures_adds hne hconfigures
    intro group hgroup
    rw [hadds.groups] at hgroup
    rcases List.mem_append.mp hgroup with hgroup | hgroup
    · exact ih group hgroup
    · rw [List.mem_singleton.mp hgroup]
      exact hadds.usable

end inet.IPv4NetworkConfigurator

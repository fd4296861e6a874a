import LoRaInet.NetworkLayer.Configurator.AssignAddresses.Templates

open omnetpp addressing container

namespace inet.IPv4NetworkConfigurator

variable {info : InterfaceInfo} {interfaces : List InterfaceInfo} {s s' : AddressAssignment}
  {disjunct : Bool}

section CompleteAddress

variable {networkAddress networkNetmask : IPv4Address} {assigned : List IPv4Address} {k : ℕ}

theorem getLsbD_completeAddress_of_mask (hk : networkNetmask.getLsbD k = true) :
    (completeAddress networkAddress networkNetmask assigned info).getLsbD k =
      networkAddress.getLsbD k := by
  have hunspecified : (~~~info.addressSpecifiedBits &&& ~~~networkNetmask).getLsbD k = false := by
    rw [BitVec.getLsbD_and, BitVec.getLsbD_not (x := networkNetmask), hk, Bool.not_true,
      Bool.and_false, Bool.and_false]
  rw [completeAddress, BitVec.getLsbD_or, getLsbD_setPackedBits_of_not hunspecified,
    BitVec.getLsbD_and, BitVec.getLsbD_not, hk]
  simp

theorem getLsbD_completeAddress_of_specified (hinside : Inside networkAddress networkNetmask)
    (hmask : networkNetmask.getLsbD k = false)
    (hspecified : info.addressSpecifiedBits.getLsbD k = true) :
    (completeAddress networkAddress networkNetmask assigned info).getLsbD k =
      info.address.getLsbD k := by
  have hlt : k < 32 := BitVec.lt_of_getLsbD hspecified
  have hnetwork : networkAddress.getLsbD k = false :=
    Bool.eq_false_iff.mpr fun hbit => by rw [hinside k hbit] at hmask; cases hmask
  have hunspecified : (~~~info.addressSpecifiedBits &&& ~~~networkNetmask).getLsbD k = false := by
    rw [BitVec.getLsbD_and, BitVec.getLsbD_not, hspecified, Bool.not_true, Bool.and_false,
      Bool.false_and]
  rw [completeAddress, BitVec.getLsbD_or, hnetwork, getLsbD_setPackedBits_of_not hunspecified,
    BitVec.getLsbD_and, BitVec.getLsbD_not, hmask]
  simp [hlt]

theorem completeAddress_and (hinside : Inside networkAddress networkNetmask) :
    completeAddress networkAddress networkNetmask assigned info &&& networkNetmask =
      networkAddress := by
  apply BitVec.eq_of_getLsbD_eq
  intro k _
  rw [BitVec.getLsbD_and]
  cases hmask : networkNetmask.getLsbD k with
  | true => rw [getLsbD_completeAddress_of_mask hmask, Bool.and_true]
  | false =>
    rw [Bool.and_false]
    exact (Bool.eq_false_iff.mpr fun hbit => by rw [hinside k hbit] at hmask; cases hmask).symm

end CompleteAddress

/-- What a configured interface has to do with its template and its network. -/
structure ConfiguredGroup.Agrees (group : ConfiguredGroup) (template configured : InterfaceInfo) :
    Prop where
  netmask : configured.netmask = group.networkNetmask
  network : configured.address &&& group.networkNetmask = group.networkAddress
  addressTemplate : Matches template.address template.addressSpecifiedBits configured.address
  netmaskTemplate : Matches template.netmask template.netmaskSpecifiedBits configured.netmask

/-- An interface whose template the merged bits cover gets an address that agrees with it. -/
theorem agrees_configure {merged : MergedInterfaces} (hcovers : merged.Covers info)
    {netmaskLength : ℤ} {count : ℕ} (hminimum : merged.minimumNetmaskLength ≤ netmaskLength)
    (hmaximum : netmaskLength ≤ merged.maximumNetmaskLength count) (part : IPv4Address)
    (assigned : List IPv4Address) (interfaces : List (InterfaceInfo × InterfaceInfo)) :
    ConfiguredGroup.Agrees
      ⟨networkAddressFor merged netmaskLength part, netmaskOfLength netmaskLength, interfaces⟩ info
      (info.configure (completeAddress (networkAddressFor merged netmaskLength part)
        (netmaskOfLength netmaskLength) assigned info) (netmaskOfLength netmaskLength)) := by
  obtain ⟨hnetmask, hincompatible⟩ := netmaskOfLength_merged hminimum hmaximum
  obtain ⟨hinside, hnetwork⟩ := networkAddressFor_merged merged netmaskLength part
  refine ⟨rfl, completeAddress_and hinside, matches_iff.mpr fun k hk => ?_,
    matches_iff.mpr fun k hk => ?_⟩
  · obtain ⟨hspecified, hbit⟩ := hcovers.address k hk
    cases hmask : (netmaskOfLength netmaskLength).getLsbD k with
    | true =>
      calc (completeAddress (networkAddressFor merged netmaskLength part)
            (netmaskOfLength netmaskLength) assigned info).getLsbD k
          = (networkAddressFor merged netmaskLength part).getLsbD k :=
            getLsbD_completeAddress_of_mask hmask
        _ = merged.address.getLsbD k := hnetwork k hmask hspecified
        _ = info.address.getLsbD k := hbit (hincompatible k hmask)
    | false => exact getLsbD_completeAddress_of_specified hinside hmask hk
  · obtain ⟨hspecified, hbit⟩ := hcovers.netmask k hk
    exact (matches_iff.mp hnetmask k hspecified).trans hbit

/-- The addresses that are assigned are those of the map, each of them once. -/
structure AddressAssignment.Registered (s : AddressAssignment) : Prop where
  lookup : ∀ address, (s.assignedAddressToInterfaceEntryMap.lookup address).isSome = true ↔
    address ∈ s.assignedInterfaceAddresses
  nodup : s.assignedInterfaceAddresses.Nodup

theorem registered_empty : ({} : AddressAssignment).Registered :=
  ⟨fun address => by simp, List.nodup_nil⟩

theorem AddressAssignment.Registered.assign (h : s.Registered) {address : IPv4Address}
    (hnew : ¬(s.assignedAddressToInterfaceEntryMap.lookup address).isSome = true)
    (interfaceEntry : String) : (s.assign address interfaceEntry).Registered := by
  refine ⟨fun other => ?_, ?_⟩
  · rw [AddressAssignment.assign, Map.lookup_insert_eq, List.mem_append, List.mem_singleton,
      ← h.lookup other]
    by_cases hother : other = address
    · simp [hother]
    · simp [hother]
  · rw [h.lookup] at hnew
    exact List.nodup_append.mpr ⟨h.nodup, List.nodup_singleton address, fun a ha b hb => by
        rw [List.mem_singleton] at hb
        rintro rfl
        exact hnew (hb ▸ ha)⟩

/-- The interfaces of a group, with the addresses that were assigned when each was
configured. -/
theorem configureInterfaces_ok {networkAddress networkNetmask : IPv4Address}
    {configured : List (InterfaceInfo × InterfaceInfo)}
    (h : configureInterfaces networkAddress networkNetmask interfaces s = .ok (s', configured)) :
    s'.groups = s.groups ∧ configured.map Prod.fst = interfaces ∧ s'.assignedInterfaceAddresses =
        s.assignedInterfaceAddresses ++ configured.map (·.2.address) ∧
      (s.Registered → s'.Registered) ∧
      ∀ entry ∈ configured, ∃ assigned, entry.2 =
        entry.1.configure (completeAddress networkAddress networkNetmask assigned entry.1)
          networkNetmask := by
  induction interfaces generalizing s configured with
  | nil =>
    cases h
    exact ⟨rfl, rfl, by simp, id, fun entry hentry => by cases hentry⟩
  | cons info interfaces ih =>
    rw [configureInterfaces] at h
    dsimp only at h
    split at h
    · cases h
    · next hnew =>
      obtain ⟨⟨t, rest⟩, hrest, hok⟩ := bind_eq_ok_iff.mp h
      cases hok
      obtain ⟨hgroups, hfst, haddresses, hregistered, hentries⟩ := ih hrest
      refine ⟨hgroups, by rw [List.map_cons, hfst], ?_,
        fun hbefore => hregistered (hbefore.assign hnew _), fun entry hentry => ?_⟩
      · rw [haddresses, AddressAssignment.assign, List.append_assoc]
        rfl
      · rcases List.mem_cons.mp hentry with rfl | hentry
        · exact ⟨s.assignedInterfaceAddresses, rfl⟩
        · exact hentries entry hentry

/-- What one step of the loop does. -/
structure Configures (disjunct : Bool) (unconfigured : List InterfaceInfo) (s : AddressAssignment)
    (left : List InterfaceInfo) (s' : AddressAssignment) (group : ConfiguredGroup)
    (merged : MergedInterfaces) (netmaskLength : ℤ) : Prop where
  collected : merged = (collectCompatibleInterfaces unconfigured).2
  found : findNetwork disjunct s merged (group.interfaces.length + 2) =
    some (netmaskLength, group.networkAddress)
  networkNetmask : group.networkNetmask = netmaskOfLength netmaskLength
  templates : group.interfaces.map Prod.fst = (collectCompatibleInterfaces unconfigured).1
  left : left = unconfigured.diff (collectCompatibleInterfaces unconfigured).1
  configured : ∃ t, configureInterfaces group.networkAddress group.networkNetmask
    (collectCompatibleInterfaces unconfigured).1 s = .ok (t, group.interfaces) ∧
      s' = t.register group

theorem configureGroup_ok {unconfigured left : List InterfaceInfo}
    (h : configureGroup disjunct unconfigured s = .ok (left, s')) :
    ∃ group merged netmaskLength,
      Configures disjunct unconfigured s left s' group merged netmaskLength := by
  rw [configureGroup] at h
  obtain ⟨_, -, h⟩ := bind_eq_ok_iff.mp h
  cases hfound : findNetwork disjunct s (collectCompatibleInterfaces unconfigured).2
      ((collectCompatibleInterfaces unconfigured).1.length + 2) with
  | none =>
    simp only [hfound] at h
    cases h
  | some found =>
    obtain ⟨netmaskLength, networkAddress⟩ := found
    simp only [hfound] at h
    obtain ⟨⟨t, interfaces⟩, hconfigured, hok⟩ := bind_eq_ok_iff.mp h
    cases hok
    obtain ⟨-, htemplates, -, -, -⟩ := configureInterfaces_ok hconfigured
    refine ⟨⟨networkAddress, netmaskOfLength netmaskLength, interfaces⟩,
      (collectCompatibleInterfaces unconfigured).2, netmaskLength, rfl, ?_, rfl, htemplates, rfl,
      t, hconfigured, rfl⟩
    rw [← hfound, ← htemplates, List.length_map]

end inet.IPv4NetworkConfigurator

open omnetpp addressing

namespace inet.IPv4NetworkConfigurator

variable {s s' : AddressAssignment} {disjunct : Bool} {unconfigured left : List InterfaceInfo}

def AddressAssignment.interfaces (s : AddressAssignment) : List (InterfaceInfo × InterfaceInfo) :=
  s.groups.flatMap (·.interfaces)

/-- The groups agree with their templates, and no address is assigned twice. -/
structure AddressAssignment.Sound (s : AddressAssignment) : Prop where
  registered : s.Registered
  addresses : s.assignedInterfaceAddresses = s.interfaces.map (·.2.address)
  contiguous : ∀ group ∈ s.groups, Contiguous group.networkNetmask
  agrees : ∀ group ∈ s.groups, ∀ entry ∈ group.interfaces, group.Agrees entry.1 entry.2

theorem sound_empty : ({} : AddressAssignment).Sound :=
  ⟨registered_empty, rfl, fun _ h => by simp at h, fun _ h => by simp at h⟩

theorem interfaces_register (s : AddressAssignment) (group : ConfiguredGroup) :
    (s.register group).interfaces = s.interfaces ++ group.interfaces := by
  simp [AddressAssignment.interfaces, AddressAssignment.register]

theorem interfaces_of_groups (h : s'.groups = s.groups) : s'.interfaces = s.interfaces := by
  rw [AddressAssignment.interfaces, AddressAssignment.interfaces, h]

/-- One step of the loop keeps the assignment sound, and configures what it takes from the
link. -/
theorem configureGroup_sound (h : configureGroup disjunct unconfigured s = .ok (left, s'))
    (hsound : s.Sound) :
    s'.Sound ∧ (s'.interfaces.map Prod.fst ++ left).Perm (s.interfaces.map Prod.fst ++ unconfigured) := by
  obtain ⟨group, merged, netmaskLength, hgroup⟩ := configureGroup_ok h
  obtain ⟨t, hconfigured, rfl⟩ := hgroup.configured
  obtain ⟨hgroups, -, haddresses, hregistered, hentries⟩ := configureInterfaces_ok hconfigured
  obtain ⟨hminimum, hmaximum, ⟨part, hpart⟩, -⟩ := findNetwork_some hgroup.found
  have hinterfaces : t.interfaces = s.interfaces := interfaces_of_groups hgroups
  refine ⟨⟨?_, ?_, fun g hg => ?_, fun g hg entry hentry => ?_⟩, ?_⟩
  · exact ⟨(hregistered hsound.registered).lookup, (hregistered hsound.registered).nodup⟩
  · rw [interfaces_register, hinterfaces, List.map_append, ← hsound.addresses, ← haddresses]
    rfl
  · have hmem : g ∈ s.groups ++ [group] := hgroups ▸ hg
    rcases List.mem_append.mp hmem with hmem | hmem
    · exact hsound.contiguous g hmem
    · obtain rfl := List.mem_singleton.mp hmem
      rw [hgroup.networkNetmask]
      exact contiguous_netmaskOfLength netmaskLength
  · have hmem : g ∈ s.groups ++ [group] := hgroups ▸ hg
    rcases List.mem_append.mp hmem with hmem | hmem
    · exact hsound.agrees g hmem entry hentry
    · obtain rfl := List.mem_singleton.mp hmem
      have htemplate : entry.1 ∈ (collectCompatibleInterfaces unconfigured).1 := by
        rw [← hgroup.templates]
        exact List.mem_map_of_mem hentry
      have hcovers : merged.Covers entry.1 := by
        rw [hgroup.collected]
        exact collectCompatibleInterfaces_covers unconfigured entry.1 htemplate
      obtain ⟨assigned, hconfigure⟩ := hentries entry hentry
      obtain ⟨networkAddress, networkNetmask, interfaces⟩ := g
      obtain rfl : networkAddress = networkAddressFor merged netmaskLength part := hpart
      obtain rfl : networkNetmask = netmaskOfLength netmaskLength := hgroup.networkNetmask
      rw [hconfigure]
      exact agrees_configure hcovers hminimum hmaximum part assigned interfaces
  · rw [interfaces_register, hinterfaces, List.map_append, hgroup.templates, hgroup.left,
      List.append_assoc]
    exact (collectCompatibleInterfaces_diff unconfigured).append_left _

theorem configureLink_sound {rounds : ℕ}
    (h : configureLink disjunct rounds unconfigured s = .ok s') (hsound : s.Sound) :
    s'.Sound ∧ (s'.interfaces.map Prod.fst).Perm (s.interfaces.map Prod.fst ++ unconfigured) := by
  induction rounds generalizing unconfigured s with
  | zero =>
    cases unconfigured with
    | nil =>
      cases h
      exact ⟨hsound, by simp⟩
    | cons info rest => cases h
  | succ rounds ih =>
    cases unconfigured with
    | nil =>
      cases h
      exact ⟨hsound, by simp⟩
    | cons info rest =>
      obtain ⟨⟨left, t⟩, hgroup, hrest⟩ := bind_eq_ok_iff.mp h
      obtain ⟨hsoundT, hpermT⟩ := configureGroup_sound hgroup hsound
      obtain ⟨hsound', hperm⟩ := ih hrest hsoundT
      exact ⟨hsound', hperm.trans hpermT⟩

theorem foldlM_sound {links : List (List InterfaceInfo)}
    (h : links.foldlM (fun s interfaces => configureLink disjunct interfaces.length interfaces s) s =
      .ok s') (hsound : s.Sound) :
    s'.Sound ∧ (s'.interfaces.map Prod.fst).Perm (s.interfaces.map Prod.fst ++ links.flatten) := by
  induction links generalizing s with
  | nil =>
    cases h
    exact ⟨hsound, by simp⟩
  | cons interfaces links ih =>
    rw [List.foldlM_cons] at h
    obtain ⟨t, hlink, hrest⟩ := bind_eq_ok_iff.mp h
    obtain ⟨hsoundT, hpermT⟩ := configureLink_sound hlink hsound
    obtain ⟨hsound', hperm⟩ := ih hrest hsoundT
    refine ⟨hsound', hperm.trans ?_⟩
    rw [List.flatten_cons, ← List.append_assoc]
    exact hpermT.append_right _

theorem configureGroup_length (h : configureGroup disjunct unconfigured s = .ok (left, s'))
    (hne : unconfigured ≠ []) : left.length < unconfigured.length := by
  obtain ⟨group, merged, netmaskLength, hgroup⟩ := configureGroup_ok h
  have hcollected : (collectCompatibleInterfaces unconfigured).1 ≠ [] := fun hnil =>
    collectFrom_ne_nil hne
      (List.perm_nil.mp (hnil ▸ (collectCompatibleInterfaces_perm unconfigured).symm))
  have hlength := (collectCompatibleInterfaces_diff unconfigured).length_eq
  have hpos := List.length_pos_of_ne_nil hcollected
  rw [List.length_append] at hlength
  rw [hgroup.left]
  omega

theorem configureLink_succ {rounds : ℕ} (h : unconfigured.length ≤ rounds) :
    configureLink disjunct (rounds + 1) unconfigured s =
      configureLink disjunct rounds unconfigured s := by
  induction rounds generalizing unconfigured s with
  | zero =>
    obtain rfl := List.length_eq_zero_iff.mp (Nat.le_zero.mp h)
    rfl
  | succ rounds ih =>
    cases unconfigured with
    | nil => rfl
    | cons info rest =>
      change (configureGroup disjunct (info :: rest) s >>= fun result =>
          configureLink disjunct (rounds + 1) result.1 result.2) =
        configureGroup disjunct (info :: rest) s >>= fun result =>
          configureLink disjunct rounds result.1 result.2
      cases hstep : configureGroup disjunct (info :: rest) s with
      | error fault => rfl
      | ok result =>
        have hlength := configureGroup_length hstep (List.cons_ne_nil info rest)
        exact ih (by omega)

/-- The loop over a link ends by itself: more rounds than there are interfaces change
nothing. -/
theorem configureLink_rounds {rounds : ℕ} (h : unconfigured.length ≤ rounds) :
    configureLink disjunct rounds unconfigured s =
      configureLink disjunct unconfigured.length unconfigured s := by
  induction rounds, h using Nat.le_induction with
  | base => rfl
  | succ rounds h ih => rw [configureLink_succ h, ih]

/-- Automatic address assignment is sound: every interface is configured once, with an
address of its own; it agrees with its template, and with its group on the network. -/
theorem assignAddresses_sound {links : List (List InterfaceInfo)}
    (h : assignAddresses disjunct links = .ok s) :
    (s.interfaces.map Prod.fst).Perm links.flatten ∧ (s.interfaces.map (·.2.address)).Nodup ∧
      ∀ group ∈ s.groups, Contiguous group.networkNetmask ∧ ∀ entry ∈ group.interfaces,
        entry.2.netmask = group.networkNetmask ∧
        entry.2.address &&& group.networkNetmask = group.networkAddress ∧
        Matches entry.1.address entry.1.addressSpecifiedBits entry.2.address ∧
        Matches entry.1.netmask entry.1.netmaskSpecifiedBits entry.2.netmask := by
  obtain ⟨hsound, hperm⟩ := foldlM_sound h sound_empty
  refine ⟨hperm, ?_, fun group hgroup => ⟨hsound.contiguous group hgroup, fun entry hentry => ?_⟩⟩
  · rw [← hsound.addresses]
    exact hsound.registered.nodup
  · have hagrees := hsound.agrees group hgroup entry hentry
    exact ⟨hagrees.netmask, hagrees.network, hagrees.addressTemplate, hagrees.netmaskTemplate⟩

/-- Two interfaces of a link with incompatible templates, and another link. -/
theorem assignAddresses_sound_templates : ∃ s : AddressAssignment,
    s.groups.length = 3 ∧ (s.interfaces.map Prod.fst).length = 3 ∧
      (s.interfaces.map (·.2.address)).Nodup := by
  obtain ⟨links, hlinks⟩ : ∃ links : List (List InterfaceInfo), links =
      [[⟨"host1.eth0", 0x0A000000, 0xFF0000FF, 0xFF000000, 0xFF000000⟩,
        ⟨"host2.eth0", 0xC0A80007, 0xFFFF00FF, 0xFFFF0000, 0xFFFF0000⟩],
      [⟨"host3.eth0", 0x0A000000, 0xFF000000, 0xFF000000, 0xFF000000⟩]] := ⟨_, rfl⟩
  have hexec : ∃ s ∈ (assignAddresses true links).toOption, s.groups.length = 3 := by
    rw [hlinks]
    decide +kernel
  obtain ⟨s, hs, hgroups⟩ := hexec
  obtain ⟨hperm, hnodup, -⟩ := assignAddresses_sound (toOption_eq_some.mp hs)
  have hlength := hperm.length_eq
  rw [hlinks] at hlength
  exact ⟨s, hgroups, hlength, hnodup⟩

end inet.IPv4NetworkConfigurator

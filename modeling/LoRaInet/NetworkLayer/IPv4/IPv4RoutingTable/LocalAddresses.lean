import LoRaInet.NetworkLayer.IPv4.IPv4RoutingTable.LongestPrefix

open omnetpp container transition

namespace inet.IPv4RoutingTable

variable {par : Parameters} {s s' : State} {interfaces : List Interface}

/-- An interface has the address. -/
def HasAddress (interfaces : List Interface) (address : IPv4Address) : Prop :=
  ∃ interface ∈ interfaces, ∃ data, interface.ipv4Data = some data ∧ data.ipAddress = address

/-- A broadcast interface has the broadcast address. -/
def HasBroadcastAddress (interfaces : List Interface) (address : IPv4Address) : Prop :=
  ∃ interface ∈ interfaces, interface.isBroadcast = true ∧ ∃ data, interface.ipv4Data = some data ∧
    data.ipAddress.makeBroadcastAddress data.netmask = address

/-- A set that is collected anew when it is empty, and is right otherwise. -/
def Fresh (Has : IPv4Address → Prop) (addresses : List IPv4Address) : Prop :=
  addresses = [] ∨ ∀ address, address ∈ addresses ↔ Has address

theorem mem_interfaceAddresses {address : IPv4Address} :
    address ∈ interfaceAddresses interfaces ↔ HasAddress interfaces address := by
  rw [interfaceAddresses, List.mem_filterMap]
  constructor
  · rintro ⟨interface, hmem, hdata⟩
    rw [Option.map_eq_some_iff] at hdata
    obtain ⟨data, hdata, haddress⟩ := hdata
    exact ⟨interface, hmem, data, hdata, haddress⟩
  · rintro ⟨interface, hmem, data, hdata, haddress⟩
    exact ⟨interface, hmem, by rw [hdata, Option.map_some, haddress]⟩

theorem mem_broadcastAddresses {addresses : List IPv4Address}
    (h : broadcastAddresses interfaces = .ok addresses) (address : IPv4Address) :
    address ∈ addresses ↔ address ≠ 0 ∧ HasBroadcastAddress interfaces address := by
  induction interfaces generalizing addresses with
  | nil =>
    cases h
    simp [HasBroadcastAddress]
  | cons interface interfaces ih =>
    have hcons : HasBroadcastAddress (interface :: interfaces) address ↔
        (interface.isBroadcast = true ∧ ∃ data, interface.ipv4Data = some data ∧
          data.ipAddress.makeBroadcastAddress data.netmask = address) ∨
        HasBroadcastAddress interfaces address := by
      simp [HasBroadcastAddress]
    rw [broadcastAddresses] at h
    rw [hcons]
    split at h
    · next hbroadcast =>
      cases hdata : interface.ipv4Data with
      | none =>
        simp only [hdata] at h
        cases h
      | some data =>
        simp only [hdata] at h
        obtain ⟨rest, hrest, hok⟩ := bind_eq_ok_iff.mp h
        cases hok
        have hmem := ih hrest
        split
        · next hzero =>
          rw [IPv4Address.isUnspecified, decide_eq_true_eq] at hzero
          rw [hmem]
          constructor
          · rintro ⟨hne, hhas⟩
            exact ⟨hne, .inr hhas⟩
          · rintro ⟨hne, ⟨-, d, hd, heq⟩ | hhas⟩
            · cases hd
              exact absurd (heq.symm.trans hzero) hne
            · exact ⟨hne, hhas⟩
        · next hzero =>
          rw [IPv4Address.isUnspecified, decide_eq_true_eq] at hzero
          rw [List.mem_cons, hmem]
          constructor
          · rintro (rfl | ⟨hne, hhas⟩)
            · exact ⟨hzero, .inl ⟨hbroadcast, data, rfl, rfl⟩⟩
            · exact ⟨hne, .inr hhas⟩
          · rintro ⟨hne, ⟨-, d, hd, heq⟩ | hhas⟩
            · cases hd
              exact .inl heq.symm
            · exact .inr ⟨hne, hhas⟩
    · next hbroadcast =>
      rw [ih h]
      simp [hbroadcast]

theorem broadcastAddresses_ok
    (h : ∀ interface ∈ interfaces, interface.isBroadcast = true → interface.ipv4Data ≠ none) :
    ∃ addresses, broadcastAddresses interfaces = .ok addresses := by
  induction interfaces with
  | nil => exact ⟨[], rfl⟩
  | cons interface interfaces ih =>
    obtain ⟨rest, hrest⟩ := ih fun i hi => h i (List.mem_cons_of_mem interface hi)
    rw [broadcastAddresses]
    split
    · next hbroadcast =>
      cases hdata : interface.ipv4Data with
      | none => exact absurd hdata (h interface (.head _) hbroadcast)
      | some data =>
        simp only [hrest]
        exact ⟨_, rfl⟩
    · exact ⟨rest, hrest⟩

/-- What holds as long as no interface leaves unnoticed. -/
structure LocalInv (s : State) : Prop where
  addresses : Fresh (HasAddress s.interfaces) s.localAddresses
  broadcasts : Fresh (fun address => address ≠ 0 ∧ HasBroadcastAddress s.interfaces address)
    s.localBroadcastAddresses

theorem isLocalAddress_iff (h : LocalInv s) (dest : IPv4Address) :
    ((isLocalAddress dest s).1 = true ↔ HasAddress s.interfaces dest) ∧
      LocalInv (isLocalAddress dest s).2 := by
  rw [isLocalAddress]
  by_cases hempty : s.localAddresses = []
  · simp only [hempty, if_true, decide_eq_true_eq]
    exact ⟨mem_interfaceAddresses, .inr fun _ => mem_interfaceAddresses, h.broadcasts⟩
  · simp only [hempty, if_false, decide_eq_true_eq]
    rcases h.addresses with hnil | hmem
    · exact absurd hnil hempty
    · exact ⟨hmem dest, .inr hmem, h.broadcasts⟩

theorem isLocalBroadcastAddress_iff (h : LocalInv s) {dest : IPv4Address} {b : Bool}
    (hok : isLocalBroadcastAddress dest s = .ok (b, s')) :
    (b = true ↔ dest ≠ 0 ∧ HasBroadcastAddress s.interfaces dest) ∧ LocalInv s' := by
  obtain ⟨addresses, hcollect, hok⟩ := bind_eq_ok_iff.mp hok
  cases hok
  have hmem : ∀ address, address ∈ addresses ↔
      address ≠ 0 ∧ HasBroadcastAddress s.interfaces address := by
    rw [collectBroadcastAddresses] at hcollect
    split at hcollect
    · exact mem_broadcastAddresses hcollect
    · next hempty =>
      cases hcollect
      exact h.broadcasts.resolve_left hempty
  exact ⟨by rw [decide_eq_true_eq]; exact hmem dest, h.addresses, .inr hmem⟩

theorem isLocalBroadcastAddress_ok (hdata : ∀ interface ∈ s.interfaces,
      interface.isBroadcast = true → interface.ipv4Data ≠ none) (dest : IPv4Address) :
    ∃ b s', isLocalBroadcastAddress dest s = .ok (b, s') := by
  obtain ⟨addresses, haddresses⟩ := broadcastAddresses_ok hdata
  rw [isLocalBroadcastAddress, collectBroadcastAddresses, haddresses]
  split <;> exact ⟨_, _, rfl⟩

section Steps

theorem localInv_invalidateCache (s : State) : LocalInv (invalidateCache s) := ⟨.inl rfl, .inl rfl⟩

theorem LocalInv.congr (h : LocalInv s) (hinterfaces : s'.interfaces = s.interfaces)
    (hlocal : s'.localAddresses = s.localAddresses)
    (hbroadcast : s'.localBroadcastAddresses = s.localBroadcastAddresses) : LocalInv s' := by
  constructor
  · rw [hinterfaces, hlocal]
    exact h.addresses
  · rw [hinterfaces, hbroadcast]
    exact h.broadcasts

theorem findBestMatchingRoute_local {dest : IPv4Address} {answer : Option ℕ}
    (hok : findBestMatchingRoute dest s = .ok (answer, s')) :
    s'.interfaces = s.interfaces ∧ s'.localAddresses = s.localAddresses ∧
      s'.localBroadcastAddresses = s.localBroadcastAddresses := by
  rw [findBestMatchingRoute] at hok
  cases hcached : s.routingCache.lookup dest with
  | none =>
    simp only [hcached] at hok
    cases hok
    exact ⟨rfl, rfl, rfl⟩
  | some cached =>
    cases cached with
    | none =>
      simp only [hcached] at hok
      cases hok
      exact ⟨rfl, rfl, rfl⟩
    | some id =>
      simp only [hcached] at hok
      cases hfind : findRoute s id with
      | none =>
        simp only [hfind] at hok
        cases hok
      | some r =>
        simp only [hfind] at hok
        split at hok
        · cases hok
          exact ⟨rfl, rfl, rfl⟩
        · cases hok
          exact ⟨rfl, rfl, rfl⟩

theorem localInv_answer (h : LocalInv s) {query : Query} (hok : answer s query = .ok s') :
    LocalInv s' := by
  cases query with
  | findBestMatchingRoute dest =>
    cases hfound : findBestMatchingRoute dest s with
    | error fault =>
      rw [answer, hfound] at hok
      cases hok
    | ok found =>
      rw [answer, hfound] at hok
      cases hok
      obtain ⟨hinterfaces, hlocal, hbroadcast⟩ := findBestMatchingRoute_local hfound
      exact h.congr hinterfaces hlocal hbroadcast
  | isLocalAddress dest =>
    cases hok
    exact (isLocalAddress_iff h dest).2
  | isLocalBroadcastAddress dest =>
    cases hasked : isLocalBroadcastAddress dest s with
    | error fault =>
      rw [answer, hasked] at hok
      cases hok
    | ok asked =>
      rw [answer, hasked] at hok
      cases hok
      exact (isLocalBroadcastAddress_iff h hasked).2

/-- The cached sets that a query fills. -/
def Query.fillsLocal : Query → Bool
  | .isLocalAddress _ => true
  | _ => false

def Query.fillsBroadcast : Query → Bool
  | .isLocalBroadcastAddress _ => true
  | _ => false

theorem answer_keeps {query : Query} (hok : answer s query = .ok s') :
    s'.interfaces = s.interfaces ∧
      (query.fillsLocal = false → s'.localAddresses = s.localAddresses) ∧
      (query.fillsBroadcast = false → s'.localBroadcastAddresses = s.localBroadcastAddresses) := by
  cases query with
  | findBestMatchingRoute dest =>
    cases hfound : findBestMatchingRoute dest s with
    | error fault =>
      rw [answer, hfound] at hok
      cases hok
    | ok found =>
      rw [answer, hfound] at hok
      cases hok
      obtain ⟨hinterfaces, hlocal, hbroadcast⟩ := findBestMatchingRoute_local hfound
      exact ⟨hinterfaces, fun _ => hlocal, fun _ => hbroadcast⟩
  | isLocalAddress dest =>
    cases hok
    exact ⟨rfl, fun h => (by cases h), fun _ => rfl⟩
  | isLocalBroadcastAddress dest =>
    cases hasked : isLocalBroadcastAddress dest s with
    | error fault =>
      rw [answer, hasked] at hok
      cases hok
    | ok asked =>
      rw [answer, hasked] at hok
      cases hok
      obtain ⟨addresses, -, hasked⟩ := bind_eq_ok_iff.mp hasked
      cases hasked
      exact ⟨rfl, fun _ => rfl, fun h => (by cases h)⟩

theorem foldlM_answer {queries : List Query} (h : LocalInv s)
    (hok : queries.foldlM answer s = .ok s') :
    LocalInv s' ∧ s'.interfaces = s.interfaces ∧
      (queries.any Query.fillsLocal = false → s'.localAddresses = s.localAddresses) ∧
      (queries.any Query.fillsBroadcast = false →
        s'.localBroadcastAddresses = s.localBroadcastAddresses) := by
  induction queries generalizing s with
  | nil =>
    cases hok
    exact ⟨h, rfl, fun _ => rfl, fun _ => rfl⟩
  | cons query queries ih =>
    rw [List.foldlM_cons] at hok
    obtain ⟨t, ht, hrest⟩ := bind_eq_ok_iff.mp hok
    obtain ⟨hinterfaces, hlocal, hbroadcast⟩ := answer_keeps ht
    obtain ⟨hinv, hinterfaces', hlocal', hbroadcast'⟩ := ih (localInv_answer h ht) hrest
    refine ⟨hinv, hinterfaces'.trans hinterfaces, fun hany => ?_, fun hany => ?_⟩
    · rw [List.any_cons, Bool.or_eq_false_iff] at hany
      rw [hlocal' hany.2, hlocal hany.1]
    · rw [List.any_cons, Bool.or_eq_false_iff] at hany
      rw [hbroadcast' hany.2, hbroadcast hany.1]

/-- The interfaces without one of them. -/
def without (interfaceId : ℕ) (interfaces : List Interface) : List Interface :=
  interfaces.filter fun interface => interface.interfaceId ≠ interfaceId

/-- A set does not keep what only the interface had that leaves: the set is empty then, or
the other interfaces have the same addresses. -/
def Dropped (Has : List Interface → IPv4Address → Prop) (interfaceId : ℕ) (s : State)
    (cleared refilled : Bool) (addresses : List IPv4Address) : Prop :=
  ((cleared = true ∨ addresses = []) ∧ refilled = false) ∨
    ∀ address, Has s.interfaces address → Has (without interfaceId s.interfaces) address

/-- An interface that is deleted leaves no address behind. -/
def Departs (s : State) : Event → Prop
  | .deleteInterface interfaceId _ changed queries =>
    let cleared := changed || s.routes.any (usesInterface interfaceId)
    Dropped HasAddress interfaceId s cleared (queries.any Query.fillsLocal) s.localAddresses ∧
      Dropped HasBroadcastAddress interfaceId s cleared (queries.any Query.fillsBroadcast)
        s.localBroadcastAddresses
  | _ => True

variable {interfaceId : ℕ}

theorem hasAddress_of_without {address : IPv4Address}
    (h : HasAddress (without interfaceId interfaces) address) : HasAddress interfaces address := by
  obtain ⟨interface, hmem, hdata⟩ := h
  exact ⟨interface, List.mem_of_mem_filter hmem, hdata⟩

theorem hasBroadcastAddress_of_without {address : IPv4Address}
    (h : HasBroadcastAddress (without interfaceId interfaces) address) :
    HasBroadcastAddress interfaces address := by
  obtain ⟨interface, hmem, hdata⟩ := h
  exact ⟨interface, List.mem_of_mem_filter hmem, hdata⟩

theorem deleteInterfaceRoutes_local (interfaceId : ℕ) (changed : Bool) (s : State) :
    (deleteInterfaceRoutes interfaceId changed s).interfaces = s.interfaces ∧
      ((changed || s.routes.any (usesInterface interfaceId)) = true →
        (deleteInterfaceRoutes interfaceId changed s).localAddresses = [] ∧
        (deleteInterfaceRoutes interfaceId changed s).localBroadcastAddresses = []) ∧
      ((changed || s.routes.any (usesInterface interfaceId)) = false →
        (deleteInterfaceRoutes interfaceId changed s).localAddresses = s.localAddresses ∧
        (deleteInterfaceRoutes interfaceId changed s).localBroadcastAddresses =
          s.localBroadcastAddresses) := by
  rw [deleteInterfaceRoutes]
  cases hcleared : changed || s.routes.any (usesInterface interfaceId) with
  | true => exact ⟨rfl, fun _ => ⟨rfl, rfl⟩, fun h => (by cases h)⟩
  | false => exact ⟨rfl, fun h => (by cases h), fun _ => ⟨rfl, rfl⟩⟩

theorem localInv_deleteInterfaceRoutes (h : LocalInv s) (interfaceId : ℕ) (changed : Bool) :
    LocalInv (deleteInterfaceRoutes interfaceId changed s) := by
  obtain ⟨hinterfaces, hcleared, hkept⟩ := deleteInterfaceRoutes_local interfaceId changed s
  cases hc : changed || s.routes.any (usesInterface interfaceId) with
  | true => exact ⟨.inl (hcleared hc).1, .inl (hcleared hc).2⟩
  | false => exact h.congr hinterfaces (hkept hc).1 (hkept hc).2

theorem localInv_deleteInterface (h : LocalInv s) {name : String}
    {changed : Bool} {queries : List Query}
    (hdeparts : Departs s (.deleteInterface interfaceId name changed queries))
    (hok : deleteInterface interfaceId name changed queries s = .ok s') : LocalInv s' := by
  rw [deleteInterface] at hok
  split at hok
  · cases hnotify : notifyDeleted interfaceId changed queries s with
    | error fault =>
      rw [hnotify] at hok
      cases hok
    | ok t =>
      rw [hnotify] at hok
      cases hok
      obtain ⟨hinterfaces, hcleared, hkept⟩ := deleteInterfaceRoutes_local interfaceId changed s
      obtain ⟨hinv, hinterfaces', hlocal, hbroadcast⟩ :=
        foldlM_answer (localInv_deleteInterfaceRoutes h interfaceId changed) hnotify
      have hsame : t.interfaces = s.interfaces := hinterfaces'.trans hinterfaces
      obtain ⟨hdropped, hdropped'⟩ := hdeparts
      have hempty : ∀ {refilled : Bool} {addresses addresses' : List IPv4Address},
          ((changed || s.routes.any (usesInterface interfaceId)) = true → addresses' = []) →
          ((changed || s.routes.any (usesInterface interfaceId)) = false → addresses' = addresses) →
          ((changed || s.routes.any (usesInterface interfaceId)) = true ∨ addresses = []) ∧
            refilled = false → addresses' = [] := by
        rintro refilled addresses addresses' hclear hkeep ⟨hc | hnil, -⟩
        · exact hclear hc
        · cases hc : changed || s.routes.any (usesInterface interfaceId) with
          | true => exact hclear hc
          | false => rw [hkeep hc, hnil]
      constructor
      · change Fresh (HasAddress (without interfaceId t.interfaces)) t.localAddresses
        rcases hdropped with hdropped | hothers
        · left
          rw [hlocal hdropped.2]
          exact hempty (fun hc => (hcleared hc).1) (fun hc => (hkept hc).1) hdropped
        · refine hinv.addresses.imp id fun hmem address => ?_
          rw [hmem address, hsame]
          exact ⟨hothers address, hasAddress_of_without⟩
      · change Fresh (fun address => address ≠ 0 ∧
          HasBroadcastAddress (without interfaceId t.interfaces) address) t.localBroadcastAddresses
        rcases hdropped' with hdropped | hothers
        · left
          rw [hbroadcast hdropped.2]
          exact hempty (fun hc => (hcleared hc).2) (fun hc => (hkept hc).2) hdropped
        · refine hinv.broadcasts.imp id fun hmem address => ?_
          rw [hmem address, hsame]
          exact and_congr_right fun _ => ⟨hothers address, hasBroadcastAddress_of_without⟩
  · cases hok

theorem localInv_filter (h : LocalInv s) (routes : List StoredRoute) (changed : Bool) :
    LocalInv (if changed then invalidateCache (s.setRoutes routes) else s.setRoutes routes) := by
  split
  · exact localInv_invalidateCache _
  · exact h.congr rfl rfl rfl

theorem localInv_setField (h : LocalInv s) {id : ℕ} {change : Change}
    (hok : setField par id change s = .ok s') : LocalInv s' := by
  rw [setField] at hok
  cases hfind : findRoute s id with
  | none =>
    simp only [hfind] at hok
    cases hok
    exact h
  | some entry =>
    simp only [hfind] at hok
    split at hok
    · cases hok
      exact h
    · split at hok
      · obtain ⟨t, -, hok⟩ := bind_eq_ok_iff.mp hok
        cases hok
        exact localInv_invalidateCache t
      · cases hok
        exact h.congr rfl rfl rfl

theorem localInv_handle (h : LocalInv s) {event : Event} (hdeparts : Departs s event)
    (hok : handle par s event = .ok s') : LocalInv s' := by
  cases event with
  | query query => exact localInv_answer h hok
  | addRoute route isValid =>
    rw [handle, addRoute] at hok
    obtain ⟨t, -, hok⟩ := bind_eq_ok_iff.mp hok
    cases hok
    exact localInv_invalidateCache _
  | removeRoute id =>
    cases hok
    rw [removeRoute]
    split
    · exact localInv_invalidateCache _
    · exact h
  | purge changed =>
    cases hok
    exact localInv_filter h _ _
  | setField id change => exact localInv_setField h hok
  | setValid id isValid =>
    cases hok
    exact h.congr rfl rfl rfl
  | addInterface name isBroadcast ipv4Data =>
    rw [handle, addInterface] at hok
    split at hok
    · cases hok
    · cases hok
      exact localInv_invalidateCache _
  | deleteInterface interfaceId name changed queries =>
    exact localInv_deleteInterface h hdeparts hok
  | interfaceChanged =>
    cases hok
    exact localInv_invalidateCache _
  | setBroadcast interfaceId isBroadcast =>
    cases hok
    rw [setBroadcast]
    split
    · exact localInv_invalidateCache _
    · exact h
  | setIPv4Data interfaceId ipv4Data | setIPAddress interfaceId ipAddress
  | setNetmask interfaceId netmask | setMetric interfaceId metric =>
    cases hok
    exact localInv_invalidateCache _

end Steps

variable {history : List (Event × State × Unit)}

theorem localInv_run (hrun : Run (· = {}) (StepOf (traced (step par))) history s)
    (hdeparts : Always (fun _ l => Departs l.2.1 l.1) history) : LocalInv s := by
  induction hrun with
  | init hinit =>
    rw [hinit]
    exact ⟨.inl rfl, .inl rfl⟩
  | @step history s s' l hrun hstep ih =>
    obtain ⟨event, before, u⟩ := l
    obtain ⟨rfl, hstep⟩ := traced_eq_some.mp hstep
    rw [step, Option.map_eq_some_iff] at hstep
    obtain ⟨t, ht, heq⟩ := hstep
    cases heq
    exact localInv_handle (ih hdeparts.1) hdeparts.2 (toOption_eq_some.mp ht)

/-- As long as no interface leaves an address behind, the answers follow the interface
table. The unspecified address is nobody's broadcast address, and the data of a broadcast
interface is read without a test. -/
theorem local_addresses_follow (hrun : Run (· = {}) (StepOf (traced (step par))) history s)
    (hdeparts : Always (fun _ l => Departs l.2.1 l.1) history) (dest : IPv4Address) :
    ((isLocalAddress dest s).1 = true ↔ HasAddress s.interfaces dest) ∧
      (dest ≠ 0 → (∀ interface ∈ s.interfaces, interface.isBroadcast = true →
          interface.ipv4Data ≠ none) →
        ∃ b s', isLocalBroadcastAddress dest s = .ok (b, s') ∧
          (b = true ↔ HasBroadcastAddress s.interfaces dest)) := by
  have hinv := localInv_run hrun hdeparts
  refine ⟨(isLocalAddress_iff hinv dest).1, fun hne hdata => ?_⟩
  obtain ⟨b, s', hasked⟩ := isLocalBroadcastAddress_ok hdata dest
  refine ⟨b, s', hasked, (isLocalBroadcastAddress_iff hinv hasked).1.trans ?_⟩
  exact ⟨And.right, fun hhas => ⟨hne, hhas⟩⟩

/-- An interface to which a route pointed. -/
theorem local_addresses_follow_routed : ∃ s history,
    Run (· = {}) (StepOf (traced (step ⟨false, fun _ => true⟩))) history s ∧ history.length = 3 ∧
      ((isLocalAddress 0x0A000001 s).1 = true ↔ HasAddress s.interfaces 0x0A000001) := by
  obtain ⟨s, history, hrun, hlength, hevents⟩ := exists_run_of_execute
    (traced (step ⟨false, fun _ => true⟩)) {}
    [.addInterface "eth0" true (some ⟨0x0A000001, 0xFFFFFF00, 1⟩),
      .query (.isLocalAddress 0x0A000001), .deleteInterface 100 "eth0" false []]
    (fun _ history => history.length = 3 ∧ ∀ l ∈ history,
      (match l.1 with
        | .deleteInterface interfaceId _ changed queries =>
          (changed || l.2.1.routes.any (usesInterface interfaceId)) && queries.isEmpty
        | _ => true) = true) (by decide +kernel)
  have hdeparts : Always (fun _ l => Departs l.2.1 l.1) history := by
    refine always_iff.mpr fun later l earlier heq => ?_
    have hl := hevents l (by simp [heq])
    obtain ⟨event, before, u⟩ := l
    cases event with
    | deleteInterface interfaceId name changed queries =>
      simp only [Bool.and_eq_true, List.isEmpty_iff] at hl
      obtain ⟨hcleared, rfl⟩ := hl
      exact ⟨.inl ⟨.inl hcleared, rfl⟩, .inl ⟨.inl hcleared, rfl⟩⟩
    | _ => trivial
  exact ⟨s, history, hrun, hlength, (local_addresses_follow hrun hdeparts 0x0A000001).1⟩

/-- An interface to which no route pointed: its address stays local when it has left. -/
theorem local_addresses_left_behind : ∃ s history,
    Run (· = {}) (StepOf (traced (step ⟨false, fun _ => true⟩))) history s ∧
      (isLocalAddress 0x0A000001 s).1 = true ∧ ¬HasAddress s.interfaces 0x0A000001 := by
  obtain ⟨s, history, hrun, hlocal, hinterfaces⟩ := exists_run_of_execute
    (traced (step ⟨false, fun _ => true⟩)) {}
    [.addInterface "ppp0" false (some ⟨0x0A000001, 0xFFFFFFFF, 1⟩),
      .query (.isLocalAddress 0x0A000001), .deleteInterface 100 "ppp0" false []]
    (fun s _ => (isLocalAddress 0x0A000001 s).1 = true ∧ s.interfaces = []) (by decide +kernel)
  refine ⟨s, history, hrun, hlocal, ?_⟩
  rintro ⟨interface, hmem, -⟩
  rw [hinterfaces] at hmem
  cases hmem

end inet.IPv4RoutingTable

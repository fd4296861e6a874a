import LoRaInet.NetworkLayer.IPv6.IPv6RoutingTable

open omnetpp container transition

namespace inet.IPv6RoutingTable

open IPv6Route (Change)

inductive Event where
  | addRoute (route : IPv6Route)
  | removeRoute (id : ℕ)
  | deleteRoute (id : ℕ)
  | addOrUpdateOnLinkPrefix (destPrefix : IPv6Address) (prefixLength interfaceId : ℤ) (expiryTime : SimTime)
  | addOrUpdateOwnAdvPrefix (destPrefix : IPv6Address) (prefixLength interfaceId : ℤ) (expiryTime : SimTime)
  | deleteOnLinkPrefix (destPrefix : IPv6Address) (prefixLength : ℤ)
  | change (id : ℕ) (c : Change)
  | interfaceDown (interfaceId : ℤ)
  | determineOutputInterface (destAddress : IPv6Address)

/-- What a call of `determineOutputInterface` found, if the event is one. -/
abbrev Output := Option (IPv6Address × ℤ)

variable (s : IPv6RoutingTable) (now : SimTime)

def handle : Event → Option (IPv6RoutingTable × Output)
  | .addRoute route => some (s.addRoute route, none)
  | .removeRoute id => some (s.removeRoute id, none)
  | .deleteRoute id => some (s.removeRoute id, none)
  | .addOrUpdateOnLinkPrefix destPrefix prefixLength interfaceId expiryTime =>
    some (s.addOrUpdateOnLinkPrefix destPrefix prefixLength interfaceId expiryTime, none)
  | .addOrUpdateOwnAdvPrefix destPrefix prefixLength interfaceId expiryTime =>
    some (s.addOrUpdateOwnAdvPrefix destPrefix prefixLength interfaceId expiryTime, none)
  | .deleteOnLinkPrefix destPrefix prefixLength => some (s.deleteOnLinkPrefix destPrefix prefixLength, none)
  | .change id c => some (s.change id c, none)
  | .interfaceDown interfaceId => some (s.purgeDestCacheForInterfaceID interfaceId, none)
  | .determineOutputInterface destAddress => IPv6.determineOutputInterface s now destAddress

/-- The routing table and the time of the last event. -/
structure Timed where
  now : SimTime
  rt : IPv6RoutingTable

def step (s : Timed) (e : SimTime × Event) : Option (Timed × Output) :=
  if s.now ≤ e.1 then (s.rt.handle e.1 e.2).map fun (rt, output) => (⟨e.1, rt⟩, output) else none

section Use

variable (dest : IPv6Address)

def covers (r : IPv6Route) : Option Bool := dest.matchesPrefix r.destPrefix r.prefixLength

/-- The first route that covers an address, or at which a lookup of it fails. -/
def firstCovering : Option IPv6Route :=
  s.routeList.find? fun r => covers dest r ≠ some false

/-- The entries of the cache that lookups find. -/
def isLive (entry : DestCacheEntry) : Bool := entry.interfaceId ≠ -1 && !entry.expired now

/-- The route is the first one that covers an address in the cache. -/
def inUse (id : ℕ) : Bool :=
  s.destCache.entries.any fun e => isLive now e.2 && (s.firstCovering e.1).any (·.id = id)

def answer (r : IPv6Route) : Option Bool × IPv6Address × Option ℤ × SimTime :=
  (covers dest r, r.nextHop, r.interfacePtr, r.expiryTime)

/-- The first routes that cover the addresses in the cache stay, or others with the same next hop,
interface and expiry time take their places. -/
def keepsFirst (s' : IPv6RoutingTable) : Bool :=
  s.destCache.entries.all fun e =>
    !isLive now e.2 || (s'.firstCovering e.1).map (answer e.1) = (s.firstCovering e.1).map (answer e.1)

/-- The call of a setter gives the route another value. -/
def changes (id : ℕ) (c : Change) : Bool :=
  (s.routeList.find? (·.id = id)).any fun r => !c.isNop r

/-- The update of a prefix does not touch a route in use. -/
def updatesUnused (interfaceId : ℤ) (expiryTime : SimTime) (r : IPv6Route) : Bool :=
  !s.inUse now r.id || !s.changes r.id (.setInterface (s.getInterfaceById interfaceId)) &&
    !s.changes r.id (.setExpiryTime expiryTime)

/-- The event purges the cache, or it neither changes what a route in use says nor puts another route in
its place. -/
def isUndisturbed : Event → Bool
  | .removeRoute id | .deleteRoute id => !s.inUse now id
  | .deleteOnLinkPrefix destPrefix prefixLength =>
    (s.findPrefix .ROUTER_ADVERTISEMENT destPrefix prefixLength).all fun r => !s.inUse now r.id
  | .addOrUpdateOnLinkPrefix destPrefix prefixLength interfaceId expiryTime =>
    (s.findPrefix .ROUTER_ADVERTISEMENT destPrefix prefixLength).all (s.updatesUnused now interfaceId expiryTime)
  | .addOrUpdateOwnAdvPrefix destPrefix prefixLength interfaceId expiryTime =>
    (s.findPrefix .OWN_ADV_PREFIX destPrefix prefixLength).all (s.updatesUnused now interfaceId expiryTime)
  | .change id c =>
    match c.fieldCode with
    | .F_NEXTHOP | .F_IFACE | .F_EXPIRYTIME => !s.inUse now id || !s.changes id c
    | .F_DESTINATION | .F_PREFIX_LENGTH | .F_METRIC => s.keepsFirst now (s.change id c)
    | .F_TYPE | .F_ADMINDIST => true
  | .addRoute _ | .interfaceDown _ | .determineOutputInterface _ => true

end Use

section Scan

variable {now : SimTime} {dest : IPv6Address} {r : IPv6Route}

theorem scan_cons (routes : List IPv6Route) : scan now dest (r :: routes) = match covers dest r with
    | none => none
    | some true =>
      if r.expired now then
        if r.sourceType = .ROUTER_ADVERTISEMENT then scan now dest routes else none
      else some (some r, r :: routes)
    | some false => (scan now dest routes).map fun (found, routes) => (found, r :: routes) := rfl

/-- A lookup stops at the first route that covers the address, if it has not expired. -/
theorem scan_of_find? (hcovers : covers dest r = some true) (hexpired : r.expired now = false) :
    ∀ {routes : List IPv6Route}, routes.find? (covers dest · ≠ some false) = some r →
      scan now dest routes = some (some r, routes) := by
  intro routes
  induction routes with
  | nil => exact nofun
  | cons first routes ih =>
    intro hfind
    rw [scan_cons]
    rw [List.find?_cons] at hfind
    cases hfirst : covers dest first with
    | none =>
      simp only [hfirst] at hfind
      cases hfind
      rw [hcovers] at hfirst
      exact nomatch hfirst
    | some b =>
      cases b with
      | true =>
        simp only [hfirst] at hfind
        cases hfind
        simp [hexpired]
      | false =>
        simp only [hfirst] at hfind
        rw [ih hfind]
        rfl

/-- A lookup only removes routes that have expired, so that the first routes that have not stay. -/
theorem find?_of_scan {d : IPv6Address} (hexpired : r.expired now = false) :
    ∀ {routes routes' : List IPv6Route} {found : Option IPv6Route},
      scan now dest routes = some (found, routes') → routes.find? (covers d · ≠ some false) = some r →
        routes'.find? (covers d · ≠ some false) = some r := by
  intro routes
  induction routes with
  | nil => exact fun _ hfind => nomatch hfind
  | cons first routes ih =>
    intro routes' found hscan hfind
    rw [scan_cons] at hscan
    rw [List.find?_cons] at hfind
    split at hscan
    · exact nomatch hscan
    · split at hscan
      · next hold =>
        split at hscan
        · refine ih hscan ?_
          split at hfind
          · cases hfind
            simp [hexpired] at hold
          · exact hfind
        · exact nomatch hscan
      · cases hscan
        rw [List.find?_cons]
        exact hfind
    · obtain ⟨⟨found', rest⟩, hrest, heq⟩ := Option.map_eq_some_iff.mp hscan
      cases heq
      rw [List.find?_cons]
      split at hfind
      · exact hfind
      · exact ih hrest hfind

theorem scan_found : ∀ {routes routes' : List IPv6Route}, scan now dest routes = some (some r, routes') →
    routes'.find? (covers dest · ≠ some false) = some r ∧ covers dest r = some true ∧ r.expired now = false := by
  intro routes
  induction routes with
  | nil => exact fun hscan => nomatch hscan
  | cons first routes ih =>
    intro routes' hscan
    rw [scan_cons] at hscan
    split at hscan
    · exact nomatch hscan
    · next hcovers =>
      split at hscan
      · split at hscan
        · exact ih hscan
        · exact nomatch hscan
      · next halive =>
        obtain ⟨heq, rfl⟩ := Prod.mk.inj (Option.some.inj hscan)
        cases heq
        refine ⟨?_, hcovers, by simpa using halive⟩
        simp [hcovers]
    · next hcovers =>
      obtain ⟨⟨found', rest⟩, hrest, heq⟩ := Option.map_eq_some_iff.mp hscan
      cases heq
      obtain ⟨hfind, hfound⟩ := ih hrest
      refine ⟨?_, hfound⟩
      rw [List.find?_cons]
      simpa [hcovers] using hfind

end Scan

section Coherent

variable {s s' : IPv6RoutingTable} {now now' : SimTime} {dest : IPv6Address} {entry : DestCacheEntry}

/-- The entry that a lookup makes of a route. -/
def entryOf (dest : IPv6Address) (r : IPv6Route) : DestCacheEntry where
  nextHopAddr := if r.nextHop.isUnspecified then dest else r.nextHop
  interfaceId := r.interfacePtr.getD (-1)
  expiryTime := r.expiryTime

/-- The live entries of the cache are those of the first routes that cover their addresses. -/
def Coherent (s : IPv6RoutingTable) (now : SimTime) : Prop :=
  ∀ dest entry, s.destCache.lookup dest = some entry → 0 ≤ entry.expiryTime ∧ (isLive now entry = true →
    ∃ r, s.firstCovering dest = some r ∧ covers dest r = some true ∧ entry = entryOf dest r)

theorem isLive_of_later (hle : now ≤ now') (h : isLive now' entry = true) : isLive now entry = true := by
  unfold isLive DestCacheEntry.expired at *
  simp only [Bool.and_eq_true, Bool.not_eq_true', Bool.and_eq_false_iff, decide_eq_false_iff_not] at *
  refine ⟨h.1, h.2.imp_right fun hlate hnow => hlate (lt_of_lt_of_le hnow hle)⟩

theorem Coherent.later (h : Coherent s now) (hle : now ≤ now') : Coherent s now' := by
  intro dest entry hentry
  obtain ⟨hnonneg, hlive⟩ := h dest entry hentry
  exact ⟨hnonneg, fun hlater => hlive (isLive_of_later hle hlater)⟩

/-- A table with fewer entries in the cache is coherent if the others keep the answers. -/
theorem Coherent.of_keeps (h : Coherent s now)
    (hcache : ∀ dest entry, s'.destCache.lookup dest = some entry → s.destCache.lookup dest = some entry)
    (hkeeps : ∀ dest entry, s'.destCache.lookup dest = some entry → isLive now entry = true →
      (s'.firstCovering dest).map (answer dest) = (s.firstCovering dest).map (answer dest)) :
    Coherent s' now := by
  intro dest entry hentry
  obtain ⟨hnonneg, hlive⟩ := h dest entry (hcache dest entry hentry)
  refine ⟨hnonneg, fun hislive => ?_⟩
  obtain ⟨r, hfirst, hcovers, rfl⟩ := hlive hislive
  have hsame := hkeeps dest _ hentry hislive
  rw [hfirst] at hsame
  obtain ⟨r', hfirst', hanswer⟩ := Option.map_eq_some_iff.mp hsame
  obtain ⟨hcovers', hnextHop, hinterface, hexpiry⟩ : covers dest r' = covers dest r ∧ r'.nextHop = r.nextHop ∧
      r'.interfacePtr = r.interfacePtr ∧ r'.expiryTime = r.expiryTime := by
    simpa [answer] using hanswer
  exact ⟨r', hfirst', hcovers'.trans hcovers, by simp [entryOf, hnextHop, hinterface, hexpiry]⟩

theorem Coherent.of_empty (hcache : s.destCache = ∅) : Coherent s now := by
  intro dest entry hentry
  rw [hcache] at hentry
  exact nomatch hentry

theorem not_inUse {id : ℕ} (h : s.inUse now id = false) (hentry : s.destCache.lookup dest = some entry)
    (hlive : isLive now entry = true) {r : IPv6Route} (hfirst : s.firstCovering dest = some r) : r.id ≠ id := by
  intro hid
  rw [inUse, List.any_eq_false] at h
  exact h ⟨dest, entry⟩ (Map.mem_entries_iff.mpr hentry) (by simp [hlive, hfirst, hid])

theorem firstCovering_internalRemoveRoute {id : ℕ} {r : IPv6Route} (hfirst : s.firstCovering dest = some r)
    (hid : r.id ≠ id) : (s.internalRemoveRoute id).firstCovering dest = some r := by
  unfold firstCovering internalRemoveRoute at *
  obtain ⟨hcovers, before, after, hroutes, hbefore⟩ := List.find?_eq_some_iff_append.mp hfirst
  refine List.find?_eq_some_iff_append.mpr
    ⟨hcovers, before.filter (·.id ≠ id), after.filter (·.id ≠ id), ?_, fun a ha => ?_⟩
  · rw [hroutes, List.filter_append, List.filter_cons_of_pos (by simpa using hid)]
  · exact hbefore a (List.mem_of_mem_filter ha)

theorem Coherent.internalRemoveRoute (h : Coherent s now) {id : ℕ} (hunused : s.inUse now id = false) :
    Coherent (s.internalRemoveRoute id) now := by
  refine h.of_keeps (fun _ _ hentry => hentry) fun dest entry hentry hlive => ?_
  obtain ⟨r, hfirst, -, -⟩ := (h dest entry hentry).2 hlive
  rw [firstCovering_internalRemoveRoute hfirst (not_inUse hunused hentry hlive hfirst), hfirst]

theorem Coherent.deleteOnLinkPrefix (h : Coherent s now) {destPrefix : IPv6Address} {prefixLength : ℤ}
    (hunused : ∀ r ∈ s.findPrefix .ROUTER_ADVERTISEMENT destPrefix prefixLength, s.inUse now r.id = false) :
    Coherent (s.deleteOnLinkPrefix destPrefix prefixLength) now := by
  unfold IPv6RoutingTable.deleteOnLinkPrefix
  split
  · next r hfind => exact h.internalRemoveRoute (hunused r hfind)
  · exact h

section Change

variable {id : ℕ} {c : Change}

/-- The order of the table does not depend on the field. -/
def isUnordered (c : Change) : Bool :=
  c.fieldCode ≠ .F_DESTINATION && c.fieldCode ≠ .F_PREFIX_LENGTH && c.fieldCode ≠ .F_METRIC

def assign (id : ℕ) (c : Change) (r : IPv6Route) : IPv6Route := if r.id = id then c.apply r else r

theorem change_of_isUnordered (hc : isUnordered c = true) : s.change id c =
    if s.changes id c then { s with routeList := s.routeList.map (assign id c) } else s := by
  unfold change changes
  cases s.routeList.find? (·.id = id) with
  | none => rfl
  | some r =>
    simp only [isUnordered, Bool.and_eq_true, decide_eq_true_eq] at hc
    have hcode : ¬(c.fieldCode = .F_DESTINATION ∨ c.fieldCode = .F_PREFIX_LENGTH ∨ c.fieldCode = .F_METRIC) := by
      simp [hc]
    dsimp only
    rw [Option.any_some, routeChanged, if_neg hcode]
    cases c.isNop r with
    | true | false => rfl

theorem covers_assign (hc : isUnordered c = true) (r : IPv6Route) : covers dest (assign id c r) = covers dest r := by
  unfold assign
  split
  · cases c with
    | setDestination _ | setPrefixLength _ => simp [isUnordered, Change.fieldCode] at hc
    | _ => rfl
  · rfl

theorem id_assign (r : IPv6Route) : (assign id c r).id = r.id := by
  unfold assign
  split
  · cases c <;> rfl
  · rfl

theorem firstCovering_assign (hc : isUnordered c = true) :
    firstCovering { s with routeList := s.routeList.map (assign id c) } dest =
      (s.firstCovering dest).map (assign id c) := by
  unfold firstCovering
  rw [List.find?_map]
  congr 2
  funext r
  simp [covers_assign hc]

theorem inUse_change (hc : isUnordered c = true) (id' : ℕ) : (s.change id c).inUse now id' = s.inUse now id' := by
  rw [change_of_isUnordered hc]
  split
  · unfold inUse
    congr 1
    funext e
    rw [firstCovering_assign hc]
    cases s.firstCovering e.1 with
    | none => rfl
    | some r => simp [id_assign]
  · rfl

theorem Coherent.change (h : Coherent s now) (hc : isUnordered c = true)
    (hunused : s.changes id c = true → s.inUse now id = false) : Coherent (s.change id c) now := by
  rw [change_of_isUnordered hc]
  split
  · next hchanges =>
    refine h.of_keeps (fun _ _ hentry => hentry) fun dest entry hentry hlive => ?_
    obtain ⟨r, hfirst, -, -⟩ := (h dest entry hentry).2 hlive
    rw [firstCovering_assign hc, hfirst, Option.map_some, assign,
      if_neg (not_inUse (hunused hchanges) hentry hlive hfirst)]
  · exact h

/-- The source type and the distance of a route are not part of the answer. -/
theorem Coherent.change_of_kept (h : Coherent s now)
    (hc : c.fieldCode = .F_TYPE ∨ c.fieldCode = .F_ADMINDIST) : Coherent (s.change id c) now := by
  have hunordered : isUnordered c = true := by
    rcases hc with hc | hc
    · simp [isUnordered, hc]
    · simp [isUnordered, hc]
  rw [change_of_isUnordered hunordered]
  split
  · refine h.of_keeps (fun _ _ hentry => hentry) fun dest entry hentry hlive => ?_
    rw [firstCovering_assign hunordered, Option.map_map]
    congr 1
    funext r
    unfold assign
    dsimp only [Function.comp]
    split
    · cases c with
      | setSourceType _ | setAdminDist _ => rfl
      | _ => simp [Change.fieldCode] at hc
    · rfl
  · exact h

theorem Coherent.keepsFirst (h : Coherent s now) (hcache : s'.destCache = s.destCache)
    (hkeeps : s.keepsFirst now s' = true) : Coherent s' now := by
  refine h.of_keeps (fun _ _ hentry => hcache ▸ hentry) fun dest entry hentry hlive => ?_
  rw [IPv6RoutingTable.keepsFirst, List.all_eq_true] at hkeeps
  rw [hcache] at hentry
  have hanswer := hkeeps ⟨dest, entry⟩ (Map.mem_entries_iff.mpr hentry)
  simpa [hlive] using hanswer

theorem destCache_change : (s.change id c).destCache = s.destCache := by
  unfold change
  split
  · rfl
  · split
    · rfl
    · unfold routeChanged
      split
      · rfl
      · rfl

end Change

theorem Coherent.addRoute {route : IPv6Route} : Coherent (s.addRoute route) now := .of_empty rfl

theorem Coherent.addOrUpdatePrefix (h : Coherent s now) {type : SourceType} {destPrefix : IPv6Address}
    {prefixLength interfaceId : ℤ} {expiryTime : SimTime}
    (hunused : (s.findPrefix type destPrefix prefixLength).all (s.updatesUnused now interfaceId expiryTime) = true) :
    Coherent (s.addOrUpdatePrefix type destPrefix prefixLength interfaceId expiryTime) now := by
  unfold IPv6RoutingTable.addOrUpdatePrefix
  split
  · exact .addRoute
  · next r hfind =>
    rw [hfind, Option.all_some, updatesUnused, Bool.or_eq_true, Bool.not_eq_true'] at hunused
    rcases hunused with hunused | hunused
    · apply (h.change rfl fun _ => hunused).change rfl
      intro
      rw [inUse_change rfl]
      exact hunused
    · rw [Bool.and_eq_true, Bool.not_eq_true', Bool.not_eq_true'] at hunused
      obtain ⟨hinterface, hexpiry⟩ := hunused
      have hsame : s.change r.id (.setInterface (s.getInterfaceById interfaceId)) = s := by
        rw [change_of_isUnordered rfl, hinterface]
        rfl
      rw [hsame, change_of_isUnordered rfl, hexpiry]
      exact h

theorem Coherent.purgeDestCacheForInterfaceID (h : Coherent s now) (interfaceId : ℤ) :
    Coherent (s.purgeDestCacheForInterfaceID interfaceId) now := by
  refine h.of_keeps (fun dest entry hentry => ?_) fun _ _ _ _ => rfl
  unfold IPv6RoutingTable.purgeDestCacheForInterfaceID at hentry
  dsimp only at hentry
  rw [Map.lookup_filter] at hentry
  exact (Option.filter_eq_some_iff.mp hentry).1

theorem Coherent.event (h : Coherent s now) {e : Event} (hlookup : ∀ dest, e ≠ .determineOutputInterface dest)
    (hundisturbed : s.isUndisturbed now e = true) {output : Output} (hhandle : s.handle now e = some (s', output)) :
    Coherent s' now := by
  cases e with
  | determineOutputInterface dest => exact absurd rfl (hlookup dest)
  | addRoute route =>
    cases hhandle
    exact .addRoute
  | removeRoute id | deleteRoute id =>
    cases hhandle
    exact h.internalRemoveRoute (by simpa [isUndisturbed] using hundisturbed)
  | deleteOnLinkPrefix destPrefix prefixLength =>
    cases hhandle
    apply h.deleteOnLinkPrefix
    intro r hr
    rw [isUndisturbed, Option.mem_def.mp hr] at hundisturbed
    simpa using hundisturbed
  | addOrUpdateOnLinkPrefix destPrefix prefixLength interfaceId expiryTime
  | addOrUpdateOwnAdvPrefix destPrefix prefixLength interfaceId expiryTime =>
    cases hhandle
    exact h.addOrUpdatePrefix hundisturbed
  | change id c =>
    cases hhandle
    cases c with
    | setDestination _ | setPrefixLength _ | setMetric _ => exact h.keepsFirst destCache_change hundisturbed
    | setSourceType _ => exact h.change_of_kept (.inl rfl)
    | setAdminDist _ => exact h.change_of_kept (.inr rfl)
    | setNextHop _ | setInterface _ | setExpiryTime _ =>
      apply h.change rfl
      intro hchanges
      simpa [isUndisturbed, Change.fieldCode, hchanges] using hundisturbed
  | interfaceDown interfaceId =>
    cases hhandle
    exact h.purgeDestCacheForInterfaceID interfaceId

end Coherent

section Lookup

variable {s s' : IPv6RoutingTable} {now : SimTime} {dest : IPv6Address} {output : Output}

/-- What a lookup in the table gives, without the cache. -/
def nextHopOf (dest : IPv6Address) (r : IPv6Route) : IPv6Address × ℤ :=
  ((entryOf dest r).nextHopAddr, (entryOf dest r).interfaceId)

theorem expired_of_isLive {r : IPv6Route} (hnonneg : 0 ≤ (entryOf dest r).expiryTime)
    (hlive : isLive now (entryOf dest r) = true) : r.expired now = false := by
  rw [isLive, Bool.and_eq_true, Bool.not_eq_true', DestCacheEntry.expired, Bool.and_eq_false_iff,
    decide_eq_false_iff_not, decide_eq_false_iff_not, not_lt] at hlive
  rw [IPv6Route.expired, Bool.and_eq_false_iff, decide_eq_false_iff_not, decide_eq_false_iff_not, not_not]
  rcases hlive.2 with hnever | hearly
  · exact .inr (le_antisymm hnever hnonneg)
  · exact .inl hearly

/-- A lookup in the cache finds a live entry, or it leaves at most the other entries. -/
theorem lookupDestCache_cases (s : IPv6RoutingTable) (now : SimTime) (dest : IPv6Address) :
    (∃ entry, s.destCache.lookup dest = some entry ∧ isLive now entry = true ∧
      s.lookupDestCache now dest = (s, entry.nextHopAddr, entry.interfaceId)) ∨
    ∃ destCache nextHop, (∀ d entry, destCache.lookup d = some entry → s.destCache.lookup d = some entry) ∧
      s.lookupDestCache now dest = ({ s with destCache }, nextHop, -1) := by
  unfold lookupDestCache
  cases hentry : s.destCache.lookup dest with
  | none => exact .inr ⟨s.destCache, _, fun _ _ h => h, rfl⟩
  | some entry =>
    dsimp only
    split
    · refine .inr ⟨s.destCache.erase dest, _, fun d entry h => ?_, rfl⟩
      rw [Map.lookup_erase_eq] at h
      split at h
      · exact nomatch h
      · exact h
    · next hexpired =>
      by_cases hinterface : entry.interfaceId = -1
      · exact .inr ⟨s.destCache, _, fun _ _ h => h, by rw [hinterface]⟩
      · refine .inl ⟨entry, rfl, ?_, rfl⟩
        simp [isLive, hinterface, hexpired]

/-- The cached answer, or the result of a lookup in the table, which is put into the cache. -/
theorem determineOutputInterface_cases
    (hcall : IPv6.determineOutputInterface s now dest = some (s', output)) :
    (∃ entry, s.destCache.lookup dest = some entry ∧ isLive now entry = true ∧ s' = s ∧
      output = some (entry.nextHopAddr, entry.interfaceId)) ∨
    ∃ destCache found routeList, (∀ d entry, destCache.lookup d = some entry → s.destCache.lookup d = some entry) ∧
      scan now dest s.routeList = some (found, routeList) ∧ output = found.map (nextHopOf dest) ∧
        s'.routeList = routeList ∧
          s'.destCache = found.elim destCache fun r => destCache.insert dest (entryOf dest r) := by
  unfold IPv6.determineOutputInterface at hcall
  rcases lookupDestCache_cases s now dest with ⟨entry, hentry, hlive, hlookup⟩ | ⟨destCache, nextHop, hsub, hlookup⟩
  · rw [hlookup] at hcall
    have hinterface : entry.interfaceId ≠ -1 := by
      rw [isLive, Bool.and_eq_true, decide_eq_true_eq] at hlive
      exact hlive.1
    simp only [if_neg hinterface] at hcall
    cases hcall
    exact .inl ⟨entry, hentry, hlive, rfl, rfl⟩
  · rw [hlookup] at hcall
    simp only [if_pos] at hcall
    obtain ⟨⟨rt, found⟩, hmatch, hcall⟩ := Option.bind_eq_some_iff.mp hcall
    obtain ⟨⟨found', routeList⟩, hscan, heq⟩ := Option.map_eq_some_iff.mp hmatch
    obtain ⟨rfl, rfl⟩ := Prod.mk.inj heq
    refine .inr ⟨destCache, found', routeList, hsub, hscan, ?_⟩
    cases found' with
    | none | some r =>
      obtain ⟨rfl, rfl⟩ := Prod.mk.inj (Option.some.inj hcall)
      exact ⟨rfl, rfl, rfl⟩

theorem Coherent.determineOutputInterface (h : Coherent s now) (hnow : 0 ≤ now)
    (hcall : IPv6.determineOutputInterface s now dest = some (s', output)) : Coherent s' now := by
  rcases determineOutputInterface_cases hcall with ⟨-, -, -, rfl, -⟩ |
    ⟨destCache, found, routeList, hsub, hscan, -, hroutes, hcache⟩
  · exact h
  · intro d entry hentry
    rw [hcache] at hentry
    have hold : destCache.lookup d = some entry → 0 ≤ entry.expiryTime ∧ (isLive now entry = true →
        ∃ r, s'.firstCovering d = some r ∧ covers d r = some true ∧ entry = entryOf d r) := by
      intro hentry
      obtain ⟨hnonneg, hlive⟩ := h d entry (hsub d entry hentry)
      refine ⟨hnonneg, fun hislive => ?_⟩
      obtain ⟨r, hfirst, hcovers, rfl⟩ := hlive hislive
      refine ⟨r, ?_, hcovers, rfl⟩
      rw [firstCovering, hroutes]
      exact find?_of_scan (expired_of_isLive hnonneg hislive) hscan hfirst
    cases found with
    | none => exact hold hentry
    | some r =>
      dsimp only [Option.elim] at hentry
      rw [Map.lookup_insert_eq] at hentry
      split at hentry
      · next hd =>
        subst hd
        cases hentry
        obtain ⟨hfirst, hcovers, halive⟩ := scan_found hscan
        refine ⟨?_, fun _ => ⟨r, by rw [firstCovering, hroutes]; exact hfirst, hcovers, rfl⟩⟩
        rw [IPv6Route.expired, Bool.and_eq_false_iff, decide_eq_false_iff_not, decide_eq_false_iff_not, not_lt, not_not] at halive
        rcases halive with hlater | hnever
        · exact hnow.trans hlater
        · exact hnever.ge
      · exact hold hentry

/-- In a coherent table a call gives what a lookup in the table gives. -/
theorem Coherent.answer (h : Coherent s now) {result : IPv6Address × ℤ}
    (hcall : IPv6.determineOutputInterface s now dest = some (s', some result)) :
    ∃ rt r, s.doLongestPrefixMatch now dest = some (rt, some r) ∧ result = nextHopOf dest r := by
  rcases determineOutputInterface_cases hcall with ⟨entry, hentry, hislive, -, houtput⟩ |
    ⟨-, found, routeList, -, hscan, houtput, -⟩
  · obtain ⟨hnonneg, hlive⟩ := h dest entry hentry
    obtain ⟨r, hfirst, hcovers, rfl⟩ := hlive hislive
    have hscan := scan_of_find? hcovers (expired_of_isLive hnonneg hislive) hfirst
    exact ⟨_, r, by rw [doLongestPrefixMatch, hscan]; rfl, Option.some.inj houtput⟩
  · obtain ⟨r, rfl, rfl⟩ := Option.map_eq_some_iff.mp houtput.symm
    exact ⟨_, r, by rw [doLongestPrefixMatch, hscan]; rfl, rfl⟩

end Lookup

def Initial (s : Timed) : Prop := s.now = 0 ∧ s.rt.destCache = ∅

theorem run_coherent {history : List ((SimTime × Event) × (Timed × Output))} {s : Timed}
    (hrun : Run Initial (StepOf (traced step)) history s)
    (hundisturbed : Always (fun _ l => l.2.1.rt.isUndisturbed l.1.1 l.1.2 = true) history) :
    0 ≤ s.now ∧ s.rt.Coherent s.now := by
  induction hrun with
  | init hinit => exact ⟨hinit.1.ge, .of_empty hinit.2⟩
  | @step history s s' l hrun hstep ih =>
    obtain ⟨⟨now, e⟩, before, output⟩ := l
    obtain ⟨rfl, hstep⟩ := traced_eq_some.mp hstep
    obtain ⟨hnonneg, hcoherent⟩ := ih hundisturbed.1
    unfold step at hstep
    split at hstep
    · next hle =>
      obtain ⟨⟨rt, output'⟩, hhandle, heq⟩ := Option.map_eq_some_iff.mp hstep
      cases heq
      have hlater := hcoherent.later hle
      refine ⟨hnonneg.trans hle, ?_⟩
      by_cases hlookup : ∃ dest, e = .determineOutputInterface dest
      · obtain ⟨dest, rfl⟩ := hlookup
        exact hlater.determineOutputInterface (hnonneg.trans hle) hhandle
      · exact hlater.event (fun dest hdest => hlookup ⟨dest, hdest⟩) hundisturbed.2 hhandle
    · exact nomatch hstep

/-- Nothing is sent over a route that a lookup in the table would not give, as long as the routes in use are
left alone by what does not purge the cache. -/
theorem destCache_coherent {history : List ((SimTime × Event) × (Timed × Output))} {s : Timed}
    (hrun : Run Initial (StepOf (traced step)) history s)
    (hundisturbed : Always (fun _ l => l.2.1.rt.isUndisturbed l.1.1 l.1.2 = true) history) :
    ∀ now dest s' result, s.now ≤ now → IPv6.determineOutputInterface s.rt now dest = some (s', some result) →
      ∃ rt r, s.rt.doLongestPrefixMatch now dest = some (rt, some r) ∧ result = nextHopOf dest r :=
  fun _ _ _ _ hle hcall => ((run_coherent hrun hundisturbed).2.later hle).answer hcall

def sampleDefault : IPv6Route :=
  { id := 0, destPrefix := .UNSPECIFIED_ADDRESS, prefixLength := 0, sourceType := .MANUAL,
    interfacePtr := some 100, nextHop := ⟨1, 0, 0, 1⟩, metric := 10, adminDist := 1 }

def samplePrefix : IPv6Route :=
  { id := 0, destPrefix := ⟨2, 0, 0, 0⟩, prefixLength := 64, sourceType := .ROUTER_ADVERTISEMENT,
    interfacePtr := some 101, nextHop := ⟨1, 0, 0, 2⟩, expiryTime := 10, metric := 0, adminDist := 0 }

theorem destCache_coherent_of_two : ∃ history s, Run Initial (StepOf (traced step)) history s ∧
    history.map (·.2.2) = [none, some (⟨1, 0, 0, 1⟩, 100), some (⟨1, 0, 0, 1⟩, 100), none, none,
      some (⟨1, 0, 0, 2⟩, 101), none, some (⟨1, 0, 0, 1⟩, 100), none] ∧
    ∀ now dest s' result, 12 ≤ now → IPv6.determineOutputInterface s.rt now dest = some (s', some result) →
      ∃ rt r, s.rt.doLongestPrefixMatch now dest = some (rt, some r) ∧ result = nextHopOf dest r := by
  have hinitial : Initial ⟨0, { interfaces := [100, 101] }⟩ := ⟨rfl, rfl⟩
  obtain ⟨s, history, hrun, hundisturbed, hnow, houtputs⟩ := @exists_run_of_initial _ _ _ (traced step) Initial _
    hinitial
    [(1, .addRoute sampleDefault), (2, .determineOutputInterface ⟨2, 0, 0, 7⟩), (3, .addRoute samplePrefix),
      (4, .determineOutputInterface ⟨2, 0, 0, 7⟩), (5, .change 0 (.setNextHop ⟨1, 0, 0, 1⟩)),
      (6, .change 1 (.setMetric 5)), (11, .determineOutputInterface ⟨2, 0, 0, 7⟩),
      (12, .determineOutputInterface ⟨2, 0, 0, 7⟩), (12, .interfaceDown 100)]
    (fun s history => Always (fun _ l => l.2.1.rt.isUndisturbed l.1.1 l.1.2 = true) history ∧ s.now = 12 ∧
      history.map (·.2.2) = [none, some (⟨1, 0, 0, 1⟩, 100), some (⟨1, 0, 0, 1⟩, 100), none, none,
        some (⟨1, 0, 0, 2⟩, 101), none, some (⟨1, 0, 0, 1⟩, 100), none])
    (by decide +kernel)
  exact ⟨history, s, hrun, houtputs, fun now dest s' result hle =>
    destCache_coherent hrun hundisturbed now dest s' result (by rw [hnow]; exact hle)⟩

/-- The cache is not purged when a route is deleted or its next hop is changed. -/
theorem not_destCache_coherent :
    (∃ r ∈ execute step ⟨0, { interfaces := [100, 101] }⟩ []
        [(1, .addRoute sampleDefault), (2, .determineOutputInterface ⟨2, 0, 0, 7⟩), (3, .deleteRoute 0)],
      (IPv6.determineOutputInterface r.1.rt 4 ⟨2, 0, 0, 7⟩).map (·.2) = some (some (⟨1, 0, 0, 1⟩, 100)) ∧
        (r.1.rt.doLongestPrefixMatch 4 ⟨2, 0, 0, 7⟩).map (·.2) = some none) ∧
    ∃ r ∈ execute step ⟨0, { interfaces := [100, 101] }⟩ []
        [(1, .addRoute sampleDefault), (2, .determineOutputInterface ⟨2, 0, 0, 7⟩),
          (3, .change 0 (.setNextHop ⟨1, 0, 0, 9⟩))],
      (IPv6.determineOutputInterface r.1.rt 4 ⟨2, 0, 0, 7⟩).map (·.2) = some (some (⟨1, 0, 0, 1⟩, 100)) ∧
        (r.1.rt.doLongestPrefixMatch 4 ⟨2, 0, 0, 7⟩).map (·.2.map (·.nextHop)) = some (some ⟨1, 0, 0, 9⟩) := by
  decide +kernel

end inet.IPv6RoutingTable

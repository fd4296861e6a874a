import LoRaInet.Addressing.Network
import LoRaInet.NetworkLayer.IPv4.IPv4RoutingTable
import LoRaInet.Transition.Run
import Mathlib.Data.List.Perm.Basic
import Mathlib.Data.List.TakeWhile

open omnetpp container addressing

namespace inet.IPv4RoutingTable

variable {par : Parameters} {next : ℕ} {routes : List StoredRoute} {entry : StoredRoute}

/-- The administrative distance, if it counts. -/
def adminKey (par : Parameters) (r : IPv4Route) : ℕ := if par.useAdminDist then r.adminDist else 0

theorem routeLessThan_iff {a b : IPv4Route} : routeLessThan par a b = true ↔
      b.netmask.toNat < a.netmask.toNat ∨ a.netmask.toNat = b.netmask.toNat ∧
        (a.dest.toNat < b.dest.toNat ∨ a.dest.toNat = b.dest.toNat ∧
          (adminKey par a < adminKey par b ∨
            adminKey par a = adminKey par b ∧ a.metric < b.metric)) := by
  rw [routeLessThan, adminKey, adminKey]
  by_cases hnetmask : a.netmask = b.netmask
  · by_cases hdest : a.dest = b.dest
    · cases huse : par.useAdminDist with
      | false => simp [hnetmask, hdest]
      | true =>
        by_cases hadmin : a.adminDist = b.adminDist
        · simp [hnetmask, hdest, hadmin]
        · simp [hnetmask, hdest, hadmin]
    · have hne : a.dest.toNat ≠ b.dest.toNat := fun h => hdest (BitVec.eq_of_toNat_eq h)
      simp [hnetmask, hdest, hne, BitVec.lt_def]
  · have hne : a.netmask.toNat ≠ b.netmask.toNat := fun h => hnetmask (BitVec.eq_of_toNat_eq h)
    simp [hnetmask, hne, BitVec.lt_def]

theorem routeLessThan_asymm {a b : IPv4Route} (h : routeLessThan par a b = true) :
    routeLessThan par b a = false := by
  rw [Bool.eq_false_iff]
  intro h'
  rw [routeLessThan_iff] at h h'
  omega

theorem not_routeLessThan_trans {a b c : IPv4Route} (hba : routeLessThan par b a = false)
    (hcb : routeLessThan par c b = false) : routeLessThan par c a = false := by
  rw [Bool.eq_false_iff] at hba hcb ⊢
  intro hca
  rw [ne_eq, routeLessThan_iff] at hba hcb
  rw [routeLessThan_iff] at hca
  omega

/-- No route comes after a worse one. -/
def Sorted (par : Parameters) (routes : List StoredRoute) : Prop :=
  routes.Pairwise fun a b => routeLessThan par b.route a.route = false

theorem insert_perm (par : Parameters) (entry : StoredRoute) (routes : List StoredRoute) :
    (insert par entry routes).Perm (entry :: routes) := by
  have hsplit := List.takeWhile_append_dropWhile (p := fun r : StoredRoute =>
    !routeLessThan par entry.route r.route) (l := routes)
  rw [insert]
  refine List.perm_middle.trans ?_
  rw [hsplit]

theorem mem_insert {r : StoredRoute} : r ∈ insert par entry routes ↔ r = entry ∨ r ∈ routes := by
  rw [(insert_perm par entry routes).mem_iff, List.mem_cons]

theorem Sorted.insert (h : Sorted par routes) (entry : StoredRoute) :
    Sorted par (insert par entry routes) := by
  obtain ⟨p, hp⟩ : ∃ p : StoredRoute → Bool, p = fun r => !routeLessThan par entry.route r.route :=
    ⟨_, rfl⟩
  have hbefore : ∀ r ∈ routes.takeWhile p, routeLessThan par entry.route r.route = false := by
    intro r hr
    have hpr := List.mem_takeWhile_imp hr
    simpa [hp] using hpr
  have hafter : ∀ r ∈ routes.dropWhile p, routeLessThan par r.route entry.route = false := by
    have hsuffix : (routes.dropWhile p).Pairwise fun a b =>
        routeLessThan par b.route a.route = false := h.sublist (List.dropWhile_sublist p)
    cases hdrop : routes.dropWhile p with
    | nil => intro r hr; cases hr
    | cons first rest =>
      have hfirst : routeLessThan par entry.route first.route = true := by
        have hnot := List.head_dropWhile_not p (l := routes) (by rw [hdrop]; simp)
        simp only [hdrop, List.head_cons] at hnot
        simpa [hp] using hnot
      rw [hdrop] at hsuffix
      intro r hr
      rcases List.mem_cons.mp hr with rfl | hr
      · exact routeLessThan_asymm hfirst
      · exact not_routeLessThan_trans (routeLessThan_asymm hfirst)
          (List.rel_of_pairwise_cons hsuffix hr)
  have hsorted : (routes.takeWhile p ++ routes.dropWhile p).Pairwise fun a b =>
      routeLessThan par b.route a.route = false := by
    rw [List.takeWhile_append_dropWhile]
    exact h
  obtain ⟨htake, hdrop, hacross⟩ := List.pairwise_append.mp hsorted
  rw [Sorted, IPv4RoutingTable.insert, ← hp]
  refine List.pairwise_append.mpr ⟨htake, List.pairwise_cons.mpr ⟨hafter, hdrop⟩, ?_⟩
  intro a ha b hb
  rcases List.mem_cons.mp hb with rfl | hb
  · exact hbefore a ha
  · exact hacross a ha b hb

/-- The stored routes: sorted, each with a destination inside its netmask and an identity of
its own. -/
structure Table (par : Parameters) (next : ℕ) (routes : List StoredRoute) : Prop where
  sorted : Sorted par routes
  inside : ∀ r ∈ routes, Inside r.route.dest r.route.netmask
  ids : (routes.map (·.id)).Nodup
  fresh : ∀ r ∈ routes, r.id < next

theorem Table.filter (h : Table par next routes) (p : StoredRoute → Bool) :
    Table par next (routes.filter p) where
  sorted := List.Pairwise.filter p h.sorted
  inside r hr := h.inside r (List.mem_of_mem_filter hr)
  ids := h.ids.sublist ((List.filter_sublist).map _)
  fresh r hr := h.fresh r (List.mem_of_mem_filter hr)

theorem Table.mono (h : Table par next routes) {next' : ℕ} (hle : next ≤ next') :
    Table par next' routes :=
  ⟨h.sorted, h.inside, h.ids, fun r hr => (h.fresh r hr).trans_le hle⟩

theorem Table.insert (h : Table par next routes) (hinside : Inside entry.route.dest entry.route.netmask)
    (hnew : ∀ r ∈ routes, r.id ≠ entry.id) (hfresh : entry.id < next) :
    Table par next (insert par entry routes) := by
  refine ⟨h.sorted.insert entry, fun r hr => ?_, ?_, fun r hr => ?_⟩
  · rcases mem_insert.mp hr with rfl | hr
    · exact hinside
    · exact h.inside r hr
  · rw [((insert_perm par entry routes).map _).nodup_iff, List.map_cons, List.nodup_cons]
    refine ⟨fun hmem => ?_, h.ids⟩
    obtain ⟨r, hr, heq⟩ := List.mem_map.mp hmem
    exact hnew r hr heq
  · rcases mem_insert.mp hr with rfl | hr
    · exact hfresh
    · exact h.fresh r hr

theorem inside_of_checkRoute {route : IPv4Route} {u : Unit} (h : checkRoute route = .ok u) :
    Inside route.dest route.netmask := by
  rw [checkRoute] at h
  split at h
  · cases h
  · split at h
    · cases h
    · split at h
      · cases h
      · next houtside =>
        rw [not_not] at houtside
        intro k hk
        by_contra hmask
        have hbit := congrArg (fun a => a.getLsbD k) houtside
        have hlt : k < 32 := BitVec.lt_of_getLsbD hk
        rw [BitVec.getLsbD_and, BitVec.getLsbD_not, hk, Bool.eq_false_iff.mpr hmask] at hbit
        simp [hlt] at hbit

theorem inside_netmaskRoute (interface : Interface) (data : IPv4InterfaceData) :
    Inside (netmaskRoute interface data).dest (netmaskRoute interface data).netmask := by
  intro k hk
  simp only [netmaskRoute, BitVec.getLsbD_and, Bool.and_eq_true] at hk ⊢
  exact hk.2

end inet.IPv4RoutingTable

open omnetpp container addressing transition

namespace inet.IPv4RoutingTable

variable {par : Parameters} {s s' : State} {routes : List StoredRoute} {dest : IPv4Address}

/-- A cached answer that the lookup may use: no valid route matches, or none before the
cached one as long as that one is valid. -/
inductive Cached (dest : IPv4Address) (routes : List StoredRoute) : Option ℕ → Prop where
  | none (h : ∀ r ∈ routes, matchesRoute dest r = true → r.isValid = false) :
      Cached dest routes none
  | some (before : List StoredRoute) (r : StoredRoute) (after : List StoredRoute)
      (hroutes : routes = before ++ r :: after) (hmatches : matchesRoute dest r = true)
      (h : r.isValid = true → ∀ q ∈ before, matchesRoute dest q = true → q.isValid = false) :
      Cached dest routes (some r.id)

theorem Cached.map {answer : Option ℕ} (h : Cached dest routes answer)
    (f : StoredRoute → StoredRoute) (hid : ∀ r, (f r).id = r.id)
    (hmatches : ∀ r ∈ routes, matchesRoute dest (f r) = matchesRoute dest r)
    (hvalid : ∀ r ∈ routes, (f r).isValid = r.isValid) :
    Cached dest (routes.map f) answer := by
  cases h with
  | none h =>
    refine .none fun r hr => ?_
    obtain ⟨q, hq, rfl⟩ := List.mem_map.mp hr
    rw [hmatches q hq, hvalid q hq]
    exact h q hq
  | some before r after hroutes hr h =>
    have hmem : r ∈ routes := by rw [hroutes]; simp
    rw [← hid r]
    refine .some (before.map f) (f r) (after.map f) (by rw [hroutes]; simp)
      (by rw [hmatches r hmem, hr]) fun hval q hq => ?_
    obtain ⟨p, hp, rfl⟩ := List.mem_map.mp hq
    have hpmem : p ∈ routes := by rw [hroutes]; simp [hp]
    rw [hmatches p hpmem, hvalid p hpmem]
    rw [hvalid r hmem] at hval
    exact h hval p hp

theorem cached_bestRoute (dest : IPv4Address) (routes : List StoredRoute) :
    Cached dest routes ((bestRoute dest routes).map (·.id)) := by
  cases hbest : bestRoute dest routes with
  | none =>
    rw [bestRoute, List.find?_eq_none] at hbest
    refine .none fun r hr hmatches => ?_
    have hnot := hbest r hr
    rw [hmatches, Bool.and_true] at hnot
    exact Bool.eq_false_iff.mpr hnot
  | some r =>
    rw [bestRoute, List.find?_eq_some_iff_append] at hbest
    obtain ⟨hr, before, after, hroutes, hbefore⟩ := hbest
    rw [Bool.and_eq_true] at hr
    refine .some before r after hroutes hr.2 fun _ q hq hmatches => ?_
    have hnot := hbefore q hq
    rw [hmatches, Bool.and_true, Bool.not_eq_true'] at hnot
    exact hnot

/-- What holds as long as no change goes unnoticed. -/
structure Inv (par : Parameters) (s : State) : Prop where
  table : Table par s.nextRouteId s.routes
  cache : ∀ dest answer, s.routingCache.lookup dest = some answer → Cached dest s.routes answer

theorem inv_invalidateCache (h : Table par s.nextRouteId s.routes) : Inv par (invalidateCache s) :=
  ⟨h, fun dest answer hlookup => by
    have hnone : (∅ : Map IPv4Address (Option ℕ)).lookup dest = none := AList.lookup_empty dest
    have hlookup' : (∅ : Map IPv4Address (Option ℕ)).lookup dest = some answer := hlookup
    rw [hnone] at hlookup'
    cases hlookup'⟩

theorem findRoute_eq (h : (s.routes.map (·.id)).Nodup) {r : StoredRoute} (hr : r ∈ s.routes) :
    findRoute s r.id = some r := by
  cases hfind : findRoute s r.id with
  | none =>
    have hnone := List.find?_eq_none.mp hfind r hr
    simp at hnone
  | some q =>
    have hmem := List.mem_of_find?_eq_some hfind
    have hid := List.find?_some hfind
    rw [decide_eq_true_eq] at hid
    rw [List.inj_on_of_nodup_map h hmem hr hid]

/-- The cache never changes the answer: it is what the scan over the routes finds. -/
theorem findBestMatchingRoute_eq (h : Inv par s) (dest : IPv4Address) :
    ∃ s', findBestMatchingRoute dest s = .ok ((bestRoute dest s.routes).map (·.id), s') ∧
      Inv par s' ∧ s'.routes = s.routes := by
  have hscan : Inv par (s.cacheAnswer dest ((bestRoute dest s.routes).map (·.id))) := by
    refine ⟨h.table, fun d answer hlookup => ?_⟩
    change (s.routingCache.insert dest ((bestRoute dest s.routes).map (·.id))).lookup d =
      some answer at hlookup
    rw [Map.lookup_insert_eq] at hlookup
    split at hlookup
    · next hd =>
      cases hlookup
      rw [hd]
      exact cached_bestRoute dest s.routes
    · exact h.cache d answer hlookup
  cases hcached : s.routingCache.lookup dest with
  | none =>
    refine ⟨_, ?_, hscan, rfl⟩
    rw [findBestMatchingRoute, hcached]
  | some answer =>
    have hanswer := h.cache dest answer hcached
    cases hanswer with
    | none hnone =>
      have hbest : bestRoute dest s.routes = none := by
        rw [bestRoute, List.find?_eq_none]
        intro r hr hand
        rw [Bool.and_eq_true] at hand
        rw [hnone r hr hand.2] at hand
        cases hand.1
      refine ⟨s, ?_, h, rfl⟩
      rw [findBestMatchingRoute, hcached, hbest]
      rfl
    | some before r after hroutes hmatches hbefore =>
      have hmem : r ∈ s.routes := by rw [hroutes]; simp
      have hfind := findRoute_eq h.table.ids hmem
      cases hvalid : r.isValid with
      | false =>
        refine ⟨_, ?_, hscan, rfl⟩
        rw [findBestMatchingRoute, hcached]
        simp only [hfind, hvalid]
        rfl
      | true =>
        have hbest : bestRoute dest s.routes = some r := by
          rw [bestRoute, List.find?_eq_some_iff_append]
          refine ⟨by rw [hvalid, hmatches]; rfl, before, after, hroutes, fun q hq => ?_⟩
          cases hq' : matchesRoute dest q with
          | false => rw [Bool.and_false]; rfl
          | true => rw [hbefore hvalid q hq hq']; rfl
        refine ⟨s, ?_, h, rfl⟩
        rw [findBestMatchingRoute, hcached, hbest]
        simp only [hfind, hvalid]
        rfl

section Steps

theorem table_removeRoute {next : ℕ} (h : Table par next s.routes) (id : ℕ) :
    Table par next (removeRoute id s).routes := by
  rw [removeRoute]
  split
  · exact h.filter _
  · exact h

variable {id : ℕ}

theorem removeRoute_mem {r : StoredRoute} (h : r ∈ (removeRoute id s).routes) : r ∈ s.routes := by
  rw [removeRoute] at h
  split at h
  · exact List.mem_of_mem_filter h
  · exact h

theorem inv_removeRoute (h : Inv par s) (id : ℕ) : Inv par (removeRoute id s) := by
  rw [removeRoute]
  split
  · exact inv_invalidateCache (h.table.filter _)
  · exact h

theorem internalAddRoute_table {entry : StoredRoute} {next : ℕ} (h : Table par next s.routes)
    (hnew : ∀ r ∈ s.routes, r.id ≠ entry.id) (hfresh : entry.id < next)
    (hok : internalAddRoute par entry s = .ok s') :
    Table par next s'.routes ∧ s'.nextRouteId = s.nextRouteId := by
  rw [internalAddRoute] at hok
  obtain ⟨u, hcheck, hok⟩ := bind_eq_ok_iff.mp hok
  cases hok
  have hinside := inside_of_checkRoute hcheck
  have hnext (id : ℕ) : (removeRoute id s).nextRouteId = s.nextRouteId := by
    rw [removeRoute]
    split <;> rfl
  split
  · cases hdefault : getDefaultRoute s.routes with
    | none => exact ⟨h.insert hinside hnew hfresh, rfl⟩
    | some old =>
      exact ⟨(table_removeRoute h old.id).insert hinside (fun r hr => hnew r (removeRoute_mem hr))
        hfresh, hnext old.id⟩
  · exact ⟨h.insert hinside hnew hfresh, rfl⟩

theorem inv_addRoute (h : Inv par s) {route : IPv4Route} {isValid : Bool}
    (hok : addRoute par route isValid s = .ok s') : Inv par s' := by
  rw [addRoute] at hok
  obtain ⟨t, hadd, hok⟩ := bind_eq_ok_iff.mp hok
  cases hok
  obtain ⟨htable, hnext⟩ := internalAddRoute_table (h.table.mono (Nat.le_succ _))
    (fun r hr => (h.table.fresh r hr).ne) (Nat.lt_succ_self _) hadd
  apply inv_invalidateCache
  change Table par (t.nextRouteId + 1) t.routes
  rw [hnext]
  exact htable

variable {change : Change}

theorem change_matches (hkey : change.isKey = false) (r : StoredRoute) :
    (r.change change).route.dest = r.route.dest ∧
      (r.change change).route.netmask = r.route.netmask ∧
      (r.change change).route.metric = r.route.metric := by
  cases change with
  | destination | netmask | metric => cases hkey
  | gateway | interface | sourceType | adminDist => exact ⟨rfl, rfl, rfl⟩

/-- A changed administrative distance leaves the table sorted. -/
def KeepsOrder (par : Parameters) (s : State) (id : ℕ) : Change → Prop
  | .adminDist adminDist => Sorted par (changeRoute id (.adminDist adminDist) s.routes)
  | _ => True

theorem sorted_changeRoute (h : Sorted par s.routes)
    (hkey : change.isKey = false) (hkeeps : KeepsOrder par s id change) :
    Sorted par (changeRoute id change s.routes) := by
  have hsame (hadmin : ∀ r, (change.apply r).adminDist = r.adminDist) :
      Sorted par (changeRoute id change s.routes) := by
    rw [Sorted, changeRoute, List.pairwise_map]
    refine h.imp fun {a b} hab => ?_
    have hlt (a b : StoredRoute) : routeLessThan par
        (if b.id = id then b.change change else b).route
        (if a.id = id then a.change change else a).route = routeLessThan par b.route a.route := by
      have hkeep (r : StoredRoute) : (if r.id = id then r.change change else r).route.dest = r.route.dest ∧
          (if r.id = id then r.change change else r).route.netmask = r.route.netmask ∧
          (if r.id = id then r.change change else r).route.metric = r.route.metric ∧
          (if r.id = id then r.change change else r).route.adminDist = r.route.adminDist := by
        split
        · obtain ⟨hdest, hnetmask, hmetric⟩ := change_matches hkey r
          exact ⟨hdest, hnetmask, hmetric, hadmin r.route⟩
        · exact ⟨rfl, rfl, rfl, rfl⟩
      obtain ⟨hda, hna, hma, haa⟩ := hkeep a
      obtain ⟨hdb, hnb, hmb, hab⟩ := hkeep b
      rw [routeLessThan, routeLessThan, hda, hna, hma, haa, hdb, hnb, hmb, hab]
    rw [hlt a b]
    exact hab
  cases change with
  | destination | netmask | metric => cases hkey
  | gateway | interface | sourceType => exact hsame fun _ => rfl
  | adminDist adminDist => exact hkeeps

theorem inv_changeRoute (h : Inv par s) (hkey : change.isKey = false)
    (hkeeps : KeepsOrder par s id change) :
    Inv par (s.setRoutes (changeRoute id change s.routes)) := by
  have hroute (r : StoredRoute) : (if r.id = id then r.change change else r).id = r.id ∧
      (if r.id = id then r.change change else r).route.dest = r.route.dest ∧
      (if r.id = id then r.change change else r).route.netmask = r.route.netmask ∧
      (if r.id = id then r.change change else r).isValid = r.isValid := by
    split
    · obtain ⟨hdest, hnetmask, -⟩ := change_matches hkey r
      exact ⟨rfl, hdest, hnetmask, rfl⟩
    · exact ⟨rfl, rfl, rfl, rfl⟩
  refine ⟨⟨sorted_changeRoute h.table.sorted hkey hkeeps, fun r hr => ?_, ?_, fun r hr => ?_⟩,
    fun dest answer hlookup => ?_⟩
  · obtain ⟨q, hq, rfl⟩ := List.mem_map.mp hr
    obtain ⟨-, hdest, hnetmask, -⟩ := hroute q
    rw [hdest, hnetmask]
    exact h.table.inside q hq
  · change ((s.routes.map _).map fun r : StoredRoute => r.id).Nodup
    rw [List.map_map]
    have hid : ((·.id) ∘ fun r : StoredRoute => if r.id = id then r.change change else r) =
        (·.id) := funext fun r => (hroute r).1
    rw [hid]
    exact h.table.ids
  · obtain ⟨q, hq, rfl⟩ := List.mem_map.mp hr
    rw [(hroute q).1]
    exact h.table.fresh q hq
  · refine (h.cache dest answer hlookup).map _ (fun r => (hroute r).1) (fun r _ => ?_)
      fun r _ => (hroute r).2.2.2
    obtain ⟨-, hdest, hnetmask, -⟩ := hroute r
    rw [matchesRoute, matchesRoute, hdest, hnetmask]

theorem inv_setField (h : Inv par s)
    (hkeeps : KeepsOrder par s id change) (hok : setField par id change s = .ok s') : Inv par s' := by
  rw [setField] at hok
  cases hfind : findRoute s id with
  | none =>
    simp only [hfind] at hok
    cases hok
    exact h
  | some entry =>
    simp only [hfind] at hok
    have hmem := List.mem_of_find?_eq_some hfind
    have hid := List.find?_some hfind
    rw [decide_eq_true_eq] at hid
    split at hok
    · cases hok
      exact h
    · split at hok
      · obtain ⟨t, hadd, hok⟩ := bind_eq_ok_iff.mp hok
        cases hok
        have htable : Table par s.nextRouteId
            (s.setRoutes (internalRemoveRoute id s.routes)).routes := h.table.filter _
        have hnew : ∀ r ∈ (s.setRoutes (internalRemoveRoute id s.routes)).routes,
            r.id ≠ (entry.change change).id := by
          intro r hr heq
          have hne := (List.mem_filter.mp hr).2
          rw [decide_eq_true_eq] at hne
          exact hne (heq.trans hid)
        obtain ⟨htable', hnext⟩ := internalAddRoute_table htable hnew (h.table.fresh entry hmem) hadd
        apply inv_invalidateCache
        have hnext' : t.nextRouteId = s.nextRouteId := hnext
        rw [hnext']
        exact htable'
      · next hkey =>
        cases hok
        exact inv_changeRoute h (Bool.eq_false_iff.mpr hkey) hkeeps

/-- A route that becomes valid is not hidden by a cached answer: there is none for a
destination that the route matches, or the cached route is valid and before it. -/
def NotHidden (s : State) (id : ℕ) : Bool → Prop
  | false => True
  | true => ∀ dest answer, s.routingCache.lookup dest = some answer →
    (answer = none → ∀ r ∈ s.routes, r.id = id → matchesRoute dest r = false) ∧
    ∀ before r after, s.routes = before ++ r :: after → answer = some r.id →
      (r.isValid = true ∨ r.id = id) → ∀ q ∈ before, (q.isValid = true ∨ q.id = id) →
        matchesRoute dest q = false

theorem inv_setValid (h : Inv par s) {isValid : Bool} (hhidden : NotHidden s id isValid) :
    Inv par (s.setRoutes (setValid id isValid s.routes)) := by
  have hroute (r : StoredRoute) : (if r.id = id then r.setValid isValid else r).id = r.id ∧
      (if r.id = id then r.setValid isValid else r).route = r.route := by
    split <;> exact ⟨rfl, rfl⟩
  have hmatches (dest : IPv4Address) (r : StoredRoute) :
      matchesRoute dest (if r.id = id then r.setValid isValid else r) = matchesRoute dest r := by
    rw [matchesRoute, matchesRoute, (hroute r).2]
  have hvalid (r : StoredRoute)
      (hr : (if r.id = id then r.setValid isValid else r).isValid = true) :
      r.isValid = true ∨ r.id = id := by
    split at hr
    · next hid => exact .inr hid
    · exact .inl hr
  refine ⟨⟨?_, fun r hr => ?_, ?_, fun r hr => ?_⟩, fun dest answer hlookup => ?_⟩
  · change (s.routes.map _).Pairwise _
    rw [List.pairwise_map]
    refine h.table.sorted.imp fun {a b} hab => ?_
    rw [(hroute a).2, (hroute b).2]
    exact hab
  · obtain ⟨q, hq, rfl⟩ := List.mem_map.mp hr
    rw [(hroute q).2]
    exact h.table.inside q hq
  · change ((s.routes.map _).map fun r : StoredRoute => r.id).Nodup
    rw [List.map_map]
    have hid : ((·.id) ∘ fun r : StoredRoute =>
        if r.id = id then r.setValid isValid else r) = (·.id) :=
      funext fun r => (hroute r).1
    rw [hid]
    exact h.table.ids
  · obtain ⟨q, hq, rfl⟩ := List.mem_map.mp hr
    rw [(hroute q).1]
    exact h.table.fresh q hq
  · change Cached dest (s.routes.map _) answer
    cases h.cache dest answer hlookup with
    | none hnone =>
      refine .none fun r hr hrm => ?_
      obtain ⟨q, hq, rfl⟩ := List.mem_map.mp hr
      rw [hmatches] at hrm
      split
      · next hid =>
        cases isValid with
        | false => rfl
        | true =>
          rw [(hhidden dest none hlookup).1 rfl q hq hid] at hrm
          cases hrm
      · exact hnone q hq hrm
    | some before r after hroutes hrm hbefore =>
      have hid := (hroute r).1
      rw [← hid]
      refine .some _ _ _ (by rw [hroutes, List.map_append, List.map_cons]) (by rw [hmatches, hrm])
        fun hrv q hq hqm => ?_
      obtain ⟨p, hp, rfl⟩ := List.mem_map.mp hq
      rw [hmatches] at hqm
      rw [Bool.eq_false_iff]
      intro hpv
      cases isValid with
      | false =>
        have hkeep (x : StoredRoute)
            (hx : (if x.id = id then x.setValid false else x).isValid = true) :
            x.isValid = true := by
          split at hx
          · cases hx
          · exact hx
        have hnot := hbefore (hkeep r hrv) p hp hqm
        rw [hkeep p hpv] at hnot
        cases hnot
      | true =>
        have hnot := (hhidden dest (some r.id) hlookup).2 before r after hroutes rfl (hvalid r hrv) p hp
          (hvalid p hpv)
        rw [hqm] at hnot
        cases hnot

end Steps

end inet.IPv4RoutingTable

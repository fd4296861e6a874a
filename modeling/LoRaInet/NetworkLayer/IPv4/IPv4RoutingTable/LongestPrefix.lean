import LoRaInet.NetworkLayer.IPv4.IPv4RoutingTable.BestRoute

open omnetpp container addressing transition

namespace inet.IPv4RoutingTable

variable {par : Parameters} {s s' : State} {dest : IPv4Address}

theorem Inv.congr (h : Inv par s) (hroutes : s'.routes = s.routes)
    (hcache : s'.routingCache = s.routingCache) (hnext : s'.nextRouteId = s.nextRouteId) :
    Inv par s' := by
  refine ⟨?_, fun dest answer hlookup => ?_⟩
  · rw [hroutes, hnext]
    exact h.table
  · rw [hroutes]
    rw [hcache] at hlookup
    exact h.cache dest answer hlookup

/-- Routes are deleted, and the cache is invalidated when there were any. -/
theorem inv_filter (h : Inv par s) (p : StoredRoute → Bool) (changed : Bool) :
    Inv par (if changed || s.routes.any (fun r => !p r) then
      invalidateCache (s.setRoutes (s.routes.filter p)) else s.setRoutes (s.routes.filter p)) := by
  split
  · exact inv_invalidateCache (h.table.filter p)
  · next hnone =>
    have hall : s.routes.filter p = s.routes := by
      rw [List.filter_eq_self]
      intro r hr
      simp only [Bool.or_eq_true, List.any_eq_true, not_or, not_exists, not_and] at hnone
      simpa using hnone.2 r hr
    rw [hall]
    exact h.congr rfl rfl rfl

theorem inv_purge (h : Inv par s) (changed : Bool) : Inv par (purge changed s) :=
  inv_filter h (·.isValid) changed

theorem inv_deleteInterfaceRoutes (h : Inv par s) (interfaceId : ℕ) (changed : Bool) :
    Inv par (deleteInterfaceRoutes interfaceId changed s) := by
  have hfilter := inv_filter h (fun r => !usesInterface interfaceId r) changed
  simp only [Bool.not_not] at hfilter
  exact hfilter

theorem addNetmaskRoute_table {interface : Interface} (h : Table par s.nextRouteId s.routes) :
    Table par (addNetmaskRoute par interface s).nextRouteId
      (addNetmaskRoute par interface s).routes := by
  rw [addNetmaskRoute]
  cases hdata : interface.ipv4Data with
  | none => exact h
  | some data =>
    dsimp only
    split
    · exact (h.mono (Nat.le_succ _)).insert (inside_netmaskRoute interface data)
        (fun r hr => (h.fresh r hr).ne) (Nat.lt_succ_self _)
    · exact h

theorem inv_updateNetmaskRoutes (h : Inv par s) : Inv par (updateNetmaskRoutes par s) := by
  apply inv_invalidateCache
  have hfold (interfaces : List Interface) (t : State) (ht : Table par t.nextRouteId t.routes) :
      Table par (interfaces.foldl (fun s interface => addNetmaskRoute par interface s) t).nextRouteId
        (interfaces.foldl (fun s interface => addNetmaskRoute par interface s) t).routes := by
    induction interfaces generalizing t with
    | nil => exact ht
    | cons interface interfaces ih => exact ih _ (addNetmaskRoute_table ht)
  exact hfold s.interfaces _ (h.table.filter _)

theorem inv_answer (h : Inv par s) {query : Query} (hok : answer s query = .ok s') : Inv par s' := by
  cases query with
  | findBestMatchingRoute dest =>
    obtain ⟨t, hfound, hinv, -⟩ := findBestMatchingRoute_eq h dest
    rw [answer, hfound] at hok
    cases hok
    exact hinv
  | isLocalAddress dest =>
    cases hok
    exact h.congr rfl rfl rfl
  | isLocalBroadcastAddress dest =>
    rw [answer, isLocalBroadcastAddress] at hok
    cases haddresses : collectBroadcastAddresses s with
    | error fault =>
      rw [haddresses] at hok
      cases hok
    | ok addresses =>
      rw [haddresses] at hok
      cases hok
      exact h.congr rfl rfl rfl

theorem inv_deleteInterface (h : Inv par s) {interfaceId : ℕ} {name : String} {changed : Bool}
    {queries : List Query} (hok : deleteInterface interfaceId name changed queries s = .ok s') :
    Inv par s' := by
  rw [deleteInterface] at hok
  split at hok
  · have hqueries (queries : List Query) (t t' : State) (ht : Inv par t)
        (hfold : queries.foldlM answer t = .ok t') : Inv par t' := by
      induction queries generalizing t with
      | nil =>
        cases hfold
        exact ht
      | cons query queries ih =>
        rw [List.foldlM_cons] at hfold
        obtain ⟨u, hu, hrest⟩ := bind_eq_ok_iff.mp hfold
        exact ih u (inv_answer ht hu) hrest
    cases hnotify : notifyDeleted interfaceId changed queries s with
    | error fault =>
      rw [hnotify] at hok
      cases hok
    | ok t =>
      rw [hnotify] at hok
      cases hok
      exact (hqueries queries _ t (inv_deleteInterfaceRoutes h interfaceId changed) hnotify).congr
        rfl rfl rfl
  · cases hok

/-- A change of a route that the table does not notice leaves its order and the cached
answers right. -/
def Noticed (par : Parameters) (s : State) : Event → Prop
  | .setField id change => KeepsOrder par s id change
  | .setValid id isValid => NotHidden s id isValid
  | _ => True

theorem inv_handle (h : Inv par s) {event : Event} (hnoticed : Noticed par s event)
    (hok : handle par s event = .ok s') : Inv par s' := by
  cases event with
  | query query => exact inv_answer h hok
  | addRoute route isValid => exact inv_addRoute h hok
  | removeRoute id =>
    cases hok
    exact inv_removeRoute h id
  | purge changed =>
    cases hok
    exact inv_purge h changed
  | setField id change => exact inv_setField h hnoticed hok
  | setValid id isValid =>
    cases hok
    exact inv_setValid h hnoticed
  | addInterface name isBroadcast ipv4Data =>
    rw [handle, addInterface] at hok
    split at hok
    · cases hok
    · cases hok
      exact inv_updateNetmaskRoutes (h.congr rfl rfl rfl)
  | deleteInterface interfaceId name changed queries => exact inv_deleteInterface h hok
  | interfaceChanged | setIPv4Data interfaceId ipv4Data =>
    cases hok
    exact inv_invalidateCache h.table
  | setBroadcast interfaceId isBroadcast =>
    cases hok
    rw [setBroadcast]
    split
    · exact inv_invalidateCache h.table
    · exact h
  | setIPAddress interfaceId ipAddress | setNetmask interfaceId netmask
  | setMetric interfaceId metric =>
    cases hok
    exact inv_updateNetmaskRoutes (h.congr rfl rfl rfl)

/-- The route is a best match: a valid one with the longest netmask, and among those with
the smallest administrative distance, if it counts, and then the smallest metric. -/
structure BestMatch (par : Parameters) (dest : IPv4Address) (routes : List StoredRoute)
    (r : StoredRoute) : Prop where
  mem : r ∈ routes
  isValid : r.isValid = true
  matched : matchesRoute dest r = true
  netmask : ∀ q ∈ routes, q.isValid = true → matchesRoute dest q = true →
    q.route.netmask ≤ r.route.netmask ∧ (Contiguous q.route.netmask → Contiguous r.route.netmask →
      Within q.route.netmask r.route.netmask)
  adminDist : ∀ q ∈ routes, q.isValid = true → matchesRoute dest q = true →
    q.route.netmask = r.route.netmask → par.useAdminDist = true →
      r.route.adminDist ≤ q.route.adminDist
  metric : ∀ q ∈ routes, q.isValid = true → matchesRoute dest q = true →
    q.route.netmask = r.route.netmask →
      (par.useAdminDist = true → r.route.adminDist = q.route.adminDist) →
        r.route.metric ≤ q.route.metric

/-- What a lookup may return. -/
inductive IsAnswer (par : Parameters) (dest : IPv4Address) (routes : List StoredRoute) :
    Option ℕ → Prop where
  | none (h : ∀ r ∈ routes, r.isValid = true → matchesRoute dest r = false) :
      IsAnswer par dest routes none
  | some {r : StoredRoute} (h : BestMatch par dest routes r) : IsAnswer par dest routes (some r.id)

/-- Two routes with one netmask that match have the same destination. -/
theorem dest_eq {q r : StoredRoute} (hq : Inside q.route.dest q.route.netmask)
    (hr : Inside r.route.dest r.route.netmask) (hqm : matchesRoute dest q = true)
    (hrm : matchesRoute dest r = true) (hnetmask : q.route.netmask = r.route.netmask) :
    q.route.dest = r.route.dest := by
  rw [matchesRoute, IPv4Address.maskedAddrAreEqual, decide_eq_true_eq] at hqm hrm
  have hqm' : Matches q.route.dest q.route.netmask dest := hqm
  have hrm' : Matches r.route.dest r.route.netmask dest := hrm
  rw [hnetmask] at hq hqm'
  exact Inside.eq hq hr (Matches.of_common (Within.refl _) hqm' hrm')

theorem bestMatch_of_first (h : Table par s.nextRouteId s.routes) {before after : List StoredRoute}
    {r : StoredRoute} (hroutes : s.routes = before ++ r :: after) (hvalid : r.isValid = true)
    (hmatches : matchesRoute dest r = true)
    (hbefore : ∀ q ∈ before, q.isValid = true → matchesRoute dest q = false) :
    BestMatch par dest s.routes r := by
  have hmem : r ∈ s.routes := by rw [hroutes]; simp
  have hnot (q : StoredRoute) (hq : q ∈ s.routes) (hqv : q.isValid = true)
      (hqm : matchesRoute dest q = true) : routeLessThan par q.route r.route = false := by
    rw [hroutes] at hq
    rcases List.mem_append.mp hq with hq | hq
    · rw [hbefore q hq hqv] at hqm
      cases hqm
    · rcases List.mem_cons.mp hq with rfl | hq
      · rw [Bool.eq_false_iff]
        intro hlt
        have hasymm := routeLessThan_asymm hlt
        rw [hlt] at hasymm
        cases hasymm
      · have hsorted := h.sorted
        rw [Sorted, hroutes] at hsorted
        exact List.rel_of_pairwise_cons (List.pairwise_append.mp hsorted).2.1 hq
  have hkeys (q : StoredRoute) (hq : q ∈ s.routes) (hqv : q.isValid = true)
      (hqm : matchesRoute dest q = true) (hnetmask : q.route.netmask = r.route.netmask) :
      adminKey par r.route ≤ adminKey par q.route ∧
        (adminKey par r.route = adminKey par q.route → r.route.metric ≤ q.route.metric) := by
    have hdest := dest_eq (h.inside q hq) (h.inside r hmem) hqm hmatches hnetmask
    have hless := hnot q hq hqv hqm
    rw [Bool.eq_false_iff, ne_eq, routeLessThan_iff, hdest, hnetmask] at hless
    omega
  refine ⟨hmem, hvalid, hmatches, fun q hq hqv hqm => ?_, fun q hq hqv hqm hnetmask huse => ?_,
    fun q hq hqv hqm hnetmask hsame => ?_⟩
  · have hle : q.route.netmask ≤ r.route.netmask := by
      have hless := hnot q hq hqv hqm
      rw [Bool.eq_false_iff, ne_eq, routeLessThan_iff] at hless
      rw [BitVec.le_def]
      omega
    exact ⟨hle, fun hqc hrc => hqc.within_of_le hrc hle⟩
  · have hadmin := (hkeys q hq hqv hqm hnetmask).1
    rw [adminKey, adminKey, if_pos huse, if_pos huse] at hadmin
    exact hadmin
  · refine (hkeys q hq hqv hqm hnetmask).2 ?_
    rw [adminKey, adminKey]
    split
    · next huse => exact hsame huse
    · rfl

theorem isAnswer_bestRoute (h : Table par s.nextRouteId s.routes) (dest : IPv4Address) :
    IsAnswer par dest s.routes ((bestRoute dest s.routes).map (·.id)) := by
  cases hbest : bestRoute dest s.routes with
  | none =>
    rw [bestRoute, List.find?_eq_none] at hbest
    refine .none fun r hr hvalid => ?_
    have hnot := hbest r hr
    rw [hvalid, Bool.true_and] at hnot
    exact Bool.eq_false_iff.mpr hnot
  | some r =>
    rw [bestRoute, List.find?_eq_some_iff_append] at hbest
    obtain ⟨hr, before, after, hroutes, hbefore⟩ := hbest
    rw [Bool.and_eq_true] at hr
    refine .some (bestMatch_of_first h hroutes hr.1 hr.2 fun q hq hvalid => ?_)
    have hnot := hbefore q hq
    rw [hvalid, Bool.true_and, Bool.not_eq_true'] at hnot
    exact hnot

def step (par : Parameters) (s : State) (event : Event) : Option (State × Unit) :=
  (handle par s event).toOption.map fun s' => (s', ())

variable {history : List (Event × State × Unit)}

theorem inv_initial : Inv par {} := by
  refine ⟨⟨List.Pairwise.nil, fun r hr => (by cases hr), List.nodup_nil, fun r hr => (by cases hr)⟩,
    fun dest answer hlookup => ?_⟩
  have hnone : (∅ : Map IPv4Address (Option ℕ)).lookup dest = none := AList.lookup_empty dest
  have hlookup' : (∅ : Map IPv4Address (Option ℕ)).lookup dest = some answer := hlookup
  rw [hnone] at hlookup'
  cases hlookup'

theorem inv_run (hrun : Run (· = {}) (StepOf (traced (step par))) history s)
    (hnoticed : Always (fun _ l => Noticed par l.2.1 l.1) history) : Inv par s := by
  induction hrun with
  | init hinit =>
    rw [hinit]
    exact inv_initial
  | @step history s s' l hrun hstep ih =>
    obtain ⟨event, before, u⟩ := l
    obtain ⟨rfl, hstep⟩ := traced_eq_some.mp hstep
    rw [step, Option.map_eq_some_iff] at hstep
    obtain ⟨t, ht, heq⟩ := hstep
    cases heq
    exact inv_handle (ih hnoticed.1) hnoticed.2 (toOption_eq_some.mp ht)

/-- As long as every change is noticed, a lookup returns a best match, or nothing when no
valid route matches; the cache never changes the answer. -/
theorem lookup_longest_prefix (hrun : Run (· = {}) (StepOf (traced (step par))) history s)
    (hnoticed : Always (fun _ l => Noticed par l.2.1 l.1) history) (dest : IPv4Address) :
    ∃ answer s', findBestMatchingRoute dest s = .ok (answer, s') ∧
      answer = (bestRoute dest s.routes).map (·.id) ∧ IsAnswer par dest s.routes answer := by
  have hinv := inv_run hrun hnoticed
  obtain ⟨s', hfound, -, -⟩ := findBestMatchingRoute_eq hinv dest
  exact ⟨_, s', hfound, rfl, isAnswer_bestRoute hinv.table dest⟩

/-- Events that are noticed in every state. -/
def Event.isPlain : Event → Bool
  | .setField _ (.adminDist _) => false
  | .setValid _ true => false
  | _ => true

theorem noticed_of_isPlain {event : Event} (h : event.isPlain = true) : Noticed par s event := by
  cases event with
  | setField id change => cases change <;> first | trivial | cases h
  | setValid id isValid => cases isValid <;> first | trivial | cases h
  | _ => trivial

/-- A table in which the metric of a route is changed, and a route expires. -/
theorem lookup_longest_prefix_metric : ∃ s history,
    Run (· = {}) (StepOf (traced (step ⟨true, fun _ => true⟩))) history s ∧ history.length = 6 ∧
      ∃ answer s', findBestMatchingRoute 0x0A000001 s = .ok (answer, s') ∧
        answer = (bestRoute 0x0A000001 s.routes).map (·.id) ∧
        IsAnswer ⟨true, fun _ => true⟩ 0x0A000001 s.routes answer := by
  obtain ⟨s, history, hrun, hlength, hplain⟩ := exists_run_of_execute
    (traced (step ⟨true, fun _ => true⟩)) {}
    [.addInterface "eth0" true (some ⟨0x0A000002, 0xFFFF0000, 1⟩),
      .addRoute ⟨0x0A000000, 0xFF000000, 0, some 100, .MANUAL, 1, 5⟩ true,
      .addRoute ⟨0x0A000000, 0xFF000000, 0, some 100, .MANUAL, 1, 7⟩ true,
      .query (.findBestMatchingRoute 0x0A000001), .setField 2 (.metric 1), .setValid 0 false]
    (fun _ history => history.length = 6 ∧ ∀ l ∈ history, l.1.isPlain = true) (by decide +kernel)
  have hnoticed : Always (fun _ l => Noticed ⟨true, fun _ => true⟩ l.2.1 l.1) history :=
    always_iff.mpr fun later l earlier heq => noticed_of_isPlain (hplain l (by simp [heq]))
  exact ⟨s, history, hrun, hlength, lookup_longest_prefix hrun hnoticed 0x0A000001⟩

/-- Two routes to one network; the second one gets the smaller administrative distance, and
the first one is still returned. -/
theorem lookup_not_longest_prefix : ∃ s history,
    Run (· = {}) (StepOf (traced (step ⟨true, fun _ => true⟩))) history s ∧
      ∃ s', findBestMatchingRoute 0x0A000001 s = .ok (some 0, s') ∧
        ¬IsAnswer ⟨true, fun _ => true⟩ 0x0A000001 s.routes (some 0) := by
  obtain ⟨s, history, hrun, hfound, hroutes⟩ := exists_run_of_execute
    (traced (step ⟨true, fun _ => true⟩)) {}
    [.addRoute ⟨0x0A000000, 0xFF000000, 0, some 100, .MANUAL, 1, 5⟩ true,
      .addRoute ⟨0x0A000000, 0xFF000000, 0, some 100, .MANUAL, 2, 5⟩ true,
      .setField 1 (.adminDist 0)]
    (fun s _ => (findBestMatchingRoute 0x0A000001 s).toOption.map (·.1) = some (some 0) ∧
      s.routes = [⟨0, ⟨0x0A000000, 0xFF000000, 0, some 100, .MANUAL, 1, 5⟩, true⟩,
        ⟨1, ⟨0x0A000000, 0xFF000000, 0, some 100, .MANUAL, 0, 5⟩, true⟩]) (by decide +kernel)
  rw [Option.map_eq_some_iff] at hfound
  obtain ⟨⟨answer, s'⟩, hs', rfl⟩ := hfound
  refine ⟨s, history, hrun, s', toOption_eq_some.mp hs', fun hanswer => ?_⟩
  have hbest : ∀ r, r.id = 0 → ¬BestMatch ⟨true, fun _ => true⟩ 0x0A000001 s.routes r := by
    intro r hr hbest
    have hmem := hbest.mem
    have hadmin := hbest.adminDist ⟨1, ⟨0x0A000000, 0xFF000000, 0, some 100, .MANUAL, 0, 5⟩, true⟩
      (by rw [hroutes]; simp) rfl (by decide)
    rw [hroutes] at hmem
    rcases List.mem_cons.mp hmem with rfl | hmem
    · exact absurd (hadmin rfl rfl) (by decide)
    · obtain rfl := List.mem_singleton.mp hmem
      cases hr
  generalize hid : some 0 = id at hanswer
  cases hanswer with
  | none h => cases hid
  | some h => exact hbest _ (Option.some.inj hid).symm h

end inet.IPv4RoutingTable

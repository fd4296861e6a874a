import LoRaInet.Routing.Aodv.AODVRouting
import Mathlib.Data.List.MinMax

open omnetpp container

namespace inet.AODVRouting

variable {A : Type} {s s' : State A}

section Lifetimes

theorem le_nextExpungeTime {routes : List (Route A)} {t : SimTime} :
    (∀ earliest ∈ nextExpungeTime routes, t ≤ earliest) ↔
      ∀ r ∈ routes, ∀ data ∈ r.protocolData, t ≤ data.lifeTime := by
  unfold nextExpungeTime
  constructor
  · intro h r hr data hdata
    have hmem : data.lifeTime ∈ routes.filterMap fun r => r.protocolData.map (·.lifeTime) :=
      List.mem_filterMap.mpr ⟨r, hr, by rw [hdata]; rfl⟩
    obtain ⟨earliest, hearliest⟩ := Option.isSome_iff_exists.mp (List.isSome_min?_of_mem hmem)
    exact (h earliest hearliest).trans ((List.min?_eq_some_iff.mp hearliest).2 _ hmem)
  · intro h earliest hearliest
    obtain ⟨r, hr, hlifeTime⟩ := List.mem_filterMap.mp (List.min?_eq_some_iff.mp hearliest).1
    obtain ⟨data, hdata, rfl⟩ := Option.map_eq_some_iff.mp hlifeTime
    exact h r hr data hdata

/-- The routes of this module have not outlived their lifetimes. -/
def Timely (s : State A) : Prop := ∀ r ∈ s.routes, ∀ data ∈ r.protocolData, s.now ≤ data.lifeTime

/-- The timer is scheduled at the earliest lifetime. -/
structure Settled (s : State A) : Prop where
  timely : Timely s
  expungeTimer : s.expungeTimer = nextExpungeTime s.routes

/-- An operation on the routes leaves the route discoveries alone. -/
structure SameDiscovery (s s' : State A) : Prop where
  now : s'.now = s.now
  rreqCount : s'.rreqCount = s.rreqCount
  rebootTime : s'.rebootTime = s.rebootTime
  waitForRREPTimers : s'.waitForRREPTimers = s.waitForRREPTimers
  addressToRreqRetries : s'.addressToRreqRetries = s.addressToRreqRetries
  delayedPackets : s'.delayedPackets = s.delayedPackets

theorem SameDiscovery.refl (s : State A) : SameDiscovery s s := ⟨rfl, rfl, rfl, rfl, rfl, rfl⟩

theorem SameDiscovery.trans {s'' : State A} (h : SameDiscovery s s') (h' : SameDiscovery s' s'') :
    SameDiscovery s s'' :=
  ⟨h'.now.trans h.now, h'.rreqCount.trans h.rreqCount, h'.rebootTime.trans h.rebootTime,
    h'.waitForRREPTimers.trans h.waitForRREPTimers, h'.addressToRreqRetries.trans h.addressToRreqRetries,
    h'.delayedPackets.trans h.delayedPackets⟩

theorem scheduleExpungeRoutes_returns (h : Timely s) :
    Returns (scheduleExpungeRoutes s) fun s' => Settled s' ∧ SameDiscovery s s' ∧ s'.routes = s.routes := by
  unfold scheduleExpungeRoutes
  split
  · next hnone => exact .ok ⟨⟨h, hnone.symm⟩, ⟨rfl, rfl, rfl, rfl, rfl, rfl⟩, rfl⟩
  · next t hearliest =>
    split
    · next hscheduled => exact .ok ⟨⟨h, by rw [hscheduled, hearliest]⟩, .refl s, rfl⟩
    · have hle : s.now ≤ t := le_nextExpungeTime.mpr h t hearliest
      rw [if_neg (not_lt.mpr hle)]
      exact .ok ⟨⟨h, hearliest.symm⟩, ⟨rfl, rfl, rfl, rfl, rfl, rfl⟩, rfl⟩

theorem sameDiscovery_routes (routes : List (Route A)) (nextRouteId : ℕ) (expungeTimer : Option SimTime) :
    SameDiscovery s { s with routes, nextRouteId, expungeTimer } := ⟨rfl, rfl, rfl, rfl, rfl, rfl⟩

theorem sameDiscovery_setRoute (route : Route A) : SameDiscovery s (setRoute s route) :=
  sameDiscovery_routes _ _ _

theorem timely_setRoute (h : Timely s) {route : Route A} (hroute : ∀ data ∈ route.protocolData, s.now ≤ data.lifeTime) :
    Timely (setRoute s route) := by
  intro r hr data hdata
  obtain ⟨q, hq, rfl⟩ := List.mem_map.mp hr
  split at hdata
  · exact hroute data hdata
  · exact h q hq data hdata

theorem updateRoutingTable_returns (h : Timely s) {route : Route A} {nextHop : A} {hopCount destSeqNum : ℕ}
    {hasValidDestNum isActive : Bool} {lifeTime : SimTime} (hlifeTime : s.now ≤ lifeTime) :
    Returns (updateRoutingTable s route nextHop hopCount hasValidDestNum destSeqNum isActive lifeTime)
      fun s' => Settled s' ∧ SameDiscovery s s' := by
  unfold updateRoutingTable
  refine (scheduleExpungeRoutes_returns (timely_setRoute h ?_)).mono fun s' hs' => ⟨hs'.1, (sameDiscovery_setRoute _).trans hs'.2.1⟩
  rintro data hdata
  cases hdata
  exact hlifeTime

variable {par : Parameters} {env : Environment A}

/-- The table holds what it held before, and the new route. -/
def Environment.IsTable (env : Environment A) : Prop := ∀ r routes, (env.addRoute r routes).Perm (r :: routes)

theorem createRoute_returns (henv : env.IsTable) (h : Timely s) {destAddr nextHop : A} {hopCount destSeqNum : ℕ}
    {hasValidDestNum isActive : Bool} {lifeTime : SimTime} (hlifeTime : s.now ≤ lifeTime) :
    Returns (createRoute s env destAddr nextHop hopCount hasValidDestNum destSeqNum isActive lifeTime)
      fun r => Settled r.1 ∧ SameDiscovery s r.1 := by
  unfold createRoute
  refine .bind (scheduleExpungeRoutes_returns ?_) fun s' hs' =>
    .ok ⟨hs'.1, (sameDiscovery_routes _ _ _).trans hs'.2.1⟩
  intro r hr data hdata
  rcases List.mem_cons.mp ((henv _ _).mem_iff.mp hr) with rfl | hr
  · cases hdata
    exact hlifeTime
  · exact h r hr data hdata

theorem Settled.of_same (h : Settled s) (hnow : s'.now = s.now) (hroutes : s'.routes = s.routes)
    (hexpungeTimer : s'.expungeTimer = s.expungeTimer) : Settled s' := by
  refine ⟨?_, by rw [hexpungeTimer, hroutes, h.expungeTimer]⟩
  unfold Timely
  rw [hroutes, hnow]
  exact h.timely

end Lifetimes

section Replies

variable {par : Parameters} {env : Environment A} {rrep : AODVRREP A} {sourceAddr : A}

/-- What the parameters are meant to be: times and TTLs that make sense. -/
structure Parameters.Valid (par : Parameters) : Prop where
  activeRouteTimeout : 0 ≤ par.activeRouteTimeout
  helloInterval : 0 ≤ par.helloInterval
  nodeTraversalTime : 0 ≤ par.nodeTraversalTime
  netTraversalTime : 0 ≤ par.netTraversalTime
  deletePeriod : 0 ≤ par.deletePeriod
  ttlStart_pos : par.ttlStart ≠ 0
  ttlStart_le : par.ttlStart ≤ par.netDiameter
  ttlIncrement_pos : 0 < par.ttlIncrement

theorem handleHelloMessage_returns (hpar : par.Valid) (henv : env.IsTable) (h : Timely s) :
    Returns (handleHelloMessage par env s rrep) fun s' => Settled s' ∧ SameDiscovery s s' := by
  have hlifeTime : s.now ≤ s.now + par.allowedHelloLoss * par.helloInterval :=
    le_add_of_nonneg_right (mul_nonneg (Nat.cast_nonneg _) hpar.helloInterval)
  unfold handleHelloMessage
  dsimp only
  split
  · exact (createRoute_returns henv h hlifeTime).bind fun _ hs' => .ok hs'
  · exact updateRoutingTable_returns h (hlifeTime.trans (le_max_right _ _))

theorem updatePreviousHopRoute_returns (hpar : par.Valid) (henv : env.IsTable) (h : Timely s) :
    Returns (updatePreviousHopRoute par env s rrep sourceAddr) fun s' => Settled s' ∧ SameDiscovery s s' := by
  have hlifeTime : s.now ≤ s.now + par.activeRouteTimeout := le_add_of_nonneg_right hpar.activeRouteTimeout
  unfold updatePreviousHopRoute
  split
  · exact (createRoute_returns henv h hlifeTime).bind fun _ hs' => .ok hs'
  · exact updateRoutingTable_returns h hlifeTime

theorem updateForwardRoute_returns (henv : env.IsTable) (h : Settled s) (hlifeTime : 0 ≤ rrep.lifeTime)
    {newHopCount : ℕ} :
    Returns (updateForwardRoute env s rrep sourceAddr newHopCount) fun r => Settled r.1 ∧ SameDiscovery s r.1 := by
  have hlater : s.now ≤ s.now + rrep.lifeTime := le_add_of_nonneg_right hlifeTime
  unfold updateForwardRoute
  split
  · exact createRoute_returns henv h.timely hlater
  · split
    · exact (updateRoutingTable_returns h.timely hlater).bind fun _ hs' => .ok hs'
    · exact .ok ⟨h, .refl s⟩

/-- A route whose lifetime is prolonged stays the first one to expire, or was not the only one. -/
def keepsEarliest (s s' : State A) : Bool := nextExpungeTime s'.routes = nextExpungeTime s.routes

theorem Settled.setRoute (h : Settled s) {route : Route A}
    (hroute : ∀ data ∈ route.protocolData, s.now ≤ data.lifeTime)
    (hkeeps : keepsEarliest s (setRoute s route) = true) : Settled (setRoute s route) :=
  ⟨timely_setRoute h.timely hroute, h.expungeTimer.trans (of_decide_eq_true hkeeps).symm⟩

variable {lifeTime : SimTime}

theorem timely_updateValidRouteLifeTime (h : Timely s) {addr : A} (hlifeTime : s.now ≤ lifeTime) :
    Timely (updateValidRouteLifeTime s env addr lifeTime) := by
  unfold updateValidRouteLifeTime
  split
  · exact h
  · split
    · apply timely_setRoute h
      rintro data hdata
      cases hdata
      exact hlifeTime.trans (le_max_right _ _)
    · exact h

theorem sameDiscovery_updateValidRouteLifeTime {addr : A} :
    SameDiscovery s (updateValidRouteLifeTime s env addr lifeTime) := by
  unfold updateValidRouteLifeTime
  split
  · exact .refl s
  · split
    · exact sameDiscovery_setRoute _
    · exact .refl s

theorem expungeTimer_updateValidRouteLifeTime {addr : A} :
    (updateValidRouteLifeTime s env addr lifeTime).expungeTimer = s.expungeTimer := by
  unfold updateValidRouteLifeTime
  split
  · rfl
  · split
    · rfl
    · rfl

variable [DecidableEq A]

theorem timely_expungeLoop (hpar : par.Valid) {routes : List (Route A)}
    (h : ∀ r ∈ routes, ∀ data ∈ r.protocolData, s.now ≤ data.lifeTime) :
    ∀ r ∈ expungeLoop par s routes, ∀ data ∈ r.protocolData, s.now ≤ data.lifeTime := by
  fun_induction expungeLoop par s routes with
  | case1 => exact h
  | case2 route routes _ ih | case7 route routes data _ _ ih =>
    obtain ⟨hroute, hroutes⟩ := List.forall_mem_cons.mp h
    exact List.forall_mem_cons.mpr ⟨hroute, ih hroutes⟩
  | case3 route routes data _ _ _ ih =>
    obtain ⟨-, hroutes⟩ := List.forall_mem_cons.mp h
    refine List.forall_mem_cons.mpr ⟨?_, ih hroutes⟩
    rintro data hdata
    cases hdata
    exact le_add_of_nonneg_right hpar.deletePeriod
  | case4 route routes data _ _ _ _ ih =>
    obtain ⟨-, hroutes⟩ := List.forall_mem_cons.mp h
    refine List.forall_mem_cons.mpr ⟨?_, ih hroutes⟩
    rintro data hdata
    cases hdata
    exact le_add_of_nonneg_right (mul_nonneg zero_le_two hpar.netTraversalTime)
  | case5 => exact fun _ hr => nomatch hr
  | case6 route data _ _ _ _ skipped routes ih =>
    obtain ⟨-, hskipped, hroutes⟩ := List.forall_mem_cons.mp h |>.imp id List.forall_mem_cons.mp
    exact List.forall_mem_cons.mpr ⟨hskipped, ih hroutes⟩

theorem expungeRoutes_returns (hpar : par.Valid) (h : Timely s) :
    Returns (expungeRoutes par s) fun s' => Settled s' ∧ SameDiscovery s s' := by
  unfold expungeRoutes
  have htimely : Timely { s with routes := expungeLoop par s s.routes } := timely_expungeLoop hpar h
  refine (scheduleExpungeRoutes_returns htimely).mono fun s' hs' => ⟨hs'.1, ?_⟩
  exact (sameDiscovery_routes _ _ _).trans hs'.2.1

end Replies

end inet.AODVRouting

import LoRaInet.Routing.Aodv.AODVRouting.ExpungeTimer
import LoRaInet.Transition.Run

open omnetpp container transition

namespace inet.AODVRouting

variable {A : Type} {par : Parameters} {env : Environment A} {s s' : State A}

def ttlsFor [DecidableEq A] (target : A) (actions : List (Action A)) : List ℕ := actions.filterMap fun action =>
  match action with
  | .sendRREQ rreq timeToLive => if rreq.destAddr = target then some timeToLive else none
  | _ => none

def reinjected (actions : List (Action A)) : List (Datagram A) := actions.filterMap fun action =>
  match action with
  | .reinjectQueuedDatagram datagram => some datagram
  | _ => none

def dropped (actions : List (Action A)) : List (Datagram A) := actions.filterMap fun action =>
  match action with
  | .dropQueuedDatagram datagram => some datagram
  | _ => none

theorem reinjected_map (datagrams : List (Datagram A)) :
    reinjected (datagrams.map Action.reinjectQueuedDatagram) = datagrams := by
  unfold reinjected
  rw [List.filterMap_map]
  exact List.filterMap_some

theorem dropped_map (datagrams : List (Datagram A)) :
    dropped (datagrams.map Action.dropQueuedDatagram) = datagrams := by
  unfold dropped
  rw [List.filterMap_map]
  exact List.filterMap_some

/-- The TTLs of the requests of a discovery: below the maximum each is greater than the ones before, and
no more than `rreqRetries` requests are repeated at the maximum. -/
structure Bounded (par : Parameters) (ttls : List ℕ) : Prop where
  ascending : ttls.Pairwise fun a b => a < b ∨ a = par.netDiameter ∧ b = par.netDiameter
  le : ∀ ttl ∈ ttls, ttl ≤ par.netDiameter
  count : ttls.count par.netDiameter ≤ par.rreqRetries + 1

/-- The timer of a discovery and its counter tell what was sent. -/
structure Tracks (par : Parameters) (lastTTL retries : ℕ) (ttls : List ℕ) : Prop where
  ascending : ttls.Pairwise fun a b => a < b ∨ a = par.netDiameter ∧ b = par.netDiameter
  le_last : ∀ ttl ∈ ttls, ttl ≤ lastTTL
  last_le : lastTTL ≤ par.netDiameter
  count : ttls.count par.netDiameter = if lastTTL = par.netDiameter then retries + 1 else 0
  fresh : lastTTL ≠ par.netDiameter → retries = 0
  retries_le : retries ≤ par.rreqRetries

theorem Tracks.bounded {lastTTL retries : ℕ} {ttls : List ℕ} (h : Tracks par lastTTL retries ttls) :
    Bounded par ttls := by
  refine ⟨h.ascending, fun ttl httl => (h.le_last ttl httl).trans h.last_le, ?_⟩
  rw [h.count]
  split
  · exact Nat.succ_le_succ h.retries_le
  · exact Nat.zero_le _

theorem tracks_start (hpar : par.Valid) : Tracks par par.ttlStart 0 [par.ttlStart] := by
  refine ⟨List.pairwise_singleton _ _, by simp, hpar.ttlStart_le, ?_, fun _ => rfl, Nat.zero_le _⟩
  rw [List.count_singleton]
  by_cases heq : par.ttlStart = par.netDiameter
  · simp [heq]
  · simp [heq]

/-- The TTL after a timeout. -/
def nextTTL (par : Parameters) (lastTTL : ℕ) : ℕ :=
  if lastTTL + par.ttlIncrement < par.ttlThreshold then lastTTL + par.ttlIncrement else par.netDiameter

theorem Tracks.next (hpar : par.Valid) {lastTTL retries : ℕ} {ttls : List ℕ} (h : Tracks par lastTTL retries ttls)
    (hretries : retries ≠ par.rreqRetries)
    (hthreshold : lastTTL + par.ttlIncrement < par.ttlThreshold → lastTTL + par.ttlIncrement ≤ par.netDiameter) :
    Tracks par (nextTTL par lastTTL) (if lastTTL = par.netDiameter then retries + 1 else retries)
      (ttls ++ [nextTTL par lastTTL]) := by
  have hlast := h.last_le
  have hpos := hpar.ttlIncrement_pos
  -- the TTL grows until it is the greatest one
  have hgrows : lastTTL < nextTTL par lastTTL ∨ lastTTL = par.netDiameter ∧ nextTTL par lastTTL = par.netDiameter := by
    unfold nextTTL
    split
    · omega
    · omega
  have hle : nextTTL par lastTTL ≤ par.netDiameter := by
    unfold nextTTL
    split
    · next hlt => exact hthreshold hlt
    · exact le_rfl
  have hretriesLe := h.retries_le
  refine ⟨?_, ?_, hle, ?_, ?_, ?_⟩
  · refine List.pairwise_append.mpr ⟨h.ascending, List.pairwise_singleton _ _, fun a ha b hb => ?_⟩
    obtain rfl := List.mem_singleton.mp hb
    have hale := h.le_last a ha
    omega
  · intro ttl httl
    rcases List.mem_append.mp httl with httl | httl
    · have := h.le_last ttl httl
      omega
    · exact (List.mem_singleton.mp httl).le
  · simp only [List.count_append, List.count_singleton, h.count, beq_iff_eq]
    by_cases hmax : lastTTL = par.netDiameter
    · rw [if_pos hmax, if_pos hmax, if_pos (by omega), if_pos (by omega)]
    · have hfresh := h.fresh hmax
      rw [if_neg hmax, if_neg hmax, hfresh, Nat.zero_add, Nat.zero_add]
  · intro hne
    have hne' : lastTTL ≠ par.netDiameter := by omega
    rw [if_neg hne']
    exact h.fresh hne'
  · split
    · omega
    · exact hretriesLe

section Tracking

variable [DecidableEq A] {requests : A → List ℕ} {target : A}

/-- A discovery goes on with the requests that an event sends; a new one begins with them. -/
def nextRequests (before : State A) (actions : List (Action A)) (requests : A → List ℕ) (target : A) : List ℕ :=
  (if hasOngoingRouteDiscovery before target then requests target else []) ++ ttlsFor target actions

/-- The timers of the discoveries are scheduled, each of them has its counter, and the requests are bounded. -/
structure Tracking (par : Parameters) (s : State A) (requests : A → List ℕ) : Prop where
  timers : ∀ target rrepTimer, s.waitForRREPTimers.lookup target = some rrepTimer →
    rrepTimer.destAddr = target ∧ (∃ t, rrepTimer.arrivalTime = some t ∧ s.now ≤ t) ∧
      ∃ retries, s.addressToRreqRetries.lookup target = some retries ∧
        Tracks par rrepTimer.lastTTL retries (requests target)
  bounded : ∀ target, Bounded par (requests target)

/-- No datagram waits for a discovery that is not going on. -/
def Waits (s : State A) : Prop := ∀ datagram ∈ s.delayedPackets, hasOngoingRouteDiscovery s datagram.destinationAddress

theorem bounded_nil : Bounded par [] := ⟨.nil, by simp, by simp⟩

theorem ttlsFor_sendRREQ (rreq : AODVRREQ A) (timeToLive : ℕ) :
    ttlsFor target [.sendRREQ rreq timeToLive] = if rreq.destAddr = target then [timeToLive] else [] := by
  unfold ttlsFor
  by_cases h : rreq.destAddr = target
  · simp [h]
  · simp [h]

theorem Tracking.of_sub (h : Tracking par s requests) {actions : List (Action A)}
    (hactions : ∀ target, ttlsFor target actions = []) (hnow : s'.now = s.now)
    (htimers : ∀ target rrepTimer, s'.waitForRREPTimers.lookup target = some rrepTimer →
      s.waitForRREPTimers.lookup target = some rrepTimer)
    (hretries : s'.addressToRreqRetries = s.addressToRreqRetries) :
    Tracking par s' (nextRequests s actions requests) := by
  unfold nextRequests
  constructor
  · intro target rrepTimer hlookup
    have hbefore := htimers target rrepTimer hlookup
    have hongoing : hasOngoingRouteDiscovery s target = true := by rw [hasOngoingRouteDiscovery, hbefore]; rfl
    rw [if_pos hongoing, hactions, List.append_nil, hnow, hretries]
    exact h.timers target rrepTimer hbefore
  · intro target
    rw [hactions, List.append_nil]
    split
    · exact h.bounded target
    · exact bounded_nil

theorem Tracking.of_same (h : Tracking par s requests) {actions : List (Action A)}
    (hactions : ∀ target, ttlsFor target actions = []) (hsame : SameDiscovery s s') :
    Tracking par s' (nextRequests s actions requests) :=
  h.of_sub hactions hsame.now (fun _ _ hlookup => hsame.waitForRREPTimers ▸ hlookup) hsame.addressToRreqRetries

theorem Waits.of_same (h : Waits s) (hsame : SameDiscovery s s') : Waits s' := by
  unfold Waits hasOngoingRouteDiscovery at *
  rw [hsame.delayedPackets, hsame.waitForRREPTimers]
  exact h

/-- A request is sent, and the timer of its discovery is scheduled. -/
theorem Tracking.sendRREQ {rreq : AODVRREQ A} {rrepTimer : WaitForRREP A} {arrivalTime : SimTime} {retries : ℕ}
    (htimers : ∀ target rrepTimer, target ≠ rreq.destAddr → s.waitForRREPTimers.lookup target = some rrepTimer →
      rrepTimer.destAddr = target ∧ (∃ t, rrepTimer.arrivalTime = some t ∧ s.now ≤ t) ∧
        ∃ retries, s.addressToRreqRetries.lookup target = some retries ∧
          Tracks par rrepTimer.lastTTL retries (requests target))
    (hbounded : ∀ target, Bounded par (requests target)) (hdest : rrepTimer.destAddr = rreq.destAddr)
    (hretries : s.addressToRreqRetries.lookup rreq.destAddr = some retries) (hlater : s.now ≤ arrivalTime)
    {before : State A} (hongoing : ∀ target, target ≠ rreq.destAddr →
      hasOngoingRouteDiscovery before target = hasOngoingRouteDiscovery s target)
    (htracks : Tracks par rrepTimer.lastTTL retries
      (nextRequests before [.sendRREQ rreq rrepTimer.lastTTL] requests rreq.destAddr)) :
    Tracking par { s with waitForRREPTimers := s.waitForRREPTimers.insert rreq.destAddr
                            { rrepTimer with arrivalTime := some arrivalTime }
                          rreqCount := s.rreqCount + 1 }
      (nextRequests before [.sendRREQ rreq rrepTimer.lastTTL] requests) := by
  constructor
  · intro target rrepTimer' hlookup
    dsimp only at hlookup ⊢
    rw [Map.lookup_insert_eq] at hlookup
    split at hlookup
    · next heq =>
      subst heq
      cases hlookup
      exact ⟨hdest, ⟨arrivalTime, rfl, hlater⟩, retries, hretries, htracks⟩
    · next hne =>
      have hnext : nextRequests before [.sendRREQ rreq rrepTimer.lastTTL] requests target = requests target := by
        have hgoes : hasOngoingRouteDiscovery s target = true := by rw [hasOngoingRouteDiscovery, hlookup]; rfl
        rw [nextRequests, ttlsFor_sendRREQ, if_neg (Ne.symm hne), List.append_nil, hongoing target hne, if_pos hgoes]
      rw [hnext]
      exact htimers target rrepTimer' hne hlookup
  · intro target
    by_cases heq : target = rreq.destAddr
    · subst heq
      exact htracks.bounded
    · rw [nextRequests, ttlsFor_sendRREQ, if_neg (Ne.symm heq), List.append_nil]
      split
      · exact hbounded target
      · exact bounded_nil

end Tracking

section Operations

variable [DecidableEq A] {requests : A → List ℕ} {target : A} {actions : List (Action A)}

/-- The routes and the datagrams that wait stay, and the discovery for the target is going on. -/
structure Sends (s s' : State A) (target : A) (actions : List (Action A)) : Prop where
  now : s'.now = s.now
  routes : s'.routes = s.routes
  expungeTimer : s'.expungeTimer = s.expungeTimer
  delayedPackets : s'.delayedPackets = s.delayedPackets
  ongoing : ∀ a, hasOngoingRouteDiscovery s' a = (hasOngoingRouteDiscovery s a || a = target)
  reinjected : reinjected actions = []
  dropped : dropped actions = []

variable {rrepTimer : WaitForRREP A}

theorem sendRREQ_eq (hpar : par.Valid) {rreq : AODVRREQ A} {timeToLive timeToLive' : ℕ}
    (hnext : nextWaitForRREP par s rreq.destAddr timeToLive = .ok (rrepTimer, timeToLive'))
    (hlimit : s.rreqCount < par.rreqRatelimit) (hpos : timeToLive' ≠ 0) :
    ∃ arrivalTime, s.now ≤ arrivalTime ∧ sendRREQ par s rreq timeToLive =
      .ok ({ s with waitForRREPTimers := s.waitForRREPTimers.insert rreq.destAddr
                      { rrepTimer with arrivalTime := some arrivalTime }
                    rreqCount := s.rreqCount + 1 }, [.sendRREQ rreq timeToLive']) := by
  have hlater : s.now ≤ s.now + ringTraversalTime par timeToLive' := by
    apply le_add_of_nonneg_right
    unfold ringTraversalTime
    exact mul_nonneg (mul_nonneg zero_le_two hpar.nodeTraversalTime)
      (add_nonneg (Nat.cast_nonneg _) (Nat.cast_nonneg _))
  refine ⟨_, hlater, ?_⟩
  unfold sendRREQ
  rw [if_neg (not_le.mpr hlimit), hnext]
  dsimp only [bind, Except.bind]
  rw [if_neg (not_lt.mpr hlater)]
  unfold sendAODVPacket
  rw [assert_bind hpos]

variable {rrepTimer : WaitForRREP A}

theorem hasOngoing_insert {dest a : A} {rreqCount : ℕ} :
    hasOngoingRouteDiscovery { s with waitForRREPTimers := s.waitForRREPTimers.insert dest rrepTimer
                                      rreqCount } a = (hasOngoingRouteDiscovery s a || a = dest) := by
  unfold hasOngoingRouteDiscovery
  rw [Map.lookup_insert_eq]
  by_cases h : a = dest
  · simp [h]
  · simp [h]

theorem startRouteDiscovery_returns (hpar : par.Valid) (htracking : Tracking par s requests)
    (hongoing : hasOngoingRouteDiscovery s target = false) (hlimit : s.rreqCount < par.rreqRatelimit)
    (timeToLive : ℕ) :
    Returns (startRouteDiscovery par env s target timeToLive) fun r =>
      Tracking par r.1 (nextRequests s r.2 requests) ∧ Sends s r.1 target r.2 := by
  have hnone : s.waitForRREPTimers.lookup target = none := by simpa [hasOngoingRouteDiscovery] using hongoing
  unfold startRouteDiscovery
  rw [assert_bind hongoing]
  obtain ⟨rreq, hrreq, hdest⟩ : ∃ rreq, createRREQ par env s target =
      ({ s with sequenceNum := s.sequenceNum + 1, rreqId := s.rreqId + 1 }, rreq) ∧ rreq.destAddr = target :=
    ⟨_, rfl, rfl⟩
  rw [hrreq]
  subst hdest
  dsimp only
  have hnext : nextWaitForRREP par { s with sequenceNum := s.sequenceNum + 1, rreqId := s.rreqId + 1,
                                            addressToRreqRetries := s.addressToRreqRetries.insert rreq.destAddr 0 }
      rreq.destAddr timeToLive = .ok (⟨rreq.destAddr, par.ttlStart, false, none⟩, par.ttlStart) := by
    unfold nextWaitForRREP
    dsimp only
    rw [hnone]
  obtain ⟨arrivalTime, hlater, hsend⟩ := sendRREQ_eq hpar hnext hlimit hpar.ttlStart_pos
  rw [hsend]
  refine .ok ⟨Tracking.sendRREQ ?_ htracking.bounded rfl (AList.lookup_insert _) hlater (fun _ _ => rfl) ?_, rfl, rfl,
    rfl, rfl, fun a => hasOngoing_insert, rfl, rfl⟩
  · intro target' rrepTimer hne hlookup
    rw [AList.lookup_insert_ne hne]
    exact htracking.timers target' rrepTimer hlookup
  · rw [nextRequests, hongoing, ttlsFor_sendRREQ, if_pos rfl]
    exact tracks_start hpar

/-- When the timeout of a discovery can be handled as it should be. -/
def repeats (par : Parameters) (s : State A) (rrepTimer : WaitForRREP A) : Bool :=
  s.addressToRreqRetries.lookup rrepTimer.destAddr = some par.rreqRetries ||
    s.rreqCount < par.rreqRatelimit && (rrepTimer.lastTTL + par.ttlIncrement ≥ par.ttlThreshold ||
        rrepTimer.lastTTL + par.ttlIncrement ≤ par.netDiameter)

theorem nextTTL_ne_zero (hpar : par.Valid) (lastTTL : ℕ) : nextTTL par lastTTL ≠ 0 := by
  have hpos := hpar.ttlIncrement_pos
  have hstart := hpar.ttlStart_pos
  have hle := hpar.ttlStart_le
  unfold nextTTL
  split
  · omega
  · omega

/-- What waits for a discovery that ends is let go, and the others stay. -/
theorem endRouteDiscovery_waits (h : ∀ datagram ∈ s.delayedPackets,
    hasOngoingRouteDiscovery s datagram.destinationAddress ∨ datagram.destinationAddress = target) :
    Waits (endRouteDiscovery s target) := by
  intro datagram hdatagram
  obtain ⟨hmem, hne⟩ := List.mem_filter.mp hdatagram
  have hne : datagram.destinationAddress ≠ target := by simpa using hne
  unfold hasOngoingRouteDiscovery endRouteDiscovery
  rw [AList.lookup_erase_ne hne]
  exact (h datagram hmem).resolve_right hne

theorem count_endRouteDiscovery (datagram : Datagram A) : s.delayedPackets.count datagram =
      (endRouteDiscovery s target).delayedPackets.count datagram + (delayedFor s target).count datagram := by
  have hsplit := List.countP_eq_countP_filter_add s.delayedPackets (· == datagram) (·.destinationAddress ≠ target)
  unfold endRouteDiscovery delayedFor
  simpa [List.count] using hsplit

theorem ttlsFor_eq_nil (h : ∀ rreq timeToLive, Action.sendRREQ rreq timeToLive ∉ actions) (target : A) :
    ttlsFor target actions = [] := by
  unfold ttlsFor
  rw [List.filterMap_eq_nil_iff]
  intro action haction
  split
  · exact absurd haction (h _ _)
  · rfl

/-- What an event keeps, with the requests that it sends; each datagram that was queued waits or is let go. -/
structure Handled (par : Parameters) (s s' : State A) (queued : List (Datagram A)) (actions : List (Action A))
    (requests : A → List ℕ) : Prop where
  now : s'.now = s.now
  tracking : Tracking par s' (nextRequests s actions requests)
  waits : Waits s'
  settled : Settled s'
  balance : ∀ datagram, queued.count datagram + s.delayedPackets.count datagram =
    s'.delayedPackets.count datagram + (reinjected actions).count datagram + (dropped actions).count datagram

theorem Handled.of_same (hsame : SameDiscovery s s') (htracking : Tracking par s requests) (hwaits : Waits s)
    (hsettled : Settled s') (hactions : ∀ target, ttlsFor target actions = [])
    (hreinjected : reinjected actions = []) (hdropped : dropped actions = []) :
    Handled par s s' [] actions requests := by
  refine ⟨hsame.now, htracking.of_same hactions hsame, hwaits.of_same hsame, hsettled, fun datagram => ?_⟩
  rw [hreinjected, hdropped, hsame.delayedPackets, List.count_nil]
  omega

/-- The timer of a discovery is no longer scheduled. -/
def stopped (s : State A) (rrepTimer : WaitForRREP A) : State A :=
  { s with waitForRREPTimers := s.waitForRREPTimers.insert rrepTimer.destAddr { rrepTimer with arrivalTime := none } }

theorem hasOngoing_stopped (a : A) : hasOngoingRouteDiscovery (stopped s rrepTimer) a =
      (hasOngoingRouteDiscovery s a || a = rrepTimer.destAddr) := hasOngoing_insert

theorem cancelRouteDiscovery_handled (htracking : Tracking par s requests) (hwaits : Waits s) (hsettled : Settled s)
    (rrepTimer : WaitForRREP A) :
    Returns (cancelRouteDiscovery (stopped s rrepTimer) rrepTimer.destAddr)
      fun r => Handled par s r.1 [] r.2 requests := by
  have hongoing : hasOngoingRouteDiscovery (stopped s rrepTimer) rrepTimer.destAddr = true := by
    simp [hasOngoing_stopped]
  unfold cancelRouteDiscovery
  rw [assert_bind hongoing]
  refine .ok ⟨rfl, htracking.of_sub (ttlsFor_eq_nil (by simp)) rfl ?_ rfl,
    endRouteDiscovery_waits ?_, hsettled.of_same rfl rfl rfl, fun datagram => ?_⟩
  · intro target rrepTimer' hafter
    unfold endRouteDiscovery stopped at hafter
    dsimp only at hafter
    rw [Map.lookup_erase_eq] at hafter
    split at hafter
    · cases hafter
    · next hne => rwa [AList.lookup_insert_ne hne] at hafter
  · intro datagram hdatagram
    refine .inl ?_
    rw [hasOngoing_stopped, hwaits datagram hdatagram, Bool.true_or]
  · have hreinjected : reinjected ((delayedFor (stopped s rrepTimer) rrepTimer.destAddr).map
        Action.dropQueuedDatagram) = [] := by
      simp [reinjected]
    rw [dropped_map, hreinjected, List.count_nil, Nat.zero_add, Nat.add_zero]
    exact @count_endRouteDiscovery _ (stopped s rrepTimer) _ _ datagram

/-- The state in which the request after a timeout is sent: the timer is stopped, and the counter is increased
if the last request had the greatest TTL. -/
structure Repeats (par : Parameters) (s s' : State A) (rrepTimer : WaitForRREP A) (retries : ℕ) : Prop where
  now : s'.now = s.now
  rreqCount : s'.rreqCount = s.rreqCount
  routes : s'.routes = s.routes
  expungeTimer : s'.expungeTimer = s.expungeTimer
  delayedPackets : s'.delayedPackets = s.delayedPackets
  timers : s'.waitForRREPTimers =
    s.waitForRREPTimers.insert rrepTimer.destAddr { rrepTimer with arrivalTime := none }
  counter : s'.addressToRreqRetries.lookup rrepTimer.destAddr =
    some (if rrepTimer.lastTTL = par.netDiameter then retries + 1 else retries)
  others : ∀ a, a ≠ rrepTimer.destAddr → s'.addressToRreqRetries.lookup a = s.addressToRreqRetries.lookup a

variable {retries : ℕ}

theorem handleWaitForRREP_eq
    (hretries : s.addressToRreqRetries.lookup rrepTimer.destAddr = some retries)
    (hmore : retries ≠ par.rreqRetries) :
    ∃ s' rreq, handleWaitForRREP par env (stopped s rrepTimer) rrepTimer = sendRREQ par s' rreq 0 ∧
      rreq.destAddr = rrepTimer.destAddr ∧ Repeats par s s' rrepTimer retries := by
  unfold handleWaitForRREP
  have hsame : (stopped s rrepTimer).addressToRreqRetries = s.addressToRreqRetries := rfl
  rw [hsame, hretries]
  dsimp only
  rw [if_neg hmore]
  refine ⟨_, _, rfl, rfl, ?_⟩
  by_cases hmax : rrepTimer.lastTTL = par.netDiameter
  · rw [if_pos hmax]
    refine ⟨rfl, rfl, rfl, rfl, rfl, rfl, ?_, fun a hne => AList.lookup_insert_ne hne⟩
    rw [if_pos hmax]
    exact AList.lookup_insert _
  · rw [if_neg hmax]
    refine ⟨rfl, rfl, rfl, rfl, rfl, rfl, ?_, fun _ _ => rfl⟩
    rw [if_neg hmax]
    exact hretries

theorem Repeats.nextWaitForRREP (h : Repeats par s s' rrepTimer retries) :
    nextWaitForRREP par s' rrepTimer.destAddr 0 =
      .ok ({ rrepTimer with arrivalTime := none, lastTTL := nextTTL par rrepTimer.lastTTL },
        nextTTL par rrepTimer.lastTTL) := by
  unfold AODVRouting.nextWaitForRREP
  rw [h.timers, AList.lookup_insert]
  rfl

theorem Repeats.hasOngoing (h : Repeats par s s' rrepTimer retries) (a : A) :
    hasOngoingRouteDiscovery s' a = (hasOngoingRouteDiscovery s a || a = rrepTimer.destAddr) := by
  unfold hasOngoingRouteDiscovery
  rw [h.timers, Map.lookup_insert_eq]
  by_cases ha : a = rrepTimer.destAddr
  · simp [ha]
  · simp [ha]

theorem repeatRouteDiscovery_handled (hpar : par.Valid) (htracking : Tracking par s requests) (hwaits : Waits s)
    (hsettled : Settled s)
    (hlookup : s.waitForRREPTimers.lookup rrepTimer.destAddr = some rrepTimer)
    (hretries : s.addressToRreqRetries.lookup rrepTimer.destAddr = some retries)
    (hmore : retries ≠ par.rreqRetries) (hrepeats : repeats par s rrepTimer = true) :
    Returns (handleWaitForRREP par env (stopped s rrepTimer) rrepTimer)
      fun r => Handled par s r.1 [] r.2 requests := by
  obtain ⟨-, -, retries', hretries', htracks⟩ := htracking.timers _ rrepTimer hlookup
  obtain rfl : retries = retries' := Option.some.inj (hretries.symm.trans hretries')
  have hcond : s.rreqCount < par.rreqRatelimit ∧ (rrepTimer.lastTTL + par.ttlIncrement < par.ttlThreshold →
      rrepTimer.lastTTL + par.ttlIncrement ≤ par.netDiameter) := by
    unfold repeats at hrepeats
    rw [hretries] at hrepeats
    simp only [Option.some.injEq, hmore, decide_false, Bool.false_or, Bool.and_eq_true, Bool.or_eq_true,
      decide_eq_true_eq] at hrepeats
    exact ⟨hrepeats.1, fun hlt => hrepeats.2.resolve_left (by omega)⟩
  obtain ⟨hlimit, hthreshold⟩ := hcond
  obtain ⟨next, rreq, hcall, hdest, hnext⟩ := handleWaitForRREP_eq hretries hmore
  rw [hcall]
  rw [← hnext.rreqCount] at hlimit
  have htimer := hnext.nextWaitForRREP
  rw [← hdest] at htimer
  obtain ⟨arrivalTime, hlater, hsend⟩ := sendRREQ_eq hpar htimer hlimit (nextTTL_ne_zero hpar _)
  rw [hsend]
  have hongoing : hasOngoingRouteDiscovery s rreq.destAddr = true := by
    rw [hdest, hasOngoingRouteDiscovery, hlookup]
    rfl
  have htracking' := @Tracking.sendRREQ A par next _ requests rreq
    ⟨rreq.destAddr, nextTTL par rrepTimer.lastTTL, rrepTimer.fromInvalidEntry, none⟩ arrivalTime _
    (by
      intro a rrepTimer' hne hlookup'
      rw [hdest] at hne
      rw [hnext.timers, AList.lookup_insert_ne hne] at hlookup'
      rw [hnext.others a hne, hnext.now]
      exact htracking.timers a rrepTimer' hlookup')
    htracking.bounded rfl (hdest ▸ hnext.counter) hlater s
    (by
      intro a hne
      rw [hdest] at hne
      rw [hnext.hasOngoing, decide_eq_false hne, Bool.or_false])
    (by
      rw [nextRequests, if_pos hongoing, ttlsFor_sendRREQ, if_pos rfl, hdest]
      exact htracks.next hpar hmore hthreshold)
  refine .ok ⟨hnext.now, htracking', ?_, hsettled.of_same hnext.now hnext.routes hnext.expungeTimer,
    fun datagram => ?_⟩
  · intro datagram hdatagram
    have hdatagram : datagram ∈ s.delayedPackets := hnext.delayedPackets ▸ hdatagram
    rw [hasOngoing_insert, hnext.hasOngoing, hwaits datagram hdatagram]
    rfl
  · have hreinjected : reinjected [Action.sendRREQ rreq (nextTTL par rrepTimer.lastTTL)] = [] := rfl
    have hdropped : dropped [Action.sendRREQ rreq (nextTTL par rrepTimer.lastTTL)] = [] := rfl
    rw [hreinjected, hdropped, List.count_nil, hnext.delayedPackets]
    omega

theorem handleWaitForRREP_handled (hpar : par.Valid) (htracking : Tracking par s requests) (hwaits : Waits s)
    (hsettled : Settled s)
    (hlookup : s.waitForRREPTimers.lookup target = some rrepTimer) (hrepeats : repeats par s rrepTimer = true) :
    Returns (handleWaitForRREP par env (stopped s rrepTimer) rrepTimer)
      fun r => Handled par s r.1 [] r.2 requests := by
  obtain ⟨rfl, -, retries, hretries, -⟩ := htracking.timers target rrepTimer hlookup
  by_cases hmore : retries = par.rreqRetries
  · unfold handleWaitForRREP
    have hsame : (stopped s rrepTimer).addressToRreqRetries = s.addressToRreqRetries := rfl
    rw [hsame, hretries]
    dsimp only
    rw [if_pos hmore]
    exact cancelRouteDiscovery_handled htracking hwaits hsettled rrepTimer
  · exact repeatRouteDiscovery_handled hpar htracking hwaits hsettled hlookup hretries hmore hrepeats

end Operations

end inet.AODVRouting

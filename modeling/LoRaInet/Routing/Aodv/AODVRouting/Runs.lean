import LoRaInet.Routing.Aodv.AODVRouting.Discovery

open omnetpp container transition

namespace inet.AODVRouting

variable {A : Type} [DecidableEq A] {par : Parameters} {env : Environment A} {s s' : State A}
  {requests : A → List ℕ}

section Datagrams

variable (par : Parameters) (env : Environment A)

/-- The node has nothing to do with the route of the datagram. -/
def isAccepted (datagram : Datagram A) : Bool :=
  env.isBroadcast datagram.destinationAddress || env.isLocalAddress datagram.destinationAddress ||
    env.isMulticast datagram.destinationAddress

/-- The table after a datagram has used the route. -/
def prolonged (s : State A) (destAddr : A) (route : Option (Route A)) : State A :=
  let lifeTime := s.now + par.activeRouteTimeout
  updateValidRouteLifeTime (updateValidRouteLifeTime s env destAddr lifeTime) env
    (route.elim destAddr (·.nextHop)) lifeTime

/-- A route that the datagram uses stays the first one to expire if it was, and a request that is needed for
it is within the limit. -/
def isRouted (s : State A) (datagram : Datagram A) : Bool :=
  let route := env.findBestMatchingRoute s.routes datagram.destinationAddress
  isAccepted env datagram ||
    if isUsable env route then keepsEarliest s (prolonged par env s datagram.destinationAddress route)
    else !(env.isUnspecified datagram.sourceAddress || env.isLocalAddress datagram.sourceAddress) ||
      hasOngoingRouteDiscovery s datagram.destinationAddress || s.rreqCount < par.rreqRatelimit

end Datagrams

theorem ensureRouteForDatagram_handled (hpar : par.Valid) (htracking : Tracking par s requests) (hwaits : Waits s)
    (hsettled : Settled s) {datagram : Datagram A} (hrouted : isRouted par env s datagram = true) :
    Returns (ensureRouteForDatagram par env s datagram) fun r =>
      Handled par s r.1 (if r.2.1 = .QUEUE then [datagram] else []) r.2.2 requests := by
  have hsame : Handled par s s [] [] requests :=
    .of_same (.refl s) htracking hwaits hsettled (fun _ => rfl) rfl rfl
  unfold isRouted at hrouted
  unfold ensureRouteForDatagram
  dsimp only at hrouted ⊢
  split
  · exact .ok hsame
  · next haccepted =>
    rw [Bool.or_eq_true] at hrouted
    have hrouted := hrouted.resolve_left haccepted
    split
    · next husable =>
      rw [if_pos husable] at hrouted
      have hlater : s.now ≤ s.now + par.activeRouteTimeout := le_add_of_nonneg_right hpar.activeRouteTimeout
      have hdest := @sameDiscovery_updateValidRouteLifeTime A s env (s.now + par.activeRouteTimeout)
        datagram.destinationAddress
      refine .ok (.of_same (hdest.trans sameDiscovery_updateValidRouteLifeTime) htracking hwaits ⟨?_, ?_⟩
        (fun _ => rfl) rfl rfl)
      · apply timely_updateValidRouteLifeTime (timely_updateValidRouteLifeTime hsettled.timely hlater)
        rw [hdest.now]
        exact hlater
      · rw [expungeTimer_updateValidRouteLifeTime, expungeTimer_updateValidRouteLifeTime, hsettled.expungeTimer]
        exact (of_decide_eq_true hrouted).symm
    · next husable =>
      rw [if_neg husable] at hrouted
      split
      · next hsource =>
        rw [hsource, Bool.not_true, Bool.false_or, Bool.or_eq_true, decide_eq_true_eq] at hrouted
        have htracking1 : Tracking par (delayDatagram s datagram) requests := ⟨htracking.timers, htracking.bounded⟩
        have hbalance (d : Datagram A) : [datagram].count d + s.delayedPackets.count d =
            (delayDatagram s datagram).delayedPackets.count d := by
          unfold delayDatagram
          rw [List.count_append, Nat.add_comm]
        split
        · next hongoing =>
          refine .ok ⟨rfl, htracking.of_sub (fun _ => rfl) rfl (fun _ _ h => h) rfl, ?_,
            hsettled.of_same rfl rfl rfl, fun d => ?_⟩
          · intro d hd
            rcases List.mem_append.mp hd with hd | hd
            · exact hwaits d hd
            · obtain rfl := List.mem_singleton.mp hd
              exact hongoing
          · have hreinjected : reinjected ([] : List (Action A)) = [] := rfl
            have hdropped : dropped ([] : List (Action A)) = [] := rfl
            rw [if_pos rfl, hbalance d, hreinjected, hdropped, List.count_nil, Nat.add_zero]
        · next hongoing =>
          have hidle : hasOngoingRouteDiscovery (delayDatagram s datagram) datagram.destinationAddress = false :=
            Bool.eq_false_iff.mpr hongoing
          refine (startRouteDiscovery_returns hpar htracking1 hidle (hrouted.resolve_left hongoing) _).bind ?_
          rintro ⟨s', actions⟩ ⟨htracking', hsends⟩
          refine .ok ⟨hsends.now, htracking', ?_,
            hsettled.of_same hsends.now hsends.routes hsends.expungeTimer, fun d => ?_⟩
          · intro d hd
            rw [hsends.delayedPackets] at hd
            rw [hsends.ongoing, Bool.or_eq_true]
            rcases List.mem_append.mp hd with hd | hd
            · exact .inl (hwaits d hd)
            · obtain rfl := List.mem_singleton.mp hd
              exact .inr (decide_eq_true rfl)
          · dsimp only
            rw [if_pos rfl, hbalance d, hsends.delayedPackets, hsends.reinjected, hsends.dropped, List.count_nil,
              Nat.add_zero]
      · exact .ok hsame

section Replies

variable (par : Parameters) (env : Environment A)

/-- The table after the routes to the previous hop and to the destination of a reply have been updated. -/
def updated (s : State A) (rrep : AODVRREP A) (sourceAddr : A) : Option (State A) :=
  ((updatePreviousHopRoute par env s rrep sourceAddr >>= fun s =>
    updateForwardRoute env s rrep sourceAddr (rrep.hopCount + 1)).map (·.1)).toOption

/-- The route to the originator of a reply that is passed on stays the first one to expire if it was, and the
lifetime of the reply is one. -/
def isReplied (s : State A) (rrep : AODVRREP A) (sourceAddr : A) : Bool :=
  env.isUnspecified rrep.originatorAddr || 0 ≤ rrep.lifeTime &&
    (env.selfIPAddress = rrep.originatorAddr || (updated par env s rrep sourceAddr).all fun s =>
      (findRoute s env rrep.originatorAddr).all fun (route, data) => keepsEarliest s <| setRoute s { route with
        protocolData := some { data with lifeTime := max (s.now + par.activeRouteTimeout) data.lifeTime } })

end Replies

theorem forwardOrComplete_handled (hpar : par.Valid) (htracking : Tracking par s requests) (hwaits : Waits s)
    (hsettled : Settled s) {rrep : AODVRREP A} (hlifeTime : 0 ≤ rrep.lifeTime)
    (hkeeps : env.selfIPAddress = rrep.originatorAddr ∨ ∀ route data,
      findRoute s env rrep.originatorAddr = some (route, data) → keepsEarliest s (setRoute s { route with
        protocolData := some { data with lifeTime := max (s.now + par.activeRouteTimeout) data.lifeTime } }) = true)
    (sourceAddr : A) (newHopCount : ℕ) (destRoute : Route A) :
    Returns (forwardOrComplete par env s rrep sourceAddr newHopCount destRoute)
      fun r => Handled par s r.1 [] r.2 requests := by
  have hsame {actions : List (Action A)} (hactions : ∀ target, ttlsFor target actions = [])
      (hreinjected : reinjected actions = []) (hdropped : dropped actions = []) :
      Handled par s s [] actions requests :=
    .of_same (.refl s) htracking hwaits hsettled hactions hreinjected hdropped
  unfold forwardOrComplete
  split
  · next hother =>
    split
    · exact .ok (hsame (fun _ => rfl) rfl rfl)
    · next route data hroute =>
      have hafter := hsettled.setRoute (by
        rintro data' hdata
        cases hdata
        exact (le_add_of_nonneg_right hpar.activeRouteTimeout).trans (le_max_left _ _))
        ((hkeeps.resolve_left hother) route data hroute)
      have hhandled {actions : List (Action A)} (hactions : ∀ target, ttlsFor target actions = [])
          (hreinjected : reinjected actions = []) (hdropped : dropped actions = []) :
          Handled par s (setRoute s { route with
            protocolData := some { data with lifeTime := max (s.now + par.activeRouteTimeout) data.lifeTime } })
            [] actions requests :=
        .of_same (sameDiscovery_setRoute _) htracking hwaits hafter hactions hreinjected hdropped
      dsimp only
      split
      · cases rrep.ackRequiredFlag with
        | true | false => exact .ok (hhandled (fun _ => rfl) rfl rfl)
      · exact .ok (hhandled (fun _ => rfl) rfl rfl)
  · split
    · next hongoing =>
      have hlater : s.now ≤ s.now + rrep.lifeTime := le_add_of_nonneg_right hlifeTime
      refine (updateRoutingTable_returns hsettled.timely hlater).bind ?_
      rintro s1 ⟨hsettled1, hsame1⟩
      have hongoing1 : hasOngoingRouteDiscovery s1 rrep.destAddr = true := by
        rw [hasOngoingRouteDiscovery, hsame1.waitForRREPTimers]
        exact hongoing
      unfold completeRouteDiscovery
      rw [assert_bind hongoing1]
      refine .ok ⟨hsame1.now, htracking.of_sub (ttlsFor_eq_nil (by simp)) hsame1.now ?_ hsame1.addressToRreqRetries,
        endRouteDiscovery_waits fun datagram hdatagram => .inl ((hwaits.of_same hsame1) datagram hdatagram),
        hsettled1.of_same rfl rfl rfl, fun datagram => ?_⟩
      · intro target rrepTimer hlookup
        unfold endRouteDiscovery at hlookup
        dsimp only at hlookup
        rw [Map.lookup_erase_eq, hsame1.waitForRREPTimers] at hlookup
        split at hlookup
        · cases hlookup
        · exact hlookup
      · have hdropped : dropped ((delayedFor s1 rrep.destAddr).map Action.reinjectQueuedDatagram) = [] := by
          simp [dropped]
        have hcount := @count_endRouteDiscovery _ s1 _ rrep.destAddr datagram
        rw [reinjected_map, hdropped, List.count_nil, Nat.add_zero, ← hcount, hsame1.delayedPackets, Nat.zero_add]
    · exact .ok (hsame (fun _ => rfl) rfl rfl)

theorem handleRREP_handled (hpar : par.Valid) (henv : env.IsTable) (htracking : Tracking par s requests)
    (hwaits : Waits s) (hsettled : Settled s) {rrep : AODVRREP A} {sourceAddr : A}
    (hreplied : isReplied par env s rrep sourceAddr = true) :
    Returns (handleRREP par env s rrep sourceAddr) fun r => Handled par s r.1 [] r.2 requests := by
  unfold isReplied at hreplied
  unfold handleRREP
  split
  · refine (handleHelloMessage_returns hpar henv hsettled.timely).bind ?_
    rintro s1 ⟨hsettled1, hsame1⟩
    exact .ok (.of_same hsame1 htracking hwaits hsettled1 (fun _ => rfl) rfl rfl)
  · next hreply =>
    rw [Bool.eq_false_iff.mpr hreply, Bool.false_or, Bool.and_eq_true, decide_eq_true_eq, Bool.or_eq_true,
      decide_eq_true_eq] at hreplied
    obtain ⟨hlifeTime, hkeeps⟩ := hreplied
    obtain ⟨s1, hs1, hsettled1, hsame1⟩ :=
      @updatePreviousHopRoute_returns A s par env rrep sourceAddr hpar henv hsettled.timely
    obtain ⟨⟨s2, destRoute⟩, hs2, hsettled2, hsame2⟩ :=
      @updateForwardRoute_returns A s1 env rrep sourceAddr henv hsettled1 hlifeTime (rrep.hopCount + 1)
    have hupdated : updated par env s rrep sourceAddr = some s2 := by
      unfold updated
      rw [hs1]
      dsimp only [bind, Except.bind]
      rw [hs2]
      rfl
    have hsame := hsame1.trans hsame2
    have htracking2 : Tracking par s2 requests := by
      refine ⟨fun target rrepTimer hlookup => ?_, htracking.bounded⟩
      rw [hsame.waitForRREPTimers] at hlookup
      rw [hsame.now, hsame.addressToRreqRetries]
      exact htracking.timers target rrepTimer hlookup
    rw [hs1]
    dsimp only [bind, Except.bind]
    rw [hs2]
    obtain ⟨⟨s', actions⟩, hcall, hhandled⟩ := forwardOrComplete_handled hpar htracking2 (hwaits.of_same hsame) hsettled2
      hlifeTime (hkeeps.imp_right fun hall route data hroute => by
        rw [hupdated, Option.all_some, hroute, Option.all_some] at hall
        exact hall) sourceAddr (rrep.hopCount + 1) destRoute
    refine ⟨_, hcall, hhandled.now.trans hsame.now, ?_, hhandled.waits, hhandled.settled, fun datagram => ?_⟩
    · have hnext : nextRequests s actions requests = nextRequests s2 actions requests := by
        unfold nextRequests hasOngoingRouteDiscovery
        rw [hsame.waitForRREPTimers]
      rw [hnext]
      exact hhandled.tracking
    · rw [← hsame.delayedPackets]
      exact hhandled.balance datagram

section Events

variable (par : Parameters) (env : Environment A)

/-- No request is held back by the rate limit or sent with more than the greatest TTL, and the lifetime of
the route that expires first only changes where the timer follows it. -/
def isUnhindered (s : State A) : Event A → Bool
  | .datagram datagram => isRouted par env s datagram
  | .rrep rrep sourceAddr => isReplied par env s rrep sourceAddr
  | .waitForRREP target => (s.waitForRREPTimers.lookup target).all (repeats par s)
  | .counterTimer | .expungeTimer => true

end Events

theorem handle_handled (hpar : par.Valid) (henv : env.IsTable) (htracking : Tracking par s requests)
    (hwaits : Waits s) (hsettled : Settled s) {t : SimTime} {e : Event A} {before : State A}
    (hbefore : s = { before with now := t }) (hnext : isNext before t e = true)
    (hunhindered : isUnhindered par env s e = true) :
    Returns (handle par env s e) fun r => Handled par s r.1 r.2.queued r.2.actions requests := by
  unfold handle
  cases e with
  | datagram datagram =>
    exact (ensureRouteForDatagram_handled hpar htracking hwaits hsettled hunhindered).bind fun _ h => .ok h
  | rrep rrep sourceAddr =>
    exact (handleRREP_handled hpar henv htracking hwaits hsettled hunhindered).bind fun _ h => .ok h
  | waitForRREP target =>
    have hscheduled : ∃ rrepTimer, s.waitForRREPTimers.lookup target = some rrepTimer := by
      unfold isNext at hnext
      subst hbefore
      simp only [Bool.and_eq_true, Option.any_eq_true] at hnext
      obtain ⟨-, rrepTimer, hlookup, -⟩ := hnext
      exact ⟨rrepTimer, hlookup⟩
    obtain ⟨rrepTimer, hlookup⟩ := hscheduled
    unfold isUnhindered at hunhindered
    dsimp only at hunhindered
    rw [hlookup, Option.all_some] at hunhindered
    obtain ⟨hdest, -⟩ := htracking.timers target rrepTimer hlookup
    dsimp only
    rw [hlookup]
    subst hdest
    exact (handleWaitForRREP_handled hpar htracking hwaits hsettled hlookup hunhindered).bind fun _ h => .ok h
  | counterTimer =>
    refine .ok ⟨rfl, htracking.of_sub (fun _ => rfl) rfl (fun _ _ h => h) rfl, hwaits,
      hsettled.of_same rfl rfl rfl, fun datagram => ?_⟩
    simp [reinjected, dropped]
  | expungeTimer =>
    have htimely : Timely { s with expungeTimer := none } := hsettled.timely
    refine (expungeRoutes_returns hpar htimely).bind ?_
    rintro s' ⟨hsettled', hsame⟩
    exact .ok (.of_same ((sameDiscovery_routes s.routes s.nextRouteId none).trans hsame) htracking hwaits hsettled'
      (fun _ => rfl) rfl rfl)

abbrev Label (A : Type) := (SimTime × Event A) × (State A × Output A)

/-- The TTLs of the requests for each target, of the discovery that is going on or that the last event has
ended. -/
def requestsOf : List (Label A) → A → List ℕ
  | [] => fun _ => []
  | (_, (before, output)) :: history => nextRequests before output.actions (requestsOf history)

def queuedOf (history : List (Label A)) : List (Datagram A) := history.flatMap (·.2.2.queued)

def reinjectedOf (history : List (Label A)) : List (Datagram A) := history.flatMap fun l => reinjected l.2.2.actions

def droppedOf (history : List (Label A)) : List (Datagram A) := history.flatMap fun l => dropped l.2.2.actions

/-- The node starts without routes of its own. -/
structure Initial (s : State A) : Prop where
  waitForRREPTimers : s.waitForRREPTimers = ∅
  delayedPackets : s.delayedPackets = []
  expungeTimer : s.expungeTimer = none
  routes : ∀ r ∈ s.routes, r.protocolData = none

structure Inv (par : Parameters) (history : List (Label A)) (s : State A) : Prop where
  tracking : Tracking par s (requestsOf history)
  waits : Waits s
  settled : Settled s
  balance : ∀ datagram, (queuedOf history).count datagram = s.delayedPackets.count datagram +
    (reinjectedOf history).count datagram + (droppedOf history).count datagram

theorem inv_initial (h : Initial s) : Inv par [] s := by
  have hnone : nextExpungeTime s.routes = none := by
    unfold nextExpungeTime
    rw [List.min?_eq_none_iff, List.filterMap_eq_nil_iff]
    intro r hr
    rw [h.routes r hr]
    rfl
  refine ⟨⟨fun target rrepTimer hlookup => ?_, fun _ => bounded_nil⟩, fun datagram hdatagram => ?_,
    ⟨fun r hr data hdata => ?_, ?_⟩, fun datagram => ?_⟩
  · rw [h.waitForRREPTimers] at hlookup
    exact nomatch hlookup
  · rw [h.delayedPackets] at hdatagram
    exact nomatch hdatagram
  · rw [h.routes r hr] at hdata
    exact nomatch hdata
  · rw [h.expungeTimer, hnone]
  · rw [h.delayedPackets]
    rfl

theorem Inv.later {history : List (Label A)} (h : Inv par history s) {t : SimTime} {e : Event A}
    (hnext : isNext s t e = true) : Inv par history { s with now := t } := by
  unfold isNext at hnext
  simp only [Bool.and_eq_true, List.all_eq_true, Option.all_eq_true, decide_eq_true_eq] at hnext
  obtain ⟨⟨⟨-, htimers⟩, hexpunge⟩, -⟩ := hnext
  refine ⟨⟨fun target rrepTimer hlookup => ?_, h.tracking.bounded⟩, h.waits, ⟨?_, h.settled.expungeTimer⟩, h.balance⟩
  · obtain ⟨hdest, ⟨arrivalTime, harrival, -⟩, hretries⟩ := h.tracking.timers target rrepTimer hlookup
    exact ⟨hdest, ⟨arrivalTime, harrival,
      htimers ⟨target, rrepTimer⟩ (Map.mem_entries_iff.mpr hlookup) arrivalTime harrival⟩, hretries⟩
  · rw [h.settled.expungeTimer] at hexpunge
    exact le_nextExpungeTime.mp hexpunge

theorem run_inv (hpar : par.Valid) (henv : env.IsTable) {history : List (Label A)}
    (hrun : Run Initial (StepOf (traced (step par env))) history s)
    (hunhindered : Always (fun _ l => isUnhindered par env { l.2.1 with now := l.1.1 } l.1.2 = true) history) :
    Inv par history s := by
  induction hrun with
  | init hinit => exact inv_initial hinit
  | @step history s s' l hrun hstep ih =>
    obtain ⟨⟨t, e⟩, before, output⟩ := l
    obtain ⟨rfl, hstep⟩ := traced_eq_some.mp hstep
    have hinv := ih hunhindered.1
    unfold step at hstep
    split at hstep
    · next hnext =>
      have hlater := hinv.later hnext
      obtain ⟨⟨next, output'⟩, hcall, hhandled⟩ := handle_handled hpar henv hlater.tracking hlater.waits
        hlater.settled rfl hnext hunhindered.2
      rw [toOption_eq_some, hcall] at hstep
      cases hstep
      refine ⟨hhandled.tracking, hhandled.waits, hhandled.settled, fun datagram => ?_⟩
      have hbalance := hhandled.balance datagram
      have hbefore := hinv.balance datagram
      simp only [queuedOf, reinjectedOf, droppedOf, List.flatMap_cons, List.count_append] at hbefore ⊢
      dsimp only at hbalance
      omega
    · exact nomatch hstep

/-- A datagram that is queued waits for a discovery whose timer is scheduled until it is reinjected or dropped,
the discovery sends only so many requests, and the timer for the routes is scheduled when the first of them
expires; and every event can be handled. -/
theorem no_datagram_stranded (hpar : par.Valid) (henv : env.IsTable) {history : List (Label A)}
    (hrun : Run Initial (StepOf (traced (step par env))) history s)
    (hunhindered : Always (fun _ l => isUnhindered par env { l.2.1 with now := l.1.1 } l.1.2 = true) history) :
    (∀ datagram ∈ s.delayedPackets, ∃ rrepTimer t,
      s.waitForRREPTimers.lookup datagram.destinationAddress = some rrepTimer ∧ rrepTimer.arrivalTime = some t) ∧
    (∀ target rrepTimer, s.waitForRREPTimers.lookup target = some rrepTimer →
      (∃ t, rrepTimer.arrivalTime = some t ∧ s.now ≤ t) ∧ (s.addressToRreqRetries.lookup target).isSome) ∧
    (∀ datagram, (queuedOf history).count datagram = s.delayedPackets.count datagram +
      (reinjectedOf history).count datagram + (droppedOf history).count datagram) ∧
    (∀ target, Bounded par (requestsOf history target)) ∧
    (s.expungeTimer = nextExpungeTime s.routes ∧ ∀ t ∈ s.expungeTimer, s.now ≤ t) ∧
    ∀ t e, isNext s t e = true → isUnhindered par env { s with now := t } e = true →
      ∃ s' output, step par env s (t, e) = some (s', output) := by
  have hinv := run_inv hpar henv hrun hunhindered
  refine ⟨fun datagram hdatagram => ?_, fun target rrepTimer hlookup => ?_, hinv.balance, hinv.tracking.bounded,
    ⟨hinv.settled.expungeTimer, ?_⟩, fun t e hnext hevent => ?_⟩
  · obtain ⟨rrepTimer, hlookup⟩ := Option.isSome_iff_exists.mp (hinv.waits datagram hdatagram)
    obtain ⟨-, ⟨t, hscheduled, -⟩, -⟩ := hinv.tracking.timers _ rrepTimer hlookup
    exact ⟨rrepTimer, t, hlookup, hscheduled⟩
  · obtain ⟨-, hscheduled, retries, hretries, -⟩ := hinv.tracking.timers target rrepTimer hlookup
    exact ⟨hscheduled, by rw [hretries]; rfl⟩
  · rw [hinv.settled.expungeTimer]
    exact le_nextExpungeTime.mpr hinv.settled.timely
  · have hlater := hinv.later hnext
    obtain ⟨⟨s', output⟩, hcall, -⟩ := handle_handled hpar henv hlater.tracking hlater.waits hlater.settled rfl hnext
      hevent
    refine ⟨s', output, ?_⟩
    unfold step
    rw [if_pos hnext, hcall]
    rfl

def sampleParameters : Parameters where
  askGratuitousRREP := false
  activeRouteTimeout := 3
  helloInterval := 1
  allowedHelloLoss := 2
  netDiameter := 35
  nodeTraversalTime := 1 / 25
  netTraversalTime := 14 / 5
  deletePeriod := 15
  rreqRetries := 2
  rreqRatelimit := 10
  timeoutBuffer := 2
  ttlStart := 2
  ttlIncrement := 2
  ttlThreshold := 7

def sampleEnvironment : Environment ℕ where
  selfIPAddress := 1
  isUnspecified address := address = 0
  isBroadcast address := address = 255
  isMulticast address := 224 ≤ address
  isLocalAddress address := address = 1
  findBestMatchingRoute routes address := routes.find? (·.destination = address)
  addRoute := List.cons

theorem no_datagram_stranded_of_reply : ∃ history s,
    Run Initial (StepOf (traced (step sampleParameters sampleEnvironment))) history s ∧
    history.map (·.1) = [(9 / 2, .expungeTimer), (3 / 2, .datagram ⟨0, 1, 5⟩),
      (3 / 2, .rrep ⟨false, 1, 5, 7, 1, 1, 3⟩ 3), (33 / 25, .waitForRREP 5), (1, .datagram ⟨1, 1, 5⟩),
      (1, .datagram ⟨0, 0, 5⟩)] ∧
    reinjectedOf history = [⟨0, 0, 5⟩, ⟨1, 1, 5⟩] ∧
    (∀ datagram, (queuedOf history).count datagram = s.delayedPackets.count datagram +
      (reinjectedOf history).count datagram + (droppedOf history).count datagram) ∧
    s.expungeTimer = nextExpungeTime s.routes := by
  have hinitial : Initial ({} : State ℕ) := ⟨rfl, rfl, rfl, fun r hr => nomatch hr⟩
  have hpar : sampleParameters.Valid := by constructor <;> decide +kernel
  obtain ⟨s, history, hrun, hunhindered, hevents, hreinjected⟩ := @exists_run_of_initial _ _ _
    (traced (step sampleParameters sampleEnvironment)) Initial _ hinitial
    [(1, .datagram ⟨0, 0, 5⟩), (1, .datagram ⟨1, 1, 5⟩), (33 / 25, .waitForRREP 5),
      (3 / 2, .rrep ⟨false, 1, 5, 7, 1, 1, 3⟩ 3), (3 / 2, .datagram ⟨0, 1, 5⟩), (9 / 2, .expungeTimer)]
    (fun _ history => Always (fun _ l => isUnhindered sampleParameters sampleEnvironment
        { l.2.1 with now := l.1.1 } l.1.2 = true) history ∧
      history.map (·.1) = [(9 / 2, .expungeTimer), (3 / 2, .datagram ⟨0, 1, 5⟩),
        (3 / 2, .rrep ⟨false, 1, 5, 7, 1, 1, 3⟩ 3), (33 / 25, .waitForRREP 5), (1, .datagram ⟨1, 1, 5⟩),
        (1, .datagram ⟨0, 0, 5⟩)] ∧
      reinjectedOf history = [⟨0, 0, 5⟩, ⟨1, 1, 5⟩])
    (by decide +kernel)
  obtain ⟨-, -, hbalance, -, ⟨hexpunge, -⟩, -⟩ := no_datagram_stranded hpar (fun r routes => .refl _) hrun hunhindered
  exact ⟨history, s, hrun, hevents, hreinjected, hbalance, hexpunge⟩

/-- `sendRREQ` returns without a timer when the limit is reached: a datagram for a second target then waits
for no discovery, and a discovery whose timer has fired is never repeated nor cancelled. A route that is used
lives longer than the timer expects. -/
theorem not_no_datagram_stranded :
    (∃ r ∈ execute (step { sampleParameters with rreqRatelimit := 1 } sampleEnvironment) {} []
        [(1, .datagram ⟨0, 0, 5⟩), (1, .datagram ⟨1, 1, 6⟩)],
      r.1.delayedPackets = [⟨0, 0, 5⟩, ⟨1, 1, 6⟩] ∧ r.1.waitForRREPTimers.lookup 6 = none) ∧
    (∃ r ∈ execute (step { sampleParameters with rreqRatelimit := 1 } sampleEnvironment) {} []
        [(1, .datagram ⟨0, 0, 5⟩), (33 / 25, .waitForRREP 5)],
      r.1.delayedPackets = [⟨0, 0, 5⟩] ∧ (r.1.waitForRREPTimers.lookup 5).map (·.arrivalTime) = some none) ∧
    ∃ r ∈ execute (step sampleParameters sampleEnvironment) {} []
        [(1, .rrep ⟨false, 0, 3, 7, 0, 0, 3⟩ 3), (2, .datagram ⟨1, 0, 3⟩)],
      r.1.expungeTimer = some 3 ∧ nextExpungeTime r.1.routes = some 5 := by
  decide +kernel

end inet.AODVRouting

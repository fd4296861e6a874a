import LoRaInet.Kernel.Assert
import LoRaInet.LinkLayer.Ieee8021d.Rstp.RSTP.Roles

namespace inet

open omnetpp

namespace RSTP

variable {n : ℕ} {s s' s'' : RSTP n} {a r : Fin n}

/-- What holds between two events. -/
structure Inv (s : RSTP n) : Prop where
  proper : Proper s.roles
  timely : Timely s.simTime s.hasCarrier s.roles
  armed : Armed s.fes s.hasCarrier s.roles
  migrate_nonneg : 0 ≤ s.migrateTime
  forward_nonneg : 0 ≤ s.forwardDelay
  hello_nonneg : 0 ≤ s.helloTime

theorem Inv.of_frame (h : Inv s) (hframe : Frame s s') (hproper : Proper s'.roles)
    (htimely : Timely s.simTime s.hasCarrier s'.roles) (harmed : Armed s'.fes s.hasCarrier s'.roles) :
    Inv s' where
  proper := hproper
  timely := by
    rw [hframe.simTime, hframe.hasCarrier]
    exact htimely
  armed := by
    rw [hframe.hasCarrier]
    exact harmed
  migrate_nonneg := by rw [hframe.migrateTime]; exact h.migrate_nonneg
  forward_nonneg := by rw [hframe.forwardDelay]; exact h.forward_nonneg
  hello_nonneg := by rw [hframe.helloTime]; exact h.hello_nonneg

theorem Inv.quiet (h : Inv s) (hquiet : Quiet s s') : Inv s' := by
  refine h.of_frame hquiet.frame ?_ ?_ ?_
  · rw [hquiet.roles]
    exact h.proper
  · rw [hquiet.roles]
    exact h.timely
  · rw [hquiet.roles, hquiet.fes]
    exact h.armed

theorem pending_iff (port : Ieee8021dInterfaceData) : AwaitsUpgrade port ↔ (view port).Pending := by
  unfold AwaitsUpgrade PortView.Pending view
  cases port.state <;> simp

/-- The scan finds the port with carrier that has the next upgrade. -/
theorem foldl_earlierUpgrade (s : RSTP n) (l : List (Fin n)) :
    ∀ next : Option (Fin n), (∀ j, next = some j → s.hasCarrier j = true ∧ (s.roles j).Pending) →
      (∀ j, l.foldl s.earlierUpgrade next = some j → s.hasCarrier j = true ∧ (s.roles j).Pending) ∧
      ∀ i, (i ∈ l ∧ s.hasCarrier i = true ∧ (s.roles i).Pending) ∨ next = some i →
        ∃ j, l.foldl s.earlierUpgrade next = some j ∧
          (s.roles j).nextUpgrade ≤ (s.roles i).nextUpgrade := by
  induction l with
  | nil =>
    intro next hnext
    refine ⟨hnext, fun i hi => ?_⟩
    rcases hi with ⟨hmem, -⟩ | rfl
    · cases hmem
    · exact ⟨i, rfl, le_rfl⟩
  | cons k l ih =>
    intro next hnext
    have hstep : (∀ j, s.earlierUpgrade next k = some j →
          s.hasCarrier j = true ∧ (s.roles j).Pending) ∧
        ∀ i, (i = k ∧ s.hasCarrier i = true ∧ (s.roles i).Pending) ∨ next = some i →
          ∃ j, s.earlierUpgrade next k = some j ∧
            (s.roles j).nextUpgrade ≤ (s.roles i).nextUpgrade := by
      unfold earlierUpgrade
      by_cases hk : s.hasCarrier k = true ∧ AwaitsUpgrade (s.ports k)
      · have hk' : s.hasCarrier k = true ∧ (s.roles k).Pending := ⟨hk.1, (pending_iff _).mp hk.2⟩
        rw [if_pos hk]
        cases next with
        | none =>
          refine ⟨fun j hj => Option.some.inj hj ▸ hk', fun i hi => ?_⟩
          rcases hi with ⟨rfl, -⟩ | hi
          · exact ⟨i, rfl, le_rfl⟩
          · cases hi
        | some j =>
          dsimp only
          split
          · next hlt =>
            refine ⟨fun i hi => Option.some.inj hi ▸ hk', fun i hi => ⟨k, rfl, ?_⟩⟩
            rcases hi with ⟨rfl, -⟩ | hi
            · exact le_rfl
            · rw [← Option.some.inj hi]
              exact hlt.le
          · next hlt =>
            refine ⟨hnext, fun i hi => ⟨j, rfl, ?_⟩⟩
            rcases hi with ⟨rfl, -⟩ | hi
            · exact not_lt.mp hlt
            · rw [Option.some.inj hi]
      · rw [if_neg hk]
        refine ⟨hnext, fun i hi => ?_⟩
        rcases hi with ⟨rfl, hcarrier, hpending⟩ | hi
        · exact absurd ⟨hcarrier, (pending_iff _).mpr hpending⟩ hk
        · exact ⟨i, hi, le_rfl⟩
    obtain ⟨hfound, hleast⟩ := ih _ hstep.1
    refine ⟨hfound, fun i hi => ?_⟩
    by_cases hnow : (i = k ∧ s.hasCarrier i = true ∧ (s.roles i).Pending) ∨ next = some i
    · obtain ⟨j, hj, hle⟩ := hstep.2 i hnow
      obtain ⟨j', hj', hle'⟩ := hleast j (.inr hj)
      exact ⟨j', hj', hle'.trans hle⟩
    · rcases hi with ⟨hmem, hrest⟩ | hi
      · rcases List.mem_cons.mp hmem with rfl | hmem
        · exact absurd (.inl ⟨rfl, hrest⟩) hnow
        · exact hleast i (.inl ⟨hmem, hrest⟩)
      · exact absurd (.inr hi) hnow

/-- The upgrade timer can be scheduled when no upgrade has been missed. -/
theorem scheduleNextUpgrade_returns (h : Timely s.simTime s.hasCarrier s.roles) :
    Returns s.scheduleNextUpgrade fun s' => Frame s s' ∧ s'.roles = s.roles ∧
      Armed s'.fes s.hasCarrier s.roles := by
  obtain ⟨hfound, hleast⟩ := foldl_earlierUpgrade s.cancelUpgrade (List.finRange n) none
    (fun j hj => by cases hj)
  unfold scheduleNextUpgrade
  cases hnext : (List.finRange n).foldl s.cancelUpgrade.earlierUpgrade none with
  | none =>
    refine ⟨s.cancelUpgrade, ?_, ⟨rfl, rfl, rfl, rfl, rfl⟩, rfl, fun i hcarrier hpending => ?_⟩
    · dsimp only
      rw [hnext]
    · obtain ⟨j, hj, -⟩ := hleast i (.inl ⟨List.mem_finRange i, hcarrier, hpending⟩)
      rw [hnext] at hj
      cases hj
  | some k =>
    obtain ⟨hcarrier, hpending⟩ := hfound k hnext
    have hscheduled : s.cancelUpgrade.fes.scheduleAt (s.ports k).nextUpgrade .SELF_UPGRADE = .ok _ :=
      FutureEventSet.scheduleAt_eq_ok.mpr ⟨h k hcarrier hpending, rfl⟩
    refine ⟨{ s.cancelUpgrade with fes := { s.cancelUpgrade.fes with
        scheduled := s.cancelUpgrade.fes.scheduled ++ [⟨(s.ports k).nextUpgrade, .SELF_UPGRADE⟩] } },
      ?_, ⟨rfl, rfl, rfl, rfl, rfl⟩, rfl, fun i hicarrier hipending => ?_⟩
    · dsimp only
      rw [hnext]
      change (s.cancelUpgrade.fes.scheduleAt (s.ports k).nextUpgrade .SELF_UPGRADE >>= _) = _
      rw [hscheduled]
      rfl
    · obtain ⟨j, hj, hle⟩ := hleast i (.inl ⟨List.mem_finRange i, hicarrier, hipending⟩)
      obtain rfl := Option.some.inj (hnext.symm.trans hj)
      exact ⟨_, List.mem_append_right _ (List.mem_singleton_self _), rfl, hle⟩

theorem setPending_returns (h : Timely s.simTime s.hasCarrier s.roles) (i : Fin n) (role : PortRole)
    (state : PortState) {t : SimTime} (ht : s.simTime ≤ t) :
    Returns ((s.setRoleState i role state).setNextUpgrade i t).scheduleNextUpgrade fun s' =>
      Frame s s' ∧ s'.roles = Function.update s.roles i ⟨role, state, t, (s.roles i).edge⟩ ∧
      Timely s.simTime s.hasCarrier s'.roles ∧ Armed s'.fes s.hasCarrier s'.roles := by
  have hroles := roles_setRoleState_setNextUpgrade s i role state t
  have htimely : Timely s.simTime s.hasCarrier (Function.update s.roles i
      ⟨role, state, t, (s.roles i).edge⟩) := h.update fun _ => ht
  have hframe : Frame s ((s.setRoleState i role state).setNextUpgrade i t) :=
    (frame_modifyPort s i _).trans (frame_modifyPort _ i _)
  have hschedule := scheduleNextUpgrade_returns (s := (s.setRoleState i role state).setNextUpgrade i t)
    (by rw [hroles]; exact htimely)
  rw [hroles] at hschedule
  refine hschedule.mono fun s' hs' => ?_
  obtain ⟨hframe', hroles', harmed⟩ := hs'
  refine ⟨hframe.trans hframe', hroles', ?_, ?_⟩
  · rw [hroles']
    exact htimely
  · rw [hroles']
    exact harmed

theorem becomeDesignated_returns (h : Timely s.simTime s.hasCarrier s.roles)
    (hdelay : 0 ≤ s.forwardDelay) (i : Fin n) :
    Returns (s.becomeDesignated i) fun s' => Frame s s' ∧ s'.roles = Function.update s.roles i
        ⟨.DESIGNATED, .DISCARDING, s.simTime + s.forwardDelay, (s.roles i).edge⟩ ∧
      Timely s.simTime s.hasCarrier s'.roles ∧ Armed s'.fes s.hasCarrier s'.roles :=
  setPending_returns h i _ _ (le_add_of_nonneg_right hdelay)

def startView (now : SimTime) (migrateTime : SimTime) : PortView :=
  ⟨.NOTASSIGNED, .DISCARDING, now + migrateTime, false⟩

theorem roles_initPort (hedge : (s.roles a).edge = false) :
    Frame s (s.initPort a) ∧ (s.initPort a).fes = s.fes ∧
      (s.initPort a).roles = Function.update s.roles a (startView s.simTime s.migrateTime) := by
  have hport : (s.ports a).edge = false := hedge
  have hroles := roles_setRoleState_setNextUpgrade s a .NOTASSIGNED .DISCARDING
    (s.simTime + s.migrateTime)
  have hquiet := (quiet_initInterfacedata ((s.setRoleState a .NOTASSIGNED .DISCARDING).setNextUpgrade
    a (s.simTime + s.migrateTime)) a).trans (quiet_emit _ (.flush a))
  unfold initPort
  rw [hport, Bool.not_false, if_pos rfl]
  refine ⟨?_, hquiet.fes.trans rfl, ?_⟩
  · exact ((frame_modifyPort s a _).trans (frame_modifyPort _ a _)).trans hquiet.frame
  · rw [hquiet.roles, hroles, hedge]
    rfl

theorem foldl_initPort (l : List (Fin n)) : ∀ s : RSTP n, (∀ i, (s.roles i).edge = false) →
      Frame s (l.foldl initPort s) ∧ (∀ i, (l.foldl initPort s).roles i =
        if i ∈ l then startView s.simTime s.migrateTime else s.roles i) := by
  induction l with
  | nil => exact fun s _ => ⟨.refl s, fun i => by simp⟩
  | cons j l ih =>
    intro s hedge
    obtain ⟨hframe, -, hroles⟩ := roles_initPort (hedge j)
    have hedge' : ∀ i, ((s.initPort j).roles i).edge = false := by
      intro i
      rw [hroles]
      by_cases hi : i = j
      · rw [hi, Function.update_self]
        rfl
      · rw [Function.update_of_ne hi]
        exact hedge i
    obtain ⟨hframe', hroles'⟩ := ih _ hedge'
    refine ⟨hframe.trans hframe', fun i => ?_⟩
    rw [List.foldl_cons, hroles', hframe.simTime, hframe.migrateTime, hroles]
    by_cases hmem : i ∈ l
    · rw [if_pos hmem, if_pos (List.mem_cons_of_mem j hmem)]
    · rw [if_neg hmem]
      by_cases hi : i = j
      · rw [hi, Function.update_self, if_pos (.head _)]
      · rw [Function.update_of_ne hi, if_neg (by simp [hi, hmem])]

theorem initPorts_returns (hedge : ∀ i, (s.roles i).edge = false) (hdelay : 0 ≤ s.migrateTime) :
    Returns s.initPorts fun s' => Frame s s' ∧
      s'.roles = (fun _ => startView s.simTime s.migrateTime) ∧
      Timely s.simTime s.hasCarrier s'.roles ∧ Armed s'.fes s.hasCarrier s'.roles := by
  obtain ⟨hframe, hroles⟩ := foldl_initPort (List.finRange n) s hedge
  have hall : ((List.finRange n).foldl initPort s).roles =
      fun _ => startView s.simTime s.migrateTime := by
    funext i
    rw [hroles, if_pos (List.mem_finRange i)]
  have htimely : Timely s.simTime s.hasCarrier (fun _ => startView s.simTime s.migrateTime) :=
    fun i _ _ => le_add_of_nonneg_right hdelay
  have hschedule := scheduleNextUpgrade_returns (s := (List.finRange n).foldl initPort s)
    (by rw [hall, hframe.simTime, hframe.hasCarrier]; exact htimely)
  rw [hall, hframe.hasCarrier] at hschedule
  refine hschedule.mono fun s' hs' => ?_
  obtain ⟨hframe', hroles', harmed⟩ := hs'
  refine ⟨hframe.trans hframe', hroles', ?_, ?_⟩
  · rw [hroles']
    exact htimely
  · rw [hroles']
    exact harmed

theorem role_of_getRootIndex (h : s.getRootIndex = some r) : (s.roles r).role = .ROOT := by
  have hfound := List.find?_some h
  exact of_decide_eq_true hfound

theorem role_ne_of_getRootIndex (h : s.getRootIndex = none) (i : Fin n) :
    (s.roles i).role ≠ .ROOT := by
  have hnone := List.find?_eq_none.mp h i (List.mem_finRange i)
  exact fun hi => hnone (decide_eq_true hi)

theorem rootPort_returns (h : ∃ i, (s.roles i).role = .ROOT) :
    Returns s.rootPort fun _ => True := by
  obtain ⟨i, hi⟩ := h
  unfold rootPort
  cases hroot : s.getRootIndex with
  | none => exact absurd hi (role_ne_of_getRootIndex hroot i)
  | some r => exact .ok trivial

theorem contestInterfacedata_returns (h : ∃ i, (s.roles i).role = .ROOT) (a : Fin n) :
    Returns (s.contestInterfacedata a) fun _ => True :=
  (rootPort_returns h).bind fun _ _ => .pure trivial

theorem contestInterfacedataWith_returns (h : ∃ i, (s.roles i).role = .ROOT) (msg : BPDU)
    (a : Fin n) : Returns (s.contestInterfacedataWith msg a) fun _ => True :=
  (rootPort_returns h).bind fun _ _ => .pure trivial

theorem foldl_betterAlternate (s : RSTP n) (l : List (Fin n)) :
    ∀ candidate : Option (Fin n), (∀ j ∈ candidate, (s.roles j).role = .ALTERNATE) →
      (∀ j ∈ l.foldl s.betterAlternate candidate, (s.roles j).role = .ALTERNATE) ∧
      (l.foldl s.betterAlternate candidate = none →
        candidate = none ∧ ∀ i ∈ l, (s.roles i).role ≠ .ALTERNATE) := by
  induction l with
  | nil => exact fun candidate h => ⟨h, fun hnone => ⟨hnone, fun i hi => nomatch hi⟩⟩
  | cons k l ih =>
    intro candidate hcandidate
    have hstep : (∀ j ∈ s.betterAlternate candidate k, (s.roles j).role = .ALTERNATE) ∧
        (s.betterAlternate candidate k = none →
          candidate = none ∧ (s.roles k).role ≠ .ALTERNATE) := by
      unfold betterAlternate
      by_cases hk : (s.ports k).role = .ALTERNATE
      · rw [if_pos hk]
        cases candidate with
        | none => exact ⟨fun j hj => Option.some.inj hj ▸ hk, fun hnone => by cases hnone⟩
        | some c =>
          dsimp only
          split
          · exact ⟨fun j hj => Option.some.inj hj ▸ hk, fun hnone => by cases hnone⟩
          · exact ⟨hcandidate, fun hnone => by cases hnone⟩
      · rw [if_neg hk]
        exact ⟨hcandidate, fun hnone => ⟨hnone, hk⟩⟩
    obtain ⟨hsome, hnone⟩ := ih _ hstep.1
    refine ⟨hsome, fun h => ?_⟩
    obtain ⟨hcandidate', hrest⟩ := hnone h
    obtain ⟨hold, hk⟩ := hstep.2 hcandidate'
    refine ⟨hold, fun i hi => ?_⟩
    rcases List.mem_cons.mp hi with rfl | hi
    · exact hk
    · exact hrest i hi

theorem role_of_getBestAlternate (h : s.getBestAlternate = some a) :
    (s.roles a).role = .ALTERNATE :=
  (foldl_betterAlternate s _ none (fun j hj => nomatch hj)).1 a h

end RSTP

end inet

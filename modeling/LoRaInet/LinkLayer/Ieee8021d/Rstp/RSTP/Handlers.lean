import LoRaInet.LinkLayer.Ieee8021d.Rstp.RSTP.Upgrades

namespace inet

open omnetpp

namespace RSTP

variable {n : ℕ} {s s' s'' : RSTP n} {a c r : Fin n} {x y : PortView}

theorem PortView.Root.not_pending (h : x.Root) : ¬ x.Pending := by
  rintro (hrole | ⟨hrole, -⟩)
  · exact absurd (h.1.symm.trans hrole) (by decide)
  · exact absurd (h.1.symm.trans hrole) (by decide)

def rootView (x : PortView) : PortView := ⟨.ROOT, .FORWARDING, x.nextUpgrade, x.edge⟩

def alternateView (x : PortView) : PortView := ⟨.ALTERNATE, .DISCARDING, x.nextUpgrade, x.edge⟩

theorem rootView_root (h : Inv s) (i : Fin n) : (rootView (s.roles i)).Root :=
  ⟨rfl, rfl, h.proper.edge i⟩

theorem alternateView_follower (h : Inv s) (i : Fin n) : (alternateView (s.roles i)).Follower :=
  .of_discarding (by simp [alternateView]) rfl (h.proper.edge i)

theorem alternateView_not_pending (x : PortView) : ¬ (alternateView x).Pending := by
  rintro (hrole | ⟨hrole, -⟩) <;> cases hrole

theorem Inv.elect (h : Inv s) (hframe : Frame s s') (hx : x.Root)
    (hroles : s'.roles = Function.update s.roles a x) (hfes : s'.fes = s.fes)
    (hothers : ∀ i, i ≠ a → (s.roles i).Follower) : Inv s' := by
  refine h.of_frame hframe ?_ ?_ ?_
  · rw [hroles]
    exact .elect hothers hx
  · rw [hroles]
    exact h.timely.update fun hpending => absurd hpending hx.not_pending
  · rw [hroles, hfes]
    exact h.armed.update hx.not_pending

theorem Inv.swap (h : Inv s) (hr : (s.roles r).role = .ROOT) (hne : c ≠ r) (hframe : Frame s s')
    (hx : x.Root) (hy : y.Follower)
    (hroles : s'.roles = Function.update (Function.update s.roles r y) c x)
    (htimely : Timely s.simTime s.hasCarrier (Function.update s.roles r y))
    (harmed : Armed s'.fes s.hasCarrier (Function.update s.roles r y)) : Inv s' := by
  refine h.of_frame hframe ?_ ?_ ?_
  · rw [hroles, Function.update_comm hne.symm]
    exact h.proper.swap hr hne hx hy
  · rw [hroles]
    exact htimely.update fun hpending => absurd hpending hx.not_pending
  · rw [hroles]
    exact harmed.update hx.not_pending

theorem roles_becomeRoot (s : RSTP n) (i : Fin n) : Frame s (s.becomeRoot i) ∧
    (s.becomeRoot i).fes = s.fes ∧
    (s.becomeRoot i).roles = Function.update s.roles i (rootView (s.roles i)) := by
  have hquiet := quiet_setLostBPDU (s.setRoleState i .ROOT .FORWARDING) i 0
  refine ⟨(frame_modifyPort s i _).trans hquiet.frame, hquiet.fes, ?_⟩
  rw [becomeRoot, hquiet.roles, roles_setRoleState]
  rfl

theorem roles_becomeAlternate (s : RSTP n) (i : Fin n) : Frame s (s.becomeAlternate i) ∧
    (s.becomeAlternate i).fes = s.fes ∧
    (s.becomeAlternate i).roles = Function.update s.roles i (alternateView (s.roles i)) := by
  have hemit := quiet_emit s (.flush i)
  have hquiet := quiet_setLostBPDU ((s.emit (.flush i)).setRoleState i .ALTERNATE .DISCARDING) i 0
  refine ⟨(hemit.frame.trans (frame_modifyPort _ i _)).trans hquiet.frame, hquiet.fes, ?_⟩
  rw [becomeAlternate, hquiet.roles, roles_setRoleState, hemit.roles]
  rfl

theorem inv_becomeAlternate (h : Inv s) (hr : (s.roles r).role = .ROOT) (hne : a ≠ r) :
    Inv (s.becomeAlternate a) := by
  obtain ⟨hframe, hfes, hroles⟩ := roles_becomeAlternate s a
  refine h.of_frame hframe ?_ ?_ ?_
  · rw [hroles]
    refine h.proper.follow (alternateView_follower h a) (fun ha => ?_) fun _ => ⟨r, hne.symm, hr⟩
    exact absurd ha ((h.proper.root_of_role hr).2 a hne).1
  · rw [hroles]
    exact h.timely.update fun hpending => absurd hpending (alternateView_not_pending _)
  · rw [hroles, hfes]
    exact h.armed.update (alternateView_not_pending _)

theorem inv_becomeDesignated (h : Inv s) (ha : (s.roles a).role ≠ .ROOT) :
    Returns (s.becomeDesignated a) Inv := by
  refine (becomeDesignated_returns h.timely h.forward_nonneg a).mono fun s' hs' => ?_
  obtain ⟨hframe, hroles, htimely, harmed⟩ := hs'
  refine h.of_frame hframe ?_ htimely harmed
  rw [hroles]
  refine h.proper.follow ?_ (fun hroot => absurd hroot ha) fun hx => by cases hx
  exact .of_discarding (by simp) rfl (h.proper.edge a)

theorem inv_initPorts (h : Inv s) : Returns s.initPorts fun s' => Inv s' ∧
    ∀ i, s'.roles i = startView s.simTime s.migrateTime := by
  refine (initPorts_returns h.proper.edge h.migrate_nonneg).mono fun s' hs' => ?_
  obtain ⟨hframe, hroles, htimely, harmed⟩ := hs'
  refine ⟨h.of_frame hframe ?_ htimely harmed, fun i => by rw [hroles]⟩
  rw [hroles]
  exact .rootless fun i => ⟨.of_discarding (by simp [startView]) rfl rfl, by simp [startView]⟩

/-- The root port becomes designated, and the best alternate takes its place. -/
theorem inv_replaceRoot (h : Inv s) (hr : (s.roles r).role = .ROOT) (hne : c ≠ r)
    {f g : RSTP n → RSTP n} (hf : ∀ t, Quiet t (f t)) (hg : ∀ t, Quiet t (g t)) :
    Returns (s.becomeDesignated r) fun s' => Inv (g ((f s').setRoleState c .ROOT .FORWARDING)) := by
  refine (becomeDesignated_returns h.timely h.forward_nonneg r).mono fun s' hs' => ?_
  obtain ⟨hframe, hroles, htimely, harmed⟩ := hs'
  rw [hroles] at htimely harmed
  have hquiet := hf s'
  refine Inv.quiet ?_ (hg _)
  have hc : (f s').roles c = s.roles c := by rw [hquiet.roles, hroles, Function.update_of_ne hne]
  have hset := roles_setRoleState (f s') c .ROOT .FORWARDING
  rw [hc, hquiet.roles, hroles] at hset
  refine h.swap hr hne ?_ (rootView_root h c) ?_ hset htimely ?_
  · exact (hframe.trans hquiet.frame).trans (frame_modifyPort _ c _)
  · exact .of_discarding (by simp) rfl (h.proper.edge r)
  · rw [show ((f s').setRoleState c .ROOT .FORWARDING).fes = (f s').fes from rfl, hquiet.fes]
    exact harmed

theorem alternate_ne_root (hr : (s.roles r).role = .ROOT) (hc : (s.roles c).role = .ALTERNATE) :
    c ≠ r := by
  rintro rfl
  exact absurd (hr.symm.trans hc) (by decide)

theorem inv_lostBestBPDU (h : Inv s) (i : Fin n) : Returns (s.lostBestBPDU i) Inv := by
  unfold lostBestBPDU
  split
  · next hroot =>
    cases hbest : s.getBestAlternate with
    | some candidate =>
      have hne := alternate_ne_root (s := s) hroot (role_of_getBestAlternate hbest)
      have hreplaced := inv_replaceRoot h hroot hne (fun t => quiet_initInterfacedata t i)
        (fun t => ((quiet_setLostBPDU t candidate 0).trans (quiet_flushOtherPorts _ candidate)).trans
          (quiet_emit _ (.copyTable i candidate)))
      exact hreplaced.bind fun s' hs' => .pure hs'
    | none => exact (inv_initPorts h).mono fun s' hs' => hs'.1
  · next hroot =>
    exact (inv_becomeDesignated h hroot).bind fun s' hs' =>
      .pure (hs'.quiet (quiet_initInterfacedata s' i))

theorem inv_countHello (h : Inv s) (i : Fin n) : Returns (s.countHello i) Inv := by
  unfold countHello
  dsimp only
  split
  · have hcounted := h.quiet (quiet_setLostBPDU s i (addUnsigned (s.ports i).lostBPDU 1))
    split
    · exact (inv_lostBestBPDU hcounted i).bind fun s' hs' =>
        .pure (hs'.quiet (quiet_setLostBPDU s' i 0))
    · exact .ok hcounted
  · exact .ok h

theorem Inv.scheduled (h : Inv s) {t : SimTime} {kind : SelfKinds} :
    Inv { s with fes := { s.fes with scheduled := s.fes.scheduled ++ [⟨t, kind⟩] } } := by
  refine h.of_frame ⟨rfl, rfl, rfl, rfl, rfl⟩ h.proper h.timely fun i hcarrier hpending => ?_
  obtain ⟨e, he, hrest⟩ := h.armed i hcarrier hpending
  exact ⟨e, List.mem_append_left _ he, hrest⟩

theorem inv_handleHelloTime (h : Inv s) : Returns s.handleHelloTime Inv := by
  refine (Returns.foldlM (fun s i hs => inv_countHello hs i) _ s h).bind fun s' hs' => ?_
  have hsent := hs'.quiet ((quiet_sendBPDUs s').trans (quiet_sendTCNtoRoot _))
  refine (scheduleAt_returns (le_add_of_nonneg_right hsent.hello_nonneg)).bind fun fes hfes => ?_
  subst hfes
  exact .pure hsent.scheduled

/-- What the ports look like when all but `a` of those seen have started again. -/
structure Restarted (s : RSTP n) (a : Fin n) (seen : Fin n → Prop) (s' : RSTP n) : Prop where
  frame : Frame s s'
  self : s'.roles a = s.roles a
  others : ∀ i, seen i → i ≠ a → s'.roles i = startView s.simTime s.migrateTime
  edge : ∀ i, (s'.roles i).edge = false
  timely : Timely s.simTime s.hasCarrier s'.roles
  armed : Armed s'.fes s.hasCarrier s'.roles

variable {seen : Fin n → Prop}

theorem Restarted.quiet (h : Restarted s a seen s') (hquiet : Quiet s' s'') :
    Restarted s a seen s'' := by
  obtain ⟨hframe, hfes, hroles⟩ := hquiet
  refine ⟨h.frame.trans hframe, ?_, ?_, ?_, ?_, ?_⟩
  · rw [hroles]; exact h.self
  · rw [hroles]; exact h.others
  · rw [hroles]; exact h.edge
  · rw [hroles]; exact h.timely
  · rw [hroles, hfes]; exact h.armed

theorem Restarted.start (hdelay : 0 ≤ s.migrateTime)
    (h : Restarted s a seen s') {i : Fin n} (hne : i ≠ a) :
    Returns ((s'.setRoleState i .NOTASSIGNED .DISCARDING).setNextUpgrade i
      (s'.simTime + s'.migrateTime)).scheduleNextUpgrade
      (Restarted s a fun j => seen j ∨ j = i) := by
  have htimely : Timely s'.simTime s'.hasCarrier s'.roles := by
    rw [h.frame.simTime, h.frame.hasCarrier]
    exact h.timely
  have hlater : s'.simTime ≤ s'.simTime + s'.migrateTime := by
    rw [h.frame.migrateTime]
    exact le_add_of_nonneg_right hdelay
  refine (setPending_returns htimely i .NOTASSIGNED .DISCARDING hlater).mono fun t ht => ?_
  obtain ⟨hframe, hroles, htimely', harmed⟩ := ht
  have hother : ∀ j, j ≠ i → t.roles j = s'.roles j := fun j hj => by
    rw [hroles, Function.update_of_ne hj]
  have hstarted : t.roles i = startView s.simTime s.migrateTime := by
    rw [hroles, Function.update_self, h.edge i, h.frame.simTime, h.frame.migrateTime]
    rfl
  refine ⟨h.frame.trans hframe, ?_, fun j hj hja => ?_, fun j => ?_, ?_, ?_⟩
  · rw [hother a hne.symm]
    exact h.self
  · by_cases hji : j = i
    · rw [hji, hstarted]
    · rw [hother j hji]
      exact h.others j (hj.resolve_right hji) hja
  · by_cases hji : j = i
    · rw [hji, hstarted]
      rfl
    · rw [hother j hji]
      exact h.edge j
  · rw [← h.frame.simTime, ← h.frame.hasCarrier]
    exact htimely'
  · rw [← h.frame.hasCarrier]
    exact harmed

theorem Restarted.mono {seen seen' : Fin n → Prop} (h : Restarted s a seen s')
    (hseen : ∀ i, seen' i → i ≠ a → seen i) : Restarted s a seen' s' :=
  ⟨h.frame, h.self, fun i hi hne => h.others i (hseen i hi hne) hne, h.edge, h.timely, h.armed⟩

theorem restarted_contestAgain (hdelay : 0 ≤ s.migrateTime)
    (h : Restarted s a seen s') (i : Fin n) : Returns (contestAgain a s' i)
      (Restarted s a fun j => seen j ∨ j = i) := by
  have hedge : (s'.ports i).edge = false := h.edge i
  unfold contestAgain
  rw [hedge, Bool.not_false, if_pos rfl]
  have hquiet : Quiet s' ((if (s'.ports a).state ≠ .FORWARDING then
      s'.setTCWhile i (s'.simTime + s'.tcWhileTime) else s').emit (.flush i)) := by
    refine Quiet.trans ?_ (quiet_emit _ _)
    split
    · exact quiet_setTCWhile s' i _
    · exact .refl s'
  have hflushed := h.quiet hquiet
  by_cases hne : i ≠ a
  · rw [if_pos hne]
    exact (hflushed.start hdelay hne).bind fun t ht => .pure (ht.quiet (quiet_initInterfacedata t i))
  · rw [if_neg hne]
    exact .ok (hflushed.mono fun j hj hja => hj.resolve_right fun hji => hja (hji.trans (not_not.mp hne)))

theorem restarted_foldlM (hdelay : 0 ≤ s.migrateTime) (l : List (Fin n)) :
    ∀ (seen : Fin n → Prop) (s' : RSTP n), Restarted s a seen s' →
      Returns (l.foldlM (contestAgain a) s') (Restarted s a fun j => seen j ∨ j ∈ l) := by
  induction l with
  | nil => exact fun seen s' h => .pure (h.mono fun i hi _ => hi.resolve_right List.not_mem_nil)
  | cons k l ih =>
    intro seen s' h
    refine (restarted_contestAgain hdelay h k).bind fun t ht => (ih _ t ht).mono fun u hu => ?_
    refine hu.mono fun i hi _ => ?_
    rcases hi with hi | hi
    · exact .inl (.inl hi)
    · rcases List.mem_cons.mp hi with hi | hi
      · exact .inl (.inr hi)
      · exact .inr hi

theorem inv_betterRoot (h : Inv s) (a : Fin n) :
    Returns ((List.finRange n).foldlM (contestAgain a) s) fun s' => Inv (s'.becomeRoot a) := by
  have hstart : Restarted s a (fun _ => False) s :=
    ⟨.refl s, rfl, fun _ hi => hi.elim, h.proper.edge, h.timely, h.armed⟩
  refine (restarted_foldlM h.migrate_nonneg _ _ s hstart).mono fun s' hs' => ?_
  obtain ⟨hframe, hfes, hroles⟩ := roles_becomeRoot s' a
  have hroot : (rootView (s'.roles a)).Root := ⟨rfl, rfl, hs'.edge a⟩
  refine h.of_frame (hs'.frame.trans hframe) ?_ ?_ ?_
  · rw [hroles]
    refine .elect (fun i hi => ?_) hroot
    rw [hs'.others i (.inr (List.mem_finRange i)) hi]
    exact .of_discarding (by simp [startView]) rfl rfl
  · rw [hroles]
    exact hs'.timely.update fun hpending => absurd hpending hroot.not_pending
  · rw [hroles, hfes]
    exact hs'.armed.update hroot.not_pending

/-- The arrival port has the better local port, or it is the root port itself. -/
theorem inv_similar (h : Inv s) (hr : (s.roles r).role = .ROOT) (a : Fin n) :
    Inv ((s.setRoleState r .ALTERNATE .DISCARDING).becomeRoot a) := by
  obtain ⟨hframe, hfes, hroles⟩ := roles_becomeRoot (s.setRoleState r .ALTERNATE .DISCARDING) a
  have hset := roles_setRoleState s r .ALTERNATE .DISCARDING
  have hframe' := (frame_modifyPort s r fun port =>
    { port with role := .ALTERNATE, state := .DISCARDING }).trans hframe
  rw [hset] at hroles
  by_cases hne : a = r
  · subst hne
    rw [Function.update_self, Function.update_idem] at hroles
    exact h.elect hframe' (rootView_root h a) hroles hfes (h.proper.root_of_role hr).2
  · rw [Function.update_of_ne hne] at hroles
    refine h.swap hr hne hframe' (rootView_root h a) (alternateView_follower h r) hroles ?_ ?_
    · exact h.timely.update fun hpending => absurd hpending (alternateView_not_pending _)
    · rw [hfes]
      exact h.armed.update (alternateView_not_pending _)

/-- The port `a` is the root port now, and the old one contests for its LAN. -/
structure Contesting (s : RSTP n) (a r : Fin n) (t : RSTP n) : Prop where
  frame : Frame s t
  fes : t.fes = s.fes
  self : t.roles a = rootView (s.roles a)
  old : ¬ (t.roles r).Pending ∧ (t.roles r).nextUpgrade = (s.roles r).nextUpgrade ∧
    (t.roles r).edge = (s.roles r).edge
  others : ∀ i, i ≠ a → i ≠ r → t.roles i = s.roles i

theorem Contesting.update (h : Contesting s a r s') (hne : a ≠ r) (y : PortView) :
    Function.update s'.roles r y =
      Function.update (Function.update s.roles r y) a (rootView (s.roles a)) := by
  funext i
  by_cases hir : i = r
  · subst hir
    rw [Function.update_self, Function.update_of_ne hne.symm, Function.update_self]
  · rw [Function.update_of_ne hir]
    by_cases hia : i = a
    · rw [hia, h.self, Function.update_self]
    · rw [Function.update_of_ne hia, Function.update_of_ne hir, h.others i hia hir]

theorem Contesting.quiet (h : Contesting s a r s') (hquiet : Quiet s' s'') :
    Contesting s a r s'' := by
  obtain ⟨hframe, hfes, hroles⟩ := hquiet
  refine ⟨h.frame.trans hframe, hfes.trans h.fes, ?_, ?_, ?_⟩
  · rw [hroles]; exact h.self
  · rw [hroles]; exact h.old
  · rw [hroles]; exact h.others

/-- A new root port, while the old one has a role that does not wait for an upgrade. -/
theorem contesting_of_roles {t : RSTP n} (role : PortRole) (hne : a ≠ r) (hframe : Frame s t)
    (hfes : t.fes = s.fes) (hroles : t.roles = Function.update s.roles a (rootView (s.roles a)))
    (hpending : ¬ PortView.Pending
      ⟨role, (s.roles r).state, (s.roles r).nextUpgrade, (s.roles r).edge⟩) :
    Contesting s a r (t.modifyPort r fun port => { port with role := role }) := by
  have hmodify := roles_modifyPort t r fun port => { port with role := role }
  have hr : view { t.ports r with role := role } =
      ⟨role, (s.roles r).state, (s.roles r).nextUpgrade, (s.roles r).edge⟩ := by
    have hsame : t.roles r = s.roles r := by rw [hroles, Function.update_of_ne hne.symm]
    rw [← hsame]
    rfl
  rw [hr, hroles] at hmodify
  refine ⟨hframe.trans (frame_modifyPort t r _), hfes, ?_, ?_, fun i hia hir => ?_⟩
  · rw [hmodify, Function.update_of_ne hne, Function.update_self]
  · rw [hmodify, Function.update_self]
    exact ⟨hpending, rfl, rfl⟩
  · rw [hmodify, Function.update_of_ne hir, Function.update_of_ne hia]

theorem Contesting.exists_root (h : Contesting s a r s') : ∃ i, (s'.roles i).role = .ROOT :=
  ⟨a, by rw [h.self]; rfl⟩

theorem inv_contested_alternate (h : Inv s) (hr : (s.roles r).role = .ROOT) (hne : a ≠ r)
    (hc : Contesting s a r s') : Inv (s'.setRoleState r .ALTERNATE .DISCARDING) := by
  have hroles := roles_setRoleState s' r .ALTERNATE .DISCARDING
  rw [hc.update hne, hc.old.2.1, hc.old.2.2] at hroles
  refine h.swap hr hne (hc.frame.trans (frame_setRoleState s' r _ _)) (rootView_root h a)
    (alternateView_follower h r) hroles ?_ ?_
  · exact h.timely.update fun hpending => absurd hpending (alternateView_not_pending _)
  · change Armed s'.fes _ _
    rw [hc.fes]
    exact h.armed.update (alternateView_not_pending _)

theorem inv_contested_designated (h : Inv s) (hr : (s.roles r).role = .ROOT) (hne : a ≠ r)
    (hc : Contesting s a r s') : Returns (s'.becomeDesignated r) Inv := by
  have htimely : Timely s'.simTime s'.hasCarrier s'.roles := by
    rw [hc.frame.simTime, hc.frame.hasCarrier]
    refine h.timely.of_le fun i hpending => .inl ?_
    by_cases hia : i = a
    · rw [hia, hc.self] at hpending
      exact absurd hpending (rootView_root h a).not_pending
    · by_cases hir : i = r
      · rw [hir] at hpending
        exact absurd hpending hc.old.1
      · exact hc.others i hia hir
  have hdelay : 0 ≤ s'.forwardDelay := by
    rw [hc.frame.forwardDelay]
    exact h.forward_nonneg
  refine (becomeDesignated_returns htimely hdelay r).mono fun t ht => ?_
  obtain ⟨hframe, hroles, htimely', harmed⟩ := ht
  rw [hc.update hne, hc.old.2.2] at hroles
  refine h.of_frame (hc.frame.trans hframe) ?_ ?_ ?_
  · rw [hroles, Function.update_comm hne.symm]
    exact h.proper.swap hr hne (rootView_root h a) (.of_discarding (by simp) rfl (h.proper.edge r))
  · rw [← hc.frame.simTime, ← hc.frame.hasCarrier]
    exact htimely'
  · rw [← hc.frame.hasCarrier]
    exact harmed

theorem inv_challengeRoot (h : Inv s) (hr : (s.roles r).role = .ROOT) (frame : BPDU)
    (hself : a = r → s.compareInterfacedata r frame (s.ports a).linkCost = .SIMILAR) :
    Returns (s.challengeRoot frame a r) fun result => Inv result.2 := by
  unfold challengeRoot
  dsimp only
  have hbetter : a ≠ r → Returns (do
      let s := if (s.ports a).state ≠ .FORWARDING then s.flushOtherPorts a else s
      let s := s.becomeRoot a
      let s := s.modifyPort r fun port => { port with role := .ALTERNATE }
      let s := s.emit (.copyTable r a)
      let case3 ← s.contestInterfacedata r
      if case3.val ≥ 0 then
        return (true, (s.setRoleState r .ALTERNATE .DISCARDING).emit (.flush r))
      else
        let s ← s.becomeDesignated r
        return (true, s) : Except Fault (Bool × RSTP n)) fun result => Inv result.2 := by
    intro hne
    have hquiet : Quiet s (if (s.ports a).state ≠ .FORWARDING then s.flushOtherPorts a else s) := by
      split
      · exact quiet_flushOtherPorts s a
      · exact .refl s
    dsimp only
    generalize (if (s.ports a).state ≠ .FORWARDING then s.flushOtherPorts a else s) = t at hquiet
    have ht := h.quiet hquiet
    have hrt : (t.roles r).role = .ROOT := by
      rw [hquiet.roles]
      exact hr
    obtain ⟨hframe, hfes, hroles⟩ := roles_becomeRoot t a
    have hc := (contesting_of_roles .ALTERNATE hne hframe hfes hroles
      (by rintro (hrole | ⟨hrole, -⟩) <;> cases hrole)).quiet (quiet_emit _ (.copyTable r a))
    refine (contestInterfacedata_returns hc.exists_root r).bind fun case3 _ => ?_
    split
    · exact .pure ((inv_contested_alternate ht hrt hne hc).quiet (quiet_emit _ _))
    · exact (inv_contested_designated ht hrt hne hc).bind fun s' hs' => .pure hs'
  have hworse : a ≠ r → Returns (do
      let case3 ← s.contestInterfacedataWith frame a
      if case3.val < 0 then
        let s ← s.becomeDesignated a
        return (false, s.sendBPDU a)
      else return (false, s.becomeAlternate a) : Except Fault (Bool × RSTP n))
      fun result => Inv result.2 := by
    intro hne
    have ha : (s.roles a).role ≠ .ROOT := ((h.proper.root_of_role hr).2 a hne).1
    refine (contestInterfacedataWith_returns ⟨r, hr⟩ frame a).bind fun case3 _ => ?_
    split
    · exact (inv_becomeDesignated h ha).bind fun s' hs' => .pure (hs'.quiet (quiet_sendBPDU s' a))
    · exact .pure (inv_becomeAlternate h hr hne)
  have hne : ∀ {result}, s.compareInterfacedata r frame (s.ports a).linkCost = result →
      result ≠ .SIMILAR → a ≠ r := fun hresult hnot heq => hnot (hresult.symm.trans (hself heq))
  cases hcase : s.compareInterfacedata r frame (s.ports a).linkCost with
  | SIMILAR =>
    dsimp only
    split
    · next hlocal =>
      have har : a ≠ r := by
        rintro rfl
        rcases hlocal with hlt | ⟨-, hlt⟩
        · exact absurd hlt (lt_irrefl _)
        · exact absurd hlt (lt_irrefl _)
      exact .ok (inv_becomeAlternate h hr har)
    · have hquiet : Quiet s (if (s.ports a).state ≠ .FORWARDING then s.flushOtherPorts a
          else s.emit (.flush r)) := by
        split
        · exact quiet_flushOtherPorts s a
        · exact quiet_emit s _
      have hrt := hr
      rw [← hquiet.roles] at hrt
      exact .ok ((inv_similar (h.quiet hquiet) hrt a).quiet (quiet_emit _ _))
  | BETTER_ROOT => exact (inv_betterRoot h a).bind fun s' hs' => .pure hs'
  | BETTER_RPC | BETTER_SRC | BETTER_PORT => exact hbetter (hne hcase (by decide))
  | WORSE_ROOT => exact .ok (h.quiet (quiet_sendBPDU s a))
  | WORSE_RPC | WORSE_SRC | WORSE_PORT => exact hworse (hne hcase (by decide))

theorem compareTo_self (address : MACAddress) : address.compareTo address = 0 := by
  unfold MACAddress.compareTo
  simp

/-- A port that has just stored a BPDU does not find it better or worse. -/
theorem compareInterfacedata_updateInterfacedata (s : RSTP n) (frame : BPDU) (a : Fin n) :
    (s.updateInterfacedata frame a).compareInterfacedata a frame
      ((s.updateInterfacedata frame a).ports a).linkCost = .SIMILAR := by
  simp [compareInterfacedata, updateInterfacedata, modifyPort, compareRSTPData, compareTo_self]

theorem inv_processBetterSource (h : Inv s) (frame : BPDU) (a : Fin n) :
    Returns (s.processBetterSource frame a) fun result => Inv result.2 := by
  unfold processBetterSource
  have hupdated := h.quiet (quiet_updateInterfacedata s frame a)
  dsimp only
  cases hroot : (s.updateInterfacedata frame a).getRootIndex with
  | none =>
    obtain ⟨hframe, hfes, hroles⟩ := roles_becomeRoot (s.updateInterfacedata frame a) a
    have hnew := hupdated.elect hframe (rootView_root hupdated a) hroles hfes fun i _ =>
      hupdated.proper.follower_of_role (role_ne_of_getRootIndex hroot i)
    exact .ok (hnew.quiet (quiet_flushOtherPorts _ a))
  | some r =>
    refine inv_challengeRoot hupdated (role_of_getRootIndex hroot) frame ?_
    rintro rfl
    exact compareInterfacedata_updateInterfacedata s frame a

theorem quiet_flushAll (s : RSTP n) (l : List (Fin n)) :
    Quiet s (l.foldl (fun s j => s.emit (.flush j)) s) :=
  quiet_foldl (fun s j => quiet_emit s (.flush j)) l s

theorem inv_worseRoot (h : Inv s) (frame : BPDU) (a : Fin n) :
    Returns (s.worseRoot frame a) fun result => Inv result.2 := by
  unfold worseRoot
  split
  · next hroot =>
    cases hbest : s.getBestAlternate with
    | some alternative =>
      have hne := alternate_ne_root (s := s) hroot (role_of_getBestAlternate hbest)
      have hreplaced := inv_replaceRoot h hroot hne
        (fun t => (quiet_emit t (.copyTable a alternative)).trans
          (quiet_flushOtherPorts _ alternative))
        (fun t => (quiet_updateInterfacedata t frame a).trans (quiet_sendBPDU _ a))
      exact hreplaced.bind fun s' hs' => .pure hs'
    | none =>
      refine (inv_initPorts h).bind fun s' hs' => ?_
      obtain ⟨hinv, hstart⟩ := hs'
      have hquiet := quiet_flushAll s' (List.finRange n)
      dsimp only
      split
      · have hquiet' := hquiet.trans (quiet_updateInterfacedata _ frame a)
        have hinv' := hinv.quiet hquiet'
        refine .pure (hinv'.elect (frame_setRoleState _ a _ _) (rootView_root hinv' a)
          (roles_setRoleState _ a .ROOT .FORWARDING) rfl fun i _ => ?_)
        rw [hquiet'.roles, hstart]
        exact .of_discarding (by simp [startView]) rfl rfl
      · exact .pure (hinv.quiet hquiet)
  · next hroot =>
    split
    · exact (inv_becomeDesignated h hroot).bind fun s' hs' =>
        .pure (hs'.quiet ((quiet_updateInterfacedata s' frame a).trans (quiet_sendBPDU _ a)))
    · exact .ok h

theorem inv_giveWay (h : Inv s) (ha : (s.roles a).role = .ROOT) (hne : c ≠ a) (frame : BPDU) :
    Returns (s.giveWay frame a c) Inv := by
  unfold giveWay
  have hset := roles_setRoleState s c .ROOT .FORWARDING
  have hstate : (s.roles a).state = .FORWARDING := (h.proper.root_of_role ha).1.2.1
  have hc := contesting_of_roles .DESIGNATED hne (frame_setRoleState s c _ _) rfl hset (by
    rintro (hrole | ⟨-, hnot⟩)
    · cases hrole
    · exact hnot hstate)
  have hquiet : ∀ t : RSTP n, Quiet t ((t.flushOtherPorts c).emit (.copyTable a c)) := fun t =>
    (quiet_flushOtherPorts t c).trans (quiet_emit _ _)
  refine (contestInterfacedataWith_returns hc.exists_root frame a).bind fun case3 _ => ?_
  split
  · exact (inv_contested_designated h ha hne hc).bind fun s' hs' => .pure (hs'.quiet (hquiet s'))
  · exact .pure ((inv_contested_alternate h ha hne hc).quiet (hquiet _))

theorem inv_worseRoute (h : Inv s) (frame : BPDU) (a : Fin n) :
    Returns (s.worseRoute frame a) fun result => Inv result.2 := by
  unfold worseRoute
  split
  · next hroot =>
    have hlost := quiet_setLostBPDU s a 0
    have hinv := h.quiet hlost
    have ha : ((s.setLostBPDU a 0).roles a).role = .ROOT := by
      rw [hlost.roles]
      exact hroot
    dsimp only
    cases hbest : (s.setLostBPDU a 0).getBestAlternate with
    | none => exact .pure (hinv.quiet (quiet_updateInterfacedata _ frame a))
    | some alternative =>
      have hne := alternate_ne_root ha (role_of_getBestAlternate hbest)
      dsimp only
      split
      · exact (inv_giveWay hinv ha hne frame).bind fun s' hs' =>
          .pure (hs'.quiet (quiet_updateInterfacedata s' frame a))
      · exact .pure (hinv.quiet (quiet_updateInterfacedata _ frame a))
  · next hroot =>
    split
    · next halternate =>
      have hexists : ∃ i, (s.roles i).role = .ROOT := by
        cases h.proper with
        | rooted r hr _ => exact ⟨r, hr.1⟩
        | rootless hothers => exact absurd halternate (hothers a).2
      refine (contestInterfacedataWith_returns hexists frame a).bind fun case2 _ => ?_
      split
      · exact (inv_becomeDesignated h hroot).bind fun s' hs' =>
          .pure (hs'.quiet ((quiet_sendBPDU s' a).trans (quiet_updateInterfacedata _ frame a)))
      · exact .pure ((h.quiet (quiet_setLostBPDU s a 0)).quiet (quiet_updateInterfacedata _ frame a))
    · exact .ok (h.quiet (quiet_updateInterfacedata s frame a))

theorem inv_processSameSource (h : Inv s) (frame : BPDU) (a : Fin n) :
    Returns (s.processSameSource frame a) fun result => Inv result.2 := by
  unfold processSameSource
  split
  · exact .ok (h.quiet (quiet_setLostBPDU s a 0))
  · exact inv_worseRoot h frame a
  · exact inv_worseRoute h frame a
  · exact inv_worseRoute h frame a
  · exact inv_worseRoute h frame a
  · exact .ok h
  · exact .ok h
  · exact .ok h
  · exact .ok h

theorem inv_processBPDU (h : Inv s) (frame : BPDU) (a : Fin n) :
    Returns (s.processBPDU frame a) Inv := by
  have hrest : ∀ result : Bool × RSTP n, Inv result.2 → Returns
      (pure (if result.1 = true then result.2.sendBPDUs.sendTCNtoRoot else result.2) :
        Except Fault (RSTP n)) Inv := by
    intro result hresult
    refine .pure ?_
    split
    · exact hresult.quiet ((quiet_sendBPDUs _).trans (quiet_sendTCNtoRoot _))
    · exact hresult
  unfold processBPDU
  dsimp only
  split
  · exact (inv_processBetterSource h frame a).bind hrest
  · split
    · exact (inv_processSameSource h frame a).bind hrest
    · exact (Returns.ok (P := fun result : Bool × RSTP n => Inv result.2) h).bind hrest

/-- A BPDU of the bridge itself does not take the root port out while there are alternates. -/
def SparesRoot (s : RSTP n) (frame : BPDU) (a : Fin n) : Prop :=
  match s.backupPort frame a with
  | .ok (port, _) => (s.ports port).role = .ROOT → ∀ i, (s.ports i).role ≠ .ALTERNATE
  | .error _ => True

instance (s : RSTP n) (frame : BPDU) (a : Fin n) : Decidable (SparesRoot s frame a) := by
  unfold SparesRoot
  split <;> infer_instance

theorem backupPort_returns {frame : BPDU} (hport : frame.portNum < n) :
    Returns (s.backupPort frame a) fun result => s.backupPort frame a = .ok result ∧
      (result.2 = .BACKUP ∨ result.2 = .DISABLED) := by
  have hget : ∀ role, (do
      let port2 ← getPort (n := n) frame.portNum
      return (port2, role) : Except Fault (Fin n × PortRole)) = .ok (⟨frame.portNum, hport⟩, role) := by
    intro role
    rw [getPort, dif_pos hport]
    rfl
  unfold backupPort
  dsimp only
  split
  · exact ⟨_, rfl, rfl, .inl rfl⟩
  · rw [hget, hget]
    split
    · exact ⟨_, rfl, rfl, .inl rfl⟩
    · exact ⟨_, rfl, rfl, .inr rfl⟩

theorem inv_handleBackup (h : Inv s) {frame : BPDU} (hnum : frame.portNum < n)
    (hspares : SparesRoot s frame a) :
    Returns (s.handleBackup frame a) Inv := by
  unfold handleBackup
  refine (backupPort_returns hnum).bind fun result hresult => ?_
  obtain ⟨port, role⟩ := result
  obtain ⟨hport, hrole⟩ := hresult
  dsimp only at hrole ⊢
  rw [SparesRoot, hport] at hspares
  have hflushed := quiet_emit s (.flush port)
  have hroles := roles_setRoleState (s.emit (.flush port)) port role .DISCARDING
  rw [hflushed.roles] at hroles
  have hpending : ¬ PortView.Pending
      ⟨role, .DISCARDING, (s.roles port).nextUpgrade, (s.roles port).edge⟩ := by
    rintro (hpending | ⟨hpending, -⟩) <;> rcases hrole with rfl | rfl <;> cases hpending
  have hinv : Inv ((s.emit (.flush port)).setRoleState port role .DISCARDING) := by
    refine h.of_frame (hflushed.frame.trans (frame_setRoleState _ port _ _)) ?_ ?_ ?_
    · rw [hroles]
      refine h.proper.follow (.of_discarding ?_ rfl (h.proper.edge port)) hspares ?_
      · rcases hrole with rfl | rfl <;> simp
      · rcases hrole with rfl | rfl <;> exact fun hx => by cases hx
    · rw [hroles]
      exact h.timely.update fun hx => absurd hx hpending
    · rw [hroles]
      exact h.armed.update hpending
  split
  · exact .pure (hinv.quiet (quiet_setLostBPDU _ port 0))
  · exact .pure hinv

/-- The topology change flag does not matter for the port that is taken out. -/
theorem checkTC_kept (s : RSTP n) (frame : BPDU) (a : Fin n) :
    (s.checkTC frame a).bridgeAddress = s.bridgeAddress ∧
      ∀ i, ((s.checkTC frame a).ports i).portPriority = (s.ports i).portPriority := by
  have hloop : ∀ (l : List (Fin n)) (t : RSTP n), (∀ i, (t.ports i).portPriority =
        (s.ports i).portPriority) → t.bridgeAddress = s.bridgeAddress →
      let t' := l.foldl (fun s i => if i ≠ a then
        (s.emit (.flush i)).setTCWhile i (s.simTime + s.tcWhileTime) else s) t
      t'.bridgeAddress = s.bridgeAddress ∧
        ∀ i, (t'.ports i).portPriority = (s.ports i).portPriority := by
    intro l
    induction l with
    | nil => exact fun t hport haddress => ⟨haddress, hport⟩
    | cons j l ih =>
      intro t hport haddress
      refine ih _ (fun i => ?_) ?_
      · dsimp only
        split
        · rw [← hport i]
          change (Function.update t.ports j _ i).portPriority = _
          by_cases hi : i = j
          · rw [hi, Function.update_self]
            rfl
          · rw [Function.update_of_ne hi]
        · exact hport i
      · dsimp only
        split
        · exact haddress
        · exact haddress
  unfold checkTC
  split
  · exact hloop _ s (fun _ => rfl) rfl
  · exact ⟨rfl, fun _ => rfl⟩

theorem sparesRoot_checkTC {frame : BPDU} (h : SparesRoot s frame a) :
    SparesRoot (s.checkTC frame a) frame a := by
  have hrole : ∀ i, ((s.checkTC frame a).ports i).role = (s.ports i).role := fun i =>
    congrArg PortView.role (congrFun (quiet_checkTC s frame a).roles i)
  unfold SparesRoot at h ⊢
  rw [backupPort, (checkTC_kept s frame a).2, ← backupPort]
  split
  · next port _ hport =>
    rw [hport] at h
    intro hroot i
    rw [hrole] at hroot ⊢
    exact h hroot i
  · trivial

end RSTP

end inet

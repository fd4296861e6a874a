import LoRaInet.LinkLayer.Ieee8021d.Rstp.RSTP.AddressTable
import LoRaInet.LinkLayer.Ieee8021d.Rstp.RSTP.Backup
import Mathlib

namespace inet

open omnetpp transition

namespace RSTP

variable {n : ℕ} {s s' s'' : RSTP n} {a c r : Fin n} {frame : BPDU} {table : MACAddressTable}

/-- What the loop over the ports keeps: the port `r` is still the root port, or its entries are gone. -/
def StillRoot (r : Fin n) (s : RSTP n) : Prop :=
  s.Removes ∧ ((s.ports r).role = .ROOT ∨ s.routed (r : ℕ) = none)

theorem StillRoot.of_outputs (h : s.StillRoot r) (houtputs : s'.outputs = s.outputs)
    (hrole : (s.ports r).role = .ROOT → (s'.ports r).role = .ROOT) : s'.StillRoot r := by
  have hrouted := routed_of_outputs houtputs
  refine ⟨fun portno => ?_, ?_⟩
  · rw [hrouted]
    exact h.1 portno
  · rw [hrouted]
    exact h.2.imp_left hrole

theorem lostBestBPDU_yields (h : s.StillRoot r) (i : Fin n) : Yields (s.lostBestBPDU i) (StillRoot r) := by
  obtain ⟨hremoves, hroot⟩ := h
  unfold lostBestBPDU
  split
  · next hi =>
    split
    · next c hc =>
      -- the entries are flushed before they are copied
      have hrole : (s.ports c).role = .ALTERNATE := role_of_getBestAlternate hc
      have hic : i ≠ c := by
        rintro rfl
        rw [hi] at hrole
        cases hrole
      refine (becomeDesignated_yields s i).bind fun s' hs' => .pure ?_
      obtain ⟨houtputs, hroles⟩ := hs'
      generalize hset : ((s'.initInterfacedata i).setRoleState c .ROOT .FORWARDING).setLostBPDU c 0 = t
      have ht : ∀ portno, t.routed portno = s.routed portno := fun portno => by
        rw [← hset]
        exact routed_of_outputs houtputs portno
      have hflushed : ∀ portno, ((t.flushOtherPorts c).emit (.copyTable i c)).routed portno =
          ((s.routed portno).filter (keepOnly c)).map fun q => if q = ((i : ℕ) : Int) then ((c : ℕ) : Int) else q := by
        intro portno
        rw [routed_emit, bind_route_copyTable, routed_flushOtherPorts, ht]
      have hlost := hremoves.loses hflushed (keepOnly_of_ne hic)
      refine ⟨hlost.1, ?_⟩
      rcases hroot with hroot | hgone
      · have hrc : r ≠ c := by
          rintro rfl
          rw [hroot] at hrole
          cases hrole
        refine .inr ?_
        rw [hflushed]
        rcases hremoves (r : ℕ) with hr | hr
        · rw [hr]
          rfl
        · rw [hr, Option.filter_some_neg (keepOnly_of_ne hrc)]
          rfl
      · refine .inr ?_
        rw [hflushed, hgone]
        rfl
    · refine (initPorts_yields s).mono fun s' hs' => ?_
      refine ⟨hremoves.filter hs'.1, .inr ?_⟩
      rw [hs'.1]
      rcases hremoves (r : ℕ) with hr | hr
      · rw [hr]
        rfl
      · rw [hr]
        exact Option.filter_some_neg (decide_eq_false fun hall => hall r rfl)
  · next hi =>
    refine (becomeDesignated_yields s i).bind fun s' hs' => .pure ?_
    obtain ⟨houtputs, hroles⟩ := hs'
    refine StillRoot.of_outputs ⟨hremoves, hroot⟩ houtputs fun hr => ?_
    have hne : r ≠ i := by
      rintro rfl
      exact hi hr
    rw [role_quiet (quiet_initInterfacedata s' i), hroles, if_neg hne, hr]

theorem countHello_yields (h : s.StillRoot r) (i : Fin n) : Yields (s.countHello i) (StillRoot r) := by
  have hset : ∀ {t : RSTP n} {k : ℕ}, t.StillRoot r → (t.setLostBPDU i k).StillRoot r := fun ht =>
    ht.of_outputs rfl fun hr => (role_quiet (quiet_setLostBPDU _ i _) r).trans hr
  unfold countHello
  refine .ite (.ite ?_ ?_) ?_
  · exact (lostBestBPDU_yields (hset h) i).bind fun s' hs' => .pure (hset hs')
  · exact .ok (hset h)
  · exact .ok h

theorem handleHelloTime_yields (h : s.StillRoot r) : Yields s.handleHelloTime (StillRoot r) := by
  refine (Yields.foldlM _ (fun s i _ hs => countHello_yields hs i) s h).bind fun s' hs' => ?_
  refine (Yields.trivial _).bind fun fes _ => .pure ?_
  have hquiet := (quiet_sendBPDUs s').trans (quiet_sendTCNtoRoot s'.sendBPDUs)
  have hrouted : ∀ portno, s'.sendBPDUs.sendTCNtoRoot.routed portno = s'.routed portno := fun portno => by
    rw [routed_sendTCNtoRoot, routed_sendBPDUs]
  have hsent : s'.sendBPDUs.sendTCNtoRoot.StillRoot r := by
    refine ⟨fun portno => ?_, ?_⟩
    · rw [hrouted]
      exact hs'.1 portno
    · rw [hrouted, role_quiet hquiet]
      exact hs'.2
  exact hsent.of_outputs rfl id

/-- What a BPDU that arrives on port `a` does to the root port `r` and to its entries. -/
inductive Outcome (s s' : RSTP n) (r a : Fin n) (keeps : Prop) : Prop where
  | unchanged (hroles : ∀ i, (s'.ports i).role = .ROOT → (s.ports i).role = .ROOT)
  | lost (hnot : ¬keeps) (hloses : s'.Loses r)
  | moved (hkeeps : keeps) (c : Fin n) (keep : Int → Bool) (hroot : (s'.ports c).role = .ROOT)
      (hc : keep (c : ℕ) = true) (hrouted : ∀ portno, s'.routed portno = ((s.routed portno).map
        fun q => if q = ((r : ℕ) : Int) then ((c : ℕ) : Int) else q).filter keep)
  | otherRoot (hroles : ∀ i, (s'.ports i).role = .ROOT → (s.ports i).role = .ROOT ∨ i = a)
      (hother : ¬((s'.ports a).rootPriority = (s.ports r).rootPriority ∧
        (s'.ports a).rootAddress = (s.ports r).rootAddress))

theorem Outcome.of_role {keeps : Prop} {i : Fin n} {role : PortRole} (hrole : role ≠ .ROOT)
    (h : ∀ j, (s'.ports j).role = if j = i then role else (s.ports j).role) : Outcome s s' r a keeps := by
  refine .unchanged fun j hj => ?_
  rw [h] at hj
  split at hj
  · exact absurd hj hrole
  · exact hj

theorem Outcome.quiet {keeps : Prop} (h : Outcome s s' r a keeps) (hquiet : Quiet s' s'')
    (hrouted : ∀ portno, s''.routed portno = s'.routed portno)
    (hroot : (s''.ports a).rootPriority = (s'.ports a).rootPriority ∧
      (s''.ports a).rootAddress = (s'.ports a).rootAddress) : Outcome s s'' r a keeps := by
  have hroles := role_quiet hquiet
  cases h with
  | unchanged h => exact .unchanged fun i hi => h i ((hroles i).symm.trans hi)
  | lost hnot hloses =>
    refine .lost hnot ⟨fun portno => ?_, ?_⟩
    · rw [hrouted]
      exact hloses.1 portno
    · rw [hrouted]
      exact hloses.2
  | moved hkeeps c keep hroot' hc hr =>
    exact .moved hkeeps c keep ((hroles c).trans hroot') hc fun portno => (hrouted portno).trans (hr portno)
  | otherRoot h hother =>
    refine .otherRoot (fun i hi => h i ((hroles i).symm.trans hi)) ?_
    rw [hroot.1, hroot.2]
    exact hother

theorem role_setRoleState (s : RSTP n) (i j : Fin n) (role : PortRole) (state : PortState) :
    ((s.setRoleState i role state).ports j).role = if j = i then role else (s.ports j).role := by
  by_cases hj : j = i
  · subst hj
    simp [setRoleState, modifyPort]
  · simp [setRoleState, modifyPort, hj]

theorem role_becomeRoot (s : RSTP n) (i j : Fin n) :
    ((s.becomeRoot i).ports j).role = if j = i then .ROOT else (s.ports j).role :=
  (role_quiet (quiet_setLostBPDU _ i 0) j).trans (role_setRoleState s i j _ _)

theorem role_becomeAlternate (s : RSTP n) (i j : Fin n) :
    ((s.becomeAlternate i).ports j).role = if j = i then .ALTERNATE else (s.ports j).role :=
  (role_quiet (quiet_setLostBPDU _ i 0) j).trans (role_setRoleState (s.emit (.flush i)) i j _ _)

theorem role_setRole (s : RSTP n) (i j : Fin n) (role : PortRole) :
    ((s.modifyPort i fun port => { port with role := role }).ports j).role =
      if j = i then role else (s.ports j).role := by
  by_cases hj : j = i
  · subst hj
    simp [modifyPort]
  · simp [modifyPort, hj]

theorem root_ne_of_compareInterfacedata {cost : ℕ} (h : s.compareInterfacedata r frame cost = .BETTER_ROOT) :
    ¬(frame.rootPriority = (s.ports r).rootPriority ∧ frame.rootAddress = (s.ports r).rootAddress) := by
  rintro ⟨hpriority, haddress⟩
  unfold compareInterfacedata compareRSTPData at h
  dsimp only at h
  rw [hpriority, haddress, if_neg (by simp), if_neg (by simp [compareTo_self])] at h
  repeat' split at h
  all_goals cases h

/-- Starting again below a new root does not touch what the arrival port stores. -/
theorem contestAgain_yields (s : RSTP n) (i : Fin n) : Yields (contestAgain a s i) fun s' =>
    (∀ j, (s'.ports j).role = .ROOT → (s.ports j).role = .ROOT) ∧
      (s'.ports a).rootPriority = (s.ports a).rootPriority ∧
      (s'.ports a).rootAddress = (s.ports a).rootAddress := by
  unfold contestAgain
  refine .ite ?_ (.ok ⟨fun _ => id, rfl, rfl⟩)
  have hset : ∃ t : RSTP n, t = (if (s.ports a).state ≠ .FORWARDING then
      s.setTCWhile i (s.simTime + s.tcWhileTime) else s) ∧ (∀ j, (t.ports j).role = (s.ports j).role) ∧
      (t.ports a).rootPriority = (s.ports a).rootPriority ∧ (t.ports a).rootAddress = (s.ports a).rootAddress := by
    refine ⟨_, rfl, ?_⟩
    split
    · refine ⟨role_quiet (quiet_setTCWhile s i _), ?_⟩
      by_cases hi : a = i
      · subst hi
        simp [setTCWhile, modifyPort]
      · simp [setTCWhile, modifyPort, hi]
    · exact ⟨fun _ => rfl, rfl, rfl⟩
  obtain ⟨t, ht, hroles, hpriority, haddress⟩ := hset
  rw [← ht]
  split
  · next hi =>
    refine (scheduleNextUpgrade_yields _).bind fun s' hs' => .pure ?_
    obtain ⟨fes, rfl⟩ := hs'
    refine ⟨fun j hj => ?_, ?_, ?_⟩
    · rw [role_quiet (quiet_initInterfacedata _ i)] at hj
      rw [← hroles]
      by_cases hji : j = i
      · subst hji
        simp [setNextUpgrade, setRoleState, modifyPort] at hj
      · simpa [setNextUpgrade, setRoleState, modifyPort, emit, hji] using hj
    · rw [← hpriority]
      simp [initInterfacedata, setNextUpgrade, setRoleState, modifyPort, emit, Ne.symm hi]
    · rw [← haddress]
      simp [initInterfacedata, setNextUpgrade, setRoleState, modifyPort, emit, Ne.symm hi]
  · exact .ok ⟨fun j hj => (hroles j).symm.trans hj, hpriority, haddress⟩

theorem foldlM_contestAgain_yields (s : RSTP n) : Yields ((List.finRange n).foldlM (contestAgain a) s) fun s' =>
    (∀ j, (s'.ports j).role = .ROOT → (s.ports j).role = .ROOT) ∧
      (s'.ports a).rootPriority = (s.ports a).rootPriority ∧
      (s'.ports a).rootAddress = (s.ports a).rootAddress := by
  refine Yields.foldlM _ (fun s' i _ h => ?_) s ⟨fun _ => id, rfl, rfl⟩
  refine (contestAgain_yields s' i).mono fun s'' h' => ?_
  exact ⟨fun j hj => h.1 j (h'.1 j hj), h'.2.1.trans h.2.1, h'.2.2.trans h.2.2⟩

/-- A port with a better way to the same root becomes the root port. -/
theorem betterWay_yields (hremoves : s.Removes) (hne : a ≠ r) : Yields (do
    let s := if (s.ports a).state ≠ .FORWARDING then s.flushOtherPorts a else s
    let s := s.becomeRoot a
    let s := s.modifyPort r fun port => { port with role := .ALTERNATE }
    let s := s.emit (.copyTable r a)
    let case3 ← s.contestInterfacedata r
    if case3.val ≥ 0 then
      return (true, (s.setRoleState r .ALTERNATE .DISCARDING).emit (.flush r))
    else
      let s ← s.becomeDesignated r
      return (true, s) : Except Fault (Bool × RSTP n)) fun result =>
      Outcome s result.2 r a ((s.ports a).state = .FORWARDING) := by
  dsimp only
  generalize hstart : (if (s.ports a).state ≠ .FORWARDING then s.flushOtherPorts a else s) = t
  generalize hcopied : ((t.becomeRoot a).modifyPort r fun port => { port with role := .ALTERNATE }).emit
    (.copyTable r a) = u
  have hroot : (u.ports a).role = .ROOT := by
    rw [← hcopied]
    exact (role_setRole _ r a _).trans ((if_neg hne).trans ((role_becomeRoot t a a).trans (if_pos rfl)))
  have hrouted : ∀ portno, u.routed portno = (t.routed portno).map
      fun q => if q = ((r : ℕ) : Int) then ((a : ℕ) : Int) else q := fun portno => by
    rw [← hcopied, routed_emit, bind_route_copyTable]
    rfl
  -- what follows flushes at most the old root port
  have hrest : ∀ (v : RSTP n) (keep : Int → Bool), (v.ports a).role = .ROOT → keep (a : ℕ) = true →
      (∀ portno, v.routed portno = (u.routed portno).filter keep) →
      Outcome s v r a ((s.ports a).state = .FORWARDING) := by
    intro v keep hv hkeep hfilter
    by_cases hforwarding : (s.ports a).state = .FORWARDING
    · rw [if_neg (not_not.mpr hforwarding)] at hstart
      subst hstart
      refine .moved hforwarding a keep hv hkeep fun portno => ?_
      rw [hfilter, hrouted]
    · rw [if_pos hforwarding] at hstart
      have hlost : u.Loses r := by
        refine hremoves.loses (c := a) (fun portno => ?_) (keepOnly_of_ne hne.symm)
        rw [hrouted, ← hstart, routed_flushOtherPorts]
      exact .lost hforwarding (hlost.filter hfilter)
  refine (Yields.trivial _).bind fun case3 _ => ?_
  split
  · refine .pure (hrest _ (· ≠ ((r : ℕ) : Int)) ?_ ?_ fun portno => ?_)
    · exact (role_setRoleState u r a _ _).trans ((if_neg hne).trans hroot)
    · exact decide_eq_true fun heq => hne (Fin.ext (Int.natCast_inj.mp heq))
    · rw [routed_emit, bind_route_flush]
      rfl
  · refine (becomeDesignated_yields u r).bind fun v hv => .pure ?_
    refine hrest v (fun _ => true) ?_ rfl fun portno => ?_
    · rw [hv.2, if_neg hne]
      exact hroot
    · rw [routed_of_outputs hv.1]
      exact (filter_eq_self fun _ => rfl).symm

theorem challengeRoot_yields (hremoves : s.Removes) (hne : a ≠ r) (hroot : (s.ports a).rootPriority =
      frame.rootPriority ∧ (s.ports a).rootAddress = frame.rootAddress) :
    Yields (s.challengeRoot frame a r) fun result => Outcome s result.2 r a
      ((s.ports a).state = .FORWARDING ∧ s.compareInterfacedata r frame (s.ports a).linkCost ≠ .SIMILAR) := by
  unfold challengeRoot
  dsimp only
  have hworse : Yields (do
      let case3 ← s.contestInterfacedataWith frame a
      if case3.val < 0 then
        let s ← s.becomeDesignated a
        return (false, s.sendBPDU a)
      else return (false, s.becomeAlternate a) : Except Fault (Bool × RSTP n)) fun result =>
        ∀ keeps, Outcome s result.2 r a keeps := by
    refine (Yields.trivial _).bind fun case3 _ => ?_
    split
    · refine (becomeDesignated_yields s a).bind fun s' hs' => .pure fun keeps => ?_
      have hroles : ∀ j, ((s'.sendBPDU a).ports j).role = if j = a then .DESIGNATED else (s.ports j).role :=
        fun j => (role_quiet (quiet_sendBPDU s' a) j).trans (hs'.2 j)
      exact .of_role (by decide) hroles
    · exact .pure fun keeps => .of_role (by decide) (role_becomeAlternate s a)
  have hbetter := (betterWay_yields hremoves hne).mono fun result hresult =>
    (show s.compareInterfacedata r frame (s.ports a).linkCost ≠ .SIMILAR → Outcome s result.2 r a
      ((s.ports a).state = .FORWARDING ∧ s.compareInterfacedata r frame (s.ports a).linkCost ≠ .SIMILAR)
      from fun hnot => by rwa [and_iff_left hnot])
  cases hcase : s.compareInterfacedata r frame (s.ports a).linkCost with
  | SIMILAR =>
    dsimp only
    split
    · exact .ok (.of_role (by decide) (role_becomeAlternate s a))
    · refine .ok (.lost (fun h => h.2 rfl) ?_)
      split
      · refine hremoves.loses (c := a) (fun portno => ?_) (keepOnly_of_ne hne.symm)
        rw [routed_emit, bind_route_copyTable, ← routed_flushOtherPorts]
        rfl
      · have hflushed : (s.emit (.flush r)).Loses r := by
          refine hremoves.flush fun portno => ?_
          rw [routed_emit, bind_route_flush]
        refine hflushed.copied (c := a) (k := fun _ => true) fun portno => ?_
        rw [routed_emit, bind_route_copyTable]
        exact (filter_eq_self fun _ => rfl).symm
  | BETTER_ROOT =>
    refine (foldlM_contestAgain_yields s).bind fun s' hs' => .pure ?_
    refine .otherRoot (fun i hi => ?_) ?_
    · rw [role_becomeRoot] at hi
      split at hi
      · next heq => exact .inr heq
      · exact .inl (hs'.1 i hi)
    · have hkept : ((s'.becomeRoot a).ports a).rootPriority = (s'.ports a).rootPriority ∧
          ((s'.becomeRoot a).ports a).rootAddress = (s'.ports a).rootAddress := by
        simp [becomeRoot, setRoleState, setLostBPDU, modifyPort]
      rw [hkept.1, hkept.2, hs'.2.1, hs'.2.2, hroot.1, hroot.2]
      exact root_ne_of_compareInterfacedata hcase
  | BETTER_RPC | BETTER_SRC | BETTER_PORT =>
    exact hbetter.mono fun result h => by rw [hcase] at h; exact h (by decide)
  | WORSE_ROOT => exact .ok (.unchanged fun i hi => (role_quiet (quiet_sendBPDU s a) i).symm.trans hi)
  | WORSE_RPC | WORSE_SRC | WORSE_PORT => exact hworse.mono fun result h => h _

theorem Outcome.of_stored {u : RSTP n} {keeps : Prop} (h : Outcome u s' r a keeps)
    (hroles : ∀ i, (u.ports i).role = (s.ports i).role) (hrouted : ∀ portno, u.routed portno = s.routed portno)
    (hroot : (u.ports r).rootPriority = (s.ports r).rootPriority ∧
      (u.ports r).rootAddress = (s.ports r).rootAddress) : Outcome s s' r a keeps := by
  cases h with
  | unchanged h => exact .unchanged fun i hi => (hroles i).symm.trans (h i hi)
  | lost hnot hloses => exact .lost hnot hloses
  | moved hkeeps c keep hroot' hc hr =>
    refine .moved hkeeps c keep hroot' hc fun portno => ?_
    rw [hr, hrouted]
  | otherRoot h hother =>
    refine .otherRoot (fun i hi => ?_) ?_
    · rw [← hroles]
      exact h i hi
    · rw [← hroot.1, ← hroot.2]
      exact hother

/-- The port `r` is the root port. -/
def RootPort (s : RSTP n) (r : Fin n) : Prop := ∀ i, (s.ports i).role = .ROOT ↔ i = r

theorem RootPort.getRootIndex (h : s.RootPort r) : s.getRootIndex = some r := by
  cases hroot : s.getRootIndex with
  | none => exact absurd ((h r).mpr rfl) (role_ne_of_getRootIndex hroot r)
  | some i => exact congrArg some ((h i).mp (role_of_getRootIndex hroot))

theorem RootPort.of_role (h : s.RootPort r) (hroles : ∀ i, (s'.ports i).role = (s.ports i).role) :
    s'.RootPort r := fun i => by rw [hroles, h i]

/-- When the entries for the root port go to its successor. -/
def Keeping (s : RSTP n) (frame : BPDU) (a r : Fin n) : Prop :=
  if a = r then s.compareInterfacedata r frame (s.ports r).linkCost = .WORSE_ROOT
  else (s.ports a).state = .FORWARDING ∧ s.compareInterfacedata r frame (s.ports a).linkCost ≠ .SIMILAR
deriving Decidable

theorem processBetterSource_yields (hremoves : s.Removes) (hr : s.RootPort r) (frame : BPDU) (a : Fin n) :
    Yields (s.processBetterSource frame a) fun result => Outcome s result.2 r a (s.Keeping frame a r) := by
  unfold processBetterSource
  have hupdated := role_quiet (quiet_updateInterfacedata s frame a)
  dsimp only
  rw [(hr.of_role hupdated).getRootIndex]
  by_cases hne : a = r
  · -- the root port itself stays the root port
    subst hne
    unfold challengeRoot
    dsimp only
    rw [compareInterfacedata_updateInterfacedata s frame a]
    rw [if_neg (by simp)]
    refine .ok (.unchanged fun i hi => (hr i).mpr ?_)
    by_contra hi'
    refine hi' ((hr i).mp ?_)
    rw [← hupdated]
    have hrole := role_becomeRoot (((if ((s.updateInterfacedata frame a).ports a).state ≠ .FORWARDING
      then (s.updateInterfacedata frame a).flushOtherPorts a
      else (s.updateInterfacedata frame a).emit (.flush a))).setRoleState a .ALTERNATE .DISCARDING) a i
    rw [if_neg hi', role_setRoleState, if_neg hi'] at hrole
    have hflush : ((if ((s.updateInterfacedata frame a).ports a).state ≠ .FORWARDING
      then (s.updateInterfacedata frame a).flushOtherPorts a
      else (s.updateInterfacedata frame a).emit (.flush a)).ports i).role =
        ((s.updateInterfacedata frame a).ports i).role := by
      split
      · exact role_quiet (quiet_flushOtherPorts _ a) i
      · rfl
    exact (hflush.symm.trans hrole.symm).trans hi
  · have hother : ∀ i, i ≠ a → (s.updateInterfacedata frame a).ports i = s.ports i := fun i hi => by
      simp [updateInterfacedata, modifyPort, hi]
    have hcompare : (s.updateInterfacedata frame a).compareInterfacedata r frame
        ((s.updateInterfacedata frame a).ports a).linkCost =
          s.compareInterfacedata r frame (s.ports a).linkCost := by
      unfold compareInterfacedata
      rw [hother r (Ne.symm hne)]
      simp [updateInterfacedata, modifyPort]
    have hstate : ((s.updateInterfacedata frame a).ports a).state = (s.ports a).state := by
      simp [updateInterfacedata, modifyPort]
    have hstored : ((s.updateInterfacedata frame a).ports a).rootPriority = frame.rootPriority ∧
        ((s.updateInterfacedata frame a).ports a).rootAddress = frame.rootAddress := by
      simp [updateInterfacedata, modifyPort]
    have hchallenge := challengeRoot_yields (s := s.updateInterfacedata frame a) hremoves hne hstored
    rw [hcompare, hstate] at hchallenge
    unfold Keeping
    rw [if_neg hne]
    refine hchallenge.mono fun result h => h.of_stored hupdated (fun _ => rfl) ?_
    rw [hother r (Ne.symm hne)]
    exact ⟨rfl, rfl⟩

/-- A port other than the root port is designated, or stays what it is. -/
theorem processSameSource_other (hr : s.RootPort r) (hne : a ≠ r) (frame : BPDU) :
    Yields (s.processSameSource frame a) fun result =>
      ∀ i, (result.2.ports i).role = .ROOT → (s.ports i).role = .ROOT := by
  have ha : (s.ports a).role ≠ .ROOT := fun hroot => hne ((hr a).mp hroot)
  have hdesignated : ∀ {s' t : RSTP n}, (∀ j, (s'.ports j).role = if j = a then .DESIGNATED else (s.ports j).role) →
      Quiet s' t → ∀ i, (t.ports i).role = .ROOT → (s.ports i).role = .ROOT := by
    intro s' t hs' hquiet i hi
    rw [role_quiet hquiet, hs'] at hi
    split at hi
    · cases hi
    · exact hi
  have hsame : ∀ {t : RSTP n}, Quiet s t → ∀ i, (t.ports i).role = .ROOT → (s.ports i).role = .ROOT :=
    fun hquiet i hi => (role_quiet hquiet i).symm.trans hi
  have hroute : Yields (s.worseRoute frame a) fun result =>
      ∀ i, (result.2.ports i).role = .ROOT → (s.ports i).role = .ROOT := by
    unfold worseRoute
    rw [if_neg ha]
    refine .ite ?_ ?_
    · refine (Yields.trivial _).bind fun case2 _ => ?_
      split
      · refine (becomeDesignated_yields s a).bind fun s' hs' => .pure ?_
        exact hdesignated hs'.2 ((quiet_sendBPDU s' a).trans (quiet_updateInterfacedata _ frame a))
      · exact .pure (hsame ((quiet_setLostBPDU s a 0).trans (quiet_updateInterfacedata _ frame a)))
    · exact .ok (hsame (quiet_updateInterfacedata s frame a))
  unfold processSameSource
  cases s.compareInterfacedata a frame (s.ports a).linkCost with
  | SIMILAR => exact .ok (hsame (quiet_setLostBPDU s a 0))
  | WORSE_ROOT =>
    unfold worseRoot
    rw [if_neg ha]
    refine .ite ?_ (.ok fun _ => id)
    refine (becomeDesignated_yields s a).bind fun s' hs' => .pure ?_
    exact hdesignated hs'.2 ((quiet_updateInterfacedata s' frame a).trans (quiet_sendBPDU _ a))
  | WORSE_RPC | WORSE_SRC | WORSE_PORT => exact hroute
  | BETTER_ROOT | BETTER_RPC | BETTER_SRC | BETTER_PORT => exact .ok fun _ => id

/-- The source of the root port has a worse root: the entries are copied before the other ports are flushed. -/
theorem worseRoot_yields (hr : s.RootPort r) (frame : BPDU) (keeps : Prop) (hkeeps : keeps) :
    Yields (s.worseRoot frame r) fun result => Outcome s result.2 r r keeps := by
  have hroot : (s.ports r).role = .ROOT := (hr r).mpr rfl
  unfold worseRoot
  rw [if_pos hroot]
  split
  · next c hc =>
    have hrole : (s.ports c).role = .ALTERNATE := role_of_getBestAlternate hc
    have hne : r ≠ c := by
      rintro rfl
      rw [hroot] at hrole
      cases hrole
    refine (becomeDesignated_yields s r).bind fun s' hs' => .pure ?_
    generalize ht : (s'.emit (.copyTable r c)).flushOtherPorts c = t
    have hquiet := (quiet_updateInterfacedata (t.setRoleState c .ROOT .FORWARDING) frame r).trans
      (quiet_sendBPDU _ r)
    refine .moved hkeeps c (keepOnly c) ?_ (keepOnly_self c) fun portno => ?_
    · rw [role_quiet hquiet, role_setRoleState, if_pos rfl]
    · rw [routed_sendBPDU]
      change t.routed portno = _
      rw [← ht, routed_flushOtherPorts, routed_emit, bind_route_copyTable, routed_of_outputs hs'.1]
  · -- only the port itself can be the root port again
    refine (initPorts_yields s).bind fun s' hs' => ?_
    generalize ht : (List.finRange n).foldl (fun s j => s.emit (.flush j)) s' = t
    have hnone : ∀ i, (t.ports i).role ≠ .ROOT := fun i => by
      rw [← ht, role_quiet (quiet_foldl (fun s j => quiet_emit s (.flush j)) _ s')]
      exact hs'.2 i
    dsimp only
    split
    · refine .pure (.unchanged fun i hi => (hr i).mpr ?_)
      rw [role_setRoleState] at hi
      split at hi
      · next heq => exact heq
      · rw [role_quiet (quiet_updateInterfacedata t frame r)] at hi
        exact absurd hi (hnone i)
    · exact .pure (.unchanged fun i hi => absurd hi (hnone i))

/-- The source of the root port has a worse route: the other ports are flushed before the entries are copied. -/
theorem worseRoute_yields (hremoves : s.Removes) (hr : s.RootPort r) (frame : BPDU) (keeps : Prop)
    (hnot : ¬keeps) : Yields (s.worseRoute frame r) fun result => Outcome s result.2 r r keeps := by
  have hroot : (s.ports r).role = .ROOT := (hr r).mpr rfl
  generalize hu : s.setLostBPDU r 0 = u
  have hquiet : Quiet s u := hu ▸ quiet_setLostBPDU s r 0
  have hrouted : ∀ portno, u.routed portno = s.routed portno := fun portno => by rw [← hu]; rfl
  have hsame : Outcome s (u.updateInterfacedata frame r) r r keeps := .unchanged fun i hi => by
    rwa [role_quiet (quiet_updateInterfacedata u frame r), role_quiet hquiet] at hi
  unfold worseRoute
  rw [if_pos hroot]
  dsimp only
  rw [hu]
  have hkept : Yields (do
      let s ← Except.ok u
      pure (true, s.updateInterfacedata frame r) : Except Fault (Bool × RSTP n)) fun result =>
        Outcome s result.2 r r keeps := .pure hsame
  split
  · next c hc =>
    refine .ite ?_ hkept
    have hrole : (u.ports c).role = .ALTERNATE := role_of_getBestAlternate hc
    have hne : r ≠ c := by
      rintro rfl
      rw [role_quiet hquiet, hroot] at hrole
      cases hrole
    have hlost : ∀ t : RSTP n, t.outputs = u.outputs →
        ((t.flushOtherPorts c).emit (.copyTable r c)).Loses r := by
      intro t ht
      refine hremoves.loses (c := c) (fun portno => ?_) (keepOnly_of_ne hne)
      rw [routed_emit, bind_route_copyTable, routed_flushOtherPorts, routed_of_outputs ht, hrouted]
    have hgive : Yields (u.giveWay frame r c) fun s' => s'.Loses r := by
      unfold giveWay
      refine (Yields.trivial _).bind fun case3 _ => ?_
      split
      · exact (becomeDesignated_yields _ r).bind fun s' hs' => .pure (hlost s' hs'.1)
      · exact .pure (hlost _ rfl)
    exact hgive.bind fun s' hs' => .pure (.lost hnot hs')
  · exact hkept

/-- The root port, and the entries for it, when a BPDU has been processed. -/
theorem processBPDU_yields (hremoves : s.Removes) (hr : s.RootPort r) (frame : BPDU) (a : Fin n) :
    Yields (s.processBPDU frame a) fun s' => Outcome s s' r a (s.Keeping frame a r) := by
  have hsource : Yields (s.processSameSource frame a) fun result =>
      Outcome s result.2 r a (s.Keeping frame a r) := by
    by_cases hne : a = r
    · subst hne
      unfold processSameSource Keeping
      rw [if_pos rfl]
      cases hcase : s.compareInterfacedata a frame (s.ports a).linkCost with
      | SIMILAR => exact .ok (.unchanged fun i hi => (role_quiet (quiet_setLostBPDU s a 0) i).symm.trans hi)
      | WORSE_ROOT => exact worseRoot_yields hr frame _ rfl
      | WORSE_RPC | WORSE_SRC | WORSE_PORT =>
        exact worseRoute_yields hremoves hr frame _ (by decide)
      | BETTER_ROOT | BETTER_RPC | BETTER_SRC | BETTER_PORT => exact .ok (.unchanged fun _ => id)
    · exact (processSameSource_other hr hne frame).mono fun result h => .unchanged h
  have hflood : ∀ result : Bool × RSTP n, Outcome s result.2 r a (s.Keeping frame a r) →
      Outcome s (if result.1 then result.2.sendBPDUs.sendTCNtoRoot else result.2) r a (s.Keeping frame a r) := by
    intro result h
    split
    · refine h.quiet ((quiet_sendBPDUs result.2).trans (quiet_sendTCNtoRoot _)) (fun portno => ?_) ?_
      · rw [routed_sendTCNtoRoot, routed_sendBPDUs]
      · rw [ports_sendTCNtoRoot, ports_sendBPDUs]
        exact ⟨rfl, rfl⟩
    · exact h
  unfold processBPDU
  refine .ite ?_ (.ite ?_ ?_)
  · exact (processBetterSource_yields hremoves hr frame a).bind fun result h => .pure (hflood result h)
  · exact hsource.bind fun result h => .pure (hflood result h)
  · exact .pure (hflood (false, s) (.unchanged fun _ => id))

theorem handleBackup_yields (s : RSTP n) (frame : BPDU) (a : Fin n) : Yields (s.handleBackup frame a) fun s' =>
    ∀ i, (s'.ports i).role = .ROOT → (s.ports i).role = .ROOT := by
  have htaken : Yields (s.backupPort frame a) fun taken => taken.2 ≠ .ROOT := by
    unfold backupPort
    refine .ite (.ok (by simp)) (.ite ?_ ?_)
    · exact (Yields.trivial _).bind fun port _ => .pure (by simp)
    · exact (Yields.trivial _).bind fun port _ => .pure (by simp)
  unfold handleBackup
  refine htaken.bind fun taken htaken' => .pure fun i hi => ?_
  have hset : (((s.emit (.flush taken.1)).setRoleState taken.1 taken.2 .DISCARDING).ports i).role = .ROOT := by
    split at hi
    · exact (role_quiet (quiet_setLostBPDU _ taken.1 0) i).symm.trans hi
    · exact hi
  rw [role_setRoleState] at hset
  split at hset
  · exact absurd hset htaken'
  · exact hset

theorem routed_checkTC (s : RSTP n) (frame : BPDU) (a : Fin n) (portno : Int) :
    (s.checkTC frame a).routed portno = if frame.tcFlag = true ∧ (s.ports a).state = .FORWARDING then
      (s.routed portno).filter (keepOnly a) else s.routed portno := by
  unfold checkTC
  split
  · have hloop := @routed_foldl_flush n (fun s i =>
      if i ≠ a then (s.emit (.flush i)).setTCWhile i (s.simTime + s.tcWhileTime) else s) (fun i => i ≠ a) _
      (fun s i portno => by
        split
        · rw [← bind_route_flush, ← routed_emit]
          rfl
        · rfl) (List.finRange n) s portno
    simp only [List.mem_finRange, forall_const] at hloop
    exact hloop
  · rfl

def withTCWhile (port : Ieee8021dInterfaceData) (t : SimTime) : Ieee8021dInterfaceData :=
  { port with TCWhile := t }

theorem ports_setTCWhile (s : RSTP n) (i j : Fin n) (t : SimTime) :
    (s.setTCWhile j t).ports i = if i = j then withTCWhile (s.ports i) t else s.ports i := by
  by_cases hi : i = j
  · subst hi
    simp [setTCWhile, modifyPort, withTCWhile]
  · simp [setTCWhile, modifyPort, hi]

theorem ports_checkTC (s : RSTP n) (frame : BPDU) (a i : Fin n) :
    ∃ t, (s.checkTC frame a).ports i = withTCWhile (s.ports i) t := by
  have hloop : ∀ (l : List (Fin n)) (u : RSTP n), (∃ t, u.ports i = withTCWhile (s.ports i) t) →
      ∃ t, (l.foldl (fun s i => if i ≠ a then
        (s.emit (.flush i)).setTCWhile i (s.simTime + s.tcWhileTime) else s) u).ports i =
          withTCWhile (s.ports i) t := by
    intro l
    induction l with
    | nil => exact fun u h => h
    | cons j l ih =>
      intro u h
      refine ih _ ?_
      dsimp only
      split
      · rw [ports_setTCWhile]
        split
        · obtain ⟨t, ht⟩ := h
          refine ⟨u.simTime + u.tcWhileTime, ?_⟩
          change withTCWhile (u.ports i) _ = _
          rw [ht]
          rfl
        · exact h
      · exact h
  unfold checkTC
  split
  · exact hloop _ s ⟨_, rfl⟩
  · exact ⟨_, rfl⟩

theorem keeping_checkTC (s : RSTP n) (frame : BPDU) (a r : Fin n) :
    (s.checkTC frame a).Keeping frame a r ↔ s.Keeping frame a r := by
  obtain ⟨t, ht⟩ := ports_checkTC s frame a r
  obtain ⟨t', ht'⟩ := ports_checkTC s frame a a
  unfold Keeping compareInterfacedata
  rw [ht, ht']
  rfl

/-- The entries for the old root port `r` are entries for the new one, and the others are gone or as they were. -/
structure KeepsLearned (table table' : MACAddressTable) (r a : Fin n) : Prop where
  rid : ∀ v address entry, table'.find v address = some entry → entry.portno ≠ (r : ℕ)
  moved : ∀ v address entry, table.find v address = some entry → entry.portno = (r : ℕ) →
    table'.find v address = some { entry with portno := (a : ℕ) }
  others : ∀ v address, (∀ entry ∈ table.find v address, entry.portno ≠ (r : ℕ)) →
    table'.find v address = none ∨ table'.find v address = table.find v address

theorem find_applied_of_route {v : ℕ} {address : MACAddress} {entry : AddressEntry}
    (hentry : table.find v address = some entry) : (s.applied table).find v address =
      (s.routed entry.portno).map fun portno => { entry with portno := portno } := by
  rw [find_applied, hentry, Option.bind_some]

theorem Moves.keepsLearned (h : s.Moves r a) (hne : a ≠ r) (table : MACAddressTable) :
    KeepsLearned table (s.applied table) r a where
  rid v address entry hentry := by
    rw [find_applied] at hentry
    obtain ⟨old, hold, hentry⟩ := Option.bind_eq_some_iff.mp hentry
    obtain ⟨portno, hportno, rfl⟩ := Option.map_eq_some_iff.mp hentry
    by_cases hport : old.portno = (r : ℕ)
    · rw [hport, h.1] at hportno
      rw [← Option.some.inj hportno]
      exact fun heq => hne (Fin.ext (Int.natCast_inj.mp heq))
    · rcases h.2 _ hport with hnone | hsame
      · rw [hnone] at hportno
        cases hportno
      · rw [hsame] at hportno
        rw [← Option.some.inj hportno]
        exact hport
  moved v address entry hentry hport := by
    rw [find_applied_of_route hentry, hport, h.1]
    rfl
  others v address hother := by
    cases hentry : table.find v address with
    | none => exact .inl (by rw [find_applied, hentry]; rfl)
    | some entry =>
      rw [find_applied_of_route hentry]
      rcases h.2 _ (hother entry hentry) with hnone | hsame
      · exact .inl (by rw [hnone]; rfl)
      · exact .inr (by rw [hsame]; rfl)

theorem Loses.learned_iff (h : s.Loses r) (a : Fin n) (table : MACAddressTable) :
    KeepsLearned table (s.applied table) r a ↔
      ∀ v address entry, table.find v address = some entry → entry.portno ≠ (r : ℕ) := by
  constructor
  · intro hkeeps v address entry hentry hport
    have hmoved := hkeeps.moved v address entry hentry hport
    rw [find_applied_of_route hentry, hport, h.2] at hmoved
    cases hmoved
  · intro hnone
    refine ⟨fun v address entry hentry => ?_, fun v address entry hentry hport => ?_, fun v address _ => ?_⟩
    · rw [find_applied] at hentry
      obtain ⟨old, hold, hentry⟩ := Option.bind_eq_some_iff.mp hentry
      obtain ⟨portno, hportno, rfl⟩ := Option.map_eq_some_iff.mp hentry
      rcases h.1 old.portno with hgone | hsame
      · rw [hgone] at hportno
        cases hportno
      · rw [hsame] at hportno
        rw [← Option.some.inj hportno]
        exact hnone v address old hold
    · exact absurd hport (hnone v address entry hentry)
    · cases hentry : table.find v address with
      | none => exact .inl (by rw [find_applied, hentry]; rfl)
      | some entry =>
        rw [find_applied_of_route hentry]
        rcases h.1 entry.portno with hgone | hsame
        · exact .inl (by rw [hgone]; rfl)
        · exact .inr (by rw [hsame]; rfl)

/-- When an event that changes the root port keeps what was learned on it: the source of the root port has a worse root,
or another port, which forwards already, has a better way to the root, without a topology change. -/
def Keeps (s : RSTP n) (r : Fin n) : Event n → Prop
  | .bpdu _ a _ frame => s.Keeping frame a r ∧ (a ≠ r → frame.tcFlag = false)
  | _ => False

/-- A root port is replaced by another port to the same root. -/
structure Replaces (s s' : RSTP n) (r a : Fin n) : Prop where
  before : s.RootPort r
  after : s'.RootPort a
  ne : a ≠ r
  sameRoot : (s'.ports a).rootPriority = (s.ports r).rootPriority ∧
    (s'.ports a).rootAddress = (s.ports r).rootAddress

theorem Replaces.not_unchanged (h : s.Replaces s' r a)
    (hroles : ∀ i, (s'.ports i).role = .ROOT → (s.ports i).role = .ROOT) : False :=
  h.ne ((h.before a).mp (hroles a ((h.after a).mpr rfl)))

theorem handleUpgrade_yields (s : RSTP n) : Yields s.handleUpgrade fun s' =>
    ∀ i, (s'.ports i).role = .ROOT → (s.ports i).role = .ROOT := by
  have hupgrade : ∀ (s : RSTP n) (i j : Fin n), ((s.upgradePort i).ports j).role = .ROOT →
      (s.ports j).role = .ROOT := by
    intro s i j hj
    have hset : ∀ state, ((s.setRoleState i .DESIGNATED state).ports j).role = .ROOT →
        (s.ports j).role = .ROOT := by
      intro state h
      rw [role_setRoleState] at h
      split at h
      · cases h
      · exact h
    have hlater : ∀ state t, (((s.setRoleState i .DESIGNATED state).setNextUpgrade i t).ports j).role = .ROOT →
        (s.ports j).role = .ROOT := by
      intro state t h
      refine hset state ?_
      by_cases hji : j = i
      · subst hji
        simpa [setNextUpgrade, modifyPort] using h
      · simpa [setNextUpgrade, modifyPort, hji] using h
    unfold upgradePort at hj
    dsimp only at hj
    split at hj
    · split at hj
      · exact hlater _ _ hj
      · split at hj
        · split at hj
          · exact hlater _ _ hj
          · exact hset .FORWARDING ((role_quiet (quiet_flushOtherPorts _ i) j).symm.trans hj)
          · exact hj
        · exact hj
    · exact hj
  have hloop : ∀ (l : List (Fin n)) (s : RSTP n) (j : Fin n), ((l.foldl upgradePort s).ports j).role = .ROOT →
      (s.ports j).role = .ROOT := by
    intro l
    induction l with
    | nil => exact fun s j h => h
    | cons i l ih => exact fun s j h => hupgrade s i j (ih _ j h)
  refine (scheduleNextUpgrade_yields _).mono fun s' hs' i hi => ?_
  obtain ⟨fes, rfl⟩ := hs'
  exact hloop _ s i hi

theorem receiveSignal_yields (s : RSTP n) (i : Fin n) : Yields (s.receiveSignal i) fun s' =>
    ∀ j, (s'.ports j).role = .ROOT → (s.ports j).role = .ROOT := by
  have hlater : ∀ t j, ((s.setNextUpgrade i t).ports j).role = (s.ports j).role := by
    intro t j
    by_cases hj : j = i
    · subst hj
      simp [setNextUpgrade, modifyPort]
    · simp [setNextUpgrade, modifyPort, hj]
  unfold receiveSignal
  refine .ite ?_ (.ok fun _ => id)
  refine (scheduleNextUpgrade_yields _).mono fun s' hs' j hj => ?_
  obtain ⟨fes, rfl⟩ := hs'
  dsimp only at hj
  split at hj
  · rwa [hlater] at hj
  · split at hj
    · rwa [hlater] at hj
    · exact hj

theorem handleIncomingFrame_yields {src : MACAddress} {c : Fin n} (hstart : ∀ portno, s.routed portno = some portno)
    (frame : BPDU) (a : Fin n) : Yields (s.handleIncomingFrame frame src a) fun s' => s.Replaces s' r c →
      if s.Keeping frame a r ∧ (a ≠ r → frame.tcFlag = false) then s'.Moves r c else s'.Loses r := by
  have hquiet := quiet_checkTC s frame a
  unfold handleIncomingFrame
  refine .ite ?_ (.ok fun h => absurd (h.not_unchanged fun _ => id) id)
  dsimp only
  split
  · refine (handleBackup_yields _ frame a).mono fun s' hs' h => absurd (h.not_unchanged fun i hi => ?_) id
    rw [← role_quiet hquiet]
    exact hs' i hi
  · by_cases hr : s.RootPort r
    · have hremoves : (s.checkTC frame a).Removes := by
        intro portno
        rw [routed_checkTC]
        split
        · rw [hstart, Option.filter_some]
          split
          · exact .inr rfl
          · exact .inl rfl
        · exact .inr (hstart portno)
      refine (processBPDU_yields hremoves (hr.of_role (role_quiet hquiet)) frame a).mono fun s' hs' h => ?_
      have hcases : s'.Loses r ∧ ¬s.Keeping frame a r ∨ s.Keeping frame a r ∧ ∃ keep : Int → Bool,
          keep (c : ℕ) = true ∧ ∀ portno, s'.routed portno = (((s.checkTC frame a).routed portno).map
            fun q => if q = ((r : ℕ) : Int) then ((c : ℕ) : Int) else q).filter keep := by
        cases hs' with
        | unchanged hroles =>
          exact absurd (h.not_unchanged fun i hi => (role_quiet hquiet i).symm.trans (hroles i hi)) id
        | lost hnot hloses => exact .inl ⟨hloses, fun hkeeping => hnot ((keeping_checkTC s frame a r).mpr hkeeping)⟩
        | moved hkeeps c' keep hroot hc hrouted =>
          obtain rfl := (h.after c').mp hroot
          exact .inr ⟨(keeping_checkTC s frame a r).mp hkeeps, keep, hc, hrouted⟩
        | otherRoot hroles hother =>
          obtain ⟨t, ht⟩ := ports_checkTC s frame a r
          rcases hroles c ((h.after c).mpr rfl) with hold | rfl
          · exact absurd ((h.before c).mp ((role_quiet hquiet c).symm.trans hold)) h.ne
          · rw [ht] at hother
            exact absurd h.sameRoot hother
      rcases hcases with ⟨hloses, hnot⟩ | ⟨hkeeping, keep, hc, hrouted⟩
      · rw [if_neg fun hcond => hnot hcond.1]
        exact hloses
      · by_cases hflag : a ≠ r → frame.tcFlag = false
        · rw [if_pos ⟨hkeeping, hflag⟩]
          refine hremoves.moves hrouted ?_ hc
          rw [routed_checkTC]
          split
          · next htc =>
            have har : a = r := by
              by_contra hne
              rw [hflag hne] at htc
              exact absurd htc.1 (by decide)
            subst har
            rw [hstart]
            exact Option.filter_some_pos (keepOnly_self a)
          · exact hstart _
        · rw [if_neg fun hcond => hflag hcond.2]
          push Not at hflag
          obtain ⟨hne, htc⟩ := hflag
          have hforwarding : (s.ports a).state = .FORWARDING := by
            unfold Keeping at hkeeping
            rw [if_neg hne] at hkeeping
            exact hkeeping.1
          have hgone : (s.checkTC frame a).Loses r := by
            refine ⟨hremoves, ?_⟩
            rw [routed_checkTC, if_pos ⟨by simpa using htc, hforwarding⟩, hstart]
            exact Option.filter_some_neg (keepOnly_of_ne (Ne.symm hne))
          exact hgone.copied hrouted
    · exact fun s' _ h => absurd h.before hr

/-- After an event that replaces the root port `r` by the port `c`, the entries for `r` are entries for `c` exactly when
there were none, or the event keeps them. The other entries are gone or unchanged in any case. -/
theorem keepsLearned_iff {e : Event n} (hhandle : s.handle e = .ok s') (hreplaces : s.Replaces s' r c)
    (table : MACAddressTable) : KeepsLearned table (s'.applied table) r c ↔
      s.Keeps r e ∨ ∀ v address entry, table.find v address = some entry → entry.portno ≠ (r : ℕ) := by
  have hcases : (s.Keeps r e → s'.Moves r c) ∧ (¬s.Keeps r e → s'.Loses r) := by
    cases e with
    | selfMessage kind t =>
      refine ⟨fun h => h.elim, fun _ => ?_⟩
      cases kind with
      | SELF_HELLOTIME =>
        have hroot : (s.ports r).role = .ROOT := (hreplaces.before r).mpr rfl
        have hstart : ({ s with fes := s.fes.fire ⟨t, .SELF_HELLOTIME⟩, outputs := [] } : RSTP n).StillRoot r :=
          ⟨fun _ => .inr rfl, .inl hroot⟩
        have hdone := handleHelloTime_yields hstart s' hhandle
        refine ⟨hdone.1, hdone.2.resolve_left fun hold => hreplaces.ne ?_⟩
        exact ((hreplaces.after r).mp hold).symm
      | SELF_UPGRADE =>
        have hdone := handleUpgrade_yields ({ s with fes := s.fes.fire ⟨t, .SELF_UPGRADE⟩, outputs := [] } : RSTP n)
          s' hhandle
        exact absurd (hreplaces.not_unchanged hdone) id
    | bpdu t a src frame =>
      have hdone := handleIncomingFrame_yields (s := ({ s with fes := s.fes.advance t, outputs := [] } : RSTP n))
        (r := r) (c := c) (fun _ => rfl) frame a s' hhandle
          ⟨hreplaces.before, hreplaces.after, hreplaces.ne, hreplaces.sameRoot⟩
      exact ⟨fun h => (if_pos h).mp hdone, fun h => (if_neg h).mp hdone⟩
    | interfaceStateChanged t port carrier =>
      have hdone := receiveSignal_yields ({ s with
        fes := s.fes.advance t
        hasCarrier := Function.update s.hasCarrier port carrier
        outputs := [] } : RSTP n) port s' hhandle
      exact absurd (hreplaces.not_unchanged hdone) id
  by_cases hkeeps : s.Keeps r e
  · exact iff_of_true ((hcases.1 hkeeps).keepsLearned hreplaces.ne table) (.inl hkeeps)
  · rw [(hcases.2 hkeeps).learned_iff, or_iff_right hkeeps]

instance (s s' : RSTP n) (r a : Fin n) : Decidable (s.Replaces s' r a) :=
  decidable_of_iff ((∀ i, (s.ports i).role = .ROOT ↔ i = r) ∧ (∀ i, (s'.ports i).role = .ROOT ↔ i = a) ∧ a ≠ r ∧
    (s'.ports a).rootPriority = (s.ports r).rootPriority ∧ (s'.ports a).rootAddress = (s.ports r).rootAddress)
    ⟨fun h => ⟨h.1, h.2.1, h.2.2.1, h.2.2.2⟩, fun h => ⟨h.before, h.after, h.ne, h.sameRoot⟩⟩

/-- An address was learned on port 2. -/
def learnedOnTwo : MACAddressTable where
  agingTime := 120
  vlanAddressTable := (∅ : container.Map ℕ AddressTable).insert 0 ((∅ : AddressTable).insert 9 ⟨0, 2, 1⟩)

/-- The bridge on port 2 has lost the root. -/
def rootLost : BPDU := { bpduFrom 3 0 0 with rootAddress := 3 }

theorem keepsLearned_rootLost : ∃ s s' : RSTP 3, s.handle (.bpdu 2 2 3 rootLost) = .ok s' ∧ s.Replaces s' 2 1 ∧
    KeepsLearned learnedOnTwo (s'.applied learnedOnTwo) (2 : Fin 3) 1 := by
  obtain ⟨s, history, -, hkeeping, s', hs', hreplaces⟩ := exists_run_of_initial (traced step) started_started twoWays
    (fun s _ => (s.Keeping rootLost 2 2 ∧ ((2 : Fin 3) ≠ 2 → rootLost.tcFlag = false)) ∧
      ∃ s' ∈ (s.handle (.bpdu 2 2 3 rootLost)).toOption, s.Replaces s' 2 1) (by decide +kernel)
  have hhandle := toOption_eq_some.mp hs'
  exact ⟨s, s', hhandle, hreplaces, (keepsLearned_iff hhandle hreplaces learnedOnTwo).mpr (.inl hkeeping)⟩

/-- The way through port 2 has become longer than the one through port 1. The address that was learned on port 2 is
forgotten. -/
theorem not_keepsLearned : ∃ (s s' : RSTP 3) (history : _), Run Started (StepOf (traced step)) history s ∧
    s.Enabled (.bpdu 2 2 3 (bpduFrom 3 0 7)) ∧ s.handle (.bpdu 2 2 3 (bpduFrom 3 0 7)) = .ok s' ∧
    s.Replaces s' 2 1 ∧ learnedOnTwo.find 0 9 = some ⟨0, 2, 1⟩ ∧ (s'.applied learnedOnTwo).find 0 9 = none ∧
    ¬KeepsLearned learnedOnTwo (s'.applied learnedOnTwo) (2 : Fin 3) 1 := by
  obtain ⟨s, history, hrun, henabled, s', hs', hreplaces, hlearned, hforgotten⟩ := exists_run_of_initial (traced step)
    started_started twoWays (fun s _ => s.Enabled (.bpdu 2 2 3 (bpduFrom 3 0 7)) ∧
      ∃ s' ∈ (s.handle (.bpdu 2 2 3 (bpduFrom 3 0 7))).toOption, s.Replaces s' 2 1 ∧
        learnedOnTwo.find 0 9 = some ⟨0, 2, 1⟩ ∧ (s'.applied learnedOnTwo).find 0 9 = none) (by decide +kernel)
  refine ⟨s, s', history, hrun, henabled, toOption_eq_some.mp hs', hreplaces, hlearned, hforgotten, fun hkeeps => ?_⟩
  have hmoved := hkeeps.moved 0 9 _ hlearned rfl
  rw [hforgotten] at hmoved
  cases hmoved

end RSTP

end inet

import LoRaInet.LinkLayer.Ethernet.Switch.MACAddressTable
import LoRaInet.LinkLayer.Ieee8021d.Rstp.RSTP.Handlers

namespace inet

open omnetpp

namespace RSTP

variable {n : ℕ} {s s' : RSTP n} {c r : Fin n} {table : MACAddressTable}

section Table

variable (output : Output n)

def Output.applyTo (table : MACAddressTable) : MACAddressTable :=
  match output with
  | .send _ _ => table
  | .flush port => table.flush (port : ℕ)
  | .copyTable portA portB => table.copyTable (portA : ℕ) (portB : ℕ)

/-- The port that an entry has after an output, if the entry is still there. -/
def Output.route (portno : Int) : Option Int :=
  match output with
  | .send _ _ => some portno
  | .flush port => if portno = (port : ℕ) then none else some portno
  | .copyTable portA portB => if portno = (portA : ℕ) then some (portB : ℕ) else some portno

/-- The address table after what the bridge has put out. -/
def applied (s : RSTP n) (table : MACAddressTable) : MACAddressTable :=
  s.outputs.foldl (fun table output => output.applyTo table) table

def routed (s : RSTP n) (portno : Int) : Option Int :=
  s.outputs.foldl (fun portno output => portno.bind output.route) (some portno)

open Output

theorem find_applyTo (v : ℕ) (address : MACAddress) :
    (output.applyTo table).find v address = (table.find v address).bind fun entry =>
      (output.route entry.portno).map fun portno => { entry with portno := portno } := by
  cases output with
  | send i frame => cases htable : table.find v address <;> simp [applyTo, route, htable]
  | flush port =>
    unfold applyTo route
    rw [MACAddressTable.find_flush]
    cases table.find v address with
    | none => rfl
    | some entry =>
      by_cases hport : entry.portno = (port : ℕ)
      · simp [hport]
      · simp [hport]
  | copyTable portA portB =>
    unfold applyTo route
    rw [MACAddressTable.find_copyTable]
    cases table.find v address with
    | none => rfl
    | some entry =>
      by_cases hport : entry.portno = (portA : ℕ)
      · simp [hport]
      · simp [hport]

theorem find_applied (s : RSTP n) (v : ℕ) (address : MACAddress) :
    (s.applied table).find v address = (table.find v address).bind fun entry =>
      (s.routed entry.portno).map fun portno => { entry with portno := portno } := by
  have hnone : ∀ l : List (Output n), l.foldl (fun portno output => portno.bind output.route) none = none := by
    intro l
    induction l with
    | nil => rfl
    | cons output l ih => exact ih
  unfold applied routed
  induction s.outputs generalizing table with
  | nil => cases htable : table.find v address <;> simp [htable]
  | cons output l ih =>
    rw [List.foldl_cons, ih, find_applyTo, Option.bind_assoc]
    refine Option.bind_congr fun entry _ => ?_
    rw [List.foldl_cons, Option.bind_some]
    cases output.route entry.portno with
    | none => rw [hnone]; rfl
    | some portno => rfl

@[simp] theorem routed_emit (s : RSTP n) (output : Output n) (portno : Int) :
    (s.emit output).routed portno = (s.routed portno).bind output.route := by
  unfold routed emit
  rw [List.foldl_append]
  rfl

theorem routed_of_outputs (h : s'.outputs = s.outputs) (portno : Int) : s'.routed portno = s.routed portno := by
  unfold routed
  rw [h]

theorem bind_route_flush (x : Option Int) (i : Fin n) :
    x.bind (flush i).route = x.filter (· ≠ ((i : ℕ) : Int)) := by
  cases x with
  | none => rfl
  | some portno =>
    by_cases hport : portno = (i : ℕ)
    · simp [route, Option.filter_some, hport]
    · simp [route, Option.filter_some, hport]

theorem bind_route_send (x : Option Int) (i : Fin n) (frame : BPDU) : x.bind (send i frame).route = x := by
  cases x with
  | none => rfl
  | some portno => rfl

theorem bind_route_copyTable (x : Option Int) (a b : Fin n) : x.bind (copyTable a b).route =
    x.map fun q => if q = ((a : ℕ) : Int) then ((b : ℕ) : Int) else q := by
  cases x with
  | none => rfl
  | some portno =>
    by_cases hport : portno = (a : ℕ)
    · simp [route, hport]
    · simp [route, hport]

theorem filter_eq_self {x : Option Int} {keep : Int → Bool} (h : ∀ q, keep q = true) : x.filter keep = x := by
  cases x with
  | none => rfl
  | some portno => exact Option.filter_some_pos (h portno)

theorem routed_foldl_flush {f : RSTP n → Fin n → RSTP n} {P : Fin n → Prop} [DecidablePred P]
    (hf : ∀ s i portno, (f s i).routed portno =
      if P i then (s.routed portno).filter (· ≠ ((i : ℕ) : Int)) else s.routed portno) (l : List (Fin n)) :
    ∀ s portno, (l.foldl f s).routed portno = (s.routed portno).filter fun q => ∀ i ∈ l, P i → q ≠ ((i : ℕ) : Int) := by
  induction l with
  | nil =>
    intro s portno
    exact (filter_eq_self fun q => by simp).symm
  | cons i l ih =>
    intro s portno
    rw [List.foldl_cons, ih, hf]
    by_cases hi : P i
    · rw [if_pos hi, Option.filter_filter]
      congr 1
      funext q
      simp [hi]
    · rw [if_neg hi]
      congr 1
      funext q
      simp [hi]

/-- An entry that is not for a port other than `c`. -/
def keepOnly (c : Fin n) (portno : Int) : Bool := ∀ i : Fin n, i ≠ c → portno ≠ ((i : ℕ) : Int)

theorem keepOnly_self (c : Fin n) : keepOnly c (c : ℕ) = true :=
  decide_eq_true fun _ hi heq => hi (Fin.ext (Int.natCast_inj.mp heq)).symm

theorem keepOnly_of_ne (h : r ≠ c) : keepOnly c (r : ℕ) = false := decide_eq_false fun hall => hall r h rfl

theorem routed_flushOtherPorts (s : RSTP n) (c : Fin n) (portno : Int) :
    (s.flushOtherPorts c).routed portno = (s.routed portno).filter (keepOnly c) := by
  have hloop := @routed_foldl_flush n (fun s i =>
    if i ≠ c then (s.setTCWhile i (s.simTime + s.tcWhileTime)).emit (.flush i)
    else s.setTCWhile i (s.simTime + s.tcWhileTime)) (fun i => i ≠ c) _ (fun s i portno => by
      split
      · rw [routed_emit, bind_route_flush]
        rfl
      · rfl) (List.finRange n) s portno
  simp only [List.mem_finRange, forall_const] at hloop
  exact hloop

theorem routed_sendBPDU (s : RSTP n) (i : Fin n) (portno : Int) :
    (s.sendBPDU i).routed portno = s.routed portno := by
  unfold sendBPDU
  dsimp only
  split
  · rw [routed_emit, bind_route_send]
  · rfl

theorem routed_sendBPDUs (s : RSTP n) (portno : Int) : s.sendBPDUs.routed portno = s.routed portno := by
  unfold sendBPDUs
  induction List.finRange n generalizing s with
  | nil => rfl
  | cons i l ih =>
    rw [List.foldl_cons, ih]
    dsimp only
    split
    · exact routed_sendBPDU s i portno
    · rfl

theorem ports_sendTCNtoRoot (s : RSTP n) : s.sendTCNtoRoot.ports = s.ports := by
  unfold sendTCNtoRoot
  split
  · rfl
  · dsimp only
    split
    · rfl
    · rfl

theorem routed_sendTCNtoRoot (s : RSTP n) (portno : Int) :
    s.sendTCNtoRoot.routed portno = s.routed portno := by
  unfold sendTCNtoRoot
  split
  · rfl
  · dsimp only
    split
    · rw [routed_emit, bind_route_send]
    · rfl

end Table

theorem scheduleNextUpgrade_yields (s : RSTP n) :
    Yields s.scheduleNextUpgrade fun s' => ∃ fes, s' = { s with fes := fes } := by
  unfold scheduleNextUpgrade
  dsimp only
  split
  · exact .ok ⟨_, rfl⟩
  · exact (Yields.trivial _).bind fun fes _ => .pure ⟨fes, rfl⟩

theorem becomeDesignated_yields (s : RSTP n) (i : Fin n) : Yields (s.becomeDesignated i) fun s' =>
    s'.outputs = s.outputs ∧
      ∀ j, (s'.ports j).role = if j = i then .DESIGNATED else (s.ports j).role := by
  refine (scheduleNextUpgrade_yields _).mono fun s' hs' => ?_
  obtain ⟨fes, rfl⟩ := hs'
  refine ⟨rfl, fun j => ?_⟩
  by_cases hj : j = i
  · subst hj
    simp [setRoleState, setNextUpgrade, modifyPort]
  · simp [setRoleState, setNextUpgrade, modifyPort, hj]

theorem role_initPort (s : RSTP n) (i j : Fin n) :
    ((s.initPort i).ports j).role ≠ .ROOT ∨ j ≠ i ∧ ((s.initPort i).ports j).role = (s.ports j).role := by
  unfold initPort
  by_cases hj : j = i
  · subst hj
    refine .inl ?_
    split
    · simp [initInterfacedata, setRoleState, setNextUpgrade, modifyPort, emit]
    · simp [initInterfacedata, setRoleState, modifyPort, emit]
  · refine .inr ⟨hj, ?_⟩
    split
    · simp [initInterfacedata, setRoleState, setNextUpgrade, modifyPort, emit, hj]
    · simp [initInterfacedata, setRoleState, modifyPort, emit, hj]

theorem routed_initPort (s : RSTP n) (i : Fin n) (portno : Int) :
    (s.initPort i).routed portno = (s.routed portno).filter (· ≠ ((i : ℕ) : Int)) := by
  unfold initPort
  rw [routed_emit, bind_route_flush]
  split
  · rfl
  · rfl

/-- All ports start from the beginning: no port is the root port, and the table has no entries for the ports. -/
theorem initPorts_yields (s : RSTP n) : Yields s.initPorts fun s' =>
    (∀ portno, s'.routed portno = (s.routed portno).filter fun q => ∀ i : Fin n, q ≠ ((i : ℕ) : Int)) ∧
      ∀ i, (s'.ports i).role ≠ .ROOT := by
  refine (scheduleNextUpgrade_yields _).mono fun s' hs' => ?_
  obtain ⟨fes, rfl⟩ := hs'
  constructor
  · intro portno
    have hloop := routed_foldl_flush (P := fun _ => True) (fun s i portno => by
      rw [if_pos trivial]
      exact routed_initPort s i portno) (List.finRange n) s portno
    simp only [List.mem_finRange, forall_const] at hloop
    exact hloop
  · have hroles : ∀ (l : List (Fin n)) (s : RSTP n) (i : Fin n),
        (i ∈ l ∨ (s.ports i).role ≠ .ROOT) → ((l.foldl initPort s).ports i).role ≠ .ROOT := by
      intro l
      induction l with
      | nil => exact fun s i h => h.resolve_left List.not_mem_nil
      | cons j l ih =>
        intro s i h
        refine ih (s.initPort j) i ?_
        rcases role_initPort s j i with hnot | ⟨hne, hsame⟩
        · exact .inr hnot
        · rw [hsame]
          exact h.imp_left fun hmem => (List.mem_cons.mp hmem).resolve_left hne
    exact fun i => hroles _ s i (.inl (List.mem_finRange i))

theorem role_quiet (h : Quiet s s') (i : Fin n) : (s'.ports i).role = (s.ports i).role :=
  congrArg PortView.role (congrFun h.roles i)

section Effects

variable {keep k : Int → Bool}

/-- What is left of the table is where it was. -/
def Removes (s : RSTP n) : Prop := ∀ portno, s.routed portno = none ∨ s.routed portno = some portno

/-- Nothing is left of the entries for the port `r`. -/
def Loses (s : RSTP n) (r : Fin n) : Prop := s.Removes ∧ s.routed (r : ℕ) = none

/-- The entries for the port `r` are entries for the port `c` now, and what is left of the others is where it was. -/
def Moves (s : RSTP n) (r c : Fin n) : Prop :=
  s.routed (r : ℕ) = some ((c : ℕ) : Int) ∧
    ∀ portno ≠ ((r : ℕ) : Int), s.routed portno = none ∨ s.routed portno = some portno

theorem Removes.filter (h : s.Removes) (hs : ∀ portno, s'.routed portno = (s.routed portno).filter keep) :
    s'.Removes := by
  intro portno
  rw [hs]
  rcases h portno with h | h
  · exact .inl (by rw [h]; rfl)
  · rw [h, Option.filter_some]
    split
    · exact .inr rfl
    · exact .inl rfl

theorem Removes.flush (h : s.Removes)
    (hs : ∀ portno, s'.routed portno = (s.routed portno).filter (· ≠ ((r : ℕ) : Int))) : s'.Loses r := by
  refine ⟨h.filter hs, ?_⟩
  rw [hs]
  rcases h (r : ℕ) with h | h
  · rw [h]
    rfl
  · rw [h]
    exact Option.filter_some_neg (decide_eq_false fun hne => hne rfl)

theorem Removes.loses (h : s.Removes) (hs : ∀ portno, s'.routed portno = ((s.routed portno).filter keep).map
      fun q => if q = ((r : ℕ) : Int) then ((c : ℕ) : Int) else q) (hr : keep (r : ℕ) = false) : s'.Loses r := by
  have hgone : s'.routed (r : ℕ) = none := by
    rw [hs]
    rcases h (r : ℕ) with h | h
    · rw [h]
      rfl
    · rw [h, Option.filter_some_neg hr]
      rfl
  refine ⟨fun portno => ?_, hgone⟩
  by_cases hport : portno = (r : ℕ)
  · subst hport
    exact .inl hgone
  · rw [hs]
    rcases h portno with h | h
    · exact .inl (by rw [h]; rfl)
    · rw [h, Option.filter_some]
      split
      · exact .inr (congrArg some (if_neg hport))
      · exact .inl rfl

theorem Removes.moves (h : s.Removes) (hs : ∀ portno, s'.routed portno = ((s.routed portno).map
      fun q => if q = ((r : ℕ) : Int) then ((c : ℕ) : Int) else q).filter keep)
    (hr : s.routed (r : ℕ) = some ((r : ℕ) : Int)) (hc : keep (c : ℕ) = true) : s'.Moves r c := by
  refine ⟨?_, fun portno hport => ?_⟩
  · rw [hs, hr, Option.map_some, if_pos rfl, Option.filter_some_pos hc]
  · rw [hs]
    rcases h portno with h | h
    · exact .inl (by rw [h]; rfl)
    · rw [h, Option.map_some, if_neg hport, Option.filter_some]
      split
      · exact .inr rfl
      · exact .inl rfl

theorem Loses.copied (h : s.Loses r) (hs : ∀ portno, s'.routed portno = ((s.routed portno).map
      fun q => if q = ((r : ℕ) : Int) then ((c : ℕ) : Int) else q).filter k) : s'.Loses r := by
  have hsame : ∀ portno, ((s.routed portno).map
      fun q => if q = ((r : ℕ) : Int) then ((c : ℕ) : Int) else q) = s.routed portno := by
    intro portno
    rcases h.1 portno with hp | hp
    · rw [hp]
      rfl
    · by_cases hport : portno = (r : ℕ)
      · subst hport
        rw [h.2]
        rfl
      · rw [hp, Option.map_some, if_neg hport]
  have hfilter : ∀ portno, s'.routed portno = (s.routed portno).filter k := by
    intro portno
    rw [hs, hsame]
  refine ⟨h.1.filter hfilter, ?_⟩
  rw [hfilter, h.2]
  rfl

theorem Loses.filter (h : s.Loses r) (hs : ∀ portno, s'.routed portno = (s.routed portno).filter keep) :
    s'.Loses r := by
  refine ⟨h.1.filter hs, ?_⟩
  rw [hs, h.2]
  rfl

end Effects

end RSTP

end inet

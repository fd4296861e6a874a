import LoRaInet.LinkLayer.Ieee8021d.Rstp.RSTP.Runs
import Mathlib.Data.Prod.Lex

namespace inet

open omnetpp

namespace RSTP

variable {n : ℕ} {s s' : RSTP n} {lan : List (Fin n)} {i j m : Fin n} {frame : BPDU}

/-- A port that `sendBPDUs` sends on. -/
def Sends (s : RSTP n) (i : Fin n) : Prop :=
  (s.ports i).role ≠ .ROOT ∧ (s.ports i).role ≠ .ALTERNATE ∧ (s.ports i).role ≠ .DISABLED ∧
    !(s.ports i).edge
deriving Decidable

def Output.sent : Output n → Option (Fin n × BPDU)
  | .send switchPort frame => some (switchPort, frame)
  | .flush _ => none
  | .copyTable _ _ => none

/-- The BPDUs put out, with the ports that they are sent on. -/
def sentBPDUs (outputs : List (Output n)) : List (Fin n × BPDU) := outputs.filterMap Output.sent

/-- A LAN without another bridge brings a BPDU of one of its ports to all the other ones. -/
def arrivals (s : RSTP n) (lan : List (Fin n)) : List (Fin n × BPDU) :=
  (sentBPDUs ({ s with outputs := [] } : RSTP n).sendBPDUs.outputs).flatMap fun sent =>
    if sent.1 ∈ lan then (lan.filter (· ≠ sent.1)).map fun j => (j, sent.2) else []

/-- The ports get the BPDUs in this order. -/
def handleBackups (s : RSTP n) (order : List (Fin n × BPDU)) : Except Fault (RSTP n) :=
  order.foldlM (fun s arrival => s.handleBackup arrival.2 arrival.1) s

/-- The port of the LAN with the smallest priority, and the smallest number among these. -/
structure IsBest (s : RSTP n) (lan : List (Fin n)) (m : Fin n) : Prop where
  mem : m ∈ lan
  le : ∀ j ∈ lan, toLex ((s.ports m).priority, m) ≤ toLex ((s.ports j).priority, j)

/-- The LAN is connected through exactly one port, the best one. -/
def Connected (s s' : RSTP n) (lan : List (Fin n)) : Prop :=
  ∃ m, s.IsBest lan m ∧ ∀ j ∈ lan, (s'.ports j).role ≠ .BACKUP ↔ j = m

/-- What `sendBPDU` sends on a port. -/
def bpduOf (s : RSTP n) (i : Fin n) : BPDU where
  protocolIdentifier := 0
  protocolVersionIdentifier := 0
  bpduType := 0
  tcaFlag := false
  tcFlag := s.simTime < (s.ports i).TCWhile
  rootAddress := s.rootFields.2.1
  rootPriority := s.rootFields.1
  rootPathCost := s.rootFields.2.2.2
  bridgeAddress := s.bridgeAddress
  bridgePriority := s.bridgePriority
  portNum := i
  portPriority := 0
  messageAge := s.rootFields.2.2.1
  maxAge := s.maxAge
  helloTime := s.helloTime
  forwardDelay := s.forwardDelay

theorem sendBPDU_of_sends (h : s.Sends i) : s.sendBPDU i = s.emit (.send i (s.bpduOf i)) := by
  unfold sendBPDU
  rw [if_pos h.2.2.1]
  rfl

theorem foldl_sendBPDU (l : List (Fin n)) : ∀ s : RSTP n,
    l.foldl (fun s i => if s.Sends i then s.sendBPDU i else s) s =
      { s with outputs := s.outputs ++ (l.filter s.Sends).map fun i => .send i (s.bpduOf i) } := by
  induction l with
  | nil => intro s; simp
  | cons i l ih =>
    intro s
    rw [List.foldl_cons, ih]
    by_cases hi : s.Sends i
    · rw [if_pos hi, sendBPDU_of_sends hi, List.filter_cons_of_pos (by simpa using hi)]
      simp only [emit, List.map_cons, List.append_assoc, List.singleton_append]
      rfl
    · rw [if_neg hi, List.filter_cons_of_neg (by simpa using hi)]

theorem sentBPDUs_sendBPDUs (s : RSTP n) : sentBPDUs ({ s with outputs := [] } : RSTP n).sendBPDUs.outputs =
    ((List.finRange n).filter s.Sends).map fun i => (i, s.bpduOf i) := by
  have hsent := congrArg RSTP.outputs (foldl_sendBPDU (List.finRange n) ({ s with outputs := [] } : RSTP n))
  have hmap : ∀ l : List (Fin n), sentBPDUs (l.map fun i => .send i (s.bpduOf i)) =
      l.map fun i => (i, s.bpduOf i) := by
    intro l
    induction l with
    | nil => rfl
    | cons i l ih => exact congrArg _ ih
  refine Eq.trans (congrArg sentBPDUs ?_) (hmap _)
  exact hsent

/-- When all the ports of the LAN send, each of them hears all the other ones. -/
theorem mem_arrivals (hsends : ∀ i ∈ lan, s.Sends i) :
    (j, frame) ∈ s.arrivals lan ↔ ∃ i ∈ lan, j ∈ lan ∧ j ≠ i ∧ frame = s.bpduOf i := by
  unfold arrivals
  rw [sentBPDUs_sendBPDUs, List.mem_flatMap]
  constructor
  · rintro ⟨⟨i, sent⟩, hsent, hmem⟩
    obtain ⟨i', -, heq⟩ := List.mem_map.mp hsent
    obtain ⟨rfl, rfl⟩ := Prod.mk.inj heq
    by_cases hi : i' ∈ lan
    · rw [if_pos hi] at hmem
      obtain ⟨j', hj', heq'⟩ := List.mem_map.mp hmem
      obtain ⟨rfl, rfl⟩ := Prod.mk.inj heq'
      obtain ⟨hlan, hne⟩ := List.mem_filter.mp hj'
      exact ⟨i', hi, hlan, by simpa using hne, rfl⟩
    · simp [hi] at hmem
  · rintro ⟨i, hi, hj, hne, rfl⟩
    refine ⟨(i, s.bpduOf i), List.mem_map.mpr ⟨i, ?_, rfl⟩, ?_⟩
    · exact List.mem_filter.mpr ⟨List.mem_finRange i, by simpa using hsends i hi⟩
    · rw [if_pos hi]
      exact List.mem_map.mpr ⟨j, List.mem_filter.mpr ⟨hj, by simpa using hne⟩, rfl⟩

/-- The port that is taken out when the BPDU of port `i` arrives on another port `j`. A BPDU is sent without the
priority of its port. -/
def loser (s : RSTP n) (i j : Fin n) : Fin n :=
  if 0 < (s.ports j).portPriority ∨ i < j then j else i

theorem handleBackup_bpduOf (hne : j ≠ i) {sender : RSTP n} :
    Returns (s.handleBackup (sender.bpduOf i) j) fun s' =>
      (∀ x, (s'.ports x).portPriority = (s.ports x).portPriority) ∧
        ∀ x, (s'.ports x).role = .BACKUP ↔ (s.ports x).role = .BACKUP ∨ x = s.loser i j := by
  have htaken : s.backupPort (sender.bpduOf i) j = .ok (s.loser i j, .BACKUP) := by
    unfold backupPort loser
    dsimp only [bpduOf]
    by_cases hlow : 0 < (s.ports j).portPriority ∨ i < j
    · have hfirst : 0 < (s.ports j).portPriority ∨ 0 = (s.ports j).portPriority ∧ (i : ℕ) < j := by
        rcases Nat.eq_zero_or_pos (s.ports j).portPriority with hzero | hpos
        · exact .inr ⟨hzero.symm, by simpa [hzero] using hlow⟩
        · exact .inl hpos
      rw [if_pos hlow]
      exact if_pos hfirst
    · obtain ⟨hzero, hle⟩ := not_or.mp hlow
      have hlt : j < i := lt_of_le_of_ne (not_lt.mp hle) hne
      have hzero' : (s.ports j).portPriority = 0 := by omega
      have hlt' : (j : ℕ) < i := hlt
      have hnot : ¬ (i : ℕ) < j := hle
      have hget : getPort (n := n) i = .ok i := by
        unfold getPort
        rw [dif_pos i.isLt]
      rw [if_neg hlow, hget]
      refine (if_neg ?_).trans ((if_pos ?_).trans rfl)
      · simp [hzero', hnot]
      · simp [hzero', hlt']
  unfold handleBackup
  rw [htaken]
  refine .pure ⟨fun x => ?_, fun x => ?_⟩
  · by_cases hx : x = s.loser i j
    · subst hx
      simp [setLostBPDU, setRoleState, modifyPort, emit]
    · simp [setLostBPDU, setRoleState, modifyPort, emit, hx]
  · by_cases hx : x = s.loser i j
    · subst hx
      simp [setLostBPDU, setRoleState, modifyPort, emit]
    · simp [setLostBPDU, setRoleState, modifyPort, emit, hx]

/-- The ports that are taken out do not depend on the order of the BPDUs. -/
theorem handleBackups_returns (s₀ : RSTP n) (order : List (Fin n × BPDU))
    (hown : ∀ arrival ∈ order, ∃ i, arrival.1 ≠ i ∧ arrival.2 = s₀.bpduOf i) : ∀ s : RSTP n,
    (∀ x, (s.ports x).portPriority = (s₀.ports x).portPriority) →
    Returns (s.handleBackups order) fun s' => ∀ x, (s'.ports x).role = .BACKUP ↔
      (s.ports x).role = .BACKUP ∨ ∃ i j, j ≠ i ∧ (j, s₀.bpduOf i) ∈ order ∧ x = s₀.loser i j := by
  induction order with
  | nil => exact fun s _ => .pure fun x => by simp
  | cons arrival order ih =>
    intro s hsame
    obtain ⟨j, frame⟩ := arrival
    obtain ⟨i, hne, hframe⟩ := hown _ (.head _)
    dsimp only at hne hframe
    subst hframe
    unfold handleBackups
    rw [List.foldlM_cons]
    refine (handleBackup_bpduOf hne).bind fun s' hs' => ?_
    obtain ⟨hpriority, hrole⟩ := hs'
    refine (ih (fun arrival h => hown arrival (.tail _ h)) s' fun x =>
      (hpriority x).trans (hsame x)).mono fun s'' hs'' x => ?_
    have hloser : s.loser i j = s₀.loser i j := by
      unfold loser
      rw [hsame]
    rw [hs'' x, hrole x, hloser, or_assoc]
    refine or_congr_right ?_
    constructor
    · rintro (rfl | ⟨i', j', hne', hmem, rfl⟩)
      · exact ⟨i, j, hne, (.head _), rfl⟩
      · exact ⟨i', j', hne', .tail _ hmem, rfl⟩
    · rintro ⟨i', j', hne', hmem, rfl⟩
      rcases List.mem_cons.mp hmem with heq | hmem
      · obtain ⟨rfl, hsent⟩ := Prod.mk.inj heq
        have hi : i' = i := Fin.ext (congrArg BPDU.portNum hsent)
        exact .inl (by rw [hi])
      · exact .inr ⟨i', j', hne', hmem, rfl⟩

/-- Another port of the LAN takes a port out, unless the port is the smallest one and stores a priority of zero. -/
theorem exists_loser_iff (hj : j ∈ lan) : (∃ i ∈ lan, ∃ k ∈ lan, k ≠ i ∧ j = s.loser i k) ↔
      ∃ i ∈ lan, i ≠ j ∧ (0 < (s.ports j).portPriority ∨ i < j) := by
  constructor
  · rintro ⟨i, hi, k, hk, hne, hloser⟩
    unfold loser at hloser
    split at hloser
    · next hlow =>
      subst hloser
      exact ⟨i, hi, hne.symm, hlow⟩
    · next hlow =>
      subst hloser
      exact ⟨k, hk, hne, .inr (lt_of_le_of_ne (not_lt.mp (not_or.mp hlow).2) hne)⟩
  · rintro ⟨i, hi, hne, hlow⟩
    exact ⟨i, hi, j, hj, hne.symm, (if_pos hlow).symm⟩

theorem ports_sendBPDUs (s : RSTP n) : s.sendBPDUs.ports = s.ports := by
  have hsent : s.sendBPDUs = _ := foldl_sendBPDU (List.finRange n) s
  rw [hsent]

theorem role_of_handleBackups (hsends : ∀ i ∈ lan, s.Sends i) {order : List (Fin n × BPDU)}
    (horder : order.Perm (s.arrivals lan)) : Returns (s.sendBPDUs.handleBackups order) fun s' =>
      ∀ j ∈ lan, (s'.ports j).role = .BACKUP ↔ (s.ports j).role = .BACKUP ∨
        ∃ i ∈ lan, i ≠ j ∧ (0 < (s.ports j).portPriority ∨ i < j) := by
  have hports := ports_sendBPDUs s
  refine (handleBackups_returns s order ?_ s.sendBPDUs fun x => by rw [hports]).mono fun s' hs' j hj => ?_
  · intro arrival harrival
    obtain ⟨i, -, -, hne, hframe⟩ := (mem_arrivals hsends).mp (horder.mem_iff.mp harrival)
    exact ⟨i, hne, hframe⟩
  · rw [hs' j, hports, ← exists_loser_iff hj]
    refine or_congr_right ?_
    constructor
    · rintro ⟨i, k, hne, harrival, hloser⟩
      obtain ⟨i', hi', hk, hne', hframe⟩ := (mem_arrivals hsends).mp (horder.mem_iff.mp harrival)
      have hi : i = i' := Fin.ext (congrArg BPDU.portNum hframe)
      subst hi
      exact ⟨i, hi', k, hk, hne, hloser⟩
    · rintro ⟨i, hi, k, hk, hne, hloser⟩
      exact ⟨i, k, hne, horder.mem_iff.mpr ((mem_arrivals hsends).mpr ⟨i, hi, hk, hne, rfl⟩), hloser⟩

/-- The LAN stays connected through its best port exactly when this port is the only one there, or it has the smallest
number and stores a priority of zero, which `initInterfacedata` never leaves there. -/
theorem handleBackups_connected_iff (hsends : ∀ i ∈ lan, s.Sends i) {order : List (Fin n × BPDU)}
    (horder : order.Perm (s.arrivals lan)) :
    (∃ s', s.sendBPDUs.handleBackups order = .ok s' ∧ s.Connected s' lan) ↔
      ∃ m, s.IsBest lan m ∧ (s.ports m).role ≠ .BACKUP ∧
        ((∀ j ∈ lan, j = m) ∨ (s.ports m).portPriority = 0 ∧ ∀ j ∈ lan, m ≤ j) := by
  obtain ⟨s', hs', hrole⟩ := role_of_handleBackups hsends horder
  constructor
  · rintro ⟨s'', hs'', m, hbest, honly⟩
    obtain rfl : s' = s'' := Except.ok.inj (hs'.symm.trans hs'')
    have hleft := (hrole m hbest.mem).not.mp ((honly m hbest.mem).mpr rfl)
    obtain ⟨hfresh, hnone⟩ := not_or.mp hleft
    refine ⟨m, hbest, hfresh, ?_⟩
    by_cases halone : ∀ j ∈ lan, j = m
    · exact .inl halone
    · push Not at halone
      obtain ⟨i, hi, hne⟩ := halone
      have hzero : ¬(0 < (s.ports m).portPriority ∨ i < m) := fun h => hnone ⟨i, hi, hne, h⟩
      refine .inr ⟨by omega, fun j hj => ?_⟩
      by_contra hlt
      exact hnone ⟨j, hj, (not_le.mp hlt).ne, .inr (not_le.mp hlt)⟩
  · rintro ⟨m, hbest, hfresh, hcond⟩
    refine ⟨s', hs', m, hbest, fun j hj => ?_⟩
    rw [Ne, hrole j hj]
    constructor
    · intro hleft
      by_contra hne
      rcases hcond with halone | ⟨-, hle⟩
      · exact hne (halone j hj)
      · have hlt : m < j := lt_of_le_of_ne (hle j hj) (Ne.symm hne)
        exact hleft (.inr ⟨m, hbest.mem, Ne.symm hne, .inr hlt⟩)
    · rintro rfl
      rintro (hbackup | ⟨i, hi, hne, hlow⟩)
      · exact hfresh hbackup
      · rcases hcond with halone | ⟨hzero, hle⟩
        · exact hne (halone i hi)
        · have hnot : ¬ i < j := not_lt.mpr (hle i hi)
          omega

/-- The ports of the switch store a priority of zero, as after BPDUs of another bridge. -/
def zeroPriorities : RSTP 3 :=
  { started with ports := fun i => { started.ports i with portPriority := 0, role := .DESIGNATED } }

theorem handleBackups_connected_zeroPriorities :
    ∃ s', zeroPriorities.sendBPDUs.handleBackups (zeroPriorities.arrivals [2, 0, 1]).reverse = .ok s' ∧
      zeroPriorities.Connected s' [2, 0, 1] := by
  refine (handleBackups_connected_iff (by decide +kernel) (List.reverse_perm _)).mpr ⟨0, ⟨by decide, ?_⟩, ?_, .inr ?_⟩
  · decide +kernel
  · decide
  · exact ⟨rfl, by decide⟩

/-- A switch starts with two ports on one LAN. Both of them become backups. -/
theorem not_handleBackups_connected : Started started ∧ (∀ i ∈ [0, 1], started.Sends i) ∧
    ∃ s', started.sendBPDUs.handleBackups (started.arrivals [0, 1]) = .ok s' ∧
      ¬started.Connected s' [0, 1] ∧ ∀ i ∈ [0, 1], (s'.ports i).role = .BACKUP := by
  have hsends : ∀ i ∈ [0, 1], started.Sends i := by decide +kernel
  obtain ⟨s', hs', hrole⟩ := role_of_handleBackups hsends (List.Perm.refl _)
  have hout : ∀ i ∈ [0, 1], (s'.ports i).role = .BACKUP := by
    intro j hj
    refine (hrole j hj).mpr (.inr ?_)
    revert j
    decide +kernel
  refine ⟨started_started, hsends, s', hs', ?_, hout⟩
  rintro ⟨m, hbest, honly⟩
  exact (honly m hbest.mem).mpr rfl (hout m hbest.mem)

end RSTP

end inet

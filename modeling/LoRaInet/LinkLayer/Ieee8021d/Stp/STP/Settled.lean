import LoRaInet.LinkLayer.Ieee8021d.Stp.STP
import Mathlib.Data.Fintype.Sigma
import Mathlib.Data.Prod.Lex

namespace inet

/-- The result of a comparison tells which of two values is the smaller one. -/
structure Decides {A : Type} [LinearOrder A] (result : Int) (a b : A) : Prop where
  pos_iff : 0 < result ↔ a < b
  neg_iff : result < 0 ↔ b < a

namespace Decides

variable {A B : Type} [LinearOrder A] [LinearOrder B] {result : Int} {a b : A} {a' b' : B}

theorem zero_iff (h : Decides result a b) : result = 0 ↔ a = b := by
  have hpos := h.pos_iff
  have hneg := h.neg_iff
  constructor
  · rintro rfl
    rcases lt_trichotomy a b with hlt | heq | hgt
    · exact absurd (hpos.mpr hlt) (lt_irrefl _)
    · exact heq
    · exact absurd (hneg.mpr hgt) (lt_irrefl _)
  · rintro rfl
    have hnotpos : ¬ 0 < result := fun h => lt_irrefl a (hpos.mp h)
    have hnotneg : ¬ result < 0 := fun h => lt_irrefl a (hneg.mp h)
    omega

/-- A comparison that the first components decide unless they are equal. -/
theorem orElse {first : Int} (hfirst : Decides first a b) (h : Decides result a' b') :
    Decides (if first ≠ 0 then first else result) (toLex (a, a')) (toLex (b, b')) := by
  by_cases hzero : first = 0
  · have heq := hfirst.zero_iff.mp hzero
    subst heq
    rw [if_neg (not_not.mpr hzero)]
    constructor
    · simpa [Prod.Lex.toLex_lt_toLex] using h.pos_iff
    · simpa [Prod.Lex.toLex_lt_toLex] using h.neg_iff
  · have hne : a ≠ b := fun heq => hzero (hfirst.zero_iff.mpr heq)
    rw [if_pos hzero]
    constructor
    · simpa [Prod.Lex.toLex_lt_toLex, hne] using hfirst.pos_iff
    · simpa [Prod.Lex.toLex_lt_toLex, hne.symm] using hfirst.neg_iff

theorem ofLess (a b : A) : Decides (if a < b then 1 else if b < a then -1 else 0) a b := by
  rcases lt_trichotomy a b with hlt | rfl | hgt
  · rw [if_pos hlt]
    exact ⟨by simp [hlt], by simp [hlt.le]⟩
  · rw [if_neg (lt_irrefl a), if_neg (lt_irrefl a)]
    exact ⟨by simp, by simp⟩
  · rw [if_neg hgt.asymm, if_pos hgt]
    exact ⟨by simp [hgt.le], by simp [hgt]⟩

theorem lessElse (h : Decides result a' b') :
    Decides (if a < b then 1 else if b < a then -1 else result) (toLex (a, a')) (toLex (b, b')) := by
  have hboth := (ofLess a b).orElse h
  rcases lt_trichotomy a b with hlt | heq | hgt
  · simpa [hlt] using hboth
  · simpa [heq] using hboth
  · simpa [hgt, hgt.asymm] using hboth

end Decides

/-- The identifier of a bridge, in the order of `compareBridgeIDs`. -/
def bridgeID (priority : ℕ) (address : MACAddress) : ℕ ×ₗ ℕ := toLex (priority, address.toNat)

theorem bridgeID_inj {p q : ℕ} {a b : MACAddress} :
    bridgeID p a = bridgeID q b ↔ p = q ∧ a = b := by
  unfold bridgeID
  rw [EmbeddingLike.apply_eq_iff_eq, Prod.mk.injEq, BitVec.toNat_inj]

namespace Ieee8021dInterfaceData

abbrev PortVector := (ℕ ×ₗ ℕ) ×ₗ ℕ ×ₗ (ℕ ×ₗ ℕ) ×ₗ ℕ ×ₗ ℕ

def rootID (port : Ieee8021dInterfaceData) : ℕ ×ₗ ℕ := bridgeID port.rootPriority port.rootAddress

/-- What `comparePorts` compares. The smaller vector is the superior one. -/
def vector (port : Ieee8021dInterfaceData) : PortVector :=
  toLex (port.rootID, toLex (port.rootPathCost,
    toLex (bridgeID port.bridgePriority port.bridgeAddress,
      toLex (port.portPriority, port.portNum))))

end Ieee8021dInterfaceData

namespace STP

open Ieee8021dInterfaceData

theorem compareBridgeIDs_decides (p q : ℕ) (a b : MACAddress) :
    Decides (compareBridgeIDs p a q b) (bridgeID p a) (bridgeID q b) := by
  have haddress : Decides (if a.compareTo b = -1 then 1 else if a.compareTo b = 1 then -1 else 0)
      a.toNat b.toNat := by
    have hless := Decides.ofLess a.toNat b.toNat
    unfold MACAddress.compareTo
    rcases lt_trichotomy a.toNat b.toNat with hlt | heq | hgt
    · simpa [hlt] using hless
    · have heq' := BitVec.eq_of_toNat_eq heq
      subst heq'
      simpa using hless
    · have hne : a ≠ b := fun h => hgt.ne (congrArg BitVec.toNat h.symm)
      simpa [hgt, hgt.asymm, hne] using hless
  exact haddress.lessElse

theorem comparePorts_decides (portA portB : Ieee8021dInterfaceData) :
    Decides (comparePorts portA portB) portA.vector portB.vector := by
  have hport : Decides (comparePortIDs portA.portPriority portA.portNum portB.portPriority
      portB.portNum) (toLex (portA.portPriority, portA.portNum))
      (toLex (portB.portPriority, portB.portNum)) := (Decides.ofLess _ _).lessElse
  have hbridge := (compareBridgeIDs_decides portA.bridgePriority portB.bridgePriority
    portA.bridgeAddress portB.bridgeAddress).orElse hport
  exact (compareBridgeIDs_decides _ _ _ _).orElse hbridge.lessElse

end STP

open Ieee8021dInterfaceData

namespace Ieee8021dInterfaceData

/-- What a port stores of the best BPDU it has received. -/
structure StoredInfo where
  rootPriority : ℕ
  rootAddress : MACAddress
  rootPathCost : ℕ
  bridgePriority : ℕ
  bridgeAddress : MACAddress
  portPriority : ℕ
  portNum : ℕ
  deriving DecidableEq

def info (port : Ieee8021dInterfaceData) : StoredInfo :=
  ⟨port.rootPriority, port.rootAddress, port.rootPathCost, port.bridgePriority,
    port.bridgeAddress, port.portPriority, port.portNum⟩

variable {a b : Ieee8021dInterfaceData}

theorem vector_eq_of_info_eq (h : a.info = b.info) : a.vector = b.vector := by
  simp only [info, StoredInfo.mk.injEq] at h
  obtain ⟨h1, h2, h3, h4, h5, h6, h7⟩ := h
  rw [vector, vector, rootID, rootID, h1, h2, h3, h4, h5, h6, h7]

theorem rootID_eq_of_info_eq (h : a.info = b.info) : a.rootID = b.rootID := by
  simp only [info, StoredInfo.mk.injEq] at h
  rw [rootID, rootID, h.1, h.2.1]

theorem cost_eq_of_info_eq (h : a.info = b.info) : a.rootPathCost = b.rootPathCost := by
  simp only [info, StoredInfo.mk.injEq] at h
  exact h.2.2.1

theorem rootID_le_of_vector_le (h : a.vector ≤ b.vector) : a.rootID ≤ b.rootID := by
  rcases Prod.Lex.toLex_le_toLex.mp h with hlt | ⟨heq, -⟩
  · exact hlt.le
  · exact heq.le

/-- The root and the cost, the first parts of the vector. -/
def claim (port : Ieee8021dInterfaceData) : (ℕ ×ₗ ℕ) ×ₗ ℕ := toLex (port.rootID, port.rootPathCost)

theorem claim_le_of_vector_le (h : a.vector ≤ b.vector) : a.claim ≤ b.claim := by
  refine Prod.Lex.toLex_le_toLex.mpr ?_
  rcases Prod.Lex.toLex_le_toLex.mp h with hlt | ⟨heq, hrest⟩
  · exact .inl hlt
  · refine .inr ⟨heq, ?_⟩
    rcases Prod.Lex.toLex_le_toLex.mp hrest with hlt | ⟨hcost, -⟩
    · exact hlt.le
    · exact hcost.le

theorem vector_lt_of_claim_lt (h : a.claim < b.claim) : a.vector < b.vector := by
  by_contra hnot
  exact absurd (claim_le_of_vector_le (not_lt.mp hnot)) (not_le.mpr h)

end Ieee8021dInterfaceData

namespace STP

variable {n : ℕ} {s s' : STP n}

def ownID (s : STP n) : ℕ ×ₗ ℕ := bridgeID s.bridgePriority s.bridgeAddress

def rootID (s : STP n) : ℕ ×ₗ ℕ := bridgeID s.rootPriority s.rootAddress

/-- The root information, the stored port information and the port roles are the same. -/
structure SameInfo (s s' : STP n) : Prop where
  isRoot : s'.isRoot = s.isRoot
  rootPriority : s'.rootPriority = s.rootPriority
  rootAddress : s'.rootAddress = s.rootAddress
  rootPathCost : s'.rootPathCost = s.rootPathCost
  info : ∀ i, (s'.ports i).info = (s.ports i).info
  role : ∀ i, (s'.ports i).role = (s.ports i).role

instance (s s' : STP n) : Decidable (SameInfo s s') :=
  decidable_of_iff (s'.isRoot = s.isRoot ∧ s'.rootPriority = s.rootPriority ∧
      s'.rootAddress = s.rootAddress ∧ s'.rootPathCost = s.rootPathCost ∧
      (∀ i, (s'.ports i).info = (s.ports i).info) ∧ ∀ i, (s'.ports i).role = (s.ports i).role)
    ⟨fun ⟨h1, h2, h3, h4, h5, h6⟩ => ⟨h1, h2, h3, h4, h5, h6⟩, fun h =>
      ⟨h.isRoot, h.rootPriority, h.rootAddress, h.rootPathCost, h.info, h.role⟩⟩

theorem SameInfo.rootID (h : SameInfo s s') : s'.rootID = s.rootID := by
  unfold STP.rootID
  rw [h.rootPriority, h.rootAddress]

theorem checkRootEligibility_iff :
    s.checkRootEligibility = true ↔ ∀ i, s.ownID ≤ (s.ports i).rootID := by
  unfold checkRootEligibility
  simp only [List.all_eq_true, List.mem_finRange, true_imp_iff, Bool.not_eq_true',
    decide_eq_false_iff_not]
  refine forall_congr' fun i => ?_
  have hpos := (compareBridgeIDs_decides (s.ports i).rootPriority s.bridgePriority
    (s.ports i).rootAddress s.bridgeAddress).pos_iff
  rw [gt_iff_lt, hpos, not_lt]
  rfl

/-- The port that is chosen has the best vector among those looked at. -/
theorem foldl_betterRootPort (ports : Fin n → Ieee8021dInterfaceData) (l : List (Fin n)) :
    ∀ best : Fin n, (ports (l.foldl (betterRootPort ports) best)).vector ≤ (ports best).vector ∧
      ∀ i ∈ l, (ports (l.foldl (betterRootPort ports) best)).vector ≤ (ports i).vector := by
  induction l with
  | nil => exact fun best => ⟨le_rfl, fun i hi => nomatch hi⟩
  | cons j l ih =>
    intro best
    have hstep : (ports (betterRootPort ports best j)).vector ≤ (ports best).vector ∧
        (ports (betterRootPort ports best j)).vector ≤ (ports j).vector := by
      have hcompare := comparePorts_decides (ports j) (ports best)
      unfold betterRootPort
      split
      · next hpos => exact ⟨(hcompare.pos_iff.mp hpos).le, le_rfl⟩
      · next hpos =>
        split
        · next hneg => exact ⟨le_rfl, (hcompare.neg_iff.mp hneg).le⟩
        · next hneg =>
          have heq := hcompare.zero_iff.mp (by omega)
          split
          · exact ⟨heq.le, le_rfl⟩
          · exact ⟨le_rfl, heq.ge⟩
    obtain ⟨hbest, hall⟩ := ih (betterRootPort ports best j)
    refine ⟨hbest.trans hstep.1, fun i hi => ?_⟩
    rcases List.mem_cons.mp hi with rfl | hi
    · exact hbest.trans hstep.2
    · exact hall i hi

theorem bestRootPort_le (ports : Fin n → Ieee8021dInterfaceData) (port0 i : Fin n) :
    (ports (bestRootPort ports port0)).vector ≤ (ports i).vector :=
  (foldl_betterRootPort ports (List.finRange n) port0).2 i (List.mem_finRange i)

/-- The role of a port other than the root port, from what it stores. -/
def RoleOf (s : STP n) (i : Fin n) : Prop :=
  (s.bridgeGlobal i).vector < (s.ports i).vector ∧ (s.ports i).role = .DESIGNATED ∨
  (s.ports i).vector < (s.bridgeGlobal i).vector ∧ (s.ports i).role = .ALTERNATE ∨
  (s.bridgeGlobal i).vector = (s.ports i).vector ∧ (s.ports i).role = .NOTASSIGNED

/-- A bridge that has chosen its root, its root port and its designated ports. -/
inductive Settled (s : STP n) : Prop where
  | root (isRoot : s.isRoot = true) (rootID : s.rootID = s.ownID) (cost : s.rootPathCost = 0)
      (eligible : ∀ i, s.ownID ≤ (s.ports i).rootID)
      (role : ∀ i, (s.ports i).role = .DISABLED ∨ (s.ports i).role = .DESIGNATED)
  | nonRoot (x : Fin n) (notRoot : s.isRoot = false) (roleRoot : (s.ports x).role = .ROOT)
      (rootID : s.rootID = (s.ports x).rootID) (cost : s.rootPathCost = (s.ports x).rootPathCost)
      (best : ∀ i, (s.ports x).vector ≤ (s.ports i).vector) (less : s.rootID < s.ownID)
      (role : ∀ i, i ≠ x → s.RoleOf i)

/-- What `selectDesignatedPorts` makes of a port that has no role yet. -/
theorem designatedRole_cases (i : Fin n) (hrole : (s.ports i).role = .NOTASSIGNED) :
    (s.bridgeGlobal i).vector < (s.ports i).vector ∧ s.designatedRole i = .DESIGNATED ∨
    (s.ports i).vector < (s.bridgeGlobal i).vector ∧ s.designatedRole i = .ALTERNATE ∨
    (s.bridgeGlobal i).vector = (s.ports i).vector ∧ s.designatedRole i = .NOTASSIGNED := by
  have hcompare := comparePorts_decides (s.bridgeGlobal i) (s.ports i)
  unfold designatedRole
  dsimp only
  rw [hrole, if_neg (by simp)]
  split
  · next hpos => exact .inl ⟨hcompare.pos_iff.mp hpos, rfl⟩
  · next hpos =>
    split
    · next hneg => exact .inr (.inl ⟨hcompare.neg_iff.mp hneg, rfl⟩)
    · next hneg => exact .inr (.inr ⟨hcompare.zero_iff.mp (by omega), rfl⟩)

theorem tryRoot_settled (s : STP n) : s.tryRoot.Settled := by
  unfold tryRoot
  by_cases helig : s.checkRootEligibility = true
  · rw [if_pos helig]
    have hinfo : ∀ i, ((if (s.ports i).role = .DISABLED then s.ports i
        else { s.ports i with role := .DESIGNATED }).rootID) = (s.ports i).rootID := by
      intro i
      split <;> rfl
    refine .root rfl rfl rfl (fun i => ?_) (fun i => ?_)
    · exact (checkRootEligibility_iff.mp helig i).trans (hinfo i).ge
    · change (if (s.ports i).role = .DISABLED then s.ports i
        else { s.ports i with role := .DESIGNATED }).role = _ ∨
        (if (s.ports i).role = .DISABLED then s.ports i
        else { s.ports i with role := .DESIGNATED }).role = _
      split
      · next hdisabled => exact .inl hdisabled
      · exact .inr rfl
  · have hsome : ∃ i, (s.ports i).rootID < s.ownID := by
      by_contra hnone
      exact helig (checkRootEligibility_iff.mpr fun i => not_lt.mp fun h => hnone ⟨i, h⟩)
    obtain ⟨j, hj⟩ := hsome
    have hn : 0 < n := j.pos
    rw [if_neg helig, dif_pos hn]
    let x := bestRootPort s.ports ⟨0, hn⟩
    have hbest : ∀ i, (s.ports x).vector ≤ (s.ports i).vector := bestRootPort_le s.ports ⟨0, hn⟩
    refine .nonRoot x rfl ?_ rfl rfl hbest ?_ fun i hi => ?_
    · change designatedRole _ x = _
      simp [designatedRole, selectRootPort, x]
    · exact (rootID_le_of_vector_le (hbest j)).trans_lt hj
    · refine designatedRole_cases (s := ({ s with isRoot := false } : STP n).selectRootPort _) i ?_
      simp [selectRootPort, hi, x]

/-- Whether a bridge has settled is a matter of its root information, the stored port
information and the roles. -/
theorem Settled.of_sameInfo (h : s'.Settled) (hsame : SameInfo s s')
    (hid : s'.ownID = s.ownID) (hglobal : ∀ i, (s'.bridgeGlobal i).vector = (s.bridgeGlobal i).vector) :
    s.Settled := by
  have hvector : ∀ i, (s'.ports i).vector = (s.ports i).vector := fun i =>
    vector_eq_of_info_eq (hsame.info i)
  have hrootID : ∀ i, (s'.ports i).rootID = (s.ports i).rootID := fun i =>
    rootID_eq_of_info_eq (hsame.info i)
  cases h with
  | root hroot hown hcost helig hrole =>
    refine .root (hsame.isRoot ▸ hroot) ?_ (hsame.rootPathCost ▸ hcost) (fun i => ?_) fun i => ?_
    · rw [← hsame.rootID, hown, hid]
    · rw [← hid, ← hrootID]
      exact helig i
    · rw [← hsame.role]
      exact hrole i
  | nonRoot x hnot hroleRoot hroot hcost hbest hless hrole =>
    refine .nonRoot x (hsame.isRoot ▸ hnot) ?_ ?_ ?_ (fun i => ?_) ?_ fun i hi => ?_
    · rw [← hsame.role]
      exact hroleRoot
    · rw [← hsame.rootID, ← hrootID]
      exact hroot
    · rw [← hsame.rootPathCost, ← cost_eq_of_info_eq (hsame.info x)]
      exact hcost
    · rw [← hvector, ← hvector]
      exact hbest i
    · rw [← hsame.rootID, ← hid]
      exact hless
    · unfold RoleOf
      rw [← hvector, ← hglobal, ← hsame.role]
      exact hrole i hi

theorem tryRoot_info (s : STP n) (i : Fin n) : (s.tryRoot.ports i).info = (s.ports i).info := by
  unfold tryRoot
  split
  · change (if (s.ports i).role = .DISABLED then s.ports i
      else { s.ports i with role := .DESIGNATED }).info = _
    split <;> rfl
  · split <;> rfl

theorem tryRoot_ownID (s : STP n) : s.tryRoot.ownID = s.ownID := by
  unfold tryRoot
  split
  · rfl
  · split <;> rfl

theorem tryRoot_configured (s : STP n) (i : Fin n) :
    (s.tryRoot.ports i).priority = (s.ports i).priority ∧
      (s.tryRoot.ports i).linkCost = (s.ports i).linkCost := by
  unfold tryRoot
  split
  · change (if (s.ports i).role = .DISABLED then s.ports i
        else { s.ports i with role := .DESIGNATED }).priority = _ ∧
      (if (s.ports i).role = .DISABLED then s.ports i
        else { s.ports i with role := .DESIGNATED }).linkCost = _
    split <;> exact ⟨rfl, rfl⟩
  · split <;> exact ⟨rfl, rfl⟩

theorem bridgeGlobal_vector (s : STP n) (i : Fin n) : (s.bridgeGlobal i).vector =
    toLex (s.rootID, toLex (addUnsigned s.rootPathCost (s.ports i).linkCost,
      toLex (s.ownID, toLex ((s.ports i).priority, (i : ℕ))))) := rfl

theorem settled_of_tryRoot (h : SameInfo s s.tryRoot) : s.Settled := by
  refine s.tryRoot_settled.of_sameInfo h s.tryRoot_ownID fun i => ?_
  obtain ⟨hpriority, hcost⟩ := s.tryRoot_configured i
  rw [bridgeGlobal_vector, bridgeGlobal_vector, h.rootID, h.rootPathCost, hcost, hpriority,
    s.tryRoot_ownID]

theorem handleBPDU_info (s : STP n) (i : Fin n) (bpdu : BPDU) :
    (((s.handleBPDU i bpdu).1.ports i).info = (xBpdu (s.ports i) bpdu).info) ∨
      (s.ports i).vector < (xBpdu (s.ports i) bpdu).vector ∨ bpdu.maxAge ≤ bpdu.messageAge := by
  have hcompare := comparePorts_decides (s.ports i) (xBpdu (s.ports i) bpdu)
  by_cases hpos : 0 < comparePorts (s.ports i) (xBpdu (s.ports i) bpdu)
  · exact .inr (.inl (hcompare.pos_iff.mp hpos))
  · by_cases hage : bpdu.messageAge ≥ bpdu.maxAge
    · exact .inr (.inr hage)
    · refine .inl ?_
      have hset : ∀ t : STP n, t.ports i = s.ports i →
          ((t.isSuperiorBPDU i bpdu).2.ports i).info = (xBpdu (s.ports i) bpdu).info := by
        intro t ht
        unfold isSuperiorBPDU
        rw [ht, if_neg hpos]
        split <;> simp [setSuperiorBPDU, hage, setPort, info, xBpdu, ht]
      unfold handleBPDU
      rw [tryRoot_info]
      split
      · exact hset _ rfl
      · exact hset _ rfl

end STP

end inet

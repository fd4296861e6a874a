import LoRaInet.Graph.RootElection
import LoRaInet.LinkLayer.Ieee8021d.Stp.STP.Settled

namespace inet

open graph Ieee8021dInterfaceData

/-- Bridges joined by point-to-point links, each between two ports. -/
structure BridgedNetwork (B : Type) where
  numPorts : B → ℕ
  peer : (Σ b, Fin (numPorts b)) → Σ b, Fin (numPorts b)
  peer_peer : ∀ p, peer (peer p) = p
  peer_ne : ∀ p, peer p ≠ p

namespace BridgedNetwork

variable {B : Type} (net : BridgedNetwork B)

abbrev Port := Σ b, Fin (net.numPorts b)

/-- The states of all bridges. -/
abbrev State := ∀ b, STP (net.numPorts b)

namespace State

variable {net} (σ : net.State)

def port (p : net.Port) : Ieee8021dInterfaceData := (σ p.1).ports p.2

def role (p : net.Port) : PortRole := (σ.port p).role

/-- The BPDU that the bridge generates on a port now. -/
def current (p : net.Port) : BPDU := (σ p.1).configBPDU p.2 false false

/-- Addresses are distinct, and the costs of a link are positive and equal at both ends. -/
structure Configured : Prop where
  address_injective : Function.Injective fun b => (σ b).bridgeAddress
  cost_pos : ∀ p, 0 < (σ.port p).linkCost
  cost_peer : ∀ p, (σ.port (net.peer p)).linkCost = (σ.port p).linkCost

/-- The ports that are not designated store what their peers generate now, and what a
designated port generates now changes nothing at its peer. -/
structure Stable : Prop where
  stored : ∀ p, σ.role p ≠ .DESIGNATED →
    (σ.port p).info = (STP.xBpdu (σ.port p) (σ.current (net.peer p))).info
  processed : ∀ p, σ.role p = .DESIGNATED →
    STP.SameInfo (σ (net.peer p).1)
      ((σ (net.peer p).1).handleBPDU (net.peer p).2 (σ.current p)).1

/-- What `STP` leaves to its surroundings: states that `tryRoot` has produced, costs that do not
overflow, bridges not linked to themselves, no disabled port, and BPDUs of some lifetime. -/
structure Regular : Prop where
  tryRoot : ∀ b, STP.SameInfo (σ b) (σ b).tryRoot
  no_overflow : ∀ p, (σ p.1).rootPathCost + (σ.port p).linkCost < 2 ^ 32
  no_loop : ∀ p, (net.peer p).1 ≠ p.1
  enabled : ∀ p, σ.role p ≠ .DISABLED
  maxAge_pos : ∀ b, 0 < (σ b).currentMaxAge

variable {σ}

def links (h : σ.Configured) : Links B net.Port where
  owner := Sigma.fst
  peer := net.peer
  cost p := (σ.port p).linkCost
  peer_peer := net.peer_peer
  cost_peer := h.cost_peer
  cost_pos := h.cost_pos

/-- One bridge is the root, it is the least one, all bridges know it and their least costs to
it, every link has one designated end, and the links from root ports form a spanning tree. -/
structure HasSpanningTree (h : σ.Configured) : Prop where
  existsUnique_root : ∃! r, (σ r).isRoot = true
  least : ∀ r, (σ r).isRoot = true → ∀ b, (σ r).ownID ≤ (σ b).ownID
  rootAddress : ∀ r, (σ r).isRoot = true → ∀ b, (σ b).rootAddress = (σ r).bridgeAddress
  rootPathCost : ∀ r, (σ r).isRoot = true → ∀ b,
    Distance (links h).edge r b (σ b).rootPathCost
  one_designated : ∀ p, σ.role p = .DESIGNATED ↔ σ.role (net.peer p) ≠ .DESIGNATED
  tree : (links h).SpanningTree fun p => σ.role p = .ROOT ∧ σ.role (net.peer p) = .DESIGNATED

section Election

variable (σ) in
def election : Election B net.Port (ℕ ×ₗ ℕ) where
  id b := (σ b).ownID
  elected b := (σ b).isRoot = true
  root b := (σ b).rootID
  distance b := (σ b).rootPathCost
  upward p := σ.role p = .ROOT
  designated p := σ.role p = .DESIGNATED

variable (σ) in
/-- What a port offers to its peer. -/
def offer (p : net.Port) : Ieee8021dInterfaceData := (σ p.1).bridgeGlobal p.2

theorem ownID_injective (h : σ.Configured) : Function.Injective σ.election.id := by
  intro b b' heq
  exact h.address_injective (bridgeID_inj.mp heq).2

theorem xBpdu_vector (h : σ.Configured) (p : net.Port) :
    (STP.xBpdu (σ.port (net.peer p)) (σ.current p)).vector = (σ.offer p).vector := by
  rw [offer, STP.bridgeGlobal_vector, ← show (σ.port (net.peer p)).linkCost =
    ((σ p.1).ports p.2).linkCost from h.cost_peer p]
  rfl

variable {p : net.Port}

theorem stored_vector (h : σ.Configured) (hstable : σ.Stable)
    (hp : σ.role p ≠ .DESIGNATED) : (σ.port p).vector = (σ.offer (net.peer p)).vector := by
  have hvector := vector_eq_of_info_eq (hstable.stored p hp)
  have hoffer := xBpdu_vector h (net.peer p)
  rw [net.peer_peer] at hoffer
  exact hvector.trans hoffer

/-- What a designated port generates is not superior to what its peer stores. -/
theorem stored_le_offer (h : σ.Configured) (hstable : σ.Stable) (hregular : σ.Regular)
    (hp : σ.role p = .DESIGNATED) :
    (σ.port (net.peer p)).vector ≤ (σ.offer p).vector := by
  rw [← xBpdu_vector h p]
  rcases (σ (net.peer p).1).handleBPDU_info (net.peer p).2 (σ.current p) with hinfo | hlt | hage
  · have hsame := (hstable.processed p hp).info (net.peer p).2
    exact (vector_eq_of_info_eq (hsame.symm.trans hinfo)).le
  · exact hlt.le
  · exact absurd (hregular.maxAge_pos p.1) (not_lt.mpr hage)

theorem settled (hregular : σ.Regular) (b : B) : (σ b).Settled :=
  STP.settled_of_tryRoot (hregular.tryRoot b)

theorem offer_vector (hregular : σ.Regular) (p : net.Port) :
    (σ.offer p).vector = toLex ((σ p.1).rootID,
      toLex ((σ p.1).rootPathCost + (σ.port p).linkCost,
        toLex ((σ p.1).ownID, toLex ((σ.port p).priority, (p.2 : ℕ))))) := by
  have hsum := addUnsigned_of_lt (hregular.no_overflow p)
  rw [← hsum]
  rfl

theorem offer_claim (hregular : σ.Regular) (p : net.Port) :
    (σ.offer p).claim = σ.election.claim p.1 (σ.port p).linkCost := by
  change toLex ((σ p.1).rootID, addUnsigned (σ p.1).rootPathCost (σ.port p).linkCost) = _
  rw [addUnsigned_of_lt (hregular.no_overflow p)]
  rfl

theorem offer_ne (h : σ.Configured) (hregular : σ.Regular) (p : net.Port) :
    (σ.offer p).vector ≠ (σ.offer (net.peer p)).vector := by
  intro heq
  rw [offer_vector hregular, offer_vector hregular] at heq
  have hid := congrArg (fun v : PortVector => (ofLex (ofLex (ofLex v).2).2).1) heq
  exact hregular.no_loop p (ownID_injective h hid).symm

theorem role_of_isRoot (hregular : σ.Regular) (hroot : (σ p.1).isRoot = true) :
    σ.role p = .DESIGNATED := by
  cases settled hregular p.1 with
  | root _ _ _ _ hrole => exact (hrole p.2).resolve_left (hregular.enabled p)
  | nonRoot _ hnot =>
    rw [hroot] at hnot
    cases hnot

/-- The root port of a bridge stores the best vector, which comes from its peer. -/
theorem exists_rootPort (hregular : σ.Regular) {b : B}
    (hb : ¬ (σ b).isRoot = true) : ∃ x : Fin (net.numPorts b), σ.role ⟨b, x⟩ = .ROOT ∧
      (σ b).rootID = ((σ b).ports x).rootID ∧
      (σ b).rootPathCost = ((σ b).ports x).rootPathCost ∧
      (∀ i, ((σ b).ports x).vector ≤ ((σ b).ports i).vector) ∧ (σ b).rootID < (σ b).ownID ∧
      ∀ i, i ≠ x → (σ b).RoleOf i := by
  cases settled hregular b with
  | root hroot => exact absurd hroot hb
  | nonRoot x _ hrole hroot hcost hbest hless hroles =>
    exact ⟨x, hrole, hroot, hcost, hbest, hless, hroles⟩

theorem claim_le_port (hregular : σ.Regular) {b : B} (hb : ¬ (σ b).isRoot = true) (i : Fin (net.numPorts b)) :
    σ.election.claim b 0 ≤ ((σ b).ports i).claim := by
  obtain ⟨x, -, hroot, hcost, hbest, -, -⟩ := exists_rootPort hregular hb
  have hclaim : σ.election.claim b 0 = ((σ b).ports x).claim := by
    change toLex ((σ b).rootID, (σ b).rootPathCost + 0) = _
    rw [hroot, hcost]
    rfl
  rw [hclaim]
  exact claim_le_of_vector_le (hbest i)

/-- The claim of a bridge is the offer that its root port has stored. -/
theorem claim_of_rootPort (h : σ.Configured) (hstable : σ.Stable) (hregular : σ.Regular)
    (hp : σ.role p = .ROOT) :
    σ.election.claim p.1 0 = σ.election.claim (net.peer p).1 (σ.port p).linkCost := by
  have hnot : σ.role p ≠ .DESIGNATED := by rw [hp]; decide
  have hb : ¬ (σ p.1).isRoot = true := fun hroot => hnot (role_of_isRoot hregular hroot)
  obtain ⟨x, hx, hroot, hcost, -, -, hroles⟩ := exists_rootPort hregular hb
  have hsame : p.2 = x := by
    by_contra hne
    rcases hroles p.2 hne with ⟨-, hrole⟩ | ⟨-, hrole⟩ | ⟨-, hrole⟩ <;>
      exact absurd (hp.symm.trans hrole) (by decide)
  have hstored : (σ.port p).claim = (σ.offer (net.peer p)).claim := by
    refine le_antisymm ?_ ?_
    · exact claim_le_of_vector_le (stored_vector h hstable hnot).le
    · exact claim_le_of_vector_le (stored_vector h hstable hnot).ge
  have hown : σ.election.claim p.1 0 = (σ.port p).claim := by
    change toLex ((σ p.1).rootID, (σ p.1).rootPathCost + 0) = ((σ p.1).ports p.2).claim
    rw [hroot, hcost, hsame]
    rfl
  rw [hown, hstored, offer_claim hregular, h.cost_peer]

/-- On a port that is not designated the bridge would offer less than its peer does. -/
theorem peer_offer_lt (h : σ.Configured) (hstable : σ.Stable) (hregular : σ.Regular)
    (hp : σ.role p ≠ .DESIGNATED) : (σ.offer (net.peer p)).vector < (σ.offer p).vector := by
  have hb : ¬ (σ p.1).isRoot = true := fun hroot => hp (role_of_isRoot hregular hroot)
  have hstored := stored_vector h hstable hp
  obtain ⟨x, hx, -, -, -, -, hroles⟩ := exists_rootPort hregular hb
  by_cases hsame : p.2 = x
  · have hrole : σ.role p = .ROOT := by
      obtain ⟨b, i⟩ := p
      cases hsame
      exact hx
    refine vector_lt_of_claim_lt ?_
    have hclaim := claim_of_rootPort h hstable hregular hrole
    rw [offer_claim hregular, offer_claim hregular, h.cost_peer, ← hclaim]
    have hpos := h.cost_pos p
    refine Prod.Lex.toLex_lt_toLex.mpr (.inr ⟨rfl, ?_⟩)
    exact Nat.add_lt_add_left hpos _
  · rcases hroles p.2 hsame with ⟨-, hrole⟩ | ⟨hlt, -⟩ | ⟨heq, -⟩
    · exact absurd hrole hp
    · exact hstored ▸ hlt
    · exact absurd (heq.trans hstored) (offer_ne h hregular p)

theorem offer_lt_of_designated (hregular : σ.Regular)
    (hp : σ.role p = .DESIGNATED) (hb : ¬ (σ p.1).isRoot = true) :
    (σ.offer p).vector < (σ.port p).vector := by
  obtain ⟨x, hx, -, -, -, -, hroles⟩ := exists_rootPort hregular hb
  have hne : p.2 ≠ x := by
    rintro rfl
    exact absurd (hp.symm.trans hx) (by decide)
  rcases hroles p.2 hne with ⟨hlt, -⟩ | ⟨-, hrole⟩ | ⟨-, hrole⟩
  · exact hlt
  · exact absurd (hp.symm.trans hrole) (by decide)
  · exact absurd (hp.symm.trans hrole) (by decide)

theorem eligible (hregular : σ.Regular) {b : B} (hroot : (σ b).isRoot = true) :
    (σ b).rootID = (σ b).ownID ∧ (σ b).rootPathCost = 0 ∧
      ∀ i, (σ b).ownID ≤ ((σ b).ports i).rootID := by
  cases settled hregular b with
  | root _ hown hcost helig => exact ⟨hown, hcost, helig⟩
  | nonRoot _ hnot =>
    rw [hroot] at hnot
    cases hnot

section

variable (h : σ.Configured) (hstable : σ.Stable) (hregular : σ.Regular)
include h hstable hregular

/-- A root does not store better roots than itself, so nobody offers it one. -/
theorem ownID_le_rootID_peer
    (hroot : (σ p.1).isRoot = true) (hpeer : σ.role (net.peer p) = .DESIGNATED) :
    (σ p.1).ownID ≤ (σ (net.peer p).1).rootID := by
  have hle := stored_le_offer h hstable hregular hpeer
  rw [net.peer_peer] at hle
  exact ((eligible hregular hroot).2.2 p.2).trans (rootID_le_of_vector_le hle)

theorem rootPathCost_pos {b : B} (hb : ¬ (σ b).isRoot = true) : 0 < (σ b).rootPathCost := by
  obtain ⟨x, hx, -⟩ := exists_rootPort hregular hb
  have hclaim := claim_of_rootPort h hstable hregular hx
  have hcost : (σ b).rootPathCost + 0 = _ := congrArg (fun c => (ofLex c).2) hclaim
  have hpos := h.cost_pos ⟨b, x⟩
  rw [← Nat.add_zero (σ b).rootPathCost, hcost]
  exact Nat.add_pos_right _ hpos

theorem not_designated_to_root (hroot : (σ p.1).isRoot = true) :
    σ.role (net.peer p) ≠ .DESIGNATED := by
  intro hq
  have hp := role_of_isRoot hregular hroot
  have hown := ownID_le_rootID_peer h hstable hregular hroot hq
  have hle := stored_le_offer h hstable hregular hp
  obtain ⟨hrootID, hcost, -⟩ := eligible hregular hroot
  by_cases hpeer : (σ (net.peer p).1).isRoot = true
  · have hp' : σ.role (net.peer (net.peer p)) = .DESIGNATED := by rw [net.peer_peer]; exact hp
    have hother := ownID_le_rootID_peer h hstable hregular hpeer hp'
    rw [net.peer_peer, hrootID] at hother
    rw [(eligible hregular hpeer).1] at hown
    exact hregular.no_loop p (ownID_injective h (le_antisymm hother hown))
  · -- its offer would be of this root, at no cost
    have hlt := (offer_lt_of_designated hregular hq hpeer).trans_le hle
    have hclaims := claim_le_of_vector_le hlt.le
    rw [offer_claim hregular, offer_claim hregular, h.cost_peer] at hclaims
    have hsame : (σ (net.peer p).1).rootID = (σ p.1).rootID :=
      le_antisymm (Election.root_le_of_claim_le hclaims) (hrootID ▸ hown)
    have hdistance : (σ (net.peer p).1).rootPathCost + (σ.port p).linkCost ≤
        (σ p.1).rootPathCost + (σ.port p).linkCost :=
      Election.distance_le_of_claim_le hclaims hsame
    have hpos := rootPathCost_pos h hstable hregular hpeer
    omega

theorem not_both_designated (hp : σ.role p = .DESIGNATED) : σ.role (net.peer p) ≠ .DESIGNATED := by
  by_cases hroot : (σ p.1).isRoot = true
  · exact not_designated_to_root h hstable hregular hroot
  · intro hq
    by_cases hpeer : (σ (net.peer p).1).isRoot = true
    · have hnot := not_designated_to_root h hstable hregular hpeer
      rw [net.peer_peer] at hnot
      exact hnot hp
    · -- each end would offer strictly more than the other
      have hback := stored_le_offer h hstable hregular hq
      rw [net.peer_peer] at hback
      have hfirst := (offer_lt_of_designated hregular hp hroot).trans_le hback
      have hsecond := (offer_lt_of_designated hregular hq hpeer).trans_le
        (stored_le_offer h hstable hregular hp)
      exact absurd hfirst hsecond.asymm

theorem designated_iff
    (p : net.Port) : σ.role p = .DESIGNATED ↔ σ.role (net.peer p) ≠ .DESIGNATED := by
  refine ⟨not_both_designated h hstable hregular, fun hq => ?_⟩
  by_contra hp
  have hfirst := peer_offer_lt h hstable hregular hp
  have hsecond := peer_offer_lt h hstable hregular hq
  rw [net.peer_peer] at hsecond
  exact absurd hfirst hsecond.asymm

theorem election_settled : Election.Settled (links h) σ.election where
  elected_root b hb := (eligible hregular hb).1
  elected_distance b hb := (eligible hregular hb).2.1
  elected_designated p hp := role_of_isRoot hregular hp
  root_lt b hb := by
    obtain ⟨-, -, -, -, -, hless, -⟩ := exists_rootPort hregular hb
    exact hless
  exists_upward b hb := by
    obtain ⟨x, hx, -⟩ := exists_rootPort hregular hb
    exact ⟨⟨b, x⟩, rfl, hx⟩
  upward_unique p q hp hq howner := by
    obtain ⟨b, i⟩ := p
    obtain ⟨b', j⟩ := q
    obtain rfl : b = b' := howner
    have hb : ¬ (σ b).isRoot = true := fun hroot =>
      absurd (hp.symm.trans (role_of_isRoot (p := ⟨b, i⟩) hregular hroot)) (by decide)
    obtain ⟨x, -, -, -, -, -, hroles⟩ := exists_rootPort hregular hb
    have hroot : ∀ k, σ.role ⟨b, k⟩ = .ROOT → k = x := by
      intro k hk
      by_contra hne
      rcases hroles k hne with ⟨-, hrole⟩ | ⟨-, hrole⟩ | ⟨-, hrole⟩ <;>
        exact absurd (hk.symm.trans hrole) (by decide)
    rw [hroot i hp, hroot j hq]
  upward_not_designated p hp hdesignated := absurd (hp.symm.trans hdesignated) (by decide)
  upward_claim p hp := claim_of_rootPort h hstable hregular hp
  designated_iff p := designated_iff h hstable hregular p
  near p hp := by
    have hlt := (peer_offer_lt h hstable hregular hp).le
    have hclaim := claim_le_of_vector_le hlt
    rw [offer_claim hregular, offer_claim hregular, h.cost_peer] at hclaim
    rcases Election.claim_le_iff.mp hclaim with hless | ⟨heq, hcost⟩
    · exact Election.claim_le_iff.mpr (.inl hless)
    · exact Election.claim_le_iff.mpr (.inr ⟨heq, Nat.le_of_add_le_add_right hcost⟩)
  best p hp := by
    have hb : ¬ (σ p.1).isRoot = true := fun hroot => hp (role_of_isRoot hregular hroot)
    have hle := claim_le_port hregular hb p.2
    have hstored := claim_le_of_vector_le (stored_vector h hstable hp).le
    have hoffer := hle.trans hstored
    rw [offer_claim hregular, h.cost_peer] at hoffer
    exact hoffer

end

/-- Every fixpoint of STP is a spanning tree below the least bridge. -/
theorem hasSpanningTree [Finite B] [Nonempty B] (h : σ.Configured) (hconn : (links h).Connected)
    (hstable : σ.Stable) (hregular : σ.Regular) : HasSpanningTree h := by
  have hsettled := election_settled h hstable hregular
  have hid := ownID_injective h
  obtain ⟨r, hr, -⟩ := hsettled.exists_walk (Classical.arbitrary B)
  exact
    { existsUnique_root := ⟨r, hr, fun r' hr' => hsettled.elected_unique hconn hid hr' hr⟩
      least := fun r' hr' b => hsettled.id_le hconn hr' b
      rootAddress := fun r' hr' b => by
        have hroot := hsettled.root_eq hconn b r'
        rw [hsettled.elected_root r' hr'] at hroot
        exact (bridgeID_inj.mp hroot).2
      rootPathCost := fun r' hr' b => hsettled.distance_elected hconn hid hr' b
      one_designated := designated_iff h hstable hregular
      tree := hsettled.spanningTree hconn hid hr }

end Election

/-- Two bridges with one link. -/
def cable : BridgedNetwork (Fin 2) where
  numPorts _ := 1
  peer p := ⟨1 - p.1, p.2⟩
  peer_peer := by decide
  peer_ne := by decide

/-- One bridge with a link between its two ports. -/
def loopback : BridgedNetwork (Fin 1) where
  numPorts _ := 2
  peer p := ⟨p.1, 1 - p.2⟩
  peer_peer := by decide
  peer_ne := by decide

def started (n : ℕ) (address : MACAddress) (linkCost : ℕ) (maxAge : omnetpp.SimTime) : STP n :=
  { bridgePriority := 32768
    bridgeAddress := address
    maxAge := maxAge
    helloTime := 2
    forwardDelay := 15
    ports := fun _ => { PortInfo with linkCost := linkCost }
    isRoot := false
    rootPort := 0
    desPorts := []
    rootPathCost := 0
    rootPriority := 0
    rootAddress := 0
    currentMaxAge := 0
    currentFwdDelay := 0
    currentHelloTime := 0
    currentBridgePriority := 0
    topologyChangeNotification := false
    topologyChangeRecvd := false : STP n }.start

def following (s leader : STP 1) : STP 1 := (s.handleBPDU 0 (leader.configBPDU 0 false false)).1

def pair (a b : STP 1) : cable.State := fun i => if i = 0 then a else b

/-- The second bridge has heard the first one. -/
def elected : cable.State := pair (started 1 1 19 20) (following (started 1 2 19 20) (started 1 1 19 20))

theorem elected_configured : elected.Configured := ⟨by decide, by decide, by decide⟩

theorem connected_of_cable {σ : cable.State} (h : σ.Configured) : (links h).Connected := by
  intro u v
  by_cases huv : u = v
  · subst huv
    exact ⟨0, .root⟩
  · have hv : v = 1 - u := by omega
    subst hv
    exact ⟨_, .step .root ⟨⟨u, (0 : Fin 1)⟩, rfl, rfl, rfl⟩⟩

theorem hasSpanningTree_elected : HasSpanningTree elected_configured :=
  hasSpanningTree elected_configured (connected_of_cable _)
    ⟨by decide +kernel, by decide +kernel⟩
    ⟨by decide +kernel, by decide +kernel, by decide, by decide +kernel, by decide +kernel⟩

/-- A bridge that reports a root that does not exist. -/
def ghost (linkCost : ℕ) : STP 1 :=
  { started 1 1 linkCost 20 with
    isRoot := false
    rootPriority := 0
    rootAddress := 0 }

def ghostRoot : cable.State := pair (ghost 19) (following (started 1 2 19 20) (ghost 19))

/-- Each of the bridges has heard of the root from the other one, at a cost that overflows. -/
def overflowing : cable.State :=
  let follower := following (started 1 2 (2 ^ 31) 20) (ghost (2 ^ 31))
  pair (following (ghost (2 ^ 31)) follower) follower

def looped : loopback.State := fun _ => started 2 1 19 20

def disabledPort : cable.State :=
  let root := started 1 1 19 20
  let follower := following (started 1 2 19 20) root
  let stored := root.setSuperiorBPDU 0 (follower.configBPDU 0 false false)
  pair (stored.setPort 0 { stored.ports 0 with role := .DISABLED }) follower

def expired : cable.State := pair (started 1 1 19 0) (started 1 2 19 0)

/-- A fixpoint of a configured and connected network that is not a spanning tree. -/
def Stray {B : Type} {net : BridgedNetwork B} (σ : net.State) : Prop :=
  ∃ h : σ.Configured, (links h).Connected ∧ σ.Stable ∧ ¬ HasSpanningTree h

/-- Each of the conditions of `Regular` is needed. -/
theorem stray_fixpoints :
    Stray ghostRoot ∧ Stray overflowing ∧ Stray looped ∧ Stray disabledPort ∧ Stray expired := by
  refine ⟨?ghost, ?overflow, ?loop, ?disabled, ?expired⟩
  case ghost =>
    refine ⟨⟨by decide, by decide +kernel, by decide +kernel⟩, connected_of_cable _,
      ⟨by decide +kernel, by decide +kernel⟩, fun htree => ?_⟩
    obtain ⟨r, hr, -⟩ := htree.existsUnique_root
    revert r
    decide +kernel
  case overflow =>
    refine ⟨⟨by decide +kernel, by decide +kernel, by decide +kernel⟩, connected_of_cable _,
      ⟨by decide +kernel, by decide +kernel⟩, fun htree => ?_⟩
    obtain ⟨r, hr, -⟩ := htree.existsUnique_root
    revert r
    decide +kernel
  case loop =>
    refine ⟨⟨by decide +kernel, by decide +kernel, by decide +kernel⟩, ?_,
      ⟨by decide +kernel, by decide +kernel⟩, fun htree => ?_⟩
    · intro u v
      rw [Subsingleton.elim u v]
      exact ⟨0, .root⟩
    · have hone := htree.one_designated ⟨0, (0 : Fin 2)⟩
      revert hone
      decide +kernel
  case disabled =>
    refine ⟨⟨by decide +kernel, by decide +kernel, by decide +kernel⟩, connected_of_cable _,
      ⟨by decide +kernel, by decide +kernel⟩, fun htree => ?_⟩
    have hone := htree.one_designated ⟨0, (0 : Fin 1)⟩
    revert hone
    decide +kernel
  case expired =>
    refine ⟨⟨by decide +kernel, by decide +kernel, by decide +kernel⟩, connected_of_cable _,
      ⟨by decide +kernel, by decide +kernel⟩, fun htree => ?_⟩
    have hone := htree.one_designated ⟨0, (0 : Fin 1)⟩
    revert hone
    decide +kernel

end State

end BridgedNetwork

end inet

import LoRaInet.TransportLayer.Tcp.TCPConnection.Algorithm
import LoRaInet.TransportLayer.Tcp.TCPSACKRexmitQueue.Queries

open omnetpp interval

namespace inet.tcp.TCPConnection

open TCPSACKRexmitQueue

/-- The retransmission queue has the bytes from `snd_una` on, but for a FIN that was sent without one. -/
structure Outgoing (c : TCPConnection) (bits : Bits) (una high top : ℤ) : Prop where
  sack_enabled : c.sack_enabled = true
  queue : c.rexmitQueue.Holds bits una high
  snd_una : c.snd_una = seqOf una
  snd_max : c.snd_max = seqOf top
  high_le : high ≤ top
  room : top < una + 2 ^ 31

/-- The byte has not been SACKed, no byte from it on has been sent again, and one above it has been SACKed. -/
structure Candidate (bits : Bits) (una high p : ℤ) : Prop where
  una_le : una ≤ p
  unsacked : bits.sacked p = false
  aboveHighRxt : ∀ x, p ≤ x → x < high → bits.rexmitted x = false
  belowSacked : ∃ x, p < x ∧ x < high ∧ bits.sacked x = true

variable (c : TCPConnection)

/-- A candidate of which `IsLost` says that it is lost. -/
def LostCandidate (bits : Bits) (una high p : ℤ) : Prop :=
  Candidate bits una high p ∧ c.isLost (seqOf p) = .ok true

def hasUnsentData : Bool := c.sendQueue.getBytesAvailable c.snd_max > 0

/-- The first byte of new data is in the window that the receiver has advertised. -/
def WindowAllows (una top : ℤ) : Prop := top < una + c.snd_wnd.toNat

/-- The window as the code takes it into account. -/
def windowTest : Bool := c.snd_wnd < c.pipe || c.snd_wnd - c.pipe ≥ c.snd_mss

/-- What the rules (1) to (4) of `NextSeg` prescribe. -/
def Prescribed (bits : Bits) (una high top : ℤ) (seqNum : Option uint32) : Prop :=
  (∃ p, IsLeast {p | c.LostCandidate bits una high p} p ∧ seqNum = some (seqOf p)) ∨
  (¬∃ p, c.LostCandidate bits una high p) ∧
    ((c.hasUnsentData = true ∧ c.WindowAllows una top ∧ seqNum = some c.snd_max) ∨
      ¬(c.hasUnsentData = true ∧ c.WindowAllows una top) ∧
        ((∃ p, IsLeast {p | Candidate bits una high p} p ∧ seqNum = some (seqOf p)) ∨
          (¬∃ p, Candidate bits una high p) ∧ seqNum = none))

section Rules

variable {c : TCPConnection} {bits : Bits} {una high top p highRxt highestSacked : ℤ}

theorem candidate_iff
    (hrexmitted : IsGreatest (insert una {x | una < x ∧ x ≤ high ∧ bits.rexmitted (x - 1) = true}) highRxt)
    (hsacked : IsGreatest (insert una {x | una < x ∧ x ≤ high ∧ bits.sacked (x - 1) = true}) highestSacked) :
    Candidate bits una high p ↔ highRxt ≤ p ∧ p < highestSacked ∧ bits.sacked p = false := by
  constructor
  · intro h
    refine ⟨?_, ?_, h.unsacked⟩
    · rcases hrexmitted.1 with rfl | ⟨-, hle, hbit⟩
      · exact h.una_le
      · by_contra hlt
        rw [h.aboveHighRxt (highRxt - 1) (by omega) (by omega)] at hbit
        cases hbit
    · obtain ⟨x, hx, hxhigh, hbit⟩ := h.belowSacked
      have hle := h.una_le
      have hmost : x + 1 ≤ highestSacked :=
        hsacked.2 (.inr ⟨by omega, by omega, by rwa [add_sub_cancel_right]⟩)
      omega
  · rintro ⟨hle, hlt, hunsacked⟩
    have huna : una ≤ highRxt := hrexmitted.2 (.inl rfl)
    refine ⟨huna.trans hle, hunsacked, fun x hx hxhigh => ?_, ?_⟩
    · by_contra hbit
      have hbit := Bool.eq_true_of_not_eq_false hbit
      have hmost : x + 1 ≤ highRxt := hrexmitted.2 (.inr ⟨by omega, by omega, by rwa [add_sub_cancel_right]⟩)
      omega
    · rcases hsacked.1 with rfl | ⟨-, hhigh, hbit⟩
      · omega
      · refine ⟨highestSacked - 1, ?_, by omega, hbit⟩
        have hne : p ≠ highestSacked - 1 := by
          rintro rfl
          rw [hunsacked] at hbit
          cases hbit
        omega

theorem Outgoing.firstUnsacked_eq (h : c.Outgoing bits una high top) (hsacked : una ≤ highestSacked ∧ highestSacked ≤ high)
    (rounds : ℕ) (huna : una ≤ p) (hp : p ≤ high) (hrounds : (top - p).toNat ≤ rounds) :
    (∃ first, IsLeast {x | p ≤ x ∧ x < highestSacked ∧ bits.sacked x = false} first ∧
      c.firstUnsacked (seqOf highestSacked) rounds (seqOf p) = .ok (some (seqOf first))) ∨
    (∀ x, p ≤ x → x < highestSacked → bits.sacked x = true) ∧
      c.firstUnsacked (seqOf highestSacked) rounds (seqOf p) = .ok none := by
  have hroom := h.room
  have hhigh := h.high_le
  induction rounds generalizing p with
  | zero => exact .inr ⟨fun x hx hx' => by omega, rfl⟩
  | succ rounds ih =>
    have hguard : (seqLess (seqOf p) c.snd_max && seqLess (seqOf p) (seqOf highestSacked)) = true ↔
        p < highestSacked := by
      rw [h.snd_max, Bool.and_eq_true, seqLess_seqOf ⟨by omega, by omega⟩, seqLess_seqOf ⟨by omega, by omega⟩]
      exact ⟨And.right, fun hlt => ⟨by omega, hlt⟩⟩
    rw [firstUnsacked]
    by_cases hlt : p < highestSacked
    · obtain ⟨n, hpos, hn, hblock, hsame⟩ := h.queue.checkSackBlock_eq huna (hlt.trans_le hsacked.2)
      rw [if_pos (hguard.mpr hlt), hblock]
      dsimp only [bind, Except.bind]
      have hbits : bits.sacked p = (bits p).1 := rfl
      cases hbit : (bits p).1 with
      | true =>
        have hnext : seqOf p + BitVec.ofNat 32 n = seqOf (p + n) := by rw [seqOf_natCast, ← seqOf_add]
        rw [hnext]
        have hskipped (x : ℤ) (hx : p ≤ x) (hx' : x < p + n) : bits.sacked x = true := by
          rw [Bits.sacked, hsame x hx hx', hbit]
        rcases ih (by omega) hn (by omega) with ⟨first, ⟨hfirst, hleast⟩, hcall⟩ | ⟨hnone, hcall⟩
        · refine .inl ⟨first, ⟨⟨by have := hfirst.1; omega, hfirst.2⟩, ?_⟩, hcall⟩
          rintro x ⟨hx, hxlt, hxbit⟩
          refine hleast ⟨?_, hxlt, hxbit⟩
          by_contra hinside
          rw [hskipped x hx (not_le.mp hinside)] at hxbit
          cases hxbit
        · refine .inr ⟨fun x hx hxlt => ?_, hcall⟩
          by_cases hinside : x < p + n
          · exact hskipped x hx hinside
          · exact hnone x (not_lt.mp hinside) hxlt
      | false =>
        exact .inl ⟨p, ⟨⟨le_refl p, hlt, hbits.trans hbit⟩, fun x hx => hx.1⟩, rfl⟩
    · rw [if_neg fun hcond => hlt (hguard.mp hcond)]
      exact .inr ⟨fun x hx hx' => by omega, rfl⟩

theorem Outgoing.una_le (h : c.Outgoing bits una high top) (huna : una ≤ p) (hp : p ≤ high) :
    seqGE (seqOf p) c.snd_una = true := by
  have hroom := h.room
  have hhigh := h.high_le
  rw [h.snd_una, seqGE_seqOf ⟨by omega, by omega⟩]
  exact huna

theorem Outgoing.exists_isLost (h : c.Outgoing bits una high top) (huna : una ≤ p) (hp : p ≤ high) :
    ∃ lost, c.isLost (seqOf p) = .ok lost :=
  ⟨_, h.queue.isLost_eq huna hp h.sack_enabled (h.una_le huna hp)⟩

theorem Candidate.lt_high (h : Candidate bits una high p) : p < high := by
  obtain ⟨x, hx, hhigh, -⟩ := h.belowSacked
  exact hx.trans hhigh

theorem Outgoing.lostCandidate_of_le (h : c.Outgoing bits una high top) {p' : ℤ} (hp : Candidate bits una high p)
    (hle : p ≤ p') (hlost : c.LostCandidate bits una high p') : c.LostCandidate bits una high p :=
  ⟨hp, h.queue.isLost_antitone hp.una_le hle hlost.1.lt_high.le (h.una_le hp.una_le hp.lt_high.le) hlost.2⟩

theorem Outgoing.exists_firstUnsacked (h : c.Outgoing bits una high top) :
    ∃ unsacked lost,
      { c with highRxt := c.rexmitQueue.getHighestRexmittedSeqNum }.firstUnsacked
          c.rexmitQueue.getHighestSackedSeqNum
          (c.snd_max - c.rexmitQueue.getHighestRexmittedSeqNum).toNat c.rexmitQueue.getHighestRexmittedSeqNum =
        .ok unsacked ∧
      c.isLostBlock unsacked = .ok lost ∧
      ((∃ p, IsLeast {p | Candidate bits una high p} p ∧ unsacked = some (seqOf p)) ∨
        (¬∃ p, Candidate bits una high p) ∧ unsacked = none) ∧
      (lost = true → ∃ p, IsLeast {p | c.LostCandidate bits una high p} p ∧ unsacked = some (seqOf p)) ∧
      (lost = false → ¬∃ p, c.LostCandidate bits una high p) := by
  obtain ⟨highRxt, hhighRxt, hrexmitted⟩ := h.queue.getHighestRexmittedSeqNum_eq
  obtain ⟨highestSacked, hhighestSacked, hsacked⟩ := h.queue.getHighestSackedSeqNum_eq
  have hbetween {x : ℤ} {P : ℤ → Prop} (hx : IsGreatest (insert una {x | una < x ∧ x ≤ high ∧ P x}) x) :
      una ≤ x ∧ x ≤ high := by
    refine ⟨hx.2 (.inl rfl), ?_⟩
    rcases hx.1 with rfl | ⟨-, hle, -⟩
    · exact h.queue.tiles.le
    · exact hle
  have hroom := h.room
  have hhigh := h.high_le
  have hrexmittedBetween := hbetween hrexmitted
  have hstart : { c with highRxt := c.rexmitQueue.getHighestRexmittedSeqNum }.Outgoing bits una high top :=
    ⟨h.sack_enabled, h.queue, h.snd_una, h.snd_max, h.high_le, h.room⟩
  have hrounds : ((top - highRxt).toNat : ℤ) ≤ (c.snd_max - c.rexmitQueue.getHighestRexmittedSeqNum).toNat := by
    rw [hhighRxt, h.snd_max, toNat_sub_of_near (by omega) (by omega)]
    omega
  have hcandidate (p : ℤ) := @candidate_iff bits una high p highRxt highestSacked hrexmitted hsacked
  rw [hhighestSacked]
  rcases hstart.firstUnsacked_eq (hbetween hsacked) _ hrexmittedBetween.1 hrexmittedBetween.2
      (Int.ofNat_le.mp hrounds) with ⟨first, hleast, hcall⟩ | ⟨hnone, hcall⟩
  · have hset : {p | Candidate bits una high p} = {x | highRxt ≤ x ∧ x < highestSacked ∧ bits.sacked x = false} :=
      Set.ext hcandidate
    have hfirst : IsLeast {p | Candidate bits una high p} first := by rwa [hset]
    obtain ⟨lost, hlost⟩ := h.exists_isLost hfirst.1.una_le hfirst.1.lt_high.le
    rw [hhighRxt] at hcall ⊢
    refine ⟨_, lost, hcall, hlost, .inl ⟨first, hfirst, rfl⟩, ?_, ?_⟩
    · rintro rfl
      exact ⟨first, ⟨⟨hfirst.1, hlost⟩, fun p hp => hfirst.2 hp.1⟩, rfl⟩
    · rintro rfl ⟨p, hp⟩
      have hall := (h.lostCandidate_of_le hfirst.1 (hfirst.2 hp.1) hp).2
      cases hlost.symm.trans hall
  · have hno : ¬∃ p, Candidate bits una high p := by
      rintro ⟨p, hp⟩
      obtain ⟨hle, hlt, hunsacked⟩ := (hcandidate p).mp hp
      rw [hnone p hle hlt] at hunsacked
      cases hunsacked
    rw [hhighRxt] at hcall ⊢
    refine ⟨none, false, hcall, rfl, .inr ⟨hno, rfl⟩, fun hlost => ?_, fun _ ⟨p, hp⟩ => hno ⟨p, hp.1⟩⟩
    cases hlost

theorem Outgoing.ne_snd_max (h : c.Outgoing bits una high top) (hp : Candidate bits una high p) :
    seqOf p ≠ c.snd_max := by
  have hroom := h.room
  have hhigh := h.high_le
  have huna := hp.una_le
  have hlt := hp.lt_high
  rw [h.snd_max, ne_eq, seqOf_inj ⟨by omega, by omega⟩]
  omega

theorem Outgoing.prescribed_iff (h : c.Outgoing bits una high top) {unsacked : Option uint32}
    (hfirst : (∃ p, IsLeast {p | Candidate bits una high p} p ∧ unsacked = some (seqOf p)) ∨
      (¬∃ p, Candidate bits una high p) ∧ unsacked = none)
    (hno : ¬∃ p, c.LostCandidate bits una high p) (newData : Bool)
    (hnewData : newData = (c.hasUnsentData && c.windowTest)) :
    (c.Prescribed bits una high top (if newData then some c.snd_max else unsacked) ∧
      ((if newData then some c.snd_max else unsacked) = some c.snd_max → c.WindowAllows una top)) ↔
        c.hasUnsentData = false ∨ (c.windowTest = true ↔ c.WindowAllows una top) := by
  have hold : unsacked ≠ some c.snd_max := by
    rcases hfirst with ⟨p, hp, rfl⟩ | ⟨-, rfl⟩
    · exact fun heq => h.ne_snd_max hp.1 (Option.some.inj heq)
    · exact fun heq => by cases heq
  have hrules (hwindow : ¬(c.hasUnsentData = true ∧ c.WindowAllows una top)) :
      c.Prescribed bits una high top unsacked :=
    .inr ⟨hno, .inr ⟨hwindow, hfirst⟩⟩
  cases hunsent : c.hasUnsentData with
  | false =>
    rw [hunsent, Bool.false_and] at hnewData
    subst hnewData
    have hwindow : ¬(c.hasUnsentData = true ∧ c.WindowAllows una top) := fun hboth => by
      rw [hunsent] at hboth
      cases hboth.1
    exact ⟨fun _ => .inl rfl, fun _ => ⟨hrules hwindow, fun heq => absurd heq hold⟩⟩
  | true =>
    rw [hunsent, Bool.true_and] at hnewData
    subst hnewData
    cases htest : c.windowTest with
    | true =>
      constructor
      · rintro ⟨-, hallows⟩
        exact .inr ⟨fun _ => hallows rfl, fun _ => rfl⟩
      · rintro (hcontra | hiff)
        · cases hcontra
        · exact ⟨.inr ⟨hno, .inl ⟨hunsent, hiff.mp rfl, rfl⟩⟩, fun _ => hiff.mp rfl⟩
    | false =>
      constructor
      · rintro ⟨hprescribed, -⟩
        refine .inr ⟨fun hcontra => (by cases hcontra), fun hallows => ?_⟩
        rcases hprescribed with ⟨p, hp, -⟩ | ⟨-, ⟨-, -, heq⟩ | ⟨hwindow, -⟩⟩
        · exact absurd ⟨p, hp.1⟩ hno
        · exact absurd heq hold
        · exact absurd ⟨hunsent, hallows⟩ hwindow
      · rintro (hcontra | hiff)
        · cases hcontra
        · refine ⟨hrules fun hboth => ?_, fun heq => absurd heq hold⟩
          cases hiff.mpr hboth.2

/-- The answer is the one that the rules prescribe, with new data only when the window allows it, unless there is new
data, no lost byte, and the test of the window is wrong. -/
theorem nextSeg_prescribed (h : c.Outgoing bits una high top) :
    ∃ c' seqNum, c.nextSeg = .ok (c', seqNum) ∧
      ((c.Prescribed bits una high top seqNum ∧ (seqNum = some c.snd_max → c.WindowAllows una top)) ↔
        (∃ p, c.LostCandidate bits una high p) ∨ c.hasUnsentData = false ∨
          (c.windowTest = true ↔ c.WindowAllows una top)) := by
  obtain ⟨unsacked, lost, hcall, hblock, hfirst, hyes, hno⟩ := h.exists_firstUnsacked
  let next := { c with highRxt := c.rexmitQueue.getHighestRexmittedSeqNum }
  have hblock' : next.isLostBlock unsacked = .ok lost := by
    cases unsacked with
    | none => exact hblock
    | some s2 => exact hblock
  have hanswer : c.nextSeg = .ok (next, if lost then unsacked
      else if (c.hasUnsentData && c.windowTest) then some c.snd_max else unsacked) := by
    rw [nextSeg, assert_bind h.sack_enabled]
    dsimp only
    rw [hcall]
    dsimp only [bind, Except.bind]
    rw [hblock']
    cases lost with
    | true => rfl
    | false =>
      cases hnew : c.hasUnsentData && c.windowTest with
      | true => exact if_pos hnew
      | false => exact if_neg (Bool.eq_false_iff.mp hnew)
  refine ⟨next, _, hanswer, ?_⟩
  cases lost with
  | true =>
    obtain ⟨p, hp, rfl⟩ := hyes rfl
    exact ⟨fun _ => .inl ⟨p, hp.1⟩, fun _ => ⟨.inl ⟨p, hp, rfl⟩, fun heq =>
      absurd (Option.some.inj heq) (h.ne_snd_max hp.1.1)⟩⟩
  | false =>
    have hnone := hno rfl
    rw [if_neg (by decide), h.prescribed_iff hfirst hnone _ rfl]
    exact ⟨.inr, fun hcond => hcond.resolve_left hnone⟩

end Rules

/-- 300 bytes have not been sent; of the 200 bytes sent the second half has been SACKed. -/
def halfSacked (snd_wnd pipe : uint32) : TCPConnection where
  flavour := .TCPReno
  snd_mss := 100
  snd_una := 1000
  snd_nxt := 1200
  snd_max := 1200
  snd_wnd := snd_wnd
  snd_wl1 := 0
  snd_wl2 := 0
  rcv_nxt := 0
  rcv_wnd := 0
  rcv_adv := 0
  maxRcvBuffer := 0
  sack_enabled := true
  pipe := pipe
  sendQueue := { begin := 1000, endSeq := 1500 }
  receiveQueue := { rcv_nxt := 0, regionList := [] }
  rexmitQueue :=
    { rexmitQueue := [⟨1000, 1100, false, false⟩, ⟨1100, 1200, true, false⟩], begin := 1000, endSeq := 1200 }

theorem outgoing_halfSacked (snd_wnd pipe : uint32) :
    (halfSacked snd_wnd pipe).Outgoing (fun p => (decide (1100 ≤ p), false)) 1000 1200 1200 where
  sack_enabled := rfl
  queue :=
    { begin_eq := rfl
      end_eq := rfl
      tiles := by
        refine ⟨1100, ⟨by decide, rfl, rfl, fun p _ hp => ?_⟩, 1200, ⟨by decide, rfl, rfl, fun p hp _ => ?_⟩, rfl⟩
        · simp [hp]
        · simp [hp]
      lt := by decide }
  snd_una := rfl
  snd_max := rfl
  high_le := le_refl 1200
  room := by decide

theorem nextSeg_prescribed_halfSacked : ∃ c' seqNum, (halfSacked 1000 100).nextSeg = .ok (c', seqNum) ∧
    (halfSacked 1000 100).Prescribed (fun p => (decide (1100 ≤ p), false)) 1000 1200 1200 seqNum := by
  obtain ⟨c', seqNum, hcall, hiff⟩ := nextSeg_prescribed (outgoing_halfSacked 1000 100)
  have htest : (halfSacked 1000 100).windowTest = true ↔ (halfSacked 1000 100).WindowAllows 1000 1200 := by
    unfold WindowAllows
    decide
  exact ⟨c', seqNum, hcall, (hiff.mpr (.inr (.inr htest))).1⟩

theorem nextSeg_halfSacked_shrunk : ¬(halfSacked 100 200).WindowAllows 1000 1200 ∧
    ¬(halfSacked 100 0).WindowAllows 1000 1200 := by
  have hshrunk : ¬(1200 : ℤ) < 1000 + (100 : uint32).toNat := by decide
  exact ⟨hshrunk, hshrunk⟩

/-- The window ends at 1100, below what has been sent. With 200 bytes in the pipe the difference of the window and the
pipe wraps around, and with no bytes in the pipe the whole window is taken to be free. -/
theorem not_nextSeg_prescribed :
    ((∃ bits, (halfSacked 100 200).Outgoing bits 1000 1200 1200) ∧
      ¬(halfSacked 100 200).WindowAllows 1000 1200 ∧
      (halfSacked 100 200).nextSeg.toOption.map (·.2) = some (some 1200)) ∧
    (∃ bits, (halfSacked 100 0).Outgoing bits 1000 1200 1200) ∧
      ¬(halfSacked 100 0).WindowAllows 1000 1200 ∧
      (halfSacked 100 0).nextSeg.toOption.map (·.2) = some (some 1200) := by
  obtain ⟨hwrapped, hempty⟩ := nextSeg_halfSacked_shrunk
  exact ⟨⟨⟨_, outgoing_halfSacked 100 200⟩, hwrapped, by decide +kernel⟩,
    ⟨_, outgoing_halfSacked 100 0⟩, hempty, by decide +kernel⟩

end inet.tcp.TCPConnection

import LoRaInet.LinkLayer.Ieee80211.Mac.Contention.Contention
import Mathlib.Tactic.LinearCombination
import Mathlib.Tactic.Ring

open omnetpp transition

namespace inet.ieee80211.ContentionModule

open Contention

/-- What an observer of a contention has counted: the slots of the free periods that are over, when the
present one began and after which interval its slots count, and the last corrupted frame. -/
structure Observed where
  backoff : ℤ
  ifs : ℤ
  eifs : ℤ
  slotTime : ℤ
  counted : ℤ := 0
  free : Option (ℤ × ℤ)
  corrupted : Option ℤ := none

namespace Observed

/-- The interval before the slots of a free period: the longer one if it has not run out since a corrupted
frame when the other one has. -/
def interval (o : Observed) (t : ℤ) : ℤ :=
  match o.corrupted with
  | some c => if c + o.eifs > t + o.ifs then o.eifs else o.ifs
  | none => o.ifs

/-- The whole slots of the present free period. -/
def slotsUntil (o : Observed) (t : ℤ) : ℤ :=
  match o.free with
  | some (start, interval) => max 0 ((t - start - interval) / o.slotTime)
  | none => 0

end Observed

section Observe

variable {O : Type}

def mediumIsFree : List ((ℤ × Event) × O) → Bool
  | [] => true
  | ((_, .mediumStateChanged mediumFree), _) :: _ => mediumFree
  | _ :: history => mediumIsFree history

/-- The contention that goes on, if there is one. -/
def observe : List ((ℤ × Event) × O) → Option Observed
  | [] => none
  | ((t, .startContention _ ifs eifs slotTime backoff), _) :: history =>
    some { backoff, ifs, eifs, slotTime, free := if mediumIsFree history then some (t, ifs) else none }
  | ((t, .mediumStateChanged mediumFree), _) :: history =>
    (observe history).map fun o =>
      if mediumFree then { o with free := some (t, o.interval t) }
      else { o with counted := o.counted + o.slotsUntil t, free := none }
  | ((t, .corruptedFrameReceived), _) :: history =>
    (observe history).map fun o =>
      { o with
        corrupted := some t
        free := o.free.map fun _ => (t, { o with corrupted := some t }.interval t) }
  | ((_, .startTx), _) :: _ => none
  | ((_, .channelGranted), _) :: history => observe history

/-- When the contention was over of which the owner is yet to be told. -/
def granting : List ((ℤ × Event) × O) → Option ℤ
  | [] => none
  | ((t, .startTx), _) :: _ => some t
  | ((_, .channelGranted), _) :: _ | ((_, .startContention ..), _) :: _ => none
  | _ :: history => granting history

end Observe

/-- What the medium and the owner do. Slots have a length, the medium changes before the access is
granted, and a frame is found corrupted when the medium becomes free. -/
def Proper (s : ContentionModule) (t : ℤ) : Event → Prop
  | .startContention cw ifs eifs slotTime backoff => s.contention.fsm = .IDLE ∧ 0 ≤ ifs ∧ 0 ≤ eifs ∧
    0 < slotTime ∧ 0 ≤ backoff ∧ backoff ≤ cw
  | .mediumStateChanged mediumFree =>
    mediumFree ≠ s.contention.mediumFree ∧ s.contention.startTxEvent ≠ some t
  | .corruptedFrameReceived => s.contention.startTxEvent ≠ some t ∧
    (s.contention.fsm = .IFS_AND_BACKOFF → s.contention.lastChannelBusyTime = t)
  | .startTx | .channelGranted => True

/-- The slots that are left when the medium becomes busy are an `int`, or are more as an `int`, too. -/
def Kept (s : ContentionModule) (t : ℤ) : Event → Prop
  | .mediumStateChanged false => s.contention.fsm = .IFS_AND_BACKOFF →
    s.contention.slotsLeft t < 0x80000000 ∨ s.contention.backoffSlots ≤ toInt (s.contention.slotsLeft t)
  | _ => True

instance (s : ContentionModule) (t : ℤ) : DecidablePred (Proper s t)
  | .startContention .. | .mediumStateChanged _ | .corruptedFrameReceived =>
    inferInstanceAs (Decidable (_ ∧ _))
  | .startTx | .channelGranted => .isTrue trivial

instance (s : ContentionModule) (t : ℤ) : DecidablePred (Kept s t)
  | .mediumStateChanged false => inferInstanceAs (Decidable (_ → _ ∨ _))
  | .mediumStateChanged true | .startContention .. | .corruptedFrameReceived | .startTx
  | .channelGranted => .isTrue trivial

/-- The contention is as far as it has been observed to be. -/
structure InContention (o : Observed) (s : ContentionModule) : Prop where
  parameters : s.contention.ifs = o.ifs ∧ s.contention.eifs = o.eifs ∧ s.contention.slotTime = o.slotTime
  ifs : 0 ≤ o.ifs
  eifs : 0 ≤ o.eifs
  slotTime : 0 < o.slotTime
  counted : 0 ≤ o.counted
  left : 0 ≤ s.contention.backoffSlots
  total : o.counted + s.contention.backoffSlots = o.backoff
  corrupted : ∀ c, o.corrupted = some c → s.contention.endEifsTime = c + o.eifs ∧ c ≤ s.now
  sound : o.corrupted = none → s.contention.endEifsTime ≤ s.now
  granting : s.contention.channelGrantedEvent = none
  busy : o.free = none → s.contention.fsm = .DEFER ∧ s.contention.startTxEvent = none ∧
    s.contention.mediumFree = false
  free : ∀ start interval, o.free = some (start, interval) → s.contention.fsm = .IFS_AND_BACKOFF ∧
    s.contention.mediumFree = true ∧ start = s.now ∧ s.contention.lastChannelBusyTime ≤ start ∧
    0 ≤ interval ∧ s.contention.endEifsTime ≤ start + interval ∧
    s.contention.scheduledTransmissionTime = start + interval + s.contention.backoffSlots * o.slotTime ∧
    s.contention.startTxEvent = some s.contention.scheduledTransmissionTime

section Operations

variable {c : Contention} {t : ℤ} {o : Observed} {s : ContentionModule}

/-- The time until the transmission. -/
def waitInterval (c : Contention) (t : ℤ) : ℤ :=
  (if c.endEifsTime > t + c.ifs then c.eifs else c.ifs) + c.backoffSlots * c.slotTime

theorem scheduleTransmissionRequest_eq (hfree : c.mediumFree = true)
    (hoff : c.backoffOptimization = false) (hnone : c.startTxEvent = none) (hwait : 0 ≤ waitInterval c t) :
    c.scheduleTransmissionRequest t = .ok { c with
      scheduledTransmissionTime := t + waitInterval c t
      startTxEvent := some (t + waitInterval c t) } := by
  have hle : ¬ t + waitInterval c t < t := by omega
  unfold scheduleTransmissionRequest
  rw [assert_bind hfree]
  rw [if_neg (by simp [hoff])]
  unfold scheduleTransmissionRequestFor
  have hinterval : (if decide (c.endEifsTime > t + c.ifs) = true then c.eifs else c.ifs) +
      c.backoffSlots * c.slotTime = waitInterval c t := by
    unfold waitInterval
    simp only [decide_eq_true_eq]
  rw [hinterval, if_neg hle, assert_bind hnone]
  rfl

/-- The contention from a corrupted frame on, before its transmission is scheduled again. -/
def withEifs (c : Contention) (t : ℤ) : Contention :=
  { c with endEifsTime := t + c.eifs, startTxEvent := none }

theorem switchToEifs_eq (hfree : c.mediumFree = true) (hoff : c.backoffOptimization = false)
    (hwait : 0 ≤ waitInterval (withEifs c t) t) :
    c.switchToEifs t = .ok { withEifs c t with
      scheduledTransmissionTime := t + waitInterval (withEifs c t) t
      startTxEvent := some (t + waitInterval (withEifs c t) t) } :=
  @scheduleTransmissionRequest_eq (withEifs c t) t hfree hoff rfl hwait

/-- The contention when its transmission has been scheduled. -/
def backingOff (c : Contention) (t : ℤ) : Contention :=
  { c with
    scheduledTransmissionTime := t + waitInterval c t
    startTxEvent := some (t + waitInterval c t)
    fsm := .IFS_AND_BACKOFF }

theorem handleWithFSM_free {event : EventType}
    (hfsm : c.fsm = .IDLE ∧ event = .START ∨ c.fsm = .DEFER ∧ event = .MEDIUM_STATE_CHANGED)
    (hfree : c.mediumFree = true) (hoff : c.backoffOptimization = false) (hnone : c.startTxEvent = none)
    (hwait : 0 ≤ waitInterval c t) : c.handleWithFSM t event = .ok (backingOff c t) := by
  unfold handleWithFSM
  rcases hfsm with ⟨hidle, rfl⟩ | ⟨hdefer, rfl⟩
  · rw [hidle]
    rw [if_pos hfree, scheduleTransmissionRequest_eq hfree hoff hnone hwait]
    rfl
  · rw [hdefer]
    dsimp only
    rw [if_pos hfree, scheduleTransmissionRequest_eq hfree hoff hnone hwait]
    rfl

theorem InContention.waitInterval_eq (h : InContention o s) (hnow : s.now ≤ t) :
    waitInterval s.contention t = o.interval t + s.contention.backoffSlots * o.slotTime := by
  obtain ⟨hifs, heifs, hslot⟩ := h.parameters
  have hnonneg := h.ifs
  unfold waitInterval Observed.interval
  rw [hifs, heifs, hslot]
  cases hcorrupted : o.corrupted with
  | none =>
    have hend := h.sound hcorrupted
    rw [if_neg (by omega)]
  | some at' =>
    rw [(h.corrupted at' hcorrupted).1]

theorem InContention.interval_nonneg (h : InContention o s) : 0 ≤ o.interval t := by
  unfold Observed.interval
  split
  · split
    · exact h.eifs
    · exact h.ifs
  · exact h.ifs

theorem InContention.endEifsTime_le (h : InContention o s) (hnow : s.now ≤ t) :
    s.contention.endEifsTime ≤ t + o.interval t := by
  have hifs := h.ifs
  unfold Observed.interval
  cases hcorrupted : o.corrupted with
  | none =>
    have hend := h.sound hcorrupted
    dsimp only
    omega
  | some at' =>
    obtain ⟨hend, hle⟩ := h.corrupted at' hcorrupted
    dsimp only
    split <;> omega

theorem InContention.slotsLeft_eq (h : InContention o s) {start interval : ℤ}
    (hfree : o.free = some (start, interval)) (hle : t ≤ s.contention.scheduledTransmissionTime) :
    s.contention.slotsLeft t = s.contention.backoffSlots - (t - start - interval) / o.slotTime := by
  obtain ⟨-, -, hslot⟩ := h.parameters
  obtain ⟨-, -, -, -, -, -, hscheduled, -⟩ := h.free start interval hfree
  have hpos := h.slotTime
  unfold slotsLeft
  rw [hslot, Int.tdiv_eq_ediv_of_nonneg (by omega), hscheduled]
  have hsum : start + interval + s.contention.backoffSlots * o.slotTime - t + o.slotTime - 1 =
      (o.slotTime - 1 - (t - start - interval)) + s.contention.backoffSlots * o.slotTime := by ring
  rw [hsum, Int.add_mul_ediv_right _ _ (by omega)]
  have hdiv : (o.slotTime - 1 - (t - start - interval)) / o.slotTime =
      -((t - start - interval) / o.slotTime) := by
    generalize t - start - interval = x
    have hx := Int.mul_ediv_add_emod x o.slotTime
    have hnonneg := Int.emod_nonneg x (by omega : o.slotTime ≠ 0)
    have hlt := Int.emod_lt_of_pos x hpos
    have heq : o.slotTime - 1 - x =
        (o.slotTime - 1 - x % o.slotTime) + (-(x / o.slotTime)) * o.slotTime := by
      linear_combination hx
    rw [heq, Int.add_mul_ediv_right _ _ (by omega), Int.ediv_eq_zero_of_lt (by omega) (by omega), zero_add]
  omega

theorem InContention.min_slotsLeft (h : InContention o s) {start interval : ℤ}
    (hfree : o.free = some (start, interval)) (hle : t ≤ s.contention.scheduledTransmissionTime)
    (hkept : s.contention.slotsLeft t < 0x80000000 ∨
      s.contention.backoffSlots ≤ toInt (s.contention.slotsLeft t)) :
    min s.contention.backoffSlots (toInt (s.contention.slotsLeft t)) =
      s.contention.backoffSlots - o.slotsUntil t ∧ o.slotsUntil t ≤ s.contention.backoffSlots := by
  obtain ⟨-, -, -, -, -, -, hscheduled, -⟩ := h.free start interval hfree
  have hpos := h.slotTime
  have hleft := h.left
  have heq := h.slotsLeft_eq hfree hle
  have huntil : o.slotsUntil t = max 0 ((t - start - interval) / o.slotTime) := by
    unfold Observed.slotsUntil
    rw [hfree]
  have hdiv : (t - start - interval) / o.slotTime ≤ s.contention.backoffSlots := by
    refine Int.ediv_le_of_le_mul hpos ?_
    omega
  refine ⟨?_, by omega⟩
  by_cases hsmall : s.contention.slotsLeft t < 0x80000000
  · have hint : toInt (s.contention.slotsLeft t) = s.contention.slotsLeft t := by
      unfold toInt
      exact Int.bmod_eq_of_le (by omega) (by omega)
    rw [hint]
    omega
  · have hlarge := hkept.resolve_left hsmall
    have hlt : toInt (s.contention.slotsLeft t) < 0x80000000 := by
      have hlt := @Int.bmod_lt (s.contention.slotsLeft t) 0x100000000 (by decide)
      unfold toInt
      omega
    rw [min_eq_left hlarge]
    omega

theorem handleWithFSM_busy (hfsm : c.fsm = .IFS_AND_BACKOFF) (hbusy : c.mediumFree = false) :
    c.handleWithFSM t .MEDIUM_STATE_CHANGED = .ok { c with
      startTxEvent := none
      backoffSlots := min c.backoffSlots (toInt (c.slotsLeft t))
      fsm := .DEFER } := by
  have hcompute : c.cancelTransmissionRequest.computeRemainingBackoffSlots t = { c with
      startTxEvent := none, backoffSlots := min c.backoffSlots (toInt (c.slotsLeft t)) } := by
    unfold computeRemainingBackoffSlots cancelTransmissionRequest slotsLeft
    dsimp only
    split
    · next hlt => rw [min_eq_right hlt.le]
    · next hlt => rw [min_eq_left (not_lt.mp hlt)]
  unfold handleWithFSM
  rw [hfsm]
  dsimp only
  rw [if_pos (by rw [hbusy]; rfl), hcompute]

end Operations

section Steps

variable {s s' : ContentionModule} {t : ℤ} {e : Event} {granted : Bool} {o : Observed}

/-- No contention is going on. -/
structure Quiet (s : ContentionModule) : Prop where
  fsm : s.contention.fsm = .IDLE
  startTxEvent : s.contention.startTxEvent = none
  endEifsTime : s.contention.endEifsTime ≤ s.now

/-- What holds of every contention, whatever has been observed. -/
structure Basic (mediumFree : Bool) (granting : Option ℤ) (s : ContentionModule) : Prop where
  mediumFree : s.contention.mediumFree = mediumFree
  granting : s.contention.channelGrantedEvent = granting
  backoffOptimization : s.contention.backoffOptimization = false
  lastChannelBusyTime : s.contention.lastChannelBusyTime ≤ s.now

inductive Stage : Option Observed → ContentionModule → Prop where
  | quiet {s : ContentionModule} (h : Quiet s) : Stage none s
  | contending {o : Observed} {s : ContentionModule} (h : InContention o s) : Stage (some o) s

variable {grant : Option ℤ}

theorem Quiet.startContention {cw ifs eifs slotTime backoff : ℤ} {mediumFree : Bool}
    (h : Quiet s) (hbasic : Basic mediumFree grant s) (hnow : s.now ≤ t)
    (hproper : Proper s t (.startContention cw ifs eifs slotTime backoff)) :
    ∃ c, s.contention.startContention t cw ifs eifs slotTime backoff = .ok c ∧
      InContention { backoff, ifs, eifs, slotTime, free := if mediumFree then some (t, ifs) else none }
        ⟨t, c⟩ ∧ Basic mediumFree none ⟨t, c⟩ := by
  obtain ⟨hidle, hifs, heifs, hslot, hbackoff, hcw⟩ := hproper
  obtain ⟨hmedium, -, hoff, hbusy⟩ := hbasic
  have hend := h.endEifsTime
  have hmul := mul_nonneg hbackoff hslot.le
  unfold Contention.startContention
  rw [assert_bind (by omega), assert_bind hidle]
  cases mediumFree with
  | true =>
    have hwait : (if s.contention.endEifsTime > t + ifs then eifs else ifs) = ifs :=
      if_neg (by omega)
    refine ⟨_, handleWithFSM_free (.inl ⟨hidle, rfl⟩) hmedium hoff h.startTxEvent ?_,
      ⟨⟨rfl, rfl, rfl⟩, hifs, heifs, hslot, le_rfl, hbackoff, zero_add _, nofun,
        fun _ => hend.trans hnow, rfl, nofun, ?_⟩, ⟨hmedium, rfl, hoff, hbusy.trans hnow⟩⟩
    · unfold waitInterval
      rw [hwait]
      exact add_nonneg hifs hmul
    · rintro start interval hfree
      cases hfree
      refine ⟨rfl, hmedium, rfl, hbusy.trans hnow, hifs, ?_, ?_, rfl⟩
      · change s.contention.endEifsTime ≤ t + ifs
        omega
      · unfold backingOff waitInterval
        rw [hwait]
        ring
  | false =>
    unfold handleWithFSM
    rw [hidle]
    dsimp only
    rw [if_neg (by rw [hmedium]; decide)]
    exact ⟨_, rfl, ⟨⟨rfl, rfl, rfl⟩, hifs, heifs, hslot, le_rfl, hbackoff, zero_add _, nofun,
      fun _ => hend.trans hnow, rfl, fun _ => ⟨rfl, h.startTxEvent, hmedium⟩, nofun⟩,
      ⟨hmedium, rfl, hoff, hbusy.trans hnow⟩⟩

/-- The medium becomes free, and the rest of the slots is scheduled. -/
theorem InContention.mediumFree (h : InContention o s) (hbasic : Basic false grant s)
    (hnow : s.now ≤ t) :
    ∃ c, s.contention.mediumStateChanged t true = .ok c ∧
      InContention { o with free := some (t, o.interval t) } ⟨t, c⟩ ∧ Basic true grant ⟨t, c⟩ := by
  obtain ⟨hmedium, hgrant, hoff, -⟩ := hbasic
  have hnone : o.free = none := by
    cases hfree : o.free with
    | none => rfl
    | some period =>
      have hbusy := (h.free period.1 period.2 hfree).2.1
      rw [hmedium] at hbusy
      cases hbusy
  obtain ⟨hdefer, hevent, -⟩ := h.busy hnone
  have hwait := h.waitInterval_eq hnow
  have hinterval := @InContention.interval_nonneg t o s h
  have hmul := mul_nonneg h.left h.slotTime.le
  unfold Contention.mediumStateChanged
  refine ⟨_, handleWithFSM_free (.inr ⟨hdefer, rfl⟩) rfl hoff hevent ?_,
    ⟨h.parameters, h.ifs, h.eifs, h.slotTime, h.counted, h.left, h.total,
      fun c hc => ⟨(h.corrupted c hc).1, (h.corrupted c hc).2.trans hnow⟩,
      fun hc => (h.sound hc).trans hnow, h.granting, nofun, ?_⟩, ⟨rfl, hgrant, hoff, le_rfl⟩⟩
  · change 0 ≤ waitInterval s.contention t
    rw [hwait]
    exact add_nonneg hinterval hmul
  · rintro start interval hfree
    cases hfree
    refine ⟨rfl, rfl, rfl, le_rfl, hinterval, h.endEifsTime_le hnow, ?_, rfl⟩
    change t + waitInterval s.contention t = t + o.interval t + s.contention.backoffSlots * o.slotTime
    rw [hwait]
    ring

/-- The medium becomes busy, and the slots of the free period are counted. -/
theorem InContention.mediumBusy (h : InContention o s) (hbasic : Basic true grant s)
    (hnow : s.now ≤ t) (hnext : ∀ t' ∈ s.contention.startTxEvent, t ≤ t')
    (hkept : Kept s t (.mediumStateChanged false)) :
    ∃ c, s.contention.mediumStateChanged t false = .ok c ∧
      InContention { o with counted := o.counted + o.slotsUntil t, free := none } ⟨t, c⟩ ∧
      Basic false grant ⟨t, c⟩ := by
  obtain ⟨hmedium, hgrant, hoff, -⟩ := hbasic
  have hfree : ∃ start interval, o.free = some (start, interval) := by
    cases hfree : o.free with
    | none =>
      have hbusy := (h.busy hfree).2.2
      rw [hmedium] at hbusy
      cases hbusy
    | some period => exact ⟨period.1, period.2, rfl⟩
  obtain ⟨start, interval, hfree⟩ := hfree
  obtain ⟨hfsm, -, -, -, -, hend, hscheduled, hevent⟩ := h.free start interval hfree
  have hle := hnext _ hevent
  obtain ⟨hmin, huntil⟩ := h.min_slotsLeft hfree hle (hkept hfsm)
  have hnonneg : 0 ≤ o.slotsUntil t := by
    unfold Observed.slotsUntil
    rw [hfree]
    exact le_max_left _ _
  have htotal := h.total
  unfold Contention.mediumStateChanged
  refine ⟨_, handleWithFSM_busy hfsm rfl, ⟨h.parameters, h.ifs, h.eifs, h.slotTime, ?_, ?_, ?_,
    fun c hc => ⟨(h.corrupted c hc).1, (h.corrupted c hc).2.trans hnow⟩,
    fun hc => (h.sound hc).trans hnow, h.granting, fun _ => ⟨rfl, rfl, rfl⟩, nofun⟩,
    ⟨rfl, hgrant, hoff, le_rfl⟩⟩
  · exact add_nonneg h.counted hnonneg
  · change 0 ≤ min s.contention.backoffSlots (toInt (s.contention.slotsLeft t))
    rw [hmin]
    exact sub_nonneg.mpr huntil
  · change o.counted + o.slotsUntil t +
      min s.contention.backoffSlots (toInt (s.contention.slotsLeft t)) = o.backoff
    rw [hmin]
    omega

theorem InContention.corruptedFrame {mediumFree : Bool} (h : InContention o s)
    (hbasic : Basic mediumFree grant s) (hnow : s.now ≤ t) (hproper : Proper s t .corruptedFrameReceived) :
    ∃ c, s.contention.corruptedFrameReceived t = .ok c ∧
      InContention { o with
        corrupted := some t
        free := o.free.map fun _ => (t, { o with corrupted := some t }.interval t) } ⟨t, c⟩ ∧
      Basic mediumFree grant ⟨t, c⟩ := by
  obtain ⟨hmedium, hgrant, hoff, hbusy⟩ := hbasic
  obtain ⟨hifs, heifs, hslot⟩ := h.parameters
  have hcorrupted : ∀ c, some t = some c → t + s.contention.eifs = c + o.eifs ∧ c ≤ t := by
    rintro c hc
    cases hc
    exact ⟨by rw [heifs], le_rfl⟩
  unfold Contention.corruptedFrameReceived handleWithFSM
  cases hfree : o.free with
  | none =>
    obtain ⟨hdefer, hevent, hbusy'⟩ := h.busy hfree
    rw [hdefer]
    exact ⟨_, rfl, ⟨h.parameters, h.ifs, h.eifs, h.slotTime, h.counted, h.left, h.total, hcorrupted, nofun,
      h.granting, fun _ => ⟨rfl, hevent, hbusy'⟩, nofun⟩, ⟨hmedium, hgrant, hoff, hbusy.trans hnow⟩⟩
  | some period =>
    obtain ⟨hfsm, hmedium', hstart, hlast, -⟩ := h.free period.1 period.2 hfree
    have hsame := hproper.2 hfsm
    have hinterval : 0 ≤ { o with corrupted := some t }.interval t := by
      have hifs := h.ifs
      have heifs := h.eifs
      unfold Observed.interval
      dsimp only
      split <;> assumption
    have hmul := mul_nonneg h.left h.slotTime.le
    have hwait : waitInterval (withEifs s.contention t) t =
        { o with corrupted := some t }.interval t + s.contention.backoffSlots * o.slotTime := by
      unfold waitInterval withEifs Observed.interval
      rw [hifs, heifs, hslot]
    rw [hfsm]
    refine ⟨_, switchToEifs_eq hmedium' hoff (by rw [hwait]; exact add_nonneg hinterval hmul),
      ⟨h.parameters, h.ifs, h.eifs, h.slotTime, h.counted, h.left, h.total, hcorrupted, nofun, h.granting,
        nofun, ?_⟩, ⟨hmedium, hgrant, hoff, hbusy.trans hnow⟩⟩
    rintro start interval hperiod
    cases hperiod
    refine ⟨hfsm, hmedium', rfl, hsame.le, hinterval, ?_, ?_, rfl⟩
    · change t + s.contention.eifs ≤ t + { o with corrupted := some t }.interval t
      unfold Observed.interval
      dsimp only
      split <;> omega
    · change t + waitInterval (withEifs s.contention t) t =
        t + { o with corrupted := some t }.interval t + s.contention.backoffSlots * o.slotTime
      rw [hwait]
      ring

/-- The slots that were left have gone by when the contention is over, and not before. -/
structure Granted (o : Observed) (t : ℤ) : Prop where
  counted : o.counted + o.slotsUntil t = o.backoff
  soonest : ∃ start interval, o.free = some (start, interval) ∧ start + interval ≤ t ∧
    ∀ t', start + interval ≤ t' → t' < t → o.counted + o.slotsUntil t' < o.backoff

theorem InContention.startTx {mediumFree : Bool} (h : InContention o s)
    (hbasic : Basic mediumFree grant s) (hnow : s.now ≤ t) (hevent : s.contention.startTxEvent = some t) :
    ∃ c, { s.contention with startTxEvent := none }.handleWithFSM t .CHANNEL_ACCESS_GRANTED = .ok c ∧
      Quiet ⟨t, c⟩ ∧ Basic mediumFree (some t) ⟨t, c⟩ ∧ Granted o t := by
  obtain ⟨hmedium, hgrant, hoff, hbusy⟩ := hbasic
  have htotal := h.total
  have hpos := h.slotTime
  have hleft := h.left
  cases hfree : o.free with
  | none =>
    rw [(h.busy hfree).2.1] at hevent
    cases hevent
  | some period =>
    obtain ⟨start, interval⟩ := period
    obtain ⟨hfsm, -, -, -, -, hend, hscheduled, hevent'⟩ := h.free start interval hfree
    obtain rfl := Option.some.inj (hevent.symm.trans hevent')
    have hmul := mul_nonneg hleft hpos.le
    unfold handleWithFSM
    rw [hfsm]
    refine ⟨_, rfl, ⟨rfl, rfl, ?_⟩, ⟨hmedium, rfl, hoff, hbusy.trans hnow⟩, ?_, start, interval, hfree,
      ?_, fun t' hstart hlt => ?_⟩
    · change s.contention.endEifsTime ≤ s.contention.scheduledTransmissionTime
      omega
    · unfold Observed.slotsUntil
      rw [hfree]
      dsimp only
      have hsub : s.contention.scheduledTransmissionTime - start - interval =
          s.contention.backoffSlots * o.slotTime := by
        rw [hscheduled]
        ring
      rw [hsub, Int.mul_ediv_cancel _ hpos.ne', max_eq_right hleft]
      exact htotal
    · omega
    · unfold Observed.slotsUntil
      rw [hfree]
      dsimp only
      have hdiv : (t' - start - interval) / o.slotTime < s.contention.backoffSlots := by
        refine Int.ediv_lt_of_lt_mul hpos ?_
        omega
      have hnonneg : 0 ≤ (t' - start - interval) / o.slotTime := Int.ediv_nonneg (by omega) hpos.le
      omega

end Steps

section Run

variable {O : Type} {history : List ((ℤ × Event) × O)} {s : ContentionModule} {t : ℤ} {e : Event}

/-- The state agrees with what has been observed. -/
structure Sound (history : List ((ℤ × Event) × O)) (s : ContentionModule) : Prop where
  basic : Basic (mediumIsFree history) (granting history) s
  stage : Stage (observe history) s

theorem map_eq_ok {call : Except Fault Contention} {c : Contention} (h : call = .ok c) :
    call.map (·, false) = .ok (c, false) := by
  rw [h]
  rfl

/-- A call or a message in time is handled, and what is observed of it is right. -/
theorem Sound.handle (h : Sound history s) (hnext : s.IsNext t e) (hproper : Proper s t e)
    (hkept : Kept s t e) :
    ∃ c, s.contention.handle t e = .ok (c, decide (e = .channelGranted)) ∧
      (∀ output : O, Sound (((t, e), output) :: history) ⟨t, c⟩) ∧
      (e = .startTx → ∃ o, observe history = some o ∧ Granted o t) ∧
      (e = .channelGranted → granting history = some t) := by
  obtain ⟨hbasic, hstage⟩ := h
  obtain ⟨hnow, hstart, -, hstartTx, hgranted⟩ := hnext
  generalize hobserved : observe history = observed at hstage
  cases e with
  | startContention cw ifs eifs slotTime backoff =>
    cases hstage with
    | quiet hquiet =>
      obtain ⟨c, hok, hcontending, hbasic⟩ := hquiet.startContention hbasic hnow hproper
      refine ⟨c, ?_, fun output => ⟨hbasic, .contending hcontending⟩, nofun, nofun⟩
      exact map_eq_ok hok
    | @contending o _ hcontending =>
      exfalso
      have hidle := hproper.1
      cases hfree : o.free with
      | none =>
        rw [(hcontending.busy hfree).1] at hidle
        cases hidle
      | some period =>
        rw [(hcontending.free period.1 period.2 hfree).1] at hidle
        cases hidle
  | mediumStateChanged mediumFree =>
    have hchanged : mediumFree = !mediumIsFree history := by
      rw [← hbasic.mediumFree]
      exact Bool.eq_not_of_ne hproper.1
    cases hstage with
    | quiet hquiet =>
      obtain ⟨hmedium, hgrant, hoff, hbusy⟩ := hbasic
      have hok : s.contention.mediumStateChanged t mediumFree =
          .ok { s.contention with mediumFree := mediumFree, lastChannelBusyTime := t } := by
        unfold Contention.mediumStateChanged handleWithFSM
        dsimp only
        rw [hquiet.fsm]
      refine ⟨{ s.contention with mediumFree := mediumFree, lastChannelBusyTime := t }, ?_,
        fun output => ⟨⟨rfl, hgrant, hoff, le_rfl⟩, ?_⟩, nofun, nofun⟩
      · exact map_eq_ok hok
      · have hobserved' : observe (((t, .mediumStateChanged mediumFree), output) :: history) = none := by
          rw [observe, hobserved]
          rfl
        rw [hobserved']
        exact .quiet ⟨hquiet.fsm, hquiet.startTxEvent, hquiet.endEifsTime.trans hnow⟩
    | @contending o _ hcontending =>
      cases mediumFree with
      | true =>
        have hbusy : mediumIsFree history = false := by simpa using hchanged
        rw [hbusy] at hbasic
        obtain ⟨c, hok, hcontending, hbasic⟩ := hcontending.mediumFree hbasic hnow
        refine ⟨c, ?_, fun output => ⟨hbasic, ?_⟩, nofun, nofun⟩
        · exact map_eq_ok hok
        · rw [observe, hobserved]
          exact .contending hcontending
      | false =>
        have hfree : mediumIsFree history = true := by simpa using hchanged
        rw [hfree] at hbasic
        obtain ⟨c, hok, hcontending, hbasic⟩ := hcontending.mediumBusy hbasic hnow hstart hkept
        refine ⟨c, ?_, fun output => ⟨hbasic, ?_⟩, nofun, nofun⟩
        · exact map_eq_ok hok
        · rw [observe, hobserved]
          exact .contending hcontending
  | corruptedFrameReceived =>
    cases hstage with
    | quiet hquiet =>
      obtain ⟨hmedium, hgrant, hoff, hbusy⟩ := hbasic
      have hok : s.contention.corruptedFrameReceived t = .ok s.contention := by
        unfold Contention.corruptedFrameReceived handleWithFSM
        rw [hquiet.fsm]
      refine ⟨s.contention, ?_, fun output => ⟨⟨hmedium, hgrant, hoff, hbusy.trans hnow⟩, ?_⟩, nofun, nofun⟩
      · exact map_eq_ok hok
      · have hobserved' : observe (((t, .corruptedFrameReceived), output) :: history) = none := by
          rw [observe, hobserved]
          rfl
        rw [hobserved']
        exact .quiet ⟨hquiet.fsm, hquiet.startTxEvent, hquiet.endEifsTime.trans hnow⟩
    | contending hcontending =>
      obtain ⟨c, hok, hcontending, hbasic⟩ := hcontending.corruptedFrame hbasic hnow hproper
      refine ⟨c, ?_, fun output => ⟨hbasic, ?_⟩, nofun, nofun⟩
      · exact map_eq_ok hok
      · rw [observe, hobserved]
        exact .contending hcontending
  | startTx =>
    cases hstage with
    | quiet hquiet =>
      rw [hquiet.startTxEvent] at hstartTx
      cases hstartTx rfl
    | @contending o _ hcontending =>
      obtain ⟨c, hok, hquiet, hbasic, hcounted⟩ := hcontending.startTx hbasic hnow (hstartTx rfl)
      refine ⟨c, ?_, fun output => ⟨hbasic, .quiet hquiet⟩, fun _ => ⟨o, rfl, hcounted⟩, nofun⟩
      exact map_eq_ok hok
  | channelGranted =>
    obtain ⟨hmedium, hgrant, hoff, hbusy⟩ := hbasic
    refine ⟨_, rfl, fun output => ⟨⟨hmedium, rfl, hoff, hbusy.trans hnow⟩, ?_⟩, nofun,
      fun _ => hgrant.symm.trans (hgranted rfl)⟩
    rw [observe, hobserved]
    cases hstage with
    | quiet hquiet =>
      exact .quiet ⟨hquiet.fsm, hquiet.startTxEvent, hquiet.endEifsTime.trans hnow⟩
    | contending hcontending =>
      have hnone := hcontending.granting
      rw [hgranted rfl] at hnone
      cases hnone

/-- The slots that have been counted and those that are left add up, and the transmission is scheduled
for when none is left. -/
structure Counted (history : List ((ℤ × Event) × O)) (s : ContentionModule) : Prop where
  startTxEvent_iff : s.contention.startTxEvent.isSome = true ↔ s.contention.fsm = .IFS_AND_BACKOFF
  observe_eq_none_iff : observe history = none ↔ s.contention.fsm = .IDLE
  backoffSlots : ∀ o, observe history = some o → 0 ≤ o.counted ∧ 0 ≤ s.contention.backoffSlots ∧
    o.counted + s.contention.backoffSlots = o.backoff
  free_iff : ∀ o, observe history = some o → (o.free.isSome = true ↔ s.contention.mediumFree = true)
  scheduled : ∀ o, observe history = some o → ∀ start interval, o.free = some (start, interval) →
    s.contention.startTxEvent = some (start + interval + s.contention.backoffSlots * o.slotTime)
  granting : s.contention.channelGrantedEvent = ContentionModule.granting history

theorem Sound.counted (h : Sound history s) : Counted history s := by
  obtain ⟨hbasic, hstage⟩ := h
  generalize hobserved : observe history = observed at hstage
  cases hstage with
  | quiet hquiet =>
    refine ⟨iff_of_false ?_ ?_, iff_of_true hobserved hquiet.fsm, ?_, ?_, ?_, hbasic.granting⟩
    · simp [hquiet.startTxEvent]
    · simp [hquiet.fsm]
    all_goals
      intro o ho
      rw [hobserved] at ho
      cases ho
  | @contending o _ hcontending =>
    have hsome : ∀ o', observe history = some o' → o' = o :=
      fun o' ho' => Option.some.inj (ho'.symm.trans hobserved)
    have hobserved' : observe history ≠ none := by
      rw [hobserved]
      exact nofun
    have hbackoff : ∀ o', observe history = some o' → 0 ≤ o'.counted ∧ 0 ≤ s.contention.backoffSlots ∧
        o'.counted + s.contention.backoffSlots = o'.backoff := by
      intro o' ho'
      obtain rfl := hsome o' ho'
      exact ⟨hcontending.counted, hcontending.left, hcontending.total⟩
    cases hfree : o.free with
    | none =>
      obtain ⟨hdefer, hevent, hmedium⟩ := hcontending.busy hfree
      refine ⟨by simp [hdefer, hevent], iff_of_false hobserved' (by simp [hdefer]), hbackoff, ?_, ?_,
        hbasic.granting⟩
      · intro o' ho'
        obtain rfl := hsome o' ho'
        simp [hfree, hmedium]
      · intro o' ho' start interval hperiod
        obtain rfl := hsome o' ho'
        rw [hfree] at hperiod
        cases hperiod
    | some period =>
      obtain ⟨hfsm, hmedium, -, -, -, -, hscheduled, hevent⟩ :=
        hcontending.free period.1 period.2 hfree
      refine ⟨by simp [hfsm, hevent], iff_of_false hobserved' (by simp [hfsm]), hbackoff, ?_, ?_,
        hbasic.granting⟩
      · intro o' ho'
        obtain rfl := hsome o' ho'
        simp [hfree, hmedium]
      · intro o' ho' start interval hperiod
        obtain rfl := hsome o' ho'
        obtain rfl := Option.some.inj (hfree.symm.trans hperiod)
        rw [hevent, hscheduled]

theorem Sound.isNext (h : Sound history s) (hevent : s.contention.startTxEvent = some t) :
    s.IsNext t .startTx := by
  obtain ⟨-, hstage⟩ := h
  generalize observe history = observed at hstage
  cases hstage with
  | quiet hquiet =>
    rw [hquiet.startTxEvent] at hevent
    cases hevent
  | @contending o _ hcontending =>
    cases hfree : o.free with
    | none =>
      rw [(hcontending.busy hfree).2.1] at hevent
      cases hevent
    | some period =>
      obtain ⟨-, -, hstart, -, hinterval, -, hscheduled, hevent'⟩ :=
        hcontending.free period.1 period.2 hfree
      obtain rfl := Option.some.inj (hevent.symm.trans hevent')
      have hmul := mul_nonneg hcontending.left hcontending.slotTime.le
      refine ⟨by omega, ?_, ?_, fun _ => hevent, nofun⟩
      · intro t' ht'
        rw [hevent'] at ht'
        exact (Option.some.inj ht').le
      · rw [hcontending.granting]
        exact nofun

/-- What a step shows of the contention that ends with it. -/
structure Grants (earlier : List ((ℤ × Event) × O)) (t : ℤ) (e : Event) (granted : Bool) : Prop where
  startTx : e = .startTx → ∃ o, observe earlier = some o ∧ Granted o t
  granted_iff : granted = true ↔ e = .channelGranted
  channelGranted : e = .channelGranted → granting earlier = some t

/-- Slots are counted exactly, access is granted once when they add up to the backoff, and every further
call or message in time is handled. -/
theorem slots_counted {history : List ((ℤ × Event) × (ContentionModule × Bool))}
    (hrun : Run (fun s => ∃ busy, s = ⟨0, new false busy⟩) (StepOf (traced step)) history s)
    (hproper : Always (fun _ l => Proper l.2.1 l.1.1 l.1.2) history)
    (hkept : Always (fun _ l => Kept l.2.1 l.1.1 l.1.2) history) :
    Counted history s ∧ Always (fun earlier l => Grants earlier l.1.1 l.1.2 l.2.2) history ∧
      (∀ t ∈ s.contention.startTxEvent, s.IsNext t .startTx) ∧
      ∀ t e, s.IsNext t e → Proper s t e → Kept s t e → ∃ s' granted, step s (t, e) = some (s', granted) := by
  have hsound : Sound history s ∧ Always (fun earlier l => Grants earlier l.1.1 l.1.2 l.2.2) history := by
    induction hrun with
    | init hinit =>
      obtain ⟨busy, rfl⟩ := hinit
      refine ⟨⟨⟨rfl, rfl, rfl, ?_⟩, .quiet ⟨rfl, rfl, le_rfl⟩⟩, trivial⟩
      cases busy <;> decide
    | @step history s s' l hrun hstep ih =>
      obtain ⟨⟨t, e⟩, before, granted⟩ := l
      obtain ⟨rfl, hstep⟩ := traced_eq_some.mp hstep
      obtain ⟨hsound, halways⟩ := ih hproper.1 hkept.1
      unfold ContentionModule.step at hstep
      split at hstep
      · next hnext =>
        obtain ⟨c, hok, hsound', hstartTx, hgranting⟩ := hsound.handle hnext hproper.2 hkept.2
        rw [hok] at hstep
        obtain ⟨rfl, hgranted⟩ := Prod.mk.inj (Option.some.inj hstep)
        exact ⟨hsound' _, halways, hstartTx, hgranted ▸ decide_eq_true_iff, hgranting⟩
      · cases hstep
  refine ⟨hsound.1.counted, hsound.2, fun t ht => hsound.1.isNext ht, fun t e hnext hproper hkept => ?_⟩
  obtain ⟨c, hok, -⟩ := hsound.1.handle hnext hproper hkept
  refine ⟨⟨t, c⟩, decide (e = .channelGranted), ?_⟩
  unfold ContentionModule.step
  rw [if_pos hnext, hok]
  rfl

end Run

def sampleIfs : ℤ := 34

/-- Two free periods are interrupted, the first one after one slot and the second one within the interval
after a corrupted frame, and the third one is long enough. -/
theorem slots_counted_of_interruptions : ∃ history s,
    Run (fun s => ∃ busy, s = ⟨0, new false busy⟩) (StepOf (traced step)) history s ∧
      Always (fun earlier l => Grants earlier l.1.1 l.1.2 l.2.2) history ∧ history.length = 9 ∧
        s.now = 473 ∧ s.contention.fsm = .IDLE := by
  obtain ⟨s, history, hrun, hproper, hkept, hlength, hnow, hidle⟩ := @exists_run_of_initial _ _ _
    (traced step) (fun s => ∃ busy, s = ⟨0, new false busy⟩) _ ⟨false, rfl⟩
    [(10, .startContention 7 sampleIfs 94 9 5), (59, .mediumStateChanged false),
      (100, .corruptedFrameReceived), (100, .mediumStateChanged true), (150, .mediumStateChanged false),
      (400, .mediumStateChanged true), (403, .mediumStateChanged false), (403, .mediumStateChanged true),
      (473, .startTx)]
    (fun s history => Always (fun _ l => Proper l.2.1 l.1.1 l.1.2) history ∧
      Always (fun _ l => Kept l.2.1 l.1.1 l.1.2) history ∧ history.length = 9 ∧ s.now = 473 ∧
        s.contention.fsm = .IDLE)
    (by decide +kernel)
  exact ⟨history, s, hrun, (slots_counted hrun hproper hkept).2.1, hlength, hnow, hidle⟩

/-- An interval of more slots than an `int` can say is taken for a negative number of slots, so that
access is granted as soon as the medium is free again. -/
theorem not_slots_counted :
    ∃ r ∈ execute (traced step) (⟨0, new false false⟩ : ContentionModule) []
        [(0, .startContention 1 0x80000000 0x80000000 1 1), (1, .mediumStateChanged false),
          (5, .mediumStateChanged true), (5, .startTx), (5, .channelGranted)],
      Always (fun _ l => Proper l.2.1 l.1.1 l.1.2) r.2 ∧ r.1.contention.backoffSlots < 0 ∧
        (∃ l ∈ r.2.head?, l.2.2 = true) ∧
        ∀ o ∈ observe (r.2.drop 2), o.counted + o.slotsUntil 5 = 0 ∧ o.backoff = 1 := by
  decide +kernel

end inet.ieee80211.ContentionModule

import LoRaInet.LoRaPhy.LoRaAnalogModel
import Mathlib

open omnetpp

namespace inet.physicallayer.LoRaReceiver

/-- The members of `LoRaReception` that the receiver reads, with the power in W. -/
structure LoRaReception (K : Type) where
  startTime : SimTime
  endTime : SimTime
  LoRaCF : ℚ
  LoRaSF : ℤ
  LoRaBW : ℚ
  power : K

/-- By how many dB a reception (row) has to be above an interfering one (column) of this spreading factor. -/
def nonOrthDelta : List (List ℤ) := [
  [1, -8, -9, -9, -9, -9],
  [-11, 1, -11, -12, -13, -13],
  [-15, -13, 1, -13, -14, -15],
  [-19, -18, -17, 1, -17, -18],
  [-22, -22, -21, -20, 1, -20],
  [-25, -25, -25, -24, -23, 1]]

/-- An element of the array, which has six rows and six columns. -/
def nonOrthDeltaAt (row column : ℤ) : Except Fault ℤ :=
  if 0 ≤ row ∧ 0 ≤ column then
    match nonOrthDelta[row.toNat]?.bind (·[column.toNat]?) with
    | some delta => .ok delta
    | none => .error .outOfRange
  else .error .outOfRange

section Collision

variable {K : Type} [Field K] [LinearOrder K] (log10 : K → K)

/-- `math::mW2dBm` of the power. -/
def RSSI_dBm (reception : LoRaReception K) : K := (10 : ℕ) * log10 (reception.power * (1000 : ℕ))

variable (reception interference : LoRaReception K)

/-- The middles are closer than the halves of the durations together. -/
def overlap : Bool :=
  let m_x := (reception.startTime + reception.endTime) / 2
  let d_x := (reception.endTime - reception.startTime) / 2
  let m_y := (interference.startTime + interference.endTime) / 2
  let d_y := (interference.endTime - interference.startTime) / 2
  |m_x - m_y| < d_x + d_y

/-- When the last six symbols of the preamble begin. -/
def csBegin (reception : LoRaReception K) : SimTime :=
  let nPreamble := 8
  let Tsym := 2 ^ reception.LoRaSF / (reception.LoRaBW / 1000) / 1000
  reception.startTime + Tsym * (nPreamble - 6)

def captureEffect (delta : ℤ) : Bool :=
  RSSI_dBm log10 reception - RSSI_dBm log10 interference ≥ delta

def timingCollision : Bool :=
  csBegin reception < interference.endTime

/-- The tests that decide about one interfering reception. -/
def isCollision (alohaChannelModel : Bool) (reception interference : LoRaReception K)
    (delta : ℤ) : Bool :=
  overlap reception interference && reception.LoRaCF = interference.LoRaCF &&
    (alohaChannelModel ||
      !captureEffect log10 reception interference delta && timingCollision reception interference)

/-- The threshold is read for every interfering reception, also for one that does not overlap. -/
def isPacketCollided (log10 : K → K) (alohaChannelModel : Bool) (reception : LoRaReception K) :
    List (LoRaReception K) → Except Fault Bool
  | [] => .ok false
  | interference :: interferingReceptions => do
    let delta ← nonOrthDeltaAt (reception.LoRaSF - 7) (interference.LoRaSF - 7)
    if isCollision log10 alohaChannelModel reception interference delta then return true
    isPacketCollided log10 alohaChannelModel reception interferingReceptions

end Collision

theorem nonOrthDeltaAt_self {sf delta : ℤ} (h : nonOrthDeltaAt (sf - 7) (sf - 7) = .ok delta) : delta = 1 := by
  unfold nonOrthDeltaAt at h
  split at h
  · generalize (sf - 7).toNat = i at h
    match i with
    | 0 | 1 | 2 | 3 | 4 | 5 => exact (Except.ok.inj h).symm
    | i + 6 => cases h
  · cases h

theorem exists_nonOrthDeltaAt {sf sf' : ℤ} (hsf : 7 ≤ sf ∧ sf ≤ 12) (hsf' : 7 ≤ sf' ∧ sf' ≤ 12) :
    ∃ delta, nonOrthDeltaAt (sf - 7) (sf' - 7) = .ok delta := by
  obtain ⟨i, hi⟩ := Int.eq_ofNat_of_zero_le (show 0 ≤ sf - 7 by omega)
  obtain ⟨j, hj⟩ := Int.eq_ofNat_of_zero_le (show 0 ≤ sf' - 7 by omega)
  rw [hi, hj]
  have hdefined : ∀ i < 6, ∀ j < 6, (nonOrthDelta[i]?.bind (·[j]?)).isSome = true := by decide
  obtain ⟨delta, hdelta⟩ := Option.isSome_iff_exists.mp (hdefined i (by omega) j (by omega))
  refine ⟨delta, ?_⟩
  unfold nonOrthDeltaAt
  rw [if_pos ⟨Int.natCast_nonneg i, Int.natCast_nonneg j⟩, Int.toNat_natCast, Int.toNat_natCast, hdelta]

theorem overlap_iff {K : Type} {reception interference : LoRaReception K} :
    overlap reception interference = true ↔
      reception.startTime < interference.endTime ∧ interference.startTime < reception.endTime := by
  unfold overlap
  rw [decide_eq_true_eq, abs_lt]
  constructor
  · rintro ⟨hleft, hright⟩
    constructor <;> linarith
  · rintro ⟨hleft, hright⟩
    constructor <;> linarith

section Laws

variable {K : Type} [Field K] [LinearOrder K] {log10 : K → K} {alohaChannelModel : Bool}
  {reception interference : LoRaReception K} {interferers : List (LoRaReception K)}

theorem isPacketCollided_cons {result : Bool} :
    isPacketCollided log10 alohaChannelModel reception (interference :: interferers) = .ok result ↔
      ∃ delta, nonOrthDeltaAt (reception.LoRaSF - 7) (interference.LoRaSF - 7) = .ok delta ∧
        if isCollision log10 alohaChannelModel reception interference delta then result = true
        else isPacketCollided log10 alohaChannelModel reception interferers = .ok result := by
  rw [isPacketCollided, bind_eq_ok_iff]
  refine exists_congr fun delta => and_congr_right fun _ => ?_
  split
  · exact ⟨fun h => (Except.ok.inj h).symm, fun h => congrArg Except.ok h.symm⟩
  · exact Iff.rfl

theorem isCollision_of_survives (h : isPacketCollided log10 alohaChannelModel reception interferers = .ok false)
    (hmem : interference ∈ interferers) :
    ∃ delta, nonOrthDeltaAt (reception.LoRaSF - 7) (interference.LoRaSF - 7) = .ok delta ∧
      isCollision log10 alohaChannelModel reception interference delta = false := by
  induction interferers with
  | nil => cases hmem
  | cons first interferers ih =>
    obtain ⟨delta, hdelta, hrest⟩ := isPacketCollided_cons.mp h
    split at hrest
    · cases hrest
    · next hfirst =>
      rcases List.mem_cons.mp hmem with rfl | hmem
      · exact ⟨delta, hdelta, Bool.eq_false_of_not_eq_true hfirst⟩
      · exact ih hrest hmem

theorem exists_isCollision (h : isPacketCollided log10 alohaChannelModel reception interferers = .ok true) :
    ∃ interference ∈ interferers, ∃ delta,
      nonOrthDeltaAt (reception.LoRaSF - 7) (interference.LoRaSF - 7) = .ok delta ∧
        isCollision log10 alohaChannelModel reception interference delta = true := by
  induction interferers with
  | nil => cases h
  | cons first interferers ih =>
    obtain ⟨delta, hdelta, hrest⟩ := isPacketCollided_cons.mp h
    split at hrest
    · next hfirst => exact ⟨first, (.head _), delta, hdelta, hfirst⟩
    · obtain ⟨interference, hmem, hcollision⟩ := ih hrest
      exact ⟨interference, .tail _ hmem, hcollision⟩

theorem isPacketCollided_mono {others : List (LoRaReception K)} (hsub : interferers ⊆ others)
    (h : isPacketCollided log10 alohaChannelModel reception interferers = .ok true) :
    isPacketCollided log10 alohaChannelModel reception others ≠ .ok false := by
  intro hsurvives
  obtain ⟨interference, hmem, delta, hdelta, hcollision⟩ := exists_isCollision h
  obtain ⟨delta', hdelta', hno⟩ := isCollision_of_survives hsurvives (hsub hmem)
  obtain rfl := Except.ok.inj (hdelta.symm.trans hdelta')
  rw [hcollision] at hno
  cases hno

theorem isPacketCollided_perm {others : List (LoRaReception K)} (hperm : interferers.Perm others) {result result' : Bool}
    (h : isPacketCollided log10 alohaChannelModel reception interferers = .ok result)
    (h' : isPacketCollided log10 alohaChannelModel reception others = .ok result') : result = result' := by
  cases result with
  | true =>
    cases result' with
    | true => rfl
    | false => exact absurd h' (isPacketCollided_mono hperm.subset h)
  | false =>
    cases result' with
    | true => exact absurd h (isPacketCollided_mono hperm.symm.subset h')
    | false => rfl

theorem isCollision_aloha {delta : ℤ} (h : isCollision log10 false reception interference delta = true) :
    isCollision log10 true reception interference delta = true := by
  unfold isCollision at h ⊢
  rw [Bool.and_eq_true] at h
  rw [h.1]
  rfl

theorem isPacketCollided_aloha (h : isPacketCollided log10 false reception interferers = .ok true) :
    isPacketCollided log10 true reception interferers = .ok true := by
  induction interferers with
  | nil => cases h
  | cons first interferers ih =>
    obtain ⟨delta, hdelta, hrest⟩ := isPacketCollided_cons.mp h
    refine isPacketCollided_cons.mpr ⟨delta, hdelta, ?_⟩
    split
    · rfl
    · next hno =>
      rw [if_neg fun hcollision => hno (isCollision_aloha hcollision)] at hrest
      exact ih hrest

theorem exists_isPacketCollided (hsf : 7 ≤ reception.LoRaSF ∧ reception.LoRaSF ≤ 12)
    (hothers : ∀ interference ∈ interferers, 7 ≤ interference.LoRaSF ∧ interference.LoRaSF ≤ 12) :
    ∃ result, isPacketCollided log10 alohaChannelModel reception interferers = .ok result := by
  induction interferers with
  | nil => exact ⟨false, rfl⟩
  | cons first interferers ih =>
    obtain ⟨delta, hdelta⟩ := exists_nonOrthDeltaAt hsf (hothers first (.head _))
    obtain ⟨result, hresult⟩ := ih fun x hx => hothers x (.tail _ hx)
    cases hfirst : isCollision log10 alohaChannelModel reception first delta with
    | true => exact ⟨true, isPacketCollided_cons.mpr ⟨delta, hdelta, if_pos hfirst ▸ rfl⟩⟩
    | false =>
      refine ⟨result, isPacketCollided_cons.mpr ⟨delta, hdelta, ?_⟩⟩
      rw [if_neg (Bool.eq_false_iff.mp hfirst)]
      exact hresult

end Laws

section Contention

variable {K : Type} [Field K] [LinearOrder K] [IsStrictOrderedRing K] {log10 : K → K} {x y : LoRaReception K}

/-- The receptions overlap on a carrier frequency with a spreading factor, and the second one ends after the last six
symbols of the preamble of the first one have begun. -/
structure Contends (x y : LoRaReception K) : Prop where
  LoRaCF : x.LoRaCF = y.LoRaCF
  LoRaSF : x.LoRaSF = y.LoRaSF
  overlap : x.startTime < y.endTime ∧ y.startTime < x.endTime
  timing : csBegin x < y.endTime

theorem Contends.power {interferers : List (LoRaReception K)} (h : Contends x y) (hmem : y ∈ interferers)
    (hsurvives : isPacketCollided log10 false x interferers = .ok false) :
    RSSI_dBm log10 y + 1 ≤ RSSI_dBm log10 x := by
  obtain ⟨delta, hdelta, hno⟩ := isCollision_of_survives hsurvives hmem
  rw [← h.LoRaSF] at hdelta
  have hone := nonOrthDeltaAt_self hdelta
  have htiming : timingCollision x y = true := decide_eq_true h.timing
  unfold isCollision at hno
  rw [overlap_iff.mpr h.overlap, decide_eq_true h.LoRaCF, htiming] at hno
  have hcapture : captureEffect log10 x y delta = true := by simpa using hno
  unfold captureEffect at hcapture
  rw [hone, Int.cast_one, decide_eq_true_eq] at hcapture
  linarith

/-- Of contending receptions the capture model lets at most one survive, which is 1 dB above the others. A collision
under the capture model is one under the ALOHA model, in any order of the interferers and with more of them. -/
theorem isPacketCollided_laws (log10 : K → K) :
    (∀ (ι : Type) [DecidableEq ι] (receptions : ι → LoRaReception K) (present : List ι), present.Nodup →
      (∀ i ∈ present, ∀ j ∈ present, i ≠ j → Contends (receptions i) (receptions j)) →
      ∀ i ∈ present,
        isPacketCollided log10 false (receptions i) ((present.erase i).map receptions) = .ok false →
        ∀ j ∈ present, j ≠ i →
          RSSI_dBm log10 (receptions j) + 1 ≤ RSSI_dBm log10 (receptions i) ∧
            isPacketCollided log10 false (receptions j) ((present.erase j).map receptions) ≠ .ok false) ∧
    ∀ (reception : LoRaReception K) (interferers others : List (LoRaReception K)),
      (isPacketCollided log10 false reception interferers = .ok true →
        isPacketCollided log10 true reception interferers = .ok true) ∧
      ∀ alohaChannelModel,
        (interferers.Perm others → ∀ result result',
          isPacketCollided log10 alohaChannelModel reception interferers = .ok result →
            isPacketCollided log10 alohaChannelModel reception others = .ok result' → result = result') ∧
        (interferers ⊆ others → isPacketCollided log10 alohaChannelModel reception interferers = .ok true →
          isPacketCollided log10 alohaChannelModel reception others ≠ .ok false) ∧
        ((∀ x ∈ reception :: interferers, 7 ≤ x.LoRaSF ∧ x.LoRaSF ≤ 12) →
          ∃ result, isPacketCollided log10 alohaChannelModel reception interferers = .ok result) := by
  constructor
  · intro ι _ receptions present hnodup hcontends i hi hsurvives j hj hne
    have hother {a b : ι} (hb : b ∈ present) (hba : b ≠ a) : receptions b ∈ (present.erase a).map receptions :=
      List.mem_map_of_mem ((hnodup.mem_erase_iff).mpr ⟨hba, hb⟩)
    have hpower := (hcontends i hi j hj hne.symm).power (hother hj hne) hsurvives
    refine ⟨hpower, fun hsurvives' => ?_⟩
    have hpower' := (hcontends j hj i hi hne).power (hother hi hne.symm) hsurvives'
    linarith
  · intro reception interferers others
    refine ⟨isPacketCollided_aloha, fun alohaChannelModel => ⟨?_, isPacketCollided_mono, fun hsf => ?_⟩⟩
    · intro hperm result result' h h'
      exact isPacketCollided_perm hperm h h'
    · exact exists_isPacketCollided (hsf reception List.mem_cons_self) fun x hx => hsf x (List.mem_cons_of_mem _ hx)

end Contention

/-- Two receptions of 10 mW and 1 mW; the last six symbols of a preamble begin 2 ms after its start. -/
def strongFirst (start : SimTime) (i : Fin 2) : LoRaReception ℚ :=
  { startTime := if i.val = 0 then 0 else start
    endTime := if i.val = 0 then 10 / 1000 else 20 / 1000
    LoRaCF := 868000000
    LoRaSF := 7
    LoRaBW := 128000
    power := if i.val = 0 then 1 / 100 else 1 / 1000 }

/-- The line through the logarithms of 1 and 10. -/
def log10OfTen (x : ℚ) : ℚ := (x - 1) / 9

instance (x y : LoRaReception ℚ) : Decidable (Contends x y) :=
  decidable_of_iff (x.LoRaCF = y.LoRaCF ∧ x.LoRaSF = y.LoRaSF ∧
      (x.startTime < y.endTime ∧ y.startTime < x.endTime) ∧ csBegin x < y.endTime)
    ⟨fun ⟨hCF, hSF, hoverlap, htiming⟩ => ⟨hCF, hSF, hoverlap, htiming⟩,
      fun h => ⟨h.LoRaCF, h.LoRaSF, h.overlap, h.timing⟩⟩

theorem isPacketCollided_laws_of_strongFirst :
    isPacketCollided log10OfTen false (strongFirst (1 / 1000) 0) [strongFirst (1 / 1000) 1] = .ok false ∧
      RSSI_dBm log10OfTen (strongFirst (1 / 1000) 1) + 1 ≤ RSSI_dBm log10OfTen (strongFirst (1 / 1000) 0) ∧
      isPacketCollided log10OfTen false (strongFirst (1 / 1000) 1) [strongFirst (1 / 1000) 0] ≠ .ok false := by
  have hsurvives : isPacketCollided log10OfTen false (strongFirst (1 / 1000) 0)
      (([0, 1].erase 0).map (strongFirst (1 / 1000))) = .ok false := by
    decide +kernel
  exact ⟨hsurvives, (isPacketCollided_laws log10OfTen).1 (Fin 2) (strongFirst (1 / 1000)) [0, 1] (by decide)
    (by decide +kernel) 0 (by decide) hsurvives 1 (by decide) (by decide)⟩

/-- The stronger reception ends, not before but at the moment when the last six symbols of the weaker one's preamble
begin: both survive. -/
theorem not_isPacketCollided_laws :
    (∀ i j, i ≠ j → (strongFirst (8 / 1000) i).LoRaCF = (strongFirst (8 / 1000) j).LoRaCF ∧
      (strongFirst (8 / 1000) i).LoRaSF = (strongFirst (8 / 1000) j).LoRaSF ∧
      ((strongFirst (8 / 1000) i).startTime < (strongFirst (8 / 1000) j).endTime ∧
        (strongFirst (8 / 1000) j).startTime < (strongFirst (8 / 1000) i).endTime) ∧
      ¬(strongFirst (8 / 1000) j).endTime < csBegin (strongFirst (8 / 1000) i)) ∧
    isPacketCollided log10OfTen false (strongFirst (8 / 1000) 0) [strongFirst (8 / 1000) 1] = .ok false ∧
    isPacketCollided log10OfTen false (strongFirst (8 / 1000) 1) [strongFirst (8 / 1000) 0] = .ok false ∧
    RSSI_dBm log10OfTen (strongFirst (8 / 1000) 1) < RSSI_dBm log10OfTen (strongFirst (8 / 1000) 0) := by
  decide +kernel

end inet.physicallayer.LoRaReceiver

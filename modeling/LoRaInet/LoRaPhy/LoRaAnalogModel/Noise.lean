import LoRaInet.LoRaPhy.LoRaAnalogModel
import Mathlib

open omnetpp container

namespace inet.physicallayer.LoRaAnalogModel

section Background

variable {W : Type} [Field W] {dBm2mW : ℚ → W} {listening : LoRaBandListening}

/-- The background power in the time of the listening. -/
def backgroundPower (dBm2mW : ℚ → W) (listening : LoRaBandListening) (t : SimTime) : W :=
  if listening.startTime ≤ t ∧ t < listening.endTime then getBackgroundNoisePower dBm2mW listening else 0

open OrderedMap

theorem level_background (h : listening.startTime < listening.endTime) (t : SimTime) :
    level (backgroundNoisePowerChanges dBm2mW listening).entries t = backgroundPower dBm2mW listening t := by
  have hlookup : (empty.assign listening.startTime
      (getBackgroundNoisePower dBm2mW listening)).lookup listening.endTime = none := by
    rw [lookup_assign, if_neg h.ne']
    rfl
  have hchanges : backgroundNoisePowerChanges dBm2mW listening =
      (empty.add listening.startTime (getBackgroundNoisePower dBm2mW listening)).add
        listening.endTime (-getBackgroundNoisePower dBm2mW listening) := by
    simp only [backgroundNoisePowerChanges, insert, lookup_empty, Option.isSome_none,
      Bool.false_eq_true, if_false, add, hlookup]
  have hempty : level (empty : OrderedMap SimTime W).entries t = 0 := rfl
  rw [hchanges, level_add, level_add, hempty, zero_add, backgroundPower]
  by_cases hstart : listening.startTime ≤ t
  · by_cases hend : listening.endTime ≤ t
    · rw [if_pos hstart, if_pos hend, if_neg fun h => absurd h.2 (not_lt.mpr hend), add_neg_cancel]
    · rw [if_pos hstart, if_neg hend, if_pos ⟨hstart, not_le.mp hend⟩, add_zero]
  · rw [if_neg hstart, if_neg fun hend => hstart (h.le.trans hend), if_neg fun h => hstart h.1, add_zero]

end Background

variable {W : Type} [Field W] [LinearOrder W] {dBm2mW : ℚ → W} {listening : LoRaBandListening}
  {receptions : List (ReceivedSignal W)}

/-- The reception is at the receiver at a time. -/
def Active (reception : ReceivedSignal W) (t : SimTime) : Prop :=
  reception.startTime ≤ t ∧ t < reception.endTime
deriving Decidable

/-- The sum of the powers of the receptions that are at the receiver. -/
def activePower (receptions : List (ReceivedSignal W)) (t : SimTime) : W :=
  ((receptions.filter fun r => Active r t).map (·.power)).sum

/-- The receptions that the listening is tuned to. -/
def Tuned (listening : LoRaBandListening) (reception : ReceivedSignal W) : Prop :=
  listening.LoRaCF = reception.LoRaCF ∧ listening.LoRaBW = reception.LoRaBW
deriving Decidable

theorem activePower_cons (r : ReceivedSignal W) (receptions : List (ReceivedSignal W)) (t : SimTime) :
    activePower (r :: receptions) t = (if Active r t then r.power else 0) + activePower receptions t := by
  unfold activePower
  by_cases hactive : Active r t
  · simp [hactive]
  · simp [hactive]

theorem level_signal (r : ReceivedSignal W) (m : OrderedMap SimTime W) (t : SimTime) :
    level ((m.add r.startTime r.power).add r.endTime (-r.power)).entries t =
      level m.entries t + if Active r t then r.power else 0 := by
  have hle := r.startTime_le
  rw [level_add, level_add, add_assoc]
  congr 1
  by_cases hstart : r.startTime ≤ t
  · by_cases hend : r.endTime ≤ t
    · rw [if_pos hstart, if_pos hend, if_neg fun h : Active r t => absurd h.2 (not_lt.mpr hend), add_neg_cancel]
    · rw [if_pos hstart, if_neg hend, if_pos (show Active r t from ⟨hstart, not_le.mp hend⟩), add_zero]
  · rw [if_neg hstart, if_neg fun hend => hstart (hle.trans hend), if_neg fun h : Active r t => hstart h.1,
      add_zero]

section AddReception

variable (interference : Interference W) {r : ReceivedSignal W}

theorem addReception_of_tuned (h : Tuned listening r) :
    ∃ result, addReception listening interference r = .ok result ∧
      result.powerChanges = (interference.powerChanges.add r.startTime r.power).add r.endTime (-r.power) := by
  unfold addReception
  exact ⟨_, if_pos h, rfl⟩

theorem addReception_of_overlapping (h : ¬ Tuned listening r)
    (hoverlapping : areOverlappingBands listening.LoRaCF listening.LoRaBW r.LoRaCF r.LoRaBW = true) :
    addReception listening interference r =
      .error (.cRuntimeError "Overlapping bands are not supported") := by
  unfold addReception
  exact (if_neg h).trans (if_pos hoverlapping)

theorem addReception_of_apart (h : ¬ Tuned listening r)
    (hapart : areOverlappingBands listening.LoRaCF listening.LoRaBW r.LoRaCF r.LoRaBW = false) :
    addReception listening interference r = .ok interference := by
  unfold addReception
  exact (if_neg h).trans (if_neg (by simp [hapart]))

end AddReception

/-- The loop fails only on a reception in an overlapping band, and adds up the receptions that the listening
is tuned to. -/
theorem addReceptions_level (interference : Interference W) :
    (∀ result, receptions.foldlM (addReception listening) interference = .ok result → ∀ t,
      level result.powerChanges.entries t =
        level interference.powerChanges.entries t + activePower (receptions.filter fun r => Tuned listening r) t) ∧
    ((∃ result, receptions.foldlM (addReception listening) interference = .ok result) ↔
      ∀ r ∈ receptions, Tuned listening r ∨
        areOverlappingBands listening.LoRaCF listening.LoRaBW r.LoRaCF r.LoRaBW = false) := by
  induction receptions generalizing interference with
  | nil =>
    refine ⟨fun result h t => ?_, ⟨fun _ => nofun, fun _ => ⟨interference, rfl⟩⟩⟩
    cases h
    simp [activePower]
  | cons r receptions ih =>
    rw [List.foldlM_cons]
    by_cases htuned : Tuned listening r
    · obtain ⟨next, hnext, hchanges⟩ := addReception_of_tuned interference htuned
      rw [hnext]
      obtain ⟨hlevel, hok⟩ := ih next
      refine ⟨fun result h t => ?_, hok.trans ?_⟩
      · have hfilter : (r :: receptions).filter (fun r => Tuned listening r) =
            r :: receptions.filter fun r => Tuned listening r := List.filter_cons_of_pos (by simpa using htuned)
        rw [hlevel result h t, hchanges, level_signal, hfilter, activePower_cons, add_assoc]
      · simp only [List.forall_mem_cons, htuned, true_or, true_and]
    · cases hoverlapping : areOverlappingBands listening.LoRaCF listening.LoRaBW r.LoRaCF r.LoRaBW with
      | true =>
        rw [addReception_of_overlapping interference htuned hoverlapping]
        refine ⟨nofun, ⟨nofun, fun h => ?_⟩⟩
        rcases h r (.head _) with h | h
        · exact absurd h htuned
        · rw [hoverlapping] at h
          cases h
      | false =>
        rw [addReception_of_apart interference htuned hoverlapping]
        obtain ⟨hlevel, hok⟩ := ih interference
        refine ⟨fun result h t => ?_, hok.trans ?_⟩
        · rw [hlevel result h t, List.filter_cons_of_neg (by simpa using htuned)]
        · simp only [List.forall_mem_cons, hoverlapping, or_true, true_and]

theorem computeNoise_level {noise : ScalarNoise W} (h : computeNoise dBm2mW listening receptions = .ok noise)
    (t : SimTime) : level noise.powerChanges.entries t =
      level (backgroundNoisePowerChanges dBm2mW listening).entries t +
        activePower (receptions.filter fun r => Tuned listening r) t := by
  obtain ⟨interference, hreceptions, hnoise⟩ := bind_eq_ok_iff.mp h
  cases hnoise
  rw [level_addAll, (addReceptions_level _).1 interference hreceptions t]
  simp [level, OrderedMap.empty, add_comm]

theorem computeNoise_ok_iff : (∃ noise, computeNoise dBm2mW listening receptions = .ok noise) ↔
    ∀ r ∈ receptions, Tuned listening r ∨
      areOverlappingBands listening.LoRaCF listening.LoRaBW r.LoRaCF r.LoRaBW = false := by
  rw [← (addReceptions_level {}).2]
  constructor
  · rintro ⟨noise, h⟩
    obtain ⟨interference, hreceptions, -⟩ := bind_eq_ok_iff.mp h
    exact ⟨interference, hreceptions⟩
  · rintro ⟨interference, hreceptions⟩
    exact ⟨_, bind_eq_ok_iff.mpr ⟨interference, hreceptions, rfl⟩⟩

section MaxPower

/-- The power that is to be taken for noise at a time. -/
def powerAt (dBm2mW : ℚ → W) (listening : LoRaBandListening) (receptions : List (ReceivedSignal W))
    (t : SimTime) : W :=
  backgroundPower dBm2mW listening t + activePower receptions t

theorem exists_change_at_start {noise : ScalarNoise W}
    (h : computeNoise dBm2mW listening receptions = .ok noise)
    (hlistening : listening.startTime < listening.endTime) :
    ∃ a ∈ noise.powerChanges.entries, a.1 = listening.startTime := by
  obtain ⟨interference, -, hnoise⟩ := bind_eq_ok_iff.mp h
  cases hnoise
  apply OrderedMap.exists_entry
  have hstart : ((backgroundNoisePowerChanges dBm2mW listening).lookup listening.startTime).isSome = true := by
    simp [backgroundNoisePowerChanges, insert, hlistening.ne, hlistening.ne']
  obtain ⟨a, ha, heq⟩ := OrderedMap.exists_entry hstart
  rw [← heq]
  exact OrderedMap.lookup_addAll ha

variable [IsStrictOrderedRing W]

theorem activePower_nonneg (t : SimTime) : 0 ≤ activePower receptions t := by
  apply List.sum_nonneg
  intro x hx
  obtain ⟨r, -, rfl⟩ := List.mem_map.mp hx
  exact r.power_nonneg

theorem le_activePower {r : ReceivedSignal W} {t : SimTime} (hr : r ∈ receptions) (hactive : Active r t) :
    r.power ≤ activePower receptions t := by
  apply List.single_le_sum
  · intro x hx
    obtain ⟨r, -, rfl⟩ := List.mem_map.mp hx
    exact r.power_nonneg
  · exact List.mem_map.mpr ⟨r, List.mem_filter.mpr ⟨hr, by simpa using hactive⟩, rfl⟩

theorem getBackgroundNoisePower_pos (hpow : ∀ dBm, 0 < dBm2mW dBm) :
    0 < getBackgroundNoisePower dBm2mW listening :=
  div_pos (hpow _) (by norm_num)

/-- The noise of a reception is the largest power there is from its start to its end: of the background and of
the interfering receptions that are at the receiver. The SNIR is a division by a positive power. -/
theorem computeMaxPower_isGreatest (hpow : ∀ dBm, 0 < dBm2mW dBm)
    (hlistening : listening.startTime < listening.endTime) (hband : ∀ r ∈ receptions, Tuned listening r) :
    ∃ noise, computeNoise dBm2mW listening receptions = .ok noise ∧
      IsGreatest (Set.image (powerAt dBm2mW listening receptions)
        (Set.Icc listening.startTime listening.endTime))
        (noise.computeMaxPower listening.startTime listening.endTime) ∧
      (∀ r ∈ receptions, r.startTime < listening.startTime → listening.endTime < r.endTime →
        getBackgroundNoisePower dBm2mW listening + r.power ≤
          noise.computeMaxPower listening.startTime listening.endTime) ∧
      getBackgroundNoisePower dBm2mW listening ≤
        noise.computeMaxPower listening.startTime listening.endTime ∧
      0 < noise.computeMaxPower listening.startTime listening.endTime := by
  obtain ⟨noise, hnoise⟩ := computeNoise_ok_iff.mpr fun r hr => .inl (hband r hr)
  have hfilter : receptions.filter (fun r => Tuned listening r) = receptions :=
    List.filter_eq_self.mpr fun r hr => by simpa using hband r hr
  have hlevel : ∀ t, level noise.powerChanges.entries t = powerAt dBm2mW listening receptions t := by
    intro t
    rw [computeNoise_level hnoise, hfilter, level_background hlistening]
    rfl
  have hbackground : 0 < getBackgroundNoisePower dBm2mW listening := getBackgroundNoisePower_pos hpow
  have hstartPower : powerAt dBm2mW listening receptions listening.startTime =
      getBackgroundNoisePower dBm2mW listening + activePower receptions listening.startTime := by
    rw [powerAt, backgroundPower, if_pos ⟨le_rfl, hlistening⟩]
  have hgreatest : IsGreatest (Set.image (powerAt dBm2mW listening receptions)
      (Set.Icc listening.startTime listening.endTime))
      (noise.computeMaxPower listening.startTime listening.endTime) := by
    have hsweep := isGreatest_peak noise.powerChanges.ascending
      (exists_change_at_start hnoise hlistening) hlistening.le fun t _ _ => ?_
    · rw [funext hlevel] at hsweep
      exact hsweep
    · rw [hlevel, powerAt, backgroundPower]
      split
      · exact add_nonneg hbackground.le (activePower_nonneg t)
      · exact add_nonneg le_rfl (activePower_nonneg t)
  have hfirst := hgreatest.2 ⟨listening.startTime, ⟨le_rfl, hlistening.le⟩, rfl⟩
  rw [hstartPower] at hfirst
  have hle : getBackgroundNoisePower dBm2mW listening ≤
      noise.computeMaxPower listening.startTime listening.endTime :=
    (le_add_of_nonneg_right (activePower_nonneg _)).trans hfirst
  refine ⟨noise, hnoise, hgreatest, fun r hr hbefore hafter => ?_, hle, hbackground.trans_le hle⟩
  exact (add_le_add le_rfl (le_activePower hr ⟨hbefore.le, hlistening.trans hafter⟩)).trans hfirst

/-- A reception on 868 MHz with two others that overlap it: one from before it on, and one within it. -/
theorem computeMaxPower_isGreatest_of_two : ∃ noise : ScalarNoise ℝ,
    computeNoise (fun dBm => (10 : ℝ) ^ ((dBm : ℝ) / 10)) ⟨1, 3, 868000000, 9, 125000⟩
        [⟨0, 5, 868000000, 125000, 2, by norm_num, by norm_num⟩,
          ⟨2, 3, 868000000, 125000, 4, by norm_num, by norm_num⟩] = .ok noise ∧
      0 < noise.computeMaxPower 1 3 := by
  obtain ⟨noise, hnoise, -, -, -, hpos⟩ := @computeMaxPower_isGreatest ℝ _ _
    (fun dBm => (10 : ℝ) ^ ((dBm : ℝ) / 10)) ⟨1, 3, 868000000, 9, 125000⟩
    [⟨0, 5, 868000000, 125000, 2, by norm_num, by norm_num⟩,
      ⟨2, 3, 868000000, 125000, 4, by norm_num, by norm_num⟩]
    _ (fun dBm => Real.rpow_pos_of_pos (by norm_num) ((dBm : ℝ) / 10)) (by norm_num) (by simp [Tuned])
  exact ⟨noise, hnoise, hpos⟩

end MaxPower

section Gateway

variable {loRaApp : SimpleLoRaApp} {receiver : LoRaReceiver} {reception : ReceivedSignal W}
  {others : List (ReceivedSignal W)}

/-- The noise of a reception is the one without interference and the power of every other reception while it
is at the receiver. -/
def CountsInterference (dBm2mW : ℚ → W) (receiver : LoRaReceiver) (loRaApp : SimpleLoRaApp)
    (reception : ReceivedSignal W) (others : List (ReceivedSignal W)) : Prop :=
  let listening := receiver.createListening loRaApp reception.startTime reception.endTime
  ∃ noise background, computeNoise dBm2mW listening others = .ok noise ∧
    computeNoise dBm2mW listening [] = .ok background ∧
      ∀ t, reception.startTime ≤ t → t ≤ reception.endTime →
        level noise.powerChanges.entries t = level background.powerChanges.entries t + activePower others t

/-- Two receptions are at the receiver at the same time. -/
def Overlaps (reception r : ReceivedSignal W) : Prop :=
  r.startTime ≤ reception.endTime ∧ reception.startTime < r.endTime ∧ r.startTime < r.endTime

variable [IsStrictOrderedRing W]

theorem countsInterference_iff {listening : LoRaBandListening}
    (hlistening : receiver.createListening loRaApp reception.startTime reception.endTime = listening)
    (hband : ∀ r ∈ others, r.LoRaCF = reception.LoRaCF ∧ r.LoRaBW = reception.LoRaBW) :
    CountsInterference dBm2mW receiver loRaApp reception others ↔
      Tuned listening reception ∨ ∀ r ∈ others,
        areOverlappingBands listening.LoRaCF listening.LoRaBW reception.LoRaCF reception.LoRaBW = false ∧
          (r.power = 0 ∨ ¬ Overlaps reception r) := by
  have htuned : ∀ r ∈ others, Tuned listening r ↔ Tuned listening reception := by
    intro r hr
    rw [Tuned, Tuned, (hband r hr).1, (hband r hr).2]
  obtain ⟨background, hbackground⟩ : ∃ background,
      computeNoise dBm2mW listening ([] : List (ReceivedSignal W)) = .ok background :=
    computeNoise_ok_iff.mpr nofun
  have hempty : ∀ t, level background.powerChanges.entries t =
      level (backgroundNoisePowerChanges dBm2mW listening).entries t := by
    intro t
    rw [computeNoise_level hbackground]
    simp [activePower]
  by_cases hreception : Tuned listening reception
  · have hfilter : others.filter (fun r => Tuned listening r) = others :=
      List.filter_eq_self.mpr fun r hr => by simpa using (htuned r hr).mpr hreception
    obtain ⟨noise, hnoise⟩ : ∃ noise, computeNoise dBm2mW listening others = .ok noise :=
      computeNoise_ok_iff.mpr fun r hr => .inl ((htuned r hr).mpr hreception)
    refine iff_of_true ?_ (.inl hreception)
    unfold CountsInterference
    rw [hlistening]
    refine ⟨noise, background, hnoise, hbackground, fun t _ _ => ?_⟩
    rw [computeNoise_level hnoise, hfilter, hempty]
  · have hfilter : others.filter (fun r => Tuned listening r) = [] :=
      List.filter_eq_nil_iff.mpr fun r hr => by simpa using (htuned r hr).not.mpr hreception
    have hzero : activePower ([] : List (ReceivedSignal W)) = fun _ => 0 := rfl
    unfold CountsInterference
    rw [hlistening]
    constructor
    · rintro ⟨noise, background', hnoise, hbackground', hall⟩
      obtain rfl := Except.ok.inj (hbackground.symm.trans hbackground')
      refine .inr fun r hr => ⟨?_, or_iff_not_imp_right.mpr fun hoverlaps => ?_⟩
      · have hapart := (computeNoise_ok_iff.mp ⟨noise, hnoise⟩ r hr).resolve_left
          ((htuned r hr).not.mpr hreception)
        rwa [(hband r hr).1, (hband r hr).2] at hapart
      · obtain ⟨hend, hstart, hlt⟩ := not_not.mp hoverlaps
        -- both are at the receiver from the later one of the two starts on
        have hactive : Active r (max r.startTime reception.startTime) :=
          ⟨le_max_left _ _, max_lt hlt hstart⟩
        have hlevel := hall _ (le_max_right r.startTime _) (max_le hend reception.startTime_le)
        rw [computeNoise_level hnoise, hfilter, hempty, hzero] at hlevel
        have hsilent := add_left_cancel hlevel
        exact le_antisymm ((le_activePower hr hactive).trans hsilent.symm.le) r.power_nonneg
    · rintro (h | hnone)
      · exact absurd h hreception
      · obtain ⟨noise, hnoise⟩ : ∃ noise, computeNoise dBm2mW listening others = .ok noise := by
          apply computeNoise_ok_iff.mpr
          intro r hr
          rw [(hband r hr).1, (hband r hr).2]
          exact .inr (hnone r hr).1
        refine ⟨noise, background, hnoise, hbackground, fun t hs he => ?_⟩
        have hsilent : activePower others t = 0 := by
          apply List.sum_eq_zero
          intro x hx
          obtain ⟨r, hr, rfl⟩ := List.mem_map.mp hx
          obtain ⟨hr, hactive⟩ := List.mem_filter.mp hr
          have hactive : Active r t := by simpa using hactive
          apply (hnone r hr).2.resolve_right
          exact not_not.mpr ⟨hactive.1.trans he, hs.trans_lt hactive.2, hactive.1.trans_lt hactive.2⟩
        rw [computeNoise_level hnoise, hfilter, hempty, hzero, hsilent]

/-- A node counts the interference on the band it is tuned to. A gateway does so on the band of its receiver,
and on another one only as far as there is none. -/
theorem gateway_countsInterference_iff (hgateway : receiver.iAmGateway = true)
    (hband : ∀ r ∈ others, r.LoRaCF = reception.LoRaCF ∧ r.LoRaBW = reception.LoRaBW) :
    (∀ node loRaApp, node.iAmGateway = false → loRaApp.loRaCF = reception.LoRaCF →
      loRaApp.loRaBW = reception.LoRaBW → CountsInterference dBm2mW node loRaApp reception others) ∧
    (CountsInterference dBm2mW receiver loRaApp reception others ↔
      (receiver.LoRaCF = reception.LoRaCF ∧ receiver.LoRaBW = reception.LoRaBW) ∨
        ∀ r ∈ others,
          areOverlappingBands receiver.LoRaCF receiver.LoRaBW reception.LoRaCF reception.LoRaBW = false ∧
            (r.power = 0 ∨ ¬ Overlaps reception r)) := by
  constructor
  · intro node loRaApp hnode hCF hBW
    apply (countsInterference_iff rfl hband).mpr
    left
    unfold LoRaReceiver.createListening
    rw [if_pos hnode]
    exact ⟨hCF, hBW⟩
  · have hlistening : receiver.createListening loRaApp reception.startTime reception.endTime =
        ⟨reception.startTime, reception.endTime, receiver.LoRaCF, receiver.LoRaSF, receiver.LoRaBW⟩ := by
      unfold LoRaReceiver.createListening
      rw [if_neg (by simp [hgateway])]
    exact countsInterference_iff hlistening hband

/-- The receiver of a gateway, put on the band of the reception by hand. -/
theorem gateway_countsInterference_iff_of_set : ∃ others : List (ReceivedSignal ℝ), others ≠ [] ∧
    CountsInterference (fun dBm => (10 : ℝ) ^ ((dBm : ℝ) / 10)) ⟨true, 868000000, 12, 125000⟩
      (SimpleLoRaApp.initial {}) ⟨1, 3, 868000000, 125000, 1, by norm_num, by norm_num⟩ others := by
  refine ⟨[⟨0, 5, 868000000, 125000, 2, by norm_num, by norm_num⟩], by simp, ?_⟩
  exact (gateway_countsInterference_iff rfl (by simp)).2.mpr (.inl ⟨rfl, rfl⟩)

/-- No gateway counts an interference on 868 MHz: its receiver stays at 0 Hz. -/
theorem not_gateway_countsInterference : ∃ receiver : LoRaReceiver,
    receiver = LoRaReceiver.initialize "inet::physicallayer::LoRaGWRadio" 12 ∧
      ¬ CountsInterference (fun dBm => (10 : ℝ) ^ ((dBm : ℝ) / 10)) receiver (SimpleLoRaApp.initial {})
        ⟨1, 3, 868000000, 125000, 1, by norm_num, by norm_num⟩
        [⟨0, 5, 868000000, 125000, 2, by norm_num, by norm_num⟩] := by
  refine ⟨_, rfl, ?_⟩
  have hlistening : LoRaReceiver.createListening
      ⟨true, 0, 12, 0⟩ (SimpleLoRaApp.initial {}) 1 3 = ⟨1, 3, 0, 12, 0⟩ := rfl
  apply (countsInterference_iff hlistening (by simp)).not.mpr
  norm_num [Tuned, Overlaps]

end Gateway

end inet.physicallayer.LoRaAnalogModel

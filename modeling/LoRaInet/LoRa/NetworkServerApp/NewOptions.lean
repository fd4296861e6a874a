import LoRaInet.LoRa.NetworkServerApp.KnownNodes

open omnetpp

namespace inet.NetworkServerApp

section StepWhile

variable {A : Type} {cond : A → Bool} {next : A → A}

/-- One step more is one turn of the loop more, unless the loop has ended before. -/
theorem stepWhile_succ (steps : ℕ) (x : A) : (stepWhile cond next (steps + 1) x).2 =
      if cond (stepWhile cond next steps x).2 then next (stepWhile cond next steps x).2
      else (stepWhile cond next steps x).2 := by
  induction steps generalizing x with
  | zero =>
    by_cases hcond : cond x = true
    · simp [stepWhile, hcond]
    · simp [stepWhile, hcond]
  | succ steps ih =>
    by_cases hcond : cond x = true
    · rw [stepWhile, if_pos hcond, ih (next x), stepWhile, if_pos hcond]
    · rw [stepWhile, if_neg hcond, stepWhile, if_neg hcond, if_neg hcond]

/-- A loop that only lowers its variable ends lower with more steps. -/
theorem stepWhile_antitone [Preorder A] (hnext : ∀ x, cond x = true → next x ≤ x) {steps steps' : ℕ}
    (h : steps ≤ steps') (x : A) : (stepWhile cond next steps' x).2 ≤ (stepWhile cond next steps x).2 := by
  induction h with
  | refl => exact le_rfl
  | step h ih =>
    apply le_trans _ ih
    rw [Nat.succ_eq_add_one, stepWhile_succ]
    split
    · next hcond => exact hnext _ hcond
    · exact le_rfl

theorem stepWhile_monotone [Preorder A] (hnext : ∀ x, cond x = true → x ≤ next x) {steps steps' : ℕ}
    (h : steps ≤ steps') (x : A) : (stepWhile cond next steps x).2 ≤ (stepWhile cond next steps' x).2 := by
  induction h with
  | refl => exact le_rfl
  | step h ih =>
    apply le_trans ih
    rw [Nat.succ_eq_add_one, stepWhile_succ]
    split
    · next hcond => exact hnext _ hcond
    · exact le_rfl

end StepWhile

/-- The spreading factor is lowered by the steps there are, and the steps that are left go on. -/
theorem loweredSF_eq {sf : ℤ} (hmin : 7 ≤ sf) (steps : ℕ) :
    stepWhile (fun sf : ℤ => 7 < sf) (· - 1) steps sf = (steps - (sf - 7).toNat, max 7 (sf - steps)) := by
  induction steps generalizing sf with
  | zero => simp [stepWhile, hmin]
  | succ steps ih =>
    by_cases hsf : 7 < sf
    · rw [stepWhile, if_pos (decide_eq_true hsf), ih (by omega)]
      push_cast
      exact Prod.ext_iff.mpr ⟨by dsimp only; omega, by dsimp only; omega⟩
    · rw [stepWhile, if_neg (by simpa using hsf)]
      push_cast
      exact Prod.ext_iff.mpr ⟨by dsimp only; omega, by dsimp only; omega⟩

/-- The second loop with the clamp after it. -/
def loweredTP (steps : ℕ) (tp : ℚ) : ℚ := max 2 (stepWhile (fun tp : ℚ => 2 < tp) (· - 3) steps tp).2

/-- The third loop with the clamp after it. -/
def raisedTP (steps : ℕ) (tp : ℚ) : ℚ := min 14 (stepWhile (fun tp : ℚ => tp < 14) (· + 3) steps tp).2

theorem loweredTP_antitone {steps steps' : ℕ} (h : steps ≤ steps') (tp : ℚ) :
    loweredTP steps' tp ≤ loweredTP steps tp := by
  apply max_le_max le_rfl
  apply stepWhile_antitone _ h
  intro tp _
  linarith

theorem raisedTP_monotone {steps steps' : ℕ} (h : steps ≤ steps') (tp : ℚ) :
    raisedTP steps tp ≤ raisedTP steps' tp := by
  apply min_le_min le_rfl
  apply stepWhile_monotone _ h
  intro tp _
  linarith

theorem min_le_raisedTP (steps : ℕ) (tp : ℚ) : min 14 tp ≤ raisedTP steps tp :=
  raisedTP_monotone (Nat.zero_le steps) tp

theorem newOptions_eq (pkt : LoRaMacFrame) (hmin : 7 ≤ pkt.LoRaSF) (Nstep : ℤ) :
    newOptions pkt Nstep =
      { LoRaSF := max 7 (pkt.LoRaSF - Nstep.toNat)
        LoRaTP := raisedTP (-Nstep).toNat (loweredTP (Nstep.toNat - (pkt.LoRaSF - 7).toNat) pkt.LoRaTP) } := by
  have hmax : ∀ a : ℚ, (if a < 2 then 2 else a) = max 2 a := by
    intro a
    by_cases ha : a < 2
    · rw [if_pos ha, max_eq_left ha.le]
    · rw [if_neg ha, max_eq_right (not_lt.mp ha)]
  have hmin' : ∀ a : ℚ, (if 14 < a then 14 else a) = min 14 a := by
    intro a
    by_cases ha : 14 < a
    · rw [if_pos ha, min_eq_left ha.le]
    · rw [if_neg ha, min_eq_right (not_lt.mp ha)]
  unfold newOptions
  rw [loweredSF_eq hmin]
  dsimp only
  rw [hmax, hmin']
  rfl

section Steps

variable {pkt : LoRaMacFrame} {Nstep Nstep' : ℤ}

/-- The spreading factor and the power that an ADR command asks for, compared to those of the uplink. -/
structure StepsTaken (pkt : LoRaMacFrame) (Nstep : ℤ) (options : LoRaOptions) : Prop where
  LoRaSF_mem : 7 ≤ options.LoRaSF ∧ options.LoRaSF ≤ pkt.LoRaSF
  LoRaTP_mem : 2 ≤ options.LoRaTP ∧ options.LoRaTP ≤ 14
  LoRaSF_first : 0 ≤ Nstep → options.LoRaSF = max 7 (pkt.LoRaSF - Nstep)
  LoRaTP_lowered : options.LoRaTP < min pkt.LoRaTP 14 → options.LoRaSF = 7
  negative : Nstep < 0 →
    options.LoRaSF = pkt.LoRaSF ∧ (2 ≤ pkt.LoRaTP → pkt.LoRaTP ≤ 14 → pkt.LoRaTP ≤ options.LoRaTP)
  zero : Nstep = 0 → 2 ≤ pkt.LoRaTP → pkt.LoRaTP ≤ 14 →
    options.LoRaSF = pkt.LoRaSF ∧ options.LoRaTP = pkt.LoRaTP

theorem stepsTaken_newOptions (hmin : 7 ≤ pkt.LoRaSF) : StepsTaken pkt Nstep (newOptions pkt Nstep) := by
  rw [newOptions_eq pkt hmin]
  have hraised : ∀ left, min 14 (max 2 pkt.LoRaTP) ≤ raisedTP left (loweredTP 0 pkt.LoRaTP) :=
    fun left => min_le_raisedTP left _
  constructor
  · dsimp only
    omega
  · refine ⟨?_, min_le_left _ _⟩
    apply le_trans _ (min_le_raisedTP _ _)
    exact le_min (by norm_num) (le_max_left _ _)
  · intro hnonneg
    dsimp only
    omega
  · intro hlowered
    by_contra hne
    have hleft : Nstep.toNat - (pkt.LoRaSF - 7).toNat = 0 := by
      dsimp only at hne
      omega
    dsimp only at hlowered
    rw [hleft] at hlowered
    have hle : min pkt.LoRaTP 14 ≤ min 14 (max 2 pkt.LoRaTP) :=
      le_min (min_le_right _ _) ((min_le_left _ _).trans (le_max_right _ _))
    exact absurd ((hle.trans (hraised _)).trans_lt hlowered) (lt_irrefl _)
  · intro hneg
    have hzero : Nstep.toNat = 0 := by omega
    dsimp only
    rw [hzero, Nat.zero_sub]
    refine ⟨by omega, fun htwo hfourteen => ?_⟩
    exact (le_min hfourteen (le_max_right _ _)).trans (hraised _)
  · rintro rfl htwo hfourteen
    simp only [Int.toNat_zero, Nat.zero_sub, neg_zero]
    refine ⟨by omega, ?_⟩
    change min 14 (max 2 pkt.LoRaTP) = pkt.LoRaTP
    rw [max_eq_right htwo, min_eq_right hfourteen]

/-- More steps never lead to a larger spreading factor nor to a larger power. -/
theorem newOptions_antitone (hmin : 7 ≤ pkt.LoRaSF) (h : Nstep ≤ Nstep') :
    (newOptions pkt Nstep').LoRaSF ≤ (newOptions pkt Nstep).LoRaSF ∧
      (newOptions pkt Nstep').LoRaTP ≤ (newOptions pkt Nstep).LoRaTP := by
  rw [newOptions_eq pkt hmin, newOptions_eq pkt hmin]
  dsimp only
  refine ⟨by omega, ?_⟩
  have hlowered := loweredTP_antitone (by omega : Nstep.toNat - (pkt.LoRaSF - 7).toNat ≤
    Nstep'.toNat - (pkt.LoRaSF - 7).toNat) pkt.LoRaTP
  rcases le_total 0 Nstep with hnonneg | hneg
  · have hzero : (-Nstep).toNat = 0 := by omega
    have hzero' : (-Nstep').toNat = 0 := by omega
    rw [hzero, hzero']
    exact min_le_min le_rfl hlowered
  · -- the power is raised by fewer steps, if it is not lowered
    have hzero : Nstep.toNat = 0 := by omega
    rw [hzero, Nat.zero_sub] at hlowered ⊢
    rcases le_total 0 Nstep' with hnonneg' | hneg'
    · have hzero' : (-Nstep').toNat = 0 := by omega
      rw [hzero']
      exact (min_le_min le_rfl hlowered).trans (min_le_raisedTP _ _)
    · have hzero' : Nstep'.toNat = 0 := by omega
      rw [hzero', Nat.zero_sub]
      exact raisedTP_monotone (by omega) _

theorem round_monotone {x y : ℚ} (h : x ≤ y) : round x ≤ round y := by
  unfold round
  by_cases hx : 0 ≤ x
  · rw [if_pos hx, if_pos (hx.trans h)]
    exact Int.floor_le_floor (by linarith)
  · rw [if_neg hx]
    split
    · next hy =>
      have hceil : ⌈x - 1 / 2⌉ ≤ 0 := Int.ceil_le.mpr (by push_cast; linarith)
      have hfloor : 0 ≤ ⌊y + 1 / 2⌋ := Int.floor_nonneg.mpr (by linarith)
      exact hceil.trans hfloor
    · exact Int.ceil_le_ceil (by linarith)

theorem adrOptions_eq {par : Parameters} {locals : Indeterminate} {scan : AdrScan}
    {knownNodes recorded : List KnownNode} {options : LoRaOptions} (hsend : scan.sendADR = true)
    (h : adrOptions par locals pkt scan knownNodes = .ok (recorded, options)) :
    options = newOptions pkt
      (round ((scan.SNRm - requiredSNR locals pkt.LoRaSF - par.adrDeviceMargin) / 3)) := by
  unfold adrOptions at h
  rw [if_pos hsend] at h
  obtain ⟨margins, -, hok⟩ := bind_eq_ok_iff.mp h
  exact (Prod.mk.inj (Except.ok.inj hok)).2.symm

/-- An ADR command spends its steps on the spreading factor first and then on the power, within the limits of
both, and a larger margin never yields larger values. -/
theorem newOptions_within_limits (pkt : LoRaMacFrame) (hSF : 7 ≤ pkt.LoRaSF ∧ pkt.LoRaSF ≤ 12) :
    (∀ par locals scan knownNodes recorded options, scan.sendADR = true →
      adrOptions par locals pkt scan knownNodes = .ok (recorded, options) → options = newOptions pkt
        (round ((scan.SNRm - requiredSNR locals pkt.LoRaSF - par.adrDeviceMargin) / 3))) ∧
      (∀ Nstep, StepsTaken pkt Nstep (newOptions pkt Nstep)) ∧
      ∀ SNRmargin SNRmargin' : ℚ, SNRmargin ≤ SNRmargin' →
        (newOptions pkt (round (SNRmargin' / 3))).LoRaSF ≤ (newOptions pkt (round (SNRmargin / 3))).LoRaSF ∧
          (newOptions pkt (round (SNRmargin' / 3))).LoRaTP ≤
            (newOptions pkt (round (SNRmargin / 3))).LoRaTP := by
  refine ⟨fun _ _ _ _ _ _ => adrOptions_eq, fun Nstep => stepsTaken_newOptions hSF.1, fun SNRmargin SNRmargin' hmargin => ?_⟩
  exact newOptions_antitone hSF.1 (round_monotone (by linarith))

theorem newOptions_within_limits_of_ten :
    StepsTaken { LoRaSF := 10, LoRaTP := 14 } 5 { LoRaSF := 7, LoRaTP := 8 } := by
  have h := (newOptions_within_limits { LoRaSF := 10, LoRaTP := 14 } ⟨by decide, by decide⟩).2.1 5
  have heq : newOptions { LoRaSF := 10, LoRaTP := 14 } 5 = { LoRaSF := 7, LoRaTP := 8 } := by
    decide +kernel
  rwa [heq] at h

/-- An uplink with more power than 14 dBm is answered with 14 dBm at any spreading factor. -/
theorem not_newOptions_within_limits : ∃ pkt : LoRaMacFrame, 7 ≤ pkt.LoRaSF ∧ pkt.LoRaSF ≤ 12 ∧
    (newOptions pkt 1).LoRaTP < pkt.LoRaTP ∧ (newOptions pkt 1).LoRaSF ≠ 7 := by
  refine ⟨{ LoRaSF := 12, LoRaTP := 20 }, ?_⟩
  decide +kernel

end Steps

end inet.NetworkServerApp

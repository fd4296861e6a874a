import LoRaInet.NetworkLayer.Configurator.OptimizeRoutes
import Mathlib.Data.List.TakeWhile

open omnetpp addressing

namespace inet

namespace IPv4NetworkConfigurator

variable {A B C D S T routeInfos : List RouteInfo} {a b c r : RouteInfo} {o : OriginalRouteInfo}
  {originals : List OriginalRouteInfo} {x : IPv4Address}

/-- In the order of the table, the longest netmask first. -/
def Precedes (a b : RouteInfo) : Prop := routeInfoLessThan b a = false

theorem precedes_iff : Precedes a b ↔ b.netmask.toNat < a.netmask.toNat ∨
    (a.netmask.toNat = b.netmask.toNat ∧ a.destination.toNat ≤ b.destination.toNat) := by
  unfold Precedes routeInfoLessThan
  by_cases hmask : b.netmask = a.netmask
  · rw [if_neg (not_not_intro hmask), decide_eq_false_iff_not, BitVec.lt_def, hmask]
    omega
  · have hne : b.netmask.toNat ≠ a.netmask.toNat := fun heq => hmask (BitVec.eq_of_toNat_eq heq)
    simp only [ne_eq, hmask, not_false_eq_true, if_true, decide_eq_false_iff_not, BitVec.lt_def]
    omega

theorem Precedes.trans (hab : Precedes a b) (hbc : Precedes b c) : Precedes a c := by
  rw [precedes_iff] at hab hbc ⊢
  omega

theorem precedes_of_lessThan (h : routeInfoLessThan a b = true) : Precedes a b := by
  have hnot : ¬Precedes b a := by
    rw [Precedes, h]
    decide
  rw [precedes_iff] at hnot ⊢
  omega

/-- The table is sorted by netmask, descending, and by destination. -/
def Sorted (routeInfos : List RouteInfo) : Prop := routeInfos.Pairwise Precedes

theorem insertIdx_length (S T : List RouteInfo) (r : RouteInfo) :
    (S ++ T).insertIdx S.length r = S ++ r :: T := by
  induction S with
  | nil => rfl
  | cons a S ih =>
    rw [List.cons_append, List.length_cons, List.insertIdx_succ_cons, ih]
    rfl

theorem addRouteInfo_eq (hsorted : Sorted routeInfos) : ∃ S T, routeInfos = S ++ T ∧
    addRouteInfo routeInfos r = (S ++ r :: T, S.length) ∧ (∀ a ∈ S, Precedes a r) ∧
    (∀ b ∈ T, routeInfoLessThan r b = true) := by
  let before (a : RouteInfo) : Bool := !routeInfoLessThan r a
  have hsplit : routeInfos.takeWhile before ++ routeInfos.dropWhile before = routeInfos :=
    List.takeWhile_append_dropWhile
  refine ⟨routeInfos.takeWhile before, routeInfos.dropWhile before, hsplit.symm, ?_, ?_, ?_⟩
  · have hinsert := insertIdx_length (routeInfos.takeWhile before) (routeInfos.dropWhile before) r
    rw [hsplit] at hinsert
    exact Prod.ext hinsert rfl
  · intro a ha
    have hbefore := List.mem_takeWhile_imp ha
    simpa [before, Precedes] using hbefore
  · intro b hb
    cases hdrop : routeInfos.dropWhile before with
    | nil =>
      rw [hdrop] at hb
      cases hb
    | cons first rest =>
      have hfirst : routeInfoLessThan r first = true := by
        have hnot := List.head_dropWhile_not before (l := routeInfos) (by rw [hdrop]; simp)
        simpa [hdrop, before] using hnot
      rw [hdrop] at hb hsplit
      rcases List.mem_cons.mp hb with rfl | hrest
      · exact hfirst
      · unfold Sorted at hsorted
        rw [← hsplit] at hsorted
        have hprecedes := (List.pairwise_cons.mp (List.pairwise_append.mp hsorted).2.1).1 b hrest
        by_contra hnot
        have hback : Precedes b r := Bool.eq_false_iff.mpr hnot
        have hcycle : Precedes first r := hprecedes.trans hback
        rw [Precedes, hfirst] at hcycle
        cases hcycle

theorem Sorted.insert (hsorted : Sorted (S ++ T)) (hbefore : ∀ a ∈ S, Precedes a r)
    (hafter : ∀ b ∈ T, routeInfoLessThan r b = true) : Sorted (S ++ r :: T) := by
  obtain ⟨hS, hT, hST⟩ := List.pairwise_append.mp hsorted
  refine List.pairwise_append.mpr ⟨hS, List.pairwise_cons.mpr ⟨fun b hb => ?_, hT⟩, ?_⟩
  · exact precedes_of_lessThan (hafter b hb)
  · intro a ha b hb
    rcases List.mem_cons.mp hb with rfl | hb
    · exact hbefore a ha
    · exact hST a ha b hb

/-- A route that comes after one in a sorted table is added after it. -/
theorem addRouteInfo_after (hsorted : Sorted (A ++ a :: T)) (hprecedes : Precedes a r) :
    ∃ C D, T = C ++ D ∧
      addRouteInfo (A ++ a :: T) r = (A ++ a :: (C ++ r :: D), A.length + 1 + C.length) ∧
      Sorted (A ++ a :: (C ++ r :: D)) := by
  obtain ⟨S, U, hsplit, hadd, hbefore, hafter⟩ := addRouteInfo_eq (r := r) hsorted
  have ha : a ∉ U := by
    intro ha
    have hlt := hafter a ha
    rw [Precedes] at hprecedes
    rw [hprecedes] at hlt
    cases hlt
  obtain ⟨C, hS, hT⟩ : ∃ C, S = A ++ a :: C ∧ T = C ++ U := by
    rcases List.append_eq_append_iff.mp hsplit with ⟨E, hS, hE⟩ | ⟨E, hA, hE⟩
    · cases E with
      | nil =>
        rw [List.nil_append] at hE
        exact absurd (hE ▸ (.head _)) ha
      | cons e C =>
        obtain ⟨rfl, hT⟩ := List.cons.inj hE
        exact ⟨C, hS, hT⟩
    · exact absurd (hE ▸ List.mem_append_right E (.head _)) ha
  refine ⟨C, U, hT, ?_, ?_⟩
  · rw [hadd, hS]
    simp only [List.append_assoc, List.cons_append, List.length_append, List.length_cons]
    congr 1
    omega
  · have hinsert := Sorted.insert (hsplit ▸ hsorted) hbefore hafter
    rw [hS] at hinsert
    simpa using hinsert

/-- The first route of a range that matches. -/
def firstMatch (routeInfos : List RouteInfo) (x : IPv4Address) : Option RouteInfo :=
  routeInfos.find? fun r => r.matches x

theorem range_eq (A S B : List RouteInfo) :
    ((A ++ S ++ B).take (A.length + S.length)).drop A.length = S := by
  rw [← List.length_append, List.take_left, List.drop_left]

theorem findBest_colorAt (A S B : List RouteInfo) (x : IPv4Address) :
    (findBestMatchingRouteInfo (A ++ S ++ B) x A.length (A.length + S.length)).bind
      (colorAt (A ++ S ++ B)) = (firstMatch S x).map (·.color) := by
  rw [findBestMatchingRouteInfo, range_eq, firstMatch, List.find?_eq_bind_findIdx?_getElem?]
  cases hfind : S.findIdx? (fun r => r.matches x) with
  | none => rfl
  | some k =>
    have hk : k < S.length := (List.findIdx?_eq_some_iff_findIdx_eq.mp hfind).1
    simp only [Option.map_some, Option.bind_some, colorAt]
    rw [List.append_assoc, List.getElem?_append_right (Nat.le_add_right _ _),
      Nat.add_sub_cancel_left, List.getElem?_append_left hk]

end IPv4NetworkConfigurator

namespace IPv4NetworkConfigurator

variable {d₁ m₁ d₂ m₂ x : IPv4Address} {routeInfoI routeInfoJ T : RouteInfo} {k : ℕ}

/-- The bit is in both netmasks and the same in both destinations. -/
def Common (d₁ m₁ d₂ m₂ : IPv4Address) (k : ℕ) : Prop :=
  d₁.getLsbD k = d₂.getLsbD k ∧ m₁.getLsbD k = true ∧ m₂.getLsbD k = true

theorem and_twoPow_ne_zero (hk : k < 32) : m₁ &&& BitVec.twoPow 32 k ≠ 0 ↔ m₁.getLsbD k = true := by
  rw [BitVec.and_twoPow]
  cases m₁.getLsbD k with
  | true =>
    have hne : BitVec.twoPow 32 k ≠ 0 := by
      intro hzero
      have hbit := congrArg (fun a => a.getLsbD k) hzero
      simp [hk] at hbit
    simpa using hne
  | false => simp

theorem and_twoPow_eq (hk : k < 32) :
    d₁ &&& BitVec.twoPow 32 k = d₂ &&& BitVec.twoPow 32 k ↔ d₁.getLsbD k = d₂.getLsbD k := by
  constructor
  · intro h
    have hbit := congrArg (fun a => a.getLsbD k) h
    simpa [hk] using hbit
  · intro h
    rw [BitVec.and_twoPow, BitVec.and_twoPow, h]

/-- The loop adds the bits from `n` down to the first that is not common. -/
theorem commonPrefixLoop_bits {n : ℕ} (hn : n ≤ 32) (out : IPv4Address × IPv4Address) (k : ℕ) :
    ((commonPrefixLoop d₁ m₁ d₂ m₂ n out).2.getLsbD k = true ↔ out.2.getLsbD k = true ∨
      k < n ∧ ∀ l, k ≤ l → l < n → Common d₁ m₁ d₂ m₂ l) ∧
    ((commonPrefixLoop d₁ m₁ d₂ m₂ n out).1.getLsbD k = true ↔ out.1.getLsbD k = true ∨
      d₁.getLsbD k = true ∧ k < n ∧ ∀ l, k ≤ l → l < n → Common d₁ m₁ d₂ m₂ l) := by
  induction n generalizing out with
  | zero => simp [commonPrefixLoop]
  | succ n ih =>
    obtain ⟨destinationOut, netmaskOut⟩ := out
    have hlt : n < 32 := hn
    rw [commonPrefixLoop]
    simp only [and_twoPow_eq hlt, and_twoPow_ne_zero hlt]
    by_cases hcommon : Common d₁ m₁ d₂ m₂ n
    · rw [if_pos (show d₁.getLsbD n = d₂.getLsbD n ∧ m₁.getLsbD n = true ∧ m₂.getLsbD n = true
        from hcommon)]
      obtain ⟨hmask, hdest⟩ := ih (Nat.le_of_succ_le hn)
        (destinationOut ||| (d₁ &&& BitVec.twoPow 32 n), netmaskOut ||| BitVec.twoPow 32 n)
      have hextend : (k < n ∧ ∀ l, k ≤ l → l < n → Common d₁ m₁ d₂ m₂ l) ∨ k = n ↔
          k < n + 1 ∧ ∀ l, k ≤ l → l < n + 1 → Common d₁ m₁ d₂ m₂ l := by
        constructor
        · rintro (⟨hk, hall⟩ | rfl)
          · refine ⟨Nat.lt_succ_of_lt hk, fun l hkl hl => ?_⟩
            rcases Nat.lt_succ_iff_lt_or_eq.mp hl with hl | rfl
            · exact hall l hkl hl
            · exact hcommon
          · refine ⟨Nat.lt_succ_self k, fun l hkl hl => ?_⟩
            obtain rfl := Nat.le_antisymm hkl (Nat.lt_succ_iff.mp hl)
            exact hcommon
        · rintro ⟨hk, hall⟩
          rcases Nat.lt_succ_iff_lt_or_eq.mp hk with hk | rfl
          · exact .inl ⟨hk, fun l hkl hl => hall l hkl (Nat.lt_succ_of_lt hl)⟩
          · exact .inr rfl
      have hbit : (BitVec.twoPow 32 n).getLsbD k = true ↔ k = n := by
        rw [BitVec.getLsbD_twoPow]
        simp [hlt, eq_comm]
      constructor
      · rw [hmask, ← hextend, BitVec.getLsbD_or, Bool.or_eq_true, hbit]
        exact or_assoc.trans (or_congr_right or_comm)
      · rw [hdest, ← hextend, BitVec.getLsbD_or, Bool.or_eq_true, BitVec.getLsbD_and,
          Bool.and_eq_true, hbit, and_or_left]
        exact or_assoc.trans (or_congr_right or_comm)
    · have hnone : ¬(k < n + 1 ∧ ∀ l, k ≤ l → l < n + 1 → Common d₁ m₁ d₂ m₂ l) := by
        rintro ⟨hk, hall⟩
        exact hcommon (hall n (Nat.lt_succ_iff.mp hk) (Nat.lt_succ_self n))
      rw [if_neg (show ¬(d₁.getLsbD n = d₂.getLsbD n ∧ m₁.getLsbD n = true ∧
        m₂.getLsbD n = true) from hcommon)]
      simp only [hnone, and_false, or_false, true_and]

/-- The bits of the netmask of a merged route. -/
def CommonTo (I J : RouteInfo) (k : ℕ) : Prop :=
  k < 32 ∧ ∀ l, k ≤ l → l < 32 → Common I.destination I.netmask J.destination J.netmask l

theorem netmask_mergedRoute : (mergedRoute routeInfoI routeInfoJ).netmask.getLsbD k = true ↔
    CommonTo routeInfoI routeInfoJ k := by
  refine (commonPrefixLoop_bits (Nat.le_refl 32) (0, 0) k).1.trans ?_
  simp [CommonTo]

theorem destination_mergedRoute : (mergedRoute routeInfoI routeInfoJ).destination.getLsbD k = true ↔
    routeInfoI.destination.getLsbD k = true ∧ CommonTo routeInfoI routeInfoJ k := by
  refine (commonPrefixLoop_bits (Nat.le_refl 32) (0, 0) k).2.trans ?_
  simp [CommonTo]

theorem contiguous_mergedRoute (routeInfoI routeInfoJ : RouteInfo) :
    Contiguous (mergedRoute routeInfoI routeInfoJ).netmask := by
  intro k l hkl hl hk
  obtain ⟨-, hall⟩ := netmask_mergedRoute.mp hk
  exact netmask_mergedRoute.mpr ⟨hl, fun n hln hn => hall n (hkl.trans hln) hn⟩

theorem inside_mergedRoute (routeInfoI routeInfoJ : RouteInfo) :
    Inside (mergedRoute routeInfoI routeInfoJ).destination
      (mergedRoute routeInfoI routeInfoJ).netmask :=
  fun _ hk => netmask_mergedRoute.mpr (destination_mergedRoute.mp hk).2

theorem within_left (routeInfoI routeInfoJ : RouteInfo) :
    Within (mergedRoute routeInfoI routeInfoJ).netmask routeInfoI.netmask := by
  intro k hk
  obtain ⟨hlt, hall⟩ := netmask_mergedRoute.mp hk
  exact (hall k (Nat.le_refl k) hlt).2.1

theorem within_right (routeInfoI routeInfoJ : RouteInfo) :
    Within (mergedRoute routeInfoI routeInfoJ).netmask routeInfoJ.netmask := by
  intro k hk
  obtain ⟨hlt, hall⟩ := netmask_mergedRoute.mp hk
  exact (hall k (Nat.le_refl k) hlt).2.2

theorem matches_destination_left (routeInfoI routeInfoJ : RouteInfo) :
    Matches (mergedRoute routeInfoI routeInfoJ).destination
      (mergedRoute routeInfoI routeInfoJ).netmask routeInfoI.destination := by
  rw [matches_iff]
  intro k hk
  have hcommon := netmask_mergedRoute.mp hk
  rw [Bool.eq_iff_iff, destination_mergedRoute]
  simp [hcommon]

theorem matches_destination_right (routeInfoI routeInfoJ : RouteInfo) :
    Matches (mergedRoute routeInfoI routeInfoJ).destination
      (mergedRoute routeInfoI routeInfoJ).netmask routeInfoJ.destination := by
  rw [matches_iff]
  intro k hk
  have hcommon := netmask_mergedRoute.mp hk
  have hsame := (hcommon.2 k (Nat.le_refl k) hcommon.1).1
  rw [Bool.eq_iff_iff, destination_mergedRoute, hsame]
  simp [hcommon]

theorem matches_mergedRoute_left (h : Matches routeInfoI.destination routeInfoI.netmask x) :
    Matches (mergedRoute routeInfoI routeInfoJ).destination
      (mergedRoute routeInfoI routeInfoJ).netmask x :=
  h.trans (within_left routeInfoI routeInfoJ) (matches_destination_left routeInfoI routeInfoJ)

theorem matches_mergedRoute_right (h : Matches routeInfoJ.destination routeInfoJ.netmask x) :
    Matches (mergedRoute routeInfoI routeInfoJ).destination
      (mergedRoute routeInfoI routeInfoJ).netmask x :=
  h.trans (within_right routeInfoI routeInfoJ) (matches_destination_right routeInfoI routeInfoJ)

/-- The network of a route that contains the other one is the merged network. -/
theorem netmask_mergedRoute_of_contains (hcontiguous : Contiguous routeInfoI.netmask)
    (hwithin : Within routeInfoI.netmask routeInfoJ.netmask)
    (hmatch : Matches routeInfoI.destination routeInfoI.netmask routeInfoJ.destination) :
    (mergedRoute routeInfoI routeInfoJ).netmask = routeInfoI.netmask := by
  apply (within_left routeInfoI routeInfoJ).antisymm
  intro k hk
  refine netmask_mergedRoute.mpr ⟨BitVec.lt_of_getLsbD hk, fun l hkl hl => ?_⟩
  have hl := hcontiguous k l hkl hl hk
  exact ⟨(matches_iff.mp hmatch l hl).symm, hl, hwithin l hl⟩

theorem destination_mergedRoute_of_contains (hcontiguous : Contiguous routeInfoI.netmask)
    (hinside : Inside routeInfoI.destination routeInfoI.netmask)
    (hwithin : Within routeInfoI.netmask routeInfoJ.netmask)
    (hmatch : Matches routeInfoI.destination routeInfoI.netmask routeInfoJ.destination) :
    (mergedRoute routeInfoI routeInfoJ).destination = routeInfoI.destination := by
  have hmask := netmask_mergedRoute_of_contains hcontiguous hwithin hmatch
  have hleft := matches_destination_left routeInfoI routeInfoJ
  have hmerged := inside_mergedRoute routeInfoI routeInfoJ
  rw [hmask] at hleft hmerged
  exact (hinside.eq hmerged hleft).symm

theorem merged_after (hinside : Inside routeInfoI.destination routeInfoI.netmask) :
    routeInfoLessThan (mergedRoute routeInfoI routeInfoJ) routeInfoI = false := by
  have hle := (within_left routeInfoI routeInfoJ).le
  rw [routeInfoLessThan]
  split
  · exact decide_eq_false (BitVec.not_lt.mpr hle)
  · next hmask =>
    have hmask := not_not.mp hmask
    have hleft := matches_destination_left routeInfoI routeInfoJ
    have hmerged := inside_mergedRoute routeInfoI routeInfoJ
    rw [hmask] at hleft hmerged
    rw [hinside.eq hmerged hleft]
    exact decide_eq_false (BitVec.lt_irrefl _)

end IPv4NetworkConfigurator

end inet

import LoRaInet.NetworkLayer.Configurator.OptimizeRoutes.Bookkeeping

open omnetpp addressing

namespace inet.IPv4NetworkConfigurator

variable {A B C D S T R routeInfos merged : List RouteInfo} {I J r F X : RouteInfo}
  {o : OriginalRouteInfo} {os originals : List OriginalRouteInfo} {x : IPv4Address}
  {Q : ℕ → OriginalRouteInfo → Prop} {i j : ℕ}

/-- No route before matches. -/
def Never (_ : ℕ) (_ : OriginalRouteInfo) : Prop := False

theorem checkOriginalRoutes_eq_ok : checkOriginalRoutes routeInfos originals = .ok () ↔
    ∀ o ∈ originals, (firstMatch routeInfos o.destination).map (·.color) = some o.color := by
  unfold checkOriginalRoutes
  rw [assert_eq_ok]
  refine forall₂_congr fun o _ => ?_
  have hcolor := findBest_colorAt [] routeInfos [] o.destination
  rw [List.nil_append, List.append_nil, List.length_nil, Nat.zero_add] at hcolor
  rw [hcolor]

theorem Bookkeeping.check (hbook : Bookkeeping Q originals routeInfos)
    (hQ : ∀ color o, Q color o → color = o.color) :
    checkOriginalRoutes routeInfos originals = .ok () := by
  rw [checkOriginalRoutes_eq_ok]
  intro o ho
  obtain ⟨F, hF, hmem⟩ := List.mem_flatMap.mp (hbook.conserved.mem_iff.mpr ho)
  obtain ⟨S, T, rfl⟩ := List.append_of_mem hF
  obtain ⟨hmatch, hcolor, hbefore⟩ := (attached_append.mp hbook.attached).2.1 o hmem
  rw [firstMatch_append]
  cases hfirst : firstMatch S o.destination with
  | none =>
    rw [firstMatch_cons, hmatch]
    exact congrArg some hcolor
  | some r =>
    obtain ⟨hr, hmatch⟩ := matches_of_firstMatch hfirst
    exact congrArg some (hQ r.color o (hbefore r hr hmatch))

/-- An original route as a route of the table. -/
def initialRoute (o : OriginalRouteInfo) : RouteInfo :=
  ⟨o.color, true, o.destination, o.netmask, [o]⟩

/-- Netmasks are contiguous and destinations have no bits outside them. -/
def WellFormed (originals : List OriginalRouteInfo) : Prop :=
  ∀ o ∈ originals, Contiguous o.netmask ∧ Inside o.destination o.netmask
deriving Decidable

theorem mem_candidates {size : ℕ} : (i, j) ∈ candidates size ↔ j < i ∧ i < size := by
  unfold candidates
  simp only [List.mem_flatMap, List.mem_range, List.mem_map, List.mem_reverse, Prod.mk.injEq]
  constructor
  · rintro ⟨a, ha, b, hb, rfl, rfl⟩
    exact ⟨hb, ha⟩
  · rintro ⟨hji, hi⟩
    exact ⟨i, hi, j, hji, rfl, rfl⟩

/-- The routes at the indexes are merged when it is tried. -/
def Merges (routeInfos : List RouteInfo) (i j : ℕ) : Prop :=
  ∃ I J merged, routeInfos[i]? = some I ∧ routeInfos[j]? = some J ∧
    canBeMerged routeInfos i j I J = true ∧
    tryToMergeTwoRoutes routeInfos i j I J = .ok (true, merged)

/-- The loops try to merge the routes at the indexes: nothing before them is merged. -/
structure Attempted (routeInfos : List RouteInfo) (i j : ℕ) (I J : RouteInfo) : Prop where
  earlier : ∃ before after, candidates routeInfos.length = before ++ (i, j) :: after ∧
    ∀ p ∈ before, ¬Merges routeInfos p.1 p.2
  routeI : routeInfos[i]? = some I
  routeJ : routeInfos[j]? = some J
  canBeMerged : canBeMerged routeInfos i j I J = true

/-- The tables that the main loop comes to. -/
inductive Reachable (initial : List RouteInfo) : List RouteInfo → Prop where
  | initial : Reachable initial initial
  | merge {routeInfos merged : List RouteInfo} {i j : ℕ} {I J : RouteInfo}
      (h : Reachable initial routeInfos) (hattempted : Attempted routeInfos i j I J)
      (hmerged : tryToMergeTwoRoutes routeInfos i j I J = .ok (true, merged)) :
      Reachable initial merged

theorem exists_split {k : ℕ} (h : S[k]? = some r) : ∃ A T, S = A ++ r :: T ∧ A.length = k := by
  obtain ⟨hk, rfl⟩ := List.getElem?_eq_some_iff.mp h
  refine ⟨S.take k, S.drop (k + 1), ?_, List.length_take_of_le hk.le⟩
  rw [← List.drop_eq_getElem_cons hk, List.take_append_drop]

theorem exists_parts (hji : j < i) (hI : routeInfos[i]? = some I) (hJ : routeInfos[j]? = some J) :
    ∃ A B R, routeInfos = A ++ J :: (B ++ I :: R) ∧ j = A.length ∧ i = A.length + 1 + B.length := by
  obtain ⟨A, T, rfl, rfl⟩ := exists_split hJ
  obtain ⟨k, rfl⟩ : ∃ k, i = A.length + 1 + k := ⟨i - (A.length + 1), by omega⟩
  have hT : T[k]? = some I := by
    rw [List.getElem?_append_right (by omega)] at hI
    have hindex : A.length + 1 + k - A.length = k + 1 := by omega
    rwa [hindex, List.getElem?_cons_succ] at hI
  obtain ⟨B, R, rfl, rfl⟩ := exists_split hT
  exact ⟨A, B, R, rfl, rfl, rfl⟩

theorem canBeMerged_color (h : canBeMerged routeInfos i j I J = true) : I.color = J.color := by
  rw [canBeMerged, Bool.and_eq_true, decide_eq_true_eq] at h
  exact h.1

end inet.IPv4NetworkConfigurator

import LoRaInet.NetworkLayer.Configurator.OptimizeRoutes.Loop

open omnetpp addressing

namespace inet

namespace IPv4NetworkConfigurator

variable {A B C D S R routeInfos merged : List RouteInfo} {I J T r F X : RouteInfo}
  {o : OriginalRouteInfo} {originals : List OriginalRouteInfo} {x : IPv4Address} {i j : ℕ}
  {Q : ℕ → OriginalRouteInfo → Prop}

theorem matches_iff_of_enabled (h : r.enabled = true) :
    r.matches x = true ↔ Matches r.destination r.netmask x := by
  rw [RouteInfo.matches, h, Bool.true_and, decide_eq_true_eq]

theorem matches_of_matches (h : r.matches x = true) : Matches r.destination r.netmask x := by
  rw [RouteInfo.matches, Bool.and_eq_true, decide_eq_true_eq] at h
  exact h.2

/-- Routes that share an address and can be swapped have one color. -/
theorem color_of_swappable (h : routesCanBeSwapped J X = true) (hJ : J.matches x = true)
    (hX : X.matches x = true) : J.color = X.color := by
  by_contra hne
  rw [routesCanBeSwapped, if_neg hne, decide_eq_true_eq] at h
  apply h
  have hJ := matches_iff.mp (matches_of_matches hJ)
  have hX := matches_iff.mp (matches_of_matches hX)
  apply BitVec.eq_of_getLsbD_eq
  intro k _
  simp only [BitVec.getLsbD_and]
  cases hk : J.netmask.getLsbD k with
  | false => simp
  | true =>
    cases hl : X.netmask.getLsbD k with
    | false => simp
    | true => rw [← hJ k hk, ← hX k hl]

theorem canBeMerged_iff :
    canBeMerged (A ++ J :: (B ++ I :: R)) (A.length + 1 + B.length) A.length I J = true ↔
      I.color = J.color ∧ ∀ X ∈ B, routesCanBeSwapped J X = true := by
  have hmin : min (A.length + 1 + B.length) A.length = A.length := by omega
  have hmax : max (A.length + 1 + B.length) A.length = A.length + 1 + B.length := by omega
  have hJ : (A ++ J :: (B ++ I :: R))[A.length]? = some J := by
    rw [List.getElem?_append_right (Nat.le_refl _), Nat.sub_self]
    rfl
  have hrange := range_eq (A ++ [J]) B (I :: R)
  rw [length_betweenJ] at hrange
  have hsplit : A ++ J :: (B ++ I :: R) = A ++ [J] ++ B ++ I :: R := by simp
  rw [canBeMerged, Bool.and_eq_true, decide_eq_true_eq, routesCanBeNeighbors, hmin, hmax, hJ]
  simp only
  rw [hsplit, hrange, List.all_eq_true]

theorem earlier_of_lt {before after : List (ℕ × ℕ)} {size a b : ℕ}
    (hsplit : candidates size = before ++ (i, j) :: after) (hba : b < a) (ha : a < i)
    (hi : i < size) : (a, b) ∈ before := by
  have hmem : (a, b) ∈ candidates size := mem_candidates.mpr ⟨hba, ha.trans hi⟩
  have hordered : (candidates size).Pairwise fun p q => p.1 ≤ q.1 := by
    unfold candidates
    rw [List.pairwise_flatMap]
    refine ⟨fun c _ => ?_, ?_⟩
    · rw [List.pairwise_map]
      exact List.pairwise_of_forall fun _ _ => Nat.le_refl c
    · refine List.pairwise_lt_range.imp fun {c d} hcd p hp q hq => ?_
      obtain ⟨_, -, rfl⟩ := List.mem_map.mp hp
      obtain ⟨_, -, rfl⟩ := List.mem_map.mp hq
      exact hcd.le
  rw [hsplit] at hmem hordered
  rcases List.mem_append.mp hmem with hbefore | hlater
  · exact hbefore
  · rcases List.mem_cons.mp hlater with heq | hafter
    · obtain ⟨rfl, rfl⟩ := Prod.mk.inj heq
      exact absurd ha (Nat.lt_irrefl a)
    · have hle := (List.pairwise_cons.mp (List.pairwise_append.mp hordered).2.1).1 _ hafter
      exact absurd ha (not_lt.mpr hle)

theorem firstMatch_none_of_not (h : ∀ r ∈ S, ¬r.matches x = true) : firstMatch S x = none :=
  firstMatch_eq_none.mpr fun r hr => Bool.eq_false_iff.mpr (h r hr)

/-- The table with both routes disabled matches like the one without them. -/
theorem firstMatch_replaced :
    firstMatch (replaced A B C D I J) x = firstMatch (A ++ (B ++ (C ++ mergedRoute I J :: D))) x := by
  unfold replaced
  rw [firstMatch_disabled, ← List.append_assoc, firstMatch_disabled, List.append_assoc]

/-- Where no route in between matches what is attached to the first one, the checks accept
a merge when all original routes keep their color. -/
theorem mergeable_iff_check (hbook : Bookkeeping Never originals (A ++ J :: (B ++ I :: (C ++ D))))
    (hbetween : ∀ o ∈ J.originalRouteInfos, ∀ X ∈ B, ¬X.matches o.destination = true)
    (hmerged : Mergeable B C D I J → ∃ merged, Bookkeeping Never originals merged ∧
      merged.map RouteInfo.bare = (A ++ (B ++ (C ++ mergedRoute I J :: D))).map RouteInfo.bare) :
    Mergeable B C D I J ↔ checkOriginalRoutes (replaced A B C D I J) originals = .ok () := by
  have hmem : ∀ F ∈ A ++ J :: (B ++ I :: (C ++ D)), ∀ o ∈ F.originalRouteInfos, o ∈ originals := by
    intro F hF o ho
    exact hbook.conserved.mem_iff.mp (List.mem_flatMap.mpr ⟨F, hF, ho⟩)
  constructor
  · intro hmergeable
    obtain ⟨merged, hbook', hbare⟩ := hmerged hmergeable
    have hcheck := hbook'.check fun color o hnever => False.elim hnever
    rw [checkOriginalRoutes_eq_ok] at hcheck ⊢
    intro o ho
    rw [firstMatch_replaced, ← hcheck o ho]
    exact firstMatch_color_congr hbare.symm
  · intro hcheck
    rw [checkOriginalRoutes_eq_ok] at hcheck
    have hserved {F : RouteInfo} (hF : F ∈ A ++ J :: (B ++ I :: (C ++ D))) {o : OriginalRouteInfo}
        (ho : o ∈ F.originalRouteInfos) (hA : ∀ X ∈ A, ¬X.matches o.destination = true)
        (hB : ∀ X ∈ B, ¬X.matches o.destination = true) :
        (firstMatch (C ++ mergedRoute I J :: D) o.destination).map (·.color) = some o.color := by
      have hfirst := hcheck o (hmem F hF o ho)
      rwa [firstMatch_replaced, firstMatch_append, firstMatch_none_of_not hA, Option.none_or,
        firstMatch_append, firstMatch_none_of_not hB, Option.none_or] at hfirst
    have hafter {o : OriginalRouteInfo} (hfirst :
        (firstMatch (C ++ mergedRoute I J :: D) o.destination).map (·.color) = some o.color) :
        ¬Interrupts C o := by
      rintro ⟨r, hr, hne⟩
      rw [firstMatch_append, hr, Option.some_or] at hfirst
      exact hne (Option.some.inj hfirst)
    have hI := serves_I hbook.attached
    have hJ := serves_J hbook.attached
    refine ⟨fun o ho => ?_, fun o ho => ?_, fun o ho => ?_, fun F hF o ho hmatch => ?_⟩
    · rintro ⟨r, hr, -⟩
      obtain ⟨hmemr, hmatch⟩ := matches_of_firstMatch hr
      exact hbetween o ho r hmemr hmatch
    · apply hafter
      apply hserved (F := J) (by simp) ho
      · exact fun X hX => (hJ o ho).2.2 X hX
      · exact hbetween o ho
    · apply hafter
      apply hserved (F := I) (by simp) ho
      · exact fun X hX => (hI o ho).2.2 X (by simp [hX])
      · exact fun X hX => (hI o ho).2.2 X (by simp [hX])
    · obtain ⟨S, T, rfl⟩ := List.append_of_mem hF
      have hbefore := ((attached_append.mp (attached_D hbook.attached)).2.1 o ho).2.2
      have hfirst := hserved (F := F) (by simp) ho
        (fun X hX => hbefore X (by simp [hX])) (fun X hX => hbefore X (by simp [hX]))
      have hC : ∀ X ∈ C, ¬X.matches o.destination = true := fun X hX => hbefore X (by simp [hX])
      rw [firstMatch_append, firstMatch_none_of_not hC, Option.none_or, firstMatch_cons, hmatch,
        if_pos rfl] at hfirst
      exact Option.some.inj hfirst

/-- The routes between one and a route of the same network are of this network. -/
theorem network_of_between (hsorted : Sorted (S ++ setEnabled false I :: (C ++ r :: D)))
    (hmask : r.netmask = I.netmask) (hdest : r.destination = I.destination) (hX : X ∈ C) :
    X.netmask = I.netmask ∧ X.destination = I.destination := by
  have htail := List.pairwise_cons.mp (List.pairwise_append.mp hsorted).2.1
  have hfirst := htail.1 X (List.mem_append_left _ hX)
  have hlast := (List.pairwise_append.mp htail.2).2.2 X hX r (.head _)
  rw [precedes_iff] at hfirst hlast
  rw [hmask, hdest] at hlast
  change X.netmask.toNat < I.netmask.toNat ∨ I.netmask.toNat = X.netmask.toNat ∧
    I.destination.toNat ≤ X.destination.toNat at hfirst
  constructor
  · apply BitVec.eq_of_toNat_eq
    omega
  · apply BitVec.eq_of_toNat_eq
    omega

/-- A route in between that matches what is attached to the first one contains its network. -/
theorem contains_of_matches (hbook : Bookkeeping Q originals (A ++ J :: (B ++ T :: R)))
    (hJ : J.matches x = true) (hT : T.matches x = true) :
    Within T.netmask J.netmask ∧ Matches T.destination T.netmask J.destination := by
  have hsorted := (List.pairwise_append.mp hbook.sorted).2.1
  have hprecedes := (List.pairwise_cons.mp hsorted).1 T (by simp)
  have hle : T.netmask ≤ J.netmask := by
    rw [precedes_iff] at hprecedes
    rw [BitVec.le_def]
    omega
  have hwithin := (hbook.contiguous T (by simp)).within_of_le (hbook.contiguous J (by simp)) hle
  exact ⟨hwithin, Matches.of_common hwithin (matches_of_matches hJ) (matches_of_matches hT)⟩

/-- The first route is merged with a route in between that contains its network. -/
theorem mergeable_between (hbook : Bookkeeping Never originals (A ++ J :: (S ++ T :: (C ++ D))))
    (hsorted : Sorted (replaced A S C D T J)) (ho : o ∈ J.originalRouteInfos)
    (hmatch : T.matches o.destination = true)
    (hswap : ∀ X ∈ S ++ T :: B, routesCanBeSwapped J X = true) (hcolor : I.color = J.color)
    (hC : ∀ X ∈ C.head?, X ∈ B ∨ X = I) : Mergeable S C D T J := by
  have hserves := serves_J hbook.attached
  obtain ⟨hwithin, hcontains⟩ := contains_of_matches hbook (hserves o ho).1 hmatch
  have hmask := netmask_mergedRoute_of_contains (hbook.contiguous T (by simp)) hwithin hcontains
  have hdest := destination_mergedRoute_of_contains (hbook.contiguous T (by simp))
    (hbook.inside T (by simp)) hwithin hcontains
  have henabled : T.enabled = true := hbook.enabled T (by simp)
  have hTJ : J.color = T.color :=
    color_of_swappable (hswap T (by simp)) (hserves o ho).1 hmatch
  have hnetwork : ∀ X ∈ C, X.netmask = T.netmask ∧ X.destination = T.destination := by
    intro X hX
    unfold replaced at hsorted
    rw [← List.cons_append, ← List.append_assoc] at hsorted
    exact network_of_between hsorted hmask hdest hX
  have hsame {X : RouteInfo} (hX : X ∈ C) (y : IPv4Address) : X.matches y = T.matches y := by
    obtain ⟨hXmask, hXdest⟩ := hnetwork X hX
    have hXenabled : X.enabled = true := hbook.enabled X (by simp [hX])
    rw [RouteInfo.matches, RouteInfo.matches, hXmask, hXdest, hXenabled, henabled]
  -- the first route after the one in between is of this network, and so of the color
  have hfirst {y : IPv4Address} {r : RouteInfo} (hr : firstMatch C y = some r) :
      r.color = J.color := by
    cases C with
    | nil => cases hr
    | cons Y C =>
      obtain ⟨hmem, hry⟩ := matches_of_firstMatch hr
      rw [firstMatch_cons, hsame (.head _), ← hsame hmem, hry, if_pos rfl] at hr
      obtain rfl := Option.some.inj hr
      rcases hC Y rfl with hB | rfl
      · have hYmatch : Y.matches o.destination = true :=
          (hsame (.head _) o.destination).trans hmatch
        exact (color_of_swappable (hswap Y (by simp [hB])) (hserves o ho).1 hYmatch).symm
      · exact hcolor
  refine ⟨fun p hp => ?_, fun p hp => ?_, fun p hp => ?_, fun F hF p hp hmerged => ?_⟩
  · rintro ⟨r, hr, hne⟩
    obtain ⟨hmem, hmatch⟩ := matches_of_firstMatch hr
    obtain ⟨hpmatch, hpcolor, -⟩ := hserves p hp
    have hrcolor := color_of_swappable (hswap r (by simp [hmem])) hpmatch hmatch
    exact hne (hrcolor.symm.trans hpcolor)
  · rintro ⟨r, hr, hne⟩
    exact hne ((hfirst hr).trans (hserves p hp).2.1)
  · rintro ⟨r, hr, hne⟩
    exact hne (((hfirst hr).trans hTJ).trans (serves_I hbook.attached p hp).2.1)
  · obtain ⟨U, V, rfl⟩ := List.append_of_mem hF
    have hbefore := ((attached_append.mp (attached_D hbook.attached)).2.1 p hp).2.2
    have hTmatch : T.matches p.destination = true := by
      rw [matches_iff_of_enabled henabled, ← hmask, ← hdest]
      exact matches_of_matches hmerged
    exact False.elim (hbefore T (by simp) hTmatch)

/-- When a merge is tried, no route in between matches what is attached to the first one:
the first one would have been merged with it before. -/
theorem Attempted.not_matches
    (hattempted : Attempted routeInfos (A.length + 1 + B.length) A.length I J)
    (hparts : routeInfos = A ++ J :: (B ++ I :: R)) (hbook : Bookkeeping Never originals routeInfos) :
    ∀ o ∈ J.originalRouteInfos, ∀ X ∈ B, ¬X.matches o.destination = true := by
  intro o ho T hT hmatch
  subst hparts
  obtain ⟨before, after, hcandidates, hearlier⟩ := hattempted.earlier
  have hcan := hattempted.canBeMerged
  have hswap := (canBeMerged_iff.mp hcan).2
  obtain ⟨S, U, rfl⟩ := List.append_of_mem hT
  have hsplit : A ++ J :: (S ++ T :: U ++ I :: R) = A ++ J :: (S ++ T :: (U ++ I :: R)) := by simp
  rw [hsplit] at hbook hearlier hcandidates
  have hserves := serves_J (I := T) (C := U ++ I :: R) (D := []) (by simpa using hbook.attached) o ho
  have hTJ : T.color = J.color := (color_of_swappable (hswap T hT) hserves.1 hmatch).symm
  have hmem : (A.length + 1 + S.length, A.length) ∈ before := by
    apply earlier_of_lt hcandidates
    · omega
    · simp only [List.length_append, List.length_cons]
      omega
    · simp only [List.length_append, List.length_cons]
      omega
  apply hearlier _ hmem
  obtain ⟨C, D, hCD, -, hsorted, hresult⟩ := hbook.merge hTJ
  have hhead : ∀ X ∈ C.head?, X ∈ U ∨ X = I := by
    intro X hX
    cases C with
    | nil => cases hX
    | cons Y C =>
      cases hX
      cases U with
      | nil => exact .inr (List.cons.inj hCD).1.symm
      | cons Z U =>
        rw [← (List.cons.inj hCD).1]
        exact .inl (.head _)
  have hmergeable : Mergeable S C D T J :=
    mergeable_between (hCD ▸ hbook) hsorted ho hmatch hswap (canBeMerged_color hcan) hhead
  rcases hresult with ⟨hnot, -⟩ | ⟨-, merged, htry, -⟩
  · exact absurd hmergeable hnot
  · refine ⟨T, J, merged, ?_, ?_, ?_, htry⟩
    · rw [List.getElem?_append_right (by omega)]
      have hindex : A.length + 1 + S.length - A.length = S.length + 1 := by omega
      rw [hindex, List.getElem?_cons_succ, List.getElem?_append_right (Nat.le_refl _), Nat.sub_self]
      rfl
    · rw [List.getElem?_append_right (Nat.le_refl _), Nat.sub_self]
      rfl
    · exact canBeMerged_iff.mpr ⟨hTJ, fun X hX => hswap X (List.mem_append_left _ hX)⟩

end IPv4NetworkConfigurator

namespace IPv4NetworkConfigurator

variable {S T routeInfos : List RouteInfo} {I J X F : RouteInfo} {o p q : OriginalRouteInfo}
  {originals : List OriginalRouteInfo} {i j : ℕ}

/-- Each original route is attached to one route, the first that matches its destination,
which has its color. -/
structure Kept (originals : List OriginalRouteInfo) (routeInfos : List RouteInfo) : Prop where
  sorted : Sorted routeInfos
  enabled : ∀ r ∈ routeInfos, r.enabled = true
  conserved : (attachedRoutes routeInfos).Perm originals
  first : ∀ S F T, routeInfos = S ++ F :: T → ∀ o ∈ F.originalRouteInfos,
    F.matches o.destination = true ∧ F.color = o.color ∧ ∀ X ∈ S, X.matches o.destination = false

theorem Bookkeeping.kept (hbook : Bookkeeping Never originals routeInfos) :
    Kept originals routeInfos := by
  refine ⟨hbook.sorted, hbook.enabled, hbook.conserved, ?_⟩
  rintro S F T rfl o ho
  obtain ⟨hmatch, hcolor, hbefore⟩ := (attached_append.mp hbook.attached).2.1 o ho
  exact ⟨hmatch, hcolor, fun X hX => Bool.eq_false_iff.mpr (hbefore X hX)⟩

theorem Attempted.result (hattempted : Attempted routeInfos i j I J)
    (hbook : Bookkeeping Never originals routeInfos) :
    (tryToMergeTwoRoutes routeInfos i j I J = .ok (false, routeInfos) ∨
      ∃ merged, tryToMergeTwoRoutes routeInfos i j I J = .ok (true, merged)) ∧
    ((∃ merged, tryToMergeTwoRoutes routeInfos i j I J = .ok (true, merged)) ↔
      checkOriginalRoutes (replaceRoutes routeInfos i j I J).1 originals = .ok ()) := by
  obtain ⟨before, after, hcandidates, -⟩ := hattempted.earlier
  have hmem : (i, j) ∈ candidates routeInfos.length := by
    rw [hcandidates]
    simp
  obtain ⟨A, B, R, hparts, rfl, rfl⟩ :=
    exists_parts (mem_candidates.mp hmem).1 hattempted.routeI hattempted.routeJ
  have hcolor := canBeMerged_color hattempted.canBeMerged
  have hbetween := hattempted.not_matches hparts hbook
  subst hparts
  obtain ⟨C, D, rfl, hreplace, -, hresult⟩ := hbook.merge hcolor
  rw [hreplace]
  rcases hresult with ⟨hnot, htry⟩ | ⟨hmergeable, merged, htry, hmerged, hbare⟩
  · have hcheck := mergeable_iff_check hbook hbetween fun h => absurd h hnot
    rw [htry, ← hcheck]
    refine ⟨.inl rfl, ⟨?_, fun h => absurd h hnot⟩⟩
    rintro ⟨merged, hmerged⟩
    cases hmerged
  · have hcheck := mergeable_iff_check hbook hbetween fun _ => ⟨merged, hmerged, hbare⟩
    rw [htry, ← hcheck]
    exact ⟨.inr ⟨merged, rfl⟩, ⟨fun _ => hmergeable, fun _ => ⟨merged, rfl⟩⟩⟩

end IPv4NetworkConfigurator

end inet

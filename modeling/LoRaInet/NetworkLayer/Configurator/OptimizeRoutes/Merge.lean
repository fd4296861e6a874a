import LoRaInet.NetworkLayer.Configurator.OptimizeRoutes.Attach

open omnetpp addressing

namespace inet.IPv4NetworkConfigurator

variable {A B C D S T R routeInfos : List RouteInfo} {I J M r : RouteInfo} {o : OriginalRouteInfo}
  {os originals : List OriginalRouteInfo} {x : IPv4Address}

theorem sorted_enable : Sorted (S.map (setEnabled true)) ↔ Sorted S := List.pairwise_map

theorem sorted_congr (h : S.map (setEnabled true) = T.map (setEnabled true)) :
    Sorted S ↔ Sorted T := by
  rw [← sorted_enable, h, sorted_enable]

theorem modify_length (A T : List RouteInfo) (r : RouteInfo) (f : RouteInfo → RouteInfo) :
    (A ++ r :: T).modify A.length f = A ++ f r :: T :=
  modify_append_right A (r :: T) 0 f

theorem eraseIdx_length (A T : List RouteInfo) (r : RouteInfo) :
    (A ++ r :: T).eraseIdx A.length = A ++ T := by
  rw [List.eraseIdx_append_of_length_le (Nat.le_refl _), Nat.sub_self]
  rfl

theorem matches_setEnabled_false : (setEnabled false r).matches x = false := rfl

theorem attachFirst_disabled (o : OriginalRouteInfo) (B T : List RouteInfo) (r : RouteInfo) :
    ∃ B' T', attachFirst o (B ++ setEnabled false r :: T) = B' ++ setEnabled false r :: T' ∧
      attachFirst o (B ++ T) = B' ++ T' ∧ B'.length = B.length ∧ T'.length = T.length := by
  induction B with
  | nil => exact ⟨[], attachFirst o T, rfl, rfl, rfl, length_attachFirst⟩
  | cons b B ih =>
    simp only [List.cons_append, attachFirst]
    cases b.matches o.destination with
    | true => exact ⟨attach o b :: B, T, rfl, rfl, rfl, rfl⟩
    | false =>
      obtain ⟨B', T', hdisabled, hrest, hB, hT⟩ := ih
      refine ⟨b :: B', T', ?_, ?_, congrArg Nat.succ hB, hT⟩
      · exact congrArg (b :: ·) hdisabled
      · exact congrArg (b :: ·) hrest

theorem attachAll_disabled (os : List OriginalRouteInfo) (B T : List RouteInfo) (r : RouteInfo) :
    ∃ B' T', attachAll (B ++ setEnabled false r :: T) os = B' ++ setEnabled false r :: T' ∧
      attachAll (B ++ T) os = B' ++ T' ∧ B'.length = B.length ∧ T'.length = T.length := by
  induction os generalizing B T with
  | nil => exact ⟨B, T, rfl, rfl, rfl, rfl⟩
  | cons o os ih =>
    obtain ⟨B₁, T₁, hdisabled, hrest, hB, hT⟩ := attachFirst_disabled o B T r
    obtain ⟨B₂, T₂, hdisabled₂, hrest₂, hB₂, hT₂⟩ := ih B₁ T₁
    refine ⟨B₂, T₂, ?_, ?_, hB₂.trans hB, hT₂.trans hT⟩
    · rw [← hdisabled₂, ← hdisabled]
      rfl
    · rw [← hrest₂, ← hrest]
      rfl

/-- The table in which both routes are disabled and the merged one is added. -/
theorem replaceRoutes_eq (hsorted : Sorted (A ++ J :: (B ++ I :: R)))
    (hinside : Inside I.destination I.netmask) : ∃ C D, R = C ++ D ∧
      replaceRoutes (A ++ J :: (B ++ I :: R)) (A.length + 1 + B.length) A.length I J =
        (A ++ setEnabled false J :: (B ++ setEnabled false I :: (C ++ mergedRoute I J :: D)),
          A.length + 1 + B.length + 1 + C.length) ∧
      Sorted (A ++ setEnabled false J :: (B ++ setEnabled false I :: (C ++ mergedRoute I J :: D))) := by
  have hdisable : ((A ++ J :: (B ++ I :: R)).modify (A.length + 1 + B.length)
      (setEnabled false)).modify A.length (setEnabled false) =
      (A ++ setEnabled false J :: B) ++ setEnabled false I :: R := by
    have hI := modify_length (A ++ J :: B) R I (setEnabled false)
    have hlength : (A ++ J :: B).length = A.length + 1 + B.length := by
      simp only [List.length_append, List.length_cons]
      omega
    rw [hlength, List.append_assoc, List.cons_append] at hI
    rw [hI, List.append_assoc, List.cons_append, modify_length, List.append_assoc]
    rfl
  have hsorted' : Sorted ((A ++ setEnabled false J :: B) ++ setEnabled false I :: R) := by
    refine (sorted_congr ?_).mp hsorted
    simp [setEnabled]
  have hafter : Precedes (setEnabled false I) (mergedRoute I J) := merged_after hinside
  obtain ⟨C, D, hR, hadd, hadded⟩ := addRouteInfo_after hsorted' hafter
  refine ⟨C, D, hR, ?_, ?_⟩
  · rw [replaceRoutes, hdisable, hadd]
    simp only [List.append_assoc, List.cons_append, List.length_append, List.length_cons]
    congr 1
    omega
  · simpa using hadded

/-- What is checked before a merge: no route in between interrupts an original route of
both, and the merged route none of those that follow. -/
structure Mergeable (B C D : List RouteInfo) (I J : RouteInfo) : Prop where
  between : ∀ o ∈ J.originalRouteInfos, ¬Interrupts B o
  afterJ : ∀ o ∈ J.originalRouteInfos, ¬Interrupts C o
  afterI : ∀ o ∈ I.originalRouteInfos, ¬Interrupts C o
  subsequent : ∀ F ∈ D, ∀ o ∈ F.originalRouteInfos,
    (mergedRoute I J).matches o.destination = true → (mergedRoute I J).color = o.color

/-- The table in which both routes are replaced, with its parts. -/
abbrev replaced (A B C D : List RouteInfo) (I J : RouteInfo) : List RouteInfo :=
  A ++ setEnabled false J :: (B ++ setEnabled false I :: (C ++ mergedRoute I J :: D))

theorem length_betweenJ (A : List RouteInfo) (r : RouteInfo) : (A ++ [r]).length = A.length + 1 := by
  simp

theorem length_afterI (A B : List RouteInfo) (r q : RouteInfo) :
    (A ++ r :: (B ++ [q])).length = A.length + 1 + B.length + 1 := by
  simp only [List.length_append, List.length_cons, List.length_nil]
  omega

theorem interruptsAny_between (A B C D : List RouteInfo) (I J : RouteInfo)
    (os : List OriginalRouteInfo) :
    interruptsAnyOriginalRoute (replaced A B C D I J) (A.length + 1) (A.length + 1 + B.length) os =
      true ↔ ∃ o ∈ os, Interrupts B o := by
  have hsplit : replaced A B C D I J = A ++ [setEnabled false J] ++ B ++
      setEnabled false I :: (C ++ mergedRoute I J :: D) := by simp
  rw [hsplit, ← length_betweenJ A (setEnabled false J), interruptsAny_iff]

theorem interruptsAny_after (A B C D : List RouteInfo) (I J : RouteInfo)
    (os : List OriginalRouteInfo) :
    interruptsAnyOriginalRoute (replaced A B C D I J) (A.length + 1 + B.length + 1)
      (A.length + 1 + B.length + 1 + C.length) os = true ↔ ∃ o ∈ os, Interrupts C o := by
  have hsplit : replaced A B C D I J = A ++ setEnabled false J :: (B ++ [setEnabled false I]) ++ C ++
      mergedRoute I J :: D := by simp
  rw [hsplit, ← length_afterI A B (setEnabled false J) (setEnabled false I), interruptsAny_iff]

theorem length_beforeM (A B C : List RouteInfo) (r q : RouteInfo) :
    (A ++ r :: (B ++ q :: C)).length = A.length + 1 + B.length + 1 + C.length := by
  simp only [List.length_append, List.length_cons]
  omega

theorem interruptsSubsequent_after (A B C D : List RouteInfo) (I J : RouteInfo) :
    interruptsSubsequentOriginalRoutes (replaced A B C D I J)
      (A.length + 1 + B.length + 1 + C.length) = true ↔ ∃ F ∈ D, ∃ o ∈ F.originalRouteInfos,
        (mergedRoute I J).matches o.destination = true ∧ (mergedRoute I J).color ≠ o.color := by
  have hsplit : replaced A B C D I J =
      A ++ setEnabled false J :: (B ++ setEnabled false I :: C) ++ mergedRoute I J :: D := by simp
  rw [hsplit, ← length_beforeM A B C (setEnabled false J) (setEnabled false I),
    interruptsSubsequent_iff]

theorem mergeable_iff (A B C D : List RouteInfo) (I J : RouteInfo) :
    (!interruptsAnyOriginalRoute (replaced A B C D I J) (A.length + 1) (A.length + 1 + B.length)
        J.originalRouteInfos &&
      !interruptsAnyOriginalRoute (replaced A B C D I J) (A.length + 1 + B.length + 1)
        (A.length + 1 + B.length + 1 + C.length) J.originalRouteInfos &&
      !interruptsAnyOriginalRoute (replaced A B C D I J) (A.length + 1 + B.length + 1)
        (A.length + 1 + B.length + 1 + C.length) I.originalRouteInfos &&
      !interruptsSubsequentOriginalRoutes (replaced A B C D I J)
        (A.length + 1 + B.length + 1 + C.length)) = true ↔ Mergeable B C D I J := by
  simp only [Bool.and_eq_true, Bool.not_eq_true', Bool.eq_false_iff, ne_eq, interruptsAny_between,
    interruptsAny_after, interruptsSubsequent_after, not_exists, not_and, not_not]
  constructor
  · rintro ⟨⟨⟨hbetween, hafterJ⟩, hafterI⟩, hsubsequent⟩
    exact ⟨hbetween, hafterJ, hafterI, hsubsequent⟩
  · intro h
    exact ⟨⟨⟨h.between, h.afterJ⟩, h.afterI⟩, h.subsequent⟩

theorem tryToMergeTwoRoutes_rejected
    (hreplace : replaceRoutes (A ++ J :: (B ++ I :: (C ++ D))) (A.length + 1 + B.length) A.length I J =
      (replaced A B C D I J, A.length + 1 + B.length + 1 + C.length))
    (hI : I.enabled = true) (hJ : J.enabled = true) (hrejected : ¬Mergeable B C D I J) :
    tryToMergeTwoRoutes (A ++ J :: (B ++ I :: (C ++ D))) (A.length + 1 + B.length) A.length I J =
      .ok (false, A ++ J :: (B ++ I :: (C ++ D))) := by
  have hassert : A.length + 1 + B.length + 1 + C.length > A.length + 1 + B.length ∧
      A.length + 1 + B.length + 1 + C.length > A.length := by omega
  rw [tryToMergeTwoRoutes, hreplace]
  simp only
  rw [assert_bind hassert, if_neg ((mergeable_iff A B C D I J).not.mpr hrejected)]
  have henableI : setEnabled true (setEnabled false I) = I := by
    cases I
    cases hI
    rfl
  have henableJ : setEnabled true (setEnabled false J) = J := by
    cases J
    cases hJ
    rfl
  have hrestore : ((replaced A B C D I J).modify (A.length + 1 + B.length) (setEnabled true)).modify
      A.length (setEnabled true) = A ++ J :: (B ++ I :: (C ++ mergedRoute I J :: D)) := by
    have hfirst := modify_length (A ++ setEnabled false J :: B) (C ++ mergedRoute I J :: D)
      (setEnabled false I) (setEnabled true)
    have hlength : (A ++ setEnabled false J :: B).length = A.length + 1 + B.length := by
      simp only [List.length_append, List.length_cons]
      omega
    rw [hlength, List.append_assoc, List.cons_append, henableI] at hfirst
    rw [hfirst, List.append_assoc, List.cons_append, modify_length, henableJ]
  have herase := eraseIdx_length (A ++ J :: (B ++ I :: C)) D (mergedRoute I J)
  rw [length_beforeM] at herase
  rw [hrestore]
  simp only [List.append_assoc, List.cons_append] at herase
  rw [herase]
  rfl

theorem firstMatch_of_not_interrupts (hS : ¬Interrupts S o)
    (hT : (firstMatch T o.destination).map (·.color) = some o.color) :
    (firstMatch (S ++ T) o.destination).map (·.color) = some o.color := by
  rw [firstMatch_append]
  cases hfirst : firstMatch S o.destination with
  | none => exact hT
  | some r =>
    by_contra hne
    exact hS ⟨r, hfirst, fun heq => hne (congrArg some heq)⟩

theorem firstMatch_singleton (hmatch : r.matches o.destination = true) (hcolor : r.color = o.color) :
    (firstMatch [r] o.destination).map (·.color) = some o.color := by
  rw [firstMatch_cons, hmatch]
  exact congrArg some hcolor

theorem firstMatch_disabled :
    firstMatch (S ++ setEnabled false r :: T) x = firstMatch (S ++ T) x := by
  rw [firstMatch_append, firstMatch_append, firstMatch_cons, matches_setEnabled_false]
  rfl

/-- The merged route takes over the original routes it captures. -/
def capture (moved : List OriginalRouteInfo) (r : RouteInfo) : RouteInfo :=
  { r with originalRouteInfos := r.originalRouteInfos ++ moved }

/-- The original routes of both are attached to routes in between and to the merged
route, which takes over some of those that follow. -/
theorem tryToMergeTwoRoutes_accepted
    (hreplace : replaceRoutes (A ++ J :: (B ++ I :: (C ++ D))) (A.length + 1 + B.length) A.length I J =
      (replaced A B C D I J, A.length + 1 + B.length + 1 + C.length))
    (hI : ∀ o ∈ I.originalRouteInfos,
      (firstMatch (C ++ [mergedRoute I J]) o.destination).map (·.color) = some o.color)
    (hJ : ∀ o ∈ J.originalRouteInfos,
      (firstMatch (B ++ (C ++ [mergedRoute I J])) o.destination).map (·.color) = some o.color)
    (haccepted : Mergeable B C D I J) : ∃ L N,
      attachAll (B ++ attachAll (C ++ [mergedRoute I J]) I.originalRouteInfos)
        J.originalRouteInfos = L ++ [N] ∧
      tryToMergeTwoRoutes (A ++ J :: (B ++ I :: (C ++ D))) (A.length + 1 + B.length) A.length I J =
        .ok (true, A ++ (L ++ capture (D.flatMap fun F =>
          F.originalRouteInfos.filter (captures (mergedRoute I J))) N ::
            D.map (keep fun o => !captures (mergedRoute I J) o))) := by
  have hassert : A.length + 1 + B.length + 1 + C.length > A.length + 1 + B.length ∧
      A.length + 1 + B.length + 1 + C.length > A.length := by omega
  -- the original routes of I go to the routes after it, up to the merged one
  obtain ⟨E, hE⟩ : ∃ E, attachAll (C ++ [mergedRoute I J]) I.originalRouteInfos = E := ⟨_, rfl⟩
  have haddI : addOriginalRouteInfos (replaced A B C D I J) (A.length + 1 + B.length + 1)
      (A.length + 1 + B.length + 1 + C.length + 1) I.originalRouteInfos =
      .ok (A ++ setEnabled false J :: (B ++ setEnabled false I :: (E ++ D))) := by
    have hadd := addOriginalRouteInfos_eq
      (A ++ setEnabled false J :: (B ++ [setEnabled false I])) D hI
    rw [hE, length_afterI, List.length_append] at hadd
    simpa [add_assoc] using hadd
  have hElength : E.length = C.length + 1 := by
    rw [← hE, length_attachAll, List.length_append]
    rfl
  have hEbare : E.map RouteInfo.bare = (C ++ [mergedRoute I J]).map RouteInfo.bare := by
    rw [← hE, bare_attachAll]
  -- those of J go to the routes after it, I being disabled
  have hJ' : ∀ o ∈ J.originalRouteInfos,
      (firstMatch (B ++ setEnabled false I :: E) o.destination).map (·.color) = some o.color := by
    intro o ho
    rw [firstMatch_disabled, ← hJ o ho]
    apply firstMatch_color_congr
    rw [List.map_append, List.map_append, hEbare]
  obtain ⟨B', E', hdisabled, hattached, hB', hE'⟩ :=
    attachAll_disabled J.originalRouteInfos B E I
  obtain ⟨C', N, rfl⟩ : ∃ C' N, E' = C' ++ [N] := by
    rcases List.eq_nil_or_concat E' with rfl | ⟨C', N, rfl⟩
    · rw [hElength] at hE'
      cases hE'
    · exact ⟨C', N, List.concat_eq_append⟩
  have hC' : C'.length = C.length := by
    rw [hElength, List.length_append] at hE'
    exact Nat.succ.inj hE'
  have haddJ : addOriginalRouteInfos (A ++ setEnabled false J :: (B ++ setEnabled false I :: (E ++ D)))
      (A.length + 1) (A.length + 1 + B.length + 1 + C.length + 1) J.originalRouteInfos =
      .ok (A ++ setEnabled false J :: (B' ++ setEnabled false I :: (C' ++ N :: D))) := by
    have hadd := addOriginalRouteInfos_eq (A ++ [setEnabled false J]) D hJ'
    have hlength : (B ++ setEnabled false I :: E).length = B.length + 1 + C.length + 1 := by
      simp only [List.length_append, List.length_cons, hElength]
      omega
    rw [hdisabled, length_betweenJ, hlength] at hadd
    simpa [add_assoc] using hadd
  -- and some of those that follow to the merged route
  have hmove := moveOriginalRouteInfos_eq (D := D) (r := mergedRoute I J)
    fun F hF o ho hcaptures => haccepted.subsequent F hF o ho
      (by rw [RouteInfo.matches, Bool.and_eq_true]; exact ⟨rfl, hcaptures⟩)
  refine ⟨B' ++ C', N, ?_, ?_⟩
  · rw [hE, hattached, List.append_assoc]
  rw [tryToMergeTwoRoutes, hreplace]
  simp only
  rw [assert_bind hassert, if_pos ((mergeable_iff A B C D I J).mpr haccepted), haddI]
  have hlength : (A ++ setEnabled false J :: (B' ++ setEnabled false I :: C')).length =
      A.length + 1 + B.length + 1 + C.length := by
    rw [length_beforeM, hB', hC']
  have hsplit : A ++ setEnabled false J :: (B' ++ setEnabled false I :: (C' ++ N :: D)) =
      (A ++ setEnabled false J :: (B' ++ setEnabled false I :: C')) ++ [N] ++ D := by simp
  have hdrop : (A ++ setEnabled false J :: (B' ++ setEnabled false I :: (C' ++ N :: D))).drop
      (A.length + 1 + B.length + 1 + C.length + 1) = D := by
    rw [hsplit, ← hlength, ← length_betweenJ _ N, List.drop_left]
  have htake : (A ++ setEnabled false J :: (B' ++ setEnabled false I :: (C' ++ N :: D))).take
      (A.length + 1 + B.length + 1 + C.length + 1) =
      (A ++ setEnabled false J :: (B' ++ setEnabled false I :: C')) ++ [N] := by
    rw [hsplit, ← hlength, ← length_betweenJ _ N, List.take_left]
  have hcapture (f : RouteInfo → RouteInfo) :
      ((A ++ setEnabled false J :: (B' ++ setEnabled false I :: C')) ++ [N]).modify
        (A.length + 1 + B.length + 1 + C.length) f =
      (A ++ setEnabled false J :: B') ++ setEnabled false I :: (C' ++ [f N]) := by
    rw [← hlength, modify_length]
    simp
  have herase (T : List RouteInfo) : (((A ++ setEnabled false J :: B') ++ setEnabled false I ::
      T).eraseIdx (A.length + 1 + B.length)).eraseIdx A.length = A ++ (B' ++ T) := by
    have hB : (A ++ setEnabled false J :: B').length = A.length + 1 + B.length := by
      simp only [List.length_append, List.length_cons, hB']
      omega
    rw [← hB, eraseIdx_length, List.append_assoc, List.cons_append, eraseIdx_length]
  change (addOriginalRouteInfos _ _ _ _ >>= _) = _
  rw [haddJ]
  change (moveOriginalRouteInfos _ (List.drop _ _) >>= _) = _
  rw [hdrop, hmove]
  change Except.ok (true, List.eraseIdx (List.eraseIdx (List.modify _ _ _ ++ _) _) _) = _
  rw [htake, hcapture, List.append_assoc, List.cons_append, herase]
  simp [capture]

end inet.IPv4NetworkConfigurator

import LoRaInet.NetworkLayer.Configurator.OptimizeRoutes.Merge

open omnetpp addressing

namespace inet.IPv4NetworkConfigurator

/-- What holds of the table between two merges. -/
structure Bookkeeping (Q : ℕ → OriginalRouteInfo → Prop) (originals : List OriginalRouteInfo)
    (routeInfos : List RouteInfo) : Prop where
  sorted : Sorted routeInfos
  enabled : ∀ r ∈ routeInfos, r.enabled = true
  contiguous : ∀ r ∈ routeInfos, Contiguous r.netmask
  inside : ∀ r ∈ routeInfos, Inside r.destination r.netmask
  attached : Attached Q [] routeInfos
  conserved : (attachedRoutes routeInfos).Perm originals

variable {A B C D E L S T R routeInfos : List RouteInfo} {I J M N r : RouteInfo}
  {o : OriginalRouteInfo} {os originals : List OriginalRouteInfo} {x : IPv4Address}
  {Q : ℕ → OriginalRouteInfo → Prop}

open RouteInfo

theorem sorted_bare : Sorted (S.map bare) ↔ Sorted S := List.pairwise_map

theorem exists_bare (h : S.map bare = T.map bare) (hr : r ∈ S) :
    ∃ q ∈ T, q.bare = r.bare := by
  have hmem := List.mem_map_of_mem (f := bare) hr
  rw [h] at hmem
  exact List.mem_map.mp hmem

theorem matches_mergedRoute_I (h : I.matches x = true) : (mergedRoute I J).matches x = true := by
  rw [RouteInfo.matches, Bool.and_eq_true, decide_eq_true_eq] at h ⊢
  exact ⟨rfl, matches_mergedRoute_left h.2⟩

theorem matches_mergedRoute_J (h : J.matches x = true) : (mergedRoute I J).matches x = true := by
  rw [RouteInfo.matches, Bool.and_eq_true, decide_eq_true_eq] at h ⊢
  exact ⟨rfl, matches_mergedRoute_right h.2⟩

section Merge

variable (hattached : Attached Q [] (A ++ J :: (B ++ I :: (C ++ D))))

include hattached

theorem serves_J : ∀ o ∈ J.originalRouteInfos, Serves Q A J o :=
  (attached_append.mp hattached).2.1

theorem serves_I : ∀ o ∈ I.originalRouteInfos, Serves Q (A ++ [J] ++ B) I o :=
  (attached_append.mp (attached_append.mp hattached).2.2).2.1

theorem attached_D : Attached Q (A ++ [J] ++ B ++ [I] ++ C) D :=
  (attached_append.mp (attached_append.mp (attached_append.mp hattached).2.2).2.2).2

/-- Without both routes the ones in between serve what is attached to them. -/
theorem attached_between : Attached Q A (B ++ (C ++ [mergedRoute I J])) := by
  have hB := (attached_append.mp (attached_append.mp hattached).2.2).1
  have hC := (attached_append.mp (attached_append.mp (attached_append.mp hattached).2.2).2.2).1
  refine attached_append.mpr ⟨hB.of_bare fun X hX => ?_, attached_append.mpr ⟨?_, ?_, trivial⟩⟩
  · exact ⟨X, List.mem_append_left [J] hX, rfl⟩
  · refine hC.of_bare fun X hX => ⟨X, ?_, rfl⟩
    rcases List.mem_append.mp hX with hX | hX
    · simp [hX]
    · simp [hX]
  · intro o ho
    cases ho

theorem attached_merged (haccepted : Mergeable B C D I J) (hI : ∀ o ∈ I.originalRouteInfos,
      (firstMatch (C ++ [mergedRoute I J]) o.destination).map (·.color) = some o.color)
    (hJ : ∀ o ∈ J.originalRouteInfos,
      (firstMatch (B ++ (C ++ [mergedRoute I J])) o.destination).map (·.color) = some o.color)
    (hLN : attachAll (B ++ attachAll (C ++ [mergedRoute I J]) I.originalRouteInfos)
      J.originalRouteInfos = L ++ [N]) :
    Attached Q [] (A ++ (L ++ capture (D.flatMap fun F =>
      F.originalRouteInfos.filter (captures (mergedRoute I J))) N ::
        D.map (keep fun o => !captures (mergedRoute I J) o))) := by
  have hA := (attached_append.mp hattached).1
  have hD := attached_D hattached
  -- the routes in between and the merged one
  obtain ⟨hB, hCM⟩ := attached_append.mp (attached_between hattached)
  have hE := hCM.attachAll hI fun o ho X hX => by
    intro hmatch
    apply (serves_I hattached o ho).2.2 X _ hmatch
    rcases List.mem_append.mp hX with hX | hX
    · simp [hX]
    · simp [hX]
  have hattachedJ := (attached_append.mpr ⟨hB, hE⟩).attachAll (fun o ho => by
      rw [← hJ o ho]
      apply firstMatch_color_congr
      rw [List.map_append, List.map_append, bare_attachAll])
    fun o ho => (serves_J hattached o ho).2.2
  rw [hLN] at hattachedJ
  obtain ⟨hL, hN, -⟩ := attached_append.mp hattachedJ
  have hbare : (L ++ [N]).map bare = (B ++ (C ++ [mergedRoute I J])).map bare := by
    rw [← hLN, bare_attachAll, List.map_append, List.map_append, bare_attachAll]
  have hparts : L.map bare = (B ++ C).map bare ∧
      N.bare = (mergedRoute I J).bare := by
    rw [← List.append_assoc, List.map_append, List.map_append] at hbare
    obtain ⟨hL, hN⟩ := List.append_inj' hbare rfl
    exact ⟨hL, (List.cons.inj hN).1⟩
  have hbefore : ∀ X ∈ A ++ L, ∃ Y ∈ A ++ [J] ++ B ++ [I] ++ C, Y.bare = X.bare := by
    intro X hX
    rcases List.mem_append.mp hX with hX | hX
    · exact ⟨X, by simp [hX], rfl⟩
    · obtain ⟨Y, hY, heq⟩ := exists_bare hparts.1 hX
      refine ⟨Y, ?_, heq⟩
      rcases List.mem_append.mp hY with hY | hY
      · simp [hY]
      · simp [hY]
  have hserves : ∀ F ∈ D, ∀ o ∈ F.originalRouteInfos, ∀ X ∈ A ++ L,
      Serves Q (A ++ [J] ++ B ++ [I] ++ C) F o → X.matches o.destination = true →
      Q X.color o := by
    intro F hF o ho X hX hserves hmatch
    obtain ⟨Y, hY, heq⟩ := hbefore X hX
    rw [← color_of_bare heq]
    exact hserves.2.2 Y hY ((matches_of_bare heq).trans hmatch)
  refine attached_append.mpr ⟨hA, attached_append.mpr ⟨hL, ?_, ?_⟩⟩
  · intro o ho
    rcases List.mem_append.mp ho with ho | ho
    · exact hN o ho
    · obtain ⟨F, hF, hmem⟩ := List.mem_flatMap.mp ho
      obtain ⟨hmem, hcaptures⟩ := List.mem_filter.mp hmem
      refine ⟨(matches_of_bare hparts.2).trans hcaptures,
        (color_of_bare hparts.2).trans (haccepted.subsequent F hF o hmem hcaptures), ?_⟩
      intro X hX hmatch
      obtain ⟨S, T, rfl⟩ := List.append_of_mem hF
      have hF' := (attached_append.mp hD).2.1 o hmem
      exact hserves F hF o hmem X hX hF'.mono hmatch
  · refine hD.keep _ fun F hF o ho hkept hserves' X hX hmatch => ?_
    rcases List.mem_append.mp hX with hX | hX
    · exact hserves F hF o ho X hX hserves' hmatch
    · obtain rfl := List.mem_singleton.mp hX
      have hcaptures : captures (mergedRoute I J) o = true :=
        (matches_of_bare hparts.2).symm.trans hmatch
      rw [hcaptures] at hkept
      cases hkept

end Merge

/-- The routes of the table after a merge, whatever is attached to them. -/
theorem bare_merged (moved : List OriginalRouteInfo) (p : OriginalRouteInfo → Bool)
    (hLN : attachAll (B ++ attachAll (C ++ [M]) I.originalRouteInfos) J.originalRouteInfos =
      L ++ [N]) :
    (A ++ (L ++ capture moved N :: D.map (keep p))).map bare =
      (A ++ (B ++ (C ++ M :: D))).map bare := by
  have hbare : (L ++ [N]).map bare = (B ++ (C ++ [M])).map bare := by
    rw [← hLN, bare_attachAll, List.map_append, List.map_append, bare_attachAll]
  have hkeep : (D.map (keep p)).map bare = D.map bare := by
    rw [List.map_map]
    rfl
  have hsplit : A ++ (L ++ capture moved N :: D.map (keep p)) =
      A ++ ((L ++ [capture moved N]) ++ D.map (keep p)) := by simp
  have hcapture : (L ++ [capture moved N]).map bare = (L ++ [N]).map bare := by
    rw [List.map_append, List.map_append]
    rfl
  rw [hsplit, List.map_append, List.map_append, hcapture, hbare, hkeep, ← List.map_append,
    ← List.map_append]
  simp

theorem conserved_merged (hI : ∀ o ∈ I.originalRouteInfos,
      (firstMatch (C ++ [mergedRoute I J]) o.destination).map (·.color) = some o.color)
    (hJ : ∀ o ∈ J.originalRouteInfos,
      (firstMatch (B ++ (C ++ [mergedRoute I J])) o.destination).map (·.color) = some o.color)
    (hLN : attachAll (B ++ attachAll (C ++ [mergedRoute I J]) I.originalRouteInfos)
      J.originalRouteInfos = L ++ [N]) (p : OriginalRouteInfo → Bool) :
    (attachedRoutes (A ++ (L ++ capture (D.flatMap fun F => F.originalRouteInfos.filter p) N ::
      D.map (keep fun o => !p o)))).Perm (attachedRoutes (A ++ J :: (B ++ I :: (C ++ D)))) := by
  have hE := attachedRoutes_attachAll hI
  have hJ' := attachedRoutes_attachAll (S := B ++ attachAll (C ++ [mergedRoute I J])
    I.originalRouteInfos) fun o ho => (by
      rw [← hJ o ho]
      apply firstMatch_color_congr
      rw [List.map_append, List.map_append, bare_attachAll])
  rw [hLN, attachedRoutes_append, attachedRoutes_append] at hJ'
  have hM : attachedRoutes (C ++ [mergedRoute I J]) = attachedRoutes C := by
    rw [attachedRoutes_append]
    exact List.append_nil _
  have hN : attachedRoutes [N] = N.originalRouteInfos := List.append_nil _
  rw [hM] at hE
  have hD := attachedRoutes_keep p D
  simp only [attachedRoutes_append, attachedRoutes_cons, capture]
  refine List.Perm.append_left _ ?_
  rw [hN] at hJ'
  calc attachedRoutes L ++ (N.originalRouteInfos ++ (D.flatMap fun F =>
          F.originalRouteInfos.filter p) ++ attachedRoutes (D.map (keep fun o => !p o)))
      = (attachedRoutes L ++ N.originalRouteInfos) ++ ((D.flatMap fun F =>
          F.originalRouteInfos.filter p) ++ attachedRoutes (D.map (keep fun o => !p o))) := by
        simp only [List.append_assoc]
    List.Perm _ ((J.originalRouteInfos ++ (attachedRoutes B ++ (I.originalRouteInfos ++
          attachedRoutes C))) ++ attachedRoutes D) :=
        (hJ'.trans ((hE.append_left _).append_left _)).append hD
    _ = J.originalRouteInfos ++ (attachedRoutes B ++ (I.originalRouteInfos ++
          (attachedRoutes C ++ attachedRoutes D))) := by
        simp only [List.append_assoc]

theorem Bookkeeping.of_bare (hbook : Bookkeeping Q originals S)
    (hsorted : Sorted T) (hsub : ∀ r ∈ T, r ∈ S ∨ r = mergedRoute I J)
    (hbare : R.map bare = T.map bare) (hattached : Attached Q [] R)
    (hconserved : (attachedRoutes R).Perm originals) : Bookkeeping Q originals R := by
  have hall {p : RouteInfo → Prop} (hp : ∀ a b, a.bare = b.bare → p a → p b) (hS : ∀ r ∈ S, p r)
      (hM : p (mergedRoute I J)) : ∀ r ∈ R, p r := by
    intro r hr
    obtain ⟨q, hq, heq⟩ := exists_bare hbare hr
    apply hp q r heq
    rcases hsub q hq with hq | rfl
    · exact hS q hq
    · exact hM
  refine ⟨?_, ?_, ?_, ?_, hattached, hconserved⟩
  · rw [← sorted_bare, hbare, sorted_bare]
    exact hsorted
  · exact hall (fun a b h ha =>
      (show b.bare.enabled = true from h ▸ ha)) hbook.enabled rfl
  · exact hall (fun a b h ha =>
      (show Contiguous b.bare.netmask from h ▸ ha)) hbook.contiguous (contiguous_mergedRoute I J)
  · exact hall (fun a b h ha =>
      (show Inside b.bare.destination b.bare.netmask from h ▸ ha)) hbook.inside
      (inside_mergedRoute I J)

/-- A merge is done when nothing is interrupted, and keeps the books; otherwise the
table stays as it was. -/
theorem Bookkeeping.merge
    (hbook : Bookkeeping Q originals (A ++ J :: (B ++ I :: R))) (hcolor : I.color = J.color) :
    ∃ C D, R = C ++ D ∧
      replaceRoutes (A ++ J :: (B ++ I :: R)) (A.length + 1 + B.length) A.length I J =
        (replaced A B C D I J, A.length + 1 + B.length + 1 + C.length) ∧
      Sorted (replaced A B C D I J) ∧
      ((¬Mergeable B C D I J ∧
        tryToMergeTwoRoutes (A ++ J :: (B ++ I :: R)) (A.length + 1 + B.length) A.length I J =
          .ok (false, A ++ J :: (B ++ I :: R))) ∨
      (Mergeable B C D I J ∧ ∃ merged,
        tryToMergeTwoRoutes (A ++ J :: (B ++ I :: R)) (A.length + 1 + B.length) A.length I J =
          .ok (true, merged) ∧ Bookkeeping Q originals merged ∧
        merged.map bare = (A ++ (B ++ (C ++ mergedRoute I J :: D))).map bare)) := by
  have hmemI : I ∈ A ++ J :: (B ++ I :: R) := by simp
  have hmemJ : J ∈ A ++ J :: (B ++ I :: R) := by simp
  obtain ⟨C, D, rfl, hreplace, hreplaced⟩ := replaceRoutes_eq hbook.sorted (hbook.inside I hmemI)
  refine ⟨C, D, rfl, hreplace, hreplaced, ?_⟩
  by_cases haccepted : Mergeable B C D I J
  · have hI : ∀ o ∈ I.originalRouteInfos,
        (firstMatch (C ++ [mergedRoute I J]) o.destination).map (·.color) = some o.color := by
      intro o ho
      obtain ⟨hmatch, hserved, -⟩ := serves_I hbook.attached o ho
      exact firstMatch_of_not_interrupts (haccepted.afterI o ho)
        (firstMatch_singleton (matches_mergedRoute_I hmatch) hserved)
    have hJ : ∀ o ∈ J.originalRouteInfos,
        (firstMatch (B ++ (C ++ [mergedRoute I J])) o.destination).map (·.color) =
          some o.color := by
      intro o ho
      obtain ⟨hmatch, hserved, -⟩ := serves_J hbook.attached o ho
      refine firstMatch_of_not_interrupts (haccepted.between o ho)
        (firstMatch_of_not_interrupts (haccepted.afterJ o ho) ?_)
      exact firstMatch_singleton (matches_mergedRoute_J hmatch) (hcolor.trans hserved)
    obtain ⟨L, N, hLN, htry⟩ := tryToMergeTwoRoutes_accepted hreplace hI hJ haccepted
    refine .inr ⟨haccepted, _, htry, ?_, bare_merged _ _ hLN⟩
    have hsorted : Sorted (A ++ (B ++ (C ++ mergedRoute I J :: D))) := by
      refine List.Pairwise.sublist ?_ hreplaced
      refine List.Sublist.append_left (List.Sublist.cons _ ?_) A
      exact List.Sublist.append_left (List.sublist_cons_self _ _) B
    have hsub : ∀ r ∈ A ++ (B ++ (C ++ mergedRoute I J :: D)),
        r ∈ A ++ J :: (B ++ I :: (C ++ D)) ∨ r = mergedRoute I J := by
      intro r hr
      simp only [List.mem_append, List.mem_cons] at hr ⊢
      tauto
    exact hbook.of_bare hsorted hsub (bare_merged _ _ hLN)
      (attached_merged hbook.attached haccepted hI hJ hLN)
      ((conserved_merged hI hJ hLN _).trans hbook.conserved)
  · exact .inl ⟨haccepted, tryToMergeTwoRoutes_rejected hreplace (hbook.enabled I hmemI)
      (hbook.enabled J hmemJ) haccepted⟩

end inet.IPv4NetworkConfigurator

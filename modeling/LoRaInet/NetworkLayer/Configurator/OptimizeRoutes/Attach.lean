import LoRaInet.NetworkLayer.Configurator.OptimizeRoutes.Table

open omnetpp addressing

namespace inet.IPv4NetworkConfigurator

variable {A B C D S T before later routeInfos : List RouteInfo} {a b r F X : RouteInfo}
  {o : OriginalRouteInfo} {os originals : List OriginalRouteInfo} {x : IPv4Address}

/-- A route without the original routes attached to it. -/
def RouteInfo.bare (r : RouteInfo) : RouteInfo := { r with originalRouteInfos := [] }

@[simp] theorem bare_attach : (attach o r).bare = r.bare := rfl

theorem matches_of_bare (h : a.bare = b.bare) : a.matches x = b.matches x :=
  (congrArg (fun r => RouteInfo.matches r x) h : a.bare.matches x = b.bare.matches x)

open RouteInfo

theorem color_of_bare (h : a.bare = b.bare) : a.color = b.color :=
  (congrArg color h : a.bare.color = b.bare.color)

theorem firstMatch_cons : firstMatch (a :: S) x = if a.matches x then some a else firstMatch S x := by
  rw [firstMatch, List.find?_cons]
  cases a.matches x <;> rfl

theorem firstMatch_append : firstMatch (S ++ T) x = (firstMatch S x).or (firstMatch T x) :=
  List.find?_append

theorem firstMatch_eq_none : firstMatch S x = none ↔ ∀ r ∈ S, r.matches x = false := by
  rw [firstMatch, List.find?_eq_none]
  exact forall₂_congr fun r _ => Bool.eq_false_iff.symm

theorem matches_of_firstMatch (h : firstMatch S x = some r) : r ∈ S ∧ r.matches x = true := by
  unfold firstMatch at h
  have hmatch := List.find?_some h
  exact ⟨List.mem_of_find?_eq_some h, hmatch⟩

theorem firstMatch_color_congr (h : S.map bare = T.map bare) :
    (firstMatch S x).map (·.color) = (firstMatch T x).map (·.color) := by
  induction S generalizing T with
  | nil =>
    rw [List.map_nil, eq_comm, List.map_eq_nil_iff] at h
    rw [h]
  | cons a S ih =>
    cases T with
    | nil => cases h
    | cons b T =>
      obtain ⟨hhead, htail⟩ := List.cons.inj h
      rw [firstMatch_cons, firstMatch_cons, matches_of_bare hhead]
      cases b.matches x with
      | true => exact congrArg some (color_of_bare hhead)
      | false => exact ih htail

/-- The first route of the range that matches is of another color. -/
def Interrupts (S : List RouteInfo) (o : OriginalRouteInfo) : Prop :=
  ∃ r, firstMatch S o.destination = some r ∧ r.color ≠ o.color

theorem interruptsOriginalRoute_iff (A S B : List RouteInfo) (o : OriginalRouteInfo) :
    interruptsOriginalRoute (A ++ S ++ B) A.length (A.length + S.length) o = true ↔
      Interrupts S o := by
  have hcolor := findBest_colorAt A S B o.destination
  unfold interruptsOriginalRoute Interrupts
  cases hfind : findBestMatchingRouteInfo (A ++ S ++ B) o.destination A.length
      (A.length + S.length) with
  | none =>
    rw [hfind] at hcolor
    have hnone := Option.map_eq_none_iff.mp hcolor.symm
    simp [hnone]
  | some index =>
    rw [hfind, Option.bind_some] at hcolor
    have hk : ∃ r, firstMatch S o.destination = some r := by
      obtain ⟨k, hk, -⟩ := Option.map_eq_some_iff.mp hfind
      rw [range_eq] at hk
      rw [firstMatch, List.find?_eq_bind_findIdx?_getElem?, hk]
      have hlt : k < S.length := (List.findIdx?_eq_some_iff_findIdx_eq.mp hk).1
      exact ⟨S[k], List.getElem?_eq_getElem hlt⟩
    obtain ⟨r, hr⟩ := hk
    rw [hr, Option.map_some] at hcolor
    simp only [hcolor, hr, ne_eq, Option.some.injEq, decide_eq_true_eq, exists_eq_left']

theorem interruptsAny_iff (A S B : List RouteInfo) (os : List OriginalRouteInfo) :
    interruptsAnyOriginalRoute (A ++ S ++ B) A.length (A.length + S.length) os = true ↔
      ∃ o ∈ os, Interrupts S o := by
  unfold interruptsAnyOriginalRoute
  simp only [Bool.and_eq_true, decide_eq_true_eq, List.any_eq_true, interruptsOriginalRoute_iff]
  constructor
  · rintro ⟨-, h⟩
    exact h
  · rintro ⟨o, ho, r, hr, hne⟩
    refine ⟨?_, o, ho, r, hr, hne⟩
    have hpos := List.length_pos_of_mem (matches_of_firstMatch hr).1
    omega

theorem interruptsSubsequent_iff (A D : List RouteInfo) (r : RouteInfo) :
    interruptsSubsequentOriginalRoutes (A ++ r :: D) A.length = true ↔
      ∃ F ∈ D, ∃ o ∈ F.originalRouteInfos, r.matches o.destination = true ∧ r.color ≠ o.color := by
  have hdrop : (A ++ r :: D).drop (A.length + 1) = D := by
    rw [← List.drop_drop, List.drop_left]
    rfl
  have hsplit : A ++ r :: D = A ++ [r] ++ D := by simp
  unfold interruptsSubsequentOriginalRoutes
  rw [hdrop, List.any_eq_true]
  refine exists_congr fun F => and_congr_right fun _ => ?_
  rw [hsplit, ← List.length_singleton (a := r), interruptsAny_iff]
  refine exists_congr fun o => and_congr_right fun _ => ?_
  unfold Interrupts
  rw [firstMatch_cons]
  cases r.matches o.destination with
  | true => simp
  | false => simp [firstMatch]

def attachFirst (o : OriginalRouteInfo) : List RouteInfo → List RouteInfo
  | [] => []
  | r :: rest => if r.matches o.destination then attach o r :: rest else r :: attachFirst o rest

/-- Each original route is attached to the first route that matches. -/
def attachAll (S : List RouteInfo) (os : List OriginalRouteInfo) : List RouteInfo :=
  os.foldl (fun S o => attachFirst o S) S

theorem bare_attachFirst : (attachFirst o S).map bare = S.map bare := by
  induction S with
  | nil => rfl
  | cons r S ih =>
    rw [attachFirst]
    split
    · rfl
    · rw [List.map_cons, List.map_cons, ih]

theorem bare_attachAll : (attachAll S os).map bare = S.map bare := by
  induction os generalizing S with
  | nil => rfl
  | cons o os ih => exact ih.trans bare_attachFirst

theorem length_attachFirst : (attachFirst o S).length = S.length := by
  have hbare := congrArg List.length (@bare_attachFirst S o)
  simpa using hbare

theorem length_attachAll : (attachAll S os).length = S.length := by
  have hbare := congrArg List.length (@bare_attachAll S os)
  simpa using hbare

theorem modify_append_right (A S : List RouteInfo) (k : ℕ) (f : RouteInfo → RouteInfo) :
    (A ++ S).modify (A.length + k) f = A ++ S.modify k f := by
  induction A with
  | nil => simp
  | cons a A ih =>
    have hindex : (a :: A).length + k = (A.length + k) + 1 := by
      rw [List.length_cons]
      omega
    rw [hindex, List.cons_append, List.modify_succ_cons, ih]
    rfl

theorem modify_findIdx (S B : List RouteInfo) {k : ℕ}
    (hk : S.findIdx? (fun r => r.matches o.destination) = some k) :
    (S ++ B).modify k (attach o) = attachFirst o S ++ B := by
  induction S generalizing k with
  | nil => cases hk
  | cons r S ih =>
    rw [List.findIdx?_cons] at hk
    rw [attachFirst]
    cases hr : r.matches o.destination with
    | true =>
      rw [hr] at hk
      cases hk
      rfl
    | false =>
      rw [hr, if_neg Bool.false_ne_true] at hk
      obtain ⟨l, hl, rfl⟩ := Option.map_eq_some_iff.mp hk
      rw [List.cons_append, List.modify_succ_cons, ih hl]
      rfl

/-- Original routes that the range serves with their color are attached there. -/
theorem addOriginalRouteInfos_eq (A B : List RouteInfo)
    (h : ∀ o ∈ os, (firstMatch S o.destination).map (·.color) = some o.color) :
    addOriginalRouteInfos (A ++ S ++ B) A.length (A.length + S.length) os =
      .ok (A ++ attachAll S os ++ B) := by
  induction os generalizing S with
  | nil => rfl
  | cons o os ih =>
    have hfirst := h o (.head _)
    have hassert := (findBest_colorAt A S B o.destination).trans hfirst
    obtain ⟨r, hr, -⟩ := Option.map_eq_some_iff.mp hfirst
    obtain ⟨k, hk⟩ : ∃ k, S.findIdx? (fun r => r.matches o.destination) = some k := by
      rw [firstMatch, List.find?_eq_bind_findIdx?_getElem?] at hr
      obtain ⟨k, hk, -⟩ := Option.bind_eq_some_iff.mp hr
      exact ⟨k, hk⟩
    have hindex : findBestMatchingRouteInfo (A ++ S ++ B) o.destination A.length
        (A.length + S.length) = some (A.length + k) := by
      rw [findBestMatchingRouteInfo, range_eq, hk]
      rfl
    have hmodify : (A ++ S ++ B).modify (A.length + k) (attach o) = A ++ attachFirst o S ++ B := by
      rw [List.append_assoc, modify_append_right, modify_findIdx S B hk, List.append_assoc]
    rw [addOriginalRouteInfos, assert_bind hassert, hindex, Option.getD_some, hmodify, ← @length_attachFirst S o]
    apply ih
    intro other hother
    rw [firstMatch_color_congr bare_attachFirst]
    exact h other (List.mem_cons_of_mem o hother)

def keep (p : OriginalRouteInfo → Bool) (r : RouteInfo) : RouteInfo :=
  { r with originalRouteInfos := r.originalRouteInfos.filter p }

theorem moveOriginalRouteInfos_eq
    (h : ∀ F ∈ D, ∀ o ∈ F.originalRouteInfos, captures r o = true → r.color = o.color) :
    moveOriginalRouteInfos r D = .ok (D.map (keep fun o => !captures r o),
      D.flatMap fun F => F.originalRouteInfos.filter (captures r)) := by
  induction D with
  | nil => rfl
  | cons F D ih =>
    have hassert : ∀ o ∈ F.originalRouteInfos.filter (captures r), r.color = o.color := by
      intro o ho
      obtain ⟨hmem, hcaptures⟩ := List.mem_filter.mp ho
      exact h F (.head _) o hmem hcaptures
    rw [moveOriginalRouteInfos, assert_bind hassert, ih fun G hG => h G (List.mem_cons_of_mem F hG)]
    rfl

/-- The route has the color of the original route, and no route before it that matches
is one that `Q` excludes. -/
def Serves (Q : ℕ → OriginalRouteInfo → Prop) (before : List RouteInfo) (F : RouteInfo)
    (o : OriginalRouteInfo) : Prop :=
  F.matches o.destination = true ∧ F.color = o.color ∧
    ∀ X ∈ before, X.matches o.destination = true → Q X.color o

/-- Each route serves the original routes attached to it. -/
def Attached (Q : ℕ → OriginalRouteInfo → Prop) : List RouteInfo → List RouteInfo → Prop
  | _, [] => True
  | before, F :: rest =>
    (∀ o ∈ F.originalRouteInfos, Serves Q before F o) ∧ Attached Q (before ++ [F]) rest

section Attached

variable {Q : ℕ → OriginalRouteInfo → Prop}

theorem attached_append :
    Attached Q before (S ++ T) ↔ Attached Q before S ∧ Attached Q (before ++ S) T := by
  induction S generalizing before with
  | nil => simp [Attached]
  | cons F S ih =>
    rw [List.cons_append, Attached, Attached, ih, and_assoc]
    simp

theorem Serves.mono (h : Serves Q (before ++ S) F o) : Serves Q before F o :=
  ⟨h.1, h.2.1, fun X hX => h.2.2 X (List.mem_append_left S hX)⟩

/-- Some original routes are detached and other routes come before. -/
theorem Attached.keep (h : Attached Q before S) (p : OriginalRouteInfo → Bool)
    (hlater : ∀ F ∈ S, ∀ o ∈ F.originalRouteInfos, p o = true → Serves Q before F o →
      ∀ X ∈ later, X.matches o.destination = true → Q X.color o) :
    Attached Q later (S.map (keep p)) := by
  induction S generalizing before later with
  | nil => trivial
  | cons F S ih =>
    obtain ⟨hF, hS⟩ := h
    refine ⟨fun o ho => ?_, ih hS fun G hG o ho hp hserves X hX hmatch => ?_⟩
    · obtain ⟨hmem, hp⟩ := List.mem_filter.mp ho
      have hserves := hF o hmem
      exact ⟨hserves.1, hserves.2.1, hlater F (.head _) o hmem hp hserves⟩
    · rcases List.mem_append.mp hX with hX | hX
      · exact hlater G (List.mem_cons_of_mem F hG) o ho hp hserves.mono X hX hmatch
      · obtain rfl := List.mem_singleton.mp hX
        exact hserves.2.2 F (List.mem_append_right before (.head _)) hmatch

theorem keep_true : IPv4NetworkConfigurator.keep (fun _ => true) = id := by
  funext r
  simp [IPv4NetworkConfigurator.keep]

theorem Attached.of_before (h : Attached Q before S)
    (hlater : ∀ F ∈ S, ∀ o ∈ F.originalRouteInfos, Serves Q before F o →
      ∀ X ∈ later, X.matches o.destination = true → Q X.color o) : Attached Q later S := by
  have hkeep := h.keep (fun _ => true) fun F hF o ho _ => hlater F hF o ho
  rwa [keep_true, List.map_id] at hkeep

theorem Attached.of_bare (h : Attached Q before S)
    (hbare : ∀ X ∈ later, ∃ Y ∈ before, Y.bare = X.bare) : Attached Q later S := by
  refine h.of_before fun F hF o ho hserves X hX hmatch => ?_
  obtain ⟨Y, hY, heq⟩ := hbare X hX
  rw [← color_of_bare heq]
  exact hserves.2.2 Y hY ((matches_of_bare heq).trans hmatch)

theorem Attached.attachFirst (h : Attached Q before S)
    (hfirst : (firstMatch S o.destination).map (·.color) = some o.color)
    (hbefore : ∀ X ∈ before, X.matches o.destination = true → Q X.color o) :
    Attached Q before (attachFirst o S) := by
  induction S generalizing before with
  | nil => trivial
  | cons F S ih =>
    obtain ⟨hF, hS⟩ := h
    rw [firstMatch_cons] at hfirst
    rw [IPv4NetworkConfigurator.attachFirst]
    cases hmatch : F.matches o.destination with
    | true =>
      rw [hmatch] at hfirst
      refine ⟨fun p hp => ?_, hS.of_bare fun X hX => ?_⟩
      · rcases List.mem_append.mp hp with hp | hp
        · exact hF p hp
        · obtain rfl := List.mem_singleton.mp hp
          exact ⟨hmatch, Option.some.inj hfirst, hbefore⟩
      · rcases List.mem_append.mp hX with hX | hX
        · exact ⟨X, List.mem_append_left _ hX, rfl⟩
        · obtain rfl := List.mem_singleton.mp hX
          exact ⟨F, List.mem_append_right before (.head _), rfl⟩
    | false =>
      rw [hmatch] at hfirst
      refine ⟨hF, ih hS hfirst fun X hX hX' => ?_⟩
      rcases List.mem_append.mp hX with hX | hX
      · exact hbefore X hX hX'
      · obtain rfl := List.mem_singleton.mp hX
        rw [hmatch] at hX'
        cases hX'

theorem Attached.attachAll (h : Attached Q before S)
    (hfirst : ∀ o ∈ os, (firstMatch S o.destination).map (·.color) = some o.color)
    (hbefore : ∀ o ∈ os, ∀ X ∈ before, X.matches o.destination = true → Q X.color o) :
    Attached Q before (attachAll S os) := by
  induction os generalizing S with
  | nil => exact h
  | cons o os ih =>
    have hhead := h.attachFirst (hfirst o (.head _)) (hbefore o (.head _))
    refine ih hhead (fun p hp => ?_) fun p hp => hbefore p (List.mem_cons_of_mem o hp)
    rw [firstMatch_color_congr bare_attachFirst]
    exact hfirst p (List.mem_cons_of_mem o hp)

end Attached

/-- The original routes attached to any route. -/
def attachedRoutes (S : List RouteInfo) : List OriginalRouteInfo := S.flatMap (·.originalRouteInfos)

theorem attachedRoutes_append :
    attachedRoutes (S ++ T) = attachedRoutes S ++ attachedRoutes T := List.flatMap_append

theorem attachedRoutes_cons :
    attachedRoutes (F :: S) = F.originalRouteInfos ++ attachedRoutes S := List.flatMap_cons

theorem attachedRoutes_attachFirst
    (hfirst : (firstMatch S o.destination).map (·.color) = some o.color) :
    (attachedRoutes (attachFirst o S)).Perm (o :: attachedRoutes S) := by
  induction S with
  | nil => cases hfirst
  | cons F S ih =>
    rw [firstMatch_cons] at hfirst
    rw [attachFirst]
    cases hmatch : F.matches o.destination with
    | true =>
      rw [if_pos rfl, attachedRoutes_cons, attachedRoutes_cons]
      exact (List.perm_append_singleton o F.originalRouteInfos).append_right _
    | false =>
      rw [hmatch] at hfirst
      rw [if_neg Bool.false_ne_true, attachedRoutes_cons, attachedRoutes_cons]
      exact ((ih hfirst).append_left _).trans List.perm_middle

theorem attachedRoutes_attachAll
    (hfirst : ∀ o ∈ os, (firstMatch S o.destination).map (·.color) = some o.color) :
    (attachedRoutes (attachAll S os)).Perm (os ++ attachedRoutes S) := by
  induction os generalizing S with
  | nil => exact List.Perm.refl _
  | cons o os ih =>
    have htail : ∀ p ∈ os, (firstMatch (attachFirst o S) p.destination).map (·.color) =
        some p.color := by
      intro p hp
      rw [firstMatch_color_congr bare_attachFirst]
      exact hfirst p (List.mem_cons_of_mem o hp)
    have hhead := attachedRoutes_attachFirst (hfirst o (.head _))
    exact ((ih htail).trans (hhead.append_left os)).trans List.perm_middle

theorem attachedRoutes_keep (p : OriginalRouteInfo → Bool) (S : List RouteInfo) :
    ((S.flatMap fun F => F.originalRouteInfos.filter p) ++
      attachedRoutes (S.map (keep fun o => !p o))).Perm (attachedRoutes S) := by
  induction S with
  | nil => exact List.Perm.refl _
  | cons F S ih =>
    rw [List.flatMap_cons, List.map_cons, attachedRoutes_cons, attachedRoutes_cons]
    have hsplit := List.filter_append_perm p F.originalRouteInfos
    refine List.Perm.trans ?_ (hsplit.append ih)
    simp only [keep, List.append_assoc]
    refine List.Perm.append_left _ ?_
    rw [← List.append_assoc, ← List.append_assoc]
    exact List.perm_append_comm.append_right _

end inet.IPv4NetworkConfigurator

import LoRaInet.NetworkLayer.IPv6.IPv6RoutingTable.DestCache

open omnetpp container transition

namespace inet.IPv6RoutingTable

open IPv6Route (Change)

section Sorted

variable {s s' : IPv6RoutingTable} {a b c : IPv6Route} {now : SimTime}

/-- No worse: a longer prefix, or the same one with a smaller distance (where distances are used), or with the same
distance and a metric that is not greater. -/
def NoWorse (useAdminDist : Bool) (a b : IPv6Route) : Prop :=
  b.prefixLength ≤ a.prefixLength ∧ (a.prefixLength = b.prefixLength →
    (useAdminDist = true → a.adminDist ≤ b.adminDist) ∧
      ((useAdminDist = true → a.adminDist = b.adminDist) → a.metric ≤ b.metric))
deriving Decidable

theorem noWorse_iff : NoWorse s.useAdminDist a b ↔ s.routeLessThan b a = false := by
  unfold NoWorse routeLessThan
  cases s.useAdminDist with
  | false =>
    simp only [Bool.false_eq_true, false_imp_iff, true_and, true_imp_iff, Bool.false_and, if_false]
    split
    · simp only [decide_eq_false_iff_not]
      omega
    · simp only [decide_eq_false_iff_not]
      omega
  | true =>
    simp only [true_imp_iff, Bool.true_and, decide_eq_true_eq]
    split
    · simp only [decide_eq_false_iff_not]
      omega
    · split
      · simp only [decide_eq_false_iff_not]
        omega
      · simp only [decide_eq_false_iff_not]
        omega

theorem NoWorse.trans {useAdminDist : Bool} (h : NoWorse useAdminDist a b) (h' : NoWorse useAdminDist b c) :
    NoWorse useAdminDist a c := by
  unfold NoWorse at *
  cases useAdminDist with
  | false =>
    simp only [Bool.false_eq_true, false_imp_iff, true_and, true_imp_iff] at *
    omega
  | true =>
    simp only [true_imp_iff] at *
    omega

theorem noWorse_total (useAdminDist : Bool) (a b : IPv6Route) :
    NoWorse useAdminDist a b ∨ NoWorse useAdminDist b a := by
  unfold NoWorse
  cases useAdminDist with
  | false =>
    simp only [Bool.false_eq_true, false_imp_iff, true_and, true_imp_iff]
    omega
  | true =>
    simp only [true_imp_iff]
    omega

/-- No route comes after a worse one. -/
def Sorted (s : IPv6RoutingTable) : Prop := s.routeList.Pairwise (NoWorse s.useAdminDist)
deriving Decidable

theorem sorted_internalAddRoute (s : IPv6RoutingTable) (route : IPv6Route) : (s.internalAddRoute route).Sorted := by
  have htotal : Std.Total fun a b => s.routeLessThan b a = false :=
    ⟨fun a b => (noWorse_total s.useAdminDist a b).imp noWorse_iff.mp noWorse_iff.mp⟩
  have htrans : IsTrans IPv6Route fun a b => s.routeLessThan b a = false :=
    ⟨fun a b c hab hbc => noWorse_iff.mp ((noWorse_iff.mpr hab).trans (noWorse_iff.mpr hbc))⟩
  exact (List.pairwise_insertionSort (fun a b => s.routeLessThan b a = false) (s.routeList ++ [route])).imp
    noWorse_iff.mpr

theorem Sorted.sublist (h : s.Sorted) {routeList : List IPv6Route} (hsub : routeList.Sublist s.routeList) :
    Sorted { s with routeList } :=
  List.Pairwise.sublist hsub h

theorem Sorted.internalRemoveRoute (h : s.Sorted) (id : ℕ) : (s.internalRemoveRoute id).Sorted :=
  h.sublist List.filter_sublist

end Sorted

section Change

variable {s : IPv6RoutingTable} {id : ℕ} {c : Change}

/-- A distance that is set leaves the table sorted, which is not sorted again then. -/
def keepsOrder (s : IPv6RoutingTable) : Event → Prop
  | .change id c => c.fieldCode = .F_ADMINDIST → (s.change id c).Sorted
  | _ => True

instance (s : IPv6RoutingTable) : (e : Event) → Decidable (s.keepsOrder e)
  | .change _ _ => inferInstanceAs (Decidable (_ → _))
  | .addRoute _ | .removeRoute _ | .deleteRoute _ | .addOrUpdateOnLinkPrefix _ _ _ _
  | .addOrUpdateOwnAdvPrefix _ _ _ _ | .deleteOnLinkPrefix _ _ | .interfaceDown _
  | .determineOutputInterface _ => .isTrue trivial

theorem Sorted.change (h : s.Sorted) (hc : c.fieldCode ≠ .F_ADMINDIST) : (s.change id c).Sorted := by
  by_cases hunordered : isUnordered c = true
  · rw [change_of_isUnordered hunordered]
    split
    · have hsame (r : IPv6Route) : (assign id c r).prefixLength = r.prefixLength ∧
          (assign id c r).adminDist = r.adminDist ∧ (assign id c r).metric = r.metric := by
        unfold assign
        split
        · cases c with
          | setDestination _ | setPrefixLength _ | setMetric _ => cases hunordered
          | setAdminDist _ => exact absurd rfl hc
          | _ => exact ⟨rfl, rfl, rfl⟩
        · exact ⟨rfl, rfl, rfl⟩
      refine List.pairwise_map.mpr (List.Pairwise.imp (fun {a b} hab => ?_) h)
      unfold NoWorse
      rw [(hsame a).1, (hsame a).2.1, (hsame a).2.2, (hsame b).1, (hsame b).2.1, (hsame b).2.2]
      exact hab
    · exact h
  · unfold IPv6RoutingTable.change
    split
    · exact h
    · split
      · exact h
      · have hcode : c.fieldCode = .F_DESTINATION ∨ c.fieldCode = .F_PREFIX_LENGTH ∨ c.fieldCode = .F_METRIC := by
          simp only [isUnordered, Bool.and_eq_true, decide_eq_true_eq, not_and_or, not_not] at hunordered
          tauto
        rw [routeChanged, if_pos hcode]
        exact sorted_internalAddRoute _ _

theorem Sorted.addOrUpdatePrefix (h : s.Sorted) (type : SourceType) (destPrefix : IPv6Address)
    (prefixLength interfaceId : ℤ) (expiryTime : SimTime) :
    (s.addOrUpdatePrefix type destPrefix prefixLength interfaceId expiryTime).Sorted := by
  unfold IPv6RoutingTable.addOrUpdatePrefix
  split
  · exact sorted_internalAddRoute s _
  · refine Sorted.change (h.change ?_) ?_
    · intro hcode
      cases hcode
    · intro hcode
      cases hcode

end Change

section Lookup

variable {s s' : IPv6RoutingTable} {now : SimTime} {dest : IPv6Address}

/-- What a lookup removes. -/
def isOutdated (now : SimTime) (dest : IPv6Address) (r : IPv6Route) : Bool :=
  covers dest r = some true && r.expired now && r.sourceType = .ROUTER_ADVERTISEMENT

/-- A lookup stops at this route: it is neither one that does not match nor one that is removed. -/
def stopsAt (now : SimTime) (dest : IPv6Address) (r : IPv6Route) : Bool :=
  covers dest r ≠ some false && !isOutdated now dest r

/-- The first route at which a lookup stops has a valid prefix length and has not expired. -/
def isClear (s : IPv6RoutingTable) (now : SimTime) (dest : IPv6Address) : Bool :=
  (s.routeList.find? (stopsAt now dest)).all fun r => covers dest r = some true && !r.expired now

/-- The best of the routes that match and have not expired, or none if there is none. -/
def IsBest (s : IPv6RoutingTable) (now : SimTime) (dest : IPv6Address) : Option IPv6Route → Prop
  | some r => r ∈ s.routeList ∧ covers dest r = some true ∧ r.expired now = false ∧
      ∀ r' ∈ s.routeList, covers dest r' = some true → r'.expired now = false → NoWorse s.useAdminDist r r'
  | none => ∀ r' ∈ s.routeList, covers dest r' = some true → r'.expired now = true

/-- Only expired router advertisements have been deleted. -/
def DeletesExpired (s : IPv6RoutingTable) (now : SimTime) (s' : IPv6RoutingTable) : Prop :=
  ∃ routeList, s' = { s with routeList } ∧ routeList.Sublist s.routeList ∧
    ∀ r ∈ s.routeList, r ∈ routeList ∨ r.expired now = true ∧ r.sourceType = .ROUTER_ADVERTISEMENT

theorem scan_eq_some {routes routes' : List IPv6Route} {found : Option IPv6Route}
    (h : scan now dest routes = some (found, routes')) :
    found = routes.find? (stopsAt now dest) ∧
      (∀ r, found = some r → covers dest r = some true ∧ r.expired now = false) ∧
      routes'.Sublist routes ∧ ∀ r ∈ routes, r ∈ routes' ∨ isOutdated now dest r = true := by
  induction routes generalizing routes' with
  | nil =>
    cases h
    exact ⟨rfl, fun r hr => (by cases hr), .refl _, fun r hr => (by cases hr)⟩
  | cons first routes ih =>
    rw [scan_cons] at h
    rw [List.find?_cons]
    cases hcovers : covers dest first with
    | none =>
      rw [hcovers] at h
      cases h
    | some b =>
      rw [hcovers] at h
      cases b with
      | true =>
        dsimp only at h
        split at h
        · next hexpired =>
          split at h
          · next htype =>
            obtain ⟨hfound, halive, hsub, hkept⟩ := ih h
            have hold : isOutdated now dest first = true := by simp [isOutdated, hcovers, hexpired, htype]
            have hpass : stopsAt now dest first = false := by simp [stopsAt, hold]
            rw [hpass]
            refine ⟨hfound, halive, hsub.cons first, fun r hr => ?_⟩
            rcases List.mem_cons.mp hr with rfl | hr
            · exact .inr hold
            · exact hkept r hr
          · cases h
        · next hexpired =>
          cases h
          have hstop : stopsAt now dest first = true := by simp [stopsAt, isOutdated, hcovers, hexpired]
          rw [hstop]
          refine ⟨rfl, fun r hr => ?_, .refl _, fun r hr => .inl hr⟩
          cases hr
          exact ⟨hcovers, by simpa using hexpired⟩
      | false =>
        dsimp only at h
        obtain ⟨⟨found', rest⟩, hrest, heq⟩ := Option.map_eq_some_iff.mp h
        cases heq
        obtain ⟨hfound, halive, hsub, hkept⟩ := ih hrest
        have hpass : stopsAt now dest first = false := by simp [stopsAt, hcovers]
        rw [hpass]
        refine ⟨hfound, halive, hsub.cons_cons first, fun r hr => ?_⟩
        rcases List.mem_cons.mp hr with rfl | hr
        · exact .inl (.head _)
        · exact (hkept r hr).imp_left (List.mem_cons_of_mem first)

theorem exists_scan {routes : List IPv6Route}
    (h : ∀ r, routes.find? (stopsAt now dest) = some r → covers dest r = some true ∧ r.expired now = false) :
    ∃ result, scan now dest routes = some result := by
  induction routes with
  | nil => exact ⟨_, rfl⟩
  | cons first routes ih =>
    rw [scan_cons]
    rw [List.find?_cons] at h
    cases hstop : stopsAt now dest first with
    | true =>
      rw [hstop] at h
      obtain ⟨hcovers, hexpired⟩ := h first rfl
      rw [hcovers, hexpired]
      exact ⟨_, rfl⟩
    | false =>
      rw [hstop] at h
      obtain ⟨result, hresult⟩ := ih h
      cases hcovers : covers dest first with
      | none => simp [stopsAt, isOutdated, hcovers] at hstop
      | some b =>
        cases b with
        | true =>
          have hold : first.expired now = true ∧ first.sourceType = .ROUTER_ADVERTISEMENT := by
            simpa [stopsAt, isOutdated, hcovers] using hstop
          exact ⟨result, by simp [hold.1, hold.2, hresult]⟩
        | false => exact ⟨(result.1, first :: result.2), by rw [hresult]; rfl⟩

theorem isBest_of_find? (h : s.Sorted) {found : Option IPv6Route}
    (hfound : found = s.routeList.find? (stopsAt now dest))
    (halive : ∀ r, found = some r → covers dest r = some true ∧ r.expired now = false) : s.IsBest now dest found := by
  have hstops {r : IPv6Route} (hcovers : covers dest r = some true) (hexpired : r.expired now = false) :
      stopsAt now dest r = true := by simp [stopsAt, isOutdated, hcovers, hexpired]
  cases found with
  | none =>
    intro r hr hcovers
    have hpass := List.find?_eq_none.mp hfound.symm r hr
    by_contra hexpired
    exact hpass (hstops hcovers (by simpa using hexpired))
  | some r =>
    obtain ⟨hcovers, hexpired⟩ := halive r rfl
    obtain ⟨-, before, after, hlist, hbefore⟩ := List.find?_eq_some_iff_append.mp hfound.symm
    refine ⟨by simp [hlist], hcovers, hexpired, fun r' hr' hcovers' hexpired' => ?_⟩
    have hstop := hstops hcovers' hexpired'
    unfold Sorted at h
    rw [hlist] at h hr'
    rcases List.mem_append.mp hr' with hr' | hr'
    · have hnot := hbefore r' hr'
      rw [hstop] at hnot
      cases hnot
    · rcases List.mem_cons.mp hr' with rfl | hr'
      · exact (noWorse_total s.useAdminDist r' r').elim id id
      · exact List.rel_of_pairwise_cons (List.pairwise_append.mp h).2.1 hr'

/-- In a sorted table a lookup that is clear, and only such a one, returns the best route. -/
theorem Sorted.doLongestPrefixMatch_iff (h : s.Sorted) :
    (∃ s' found, s.doLongestPrefixMatch now dest = some (s', found) ∧ s.IsBest now dest found ∧
      s.DeletesExpired now s') ↔ s.isClear now dest = true := by
  have hclear : s.isClear now dest = true ↔ ∀ r, s.routeList.find? (stopsAt now dest) = some r →
      covers dest r = some true ∧ r.expired now = false := by
    unfold isClear
    simp [Option.all_eq_true]
  rw [hclear]
  unfold doLongestPrefixMatch
  constructor
  · rintro ⟨s', found, hcall, -, -⟩
    obtain ⟨⟨found', routeList⟩, hscan, heq⟩ := Option.map_eq_some_iff.mp hcall
    obtain ⟨hfound, halive, -, -⟩ := scan_eq_some hscan
    rw [← hfound]
    exact halive
  · intro hnext
    obtain ⟨⟨found, routeList⟩, hscan⟩ := exists_scan hnext
    obtain ⟨hfound, halive, hsub, hkept⟩ := scan_eq_some hscan
    refine ⟨_, _, by rw [hscan]; rfl, isBest_of_find? h hfound halive, routeList, rfl, hsub, fun r hr => ?_⟩
    refine (hkept r hr).imp_right fun hold => ?_
    simp only [isOutdated, Bool.and_eq_true, decide_eq_true_eq] at hold
    exact ⟨hold.1.2, hold.2⟩

variable {output : Output}

theorem useAdminDist_determineOutputInterface
    (hcall : IPv6.determineOutputInterface s now dest = some (s', output)) : s'.useAdminDist = s.useAdminDist := by
  have hlookup : (s.lookupDestCache now dest).1.useAdminDist = s.useAdminDist := by
    unfold lookupDestCache
    split
    · rfl
    · split
      · rfl
      · rfl
  unfold IPv6.determineOutputInterface at hcall
  generalize s.lookupDestCache now dest = result at hcall hlookup
  obtain ⟨rt, nextHop, interfaceId⟩ := result
  dsimp only at hcall hlookup
  split at hcall
  · obtain ⟨⟨rt', found⟩, hmatch, hcall⟩ := Option.bind_eq_some_iff.mp hcall
    obtain ⟨⟨found', routeList⟩, -, heq⟩ := Option.map_eq_some_iff.mp hmatch
    obtain ⟨rfl, rfl⟩ := Prod.mk.inj heq
    cases found' with
    | none | some r =>
      cases hcall
      exact hlookup
  · cases hcall
    exact hlookup

theorem Sorted.determineOutputInterface (h : s.Sorted)
    (hcall : IPv6.determineOutputInterface s now dest = some (s', output)) : s'.Sorted := by
  have huse := useAdminDist_determineOutputInterface hcall
  rcases determineOutputInterface_cases hcall with ⟨_, -, -, rfl, -⟩ | ⟨_, found, routeList, -, hscan, -, hlist, -⟩
  · exact h
  · obtain ⟨-, -, hsub, -⟩ := scan_eq_some hscan
    unfold Sorted
    rw [hlist, huse]
    exact h.sublist hsub

/-- Every event leaves the table sorted, unless it sets the distance of a route. -/
theorem Sorted.handle (h : s.Sorted) {e : Event} (hkeeps : s.keepsOrder e)
    (hhandle : s.handle now e = some (s', output)) : s'.Sorted := by
  cases e with
  | determineOutputInterface dest => exact h.determineOutputInterface hhandle
  | addRoute route =>
    cases hhandle
    exact sorted_internalAddRoute s _
  | removeRoute id | deleteRoute id =>
    cases hhandle
    exact h.internalRemoveRoute id
  | addOrUpdateOnLinkPrefix destPrefix prefixLength interfaceId expiryTime
  | addOrUpdateOwnAdvPrefix destPrefix prefixLength interfaceId expiryTime =>
    cases hhandle
    exact h.addOrUpdatePrefix _ _ _ _ _
  | deleteOnLinkPrefix destPrefix prefixLength =>
    cases hhandle
    unfold IPv6RoutingTable.deleteOnLinkPrefix
    split
    · exact h.internalRemoveRoute _
    · exact h
  | change id c =>
    cases hhandle
    by_cases hc : c.fieldCode = .F_ADMINDIST
    · exact hkeeps hc
    · exact h.change hc
  | interfaceDown interfaceId =>
    cases hhandle
    exact h

end Lookup

/-- A table without routes. -/
def Empty (s : Timed) : Prop := s.rt.routeList = []

theorem run_sorted {history : List ((SimTime × Event) × (Timed × Output))} {s : Timed}
    (hrun : Run Empty (StepOf (traced step)) history s)
    (hkeeps : Always (fun _ l => l.2.1.rt.keepsOrder l.1.2) history) : s.rt.Sorted := by
  induction hrun with
  | @init s hinit =>
    have hempty : s.rt.routeList = [] := hinit
    unfold Sorted
    rw [hempty]
    exact .nil
  | @step history s s' l hrun hstep ih =>
    obtain ⟨⟨now, e⟩, before, output⟩ := l
    obtain ⟨rfl, hstep⟩ := traced_eq_some.mp hstep
    have hsorted := ih hkeeps.1
    unfold step at hstep
    split at hstep
    · obtain ⟨⟨rt, output'⟩, hhandle, heq⟩ := Option.map_eq_some_iff.mp hstep
      cases heq
      exact hsorted.handle hkeeps.2 hhandle
    · cases hstep

/-- A lookup returns the best route, and deletes only expired router advertisements, exactly when the first route
that it neither passes nor deletes has not expired. -/
theorem doLongestPrefixMatch_best {history : List ((SimTime × Event) × (Timed × Output))} {s : Timed}
    (hrun : Run Empty (StepOf (traced step)) history s)
    (hkeeps : Always (fun _ l => l.2.1.rt.keepsOrder l.1.2) history) (now : SimTime) (dest : IPv6Address) :
    (∃ s' found, s.rt.doLongestPrefixMatch now dest = some (s', found) ∧ s.rt.IsBest now dest found ∧
      s.rt.DeletesExpired now s') ↔ s.rt.isClear now dest = true :=
  (run_sorted hrun hkeeps).doLongestPrefixMatch_iff

def sampleAdvertised : IPv6Address := ⟨2, 0, 0, 0⟩

/-- An advertised prefix has expired; a lookup deletes it and goes on to the default route. -/
theorem doLongestPrefixMatch_best_of_expired : ∃ history s, Run Empty (StepOf (traced step)) history s ∧
    ∃ s' found, s.rt.doLongestPrefixMatch 11 ⟨2, 0, 0, 7⟩ = some (s', found) ∧
      s.rt.IsBest 11 ⟨2, 0, 0, 7⟩ found ∧ s.rt.DeletesExpired 11 s' := by
  have hempty : Empty ⟨0, { useAdminDist := true, interfaces := [100, 101] }⟩ := rfl
  obtain ⟨s, history, hrun, hkeeps, hclear⟩ := @exists_run_of_initial _ _ _ (traced step) Empty _ hempty
    [(1, .addRoute sampleDefault), (2, .addOrUpdateOnLinkPrefix sampleAdvertised 64 101 10),
      (3, .determineOutputInterface ⟨2, 0, 0, 7⟩), (4, .change 0 (.setMetric 5)), (5, .change 0 (.setAdminDist 2))]
    (fun s history => Always (fun _ l => l.2.1.rt.keepsOrder l.1.2) history ∧
      s.rt.isClear 11 ⟨2, 0, 0, 7⟩ = true)
    (by decide +kernel)
  exact ⟨history, s, hrun, (doLongestPrefixMatch_best hrun hkeeps 11 ⟨2, 0, 0, 7⟩).mpr hclear⟩

/-- A lookup does not return from a prefix of the router's own that has expired. -/
theorem not_doLongestPrefixMatch_best : ¬∀ history s, Run Empty (StepOf (traced step)) history s →
    ∀ now dest, ∃ s' found, s.rt.doLongestPrefixMatch now dest = some (s', found) ∧
      s.rt.IsBest now dest found ∧ s.rt.DeletesExpired now s' := by
  have hempty : Empty ⟨0, { interfaces := [100, 101] }⟩ := rfl
  obtain ⟨s, history, hrun, hforever⟩ := @exists_run_of_initial _ _ _ (traced step) Empty _ hempty
    [(1, .addRoute sampleDefault), (2, .addOrUpdateOwnAdvPrefix sampleAdvertised 64 101 10)]
    (fun s _ => s.rt.doLongestPrefixMatch 11 ⟨2, 0, 0, 7⟩ |>.isNone)
    (by decide +kernel)
  intro hall
  obtain ⟨s', found, hcall, -, -⟩ := hall history s hrun 11 ⟨2, 0, 0, 7⟩
  rw [hcall] at hforever
  cases hforever

end inet.IPv6RoutingTable

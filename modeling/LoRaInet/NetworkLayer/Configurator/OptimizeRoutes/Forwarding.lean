import LoRaInet.NetworkLayer.Configurator.OptimizeRoutes.Loop
import Mathlib.Data.List.MinMax

open omnetpp addressing

namespace inet

namespace IPv4NetworkConfigurator

variable {routeInfos initial : List RouteInfo} {I J M F r : RouteInfo}
  {a b c e o : OriginalRouteInfo} {originals : List OriginalRouteInfo} {x : IPv4Address} {i j k : ℕ}
  {Q : ℕ → OriginalRouteInfo → Prop}

/-- The network of the route is the common prefix of both original routes. -/
structure Spans (a b : OriginalRouteInfo) (r : RouteInfo) : Prop where
  netmask : r.netmask = (mergedRoute (initialRoute a) (initialRoute b)).netmask
  destination : r.destination = (mergedRoute (initialRoute a) (initialRoute b)).destination

/-- The route has the network and the color of two original routes. -/
def Spanned (originals : List OriginalRouteInfo) (r : RouteInfo) : Prop :=
  ∃ a ∈ originals, ∃ b ∈ originals, a.color = r.color ∧ b.color = r.color ∧ Spans a b r

/-- The network of the original route is part of the one of the route. -/
def Covers (r : RouteInfo) (o : OriginalRouteInfo) : Prop :=
  Within r.netmask o.netmask ∧ Matches r.destination r.netmask o.destination

theorem Spans.netmask_iff (h : Spans a b r) :
    r.netmask.getLsbD k = true ↔ CommonTo (initialRoute a) (initialRoute b) k := by
  rw [h.netmask, netmask_mergedRoute]

theorem Spans.destination_iff (h : Spans a b r) : r.destination.getLsbD k = true ↔
    a.destination.getLsbD k = true ∧ CommonTo (initialRoute a) (initialRoute b) k := by
  rw [h.destination, destination_mergedRoute]
  rfl

theorem CommonTo.mono {l : ℕ} (h : CommonTo I J k) (hkl : k ≤ l) (hl : l < 32) : CommonTo I J l :=
  ⟨hl, fun n hln hn => h.2 n (hkl.trans hln) hn⟩

/-- Up from the bit, two originals that span agree with their route. -/
theorem Spans.destination_eq (h : Spans a b r)
    (hcommon : CommonTo (initialRoute a) (initialRoute b) k) :
    r.destination.getLsbD k = a.destination.getLsbD k := by
  rw [Bool.eq_iff_iff, h.destination_iff]
  simp [hcommon]

/-- A common bit of two merged routes is one of all four originals. -/
theorem commonTo_iff (hI : Spans a b I) (hJ : Spans c e J) : CommonTo I J k ↔
    CommonTo (initialRoute a) (initialRoute b) k ∧ CommonTo (initialRoute c) (initialRoute e) k ∧
      CommonTo (initialRoute a) (initialRoute c) k := by
  constructor
  · intro h
    have hab := hI.netmask_iff.mp (h.2 k (Nat.le_refl k) h.1).2.1
    have hce := hJ.netmask_iff.mp (h.2 k (Nat.le_refl k) h.1).2.2
    refine ⟨hab, hce, h.1, fun l hkl hl => ⟨?_, ?_, ?_⟩⟩
    · have hsame := (h.2 l hkl hl).1
      rwa [hI.destination_eq (hab.mono hkl hl), hJ.destination_eq (hce.mono hkl hl)] at hsame
    · exact (hab.2 l hkl hl).2.1
    · exact (hce.2 l hkl hl).2.1
  · rintro ⟨hab, hce, hac⟩
    refine ⟨hab.1, fun l hkl hl => ⟨?_, ?_, ?_⟩⟩
    · rw [hI.destination_eq (hab.mono hkl hl), hJ.destination_eq (hce.mono hkl hl)]
      exact (hac.2 l hkl hl).1
    · exact hI.netmask_iff.mpr (hab.mono hkl hl)
    · exact hJ.netmask_iff.mpr (hce.mono hkl hl)

theorem commonTo_total (I J A B : RouteInfo) :
    (∀ k, CommonTo I J k → CommonTo A B k) ∨ (∀ k, CommonTo A B k → CommonTo I J k) := by
  by_contra hnot
  obtain ⟨hleft, hright⟩ := not_or.mp hnot
  simp only [not_forall] at hleft hright
  obtain ⟨k, hk, hnk⟩ := hleft
  obtain ⟨l, hl, hnl⟩ := hright
  rcases Nat.le_total k l with hkl | hlk
  · exact hnl (hk.mono hkl hl.1)
  · exact hnk (hl.mono hlk hk.1)

theorem spans_of_iff (hM : ∀ k, CommonTo I J k ↔ CommonTo (initialRoute a) (initialRoute b) k)
    (hdest : ∀ k, CommonTo I J k → I.destination.getLsbD k = a.destination.getLsbD k) :
    Spans a b (mergedRoute I J) := by
  constructor
  · apply BitVec.eq_of_getLsbD_eq
    intro k _
    rw [Bool.eq_iff_iff, netmask_mergedRoute, netmask_mergedRoute, hM]
  · apply BitVec.eq_of_getLsbD_eq
    intro k _
    rw [Bool.eq_iff_iff, destination_mergedRoute, destination_mergedRoute, ← hM]
    refine and_congr_left fun hcommon => ?_
    rw [hdest k hcommon]
    rfl

/-- The shortest of the common prefixes of four originals is that of two of them. -/
theorem spans_mergedRoute (hI : Spans a b I) (hJ : Spans c e J) :
    Spans a b (mergedRoute I J) ∨ Spans c e (mergedRoute I J) ∨ Spans a c (mergedRoute I J) := by
  have hiff := fun k => commonTo_iff (k := k) hI hJ
  have ha : ∀ k, CommonTo I J k → I.destination.getLsbD k = a.destination.getLsbD k :=
    fun k hk => hI.destination_eq ((hiff k).mp hk).1
  have hc : ∀ k, CommonTo I J k → I.destination.getLsbD k = c.destination.getLsbD k := by
    intro k hk
    rw [ha k hk]
    exact (((hiff k).mp hk).2.2.2 k (Nat.le_refl k) hk.1).1
  have hshortest : (∀ k, CommonTo (initialRoute a) (initialRoute b) k → CommonTo I J k) ∨
      (∀ k, CommonTo (initialRoute c) (initialRoute e) k → CommonTo I J k) ∨
      (∀ k, CommonTo (initialRoute a) (initialRoute c) k → CommonTo I J k) := by
    have habce := commonTo_total (initialRoute a) (initialRoute b) (initialRoute c) (initialRoute e)
    have habac := commonTo_total (initialRoute a) (initialRoute b) (initialRoute a) (initialRoute c)
    have hceac := commonTo_total (initialRoute c) (initialRoute e) (initialRoute a) (initialRoute c)
    rcases habce with habce | hceab
    · rcases habac with habac | hacab
      · exact .inl fun k hk => (hiff k).mpr ⟨hk, habce k hk, habac k hk⟩
      · exact .inr (.inr fun k hk => (hiff k).mpr ⟨hacab k hk, habce k (hacab k hk), hk⟩)
    · rcases hceac with hceac | hacce
      · exact .inr (.inl fun k hk => (hiff k).mpr ⟨hceab k hk, hk, hceac k hk⟩)
      · exact .inr (.inr fun k hk => (hiff k).mpr ⟨hceab k (hacce k hk), hacce k hk, hk⟩)
  rcases hshortest with h | h | h
  · exact .inl (spans_of_iff (fun k => ⟨fun hk => ((hiff k).mp hk).1, h k⟩) ha)
  · exact .inr (.inl (spans_of_iff (fun k => ⟨fun hk => ((hiff k).mp hk).2.1, h k⟩) hc))
  · exact .inr (.inr (spans_of_iff (fun k => ⟨fun hk => ((hiff k).mp hk).2.2, h k⟩) ha))

theorem Spanned.merged (hI : Spanned originals I) (hJ : Spanned originals J)
    (hcolor : I.color = J.color) : Spanned originals (mergedRoute I J) := by
  obtain ⟨a, ha, b, hb, hac, hbc, hI⟩ := hI
  obtain ⟨c, hc, e, he, hcc, hec, hJ⟩ := hJ
  have hmerged : (mergedRoute I J).color = I.color := rfl
  rcases spans_mergedRoute hI hJ with h | h | h
  · exact ⟨a, ha, b, hb, hac, hbc, h⟩
  · exact ⟨c, hc, e, he, hcc.trans hcolor.symm, hec.trans hcolor.symm, h⟩
  · exact ⟨a, ha, c, hc, hac, hcc.trans hcolor.symm, h⟩

end IPv4NetworkConfigurator

namespace IPv4NetworkConfigurator

variable {routeInfos : List RouteInfo} {F G : RouteInfo} {o : OriginalRouteInfo}
  {originals : List OriginalRouteInfo} {x : IPv4Address} {colorToRoute colors routes : List IPv4Route}
  {p q r : IPv4Route} {Q : ℕ → OriginalRouteInfo → Prop}

section Colors

variable {R : OriginalRouteInfo → IPv4Route → Prop}

end Colors

/-- The common prefix of both routes contains the address. -/
def PrefixContains (a b : IPv4Route) (x : IPv4Address) : Prop :=
  Matches (findLongestCommonDestinationPrefix a.dest a.netmask b.dest b.netmask).1
    (findLongestCommonDestinationPrefix a.dest a.netmask b.dest b.netmask).2 x
deriving Decidable

/-- Two routes of one other color. -/
def OtherColor (r a b : IPv4Route) : Prop :=
  routesHaveSameColor a b = true ∧ routesHaveSameColor a r = false
deriving Decidable

/-- No common prefix of routes of one other color contains the address, or there is a route of
the color whose destination no common prefix tells apart from it. -/
def Undisturbed (routes : List IPv4Route) (x : IPv4Address) (r : IPv4Route) : Prop :=
  (∀ a ∈ routes, ∀ b ∈ routes, OtherColor r a b → ¬PrefixContains a b x) ∨
    ∃ p ∈ routes, routesHaveSameColor p r = true ∧
      (∀ a ∈ routes, ∀ b ∈ routes, OtherColor r a b → PrefixContains a b x →
        PrefixContains a b p.dest) ∧
      ∀ a ∈ routes, ∀ b ∈ routes, routesHaveSameColor a r = true → routesHaveSameColor b r = true →
        PrefixContains a b p.dest → PrefixContains a b x
deriving Decidable

end IPv4NetworkConfigurator

end inet

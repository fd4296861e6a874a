import LoRaInet.Common.Serializer.IPv6.IPv6Serializer
import LoRaInet.Container.Basic
import LoRaInet.Transition.Run
import Mathlib.Data.List.Rotate

open omnetpp container transition

namespace inet

inductive ReachabilityState where
  | INCOMPLETE
  | REACHABLE
  | STALE
  | DELAY
  | PROBE

/-- A neighbour is referred to by its key. -/
structure Key where
  address : IPv6Address
  interfaceID : ℤ
  deriving DecidableEq

structure Neighbour where
  isRouter : Bool
  reachabilityState : ReachabilityState
  prevDefaultRouter : Option Key
  nextDefaultRouter : Option Key

def Neighbour.isDefaultRouter (nbor : Neighbour) : Bool :=
  nbor.prevDefaultRouter.isSome && nbor.nextDefaultRouter.isSome

/-- `head` is that of the `DefaultRouterList`. -/
structure IPv6NeighbourCache where
  neighbourMap : Map Key Neighbour
  head : Option Key

namespace IPv6NeighbourCache

variable (c : IPv6NeighbourCache)

/-- What a pointer refers to; it is null, or its neighbour is erased, where there is nothing. -/
def deref (pointer : Option Key) : Except Fault Neighbour :=
  match pointer.bind fun key => c.neighbourMap.lookup key with
  | some nbor => .ok nbor
  | none => .error .nullPointer

/-- An assignment to fields of a neighbour. -/
def assign (pointer : Option Key) (f : Neighbour → Neighbour) :
    Except Fault IPv6NeighbourCache := do
  let nbor ← c.deref pointer
  match pointer with
  | some key => .ok { c with neighbourMap := c.neighbourMap.insert key (f nbor) }
  | none => .error .nullPointer

namespace DefaultRouterList

/-- The part of `add` for a list that has a head. -/
def insertBefore (head router : Key) : Except Fault IPv6NeighbourCache := do
  let first ← c.deref (some head)
  let c ← c.assign first.prevDefaultRouter ({ · with nextDefaultRouter := some router })
  let c ← c.assign (some router) ({ · with prevDefaultRouter := some head })
  let c ← c.assign (some head) ({ · with prevDefaultRouter := some router })
  c.assign (some router) ({ · with nextDefaultRouter := some head })

def add (router : Key) : Except Fault IPv6NeighbourCache := do
  let nbor ← c.deref (some router)
  ASSERT (nbor.isRouter = true) "router.isRouter"
  ASSERT (nbor.nextDefaultRouter = none) "!router.nextDefaultRouter"
  ASSERT (nbor.prevDefaultRouter = none) "!router.prevDefaultRouter"
  match c.head with
  | some head => insertBefore c head router
  | none =>
    IPv6NeighbourCache.assign { c with head := some router } (some router)
      ({ · with prevDefaultRouter := some router, nextDefaultRouter := some router })

/-- The part of `remove` before the pointers of the router itself are reset. -/
def unlink (router : Key) (nbor : Neighbour) : Except Fault IPv6NeighbourCache :=
  if nbor.nextDefaultRouter = some router then .ok { c with head := none }
  else do
    let c := { c with head := if c.head = some router then nbor.nextDefaultRouter else c.head }
    let c ← c.assign nbor.nextDefaultRouter ({ · with prevDefaultRouter := nbor.prevDefaultRouter })
    c.assign nbor.prevDefaultRouter ({ · with nextDefaultRouter := nbor.nextDefaultRouter })

def remove (router : Key) : Except Fault IPv6NeighbourCache := do
  let nbor ← c.deref (some router)
  ASSERT (nbor.isDefaultRouter = true) "router.isDefaultRouter()"
  let c ← unlink c router nbor
  c.assign (some router) ({ · with prevDefaultRouter := none, nextDefaultRouter := none })

end DefaultRouterList

variable (key : Key)

/-- A neighbour that does not exist yet. -/
def create (nbor : Neighbour) : Except Fault IPv6NeighbourCache := do
  ASSERT (c.neighbourMap.lookup key = none) "neighbourMap.find(key) == neighbourMap.end()"
  .ok { c with neighbourMap := c.neighbourMap.insert key nbor }

def addNeighbour (reachabilityState : ReachabilityState) : Except Fault IPv6NeighbourCache :=
  c.create key ⟨false, reachabilityState, none, none⟩

def addRouter : Except Fault IPv6NeighbourCache := do
  let c ← c.create key ⟨true, .STALE, none, none⟩
  DefaultRouterList.add c key

def removeDefaultRouter (nbor : Neighbour) : Except Fault IPv6NeighbourCache :=
  if nbor.isDefaultRouter then DefaultRouterList.remove c key else .ok c

def remove (key : Key) : Except Fault IPv6NeighbourCache := do
  ASSERT (c.neighbourMap.lookup key ≠ none) "it != neighbourMap.end()"
  let nbor ← c.deref (some key)
  let c ← c.removeDefaultRouter key nbor
  .ok { c with neighbourMap := c.neighbourMap.erase key }

def invalidateEntriesForInterfaceID (interfaceID : ℤ) : IPv6NeighbourCache :=
  let keys := c.neighbourMap.keys.filter (·.interfaceID = interfaceID)
  { c with neighbourMap := keys.foldl (fun m key => match m.lookup key with
    | some nbor => m.insert key { nbor with reachabilityState := .PROBE }
    | none => m) c.neighbourMap }

def invalidateAllEntries : Except Fault IPv6NeighbourCache := do
  let c ← c.neighbourMap.keys.foldlM remove c
  .ok { c with head := none }

inductive Event where
  | addNeighbour (key : Key) (reachabilityState : ReachabilityState)
  | addRouter (key : Key)
  | remove (key : Key)
  | invalidateEntriesForInterfaceID (interfaceID : ℤ)
  | invalidateAllEntries
  /-- The neighbour discovery writes this field itself. -/
  | setRouter (key : Key) (isRouter : Bool)
  | addToList (key : Key)
  | removeFromList (key : Key)

def step (event : Event) : Except Fault IPv6NeighbourCache :=
  match event with
  | .addNeighbour key reachabilityState => c.addNeighbour key reachabilityState
  | .addRouter key => c.addRouter key
  | .remove key => c.remove key
  | .invalidateEntriesForInterfaceID interfaceID =>
    .ok (c.invalidateEntriesForInterfaceID interfaceID)
  | .invalidateAllEntries => c.invalidateAllEntries
  | .setRouter key isRouter => c.assign (some key) ({ · with isRouter := isRouter })
  | .addToList key => DefaultRouterList.add c key
  | .removeFromList key => DefaultRouterList.remove c key

def initial : IPv6NeighbourCache := ⟨∅, none⟩

/-- The default routers that were added and not removed, in the order of addition. -/
def members : List Event → List Key
  | [] => []
  | .addRouter key :: history => members history ++ [key]
  | .addToList key :: history => members history ++ [key]
  | .remove key :: history => (members history).erase key
  | .removeFromList key :: history => (members history).erase key
  | .invalidateAllEntries :: _ => []
  | .addNeighbour _ _ :: history => members history
  | .invalidateEntriesForInterfaceID _ :: history => members history
  | .setRouter _ _ :: history => members history

def next (key : Key) : Option Key := (c.neighbourMap.lookup key).bind (·.nextDefaultRouter)

def prev (key : Key) : Option Key := (c.neighbourMap.lookup key).bind (·.prevDefaultRouter)

/-- The default routers form a ring. -/
structure Ring (routers : List Key) : Prop where
  nodup : routers.Nodup
  order : ∃ l : List Key, l.IsRotated routers ∧ c.head = l.head? ∧
    ∀ i < l.length, ∃ key ∈ l[i]?, c.next key = l[(i + 1) % l.length]?
  inverse : ∀ key other, c.next key = some other ↔ c.prev other = some key
  alive : ∀ key other, c.next key = some other ∨ c.prev key = some other →
    (c.neighbourMap.lookup other).isSome = true
  isDefaultRouter : ∀ key, key ∈ routers ↔
    ∃ nbor, c.neighbourMap.lookup key = some nbor ∧ nbor.isDefaultRouter = true

/-- Where the pointers of a list of at most two routers point, in both directions. -/
def partner (routers : List Key) (key : Key) : Option Key :=
  match routers with
  | [a] => if key = a then some a else none
  | [a, b] => if key = a then some b else if key = b then some a else none
  | _ => none

/-- What holds while there are at most two default routers. -/
structure Small (routers : List Key) : Prop where
  few : routers.length ≤ 2
  nodup : routers.Nodup
  head : c.head = none ∧ routers = [] ∨ ∃ key ∈ routers, c.head = some key
  alive : ∀ key ∈ routers, ∃ nbor, c.neighbourMap.lookup key = some nbor
  pointers : ∀ key nbor, c.neighbourMap.lookup key = some nbor →
    nbor.prevDefaultRouter = partner routers key ∧ nbor.nextDefaultRouter = partner routers key

section Small

variable {c : IPv6NeighbourCache} {routers : List Key}

theorem cases_of_few (h : routers.length ≤ 2) :
    routers = [] ∨ (∃ a, routers = [a]) ∨ ∃ a b, routers = [a, b] := by
  match routers with
  | [] => exact .inl rfl
  | [a] => exact .inr (.inl ⟨a, rfl⟩)
  | [a, b] => exact .inr (.inr ⟨a, b, rfl⟩)
  | _ :: _ :: _ :: _ =>
    simp only [List.length_cons] at h
    omega

theorem partner_isSome_iff (h : routers.length ≤ 2) {key : Key} :
    (partner routers key).isSome = true ↔ key ∈ routers := by
  obtain rfl | ⟨a, rfl⟩ | ⟨a, b, rfl⟩ := cases_of_few h
  · simp [partner]
  · by_cases ha : key = a <;> simp [partner, ha]
  · simp only [partner, List.mem_cons, List.not_mem_nil, or_false]
    grind

theorem partner_mem (h : routers.length ≤ 2) {key other : Key}
    (hpartner : partner routers key = some other) : other ∈ routers := by
  obtain rfl | ⟨a, rfl⟩ | ⟨a, b, rfl⟩ := cases_of_few h
  · simp [partner] at hpartner
  · by_cases ha : key = a <;> simp_all [partner]
  · by_cases ha : key = a
    · simp_all [partner]
    · by_cases hb : key = b <;> simp_all [partner]

theorem partner_symm (hnodup : routers.Nodup) (h : routers.length ≤ 2) (key other : Key) :
    partner routers key = some other ↔ partner routers other = some key := by
  obtain rfl | ⟨a, rfl⟩ | ⟨a, b, rfl⟩ := cases_of_few h
  · simp [partner]
  · simp only [partner]
    grind
  · have hne : a ≠ b := by simpa using hnodup
    simp only [partner]
    grind

theorem Small.next_eq (h : c.Small routers) (key : Key) : c.next key = partner routers key := by
  rw [next]
  cases hlookup : c.neighbourMap.lookup key with
  | some nbor => exact (h.pointers key nbor hlookup).2
  | none =>
    cases hpartner : partner routers key with
    | none => rfl
    | some other =>
      obtain ⟨nbor, hnbor⟩ := h.alive key ((partner_isSome_iff h.few).mp (by rw [hpartner]; rfl))
      rw [hlookup] at hnbor
      cases hnbor

theorem Small.prev_eq (h : c.Small routers) (key : Key) : c.prev key = partner routers key := by
  rw [← h.next_eq, prev, next]
  cases hlookup : c.neighbourMap.lookup key with
  | none => rfl
  | some nbor =>
    obtain ⟨hprev, hnext⟩ := h.pointers key nbor hlookup
    exact hprev.trans hnext.symm

theorem Small.isDefaultRouter_iff (h : c.Small routers) {key : Key} {nbor : Neighbour}
    (hnbor : c.neighbourMap.lookup key = some nbor) :
    nbor.isDefaultRouter = true ↔ key ∈ routers := by
  obtain ⟨hprev, hnext⟩ := h.pointers key nbor hnbor
  rw [Neighbour.isDefaultRouter, hprev, hnext, Bool.and_self, partner_isSome_iff h.few]

theorem Small.ring (h : c.Small routers) : c.Ring routers := by
  refine ⟨h.nodup, ?_, fun key other => ?_, fun key other hpointer => ?_, fun key => ?_⟩
  · obtain hrouters | ⟨a, rfl⟩ | ⟨a, b, rfl⟩ := cases_of_few h.few
    · obtain ⟨hhead, -⟩ | ⟨key, hkey, -⟩ := h.head
      · exact ⟨[], hrouters ▸ List.IsRotated.refl _, hhead, by simp⟩
      · rw [hrouters] at hkey
        cases hkey
    · obtain ⟨-, hnil⟩ | ⟨key, hkey, hhead⟩ := h.head
      · cases hnil
      · obtain rfl := List.mem_singleton.mp hkey
        exact ⟨[key], .refl _, hhead, by simp [h.next_eq, partner]⟩
    · have hne : b ≠ a := by simpa [eq_comm] using h.nodup
      obtain ⟨-, hnil⟩ | ⟨key, hkey, hhead⟩ := h.head
      · cases hnil
      · obtain rfl | rfl : key = a ∨ key = b := by simpa using hkey
        · refine ⟨[key, b], .refl _, hhead, fun i hi => ?_⟩
          obtain rfl | rfl : i = 0 ∨ i = 1 := by simp only [List.length_cons, List.length_nil] at hi; omega
          · exact ⟨key, rfl, by simp [h.next_eq, partner]⟩
          · exact ⟨b, rfl, by simp [h.next_eq, partner, hne]⟩
        · refine ⟨[key, a], ⟨1, rfl⟩, hhead, fun i hi => ?_⟩
          obtain rfl | rfl : i = 0 ∨ i = 1 := by simp only [List.length_cons, List.length_nil] at hi; omega
          · exact ⟨key, rfl, by simp [h.next_eq, partner, hne]⟩
          · exact ⟨a, rfl, by simp [h.next_eq, partner]⟩
  · rw [h.next_eq, h.prev_eq, partner_symm h.nodup h.few]
  · rw [h.next_eq, h.prev_eq, or_self] at hpointer
    obtain ⟨nbor, hnbor⟩ := h.alive other (partner_mem h.few hpointer)
    rw [hnbor]
    rfl
  · constructor
    · intro hkey
      obtain ⟨nbor, hnbor⟩ := h.alive key hkey
      exact ⟨nbor, hnbor, (h.isDefaultRouter_iff hnbor).mpr hkey⟩
    · rintro ⟨nbor, hnbor, hdefault⟩
      exact (h.isDefaultRouter_iff hnbor).mp hdefault

end Small

section Operations

variable {c c' : IPv6NeighbourCache} {routers : List Key} {key : Key} {nbor : Neighbour}

theorem deref_some (h : c.neighbourMap.lookup key = some nbor) : c.deref (some key) = .ok nbor := by
  rw [deref, Option.bind_some, h]

theorem deref_eq_ok (h : c.deref (some key) = .ok nbor) : c.neighbourMap.lookup key = some nbor := by
  rw [deref, Option.bind_some] at h
  cases hlookup : c.neighbourMap.lookup key with
  | none => simp [hlookup] at h
  | some other =>
    rw [hlookup] at h
    exact congrArg some (Except.ok.inj h)

theorem assign_some (h : c.neighbourMap.lookup key = some nbor) (f : Neighbour → Neighbour) :
    c.assign (some key) f = .ok { c with neighbourMap := c.neighbourMap.insert key (f nbor) } := by
  rw [assign, deref_some h]
  rfl

open DefaultRouterList

open IPv6NeighbourCache

/-- All the pointers that are written when a router comes before the head. -/
theorem insertBefore_returns {head last : Key} {first final : Neighbour}
    (hhead : c.neighbourMap.lookup head = some first) (hlast : first.prevDefaultRouter = some last)
    (hfinal : c.neighbourMap.lookup last = some final)
    (hkey : c.neighbourMap.lookup key = some nbor) (hne : key ≠ head) (hne' : key ≠ last) :
    Returns (insertBefore c head key) fun c' => c'.head = c.head ∧
      ∀ j, c'.neighbourMap.lookup j = if j = key then
          some { nbor with prevDefaultRouter := some head, nextDefaultRouter := some head }
        else if j = head then some { first with
          prevDefaultRouter := some key
          nextDefaultRouter := if head = last then some key else first.nextDefaultRouter }
        else if j = last then some { final with nextDefaultRouter := some key }
        else c.neighbourMap.lookup j := by
  rw [insertBefore, deref_some hhead]
  change Returns (c.assign first.prevDefaultRouter _ >>= _) _
  rw [hlast, assign_some hfinal]
  change Returns (assign _ (some key) _ >>= _) _
  rw [@assign_some _ key nbor (by rw [Map.lookup_insert_eq, if_neg hne', hkey])]
  change Returns (assign _ (some head) _ >>= _) _
  rw [@assign_some _ head (if head = last then { final with nextDefaultRouter := some key } else first)
    (by simp only [Map.lookup_insert_eq, hne.symm, if_false, hhead]; split <;> rfl)]
  change Returns (assign _ (some key) _) _
  rw [@assign_some _ key { nbor with prevDefaultRouter := some head }
    (by simp only [Map.lookup_insert_eq, hne, if_false, if_true])]
  refine .ok ⟨rfl, fun j => ?_⟩
  simp only [Map.lookup_insert_eq]
  by_cases hj : j = key
  · simp [hj]
  · by_cases hjhead : j = head
    · by_cases heq : head = last
      · subst heq
        obtain rfl := Option.some.inj (hhead.symm.trans hfinal)
        simp [hjhead, hne.symm]
      · simp [hjhead, heq, hne.symm]
    · simp [hj, hjhead]

theorem add_cases (h : add c key = .ok c') :
    ∃ nbor, c.neighbourMap.lookup key = some nbor ∧ nbor.prevDefaultRouter = none ∧
      nbor.nextDefaultRouter = none ∧
      ((∃ head, c.head = some head ∧ insertBefore c head key = .ok c') ∨
        c.head = none ∧ c'.head = some key ∧ c'.neighbourMap = c.neighbourMap.insert key
          { nbor with prevDefaultRouter := some key, nextDefaultRouter := some key }) := by
  obtain ⟨nbor, hnbor, h⟩ := bind_eq_ok_iff.mp h
  have hlookup := deref_eq_ok hnbor
  obtain ⟨_, -, h⟩ := bind_eq_ok_iff.mp h
  obtain ⟨_, hnext, h⟩ := bind_eq_ok_iff.mp h
  obtain ⟨_, hprev, h⟩ := bind_eq_ok_iff.mp h
  refine ⟨nbor, hlookup, assert_eq_ok.mp hprev, assert_eq_ok.mp hnext, ?_⟩
  cases hhead : c.head with
  | some head =>
    rw [hhead] at h
    exact .inl ⟨head, rfl, h⟩
  | none =>
    rw [hhead] at h
    simp only at h
    rw [@assign_some { c with head := some key } key nbor hlookup] at h
    cases h
    exact .inr ⟨rfl, rfl, rfl⟩

theorem Small.notMem (h : c.Small routers) (hnbor : c.neighbourMap.lookup key = some nbor)
    (hprev : nbor.prevDefaultRouter = none) : key ∉ routers := by
  rw [← partner_isSome_iff h.few, ← (h.pointers key nbor hnbor).1, hprev]
  simp

theorem Small.add (h : c.Small routers) (hfew : routers.length ≤ 1)
    (hadd : add c key = .ok c') : c'.Small (routers ++ [key]) := by
  obtain ⟨nbor, hnbor, hprev, -, hcases⟩ := add_cases hadd
  have hmem := h.notMem hnbor hprev
  obtain rfl | ⟨a, rfl⟩ | ⟨a, b, rfl⟩ := cases_of_few h.few
  · obtain ⟨head, hhead, -⟩ | ⟨-, hhead, hmap⟩ := hcases
    · obtain ⟨hnone, -⟩ | ⟨other, hother, -⟩ := h.head
      · rw [hhead] at hnone
        cases hnone
      · cases hother
    · refine ⟨by simp, by simp, .inr ⟨key, by simp, hhead⟩, fun j hj => ?_, fun j n hn => ?_⟩
      · obtain rfl := List.mem_singleton.mp hj
        exact ⟨_, by rw [hmap, Map.lookup_insert_eq, if_pos rfl]⟩
      · rw [hmap, Map.lookup_insert_eq] at hn
        split at hn
        · next hj =>
          cases hn
          simp [partner, hj]
        · next hj =>
          simpa [partner, hj] using h.pointers j n hn
  · obtain ⟨head, hhead, hinsert⟩ | ⟨hhead, -, -⟩ := hcases
    · obtain ⟨hnone, -⟩ | ⟨other, hother, hsome⟩ := h.head
      · rw [hhead] at hnone
        cases hnone
      · obtain rfl := List.mem_singleton.mp hother
        obtain rfl := Option.some.inj (hhead.symm.trans hsome)
        obtain ⟨first, hfirst⟩ := h.alive head (.head _)
        have hne : key ≠ head := by simpa using hmem
        have hlast : first.prevDefaultRouter = some head := by
          rw [(h.pointers head first hfirst).1]
          simp [partner]
        obtain ⟨d, hd, hsame, hlookup⟩ := insertBefore_returns hfirst hlast hfirst hnbor hne hne
        obtain rfl := Except.ok.inj (hinsert.symm.trans hd)
        refine ⟨by simp, by simpa using hne.symm, .inr ⟨head, by simp, hsame.trans hhead⟩,
          fun j hj => ?_, fun j n hn => ?_⟩
        · rw [hlookup]
          obtain rfl | rfl : j = head ∨ j = key := by simpa using hj
          · exact ⟨_, by rw [if_neg hne.symm, if_pos rfl]⟩
          · exact ⟨_, if_pos rfl⟩
        · rw [hlookup] at hn
          split at hn
          · next hj =>
            cases hn
            simp [partner, hj, hne]
          · next hj =>
            split at hn
            · next hjhead =>
              cases hn
              simp [partner, hjhead]
            · next hjhead =>
              simpa [partner, hj, hjhead] using h.pointers j n hn
    · obtain ⟨-, hnil⟩ | ⟨other, -, hsome⟩ := h.head
      · cases hnil
      · rw [hhead] at hsome
        cases hsome
  · simp at hfew

/-- A third router gets the head as its predecessor, which is not the last router. -/
theorem Small.not_ring_of_add (h : c.Small routers) (hmany : ¬ routers.length ≤ 1)
    (hadd : DefaultRouterList.add c key = .ok c') (routers' : List Key) : ¬ c'.Ring routers' := by
  intro hring
  obtain ⟨nbor, hnbor, hprev, -, hcases⟩ := add_cases hadd
  have hmem := h.notMem hnbor hprev
  obtain ⟨head, hhead, last, hlast, hne⟩ : ∃ head, c.head = some head ∧ ∃ last,
      partner routers head = some last ∧ head ≠ last := by
    obtain rfl | ⟨a, rfl⟩ | ⟨a, b, rfl⟩ := cases_of_few h.few
    · simp at hmany
    · simp at hmany
    · have hne : a ≠ b := by simpa using h.nodup
      obtain ⟨-, hnil⟩ | ⟨head, hhead, hsome⟩ := h.head
      · cases hnil
      · obtain rfl | rfl : head = a ∨ head = b := by simpa using hhead
        · exact ⟨head, hsome, b, by simp [partner], hne⟩
        · exact ⟨head, hsome, a, by simp [partner, hne.symm], hne.symm⟩
  obtain ⟨first, hfirst⟩ := h.alive head ((partner_isSome_iff h.few).mp (by rw [hlast]; rfl))
  obtain ⟨final, hfinal⟩ := h.alive last (partner_mem h.few hlast)
  have hback : partner routers last = some head := (partner_symm h.nodup h.few _ _).mp hlast
  have hne' : key ≠ head := fun heq => hmem
    (heq ▸ (partner_isSome_iff h.few).mp (by rw [hlast]; rfl))
  have hne'' : key ≠ last := fun heq => hmem (heq ▸ partner_mem h.few hlast)
  obtain ⟨_, hsome, hinsert⟩ | ⟨hnone, -, -⟩ := hcases
  · obtain rfl := Option.some.inj (hhead.symm.trans hsome)
    obtain ⟨d, hd, -, hlookup⟩ := insertBefore_returns hfirst
      ((h.pointers _ _ hfirst).1.trans hlast) hfinal hnbor hne' hne''
    obtain rfl := Except.ok.inj (hinsert.symm.trans hd)
    have hnext : c'.next last = some key := by
      rw [next, hlookup, if_neg hne''.symm, if_neg hne.symm, if_pos rfl]
      rfl
    have hprev' : c'.prev key = some head := by
      rw [prev, hlookup, if_pos rfl]
      rfl
    exact hne (Option.some.inj (hprev'.symm.trans ((hring.inverse _ _).mp hnext)))
  · rw [hhead] at hnone
    cases hnone

theorem erase_eq (hnodup : routers.Nodup) (hfew : routers.length ≤ 2) {other : Key}
    (h : partner routers key = some other) :
    routers.erase key = if other = key then [] else [other] := by
  obtain rfl | ⟨a, rfl⟩ | ⟨a, b, rfl⟩ := cases_of_few hfew
  · simp [partner] at h
  · simp only [partner] at h
    grind
  · have hne : a ≠ b := by simpa using hnodup
    simp only [partner] at h
    grind

theorem partner_of_notMem (hfew : routers.length ≤ 2) (h : key ∉ routers) :
    partner routers key = none := by
  rw [← partner_isSome_iff hfew] at h
  simpa using h

theorem remove_cases (h : DefaultRouterList.remove c key = .ok c') :
    ∃ nbor, c.neighbourMap.lookup key = some nbor ∧ nbor.isDefaultRouter = true ∧
      ∃ d, DefaultRouterList.unlink c key nbor = .ok d ∧ assign d (some key)
          ({ · with prevDefaultRouter := none, nextDefaultRouter := none }) = .ok c' := by
  obtain ⟨nbor, hnbor, h⟩ := bind_eq_ok_iff.mp h
  obtain ⟨_, hdefault, h⟩ := bind_eq_ok_iff.mp h
  obtain ⟨d, hd, h⟩ := bind_eq_ok_iff.mp h
  exact ⟨nbor, deref_eq_ok hnbor, assert_eq_ok.mp hdefault, d, hd, h⟩

theorem Small.removeFromList (h : c.Small routers)
    (hremove : DefaultRouterList.remove c key = .ok c') : c'.Small (routers.erase key) := by
  obtain ⟨nbor, hnbor, hdefault, d, hd, hassign⟩ := remove_cases hremove
  have hmem := (h.isDefaultRouter_iff hnbor).mp hdefault
  obtain ⟨other, hother⟩ := Option.isSome_iff_exists.mp ((partner_isSome_iff h.few).mpr hmem)
  obtain ⟨hprev, hnext⟩ := h.pointers key nbor hnbor
  rw [hother] at hprev hnext
  have hrest := erase_eq h.nodup h.few hother
  have hout : ∀ j, j ≠ key → j ∉ routers.erase key → partner routers j = none := fun j hj hj' =>
    partner_of_notMem h.few fun hjmem => hj' ((List.mem_erase_of_ne hj).mpr hjmem)
  by_cases heq : other = key
  · rw [DefaultRouterList.unlink, hnext, heq, if_pos rfl] at hd
    cases hd
    rw [@assign_some { c with head := none } key nbor hnbor] at hassign
    cases hassign
    rw [if_pos heq] at hrest
    rw [hrest] at hout ⊢
    refine ⟨by simp, by simp, .inl ⟨rfl, rfl⟩, by simp, fun j n hn => ?_⟩
    simp only [Map.lookup_insert_eq] at hn
    split at hn
    · cases hn
      simp [partner]
    · next hj =>
      rw [(h.pointers j n hn).1, (h.pointers j n hn).2, hout j hj (by simp)]
      simp [partner]
  · obtain ⟨n, hn⟩ := h.alive other (partner_mem h.few hother)
    rw [DefaultRouterList.unlink, hnext, hprev, if_neg (by simpa using heq)] at hd
    change assign _ (some other) _ >>= _ = _ at hd
    rw [@assign_some { c with head := if c.head = some key then some other else c.head } other n hn]
      at hd
    change assign _ (some other) _ = _ at hd
    rw [@assign_some _ other { n with prevDefaultRouter := some other }
      (by rw [Map.lookup_insert_eq, if_pos rfl])] at hd
    cases hd
    rw [@assign_some _ key nbor (by
      simp only [Map.lookup_insert_eq, Ne.symm heq, if_false, hnbor])] at hassign
    cases hassign
    rw [if_neg heq] at hrest
    rw [hrest] at hout ⊢
    refine ⟨by simp, by simp, .inr ⟨other, by simp, ?_⟩, fun j hj => ?_, fun j m hm => ?_⟩
    · obtain ⟨-, hnil⟩ | ⟨head, hhead, hsome⟩ := h.head
      · rw [hnil] at hmem
        cases hmem
      · by_cases hkey : c.head = some key
        · exact if_pos hkey
        · have hne : head ≠ key := fun hsame => hkey (hsame ▸ hsome)
          have hlast : head ∈ routers.erase key := (List.mem_erase_of_ne hne).mpr hhead
          rw [hrest] at hlast
          obtain rfl := List.mem_singleton.mp hlast
          exact (if_neg hkey).trans hsome
    · obtain rfl := List.mem_singleton.mp hj
      exact ⟨_, by simp only [Map.lookup_insert_eq, heq, if_false, if_true]; rfl⟩
    · simp only [Map.lookup_insert_eq] at hm
      by_cases hj : j = key
      · rw [if_pos hj] at hm
        cases hm
        simp [partner, hj, Ne.symm heq]
      · by_cases hj' : j = other
        · rw [if_neg hj, if_pos hj'] at hm
          cases hm
          simp [partner, hj']
        · rw [if_neg hj, if_neg hj', if_neg hj'] at hm
          rw [(h.pointers j m hm).1, (h.pointers j m hm).2, hout j hj (by simpa using hj')]
          simp [partner, hj']

theorem Small.erase (h : c.Small routers) (hkey : key ∉ routers) :
    IPv6NeighbourCache.Small { c with neighbourMap := c.neighbourMap.erase key } routers := by
  refine ⟨h.few, h.nodup, h.head, fun j hj => ?_, fun j n hn => ?_⟩
  · obtain ⟨n, hn⟩ := h.alive j hj
    have hne : j ≠ key := fun heq => hkey (heq ▸ hj)
    exact ⟨n, by rw [Map.lookup_erase_eq, if_neg hne, hn]⟩
  · rw [Map.lookup_erase_eq] at hn
    split at hn
    · cases hn
    · exact h.pointers j n hn

theorem Small.insert (h : c.Small routers)
    (hpointers : nbor.prevDefaultRouter = partner routers key ∧
      nbor.nextDefaultRouter = partner routers key) :
    IPv6NeighbourCache.Small { c with neighbourMap := c.neighbourMap.insert key nbor } routers := by
  refine ⟨h.few, h.nodup, h.head, fun j hj => ?_, fun j n hn => ?_⟩
  · obtain ⟨n, hn⟩ := h.alive j hj
    rw [Map.lookup_insert_eq]
    split
    · exact ⟨_, rfl⟩
    · exact ⟨n, hn⟩
  · rw [Map.lookup_insert_eq] at hn
    split at hn
    · next hj =>
      cases hn
      exact hj ▸ hpointers
    · exact h.pointers j n hn

theorem Small.remove (h : c.Small routers) (hremove : c.remove key = .ok c') :
    c'.Small (routers.erase key) := by
  obtain ⟨_, -, hremove⟩ := bind_eq_ok_iff.mp hremove
  obtain ⟨nbor, hnbor, hremove⟩ := bind_eq_ok_iff.mp hremove
  obtain ⟨d, hd, hremove⟩ := bind_eq_ok_iff.mp hremove
  cases hremove
  have hiff := h.isDefaultRouter_iff (deref_eq_ok hnbor)
  have hsmall : d.Small (routers.erase key) := by
    rw [removeDefaultRouter] at hd
    split at hd
    · exact h.removeFromList hd
    · next hno =>
      cases hd
      rwa [List.erase_of_not_mem fun hmem => hno (hiff.mpr hmem)]
  exact hsmall.erase h.nodup.not_mem_erase

theorem Small.assign (h : c.Small routers) {f : Neighbour → Neighbour}
    (hf : ∀ nbor, (f nbor).prevDefaultRouter = nbor.prevDefaultRouter ∧
      (f nbor).nextDefaultRouter = nbor.nextDefaultRouter)
    (hassign : c.assign (some key) f = .ok c') : c'.Small routers := by
  obtain ⟨nbor, hnbor, hassign⟩ := bind_eq_ok_iff.mp hassign
  cases hassign
  obtain ⟨hprev, hnext⟩ := h.pointers key nbor (deref_eq_ok hnbor)
  exact h.insert ⟨(hf nbor).1.trans hprev, (hf nbor).2.trans hnext⟩

theorem Small.create (h : c.Small routers) (hprev : nbor.prevDefaultRouter = none)
    (hnext : nbor.nextDefaultRouter = none) (hcreate : c.create key nbor = .ok c') :
    c'.Small routers := by
  obtain ⟨_, hnone, hcreate⟩ := bind_eq_ok_iff.mp hcreate
  have hlookup : c.neighbourMap.lookup key = none := assert_eq_ok.mp hnone
  cases hcreate
  have hmem : key ∉ routers := by
    intro hmem
    obtain ⟨n, hn⟩ := h.alive key hmem
    rw [hlookup] at hn
    cases hn
  have hpartner := partner_of_notMem h.few hmem
  exact h.insert ⟨hprev.trans hpartner.symm, hnext.trans hpartner.symm⟩

theorem Small.invalidateEntriesForInterfaceID (h : c.Small routers) (interfaceID : ℤ) :
    (c.invalidateEntriesForInterfaceID interfaceID).Small routers := by
  rw [IPv6NeighbourCache.invalidateEntriesForInterfaceID]
  induction c.neighbourMap.keys.filter (·.interfaceID = interfaceID) generalizing c with
  | nil => exact h
  | cons key keys ih =>
    cases hlookup : c.neighbourMap.lookup key with
    | none => simpa only [List.foldl_cons, hlookup] using ih h
    | some nbor =>
      have hinsert := @Small.insert _ _ key { nbor with reachabilityState := .PROBE } h
        (h.pointers key nbor hlookup)
      simpa only [List.foldl_cons, hlookup] using ih hinsert

theorem Small.foldlM_remove {keys : List Key} (h : c.Small routers)
    (hremove : keys.foldlM IPv6NeighbourCache.remove c = .ok c') :
    c'.Small (routers.diff keys) := by
  induction keys generalizing c routers with
  | nil => exact Except.ok.inj hremove ▸ h
  | cons key keys ih =>
    rw [List.foldlM_cons] at hremove
    obtain ⟨d, hd, hremove⟩ := bind_eq_ok_iff.mp hremove
    rw [List.diff_cons]
    exact ih (h.remove hd) hremove

theorem Small.invalidateAllEntries (h : c.Small routers)
    (hinvalidate : c.invalidateAllEntries = .ok c') : c'.Small [] := by
  obtain ⟨d, hd, hinvalidate⟩ := bind_eq_ok_iff.mp hinvalidate
  cases hinvalidate
  have hall : routers.diff c.neighbourMap.keys = [] := by
    rw [List.eq_nil_iff_forall_not_mem]
    intro key hkey
    obtain ⟨hmem, hno⟩ := h.nodup.mem_sdiff_iff.mp hkey
    obtain ⟨nbor, hnbor⟩ := h.alive key hmem
    exact hno (AList.lookup_isSome.mp (by rw [hnbor]; rfl))
  have hsmall := h.foldlM_remove hd
  rw [hall] at hsmall
  exact ⟨hsmall.few, hsmall.nodup, .inl ⟨rfl, rfl⟩, hsmall.alive, hsmall.pointers⟩

end Operations

section Runs

variable {c c' : IPv6NeighbourCache} {history : List Event}

/-- No third default router is added. -/
def Fits (history : List Event) (event : Event) : Prop :=
  match event with
  | .addRouter _ => (members history).length ≤ 1
  | .addToList _ => (members history).length ≤ 1
  | _ => True

theorem Small.step (h : c.Small (members history)) {event : Event} (hfits : Fits history event)
    (hstep : c.step event = .ok c') : c'.Small (members (event :: history)) := by
  cases event with
  | addNeighbour key state => exact h.create rfl rfl hstep
  | addRouter key =>
    obtain ⟨d, hd, hadd⟩ := bind_eq_ok_iff.mp hstep
    exact (h.create rfl rfl hd).add hfits hadd
  | remove key => exact h.remove hstep
  | invalidateEntriesForInterfaceID interfaceID =>
    exact Except.ok.inj hstep ▸ h.invalidateEntriesForInterfaceID interfaceID
  | invalidateAllEntries => exact h.invalidateAllEntries hstep
  | setRouter key isRouter =>
    exact @Small.assign _ _ _ key h ({ · with isRouter := isRouter }) (fun _ => ⟨rfl, rfl⟩) hstep
  | addToList key => exact h.add hfits hstep
  | removeFromList key => exact h.removeFromList hstep

theorem Small.not_ring_of_not_fits (h : c.Small (members history)) {event : Event}
    (hfits : ¬ Fits history event) (hstep : c.step event = .ok c') (routers : List Key) :
    ¬ c'.Ring routers := by
  cases event with
  | addRouter key =>
    obtain ⟨d, hd, hadd⟩ := bind_eq_ok_iff.mp hstep
    exact (h.create rfl rfl hd).not_ring_of_add hfits hadd routers
  | addToList key => exact h.not_ring_of_add hfits hstep routers
  | _ => exact absurd trivial hfits

theorem small_of_run (hrun : Run (· = initial) (fun c event c' => c.step event = .ok c') history c)
    (hfits : Always Fits history) : c.Small (members history) := by
  refine @Run.invariant_of_always _ _ _ _ Fits (fun history c => c.Small (members history)) _ _
    hrun hfits ?_ fun _ _ _ _ _ h hstep hfit => h.step hfit hstep
  rintro _ rfl
  exact ⟨by simp [members], by simp [members], .inl ⟨rfl, rfl⟩, by simp [members],
    fun _ _ h => by cases h⟩

/-- While no third router is added the list is a ring, and one that is added breaks it. -/
theorem ring_iff_fits (hrun : Run (· = initial) (fun c event c' => c.step event = .ok c') history c)
    (hfits : Always Fits history) :
    c.Ring (members history) ∧ ∀ event c', c.step event = .ok c' →
      (c'.Ring (members (event :: history)) ↔ Fits history event) := by
  have h := small_of_run hrun hfits
  refine ⟨h.ring, fun event c' hstep => ⟨fun hring => ?_, fun hfit => (h.step hfit hstep).ring⟩⟩
  by_contra hno
  exact h.not_ring_of_not_fits hno hstep _ hring

def router (interfaceID : ℤ) : Key := ⟨⟨0, 0, 0, 1⟩, interfaceID⟩

theorem ring_iff_fits_two : ∃ c : IPv6NeighbourCache, c.Ring [router 0, router 1] ∧
    ∀ event c', c.step event = .ok c' →
      (c'.Ring (members [event, .addRouter (router 1), .addRouter (router 0)]) ↔
        Fits [.addRouter (router 1), .addRouter (router 0)] event) :=
  ⟨_, @ring_iff_fits _ [.addRouter (router 1), .addRouter (router 0)]
    (.step (.step (.init rfl) rfl) rfl) (by simp [Fits, members])⟩

/-- After the third router is added and removed, the second is no longer reached and refers to
what is erased. -/
theorem second_router_lost : ∃ history c,
    Run (· = initial) (fun c event c' => c.step event = .ok c') history c ∧
      members history = [router 0, router 1] ∧ c.head = some (router 0) ∧
      c.next (router 0) = some (router 0) ∧ c.next (router 1) = some (router 2) ∧
      c.neighbourMap.lookup (router 2) = none ∧ ¬ c.Ring (members history) := by
  refine ⟨[.remove (router 2), .addRouter (router 2), .addRouter (router 1),
    .addRouter (router 0)], _,
    .step (.step (.step (.step (.init rfl) rfl) rfl) rfl) rfl, by decide, rfl, by decide,
    by decide, by decide, fun hring => ?_⟩
  have hlookup := hring.alive (router 1) (router 2) (.inl (by decide))
  revert hlookup
  decide

end Runs

end IPv6NeighbourCache

end inet

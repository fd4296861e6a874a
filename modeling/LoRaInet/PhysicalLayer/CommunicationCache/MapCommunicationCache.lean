import LoRaInet.PhysicalLayer.CommunicationCache.Lawful

open omnetpp container

namespace inet.physicallayer

/-- The keys are pointers to radios and transmissions, each of which has an id
of its own. -/
structure MapCommunicationCache (P : Type) where
  radioCache : Map Nat (RadioCacheEntry P) := ∅
  transmissionCache : Map Nat (TransmissionCacheEntryOf P (Map Nat (ReceptionCacheEntry P))) := ∅

namespace MapCommunicationCache

variable {P : Type} [DecidableEq P] (c : MapCommunicationCache P) (radio : Nat)

def getRadioCacheEntry : MapCommunicationCache P × Option (RadioCacheEntry P) :=
  let radioCache := Map.subscript c.radioCache radio {}
  ({ c with radioCache }, radioCache.lookup radio)

def putRadioCacheEntry (entry : RadioCacheEntry P) : MapCommunicationCache P :=
  { c with radioCache := c.radioCache.insert radio entry }

variable (transmission : Nat)

/-- The entry of a transmission, with a map of receptions. -/
def transmissionEntry : TransmissionCacheEntryOf P (Map Nat (ReceptionCacheEntry P)) :=
  let entry := (c.transmissionCache.lookup transmission).getD {}
  { entry with receptionCacheEntries := some (entry.receptionCacheEntries.getD ∅) }

def getTransmissionCacheEntry :
    MapCommunicationCache P × TransmissionCacheEntryOf P (Map Nat (ReceptionCacheEntry P)) :=
  ({ c with
    transmissionCache := c.transmissionCache.insert transmission (c.transmissionEntry transmission) },
    c.transmissionEntry transmission)

def putTransmissionCacheEntry (entry : TransmissionCacheEntry P) : MapCommunicationCache P :=
  { c with
    transmissionCache := c.transmissionCache.insert transmission
      { c.transmissionEntry transmission with toTransmissionCacheEntry := entry } }

/-- The map that the entry of a transmission points to. -/
def receptions : Map Nat (ReceptionCacheEntry P) :=
  (c.transmissionEntry transmission).receptionCacheEntries.getD ∅

def putReceptions
    (receptionCacheEntries : Map Nat (ReceptionCacheEntry P)) : MapCommunicationCache P :=
  { c with
    transmissionCache := c.transmissionCache.insert transmission
      { c.transmissionEntry transmission with
        receptionCacheEntries := some receptionCacheEntries } }

def getReceptionCacheEntry (radio transmission : Nat) :
    MapCommunicationCache P × Option (ReceptionCacheEntry P) :=
  let (c, _) := c.getTransmissionCacheEntry transmission
  let receptionCacheEntries := Map.subscript (c.receptions transmission) radio {}
  (c.putReceptions transmission receptionCacheEntries, receptionCacheEntries.lookup radio)

def putReceptionCacheEntry (radio transmission : Nat)
    (entry : ReceptionCacheEntry P) : MapCommunicationCache P :=
  c.putReceptions transmission ((c.receptions transmission).insert radio entry)

def addRadio (_radio : Nat) : MapCommunicationCache P := c

def eraseReception (entry : TransmissionCacheEntryOf P (Map Nat (ReceptionCacheEntry P))) :
    TransmissionCacheEntryOf P (Map Nat (ReceptionCacheEntry P)) :=
  { entry with receptionCacheEntries := entry.receptionCacheEntries.map (AList.erase radio) }

def removeRadio : MapCommunicationCache P where
  radioCache := c.radioCache.erase radio
  transmissionCache := Map.mapValues (eraseReception radio) c.transmissionCache

def addTransmission (_transmission : Nat) : MapCommunicationCache P := c

/-- One round of the loop over the receptions of a transmission, which looks up
`radioCache[radio]`. -/
def deleteInterval (radioCache : Map Nat (RadioCacheEntry P))
    (reception : Sigma fun _ : Nat => ReceptionCacheEntry P) :
    Except Fault (Map Nat (RadioCacheEntry P)) :=
  let entry := (radioCache.lookup reception.1).getD {}
  match reception.2.interval, entry.receptionIntervals with
  | none, _ => .ok (radioCache.insert reception.1 entry)
  | some _, none => .error .nullPointer
  | some interval, some receptionIntervals =>
    .ok (radioCache.insert reception.1
      { entry with receptionIntervals := some (receptionIntervals.erase interval) })

def removeTransmission : Except Fault (MapCommunicationCache P) :=
  match c.transmissionCache.lookup transmission with
  | none => .ok c
  | some entry => do
    let radioCache ← (entry.receptionCacheEntries.getD ∅).entries.foldlM deleteInterval c.radioCache
    .ok { radioCache, transmissionCache := c.transmissionCache.erase transmission }

def removeNonInterferingTransmissions (_now : SimTime) : MapCommunicationCache P := c

instance : CommunicationCacheBase (MapCommunicationCache P) P where
  getRadioCacheEntry := getRadioCacheEntry
  putRadioCacheEntry := putRadioCacheEntry
  getTransmissionCacheEntry c transmission :=
    let (c, entry) := c.getTransmissionCacheEntry transmission
    (c, some entry.toTransmissionCacheEntry)
  putTransmissionCacheEntry := putTransmissionCacheEntry
  getReceptionCacheEntry := getReceptionCacheEntry
  putReceptionCacheEntry := putReceptionCacheEntry
  addRadio := addRadio
  removeRadio c radio := .ok (c.removeRadio radio)
  addTransmission := addTransmission
  removeTransmission := removeTransmission
  removeNonInterferingTransmissions c now := .ok (c.removeNonInterferingTransmissions now)

end MapCommunicationCache

namespace MapCommunicationCache

variable {P : Type} {d : Directory} {c c' : MapCommunicationCache P}

def view : CacheView (MapCommunicationCache P) P where
  transmission c t := ((c.transmissionCache.lookup t).getD {}).toTransmissionCacheEntry
  reception c r t := ((c.receptions t).lookup r).getD {}

/-- A radio has an interval tree. -/
def HasTree (radioCache : Map Nat (RadioCacheEntry P)) (r : Nat) : Prop :=
  ∃ entry, radioCache.lookup r = some entry ∧ entry.receptionIntervals ≠ none

/-- Nothing is held for what has not been created, and an interval is in the
tree of a radio. -/
structure Invariant (d : Directory) (c : MapCommunicationCache P) : Prop where
  radios : ∀ r ∈ d.radios, r < d.nextRadio
  transmissions : ∀ t ∈ d.transmissions, t < d.nextTransmission
  freshRadio : ∀ r, d.nextRadio ≤ r → ∀ t, (c.receptions t).lookup r = none
  freshTransmission : ∀ t, d.nextTransmission ≤ t → c.transmissionCache.lookup t = none
  tree : ∀ r t entry, (c.receptions t).lookup r = some entry → entry.interval ≠ none →
    HasTree c.radioCache r

open Map

theorem receptions_putReceptions (c : MapCommunicationCache P) (t t' : Nat)
    (m : Map Nat (ReceptionCacheEntry P)) :
    (c.putReceptions t m).receptions t' = if t' = t then m else c.receptions t' := by
  unfold putReceptions receptions transmissionEntry
  rw [lookup_insert_eq]
  by_cases ht : t' = t
  · subst ht
    simp
  · simp [ht]

theorem transmission_putReceptions (c : MapCommunicationCache P) (t t' : Nat)
    (m : Map Nat (ReceptionCacheEntry P)) :
    view.transmission (c.putReceptions t m) t' = view.transmission c t' := by
  unfold putReceptions view transmissionEntry
  dsimp only
  rw [lookup_insert_eq]
  by_cases ht : t' = t
  · subst ht
    simp
  · simp [ht]

/-- To look up the entry of a transmission changes nothing but its existence. -/
theorem getTransmissionCacheEntry_eq (c : MapCommunicationCache P) (t : Nat) :
    (c.getTransmissionCacheEntry t).1 = c.putReceptions t (c.receptions t) := by
  unfold getTransmissionCacheEntry putReceptions receptions transmissionEntry
  simp

theorem receptions_putTransmissionCacheEntry (c : MapCommunicationCache P) (t t' : Nat)
    (entry : TransmissionCacheEntry P) :
    (c.putTransmissionCacheEntry t entry).receptions t' = c.receptions t' := by
  unfold putTransmissionCacheEntry receptions transmissionEntry
  rw [lookup_insert_eq]
  by_cases ht : t' = t
  · subst ht
    simp
  · simp [ht]

theorem transmission_putTransmissionCacheEntry (c : MapCommunicationCache P) (t t' : Nat)
    (entry : TransmissionCacheEntry P) :
    view.transmission (c.putTransmissionCacheEntry t entry) t' =
      if t' = t then entry else view.transmission c t' := by
  unfold putTransmissionCacheEntry view
  dsimp only
  rw [lookup_insert_eq]
  by_cases ht : t' = t
  · subst ht
    simp
  · simp [ht]

theorem Invariant.congr (hinv : Invariant d c) (hreceptions : ∀ t, c'.receptions t = c.receptions t)
    (hfresh : ∀ t, d.nextTransmission ≤ t → c.transmissionCache.lookup t = none →
      c'.transmissionCache.lookup t = none)
    (htree : ∀ r, HasTree c.radioCache r → HasTree c'.radioCache r) : Invariant d c' := by
  refine ⟨hinv.radios, hinv.transmissions, ?_, ?_, ?_⟩
  · intro r hr t
    rw [hreceptions]
    exact hinv.freshRadio r hr t
  · intro t ht
    exact hfresh t ht (hinv.freshTransmission t ht)
  · intro r t entry hentry hinterval
    rw [hreceptions] at hentry
    exact htree r (hinv.tree r t entry hentry hinterval)

variable {m : Map Nat (ReceptionCacheEntry P)}

theorem Invariant.putReceptions {t : Nat} (hinv : Invariant d c) (ht : t ∈ d.transmissions)
    (hfresh : ∀ r, d.nextRadio ≤ r → m.lookup r = none)
    (htree : ∀ r entry, m.lookup r = some entry → entry.interval ≠ none →
      HasTree c.radioCache r) : Invariant d (c.putReceptions t m) := by
  have hlt := hinv.transmissions t ht
  refine ⟨hinv.radios, hinv.transmissions, ?_, ?_, ?_⟩
  · intro r hr t'
    rw [receptions_putReceptions]
    by_cases hsame : t' = t
    · rw [if_pos hsame]
      exact hfresh r hr
    · rw [if_neg hsame]
      exact hinv.freshRadio r hr t'
  · intro t' ht'
    have hne : t' ≠ t := by omega
    have hlookup := hinv.freshTransmission t' ht'
    unfold MapCommunicationCache.putReceptions
    rw [lookup_insert_eq, if_neg hne, hlookup]
  · intro r t' entry hentry hinterval
    rw [receptions_putReceptions] at hentry
    by_cases hsame : t' = t
    · rw [if_pos hsame] at hentry
      exact htree r entry hentry hinterval
    · rw [if_neg hsame] at hentry
      exact hinv.tree r t' entry hentry hinterval

theorem getReceptionCacheEntry_eq (c : MapCommunicationCache P) (r t : Nat) :
    c.getReceptionCacheEntry r t = ((c.putReceptions t (c.receptions t)).putReceptions t
        (subscript (c.receptions t) r {}), some (view.reception c r t)) := by
  have hreceptions : (c.getTransmissionCacheEntry t).1.receptions t = c.receptions t := by
    rw [getTransmissionCacheEntry_eq, receptions_putReceptions, if_pos rfl]
  have hlookup := lookup_subscript (c.receptions t) r r {}
  rw [if_pos rfl] at hlookup
  unfold getReceptionCacheEntry
  dsimp only
  rw [hreceptions, getTransmissionCacheEntry_eq, hlookup]
  rfl

/-- The receptions of `t` in a cache after they were replaced, for one radio. -/
theorem reception_putReceptions (c : MapCommunicationCache P) (r t t' : Nat)
    (m : Map Nat (ReceptionCacheEntry P)) :
    view.reception (c.putReceptions t m) r t' =
      if t' = t then (m.lookup r).getD {} else view.reception c r t' := by
  unfold view
  dsimp only
  rw [receptions_putReceptions]
  by_cases ht : t' = t
  · simp [ht]
  · simp [ht]

theorem Invariant.existing {t : Nat} (hinv : Invariant d c) (ht : t ∈ d.transmissions) :
    Invariant d (c.putReceptions t (c.receptions t)) :=
  hinv.putReceptions ht (fun r hr => hinv.freshRadio r hr t)
    fun r entry hentry hinterval => hinv.tree r t entry hentry hinterval

theorem agree_existing (d : Directory) (c : MapCommunicationCache P) (t : Nat) :
    view.Agree d c (c.putReceptions t (c.receptions t)) := by
  refine ⟨fun t' _ => transmission_putReceptions c t t' _, ?_⟩
  intro r _ t' _
  rw [reception_putReceptions]
  by_cases ht : t' = t
  · rw [if_pos ht, ht]
    rfl
  · rw [if_neg ht]

theorem Invariant.putReception {r t : Nat} {entry : ReceptionCacheEntry P}
    (hinv : Invariant d c) (hr : r ∈ d.radios)
    (ht : t ∈ d.transmissions)
    (hm : ∀ r', m.lookup r' = if r' = r then some entry else (c.receptions t).lookup r')
    (htree : entry.interval ≠ none → HasTree c.radioCache r) :
    Invariant d (c.putReceptions t m) := by
  have hlt := hinv.radios r hr
  refine hinv.putReceptions ht ?_ ?_
  · intro r' hr'
    rw [hm, if_neg (by omega)]
    exact hinv.freshRadio r' hr' t
  · intro r' entry' hentry hinterval
    rw [hm] at hentry
    by_cases hsame : r' = r
    · rw [if_pos hsame] at hentry
      cases hentry
      exact hsame ▸ htree hinterval
    · rw [if_neg hsame] at hentry
      exact hinv.tree r' t entry' hentry hinterval

variable {r t : Nat}

theorem sets_putReception {entry : ReceptionCacheEntry P} (d : Directory)
    (hm : ∀ r', (m.lookup r').getD {} = if r' = r then entry else view.reception c r' t) :
    view.SetsReception d c (c.putReceptions t m) r t entry := by
  refine ⟨fun t' _ => transmission_putReceptions c t t' m, ?_⟩
  intro r' _ t' _
  rw [reception_putReceptions]
  by_cases ht : t' = t
  · rw [if_pos ht, hm, ht]
    simp
  · rw [if_neg ht, if_neg (by simp [ht])]

theorem Invariant.hasTree (hinv : Invariant d c)
    (hinterval : (view.reception c r t).interval ≠ none) : HasTree c.radioCache r := by
  unfold view at hinterval
  dsimp only at hinterval
  cases hlookup : (c.receptions t).lookup r with
  | none =>
    rw [hlookup] at hinterval
    exact absurd rfl hinterval
  | some entry =>
    rw [hlookup] at hinterval
    exact hinv.tree r t entry hlookup hinterval

theorem lawful_transmission [DecidableEq P] {t : Nat} (hinv : Invariant d c) (ht : t ∈ d.transmissions) :
    ∃ c', CommunicationCacheBase.getTransmissionCacheEntry c t =
        (c', some (view.transmission c t)) ∧ Invariant d c' ∧ view.Agree d c c' ∧
      ∀ entry, Invariant d (c'.putTransmissionCacheEntry t entry) ∧
        view.SetsTransmission d c (c'.putTransmissionCacheEntry t entry) t entry := by
  have hexisting := hinv.existing ht
  have hlt := hinv.transmissions t ht
  refine ⟨(c.getTransmissionCacheEntry t).1, rfl, ?_, ?_, ?_⟩
  · rw [getTransmissionCacheEntry_eq]
    exact hexisting
  · rw [getTransmissionCacheEntry_eq]
    exact agree_existing d c t
  · intro entry
    rw [getTransmissionCacheEntry_eq]
    refine ⟨hexisting.congr (receptions_putTransmissionCacheEntry _ t · entry) ?_ (fun _ h => h),
      ?_⟩
    · intro t' ht' hnone
      have hne : t' ≠ t := by omega
      unfold putTransmissionCacheEntry
      rw [lookup_insert_eq, if_neg hne]
      exact hnone
    · refine .of_agree (agree_existing d c t) ⟨?_, ?_⟩
      · intro t' _
        exact transmission_putTransmissionCacheEntry _ t t' entry
      · intro r _ t' _
        unfold view
        dsimp only
        rw [receptions_putTransmissionCacheEntry]

/-- The cache in which the entry of a reception exists. -/
def created (c : MapCommunicationCache P) (r t : Nat) : MapCommunicationCache P :=
  (c.getReceptionCacheEntry r t).1

theorem getReceptionCacheEntry_created (c : MapCommunicationCache P) (r t : Nat) :
    c.getReceptionCacheEntry r t = (c.created r t, some (view.reception c r t)) :=
  Prod.ext rfl (by rw [getReceptionCacheEntry_eq])

theorem Invariant.created {r t : Nat} (hinv : Invariant d c) (hr : r ∈ d.radios)
    (ht : t ∈ d.transmissions) : Invariant d (c.created r t) := by
  rw [MapCommunicationCache.created, getReceptionCacheEntry_eq]
  have htree := hinv.hasTree (r := r) (t := t)
  refine (hinv.existing ht).putReception hr ht ?_ htree
  intro r'
  rw [lookup_subscript, receptions_putReceptions, if_pos rfl]
  rfl

theorem agree_created (d : Directory) (c : MapCommunicationCache P) (r t : Nat) :
    view.Agree d c (c.created r t) := by
  rw [MapCommunicationCache.created, getReceptionCacheEntry_eq]
  refine (agree_existing d c t).trans ⟨fun t' _ => transmission_putReceptions _ t t' _, ?_⟩
  intro r' _ t' _
  rw [reception_putReceptions]
  by_cases hsame : t' = t
  · rw [if_pos hsame, getD_lookup_subscript, reception_putReceptions, if_pos hsame]
  · rw [if_neg hsame]

theorem put_created (hr : r ∈ d.radios)
    (ht : t ∈ d.transmissions) {c' : MapCommunicationCache P} (hinv' : Invariant d c')
    (hsame : c'.transmissionCache = (c.created r t).transmissionCache)
    (entry : ReceptionCacheEntry P) (htree : entry.interval ≠ none → HasTree c'.radioCache r) :
    Invariant d (c'.putReceptionCacheEntry r t entry) ∧
      view.SetsReception d c (c'.putReceptionCacheEntry r t entry) r t entry := by
  have hreceptions : ∀ t', c'.receptions t' = (c.created r t).receptions t' := by
    intro t'
    unfold receptions transmissionEntry
    rw [hsame]
  have hagree : view.Agree d c c' := by
    refine (agree_created d c r t).trans ⟨?_, ?_⟩
    · intro t' _
      unfold view
      dsimp only
      rw [hsame]
    · intro r' _ t' _
      unfold view
      dsimp only
      rw [hreceptions]
  unfold putReceptionCacheEntry
  refine ⟨hinv'.putReception hr ht (fun r' => lookup_insert_eq _ r r' entry) htree,
    .of_agree hagree (sets_putReception d ?_)⟩
  intro r'
  rw [lookup_insert_eq]
  by_cases hr' : r' = r
  · rw [if_pos hr', if_pos hr', Option.getD_some]
  · rw [if_neg hr', if_neg hr']
    rfl

/-- The tree of the receiver is created before an interval is inserted. -/
theorem hasTree_insert (radioCache : Map Nat (RadioCacheEntry P)) (r r' : Nat)
    (entry : RadioCacheEntry P) (hentry : entry.receptionIntervals ≠ none)
    (h : r' = r ∨ HasTree radioCache r') :
    HasTree ((subscript radioCache r {}).insert r entry) r' := by
  by_cases hsame : r' = r
  · exact ⟨entry, by rw [lookup_insert_eq, if_pos hsame], hentry⟩
  · obtain heq | ⟨old, hlookup, hold⟩ := h
    · exact absurd heq hsame
    · refine ⟨old, ?_, hold⟩
      rw [lookup_insert_eq, if_neg hsame, lookup_subscript, if_neg hsame]
      exact hlookup

theorem lawful_addRadio {r : Nat} (hinv : Invariant d c) (hr : d.nextRadio ≤ r) :
    Invariant (d.addRadio r) (c.addRadio r) ∧ view.Agree d c (c.addRadio r) ∧
      ∀ t ∈ d.transmissions, view.reception (c.addRadio r) r t = {} := by
  refine ⟨⟨?_, hinv.transmissions, ?_, hinv.freshTransmission, hinv.tree⟩,
    ⟨fun _ _ => rfl, fun _ _ _ _ => rfl⟩, ?_⟩
  · intro r' hr'
    obtain rfl | hr' := List.mem_cons.mp hr'
    · exact Nat.lt_succ_self _
    · have hlt := hinv.radios r' hr'
      exact Nat.lt_succ_of_lt (by omega)
  · intro r' hr' t
    have hle : r + 1 ≤ r' := hr'
    exact hinv.freshRadio r' (by omega) t
  · intro t _
    have hnone := hinv.freshRadio r hr t
    unfold view addRadio
    dsimp only
    rw [hnone]
    rfl

theorem receptions_removeRadio (c : MapCommunicationCache P) (r t : Nat) :
    (c.removeRadio r).receptions t = (c.receptions t).erase r := by
  unfold removeRadio receptions transmissionEntry
  rw [lookup_mapValues]
  cases hlookup : c.transmissionCache.lookup t with
  | none => rfl
  | some entry =>
    simp only [Option.map_some, Option.getD_some, eraseReception]
    cases entry.receptionCacheEntries <;> rfl

theorem lawful_removeRadio {r : Nat} (hinv : Invariant d c) :
    Invariant (d.removeRadio r) (c.removeRadio r) ∧
      view.Agree (d.removeRadio r) c (c.removeRadio r) := by
  refine ⟨⟨?_, hinv.transmissions, ?_, ?_, ?_⟩, ⟨?_, ?_⟩⟩
  · intro r' hr'
    exact hinv.radios r' (List.mem_filter.mp hr').1
  · intro r' hr' t
    rw [receptions_removeRadio, lookup_erase_eq, hinv.freshRadio r' hr' t, ite_self]
  · intro t ht
    have hnone := hinv.freshTransmission t ht
    unfold removeRadio
    rw [lookup_mapValues, hnone]
    rfl
  · intro r' t entry hentry hinterval
    rw [receptions_removeRadio, lookup_erase_eq] at hentry
    by_cases hsame : r' = r
    · rw [if_pos hsame] at hentry
      cases hentry
    · rw [if_neg hsame] at hentry
      obtain ⟨radio, hradio, htree⟩ := hinv.tree r' t entry hentry hinterval
      refine ⟨radio, ?_, htree⟩
      unfold removeRadio
      rw [lookup_erase_eq, if_neg hsame]
      exact hradio
  · intro t _
    unfold view removeRadio
    dsimp only
    rw [lookup_mapValues]
    cases c.transmissionCache.lookup t <;> rfl
  · intro r' hr' t _
    have hne : r' ≠ r := of_decide_eq_true (List.mem_filter.mp hr').2
    unfold view
    dsimp only
    rw [receptions_removeRadio, lookup_erase_eq, if_neg hne]

theorem lawful_addTransmission {t : Nat} (hinv : Invariant d c) (ht : d.nextTransmission ≤ t) :
    Invariant (d.addTransmission t) (c.addTransmission t) ∧
      view.Agree d c (c.addTransmission t) ∧ view.transmission (c.addTransmission t) t = {} ∧
      ∀ r ∈ d.radios, view.reception (c.addTransmission t) r t = {} := by
  have hnone := hinv.freshTransmission t ht
  refine ⟨⟨hinv.radios, ?_, hinv.freshRadio, ?_, hinv.tree⟩, ⟨fun _ _ => rfl, fun _ _ _ _ => rfl⟩,
    ?_, ?_⟩
  · intro t' ht'
    obtain rfl | ht' := List.mem_cons.mp ht'
    · exact Nat.lt_succ_self _
    · have hlt := hinv.transmissions t' ht'
      exact Nat.lt_succ_of_lt (by omega)
  · intro t' ht'
    have hle : t + 1 ≤ t' := ht'
    exact hinv.freshTransmission t' (by omega)
  · unfold view addTransmission
    dsimp only
    rw [hnone]
    rfl
  · intro r _
    unfold view addTransmission receptions transmissionEntry
    dsimp only
    rw [hnone]
    rfl

section Laws

variable [DecidableEq P]

/-- An interval that is deleted is in a tree, and no tree is deleted. -/
theorem deleteInterval_ok {radioCache : Map Nat (RadioCacheEntry P)}
    {reception : Sigma fun _ : Nat => ReceptionCacheEntry P}
    (htree : reception.2.interval ≠ none → HasTree radioCache reception.1) :
    ∃ radioCache', deleteInterval radioCache reception = .ok radioCache' ∧
      ∀ r, HasTree radioCache r → HasTree radioCache' r := by
  unfold deleteInterval
  dsimp only
  cases hinterval : reception.2.interval with
  | none =>
    refine ⟨_, rfl, ?_⟩
    rintro r ⟨entry, hentry, hintervals⟩
    by_cases hsame : r = reception.1
    · refine ⟨_, by rw [lookup_insert_eq, if_pos hsame], ?_⟩
      rw [← hsame, hentry]
      exact hintervals
    · exact ⟨entry, by rw [lookup_insert_eq, if_neg hsame, hentry], hintervals⟩
  | some interval =>
    obtain ⟨radio, hradio, hintervals⟩ := htree (by rw [hinterval]; simp)
    obtain ⟨receptionIntervals, hsome⟩ := Option.ne_none_iff_exists'.mp hintervals
    rw [hradio, Option.getD_some, hsome]
    refine ⟨_, rfl, ?_⟩
    rintro r ⟨entry, hentry, hintervals⟩
    by_cases hsame : r = reception.1
    · exact ⟨_, by rw [lookup_insert_eq, if_pos hsame], by simp⟩
    · exact ⟨entry, by rw [lookup_insert_eq, if_neg hsame, hentry], hintervals⟩

theorem deleteIntervals_ok (receptions : List (Sigma fun _ : Nat => ReceptionCacheEntry P)) :
    ∀ (radioCache : Map Nat (RadioCacheEntry P)),
      (∀ reception ∈ receptions, reception.2.interval ≠ none → HasTree radioCache reception.1) →
      ∃ radioCache', receptions.foldlM deleteInterval radioCache = .ok radioCache' ∧
        ∀ r, HasTree radioCache r → HasTree radioCache' r := by
  induction receptions with
  | nil =>
    intro radioCache _
    exact ⟨radioCache, rfl, fun _ h => h⟩
  | cons reception receptions ih =>
    intro radioCache htrees
    obtain ⟨next, hnext, hkept⟩ := deleteInterval_ok (htrees reception (.head _))
    obtain ⟨last, hlast, hrest⟩ := ih next fun other hother hinterval =>
      hkept _ (htrees other (.tail _ hother) hinterval)
    refine ⟨last, ?_, fun r h => hrest r (hkept r h)⟩
    rw [List.foldlM_cons, hnext]
    exact hlast

theorem lawful_removeTransmission {t : Nat} (hinv : Invariant d c) :
    ∃ c', c.removeTransmission t = .ok c' ∧ Invariant (d.removeTransmission t) c' ∧
      view.Agree (d.removeTransmission t) c c' := by
  have hfewer : ∀ t' ∈ (d.removeTransmission t).transmissions, t' < d.nextTransmission :=
    fun t' ht' => hinv.transmissions t' (List.mem_filter.mp ht').1
  unfold removeTransmission
  cases hlookup : c.transmissionCache.lookup t with
  | none =>
    exact ⟨c, rfl, ⟨hinv.radios, hfewer, hinv.freshRadio, hinv.freshTransmission, hinv.tree⟩,
      ⟨fun _ _ => rfl, fun _ _ _ _ => rfl⟩⟩
  | some entry =>
    have hentries : c.receptions t = entry.receptionCacheEntries.getD ∅ := by
      unfold receptions transmissionEntry
      rw [hlookup]
      rfl
    obtain ⟨radioCache, hdelete, htrees⟩ := deleteIntervals_ok
      (entry.receptionCacheEntries.getD ∅).entries c.radioCache
      fun reception hreception hinterval =>
        hinv.tree reception.1 t reception.2
          (by rw [hentries]; exact mem_entries_iff.mp hreception) hinterval
    have hother : ∀ t', (MapCommunicationCache.mk radioCache
        (c.transmissionCache.erase t)).receptions t' = if t' = t then ∅ else c.receptions t' := by
      intro t'
      unfold receptions transmissionEntry
      rw [lookup_erase_eq]
      by_cases hsame : t' = t
      · rw [if_pos hsame, if_pos hsame]
        rfl
      · rw [if_neg hsame, if_neg hsame]
    refine ⟨⟨radioCache, c.transmissionCache.erase t⟩, ?_, ⟨hinv.radios, hfewer, ?_, ?_, ?_⟩,
      ⟨?_, ?_⟩⟩
    · dsimp only
      rw [hdelete]
      rfl
    · intro r hr t'
      rw [hother]
      by_cases hsame : t' = t
      · rw [if_pos hsame]
        rfl
      · rw [if_neg hsame]
        exact hinv.freshRadio r hr t'
    · intro t' ht'
      rw [lookup_erase_eq, hinv.freshTransmission t' ht', ite_self]
    · intro r t' entry' hentry' hinterval
      rw [hother] at hentry'
      by_cases hsame : t' = t
      · rw [if_pos hsame] at hentry'
        cases hentry'
      · rw [if_neg hsame] at hentry'
        exact htrees r (hinv.tree r t' entry' hentry' hinterval)
    · intro t' ht'
      have hne : t' ≠ t := of_decide_eq_true (List.mem_filter.mp ht').2
      unfold view
      dsimp only
      rw [lookup_erase_eq, if_neg hne]
    · intro r _ t' ht'
      have hne : t' ≠ t := of_decide_eq_true (List.mem_filter.mp ht').2
      unfold view
      dsimp only
      rw [hother, if_neg hne]

theorem lawful_reception (hinv : Invariant d c) (hr : r ∈ d.radios) (ht : t ∈ d.transmissions) :
    ∃ c', CommunicationCacheBase.getReceptionCacheEntry c r t =
        (c', some (view.reception c r t)) ∧ Invariant d c' ∧ view.Agree d c c' ∧
      ∀ entry, entry.interval = none ∨ entry.interval = (view.reception c r t).interval →
        Invariant d (c'.putReceptionCacheEntry r t entry) ∧
          view.SetsReception d c (c'.putReceptionCacheEntry r t entry) r t entry := by
  have hcreated := hinv.created hr ht
  refine ⟨c.created r t, getReceptionCacheEntry_created c r t, hcreated, agree_created d c r t, ?_⟩
  intro entry hentry
  refine put_created hr ht hcreated rfl entry ?_
  intro hinterval
  obtain hnone | hsame := hentry
  · exact absurd hnone hinterval
  · rw [hsame] at hinterval
    have htree := hinv.hasTree hinterval
    rw [created, getReceptionCacheEntry_eq]
    exact htree

theorem lawful_interval (interval : P) (hinv : Invariant d c) (hr : r ∈ d.radios)
    (ht : t ∈ d.transmissions) :
    ∃ c', CommunicationCacheBase.setCachedInterval c r t (some interval) = .ok c' ∧ Invariant d c' ∧
      view.SetsReception d c c' r t ((view.reception c r t).put .interval (some interval)) := by
  have hcreated := hinv.created hr ht
  obtain ⟨radio, hradio⟩ : ∃ radio : RadioCacheEntry P,
      (subscript (c.created r t).radioCache r {}).lookup r = some radio :=
    ⟨_, by rw [lookup_subscript, if_pos rfl]⟩
  have htrees := fun r' => hasTree_insert (c.created r t).radioCache r r' { radio with
    receptionIntervals := some (radio.receptionIntervals.getD [] ++ [interval]) } (by simp)
  have hplanted : Invariant d { c.created r t with
      radioCache := (subscript (c.created r t).radioCache r {}).insert r { radio with
        receptionIntervals := some (radio.receptionIntervals.getD [] ++ [interval]) } } :=
    hcreated.congr (fun _ => rfl) (fun _ _ h => h) (fun r' h => htrees r' (Or.inr h))
  obtain ⟨hkept, hsets⟩ := put_created hr ht hplanted rfl
    ((view.reception c r t).put .interval (some interval)) (fun _ => htrees r (Or.inl rfl))
  refine ⟨_, ?_, hkept, hsets⟩
  have hget : CommunicationCacheBase.getReceptionCacheEntry c r t = _ :=
    getReceptionCacheEntry_created c r t
  have hentry : CommunicationCacheBase.getRadioCacheEntry
      ((c.created r t).putReceptionCacheEntry r t
        ((view.reception c r t).put .interval (some interval))) r =
      ({ (c.created r t).putReceptionCacheEntry r t
        ((view.reception c r t).put .interval (some interval)) with
          radioCache := subscript (c.created r t).radioCache r {} }, some radio) :=
    Prod.ext rfl hradio
  unfold CommunicationCacheBase.setCachedInterval CommunicationCacheBase.setCached
  rw [hget]
  change CommunicationCacheBase.insertInterval ((c.created r t).putReceptionCacheEntry r t
    ((view.reception c r t).put .interval (some interval))) r interval = _
  unfold CommunicationCacheBase.insertInterval
  rw [hentry]
  rfl

/-- The map cache does what the base class relies on, whatever is called. -/
theorem lawful : LawfulCache view (Invariant (P := P)) fun _ _ _ => True where
  transmission := lawful_transmission
  reception := lawful_reception
  interval := lawful_interval
  addRadio := lawful_addRadio
  removeRadio hinv _ _ := ⟨_, rfl, lawful_removeRadio hinv⟩
  addTransmission := lawful_addTransmission
  removeTransmission hinv _ := lawful_removeTransmission hinv
  removeNonInterferingTransmissions hinv _ :=
    ⟨_, rfl, hinv, ⟨fun _ _ => rfl, fun _ _ _ _ => rfl⟩⟩

end Laws

theorem invariant_empty : Invariant {} ({} : MapCommunicationCache P) where
  radios _ hr := absurd hr List.not_mem_nil
  transmissions _ ht := absurd ht List.not_mem_nil
  freshRadio _ _ _ := rfl
  freshTransmission _ _ := rfl
  tree r t entry hentry _ := by cases hentry

end MapCommunicationCache

end inet.physicallayer

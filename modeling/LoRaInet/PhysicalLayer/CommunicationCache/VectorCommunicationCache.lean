import LoRaInet.PhysicalLayer.CommunicationCache.Lawful

open omnetpp container

namespace inet.physicallayer

/-- The index of an entry is the id less a base. -/
structure VectorCommunicationCache (P : Type) where
  baseRadioId : Nat := 0
  baseTransmissionId : Nat := 0
  radioCache : List (RadioCacheEntry P) := []
  transmissionCache : List (TransmissionCacheEntryOf P (List (ReceptionCacheEntry P))) := []

namespace VectorCommunicationCache

variable {P : Type} [DecidableEq P] (c : VectorCommunicationCache P) (radio : Nat)

def getRadioCacheEntry : VectorCommunicationCache P × Option (RadioCacheEntry P) :=
  if radio < c.baseRadioId then (c, none)
  else
    let radioIndex := radio - c.baseRadioId
    let radioCache := grow c.radioCache radioIndex {}
    ({ c with radioCache }, radioCache[radioIndex]?)

def putRadioCacheEntry (entry : RadioCacheEntry P) : VectorCommunicationCache P :=
  { c with radioCache := c.radioCache.set (radio - c.baseRadioId) entry }

/-- `new std::vector<ReceptionCacheEntry>(radioCache.size())`, unless there is
a vector already. -/
def withReceptions (radioCount : Nat)
    (entry : TransmissionCacheEntryOf P (List (ReceptionCacheEntry P))) :
    TransmissionCacheEntryOf P (List (ReceptionCacheEntry P)) :=
  { entry with
    receptionCacheEntries :=
      some (entry.receptionCacheEntries.getD (List.replicate radioCount {})) }

variable (transmission : Nat)

def getTransmissionCacheEntry : VectorCommunicationCache P ×
      Option (TransmissionCacheEntryOf P (List (ReceptionCacheEntry P))) :=
  if transmission < c.baseTransmissionId then (c, none)
  else
    let transmissionIndex := transmission - c.baseTransmissionId
    let transmissionCache := (grow c.transmissionCache transmissionIndex {}).modify
      transmissionIndex (withReceptions c.radioCache.length)
    ({ c with transmissionCache }, transmissionCache[transmissionIndex]?)

def putTransmissionCacheEntry (entry : TransmissionCacheEntry P) : VectorCommunicationCache P :=
  { c with
    transmissionCache := c.transmissionCache.modify (transmission - c.baseTransmissionId)
      fun old => { old with toTransmissionCacheEntry := entry } }

/-- Assigns to the vector that the entry points to. -/
def modifyReceptions (f : List (ReceptionCacheEntry P) → List (ReceptionCacheEntry P)) :
    VectorCommunicationCache P :=
  { c with
    transmissionCache := c.transmissionCache.modify (transmission - c.baseTransmissionId)
      fun entry => { entry with receptionCacheEntries := entry.receptionCacheEntries.map f } }

def getReceptionCacheEntry (radio transmission : Nat) :
    VectorCommunicationCache P × Option (ReceptionCacheEntry P) :=
  match c.getTransmissionCacheEntry transmission with
  | (c, none) => (c, none)
  | (c, some transmissionCacheEntry) =>
    if radio < c.baseRadioId then (c, none)
    else
      let radioIndex := radio - c.baseRadioId
      let receptionCacheEntries :=
        grow (transmissionCacheEntry.receptionCacheEntries.getD []) radioIndex {}
      (c.modifyReceptions transmission fun _ => receptionCacheEntries,
        receptionCacheEntries[radioIndex]?)

def putReceptionCacheEntry (radio transmission : Nat)
    (entry : ReceptionCacheEntry P) : VectorCommunicationCache P :=
  c.modifyReceptions transmission fun receptionCacheEntries =>
    receptionCacheEntries.set (radio - c.baseRadioId) entry

def addRadio : VectorCommunicationCache P :=
  let c := if c.radioCache = [] then { c with baseRadioId := radio } else c
  (c.getRadioCacheEntry radio).1

/-- `receptionCacheEntries->erase(begin, begin + radioCount)`, which asks for as
many elements. -/
def eraseReceptions (radioCount : Nat)
    (entry : TransmissionCacheEntryOf P (List (ReceptionCacheEntry P))) :
    Except Fault (TransmissionCacheEntryOf P (List (ReceptionCacheEntry P))) :=
  match entry.receptionCacheEntries with
  | none => .ok entry
  | some receptionCacheEntries =>
    if receptionCacheEntries.length < radioCount then .error .outOfRange
    else .ok { entry with receptionCacheEntries := some (receptionCacheEntries.drop radioCount) }

/-- The leading entries that are stale. -/
def staleRadioCount (radioCache : List (RadioCacheEntry P)) : Nat :=
  (radioCache.takeWhile (·.stale)).length

def eraseStaleRadios : Except Fault (VectorCommunicationCache P) :=
  let radioCount := staleRadioCount c.radioCache
  if radioCount = 0 then .ok c
  else do
    let transmissionCache ← c.transmissionCache.mapM (eraseReceptions radioCount)
    .ok { c with
      baseRadioId := c.baseRadioId + radioCount
      radioCache := c.radioCache.drop radioCount
      transmissionCache }

def removeRadio : Except Fault (VectorCommunicationCache P) :=
  match c.getRadioCacheEntry radio with
  | (_, none) => .error .nullPointer
  | (c, some entry) => (c.putRadioCacheEntry radio { entry with stale := true }).eraseStaleRadios

def addTransmission : VectorCommunicationCache P :=
  let c := if c.transmissionCache = [] then { c with baseTransmissionId := transmission } else c
  (c.getTransmissionCacheEntry transmission).1

def removeTransmission (_transmission : Nat) : VectorCommunicationCache P := c

/-- `receptionIntervals->deleteNode(interval)`, when there is an interval. -/
def deleteInterval (radio : RadioCacheEntry P) (reception : ReceptionCacheEntry P) :
    Except Fault (RadioCacheEntry P) :=
  match reception.interval with
  | none => .ok radio
  | some interval =>
    match radio.receptionIntervals with
    | none => .error .nullPointer
    | some receptionIntervals =>
      .ok { radio with receptionIntervals := some (receptionIntervals.erase interval) }

/-- The loop over `radioCache` and the receptions of one transmission, until
either of them ends. -/
def deleteIntervals : List (RadioCacheEntry P) → List (ReceptionCacheEntry P) →
    Except Fault (List (RadioCacheEntry P))
  | radio :: radioCache, reception :: receptionCacheEntries => do
    let radio ← deleteInterval radio reception
    let radioCache ← deleteIntervals radioCache receptionCacheEntries
    .ok (radio :: radioCache)
  | radioCache, _ => .ok radioCache

def nonInterferingCount (now : SimTime) : Nat :=
  (c.transmissionCache.takeWhile fun entry => entry.Expired now).length

def removeNonInterferingTransmissions (now : SimTime) :
    Except Fault (VectorCommunicationCache P) := do
  let transmissionIndex := c.nonInterferingCount now
  let radioCache ← (c.transmissionCache.take transmissionIndex).foldlM
    (fun radioCache entry => deleteIntervals radioCache (entry.receptionCacheEntries.getD []))
    c.radioCache
  .ok { c with
    radioCache
    baseTransmissionId := c.baseTransmissionId + transmissionIndex
    transmissionCache := c.transmissionCache.drop transmissionIndex }

instance : CommunicationCacheBase (VectorCommunicationCache P) P where
  getRadioCacheEntry := getRadioCacheEntry
  putRadioCacheEntry := putRadioCacheEntry
  getTransmissionCacheEntry c transmission :=
    let (c, entry) := c.getTransmissionCacheEntry transmission
    (c, entry.map (·.toTransmissionCacheEntry))
  putTransmissionCacheEntry := putTransmissionCacheEntry
  getReceptionCacheEntry := getReceptionCacheEntry
  putReceptionCacheEntry := putReceptionCacheEntry
  addRadio := addRadio
  removeRadio := removeRadio
  addTransmission := addTransmission
  removeTransmission c transmission := .ok (c.removeTransmission transmission)
  removeNonInterferingTransmissions := removeNonInterferingTransmissions

end VectorCommunicationCache

namespace VectorCommunicationCache

variable {P : Type} {d : Directory} {c : VectorCommunicationCache P} {r t : Nat}

/-- The receptions of a transmission, none if they are not there. -/
def receptions (c : VectorCommunicationCache P) (t : Nat) : List (ReceptionCacheEntry P) :=
  (c.transmissionCache[t - c.baseTransmissionId]?.bind (·.receptionCacheEntries)).getD []

def view : CacheView (VectorCommunicationCache P) P where
  transmission c t := (c.transmissionCache[t - c.baseTransmissionId]?.getD {}).toTransmissionCacheEntry
  reception c r t := (c.receptions t)[r - c.baseRadioId]?.getD {}

/-- A radio has an interval tree. -/
def HasTree (radioCache : List (RadioCacheEntry P)) (i : Nat) : Prop :=
  ∃ radio, radioCache[i]? = some radio ∧ radio.receptionIntervals ≠ none

/-- There are no receptions but of radios that are there, and an interval is in
the tree of its radio. -/
structure ReceptionsFit (radioCache : List (RadioCacheEntry P))
    (receptionCacheEntries : List (ReceptionCacheEntry P)) : Prop where
  length : receptionCacheEntries.length ≤ radioCache.length
  tree : ∀ i entry, receptionCacheEntries[i]? = some entry → entry.interval ≠ none →
    HasTree radioCache i

/-- What is alive has an index, at which it is not stale. -/
structure Invariant (d : Directory) (c : VectorCommunicationCache P) : Prop where
  radios : ∀ r ∈ d.radios, c.baseRadioId ≤ r ∧
    ∃ radio, c.radioCache[r - c.baseRadioId]? = some radio ∧ radio.stale = false
  transmissions : ∀ t ∈ d.transmissions, c.baseTransmissionId ≤ t ∧
    ∃ entry, c.transmissionCache[t - c.baseTransmissionId]? = some entry
  nextRadio : c.baseRadioId + c.radioCache.length ≤ d.nextRadio
  nextTransmission : c.baseTransmissionId + c.transmissionCache.length ≤ d.nextTransmission
  receptions : ∀ entry ∈ c.transmissionCache, ∀ receptionCacheEntries,
    entry.receptionCacheEntries = some receptionCacheEntries →
      ReceptionsFit c.radioCache receptionCacheEntries

theorem Invariant.radio_lt (hinv : Invariant d c) (hr : r ∈ d.radios) :
    c.baseRadioId ≤ r ∧ r - c.baseRadioId < c.radioCache.length := by
  obtain ⟨hle, radio, hradio, -⟩ := hinv.radios r hr
  exact ⟨hle, (List.getElem?_eq_some_iff.mp hradio).1⟩

theorem Invariant.transmission_lt (hinv : Invariant d c) (ht : t ∈ d.transmissions) :
    c.baseTransmissionId ≤ t ∧ t - c.baseTransmissionId < c.transmissionCache.length := by
  obtain ⟨hle, entry, hentry⟩ := hinv.transmissions t ht
  exact ⟨hle, (List.getElem?_eq_some_iff.mp hentry).1⟩

/-- The entry of one transmission is replaced. -/
def putEntry (c : VectorCommunicationCache P) (t : Nat)
    (entry : TransmissionCacheEntryOf P (List (ReceptionCacheEntry P))) :
    VectorCommunicationCache P :=
  { c with transmissionCache := c.transmissionCache.set (t - c.baseTransmissionId) entry }

theorem getElem?_putEntry {t' : Nat}
    (entry : TransmissionCacheEntryOf P (List (ReceptionCacheEntry P))) (hinv : Invariant d c)
    (ht : t ∈ d.transmissions) (ht' : t' ∈ d.transmissions) :
    (c.putEntry t entry).transmissionCache[t' - c.baseTransmissionId]? =
      if t' = t then some entry else c.transmissionCache[t' - c.baseTransmissionId]? := by
  obtain ⟨hle, hlt⟩ := hinv.transmission_lt ht
  obtain ⟨hle', -⟩ := hinv.transmission_lt ht'
  unfold putEntry
  by_cases hsame : t' = t
  · rw [if_pos hsame, hsame, List.getElem?_set_self hlt]
  · rw [if_neg hsame, List.getElem?_set_ne (by omega)]

variable {entry : TransmissionCacheEntryOf P (List (ReceptionCacheEntry P))}

theorem Invariant.putEntry (hinv : Invariant d c) (ht : t ∈ d.transmissions)
    (hfit : ∀ receptionCacheEntries, entry.receptionCacheEntries = some receptionCacheEntries →
      ReceptionsFit c.radioCache receptionCacheEntries) : Invariant d (c.putEntry t entry) := by
  refine ⟨hinv.radios, ?_, hinv.nextRadio, ?_, ?_⟩
  · intro t' ht'
    obtain ⟨hle, old, hold⟩ := hinv.transmissions t' ht'
    refine ⟨hle, ?_⟩
    have hlookup := getElem?_putEntry entry hinv ht ht'
    by_cases hsame : t' = t
    · exact ⟨entry, hlookup.trans (if_pos hsame)⟩
    · exact ⟨old, hlookup.trans ((if_neg hsame).trans hold)⟩
  · unfold VectorCommunicationCache.putEntry
    rw [List.length_set]
    exact hinv.nextTransmission
  · intro other hother
    obtain hold | rfl := List.mem_or_eq_of_mem_set hother
    · exact hinv.receptions other hold
    · exact hfit

theorem transmission_putEntry {t' : Nat}
    (entry : TransmissionCacheEntryOf P (List (ReceptionCacheEntry P))) (hinv : Invariant d c)
    (ht : t ∈ d.transmissions) (ht' : t' ∈ d.transmissions) :
    view.transmission (c.putEntry t entry) t' =
      if t' = t then entry.toTransmissionCacheEntry else view.transmission c t' := by
  have hlookup := getElem?_putEntry entry hinv ht ht'
  unfold view
  change ((c.putEntry t entry).transmissionCache[t' - c.baseTransmissionId]?.getD
    {}).toTransmissionCacheEntry = _
  rw [hlookup]
  by_cases hsame : t' = t
  · rw [if_pos hsame, if_pos hsame]
    rfl
  · rw [if_neg hsame, if_neg hsame]

theorem receptions_putEntry {t' : Nat}
    (entry : TransmissionCacheEntryOf P (List (ReceptionCacheEntry P))) (hinv : Invariant d c)
    (ht : t ∈ d.transmissions) (ht' : t' ∈ d.transmissions) :
    (c.putEntry t entry).receptions t' =
      if t' = t then entry.receptionCacheEntries.getD [] else c.receptions t' := by
  have hlookup := getElem?_putEntry entry hinv ht ht'
  unfold receptions
  change ((c.putEntry t entry).transmissionCache[t' - c.baseTransmissionId]?.bind _).getD [] = _
  rw [hlookup]
  by_cases hsame : t' = t
  · rw [if_pos hsame, if_pos hsame]
    rfl
  · rw [if_neg hsame, if_neg hsame]

variable {entry : TransmissionCacheEntryOf P (List (ReceptionCacheEntry P))}

/-- With a new entry that keeps the receptions of its transmission. -/
theorem setsTransmission_putEntry (hinv : Invariant d c) (ht : t ∈ d.transmissions)
    (hsame : ∀ i : Nat, (entry.receptionCacheEntries.getD [])[i]?.getD {} =
      (c.receptions t)[i]?.getD {}) :
    view.SetsTransmission d c (c.putEntry t entry) t entry.toTransmissionCacheEntry := by
  refine ⟨fun t' ht' => transmission_putEntry entry hinv ht ht', ?_⟩
  intro r _ t' ht'
  unfold view
  dsimp only
  rw [receptions_putEntry entry hinv ht ht']
  by_cases heq : t' = t
  · rw [if_pos heq, heq]
    exact hsame _
  · rw [if_neg heq]
    rfl

/-- With a new entry that replaces one reception of its transmission. -/
theorem setsReception_putEntry (entry : TransmissionCacheEntryOf P (List (ReceptionCacheEntry P)))
    {reception : ReceptionCacheEntry P} (hinv : Invariant d c) (hr : r ∈ d.radios)
    (ht : t ∈ d.transmissions)
    (hsame : entry.toTransmissionCacheEntry = view.transmission c t)
    (hreception : ∀ i : Nat, (entry.receptionCacheEntries.getD [])[i]?.getD {} =
      if i = r - c.baseRadioId then reception else (c.receptions t)[i]?.getD {}) :
    view.SetsReception d c (c.putEntry t entry) r t reception := by
  constructor
  · intro t' ht'
    rw [transmission_putEntry entry hinv ht ht']
    by_cases heq : t' = t
    · rw [if_pos heq, heq, hsame]
    · rw [if_neg heq]
  · intro r' hr' t' ht'
    obtain ⟨hle, -⟩ := hinv.radio_lt hr
    obtain ⟨hle', -⟩ := hinv.radio_lt hr'
    have hindex : r' - c.baseRadioId = r - c.baseRadioId ↔ r' = r := by omega
    unfold view
    dsimp only
    rw [receptions_putEntry entry hinv ht ht']
    change (ite (t' = t) _ _)[r' - c.baseRadioId]?.getD ({} : ReceptionCacheEntry P) = _
    by_cases heq : t' = t
    · rw [if_pos heq, hreception, heq]
      by_cases hradio : r' = r
      · rw [if_pos (hindex.mpr hradio), if_pos ⟨hradio, rfl⟩]
      · rw [if_neg (fun h => hradio (hindex.mp h)), if_neg (fun h => hradio h.1)]
    · rw [if_neg heq, if_neg (fun h => heq h.2)]

/-- The vector that `getTransmissionCacheEntry` creates when there is none. -/
theorem getD_withReceptions (radioCount : Nat)
    (entry : TransmissionCacheEntryOf P (List (ReceptionCacheEntry P))) (i : Nat) :
    ((withReceptions radioCount entry).receptionCacheEntries.getD [])[i]?.getD {} =
      (entry.receptionCacheEntries.getD [])[i]?.getD {} := by
  unfold withReceptions
  cases entry.receptionCacheEntries with
  | some receptionCacheEntries => rfl
  | none =>
    simp only [Option.getD_none, Option.getD_some, List.getElem?_replicate]
    by_cases hi : i < radioCount
    · simp [hi]
    · simp [hi]

theorem Invariant.withReceptions (hinv : Invariant d c) (hentry : entry ∈ c.transmissionCache) :
    ReceptionsFit c.radioCache
      ((withReceptions c.radioCache.length entry).receptionCacheEntries.getD []) := by
  unfold VectorCommunicationCache.withReceptions
  cases hsome : entry.receptionCacheEntries with
  | some receptionCacheEntries => exact hinv.receptions entry hentry _ hsome
  | none =>
    refine ⟨by simp, ?_⟩
    intro i reception hreception hinterval
    obtain ⟨-, rfl⟩ := by simpa [List.getElem?_replicate] using hreception
    exact absurd rfl hinterval

theorem receptions_eq (hentry : c.transmissionCache[t - c.baseTransmissionId]? = some entry) :
    c.receptions t = entry.receptionCacheEntries.getD [] := by
  unfold receptions
  rw [hentry]
  rfl

theorem transmission_eq (hentry : c.transmissionCache[t - c.baseTransmissionId]? = some entry) :
    view.transmission c t = entry.toTransmissionCacheEntry := by
  unfold view
  dsimp only
  rw [hentry]
  rfl

theorem getTransmissionCacheEntry_eq (hle : c.baseTransmissionId ≤ t)
    (hentry : c.transmissionCache[t - c.baseTransmissionId]? = some entry) :
    c.getTransmissionCacheEntry t = (c.putEntry t (withReceptions c.radioCache.length entry),
        some (withReceptions c.radioCache.length entry)) := by
  have hlt := (List.getElem?_eq_some_iff.mp hentry).1
  unfold getTransmissionCacheEntry
  rw [if_neg (by omega)]
  dsimp only
  rw [grow_of_lt hlt, modify_eq_set hentry, List.getElem?_set_self hlt]
  rfl

/-- To write through the pointer of a transmission is to replace its entry. -/
theorem putTransmissionCacheEntry_putEntry
    (hlt : t - c.baseTransmissionId < c.transmissionCache.length) (v : TransmissionCacheEntry P) :
    (c.putEntry t entry).putTransmissionCacheEntry t v =
      c.putEntry t { entry with toTransmissionCacheEntry := v } := by
  have hself := List.getElem?_set_self (a := entry) hlt
  unfold putTransmissionCacheEntry putEntry
  rw [modify_eq_set hself, List.set_set]

theorem modifyReceptions_putEntry (hlt : t - c.baseTransmissionId < c.transmissionCache.length)
    (f : List (ReceptionCacheEntry P) → List (ReceptionCacheEntry P)) :
    (c.putEntry t entry).modifyReceptions t f = c.putEntry t
      { entry with receptionCacheEntries := entry.receptionCacheEntries.map f } := by
  have hself := List.getElem?_set_self (a := entry) hlt
  unfold modifyReceptions putEntry
  rw [modify_eq_set hself, List.set_set]

theorem Invariant.putEntry_withReceptions
    {entry entry' : TransmissionCacheEntryOf P (List (ReceptionCacheEntry P))}
    (hinv : Invariant d c) (ht : t ∈ d.transmissions)
    (hentry : c.transmissionCache[t - c.baseTransmissionId]? = some entry)
    (hsame : entry'.receptionCacheEntries =
      (VectorCommunicationCache.withReceptions c.radioCache.length entry).receptionCacheEntries) :
    Invariant d (c.putEntry t entry') := by
  refine hinv.putEntry ht ?_
  intro receptionCacheEntries hsome
  have hfit := hinv.withReceptions (List.mem_of_getElem? hentry)
  rw [← hsame, hsome] at hfit
  exact hfit

/-- The entry of a transmission in which a reception has been created. -/
def createdEntry (c : VectorCommunicationCache P) (r : Nat)
    (entry : TransmissionCacheEntryOf P (List (ReceptionCacheEntry P))) :
    TransmissionCacheEntryOf P (List (ReceptionCacheEntry P)) :=
  { entry with
    receptionCacheEntries := some (grow
      ((withReceptions c.radioCache.length entry).receptionCacheEntries.getD [])
      (r - c.baseRadioId) {}) }

theorem getReceptionCacheEntry_eq (hinv : Invariant d c)
    (hr : r ∈ d.radios) (ht : t ∈ d.transmissions)
    (hentry : c.transmissionCache[t - c.baseTransmissionId]? = some entry) :
    c.getReceptionCacheEntry r t =
      (c.putEntry t (c.createdEntry r entry), some (view.reception c r t)) := by
  obtain ⟨hle, hlt⟩ := hinv.transmission_lt ht
  obtain ⟨hradio, -⟩ := hinv.radio_lt hr
  unfold getReceptionCacheEntry
  rw [getTransmissionCacheEntry_eq hle hentry]
  dsimp only
  rw [if_neg (by change ¬ r < c.baseRadioId; omega), modifyReceptions_putEntry hlt]
  refine Prod.ext rfl ?_
  change (grow _ (r - c.baseRadioId) _)[r - c.baseRadioId]? = _
  rw [getElem?_grow_self, getD_withReceptions]
  unfold view
  dsimp only
  rw [receptions_eq hentry]

theorem createdEntry_fits
    (hinv : Invariant d c) (hr : r ∈ d.radios) (hentry : entry ∈ c.transmissionCache) :
    ReceptionsFit c.radioCache ((c.createdEntry r entry).receptionCacheEntries.getD []) := by
  obtain ⟨-, hlt⟩ := hinv.radio_lt hr
  have hfit := hinv.withReceptions hentry
  have hlength := hfit.length
  constructor
  · change (grow _ _ _).length ≤ _
    rw [length_grow]
    omega
  · intro i reception hreception hinterval
    obtain hold | rfl := getElem?_grow_eq_some hreception
    · exact hfit.tree i reception hold hinterval
    · exact absurd rfl hinterval

theorem getD_createdEntry
    (hentry : c.transmissionCache[t - c.baseTransmissionId]? = some entry) (i : Nat) :
    ((c.createdEntry r entry).receptionCacheEntries.getD [])[i]?.getD {} =
      (c.receptions t)[i]?.getD {} := by
  change (grow _ _ _)[i]?.getD _ = _
  rw [getD_grow, getD_withReceptions, receptions_eq hentry]

/-- The reception that was created is replaced; its new interval, if it is one,
is in a tree. -/
def replacedEntry (c : VectorCommunicationCache P) (r : Nat)
    (entry : TransmissionCacheEntryOf P (List (ReceptionCacheEntry P)))
    (reception : ReceptionCacheEntry P) :
    TransmissionCacheEntryOf P (List (ReceptionCacheEntry P)) :=
  { c.createdEntry r entry with
    receptionCacheEntries := (c.createdEntry r entry).receptionCacheEntries.map
      fun receptionCacheEntries => receptionCacheEntries.set (r - c.baseRadioId) reception }

variable {radioCache : List (RadioCacheEntry P)} {reception : ReceptionCacheEntry P}

theorem replacedEntry_fits
    (hfit : ReceptionsFit radioCache ((c.createdEntry r entry).receptionCacheEntries.getD []))
    (htree : reception.interval ≠ none → HasTree radioCache (r - c.baseRadioId)) :
    ReceptionsFit radioCache ((c.replacedEntry r entry reception).receptionCacheEntries.getD []) := by
  change ReceptionsFit radioCache ((grow _ _ _).set _ _)
  constructor
  · rw [List.length_set]
    exact hfit.length
  · intro i other hother hinterval
    rw [List.getElem?_set] at hother
    by_cases hi : r - c.baseRadioId = i
    · rw [if_pos hi] at hother
      split at hother
      · cases hother
        exact hi ▸ htree hinterval
      · cases hother
    · rw [if_neg hi] at hother
      exact hfit.tree i other hother hinterval

theorem getD_replacedEntry
    (hentry : c.transmissionCache[t - c.baseTransmissionId]? = some entry) (i : Nat) :
    ((c.replacedEntry r entry reception).receptionCacheEntries.getD [])[i]?.getD {} =
      if i = r - c.baseRadioId then reception else (c.receptions t)[i]?.getD {} := by
  change ((grow _ _ _).set (r - c.baseRadioId) reception)[i]?.getD {} = _
  by_cases hi : i = r - c.baseRadioId
  · rw [if_pos hi, hi, List.getElem?_set_self]
    · rfl
    · rw [length_grow]
      omega
  · rw [if_neg hi, List.getElem?_set_ne (Ne.symm hi)]
    exact getD_createdEntry hentry i

theorem Invariant.hasTree (hinv : Invariant d c)
    (hentry : c.transmissionCache[t - c.baseTransmissionId]? = some entry)
    (hinterval : (view.reception c r t).interval ≠ none) :
    HasTree c.radioCache (r - c.baseRadioId) := by
  have hfit := hinv.withReceptions (List.mem_of_getElem? hentry)
  have hread := getD_withReceptions c.radioCache.length entry (r - c.baseRadioId)
  have hview : view.reception c r t = (c.receptions t)[r - c.baseRadioId]?.getD {} := rfl
  rw [hview, receptions_eq hentry, ← hread] at hinterval
  cases hreception :
      ((VectorCommunicationCache.withReceptions c.radioCache.length
        entry).receptionCacheEntries.getD [])[r - c.baseRadioId]? with
  | none =>
    rw [hreception] at hinterval
    exact absurd rfl hinterval
  | some reception =>
    rw [hreception] at hinterval
    exact hfit.tree _ reception hreception hinterval

theorem getRadioCacheEntry_eq (hr : c.baseRadioId ≤ r)
    (hlt : r - c.baseRadioId < c.radioCache.length) {radio : RadioCacheEntry P}
    (hradio : c.radioCache[r - c.baseRadioId]? = some radio) :
    c.getRadioCacheEntry r = (c, some radio) := by
  unfold getRadioCacheEntry
  rw [if_neg (by omega)]
  dsimp only
  rw [grow_of_lt hlt, hradio]

/-- The radios are where they were, and have not lost a tree. -/
structure KeepsRadios (radioCache radioCache' : List (RadioCacheEntry P)) : Prop where
  length : radioCache'.length = radioCache.length
  radio : ∀ (i : Nat) (radio : RadioCacheEntry P), radioCache[i]? = some radio →
    ∃ radio', radioCache'[i]? = some radio' ∧ radio'.stale = radio.stale ∧
      (radio.receptionIntervals ≠ none → radio'.receptionIntervals ≠ none)

variable {radioCache radioCache' : List (RadioCacheEntry P)}

theorem KeepsRadios.hasTree
    (h : KeepsRadios radioCache radioCache') {i : Nat} (htree : HasTree radioCache i) :
    HasTree radioCache' i := by
  obtain ⟨radio, hradio, hintervals⟩ := htree
  obtain ⟨radio', hradio', -, hkept⟩ := h.radio i radio hradio
  exact ⟨radio', hradio', hkept hintervals⟩

theorem KeepsRadios.fit
    (h : KeepsRadios radioCache radioCache') {receptionCacheEntries : List (ReceptionCacheEntry P)}
    (hfit : ReceptionsFit radioCache receptionCacheEntries) :
    ReceptionsFit radioCache' receptionCacheEntries := by
  constructor
  · rw [h.length]
    exact hfit.length
  · intro i reception hreception hinterval
    exact h.hasTree (hfit.tree i reception hreception hinterval)

theorem KeepsRadios.trans {radioCache₁ radioCache₂ radioCache₃ : List (RadioCacheEntry P)}
    (h : KeepsRadios radioCache₁ radioCache₂) (h' : KeepsRadios radioCache₂ radioCache₃) :
    KeepsRadios radioCache₁ radioCache₃ := by
  refine ⟨h'.length.trans h.length, ?_⟩
  intro i radio hradio
  obtain ⟨radio', hradio', hstale, hintervals⟩ := h.radio i radio hradio
  obtain ⟨radio'', hradio'', hstale', hintervals'⟩ := h'.radio i radio' hradio'
  exact ⟨radio'', hradio'', hstale'.trans hstale, fun hne => hintervals' (hintervals hne)⟩

theorem KeepsRadios.set {i : Nat}
    {radio radio' : RadioCacheEntry P} (hradio : radioCache[i]? = some radio)
    (hstale : radio'.stale = radio.stale)
    (hintervals : radio.receptionIntervals ≠ none → radio'.receptionIntervals ≠ none) :
    KeepsRadios radioCache (radioCache.set i radio') := by
  have hlt := (List.getElem?_eq_some_iff.mp hradio).1
  refine ⟨List.length_set, ?_⟩
  intro j other hother
  by_cases hj : i = j
  · subst hj
    obtain rfl := Option.some.inj (hradio.symm.trans hother)
    exact ⟨radio', List.getElem?_set_self hlt, hstale, hintervals⟩
  · exact ⟨other, (List.getElem?_set_ne hj).trans hother, rfl, id⟩

theorem Invariant.keepsRadios (hinv : Invariant d c)
    (h : KeepsRadios c.radioCache radioCache) : Invariant d { c with radioCache } := by
  refine ⟨?_, hinv.transmissions, ?_, hinv.nextTransmission, ?_⟩
  · intro r hr
    obtain ⟨hle, radio, hradio, hstale⟩ := hinv.radios r hr
    obtain ⟨radio', hradio', hstale', -⟩ := h.radio _ radio hradio
    exact ⟨hle, radio', hradio', hstale'.trans hstale⟩
  · change c.baseRadioId + radioCache.length ≤ d.nextRadio
    rw [h.length]
    exact hinv.nextRadio
  · intro entry hentry receptionCacheEntries hsome
    exact h.fit (hinv.receptions entry hentry receptionCacheEntries hsome)

end VectorCommunicationCache

end inet.physicallayer

import LoRaInet.PhysicalLayer.CommunicationCache.VectorCommunicationCache

open omnetpp container

namespace inet.physicallayer.VectorCommunicationCache

variable {P : Type} {d : Directory} {c : VectorCommunicationCache P} {r t : Nat}

theorem lawful_addRadio (hinv : Invariant d c) (hr : d.nextRadio ≤ r) :
    Invariant (d.addRadio r) (c.addRadio r) ∧ view.Agree d c (c.addRadio r) ∧
      ∀ t ∈ d.transmissions, view.reception (c.addRadio r) r t = {} := by
  have hnext := hinv.nextRadio
  -- an empty cache is rebased at the new radio, and no reception refers to the old base
  obtain ⟨base, hbase, hlive⟩ : ∃ base, (if c.radioCache = [] then { c with baseRadioId := r } else c) =
      { c with baseRadioId := base } ∧ base + c.radioCache.length ≤ r ∧
        (base = c.baseRadioId ∨ c.radioCache = []) := by
    by_cases hempty : c.radioCache = []
    · refine ⟨r, if_pos hempty, ?_, Or.inr hempty⟩
      rw [hempty, List.length_nil]
      omega
    · exact ⟨c.baseRadioId, if_neg hempty, by omega, Or.inl rfl⟩
  obtain ⟨hfree, hrebased⟩ := hlive
  have hadd : c.addRadio r = { c with
      baseRadioId := base, radioCache := grow c.radioCache (r - base) {} } := by
    unfold addRadio getRadioCacheEntry
    rw [hbase]
    dsimp only
    rw [if_neg (by omega)]
  have hradio : ∀ r' ∈ d.radios, base = c.baseRadioId ∧ r' - base < c.radioCache.length := by
    intro r' hr'
    obtain ⟨hle, hlt⟩ := hinv.radio_lt hr'
    obtain hsame | hempty := hrebased
    · exact ⟨hsame, hsame ▸ hlt⟩
    · rw [hempty, List.length_nil] at hlt
      omega
  rw [hadd]
  refine ⟨⟨?_, hinv.transmissions, ?_, hinv.nextTransmission, ?_⟩, ⟨fun t _ => rfl, ?_⟩, ?_⟩
  · intro r' hr'
    obtain rfl | hr' := List.mem_cons.mp hr'
    · have hout : c.radioCache[r' - base]? = none := List.getElem?_eq_none (by omega)
      refine ⟨by dsimp only; omega, {}, ?_, rfl⟩
      rw [getElem?_grow_self, hout]
      rfl
    · obtain ⟨hsame, hlt⟩ := hradio r' hr'
      obtain ⟨hle, radio, hsome, hstale⟩ := hinv.radios r' hr'
      refine ⟨hsame ▸ hle, radio, ?_, hstale⟩
      rw [getElem?_grow_of_lt hlt, hsame, hsome]
  · change base + (grow c.radioCache (r - base) {}).length ≤ r + 1
    rw [length_grow]
    omega
  · intro entry hentry receptionCacheEntries hsome
    have hfit := hinv.receptions entry hentry receptionCacheEntries hsome
    constructor
    · have hlength := hfit.length
      rw [length_grow]
      omega
    · intro i reception hreception hinterval
      obtain ⟨radio, hradioAt, hintervals⟩ := hfit.tree i reception hreception hinterval
      have hlt := (List.getElem?_eq_some_iff.mp hradioAt).1
      exact ⟨radio, (getElem?_grow_of_lt hlt _).trans hradioAt, hintervals⟩
  · intro r' hr' t _
    obtain ⟨rfl, -⟩ := hradio r' hr'
    rfl
  · intro t ht
    obtain ⟨-, entry, hentry⟩ := hinv.transmissions t ht
    have hlength : (c.receptions t).length ≤ c.radioCache.length := by
      rw [receptions_eq hentry]
      cases hsome : entry.receptionCacheEntries with
      | none => simp
      | some receptionCacheEntries =>
        exact (hinv.receptions entry (List.mem_of_getElem? hentry) _ hsome).length
    have hout : (c.receptions t)[r - base]? = none := List.getElem?_eq_none (by omega)
    change (c.receptions t)[r - base]?.getD {} = {}
    rw [hout]
    rfl

theorem lawful_addTransmission (hinv : Invariant d c) (ht : d.nextTransmission ≤ t) :
    Invariant (d.addTransmission t) (c.addTransmission t) ∧
      view.Agree d c (c.addTransmission t) ∧ view.transmission (c.addTransmission t) t = {} ∧
      ∀ r ∈ d.radios, view.reception (c.addTransmission t) r t = {} := by
  have hnext := hinv.nextTransmission
  obtain ⟨base, hbase, hfree, hrebased⟩ : ∃ base,
      (if c.transmissionCache = [] then { c with baseTransmissionId := t } else c) =
        { c with baseTransmissionId := base } ∧ base + c.transmissionCache.length ≤ t ∧
        (base = c.baseTransmissionId ∨ c.transmissionCache = []) := by
    by_cases hempty : c.transmissionCache = []
    · refine ⟨t, if_pos hempty, ?_, Or.inr hempty⟩
      rw [hempty, List.length_nil]
      omega
    · exact ⟨c.baseTransmissionId, if_neg hempty, by omega, Or.inl rfl⟩
  have hout : c.transmissionCache[t - base]? = none := List.getElem?_eq_none (by omega)
  have hgrown := getElem?_grow_self c.transmissionCache (t - base) {}
  rw [hout, Option.getD_none] at hgrown
  have hlength := length_grow c.transmissionCache (t - base) {}
  have hadd : c.addTransmission t = { c with
      baseTransmissionId := base
      transmissionCache := (grow c.transmissionCache (t - base) {}).set (t - base)
        (withReceptions c.radioCache.length {}) } := by
    unfold addTransmission getTransmissionCacheEntry
    rw [hbase]
    dsimp only
    rw [if_neg (by omega), modify_eq_set hgrown]
  have hold : ∀ t' ∈ d.transmissions, base = c.baseTransmissionId ∧
      ((grow c.transmissionCache (t - base) {}).set (t - base)
        (withReceptions c.radioCache.length {}))[t' - base]? = c.transmissionCache[t' - base]? := by
    intro t' ht'
    obtain ⟨hle, hlt⟩ := hinv.transmission_lt ht'
    obtain rfl | hempty := hrebased
    · refine ⟨rfl, ?_⟩
      rw [List.getElem?_set_ne (by omega), getElem?_grow_of_lt hlt]
    · rw [hempty, List.length_nil] at hlt
      omega
  have hnew : ((grow c.transmissionCache (t - base) {}).set (t - base)
      (withReceptions c.radioCache.length {}))[t - base]? =
        some (withReceptions c.radioCache.length {}) :=
    List.getElem?_set_self (by omega)
  rw [hadd]
  refine ⟨⟨hinv.radios, ?_, hinv.nextRadio, ?_, ?_⟩, ⟨?_, ?_⟩, ?_, ?_⟩
  · intro t' ht'
    obtain rfl | ht' := List.mem_cons.mp ht'
    · exact ⟨by dsimp only; omega, _, hnew⟩
    · obtain ⟨hsame, hlookup⟩ := hold t' ht'
      obtain ⟨hle, entry, hentry⟩ := hinv.transmissions t' ht'
      exact ⟨hsame ▸ hle, entry, hlookup.trans (hsame ▸ hentry)⟩
  · change base + ((grow c.transmissionCache (t - base) {}).set _ _).length ≤ t + 1
    rw [List.length_set]
    omega
  · intro entry hentry receptionCacheEntries hsome
    obtain hgrow | rfl := List.mem_or_eq_of_mem_set hentry
    · obtain hmem | rfl := mem_grow hgrow
      · exact hinv.receptions entry hmem receptionCacheEntries hsome
      · cases hsome
    · cases hsome
      refine ⟨by simp, ?_⟩
      intro i reception hreception hinterval
      obtain ⟨-, rfl⟩ := by simpa [List.getElem?_replicate] using hreception
      exact absurd rfl hinterval
  · intro t' ht'
    obtain ⟨rfl, hlookup⟩ := hold t' ht'
    unfold view
    dsimp only
    rw [hlookup]
  · intro r _ t' ht'
    obtain ⟨rfl, hlookup⟩ := hold t' ht'
    unfold view receptions
    dsimp only
    rw [hlookup]
  · unfold view
    dsimp only
    rw [hnew]
    rfl
  · intro r _
    unfold view receptions
    dsimp only
    rw [hnew]
    change ((List.replicate _ _)[_]?.getD _) = _
    rw [List.getElem?_replicate]
    split <;> rfl

/-- Once a radio is stale, the entries of the vector up to this index are. -/
def LeadsStale (c : VectorCommunicationCache P) (r i : Nat) : Prop :=
  ∀ j ≤ i, ∃ radio ∈ c.radioCache[j]?, j = r - c.baseRadioId ∨ radio.stale = true
deriving Decidable

/-- What the vector cache needs beyond what is allowed: each vector of
receptions holds the entries of the stale radios that are erased, and no
transmission that is alive has only expired ones before it and is expired. -/
def Safe (d : Directory) (c : VectorCommunicationCache P) : Call P → Prop
  | .removeRadio r => ∀ entry ∈ c.transmissionCache,
    ∀ receptionCacheEntries ∈ entry.receptionCacheEntries, ∀ i < c.radioCache.length,
      c.LeadsStale r i → i < receptionCacheEntries.length
  | .removeNonInterferingTransmissions now => ∀ t ∈ d.transmissions,
    ∃ i ≤ t - c.baseTransmissionId, ∃ entry ∈ c.transmissionCache[i]?, ¬ entry.Expired now
  | _ => True

instance (d : Directory) (c : VectorCommunicationCache P) (call : Call P) :
    Decidable (Safe d c call) :=
  match call with
  | .removeRadio _ => inferInstanceAs (Decidable (∀ entry ∈ _, _))
  | .removeNonInterferingTransmissions _ => inferInstanceAs (Decidable (∀ t ∈ _, _))
  | .addRadio _ | .addTransmission _ | .removeTransmission _ | .getCachedInterferenceEndTime _
  | .setCachedInterferenceEndTime _ _ | .removeCachedInterferenceEndTime _ | .get _ | .set _ _
  | .remove _ => isTrue trivial

/-- The entry of a transmission after its leading receptions are erased. -/
def dropReceptions (radioCount : Nat)
    (entry : TransmissionCacheEntryOf P (List (ReceptionCacheEntry P))) :
    TransmissionCacheEntryOf P (List (ReceptionCacheEntry P)) :=
  { entry with receptionCacheEntries := entry.receptionCacheEntries.map (List.drop radioCount) }

theorem mapM_eraseReceptions (radioCount : Nat) :
    ∀ entries : List (TransmissionCacheEntryOf P (List (ReceptionCacheEntry P))),
      (∀ entry ∈ entries, ∀ receptionCacheEntries,
        entry.receptionCacheEntries = some receptionCacheEntries →
          radioCount ≤ receptionCacheEntries.length) →
      entries.mapM (eraseReceptions radioCount) = .ok (entries.map (dropReceptions radioCount)) := by
  intro entries
  induction entries with
  | nil =>
    intro _
    rfl
  | cons entry entries ih =>
    intro hlong
    have hentry : eraseReceptions radioCount entry = .ok (dropReceptions radioCount entry) := by
      unfold eraseReceptions dropReceptions
      cases hsome : entry.receptionCacheEntries with
      | none =>
        obtain ⟨old, receptionCacheEntries⟩ := entry
        obtain rfl : receptionCacheEntries = none := hsome
        rfl
      | some receptionCacheEntries =>
        have hle := hlong entry (.head _) receptionCacheEntries hsome
        dsimp only
        rw [if_neg (by omega)]
        rfl
    rw [List.mapM_cons, hentry, ih fun other hother => hlong other (.tail _ hother)]
    rfl

theorem lawful_eraseStaleRadios (hinv : Invariant d c)
    (hlong : ∀ entry ∈ c.transmissionCache, ∀ receptionCacheEntries,
      entry.receptionCacheEntries = some receptionCacheEntries →
        staleRadioCount c.radioCache ≤ receptionCacheEntries.length) :
    ∃ c', c.eraseStaleRadios = .ok c' ∧ Invariant d c' ∧ view.Agree d c c' := by
  have hradios : ∀ r ∈ d.radios, c.baseRadioId + staleRadioCount c.radioCache ≤ r := by
    intro r hr
    obtain ⟨hle, radio, hradio, hstale⟩ := hinv.radios r hr
    have hcount : staleRadioCount c.radioCache ≤ r - c.baseRadioId :=
      length_takeWhile_le hradio hstale
    omega
  unfold eraseStaleRadios
  by_cases hzero : staleRadioCount c.radioCache = 0
  · rw [if_pos hzero]
    exact ⟨c, rfl, hinv, ⟨fun _ _ => rfl, fun _ _ _ _ => rfl⟩⟩
  · have hcount : staleRadioCount c.radioCache ≤ c.radioCache.length :=
      List.Sublist.length_le (List.takeWhile_sublist _)
    generalize staleRadioCount c.radioCache = radioCount at *
    rw [if_neg hzero, mapM_eraseReceptions radioCount _ hlong]
    refine ⟨_, rfl, ⟨?_, ?_, ?_, ?_, ?_⟩, ⟨?_, ?_⟩⟩
    · intro r hr
      obtain ⟨hle, radio, hradio, hstale⟩ := hinv.radios r hr
      refine ⟨hradios r hr, radio, ?_, hstale⟩
      rw [getElem?_drop_sub _ (hradios r hr), hradio]
    · intro t ht
      obtain ⟨hle, entry, hentry⟩ := hinv.transmissions t ht
      refine ⟨hle, dropReceptions radioCount entry, ?_⟩
      rw [List.getElem?_map, hentry]
      rfl
    · have hnext := hinv.nextRadio
      dsimp only
      rw [List.length_drop]
      omega
    · dsimp only
      rw [List.length_map]
      exact hinv.nextTransmission
    · intro entry hentry receptionCacheEntries hsome
      obtain ⟨old, hold, rfl⟩ := List.mem_map.mp hentry
      obtain ⟨oldReceptions, holdSome, rfl⟩ := Option.map_eq_some_iff.mp hsome
      have hfit := hinv.receptions old hold oldReceptions holdSome
      have hlength := hfit.length
      constructor
      · dsimp only
        rw [List.length_drop, List.length_drop]
        omega
      · intro i reception hreception hinterval
        rw [List.getElem?_drop] at hreception
        obtain ⟨radio, hradio, hintervals⟩ := hfit.tree _ reception hreception hinterval
        exact ⟨radio, (List.getElem?_drop ..).trans hradio, hintervals⟩
    · intro t ht
      obtain ⟨hle, entry, hentry⟩ := hinv.transmissions t ht
      unfold view
      dsimp only
      rw [List.getElem?_map, hentry]
      rfl
    · intro r hr t ht
      obtain ⟨hle, entry, hentry⟩ := hinv.transmissions t ht
      unfold view receptions
      dsimp only
      rw [List.getElem?_map, hentry]
      cases hsome : entry.receptionCacheEntries with
      | none => simp [dropReceptions, hsome]
      | some receptionCacheEntries =>
        simp only [Option.map_some, Option.bind_some, dropReceptions, hsome, Option.getD_some]
        rw [getElem?_drop_sub _ (hradios r hr)]

theorem Invariant.marked {radio : RadioCacheEntry P} (hinv : Invariant d c) (hr : r ∈ d.radios)
    (hradio : c.radioCache[r - c.baseRadioId]? = some radio) :
    Invariant (d.removeRadio r)
      { c with radioCache := c.radioCache.set (r - c.baseRadioId) { radio with stale := true } } := by
  obtain ⟨hle, hlt⟩ := hinv.radio_lt hr
  refine ⟨?_, hinv.transmissions, ?_, hinv.nextTransmission, ?_⟩
  · intro r' hr'
    obtain ⟨hmem, hne⟩ := List.mem_filter.mp hr'
    have hne : r' ≠ r := of_decide_eq_true hne
    obtain ⟨hle', other, hother, hstale⟩ := hinv.radios r' hmem
    refine ⟨hle', other, ?_, hstale⟩
    dsimp only
    rw [List.getElem?_set_ne (by omega), hother]
  · dsimp only
    rw [List.length_set]
    exact hinv.nextRadio
  · intro entry hentry receptionCacheEntries hsome
    have hfit := hinv.receptions entry hentry receptionCacheEntries hsome
    constructor
    · dsimp only
      rw [List.length_set]
      exact hfit.length
    · intro i reception hreception hinterval
      obtain ⟨other, hother, hintervals⟩ := hfit.tree i reception hreception hinterval
      by_cases hi : r - c.baseRadioId = i
      · obtain rfl := Option.some.inj (hradio.symm.trans (hi ▸ hother))
        exact ⟨{ radio with stale := true }, hi ▸ List.getElem?_set_self hlt, hintervals⟩
      · exact ⟨other, (List.getElem?_set_ne hi).trans hother, hintervals⟩

theorem lawful_removeRadio (hinv : Invariant d c) (hr : r ∈ d.radios)
    (hsafe : Safe d c (.removeRadio r)) :
    ∃ c', c.removeRadio r = .ok c' ∧ Invariant (d.removeRadio r) c' ∧
      view.Agree (d.removeRadio r) c c' := by
  obtain ⟨hle, radio, hradio, -⟩ := hinv.radios r hr
  have hlt := (List.getElem?_eq_some_iff.mp hradio).1
  have hmarked := hinv.marked hr hradio
  have hlong : ∀ entry ∈ c.transmissionCache, ∀ receptionCacheEntries,
      entry.receptionCacheEntries = some receptionCacheEntries →
        staleRadioCount (c.radioCache.set (r - c.baseRadioId) { radio with stale := true }) ≤
          receptionCacheEntries.length := by
    intro entry hentry receptionCacheEntries hsome
    by_contra hshort
    have hleads : c.LeadsStale r receptionCacheEntries.length := by
      intro j hj
      obtain ⟨other, hother, hstale⟩ := getElem?_of_lt_takeWhile (p := (·.stale))
        (l := c.radioCache.set (r - c.baseRadioId) { radio with stale := true }) (i := j)
        (by unfold staleRadioCount at hshort; omega)
      by_cases hindex : r - c.baseRadioId = j
      · exact ⟨radio, hindex ▸ hradio, Or.inl hindex.symm⟩
      · rw [List.getElem?_set_ne hindex] at hother
        exact ⟨other, hother, Or.inr hstale⟩
    obtain ⟨last, hlast, -⟩ := hleads _ le_rfl
    have hlastLt := (List.getElem?_eq_some_iff.mp hlast).1
    have habsurd := hsafe entry hentry receptionCacheEntries hsome _ hlastLt hleads
    omega
  obtain ⟨c', herase, hkept, hagree⟩ := lawful_eraseStaleRadios hmarked hlong
  refine ⟨c', ?_, hkept, ⟨hagree.transmission, hagree.reception⟩⟩
  unfold removeRadio
  rw [getRadioCacheEntry_eq hle hlt hradio]
  exact herase

theorem lawful_removeTransmission (hinv : Invariant d c) :
    Invariant (d.removeTransmission t) (c.removeTransmission t) :=
  ⟨hinv.radios, fun t' ht' => hinv.transmissions t' (List.mem_filter.mp ht').1, hinv.nextRadio,
    hinv.nextTransmission, hinv.receptions⟩

section Laws

variable [DecidableEq P]

theorem deleteIntervals_ok :
    ∀ (radioCache : List (RadioCacheEntry P)) (receptionCacheEntries : List (ReceptionCacheEntry P)),
      (∀ i reception, receptionCacheEntries[i]? = some reception → reception.interval ≠ none →
        HasTree radioCache i) →
      ∃ radioCache', deleteIntervals radioCache receptionCacheEntries = .ok radioCache' ∧
        KeepsRadios radioCache radioCache' := by
  intro radioCache
  induction radioCache with
  | nil =>
    intro receptionCacheEntries _
    refine ⟨[], ?_, rfl, fun i radio hradio => ⟨radio, hradio, rfl, id⟩⟩
    unfold deleteIntervals
    rfl
  | cons radio radioCache ih =>
    intro receptionCacheEntries htree
    cases receptionCacheEntries with
    | nil =>
      refine ⟨radio :: radioCache, ?_, rfl, fun i radio hradio => ⟨radio, hradio, rfl, id⟩⟩
      unfold deleteIntervals
      rfl
    | cons reception receptionCacheEntries =>
      obtain ⟨radio', hdelete, hstale, hintervals⟩ : ∃ radio', deleteInterval radio reception =
          .ok radio' ∧ radio'.stale = radio.stale ∧
            (radio.receptionIntervals ≠ none → radio'.receptionIntervals ≠ none) := by
        unfold deleteInterval
        cases hinterval : reception.interval with
        | none => exact ⟨radio, rfl, rfl, id⟩
        | some interval =>
          obtain ⟨other, hother, hintervals⟩ := htree 0 reception rfl (by rw [hinterval]; simp)
          cases hother
          obtain ⟨receptionIntervals, hsome⟩ := Option.ne_none_iff_exists'.mp hintervals
          rw [hsome]
          exact ⟨_, rfl, rfl, by simp⟩
      obtain ⟨rest, hrest, hkeeps⟩ := ih receptionCacheEntries
        fun i other hother hinterval => htree (i + 1) other hother hinterval
      refine ⟨radio' :: rest, ?_, ?_, ?_⟩
      · unfold deleteIntervals
        rw [hdelete, hrest]
        rfl
      · rw [List.length_cons, List.length_cons, hkeeps.length]
      · intro i other hother
        cases i with
        | zero =>
          cases hother
          exact ⟨radio', rfl, hstale, hintervals⟩
        | succ i => exact hkeeps.radio i other hother

theorem foldlM_deleteIntervals_ok
    (entries : List (TransmissionCacheEntryOf P (List (ReceptionCacheEntry P)))) :
    ∀ radioCache : List (RadioCacheEntry P), (∀ entry ∈ entries, ∀ receptionCacheEntries,
        entry.receptionCacheEntries = some receptionCacheEntries →
          ReceptionsFit radioCache receptionCacheEntries) →
      ∃ radioCache', entries.foldlM (fun radioCache entry =>
          deleteIntervals radioCache (entry.receptionCacheEntries.getD [])) radioCache =
            .ok radioCache' ∧ KeepsRadios radioCache radioCache' := by
  induction entries with
  | nil =>
    intro radioCache _
    exact ⟨radioCache, rfl, rfl, fun i radio hradio => ⟨radio, hradio, rfl, id⟩⟩
  | cons entry entries ih =>
    intro radioCache hfit
    obtain ⟨next, hnext, hkeeps⟩ := deleteIntervals_ok radioCache
      (entry.receptionCacheEntries.getD []) (by
        intro i reception hreception hinterval
        cases hsome : entry.receptionCacheEntries with
        | none =>
          rw [hsome] at hreception
          cases hreception
        | some receptionCacheEntries =>
          rw [hsome] at hreception
          exact (hfit entry (.head _) _ hsome).tree i reception hreception hinterval)
    obtain ⟨last, hlast, hrest⟩ := ih next fun other hother receptionCacheEntries hsome =>
      hkeeps.fit (hfit other (.tail _ hother) receptionCacheEntries hsome)
    refine ⟨last, ?_, hkeeps.trans hrest⟩
    rw [List.foldlM_cons, hnext]
    exact hlast

theorem lawful_removeNonInterferingTransmissions {now : SimTime} (hinv : Invariant d c)
    (hsafe : Safe d c (.removeNonInterferingTransmissions now)) :
    ∃ c', c.removeNonInterferingTransmissions now = .ok c' ∧ Invariant d c' ∧
      view.Agree d c c' := by
  have hlive : ∀ t ∈ d.transmissions, c.baseTransmissionId + c.nonInterferingCount now ≤ t := by
    intro t ht
    obtain ⟨hle, -⟩ := hinv.transmission_lt ht
    obtain ⟨i, hi, entry, hentry, hexpired⟩ := hsafe t ht
    have hcount : c.nonInterferingCount now ≤ i :=
      length_takeWhile_le hentry (decide_eq_false hexpired)
    omega
  have hcount : c.nonInterferingCount now ≤ c.transmissionCache.length :=
    List.Sublist.length_le (List.takeWhile_sublist _)
  unfold removeNonInterferingTransmissions
  dsimp only
  generalize c.nonInterferingCount now = transmissionIndex at *
  obtain ⟨radioCache, hfold, hkeeps⟩ := foldlM_deleteIntervals_ok
    (c.transmissionCache.take transmissionIndex) c.radioCache
    fun entry hentry => hinv.receptions entry (List.mem_of_mem_take hentry)
  have hkept := hinv.keepsRadios hkeeps
  rw [hfold]
  refine ⟨_, rfl, ⟨hkept.radios, ?_, hkept.nextRadio, ?_, ?_⟩, ⟨?_, ?_⟩⟩
  · intro t ht
    obtain ⟨-, entry, hentry⟩ := hinv.transmissions t ht
    refine ⟨hlive t ht, entry, ?_⟩
    rw [getElem?_drop_sub _ (hlive t ht), hentry]
  · have hnext := hinv.nextTransmission
    dsimp only
    rw [List.length_drop]
    omega
  · intro entry hentry
    exact hkept.receptions entry (List.mem_of_mem_drop hentry)
  · intro t ht
    unfold view
    dsimp only
    rw [getElem?_drop_sub _ (hlive t ht)]
  · intro r _ t ht
    unfold view receptions
    dsimp only
    rw [getElem?_drop_sub _ (hlive t ht)]

theorem lawful_transmission (hinv : Invariant d c) (ht : t ∈ d.transmissions) :
    ∃ c', CommunicationCacheBase.getTransmissionCacheEntry c t =
        (c', some (view.transmission c t)) ∧ Invariant d c' ∧ view.Agree d c c' ∧
      ∀ entry, Invariant d (c'.putTransmissionCacheEntry t entry) ∧
        view.SetsTransmission d c (c'.putTransmissionCacheEntry t entry) t entry := by
  obtain ⟨hle, entry, hentry⟩ := hinv.transmissions t ht
  have hlt := (List.getElem?_eq_some_iff.mp hentry).1
  have hreceptions : ∀ i : Nat,
      ((withReceptions c.radioCache.length entry).receptionCacheEntries.getD [])[i]?.getD {} =
        (c.receptions t)[i]?.getD {} := by
    intro i
    rw [getD_withReceptions, receptions_eq hentry]
  refine ⟨c.putEntry t (withReceptions c.radioCache.length entry), ?_, ?_, ?_, ?_⟩
  · have hget := getTransmissionCacheEntry_eq hle hentry
    change ((c.getTransmissionCacheEntry t).1, (c.getTransmissionCacheEntry t).2.map _) = _
    rw [hget, transmission_eq hentry]
    rfl
  · exact hinv.putEntry_withReceptions ht hentry rfl
  · have hsets := setsTransmission_putEntry hinv ht hreceptions
    refine ⟨?_, hsets.reception⟩
    intro t' ht'
    rw [hsets.transmission t' ht']
    by_cases hsame : t' = t
    · rw [if_pos hsame, hsame, transmission_eq hentry]
      rfl
    · rw [if_neg hsame]
  · intro v
    rw [putTransmissionCacheEntry_putEntry hlt]
    exact ⟨hinv.putEntry_withReceptions ht hentry rfl, setsTransmission_putEntry hinv ht hreceptions⟩

theorem lawful_reception (hinv : Invariant d c) (hr : r ∈ d.radios) (ht : t ∈ d.transmissions) :
    ∃ c', CommunicationCacheBase.getReceptionCacheEntry c r t =
        (c', some (view.reception c r t)) ∧ Invariant d c' ∧ view.Agree d c c' ∧
      ∀ reception, reception.interval = none ∨
        reception.interval = (view.reception c r t).interval →
        Invariant d (c'.putReceptionCacheEntry r t reception) ∧
          view.SetsReception d c (c'.putReceptionCacheEntry r t reception) r t reception := by
  obtain ⟨hle, entry, hentry⟩ := hinv.transmissions t ht
  have hlt := (List.getElem?_eq_some_iff.mp hentry).1
  have hfit := createdEntry_fits hinv hr (List.mem_of_getElem? hentry)
  refine ⟨c.putEntry t (c.createdEntry r entry), getReceptionCacheEntry_eq hinv hr ht hentry, ?_,
    ?_, ?_⟩
  · refine hinv.putEntry ht ?_
    rintro _ ⟨rfl⟩
    exact hfit
  · have hsets := setsTransmission_putEntry hinv ht (getD_createdEntry (r := r) hentry)
    refine ⟨?_, hsets.reception⟩
    intro t' ht'
    rw [hsets.transmission t' ht']
    by_cases hsame : t' = t
    · rw [if_pos hsame, hsame, transmission_eq hentry]
      rfl
    · rw [if_neg hsame]
  · intro reception hreception
    have htree : reception.interval ≠ none → HasTree c.radioCache (r - c.baseRadioId) := by
      intro hinterval
      obtain hnone | hsame := hreception
      · exact absurd hnone hinterval
      · rw [hsame] at hinterval
        exact hinv.hasTree hentry hinterval
    unfold putReceptionCacheEntry
    rw [modifyReceptions_putEntry hlt]
    refine ⟨hinv.putEntry ht ?_, setsReception_putEntry (c.replacedEntry r entry reception) hinv hr
      ht (transmission_eq hentry).symm (getD_replacedEntry hentry)⟩
    rintro _ ⟨rfl⟩
    exact replacedEntry_fits hfit htree

theorem insertInterval_eq (hr : c.baseRadioId ≤ r)
    (hlt : r - c.baseRadioId < c.radioCache.length) {radio : RadioCacheEntry P}
    (hradio : c.radioCache[r - c.baseRadioId]? = some radio) (interval : P) :
    CommunicationCacheBase.insertInterval c r interval =
      .ok { c with radioCache := c.radioCache.set (r - c.baseRadioId) { radio with
        receptionIntervals := some (radio.receptionIntervals.getD [] ++ [interval]) } } := by
  have hget : CommunicationCacheBase.getRadioCacheEntry c r = _ := getRadioCacheEntry_eq hr hlt hradio
  unfold CommunicationCacheBase.insertInterval
  rw [hget]
  rfl

theorem lawful_interval (interval : P) (hinv : Invariant d c) (hr : r ∈ d.radios)
    (ht : t ∈ d.transmissions) :
    ∃ c', CommunicationCacheBase.setCachedInterval c r t (some interval) = .ok c' ∧ Invariant d c' ∧
      view.SetsReception d c c' r t ((view.reception c r t).put .interval (some interval)) := by
  obtain ⟨hle, entry, hentry⟩ := hinv.transmissions t ht
  have hlt := (List.getElem?_eq_some_iff.mp hentry).1
  obtain ⟨hradioLe, radio, hradio, hstale⟩ := hinv.radios r hr
  have hradioLt := (List.getElem?_eq_some_iff.mp hradio).1
  have hkeeps : KeepsRadios c.radioCache (c.radioCache.set (r - c.baseRadioId) { radio with
      receptionIntervals := some (radio.receptionIntervals.getD [] ++ [interval]) }) :=
    .set hradio rfl (by simp)
  have hplanted := hinv.keepsRadios hkeeps
  have hfit := hkeeps.fit (createdEntry_fits hinv hr (List.mem_of_getElem? hentry))
  have hsets := setsReception_putEntry (c.replacedEntry r entry
    ((view.reception c r t).put .interval (some interval))) hplanted hr ht
    (transmission_eq hentry).symm (getD_replacedEntry hentry)
  refine ⟨_, ?_, hplanted.putEntry ht ?_, ⟨hsets.transmission, hsets.reception⟩⟩
  · unfold CommunicationCacheBase.setCachedInterval CommunicationCacheBase.setCached
    have hget : CommunicationCacheBase.getReceptionCacheEntry c r t = _ :=
      getReceptionCacheEntry_eq hinv hr ht hentry
    rw [hget]
    change CommunicationCacheBase.insertInterval
      ((c.putEntry t (c.createdEntry r entry)).modifyReceptions t _) r interval = _
    rw [modifyReceptions_putEntry hlt]
    exact insertInterval_eq (c := c.putEntry t _) hradioLe hradioLt hradio interval
  · rintro _ ⟨rfl⟩
    refine replacedEntry_fits hfit fun _ => ?_
    exact ⟨_, List.getElem?_set_self hradioLt, by simp⟩

/-- The vector cache does what the base class relies on, when it is safe. -/
theorem lawful : LawfulCache view (Invariant (P := P)) Safe where
  transmission := lawful_transmission
  reception := lawful_reception
  interval := lawful_interval
  addRadio := lawful_addRadio
  removeRadio := lawful_removeRadio
  addTransmission := lawful_addTransmission
  removeTransmission hinv _ :=
    ⟨_, rfl, lawful_removeTransmission hinv, ⟨fun _ _ => rfl, fun _ _ _ _ => rfl⟩⟩
  removeNonInterferingTransmissions := lawful_removeNonInterferingTransmissions

end Laws

theorem invariant_empty : Invariant {} ({} : VectorCommunicationCache P) where
  radios _ hr := absurd hr List.not_mem_nil
  transmissions _ ht := absurd ht List.not_mem_nil
  nextRadio := le_rfl
  nextTransmission := le_rfl
  receptions _ hentry := absurd hentry List.not_mem_nil

end inet.physicallayer.VectorCommunicationCache

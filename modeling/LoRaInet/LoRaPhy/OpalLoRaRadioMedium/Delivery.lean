import LoRaInet.LoRaPhy.OpalLoRaRadioMedium

open omnetpp transition container

namespace inet.physicallayer.OpalLoRaRadioMedium

variable {par : Parameters}

/-- What is cached for the transmitter and the receiver. -/
def powerCached (s : OpalLoRaRadioMedium) (transmitter receiver : Nat) : Option ℚ :=
  (s.mapReceptions.lookup transmitter).bind (·.lookup receiver)

section cachePower

variable (mapReceptions : Map Nat (Map Nat ℚ)) (transmitter receiver : Nat) (p : ℚ)

theorem isSome_lookup_cachePower (other : Nat) :
    ((cachePower mapReceptions transmitter receiver p).lookup other).isSome =
      (mapReceptions.lookup other).isSome := by
  unfold cachePower
  split
  · rfl
  · next CPE hCPE =>
    split
    · rfl
    · rw [Map.lookup_insert_eq]
      by_cases hother : other = transmitter
      · rw [if_pos hother, hother, hCPE, Option.isSome_some, Option.isSome_some]
      · rw [if_neg hother]

theorem lookup_cachePower (hknown : (mapReceptions.lookup transmitter).isSome = true)
    (other radio : Nat) :
    ((cachePower mapReceptions transmitter receiver p).lookup other).bind (·.lookup radio) =
      if other = transmitter ∧ radio = receiver then
        some (((mapReceptions.lookup other).bind (·.lookup radio)).getD p)
      else (mapReceptions.lookup other).bind (·.lookup radio) := by
  obtain ⟨CPE, hCPE⟩ := Option.isSome_iff_exists.mp hknown
  simp only [cachePower, hCPE]
  cases hpower : CPE.lookup receiver with
  | some q =>
    by_cases hsame : other = transmitter ∧ radio = receiver
    · obtain ⟨rfl, rfl⟩ := hsame
      simp [hCPE, hpower]
    · simp only [hsame, ↓reduceIte]
  | none =>
    rw [Map.lookup_insert_eq]
    by_cases hother : other = transmitter
    · subst hother
      rw [if_pos rfl, hCPE, Option.bind_some, Option.bind_some, Map.lookup_insert_eq]
      by_cases hradio : radio = receiver
      · subst hradio
        simp [hpower]
      · simp [hradio]
    · simp [hother]

end cachePower

/-- What the cache of a static medium holds once the power has been computed. -/
def afterReception (par : Parameters) (mapReceptions : Map Nat (Map Nat ℚ))
    (transmitter receiver : Nat) (p : ℚ) : Map Nat (Map Nat ℚ) :=
  if par.isStatic then cachePower mapReceptions transmitter receiver p else mapReceptions

theorem cacheReceptionPower_eq (s : OpalLoRaRadioMedium) (receiver : Nat)
    (transmission : LoRaTransmission) (p : ℚ) :
    cacheReceptionPower par s receiver transmission p = { s with
        mapReceptions :=
          afterReception par s.mapReceptions transmission.transmitter receiver p } := by
  unfold cacheReceptionPower afterReception
  split
  · rfl
  · rfl

theorem isSome_lookup_afterReception (mapReceptions : Map Nat (Map Nat ℚ))
    (transmitter receiver other : Nat) (p : ℚ) :
    ((afterReception par mapReceptions transmitter receiver p).lookup other).isSome =
      (mapReceptions.lookup other).isSome := by
  unfold afterReception
  split
  · exact isSome_lookup_cachePower _ _ _ _ _
  · rfl

/-- Every radio is registered, and no callback holds a power that was not taken. -/
structure Registered (par : Parameters) (s : OpalLoRaRadioMedium) : Prop where
  registered : ∀ radio, (s.receiversRadios.lookup radio).isSome = true ↔ radio ∈ s.radios
  quiet : ∀ radio callback, s.receiversRadios.lookup radio = some callback →
    callback.radio = radio ∧ callback.opalReceiverId = par.opalReceiverId radio ∧
      callback.hasReceivedPower = false

/-- The receivers of a transmission have it set in their callbacks. -/
structure Ready (par : Parameters) (s : OpalLoRaRadioMedium) (transmission : LoRaTransmission) :
    Prop extends Registered par s where
  receiver : ∀ radio ∈ s.radios, radio ≠ transmission.transmitter →
    ∃ callback, s.receiversRadios.lookup radio = some callback ∧
      callback.transmission = some transmission

variable {s s' : OpalLoRaRadioMedium}

theorem takeReceivedPower_ok {receiver : Nat} {ocb : OpalReceiverCallback} {txId : Int} {p : ℚ}
    (hcall : s.takeReceivedPower receiver ocb txId = .ok (s', p)) :
    (ocb.hasReceivedPower = true ∧ p = ocb.lastPower ∧
        s' = { s with receiversRadios := s.receiversRadios.insert receiver ocb.reset }) ∨
      (ocb.hasReceivedPower = false ∧ p = 0 ∧ s' = s) := by
  unfold takeReceivedPower at hcall
  split at hcall
  · next hreceived =>
    split at hcall
    · cases hcall
    · split at hcall
      · cases hcall
      · cases hcall
        exact .inl ⟨hreceived, rfl, rfl⟩
  · next hreceived =>
    cases hcall
    exact .inr ⟨by simpa using hreceived, rfl, rfl⟩

variable {transmission : LoRaTransmission}

theorem createReception_ok {callback : OpalReceiverCallback} {p : ℚ}
    {id : Int} (hset : callback.transmission = some transmission)
    (hnew : s.receptions callback.radio transmission.id = none)
    (hcall : createReception par s callback p id = .ok s') :
    s'.radios = s.radios ∧ s'.transmissions = s.transmissions ∧ s'.mapReceptions =
        afterReception par s.mapReceptions transmission.transmitter callback.radio p ∧
      (∀ other, s'.receiversRadios.lookup other = if other = callback.radio then some callback.reset
        else s.receiversRadios.lookup other) ∧
      ∀ other otherId, s'.receptions other otherId =
        if other = callback.radio ∧ otherId = transmission.id then some p
        else s.receptions other otherId := by
  simp only [createReception, hset, getReception, hnew] at hcall
  obtain ⟨⟨t, q⟩, hcompute, hresult⟩ := bind_eq_ok_iff.mp hcall
  cases hresult
  simp only [opalComputeReception, Map.lookup_insert_eq, ↓reduceIte] at hcompute
  split at hcompute
  · cases hcompute
  · obtain ⟨⟨u, q'⟩, htake, hresult⟩ := bind_eq_ok_iff.mp hcompute
    cases hresult
    cases takeReceivedPower_ok htake with
    | inr hnone => cases hnone.1
    | inl htaken =>
      obtain ⟨-, rfl, rfl⟩ := htaken
      simp only [cacheReceptionPower_eq, Map.lookup_insert_eq, OpalReceiverCallback.reset]
      refine ⟨trivial, trivial, trivial, fun other => ?_, fun _ _ => trivial⟩
      rw [hset]
      split
      · rfl
      · rfl

/-- A reception that is asked for when no power has been received for it. -/
theorem getReception_ok {receiver : Nat}
    (hquiet : ∀ callback, s.receiversRadios.lookup receiver = some callback →
      callback.hasReceivedPower = false)
    (hcall : getReception par s receiver transmission = .ok s') :
    s' = s ∧ (s.receptions receiver transmission.id).isSome = true ∨
      s.receptions receiver transmission.id = none ∧ s' = { s with
          mapReceptions :=
            afterReception par s.mapReceptions transmission.transmitter receiver 0
          receptions := fun radio id =>
            if radio = receiver ∧ id = transmission.id then some 0 else s.receptions radio id } := by
  unfold getReception at hcall
  split at hcall
  · next p hcached =>
    cases hcall
    exact .inl ⟨rfl, by rw [hcached, Option.isSome_some]⟩
  · next hnew =>
    obtain ⟨⟨t, p⟩, hcompute, hresult⟩ := bind_eq_ok_iff.mp hcall
    cases hresult
    unfold opalComputeReception at hcompute
    split at hcompute
    · cases hcompute
    · next ocb hocb =>
      split at hcompute
      · cases hcompute
      · obtain ⟨⟨u, q⟩, htake, hresult⟩ := bind_eq_ok_iff.mp hcompute
        cases hresult
        cases takeReceivedPower_ok htake with
        | inl htaken => exact absurd htaken.1 (by simp [hquiet ocb hocb])
        | inr hnone =>
          obtain ⟨-, rfl, rfl⟩ := hnone
          simp only [cacheReceptionPower_eq]
          exact .inr ⟨hnew, trivial⟩

theorem Ready.reset {s s' : OpalLoRaRadioMedium}
    (hready : Ready par s transmission) {callback : OpalReceiverCallback}
    (hcallback : s.receiversRadios.lookup callback.radio = some callback)
    (hradios : s'.radios = s.radios)
    (hlookup : ∀ other, s'.receiversRadios.lookup other =
      if other = callback.radio then some callback.reset else s.receiversRadios.lookup other) :
    Ready par s' transmission where
  registered := by
    intro radio
    rw [hlookup, hradios]
    split
    · next heq => simp [heq, ← hready.registered, hcallback]
    · exact hready.registered radio
  quiet := by
    intro radio other hother
    rw [hlookup] at hother
    split at hother
    · next heq =>
      cases hother
      rw [heq]
      exact ⟨rfl, (hready.quiet _ _ hcallback).2.1, rfl⟩
    · exact hready.quiet radio other hother
  receiver := by
    intro radio hradio hne
    rw [hradios] at hradio
    obtain ⟨other, hother, hset⟩ := hready.receiver radio hradio hne
    rw [hlookup]
    split
    · next heq =>
      rw [heq, hcallback, Option.some.injEq] at hother
      exact ⟨callback.reset, rfl, by rw [← hset, ← hother]; rfl⟩
    · exact ⟨other, hother, hset⟩

/-- What a transmission's receptions change: each receiver that is listed gets its
power, in the cache of receptions and, where it has none yet, in the static one. -/
structure Delivered (par : Parameters) (s s' : OpalLoRaRadioMedium)
    (transmission : LoRaTransmission) (powers : List (Nat × ℚ)) : Prop where
  radios : s'.radios = s.radios
  transmissions : s'.transmissions = s.transmissions
  known : ∀ other, (s'.mapReceptions.lookup other).isSome = (s.mapReceptions.lookup other).isSome
  receptions : ∀ radio id, s'.receptions radio id =
    if id = transmission.id then (powers.lookup radio).or (s.receptions radio id)
    else s.receptions radio id
  powerCached : par.isStatic = true →
    (s.mapReceptions.lookup transmission.transmitter).isSome = true →
    ∀ other radio, s'.powerCached other radio = if other = transmission.transmitter then
        (s.powerCached other radio).or (powers.lookup radio)
      else s.powerCached other radio

theorem createReceptions_ok {powers : List (Nat × ℚ)} {id : Int} {notRegistered : String}
    (hready : Ready par s transmission) (hnodup : (powers.map Prod.fst).Nodup)
    (hreceivers : ∀ radio ∈ powers.map Prod.fst, radio ∈ s.radios ∧
      radio ≠ transmission.transmitter ∧ s.receptions radio transmission.id = none)
    (hcall : createReceptions par id notRegistered s powers = .ok s') :
    Ready par s' transmission ∧ Delivered par s s' transmission powers := by
  induction powers generalizing s with
  | nil =>
    cases hcall
    exact ⟨hready, rfl, rfl, fun _ => rfl, by simp, by simp⟩
  | cons head rest ih =>
    obtain ⟨radio, p⟩ := head
    rw [List.map_cons, List.nodup_cons] at hnodup
    obtain ⟨hradio, hne, hnew⟩ := hreceivers radio (by simp)
    obtain ⟨callback, hcallback, hset⟩ := hready.receiver radio hradio hne
    obtain rfl := (hready.quiet radio callback hcallback).1
    simp only [createReceptions, hcallback] at hcall
    obtain ⟨t, hfirst, hrest⟩ := bind_eq_ok_iff.mp hcall
    obtain ⟨hradios, htransmissions, hmap, hlookup, hreceptions⟩ :=
      createReception_ok hset hnew hfirst
    have hready' := hready.reset hcallback hradios hlookup
    have hreceivers' : ∀ other ∈ rest.map Prod.fst, other ∈ t.radios ∧
        other ≠ transmission.transmitter ∧ t.receptions other transmission.id = none := by
      intro other hother
      obtain ⟨hmem, hneOther, hnewOther⟩ := hreceivers other (.tail _ hother)
      have hdifferent : other ≠ callback.radio := fun heq => hnodup.1 (heq ▸ hother)
      rw [hradios, hreceptions, if_neg fun hsame => hdifferent hsame.1]
      exact ⟨hmem, hneOther, hnewOther⟩
    obtain ⟨hreadyEnd, hdelivered⟩ := ih hready' hnodup.2 hreceivers' hrest
    have hnotListed : rest.lookup callback.radio = none := by
      rw [List.lookup_eq_none_iff]
      intro other hother
      have hmem : other.1 ∈ rest.map Prod.fst := List.mem_map_of_mem hother
      exact bne_iff_ne.mpr fun heq => hnodup.1 (heq ▸ hmem)
    have hlookupOther : ∀ other, other ≠ callback.radio →
        List.lookup other ((callback.radio, p) :: rest) = rest.lookup other := by
      intro other hother
      rw [List.lookup_cons, beq_false_of_ne hother]
    refine ⟨hreadyEnd, ?_⟩
    constructor
    case radios => rw [hdelivered.radios, hradios]
    case transmissions => rw [hdelivered.transmissions, htransmissions]
    case known =>
      intro other
      rw [hdelivered.known, hmap, isSome_lookup_afterReception]
    case receptions =>
      intro other otherId
      rw [hdelivered.receptions, hreceptions]
      by_cases hother : other = callback.radio
      · subst hother
        by_cases hid : otherId = transmission.id
        · simp [hid, hnotListed]
        · simp [hid]
      · rw [hlookupOther other hother]
        simp [hother]
    case powerCached =>
      intro hstatic hknown other otherRadio
      have hafter : ∀ other radio, t.powerCached other radio =
          if other = transmission.transmitter ∧ radio = callback.radio then
            some ((s.powerCached other radio).getD p)
          else s.powerCached other radio := by
        intro other radio
        rw [powerCached, hmap, afterReception, if_pos hstatic]
        exact lookup_cachePower _ _ _ _ hknown other radio
      rw [hdelivered.powerCached hstatic (by rw [hmap, isSome_lookup_afterReception, hknown]),
        hafter]
      by_cases hother : other = transmission.transmitter
      · by_cases hradio : otherRadio = callback.radio
        · subst hradio
          cases hcached : s.powerCached other callback.radio with
          | none | some q => simp [hother]
        · rw [hlookupOther otherRadio hradio]
          simp [hradio]
      · simp [hother]

theorem foldlM_sendToRadio_ok {radios : List Nat} (hregistered : Registered par s)
    (hcall : radios.foldlM (sendToRadio transmission) s = .ok s') :
    Registered par s' ∧ (∃ receiversRadios, s' = { s with receiversRadios }) ∧
      ∀ radio, (radio ∈ radios ∧ radio ≠ transmission.transmitter ∨
          ∃ callback, s.receiversRadios.lookup radio = some callback ∧
            callback.transmission = some transmission) →
        ∃ callback, s'.receiversRadios.lookup radio = some callback ∧
          callback.transmission = some transmission := by
  induction radios generalizing s with
  | nil =>
    cases hcall
    refine ⟨hregistered, ⟨_, rfl⟩, fun radio hradio => ?_⟩
    exact hradio.resolve_left fun hmem => absurd hmem.1 List.not_mem_nil
  | cons receiver radios ih =>
    rw [List.foldlM_cons] at hcall
    obtain ⟨t, hfirst, hrest⟩ := bind_eq_ok_iff.mp hcall
    unfold sendToRadio at hfirst
    split at hfirst
    · next hne =>
      split at hfirst
      · cases hfirst
      · next callback hcallback =>
        cases hfirst
        have hkept : Registered par { s with
            receiversRadios := s.receiversRadios.insert receiver
              { callback with transmission := some transmission } } := by
          constructor
          case registered =>
            intro radio
            rw [Map.lookup_insert_eq]
            split
            · next heq => simp [heq, ← hregistered.registered receiver, hcallback]
            · exact hregistered.registered radio
          case quiet =>
            intro radio other hother
            rw [Map.lookup_insert_eq] at hother
            split at hother
            · next heq =>
              cases hother
              rw [heq]
              exact hregistered.quiet receiver callback hcallback
            · exact hregistered.quiet radio other hother
        obtain ⟨hregistered', ⟨receiversRadios, hs'⟩, hset⟩ := ih hkept hrest
        refine ⟨hregistered', ⟨receiversRadios, hs'⟩, fun radio hradio => hset radio ?_⟩
        by_cases heq : radio = receiver
        · subst heq
          exact .inr ⟨_, by rw [Map.lookup_insert_eq, if_pos rfl], rfl⟩
        · rw [Map.lookup_insert_eq, if_neg heq]
          rw [List.mem_cons] at hradio
          exact hradio.imp_left fun hmem => ⟨hmem.1.resolve_left heq, hmem.2⟩
    · next hown =>
      cases hfirst
      obtain ⟨hregistered', hsame, hset⟩ := ih hregistered hrest
      refine ⟨hregistered', hsame, fun radio hradio => hset radio ?_⟩
      rw [List.mem_cons] at hradio
      refine hradio.imp_left fun hmem => ⟨hmem.1.resolve_left fun heq => ?_, hmem.2⟩
      exact hown (heq ▸ hmem.2)

end inet.physicallayer.OpalLoRaRadioMedium

import LoRaInet.LoRaPhy.OpalLoRaRadioMedium.Delivery

open omnetpp transition container

namespace inet.physicallayer.OpalLoRaRadioMedium

/-- The power that Opal reports, or 0 where it does not call back. -/
def tracedPower (par : Parameters) (transmitter receiver : Nat) (LoRaTP : ℚ) : ℚ :=
  (par.traced (par.position transmitter) (par.position receiver) LoRaTP).getD 0

/-- The power in the first frame that the radio transmitted. -/
def firstLoRaTP (transmissions : List LoRaTransmission) (transmitter : Nat) : ℚ :=
  ((transmissions.find? (·.transmitter = transmitter)).map (·.LoRaTP)).getD 0

/-- A static medium keeps to the power of the transmitter's first frame. -/
def expectedPower (par : Parameters) (transmissions : List LoRaTransmission)
    (transmission : LoRaTransmission) (receiver : Nat) : ℚ :=
  tracedPower par transmission.transmitter receiver
    (if par.isStatic then firstLoRaTP transmissions transmission.transmitter
    else transmission.LoRaTP)

variable {par : Parameters} {transmission : LoRaTransmission}

variable {transmissions : List LoRaTransmission}

theorem firstLoRaTP_append (hmem : transmission ∈ transmissions) (later : List LoRaTransmission) :
    firstLoRaTP (transmissions ++ later) transmission.transmitter =
      firstLoRaTP transmissions transmission.transmitter := by
  have hsome : (transmissions.find? (·.transmitter = transmission.transmitter)).isSome = true := by
    rw [List.find?_isSome]
    exact ⟨transmission, hmem, decide_eq_true rfl⟩
  rw [firstLoRaTP, List.find?_append, firstLoRaTP, Option.or_of_isSome hsome]

theorem expectedPower_append (hmem : transmission ∈ transmissions)
    (later : List LoRaTransmission) (receiver : Nat) :
    expectedPower par (transmissions ++ later) transmission receiver =
      expectedPower par transmissions transmission receiver := by
  rw [expectedPower, firstLoRaTP_append hmem, expectedPower]

theorem expectedPower_of_static (hstatic : par.isStatic = true)
    (transmissions : List LoRaTransmission) {x y : LoRaTransmission}
    (heq : x.transmitter = y.transmitter) (receiver : Nat) :
    expectedPower par transmissions x receiver = expectedPower par transmissions y receiver := by
  rw [expectedPower, expectedPower, if_pos hstatic, if_pos hstatic, heq]

/-- The powers of all receptions so far, computed or not yet asked for: those
that were not computed in a callback are 0. -/
structure Settled (par : Parameters) (s : OpalLoRaRadioMedium) : Prop
    extends Registered par s where
  ids : s.transmissions.map (·.id) = List.range s.transmissions.length
  sound : ∀ transmission ∈ s.transmissions, ∀ receiver p,
    s.receptions receiver transmission.id = some p →
      p = expectedPower par s.transmissions transmission receiver
  complete : ∀ transmission ∈ s.transmissions, ∀ receiver ∈ s.radios,
    receiver ≠ transmission.transmitter →
      expectedPower par s.transmissions transmission receiver ≠ 0 →
        (s.receptions receiver transmission.id).isSome = true
  fresh : ∀ receiver id, s.transmissions.length ≤ id → s.receptions receiver id = none

/-- The static cache: an entry for each radio that has transmitted, which has the
powers of its first frame other than 0. -/
structure Cached (par : Parameters) (s : OpalLoRaRadioMedium) : Prop where
  known : ∀ transmitter, (s.mapReceptions.lookup transmitter).isSome = true ↔
    ∃ transmission ∈ s.transmissions, transmission.transmitter = transmitter
  sound : ∀ transmission ∈ s.transmissions, ∀ receiver p,
    s.powerCached transmission.transmitter receiver = some p →
      receiver ∈ s.radios ∧ receiver ≠ transmission.transmitter ∧
        p = expectedPower par s.transmissions transmission receiver
  complete : ∀ transmission ∈ s.transmissions, ∀ receiver ∈ s.radios,
    receiver ≠ transmission.transmitter →
      expectedPower par s.transmissions transmission receiver ≠ 0 →
        (s.powerCached transmission.transmitter receiver).isSome = true

/-- The powers that are delivered to the receivers of a transmission. -/
structure PowersOf (par : Parameters) (s : OpalLoRaRadioMedium) (transmission : LoRaTransmission)
    (powers : List (Nat × ℚ)) : Prop where
  nodup : (powers.map Prod.fst).Nodup
  sound : ∀ receiver p, (receiver, p) ∈ powers → receiver ∈ s.radios ∧
    receiver ≠ transmission.transmitter ∧
      p = expectedPower par s.transmissions transmission receiver
  complete : ∀ receiver ∈ s.radios, receiver ≠ transmission.transmitter →
    expectedPower par s.transmissions transmission receiver ≠ 0 → ∃ p, (receiver, p) ∈ powers

variable {receiver : Nat} {powers : List (Nat × ℚ)}

theorem mem_of_lookup_eq_some {p : ℚ}
    (h : powers.lookup receiver = some p) : (receiver, p) ∈ powers := by
  obtain ⟨before, after, rfl, -⟩ := List.lookup_eq_some_iff.mp h
  simp

theorem isSome_lookup_of_mem {p : ℚ}
    (h : (receiver, p) ∈ powers) : (powers.lookup receiver).isSome = true := by
  rw [Option.isSome_iff_ne_none, ne_eq, List.lookup_eq_none_iff]
  intro hall
  simpa using hall _ h

variable {s : OpalLoRaRadioMedium}

theorem Settled.eq_of_id_eq (h : Settled par s)
    {x y : LoRaTransmission} (hx : x ∈ s.transmissions) (hy : y ∈ s.transmissions)
    (heq : x.id = y.id) : x = y := by
  have hnodup : (s.transmissions.map (·.id)).Nodup := by
    rw [h.ids]
    exact List.nodup_range
  exact List.inj_on_of_nodup_map hnodup hx hy heq

theorem Settled.id_lt (h : Settled par s) {x : LoRaTransmission}
    (hx : x ∈ s.transmissions) : x.id < s.transmissions.length := by
  have hmem : x.id ∈ s.transmissions.map (·.id) := List.mem_map_of_mem hx
  rwa [h.ids, List.mem_range] at hmem

theorem Settled.expectedPower_eq_zero (h : Settled par s) (hmem : transmission ∈ s.transmissions)
    (hreceiver : receiver ∈ s.radios) (hne : receiver ≠ transmission.transmitter)
    (hnew : s.receptions receiver transmission.id = none) :
    expectedPower par s.transmissions transmission receiver = 0 := by
  by_contra hpower
  have hsome := h.complete transmission hmem receiver hreceiver hne hpower
  rw [hnew] at hsome
  cases hsome

theorem Settled.getReception {s s' : OpalLoRaRadioMedium} (h : Settled par s)
    (hcached : par.isStatic = true → Cached par s)
    (hmem : transmission ∈ s.transmissions) (hreceiver : receiver ∈ s.radios)
    (hne : receiver ≠ transmission.transmitter)
    (hcall : getReception par s receiver transmission = .ok s') :
    Settled par s' ∧ (par.isStatic = true → Cached par s') ∧
      s'.transmissions = s.transmissions := by
  have hquiet := fun callback hlookup => (h.quiet receiver callback hlookup).2.2
  cases getReception_ok hquiet hcall with
  | inl hfound =>
    obtain ⟨rfl, -⟩ := hfound
    exact ⟨h, hcached, rfl⟩
  | inr hcomputed =>
    obtain ⟨hnew, rfl⟩ := hcomputed
    have hzero := h.expectedPower_eq_zero hmem hreceiver hne hnew
    refine ⟨?_, ?_, rfl⟩
    · constructor
      case toRegistered => exact ⟨h.registered, h.quiet⟩
      case ids => exact h.ids
      case sound =>
        intro other hother radio p hp
        dsimp only at hp
        split at hp
        · next hsame =>
          obtain ⟨rfl, hid⟩ := hsame
          obtain rfl := h.eq_of_id_eq hother hmem hid
          rw [← Option.some.inj hp, hzero]
        · exact h.sound other hother radio p hp
      case complete =>
        intro other hother radio hradio hradioNe hpower
        dsimp only
        split
        · rfl
        · exact h.complete other hother radio hradio hradioNe hpower
      case fresh =>
        intro radio id hid
        have hlt := h.id_lt hmem
        dsimp only at hid ⊢
        rw [if_neg fun hsame => by omega]
        exact h.fresh radio id hid
    · intro hstatic
      have hknown := (hcached hstatic).known
      have hpower : ∀ other radio,
          ((afterReception par s.mapReceptions transmission.transmitter receiver 0).lookup
            other).bind (·.lookup radio) =
          if other = transmission.transmitter ∧ radio = receiver then
            some ((s.powerCached other radio).getD 0) else s.powerCached other radio := by
        rw [afterReception, if_pos hstatic]
        exact lookup_cachePower _ _ _ _ ((hknown _).mpr ⟨transmission, hmem, rfl⟩)
      constructor
      case known =>
        intro transmitter
        rw [isSome_lookup_afterReception]
        exact hknown transmitter
      case sound =>
        intro other hother radio p hp
        rw [powerCached, hpower] at hp
        split at hp
        · next hsame =>
          obtain ⟨htransmitter, rfl⟩ := hsame
          cases hold : s.powerCached other.transmitter radio with
          | some q =>
            rw [hold, Option.getD_some] at hp
            exact (hcached hstatic).sound other hother radio p (hold.trans hp)
          | none =>
            rw [hold, Option.getD_none] at hp
            refine ⟨hreceiver, htransmitter ▸ hne, ?_⟩
            rw [← Option.some.inj hp, ← hzero]
            exact expectedPower_of_static hstatic _ htransmitter.symm radio
        · exact (hcached hstatic).sound other hother radio p hp
      case complete =>
        intro other hother radio hradio hradioNe hexpected
        have hsome := (hcached hstatic).complete other hother radio hradio hradioNe hexpected
        rw [powerCached, hpower]
        split
        · rfl
        · exact hsome

/-- The receptions of a new transmission are computed from their powers. -/
theorem Settled.delivered {s base s' : OpalLoRaRadioMedium} (h : Settled par s)
    (hcached : par.isStatic = true → Cached par s)
    (hid : transmission.id = s.transmissions.length)
    (hregistered : Registered par s') (hdelivered : Delivered par base s' transmission powers)
    (hpowers : PowersOf par base transmission powers) (hradios : base.radios = s.radios)
    (htransmissions : base.transmissions = s.transmissions ++ [transmission])
    (hreceptions : base.receptions = s.receptions)
    (hknown : par.isStatic = true → ∀ other, (base.mapReceptions.lookup other).isSome = true ↔
      other = transmission.transmitter ∨ (s.mapReceptions.lookup other).isSome = true)
    (hpowerCached : par.isStatic = true → base.powerCached = s.powerCached) :
    Settled par s' ∧ (par.isStatic = true → Cached par s') ∧
      s'.transmissions = s.transmissions ++ [transmission] := by
  have hbase : s'.transmissions = s.transmissions ++ [transmission] :=
    hdelivered.transmissions.trans htransmissions
  have hmem : ∀ other, other ∈ s'.transmissions ↔
      other ∈ s.transmissions ∨ other = transmission := by
    intro other
    rw [hbase, List.mem_append, List.mem_singleton]
  have hexpected : ∀ other ∈ s.transmissions, ∀ receiver,
      expectedPower par s'.transmissions other receiver =
        expectedPower par s.transmissions other receiver := by
    intro other hother receiver
    rw [hbase, expectedPower_append hother]
  have holdReceptions : ∀ other ∈ s.transmissions, ∀ receiver,
      s'.receptions receiver other.id = s.receptions receiver other.id := by
    intro other hother receiver
    have hlt := h.id_lt hother
    rw [hdelivered.receptions, if_neg (by omega), hreceptions]
  have hnewReceptions : ∀ receiver,
      s'.receptions receiver transmission.id = powers.lookup receiver := by
    intro receiver
    rw [hdelivered.receptions, if_pos rfl, hreceptions, h.fresh receiver _ (le_of_eq hid.symm),
      Option.or_none]
  refine ⟨?_, ?_, hbase⟩
  · constructor
    case toRegistered => exact hregistered
    case ids =>
      rw [hbase, List.map_append, h.ids, List.length_append, List.length_singleton, List.range_succ]
      simp [hid]
    case sound =>
      intro other hother receiver p hp
      cases (hmem other).mp hother with
      | inl hold =>
        rw [holdReceptions other hold] at hp
        rw [hexpected other hold]
        exact h.sound other hold receiver p hp
      | inr hnew =>
        subst hnew
        rw [hnewReceptions] at hp
        rw [hdelivered.transmissions]
        exact (hpowers.sound receiver p (mem_of_lookup_eq_some hp)).2.2
    case complete =>
      intro other hother receiver hreceiver hne hpower
      rw [hdelivered.radios] at hreceiver
      cases (hmem other).mp hother with
      | inl hold =>
        rw [hexpected other hold] at hpower
        rw [holdReceptions other hold]
        exact h.complete other hold receiver (hradios ▸ hreceiver) hne hpower
      | inr hnew =>
        subst hnew
        rw [hdelivered.transmissions] at hpower
        obtain ⟨p, hp⟩ := hpowers.complete receiver hreceiver hne hpower
        rw [hnewReceptions]
        exact isSome_lookup_of_mem hp
    case fresh =>
      intro receiver id hle
      rw [hbase, List.length_append, List.length_singleton] at hle
      rw [hdelivered.receptions, if_neg (by omega), hreceptions]
      exact h.fresh receiver id (by omega)
  · intro hstatic
    have hbasePower : ∀ other receiver, s'.powerCached other receiver =
        if other = transmission.transmitter then
          (s.powerCached other receiver).or (powers.lookup receiver)
        else s.powerCached other receiver := by
      have hself := (hknown hstatic transmission.transmitter).mpr (.inl rfl)
      rw [← hpowerCached hstatic]
      exact hdelivered.powerCached hstatic hself
    have hold := hcached hstatic
    constructor
    case known =>
      intro other
      rw [hdelivered.known, hknown hstatic, hold.known]
      simp only [hmem]
      constructor
      · rintro (rfl | ⟨x, hx, rfl⟩)
        · exact ⟨transmission, .inr rfl, rfl⟩
        · exact ⟨x, .inl hx, rfl⟩
      · rintro ⟨x, hx | rfl, rfl⟩
        · exact .inr ⟨x, hx, rfl⟩
        · exact .inl rfl
    case sound =>
      intro other hother receiver p hp
      rw [hdelivered.radios, hradios]
      rw [hbasePower] at hp
      split at hp
      · next hsame =>
        rw [expectedPower_of_static hstatic _ hsame, hsame]
        cases hfound : s.powerCached other.transmitter receiver with
        | none =>
          rw [hfound, Option.none_or] at hp
          rw [← hradios, hdelivered.transmissions]
          exact hpowers.sound receiver p (mem_of_lookup_eq_some hp)
        | some q =>
          rw [hfound, Option.some_or] at hp
          have hlookup : (s.mapReceptions.lookup other.transmitter).isSome = true := by
            cases hCPE : s.mapReceptions.lookup other.transmitter with
            | none => simp [powerCached, hCPE] at hfound
            | some CPE => rfl
          obtain ⟨first, hfirst, htransmitter⟩ := (hold.known _).mp hlookup
          rw [← htransmitter, hp] at hfound
          obtain ⟨hreceiver, hne, hpower⟩ := hold.sound first hfirst receiver p hfound
          rw [← expectedPower_of_static hstatic _ (htransmitter.trans hsame),
            hexpected first hfirst, ← hsame, ← htransmitter]
          exact ⟨hreceiver, hne, hpower⟩
      · next hdifferent =>
        have hotherOld := ((hmem other).mp hother).resolve_right fun heq => hdifferent (heq ▸ rfl)
        rw [hexpected other hotherOld]
        exact hold.sound other hotherOld receiver p hp
    case complete =>
      intro other hother receiver hreceiver hne hpower
      rw [hbasePower]
      split
      · next hsame =>
        rw [expectedPower_of_static hstatic _ hsame, hdelivered.transmissions] at hpower
        rw [hdelivered.radios] at hreceiver
        obtain ⟨p, hp⟩ := hpowers.complete receiver hreceiver (hsame ▸ hne) hpower
        rw [Option.isSome_or, isSome_lookup_of_mem hp, Bool.or_true]
      · next hdifferent =>
        have hotherOld := ((hmem other).mp hother).resolve_right fun heq => hdifferent (heq ▸ rfl)
        rw [hexpected other hotherOld] at hpower
        rw [hdelivered.radios, hradios] at hreceiver
        exact hold.complete other hotherOld receiver hreceiver hne hpower

theorem mem_cachedPowers {CPE : Map Nat ℚ} {p : ℚ} :
    (receiver, p) ∈ cachedPowers CPE ↔ CPE.lookup receiver = some p ∧ p ≠ 0 := by
  rw [cachedPowers, List.mem_map, ← Map.mem_entries_iff]
  constructor
  · rintro ⟨⟨radio, q⟩, hmem, heq⟩
    cases heq
    obtain ⟨hentry, hpower⟩ := List.mem_filter.mp hmem
    exact ⟨hentry, of_decide_eq_true hpower⟩
  · rintro ⟨hentry, hpower⟩
    exact ⟨⟨receiver, p⟩, List.mem_filter.mpr ⟨hentry, decide_eq_true hpower⟩, rfl⟩

theorem nodup_cachedPowers (CPE : Map Nat ℚ) : ((cachedPowers CPE).map Prod.fst).Nodup := by
  have hkeys : (CPE.entries.map Sigma.fst).Nodup := CPE.nodupKeys
  rw [cachedPowers, List.map_map]
  exact (List.Sublist.map Sigma.fst List.filter_sublist).nodup hkeys

/-- What Opal calls back are the powers expected of the transmission, where the
medium is not static or this is the transmitter's first. -/
theorem CallsBack.powersOf {s base : OpalLoRaRadioMedium} (hregistered : Registered par s)
    {order : List Nat} (hradios : base.radios = s.radios)
    (hcallsBack : CallsBack par s transmission order)
    (hfirst : par.isStatic = true →
      firstLoRaTP base.transmissions transmission.transmitter = transmission.LoRaTP) :
    PowersOf par base transmission (order.map fun receiver => (receiver,
      tracedPower par transmission.transmitter receiver transmission.LoRaTP)) := by
  have hexpected : ∀ receiver, expectedPower par base.transmissions transmission receiver =
      tracedPower par transmission.transmitter receiver transmission.LoRaTP := by
    intro receiver
    rw [expectedPower]
    split
    · next hstatic => rw [hfirst hstatic]
    · rfl
  have horder : ∀ receiver, receiver ∈ order ↔ receiver ∈ base.radios ∧
      receiver ≠ transmission.transmitter ∧ (par.traced (par.position transmission.transmitter)
        (par.position receiver) transmission.LoRaTP).isSome = true := by
    intro receiver
    rw [hcallsBack.mem_iff, List.mem_filter, hradios, ← hregistered.registered receiver,
      AList.lookup_isSome, AList.mem_keys, decide_eq_true_eq]
  constructor
  case nodup =>
    rw [List.map_map]
    have hnodup : order.Nodup := hcallsBack.nodup_iff.mpr (s.receiversRadios.keys_nodup.filter _)
    simpa [Function.comp_def] using hnodup
  case sound =>
    intro receiver p hmem
    obtain ⟨radio, hradio, heq⟩ := List.mem_map.mp hmem
    obtain ⟨rfl, rfl⟩ := Prod.mk.inj heq
    obtain ⟨hreceiver, hne, -⟩ := (horder radio).mp hradio
    exact ⟨hreceiver, hne, (hexpected radio).symm⟩
  case complete =>
    intro receiver hreceiver hne hpower
    rw [hexpected] at hpower
    refine ⟨_, List.mem_map.mpr ⟨receiver, (horder receiver).mpr ⟨hreceiver, hne, ?_⟩, rfl⟩⟩
    rw [Option.isSome_iff_ne_none]
    intro hnone
    exact hpower (by rw [tracedPower, hnone, Option.getD_none])

/-- The replayed powers are those of the transmitter's first frame. -/
theorem Cached.powersOf {s base : OpalLoRaRadioMedium} (hstatic : par.isStatic = true)
    (hcached : Cached par s) (hradios : base.radios = s.radios)
    (htransmissions : base.transmissions = s.transmissions ++ [transmission]) {CPE : Map Nat ℚ}
    (hCPE : s.mapReceptions.lookup transmission.transmitter = some CPE) :
    PowersOf par base transmission (cachedPowers CPE) := by
  obtain ⟨first, hfirst, hsame⟩ := (hcached.known transmission.transmitter).mp
    (by rw [hCPE, Option.isSome_some])
  have hpowerCached : ∀ receiver,
      s.powerCached first.transmitter receiver = CPE.lookup receiver := by
    intro receiver
    rw [powerCached, hsame, hCPE, Option.bind_some]
  have hexpected : ∀ receiver, expectedPower par base.transmissions transmission receiver =
      expectedPower par s.transmissions first receiver := by
    intro receiver
    rw [← expectedPower_of_static hstatic _ hsame, htransmissions, expectedPower_append hfirst]
  constructor
  case nodup => exact nodup_cachedPowers CPE
  case sound =>
    intro receiver p hmem
    have hlookup := (mem_cachedPowers.mp hmem).1
    rw [← hpowerCached] at hlookup
    rw [hexpected, hradios, ← hsame]
    exact hcached.sound first hfirst receiver p hlookup
  case complete =>
    intro receiver hreceiver hne hpower
    rw [hexpected] at hpower
    rw [hradios] at hreceiver
    rw [← hsame] at hne
    obtain ⟨p, hp⟩ := Option.isSome_iff_exists.mp
      (hcached.complete first hfirst receiver hreceiver hne hpower)
    have hvalue := (hcached.sound first hfirst receiver p hp).2.2
    exact ⟨p, mem_cachedPowers.mpr ⟨(hpowerCached receiver).symm.trans hp, hvalue ▸ hpower⟩⟩

end inet.physicallayer.OpalLoRaRadioMedium

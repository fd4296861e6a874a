import LoRaInet.LoRaPhy.OpalLoRaRadioMedium.StaticPower

open omnetpp transition container

namespace inet.physicallayer.OpalLoRaRadioMedium

variable {par : Parameters}

/-- The invariant of the runs. -/
structure Consistent (par : Parameters) (s : OpalLoRaRadioMedium) : Prop
    extends Settled par s where
  cached : par.isStatic = true → Cached par s

variable {s : OpalLoRaRadioMedium}

theorem addRadio_registered (h : Registered par s) (radio : Nat) :
    Registered par (addRadio par s radio) where
  registered := by
    intro other
    simp only [addRadio, Map.lookup_subscript, List.mem_append, List.mem_singleton]
    split
    · next heq => simp [heq]
    · next hne => simp [h.registered other, hne]
  quiet := by
    intro other callback hlookup
    simp only [addRadio, Map.lookup_subscript] at hlookup
    split at hlookup
    · next heq =>
      cases hfound : s.receiversRadios.lookup radio with
      | none =>
        rw [hfound, Option.getD_none] at hlookup
        cases hlookup
        rw [heq]
        exact ⟨rfl, rfl, rfl⟩
      | some found =>
        rw [hfound, Option.getD_some] at hlookup
        obtain rfl := Option.some.inj hlookup
        rw [heq]
        exact h.quiet radio found hfound
    · exact h.quiet other callback hlookup

/-- Radios have been added, and nothing else has happened. -/
structure Blank (par : Parameters) (s : OpalLoRaRadioMedium) : Prop extends Registered par s where
  transmissions : s.transmissions = []
  mapReceptions : s.mapReceptions = ∅
  receptions : ∀ receiver id, s.receptions receiver id = none

theorem Blank.foldl_addRadio (h : Blank par s) (radios : List Nat) :
    Blank par (radios.foldl (addRadio par) s) := by
  induction radios generalizing s with
  | nil => exact h
  | cons radio radios ih =>
    have hregistered := addRadio_registered h.toRegistered radio
    exact ih { toRegistered := hregistered, transmissions := h.transmissions
               mapReceptions := h.mapReceptions, receptions := h.receptions }

theorem Consistent.initial (par : Parameters) (radios : List Nat) :
    Consistent par (initial par radios) := by
  have hblank : Blank par (OpalLoRaRadioMedium.initial par radios) := by
    apply Blank.foldl_addRadio
    constructor
    case toRegistered => exact ⟨by simp, by simp⟩
    case transmissions => rfl
    case mapReceptions => rfl
    case receptions => exact fun _ _ => rfl
  have hempty := hblank.transmissions
  constructor
  case toSettled =>
    constructor
    case toRegistered => exact hblank.toRegistered
    case ids => simp [hempty]
    case sound => simp [hempty]
    case complete => simp [hempty]
    case fresh => exact fun receiver id _ => hblank.receptions receiver id
  case cached =>
    intro _
    constructor
    case known => simp [hblank.mapReceptions, hempty]
    case sound => simp [hempty]
    case complete => simp [hempty]

/-- The receptions of a new transmission come from one list of powers. -/
theorem computeReceptions_ok {s t s' : OpalLoRaRadioMedium} (h : Consistent par s)
    {transmission : LoRaTransmission} {order : List Nat}
    (hcallsBack : CallsBack par s transmission order)
    (hcall : computeReceptions par t transmission.transmitter transmission order = .ok s')
    (hradios : t.radios = s.radios)
    (htransmissions : t.transmissions = s.transmissions ++ [transmission])
    (hmap : t.mapReceptions = s.mapReceptions) :
    ∃ mapReceptions powers id notRegistered,
      createReceptions par id notRegistered { t with mapReceptions } powers = .ok s' ∧
        PowersOf par { t with mapReceptions } transmission powers ∧
        (par.isStatic = true → ∀ other, (mapReceptions.lookup other).isSome = true ↔
          other = transmission.transmitter ∨ (s.mapReceptions.lookup other).isSome = true) ∧
        (par.isStatic = true → ∀ other receiver,
          (mapReceptions.lookup other).bind (·.lookup receiver) =
            s.powerCached other receiver) := by
  have hregistered := h.toRegistered
  unfold computeReceptions at hcall
  split at hcall
  · next hstatic =>
    rw [hmap] at hcall
    split at hcall
    · next CPE hCPE =>
      split at hcall
      · cases hcall
      · refine ⟨t.mapReceptions, _, _, _, hcall, ?_, ?_, ?_⟩
        · exact (h.cached hstatic).powersOf hstatic hradios htransmissions hCPE
        · intro _ other
          rw [hmap]
          refine ⟨.inr, fun hother => hother.elim (fun heq => ?_) id⟩
          rw [heq, hCPE, Option.isSome_some]
        · intro _ other receiver
          rw [hmap, powerCached]
    · next hnone =>
      unfold transmitInOpal at hcall
      split at hcall
      · cases hcall
      · refine ⟨_, _, _, _, hcall, ?_, ?_, ?_⟩
        · refine hcallsBack.powersOf hregistered hradios fun _ => ?_
          have hnot : ∀ other ∈ s.transmissions, other.transmitter ≠ transmission.transmitter := by
            intro other hother heq
            have hknown := ((h.cached hstatic).known transmission.transmitter).mpr
              ⟨other, hother, heq⟩
            simp [hnone] at hknown
          have hfind : s.transmissions.find?
              (fun other => other.transmitter = transmission.transmitter) = none := by
            rw [List.find?_eq_none]
            exact fun other hother => by simpa using hnot other hother
          simp [firstLoRaTP, htransmissions, List.find?_append, hfind]
        · intro _ other
          rw [Map.lookup_insert_eq]
          split
          · next heq => simp [heq]
          · next hne => simp [hne]
        · intro _ other receiver
          rw [Map.lookup_insert_eq, powerCached]
          split
          · next heq =>
            rw [heq, hnone]
            rfl
          · rfl
  · next hstatic =>
    unfold transmitInOpal at hcall
    split at hcall
    · cases hcall
    · refine ⟨t.mapReceptions, _, _, _, hcall, ?_, fun hs => absurd hs hstatic,
        fun hs => absurd hs hstatic⟩
      exact hcallsBack.powersOf hregistered hradios fun hs => absurd hs hstatic

theorem Consistent.transmitPacket {s s' : OpalLoRaRadioMedium} (h : Consistent par s)
    {radio : Nat} {iAmGateway : Bool} {frame : LoRaMacFrame} {order : List Nat}
    (hcallsBack : CallsBack par s (LoRaTransmitter.createTransmission iAmGateway
      s.transmissions.length radio (par.position radio) frame s.simTime) order)
    (hcall : transmitPacket par s radio iAmGateway frame order = .ok s') :
    Consistent par s' ∧ s'.transmissions = s.transmissions ++
      [LoRaTransmitter.createTransmission iAmGateway s.transmissions.length radio
        (par.position radio) frame s.simTime] := by
  unfold OpalLoRaRadioMedium.transmitPacket at hcall
  dsimp only at hcall
  generalize hcreated : LoRaTransmitter.createTransmission iAmGateway s.transmissions.length radio
    (par.position radio) frame s.simTime = transmission at hcall hcallsBack ⊢
  have hid : transmission.id = s.transmissions.length := by rw [← hcreated]; rfl
  have htransmitter : transmission.transmitter = radio := by rw [← hcreated]; rfl
  obtain ⟨t, hsend, hcompute⟩ := bind_eq_ok_iff.mp hcall
  have hadded : Registered par { s with transmissions := s.transmissions ++ [transmission] } :=
    ⟨h.registered, h.quiet⟩
  obtain ⟨hregistered, ⟨receiversRadios, rfl⟩, hset⟩ := foldlM_sendToRadio_ok hadded hsend
  rw [← htransmitter] at hcompute
  obtain ⟨mapReceptions, powers, id, notRegistered, hcreate, hpowers, hknown, hpowerCached⟩ :=
    computeReceptions_ok h hcallsBack hcompute rfl rfl rfl
  have hready : Ready par { s with
      receiversRadios, mapReceptions, transmissions := s.transmissions ++ [transmission] }
      transmission := by
    constructor
    case toRegistered => exact ⟨hregistered.registered, hregistered.quiet⟩
    case receiver => exact fun receiver hreceiver hne => hset receiver (.inl ⟨hreceiver, hne⟩)
  have hreceivers : ∀ receiver ∈ powers.map Prod.fst, receiver ∈ s.radios ∧
      receiver ≠ transmission.transmitter ∧ s.receptions receiver transmission.id = none := by
    intro receiver hreceiver
    obtain ⟨⟨_, p⟩, hp, rfl⟩ := List.mem_map.mp hreceiver
    obtain ⟨hmem, hne, -⟩ := hpowers.sound _ p hp
    exact ⟨hmem, hne, h.fresh _ _ (le_of_eq hid.symm)⟩
  obtain ⟨hreadyEnd, hdelivered⟩ := createReceptions_ok hready hpowers.nodup hreceivers hcreate
  obtain ⟨hsettled, hcached, htransmissions⟩ := h.toSettled.delivered h.cached hid
    hreadyEnd.toRegistered hdelivered hpowers rfl rfl rfl hknown fun hstatic => by
      funext other receiver
      exact hpowerCached hstatic other receiver
  exact ⟨⟨hsettled, hcached⟩, htransmissions⟩

theorem ofExcept_eq_some {result : Except Fault OpalLoRaRadioMedium} {s' : OpalLoRaRadioMedium}
    {output : Unit} : ofExcept result = some (s', output) ↔ result = .ok s' := by
  cases result with
  | error fault | ok s => simp [ofExcept]

theorem Consistent.step {s s' : OpalLoRaRadioMedium} {event : Event} {output : Unit}
    (h : Consistent par s) (hstep : step par s event = some (s', output)) :
    Consistent par s' := by
  cases event with
  | transmitPacket t radio iAmGateway frame order =>
    simp only [OpalLoRaRadioMedium.step, Option.ite_none_right_eq_some, ofExcept_eq_some] at hstep
    obtain ⟨⟨-, -, hcallsBack⟩, hcall⟩ := hstep
    have hclock : Consistent par { s with simTime := t } :=
      ⟨⟨⟨h.registered, h.quiet⟩, h.ids, h.sound, h.complete, h.fresh⟩,
        fun hstatic => ⟨(h.cached hstatic).known, (h.cached hstatic).sound,
          (h.cached hstatic).complete⟩⟩
    exact (hclock.transmitPacket hcallsBack hcall).1
  | getReception receiver transmission =>
    simp only [OpalLoRaRadioMedium.step, Option.ite_none_right_eq_some, ofExcept_eq_some] at hstep
    obtain ⟨⟨hreceiver, hmem, hne⟩, hcall⟩ := hstep
    obtain ⟨hsettled, hcached, -⟩ :=
      h.toSettled.getReception h.cached hmem hreceiver hne hcall
    exact ⟨hsettled, hcached⟩

theorem consistent_of_run {history : List (Event × Unit)}
    (hrun : OpalRun par history s) : Consistent par s := by
  induction hrun with
  | init hinit =>
    obtain ⟨radios, rfl⟩ := hinit
    exact Consistent.initial par radios
  | step _ hstep ih => exact ih.step hstep

/-- The same transmissions on a static medium and on one that is not: the power
of a reception is the same in both if and only if Opal reports for its frame what
it reports for the first frame of the transmitter. -/
theorem static_power_eq_iff {historyS historyN : List (Event × Unit)}
    {s n : OpalLoRaRadioMedium} (hrunS : OpalRun { par with isStatic := true } historyS s)
    (hrunN : OpalRun { par with isStatic := false } historyN n)
    (hsame : s.transmissions = n.transmissions) {transmission : LoRaTransmission}
    (hmem : transmission ∈ s.transmissions) {receiver : Nat} {pS pN : ℚ}
    (hpS : s.receptions receiver transmission.id = some pS)
    (hpN : n.receptions receiver transmission.id = some pN) :
    pS = pN ↔
      tracedPower par transmission.transmitter receiver
          (firstLoRaTP s.transmissions transmission.transmitter) =
        tracedPower par transmission.transmitter receiver transmission.LoRaTP := by
  have hsoundS := (consistent_of_run hrunS).sound transmission hmem receiver pS hpS
  have hsoundN := (consistent_of_run hrunN).sound transmission (hsame ▸ hmem) receiver pN hpN
  rw [hsoundS, hsoundN, expectedPower, if_pos rfl, expectedPower, if_neg Bool.false_ne_true]
  exact Iff.rfl

theorem exists_opalRun (par : Parameters) (radios : List Nat) (events : List Event)
    (P : OpalLoRaRadioMedium → Prop)
    (hexec : ∃ r ∈ execute (step par) (initial par radios) [] events, P r.1) :
    ∃ s history, OpalRun par history s ∧ P s :=
  @exists_run_of_initial _ _ _ (step par) (fun s => ∃ radios, s = initial par radios) _
    ⟨radios, rfl⟩ events (fun s _ => P s) hexec

/-- Every radio is reached, with half of the power. -/
def halfPower : Parameters where
  isStatic := true
  opalReceiverId radio := radio
  position radio := { x := radio }
  traced _ _ LoRaTP := some (LoRaTP / 2)

/-- The transmissions of radio 1 at 0 and at 1, with their powers. -/
def twoTransmissions (first second : ℚ) : List LoRaTransmission :=
  [LoRaTransmitter.createTransmission false 0 1 { x := 1 } { LoRaTP := first } 0,
    LoRaTransmitter.createTransmission false 1 1 { x := 1 } { LoRaTP := second } 1]

def twoPackets (first second : ℚ) : List Event :=
  [.transmitPacket 0 1 false { LoRaTP := first } [2],
    .transmitPacket 1 1 false { LoRaTP := second } [2]]

theorem static_power_eq_iff_samePower : ∃ s historyS n historyN pS pN,
    OpalRun { halfPower with isStatic := true } historyS s ∧
      OpalRun { halfPower with isStatic := false } historyN n ∧
      s.receptions 2 1 = some pS ∧ n.receptions 2 1 = some pN ∧ pS = pN := by
  obtain ⟨s, historyS, hrunS, htransmissionsS, hpS⟩ := exists_opalRun { halfPower with isStatic := true }
    [1, 2] (twoPackets 14 14) (fun s => s.transmissions = twoTransmissions 14 14 ∧ s.receptions 2 1 = some 7)
    (by decide +kernel)
  obtain ⟨n, historyN, hrunN, htransmissionsN, hpN⟩ := exists_opalRun { halfPower with isStatic := false }
    [1, 2] (twoPackets 14 14) (fun s => s.transmissions = twoTransmissions 14 14 ∧ s.receptions 2 1 = some 7)
    (by decide +kernel)
  have hmem : LoRaTransmitter.createTransmission false 1 1 { x := 1 } { LoRaTP := 14 } 1 ∈
      s.transmissions := by simp [htransmissionsS, twoTransmissions]
  have hiff := static_power_eq_iff hrunS hrunN (htransmissionsS.trans htransmissionsN.symm) hmem
    hpS hpN
  exact ⟨s, historyS, n, historyN, 7, 7, hrunS, hrunN, hpS, hpN,
    hiff.mpr (by rw [htransmissionsS]; decide +kernel)⟩

/-- The second frame is sent with half the power of the first, but it is received
with the power of the first on the static medium. -/
theorem static_power_replayed : ∃ s historyS n historyN,
    OpalRun { halfPower with isStatic := true } historyS s ∧
      OpalRun { halfPower with isStatic := false } historyN n ∧
      s.transmissions = twoTransmissions 14 7 ∧ n.transmissions = twoTransmissions 14 7 ∧
      s.receptions 2 1 = some 7 ∧ n.receptions 2 1 = some (7 / 2) := by
  obtain ⟨s, historyS, hrunS, htransmissionsS, hpS⟩ := exists_opalRun { halfPower with isStatic := true }
    [1, 2] (twoPackets 14 7) (fun s => s.transmissions = twoTransmissions 14 7 ∧ s.receptions 2 1 = some 7)
    (by decide +kernel)
  obtain ⟨n, historyN, hrunN, htransmissionsN, hpN⟩ := exists_opalRun { halfPower with isStatic := false }
    [1, 2] (twoPackets 14 7) (fun s => s.transmissions = twoTransmissions 14 7 ∧ s.receptions 2 1 = some (7 / 2))
    (by decide +kernel)
  exact ⟨s, historyS, n, historyN, hrunS, hrunN, htransmissionsS, htransmissionsN, hpS, hpN⟩

end inet.physicallayer.OpalLoRaRadioMedium

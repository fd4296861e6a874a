import LoRaInet.Common.ReassemblyBuffer
import LoRaInet.Container.Basic
import LoRaInet.NetworkLayer.IPv4.Fragmentation
import LoRaInet.Transition.Run
import Mathlib.Data.Fintype.Basic

open omnetpp container interval transition

namespace inet

namespace IPv4FragBuf

/-- The identification is kept in a `ushort`. -/
structure Key where
  id : ℕ
  src : IPv4Address
  dest : IPv4Address
  deriving DecidableEq

def keyOf {P : Type} (datagram : IPv4Datagram P) : Key where
  id := (datagram.identification % 65536).toNat
  src := datagram.srcAddress
  dest := datagram.destAddress

structure DatagramBuffer (P : Type) where
  buf : ReassemblyBuffer
  datagram : Option (IPv4Datagram P)
  lastupdate : SimTime

end IPv4FragBuf

structure IPv4FragBuf (P : Type) where
  bufs : Map IPv4FragBuf.Key (IPv4FragBuf.DatagramBuffer P)

namespace IPv4FragBuf

variable {P : Type}

def new : IPv4FragBuf P where
  bufs := ∅

/-- A fragment with a packet is kept rather than one without. -/
def store (kept : Option (IPv4Datagram P)) (datagram : IPv4Datagram P) : IPv4Datagram P :=
  match kept with
  | none => datagram
  | some kept =>
    if kept.encapsulatedPacket.isNone && datagram.encapsulatedPacket.isSome then datagram else kept

variable (b : IPv4FragBuf P)

/-- The buffer of the key, new for the first fragment of a datagram. -/
def bufferOf (key : Key) : DatagramBuffer P :=
  (b.bufs.lookup key).getD { buf := .new, datagram := none, lastupdate := 0 }

/-- The iterator of a new buffer is the end of the map, which cannot be erased. -/
def addFragment (b : IPv4FragBuf P) (datagram : IPv4Datagram P) (now : SimTime) :
    Except Fault (IPv4FragBuf P × Option (IPv4Datagram P)) :=
  let key := keyOf datagram
  let buf := b.bufferOf key
  let bytes := datagram.byteLength - datagram.headerLength
  let (reassembly, isComplete) := buf.buf.addFragment datagram.fragmentOffset
    (datagram.fragmentOffset + bytes) (!datagram.moreFragments)
  let stored := store buf.datagram datagram
  if isComplete then
    if (b.bufs.lookup key).isNone then .error .outOfRange
    else
      let ret := { stored with
        byteLength := stored.headerLength + reassembly.getTotalLength
        fragmentOffset := 0
        moreFragments := false }
      .ok (⟨b.bufs.erase key⟩, some ret)
  else
    let buf := { buf := reassembly, datagram := some stored, lastupdate := now }
    .ok (⟨b.bufs.insert key buf⟩, none)

/-- Returns the fragments for which an error is sent as well. -/
def purgeStaleFragments (lastupdate : SimTime) : IPv4FragBuf P × List (Option (IPv4Datagram P)) :=
  (⟨b.bufs.filter fun _ buf => !decide (buf.lastupdate < lastupdate)⟩,
    (b.bufs.entries.filter fun e => e.2.lastupdate < lastupdate).map (·.2.datagram))

inductive Event (P : Type) where
  | addFragment (datagram : IPv4Datagram P) (now : SimTime)
  | purgeStaleFragments (lastupdate : SimTime)

inductive Output (P : Type) where
  | returned (datagram : Option (IPv4Datagram P))
  | expired (datagrams : List (Option (IPv4Datagram P)))

/-- A call that throws is no step. -/
def step : Event P → Option (IPv4FragBuf P × Output P)
  | .addFragment datagram now =>
    (b.addFragment datagram now).toOption.map fun (b, ret) => (b, .returned ret)
  | .purgeStaleFragments lastupdate =>
    let (b, datagrams) := b.purgeStaleFragments lastupdate
    some (b, .expired datagrams)

/-- The fragments of a datagram that have arrived since one was returned or since
they were purged, with their times. -/
def pending (key : Key) : List (Event P × Output P) → List (IPv4Datagram P × SimTime)
  | [] => []
  | (.addFragment datagram now, output) :: history =>
    if keyOf datagram = key then
      match output with
      | .returned (some _) => []
      | _ => (datagram, now) :: pending key history
    else pending key history
  | (.purgeStaleFragments lastupdate, _) :: history =>
    match pending key history with
    | [] => []
    | (datagram, now) :: rest => if now < lastupdate then [] else (datagram, now) :: rest

/-- The bytes of the payload that the fragments have. -/
def covered (datagrams : List (IPv4Datagram P)) : Set ℕ :=
  {x | ∃ d ∈ datagrams, d.fragmentOffset ≤ x ∧ x < d.endOffset}

/-- Datagrams that are sent along paths, and what may arrive of each. They can be
told apart by their keys. -/
structure Transfers {I : Type} (original : I → IPv4Datagram P) (path : I → List InterfaceEntry)
    (fragments : I → List (IPv4Datagram P)) : Prop where
  fragmentOffset : ∀ i, (original i).fragmentOffset = 0
  moreFragments : ∀ i, (original i).moreFragments = false
  length : ∀ i, (original i).headerLength ≤ (original i).byteLength
  length_lt : ∀ i, (original i).byteLength - (original i).headerLength < 65536
  mtu : ∀ i, ∀ ie ∈ path i, (original i).headerLength + 8 ≤ ie.mtu
  travel_eq : ∀ i, IPv4.travel (path i) [original i] = .ok (fragments i)
  keys : ∀ i j, i ≠ j → ∀ f ∈ fragments i, ∀ g ∈ fragments j, keyOf f ≠ keyOf g

/-- `reassembleAndDeliver` adds only what is a fragment. -/
def Arrives {I : Type} (fragments : I → List (IPv4Datagram P)) : Event P → Prop
  | .addFragment datagram _ =>
    (datagram.fragmentOffset ≠ 0 ∨ datagram.moreFragments = true) ∧ ∃ i, datagram ∈ fragments i
  | .purgeStaleFragments _ => True

instance {I : Type} [Fintype I] [DecidableEq P] (fragments : I → List (IPv4Datagram P)) :
    (e : Event P) → Decidable (Arrives fragments e)
  | .addFragment _ _ => inferInstanceAs (Decidable (_ ∧ _))
  | .purgeStaleFragments _ => .isTrue trivial

def regionOf (d : IPv4Datagram P) : ReassemblyBuffer.Region where
  beg := d.fragmentOffset
  endOffset := d.endOffset
  islast := !d.moreFragments

section Transfers

variable {I : Type} {original : I → IPv4Datagram P} {path : I → List InterfaceEntry}
  {fragments : I → List (IPv4Datagram P)} {i : I} {cut datagrams : List (IPv4Datagram P)}
  {f : IPv4Datagram P}

def payloadLength (d : IPv4Datagram P) : ℕ := d.byteLength - d.headerLength

theorem Transfers.endOffset (h : Transfers original path fragments) (i : I) :
    (original i).endOffset = payloadLength (original i) := by
  rw [IPv4Datagram.endOffset, h.fragmentOffset, payloadLength, zero_add]

theorem Transfers.exists_cuts (h : Transfers original path fragments) (i : I) :
    ∃ cut, IPv4.Cuts (original i) cut ∧ (∀ f ∈ fragments i, f ∈ cut) ∧
      ∀ ie ∈ (path i).getLast?, ∀ f ∈ fragments i, f.byteLength ≤ ie.mtu := by
  obtain ⟨out, cut, hout, hcuts, hsub, hfits⟩ := IPv4.travel_eq_ok (.whole (h.length i))
    (fun d hd => hd) (h.mtu i)
  obtain rfl := Except.ok.inj ((h.travel_eq i).symm.trans hout)
  exact ⟨cut, hcuts, hsub, hfits⟩

theorem Transfers.not_whole (h : Transfers original path fragments) (hf : f.PartOf (original i))
    (hfragment : f.fragmentOffset ≠ 0 ∨ f.moreFragments = true) :
    ¬(f.fragmentOffset = 0 ∧ f.endOffset = payloadLength (original i)) := by
  rintro ⟨hzero, hend⟩
  rcases hfragment with hne | hmore
  · exact hne hzero
  · have hlast := hf.moreFragments.mpr ⟨h.moreFragments i, hend.trans (h.endOffset i).symm⟩
    rw [hmore] at hlast
    cases hlast

theorem Transfers.payloadLength_pos (h : Transfers original path fragments)
    (hf : f.PartOf (original i)) (hfragment : f.fragmentOffset ≠ 0 ∨ f.moreFragments = true) :
    (original i).headerLength < (original i).byteLength := by
  have hwhole := h.not_whole hf hfragment
  have hlast := hf.last_le
  have hlength := h.length i
  have hself : f.fragmentOffset ≤ f.endOffset := Nat.le_add_right _ _
  rw [h.endOffset, payloadLength] at hlast
  rw [payloadLength] at hwhole
  omega

open IPv4Datagram

theorem partition_map {low high : ℕ}
    (h : Partition fragmentOffset endOffset low cut high) :
    Partition ReassemblyBuffer.Region.beg ReassemblyBuffer.Region.endOffset low (cut.map regionOf)
      high := by
  induction cut generalizing low with
  | nil => exact h
  | cons d rest ih =>
    obtain ⟨hfirst, hlt, hrest⟩ := h
    exact ⟨hfirst, hlt, ih hrest⟩

theorem Transfers.partition (h : Transfers original path fragments)
    (hcuts : IPv4.Cuts (original i) cut)
    (hlength : (original i).headerLength < (original i).byteLength) :
    Partition IPv4Datagram.fragmentOffset IPv4Datagram.endOffset 0 cut
      (payloadLength (original i)) := by
  have hpartition := hcuts.partition hlength
  rw [h.fragmentOffset, h.endOffset] at hpartition
  exact hpartition

theorem Transfers.pieces (h : Transfers original path fragments)
    (hcuts : IPv4.Cuts (original i) cut)
    (hlength : (original i).headerLength < (original i).byteLength) :
    ReassemblyBuffer.Pieces (cut.map regionOf) (payloadLength (original i)) where
  partition := partition_map (h.partition hcuts hlength)
  islast := by
    intro r hr
    obtain ⟨d, hd, rfl⟩ := List.mem_map.mp hr
    have hmore := (hcuts.partOf d hd).moreFragments
    rw [h.moreFragments, h.endOffset] at hmore
    rw [regionOf, Bool.not_eq_true', hmore]
    exact and_iff_right rfl

theorem covered_eq_iff {length : ℕ}
    (hpartition : Partition fragmentOffset endOffset 0 cut length)
    (hsub : ∀ d ∈ datagrams, d ∈ cut) :
    covered datagrams = Set.Ico 0 length ↔
      ∀ r ∈ cut.map regionOf, ∃ d ∈ datagrams, regionOf d = r := by
  constructor
  · intro hcovered r hr
    obtain ⟨a, ha, rfl⟩ := List.mem_map.mp hr
    obtain ⟨-, hlt, hle⟩ := hpartition.bounds ha
    have hmem : a.fragmentOffset ∈ covered datagrams := by
      rw [hcovered]
      exact ⟨Nat.zero_le _, hlt.trans_le hle⟩
    obtain ⟨d, hd, hbounds⟩ := hmem
    have heq := hpartition.eq_of_mem (hsub d hd) ha hbounds ⟨le_refl _, hlt⟩
    exact ⟨d, hd, by rw [heq]⟩
  · intro hall
    ext x
    constructor
    · rintro ⟨d, hd, -, hlt⟩
      exact ⟨Nat.zero_le _, hlt.trans_le (hpartition.bounds (hsub d hd)).2.2⟩
    · rintro ⟨-, hlt⟩
      obtain ⟨a, ha, hbounds⟩ := hpartition.exists_mem (Nat.zero_le x) hlt
      obtain ⟨d, hd, heq⟩ := hall (regionOf a) (List.mem_map_of_mem ha)
      obtain ⟨hbeg, hend, -⟩ := ReassemblyBuffer.Region.mk.inj heq
      exact ⟨d, hd, by omega, by omega⟩

end Transfers

end IPv4FragBuf

namespace IPv4FragBuf

section Collects

variable {P I : Type} {original : I → IPv4Datagram P} {path : I → List InterfaceEntry}
  {fragments : I → List (IPv4Datagram P)} {i : I} {cut : List (IPv4Datagram P)}
  {key : Key} {buf : DatagramBuffer P} {arrivals : List (IPv4Datagram P × SimTime)}
  {f : IPv4Datagram P} {now : SimTime}

/-- The regions of the fragments that have arrived. -/
def regionsOf (arrivals : List (IPv4Datagram P × SimTime)) : Set ReassemblyBuffer.Region :=
  {r | ∃ p ∈ arrivals, regionOf p.1 = r}

/-- The buffer of a key collects the fragments of one datagram. -/
structure Collects (original : I → IPv4Datagram P) (fragments : I → List (IPv4Datagram P)) (i : I)
    (cut : List (IPv4Datagram P)) (key : Key) (buf : DatagramBuffer P)
    (arrivals : List (IPv4Datagram P × SimTime)) : Prop where
  cuts : IPv4.Cuts (original i) cut
  sub : ∀ f ∈ fragments i, f ∈ cut
  arrived : ∀ p ∈ arrivals, p.1 ∈ fragments i ∧ keyOf p.1 = key
  holds : ReassemblyBuffer.Holds (cut.map regionOf) (payloadLength (original i))
    (regionsOf arrivals) buf.buf
  datagram : ∃ d, buf.datagram = some d ∧ d ∈ fragments i ∧ keyOf d = key
  lastupdate : ∃ d rest, arrivals = (d, buf.lastupdate) :: rest

theorem reassembly_addFragment (h : Transfers original path fragments)
    (hcuts : IPv4.Cuts (original i) cut) {reassembly : ReassemblyBuffer}
    (hholds : ReassemblyBuffer.Holds (cut.map regionOf) (payloadLength (original i))
      (regionsOf arrivals) reassembly)
    (harrivals : ∀ p ∈ arrivals, p.1 ∈ cut) (hf : f ∈ cut)
    (hlength : (original i).headerLength < (original i).byteLength) (now : SimTime) :
    let result := reassembly.addFragment f.fragmentOffset
      (f.fragmentOffset + (f.byteLength - f.headerLength)) (!f.moreFragments)
    ReassemblyBuffer.Holds (cut.map regionOf) (payloadLength (original i))
      (regionsOf ((f, now) :: arrivals)) result.1 ∧
    (result.2 = true ↔ covered (f :: arrivals.map (·.1)) = Set.Ico 0 (payloadLength (original i))) ∧
    (result.2 = true → result.1.getTotalLength = payloadLength (original i)) := by
  have hinsert : insert (regionOf f) (regionsOf arrivals) = regionsOf ((f, now) :: arrivals) := by
    ext r
    simp [regionsOf, eq_comm]
  have hmem : ∀ d ∈ f :: arrivals.map (·.1), d ∈ cut := by
    intro d hd
    rcases List.mem_cons.mp hd with rfl | hd
    · exact hf
    · obtain ⟨p, hp, rfl⟩ := List.mem_map.mp hd
      exact harrivals p hp
  have hadd := hholds.addFragment (h.pieces hcuts hlength) (h.length_lt i) (List.mem_map_of_mem hf)
  rw [hinsert] at hadd
  refine ⟨hadd.1, ?_, hadd.2.2⟩
  apply hadd.2.1.trans
  rw [covered_eq_iff (h.partition hcuts hlength) hmem]
  refine forall₂_congr fun r _ => ?_
  simp [regionsOf]

theorem store_eq {kept : Option (IPv4Datagram P)} :
    store kept f = f ∨ kept = some (store kept f) := by
  cases kept with
  | none => exact .inl rfl
  | some kept =>
    rw [store]
    split
    · exact .inl rfl
    · exact .inr rfl

/-- What is returned: the datagram as it was sent. -/
def IsWhole (original ret : IPv4Datagram P) (key : Key) : Prop :=
  ret.byteLength = original.byteLength ∧ ret.headerLength = original.headerLength ∧
    ret.fragmentOffset = 0 ∧ ret.moreFragments = false ∧ keyOf ret = key ∧
    ret.encapsulatedPacket = original.encapsulatedPacket

/-- Every buffer collects what is pending, and without a buffer nothing is. -/
structure Invariant (original : I → IPv4Datagram P) (fragments : I → List (IPv4Datagram P))
    (b : IPv4FragBuf P) (arrivals : Key → List (IPv4Datagram P × SimTime)) : Prop where
  empty : ∀ key, b.bufs.lookup key = none → arrivals key = []
  collects : ∀ key buf, b.bufs.lookup key = some buf →
    ∃ i cut, Collects original fragments i cut key buf (arrivals key)

/-- What is pending after a fragment arrives. -/
def afterFragment (arrivals : Key → List (IPv4Datagram P × SimTime)) (f : IPv4Datagram P)
    (now : SimTime) (returned : Bool) : Key → List (IPv4Datagram P × SimTime) := fun key =>
  if keyOf f = key then if returned then [] else (f, now) :: arrivals key else arrivals key

theorem Invariant.erase {b : IPv4FragBuf P} {pending : Key → List (IPv4Datagram P × SimTime)}
    (h : Invariant original fragments b pending) :
    Invariant original fragments ⟨b.bufs.erase (keyOf f)⟩ (afterFragment pending f now true) where
  empty := by
    intro key hlookup
    unfold afterFragment
    rw [Map.lookup_erase_eq] at hlookup
    by_cases hkey : key = keyOf f
    · rw [if_pos hkey.symm, if_pos rfl]
    · rw [if_neg hkey] at hlookup
      rw [if_neg (Ne.symm hkey)]
      exact h.empty key hlookup
  collects := by
    intro key buf hlookup
    unfold afterFragment
    rw [Map.lookup_erase_eq] at hlookup
    by_cases hkey : key = keyOf f
    · rw [if_pos hkey] at hlookup
      cases hlookup
    · rw [if_neg hkey] at hlookup
      rw [if_neg (Ne.symm hkey)]
      exact h.collects key buf hlookup

theorem Invariant.insert {b : IPv4FragBuf P} {pending : Key → List (IPv4Datagram P × SimTime)}
    (h : Invariant original fragments b pending)
    (hcollects : Collects original fragments i cut (keyOf f) buf ((f, now) :: pending (keyOf f))) :
    Invariant original fragments ⟨b.bufs.insert (keyOf f) buf⟩
      (afterFragment pending f now false) where
  empty := by
    intro key hlookup
    unfold afterFragment
    rw [Map.lookup_insert_eq] at hlookup
    by_cases hkey : key = keyOf f
    · rw [if_pos hkey] at hlookup
      cases hlookup
    · rw [if_neg hkey] at hlookup
      rw [if_neg (Ne.symm hkey)]
      exact h.empty key hlookup
  collects := by
    intro key buf' hlookup
    unfold afterFragment
    rw [Map.lookup_insert_eq] at hlookup
    by_cases hkey : key = keyOf f
    · rw [if_pos hkey] at hlookup
      cases hlookup
      rw [if_pos hkey.symm, if_neg Bool.false_ne_true, hkey]
      exact ⟨i, cut, hcollects⟩
    · rw [if_neg hkey] at hlookup
      rw [if_neg (Ne.symm hkey)]
      exact h.collects key buf' hlookup

/-- The buffer to which a fragment is added, an existing one or a new one. -/
theorem Invariant.exists_bufferOf {b : IPv4FragBuf P}
    {pending : Key → List (IPv4Datagram P × SimTime)}
    (h : Invariant original fragments b pending) (htransfers : Transfers original path fragments)
    (hf : f ∈ fragments i)
    (hlength : (original i).headerLength < (original i).byteLength) :
    ∃ cut, IPv4.Cuts (original i) cut ∧ (∀ g ∈ fragments i, g ∈ cut) ∧
      (∀ p ∈ pending (keyOf f), p.1 ∈ fragments i ∧ keyOf p.1 = keyOf f) ∧
      ReassemblyBuffer.Holds (cut.map regionOf) (payloadLength (original i))
        (regionsOf (pending (keyOf f))) (b.bufferOf (keyOf f)).buf ∧
      ∀ d ∈ (b.bufferOf (keyOf f)).datagram, d ∈ fragments i ∧ keyOf d = keyOf f := by
  rw [bufferOf]
  cases hlookup : b.bufs.lookup (keyOf f) with
  | none =>
    obtain ⟨cut, hcuts, hsub, -⟩ := htransfers.exists_cuts i
    have hempty := h.empty (keyOf f) hlookup
    have hregions : regionsOf (pending (keyOf f)) = ∅ := by
      rw [hempty]
      simp [regionsOf]
    have hpositive : 0 < payloadLength (original i) := Nat.sub_pos_of_lt hlength
    refine ⟨cut, hcuts, hsub, fun p hp => ?_, ?_, fun d hd => by cases hd⟩
    · rw [hempty] at hp
      cases hp
    · rw [hregions]
      exact ReassemblyBuffer.holds_new (htransfers.pieces hcuts hlength) hpositive
  | some buf =>
    obtain ⟨i', cut, hcollects⟩ := h.collects (keyOf f) buf hlookup
    have hsame : i' = i := by
      by_contra hne
      obtain ⟨d, rest, hpending⟩ := hcollects.lastupdate
      obtain ⟨hd, hkey⟩ := hcollects.arrived (d, buf.lastupdate) (hpending ▸ (.head _))
      exact htransfers.keys i' i hne d hd f hf hkey
    subst hsame
    refine ⟨cut, hcollects.cuts, hcollects.sub, hcollects.arrived, hcollects.holds, fun d hd => ?_⟩
    obtain ⟨d', hd', hmem⟩ := hcollects.datagram
    obtain rfl := Option.some.inj (hd.symm.trans hd')
    exact hmem

theorem covered_singleton {length : ℕ} (hlt : f.fragmentOffset < f.endOffset)
    (h : covered [f] = Set.Ico 0 length) : f.fragmentOffset = 0 ∧ f.endOffset = length := by
  have hrange : Set.Ico f.fragmentOffset f.endOffset = Set.Ico 0 length := by
    rw [← h]
    ext x
    simp [covered]
  have hlow : f.fragmentOffset ∈ Set.Ico 0 length := hrange ▸ Set.left_mem_Ico.mpr hlt
  have hpositive : 0 < length := (Nat.zero_le _).trans_lt hlow.2
  have hzero : 0 ∈ Set.Ico f.fragmentOffset f.endOffset := hrange ▸ Set.left_mem_Ico.mpr hpositive
  have hlast : length - 1 ∈ Set.Ico f.fragmentOffset f.endOffset := by
    rw [hrange]
    exact ⟨Nat.zero_le _, by omega⟩
  have hlast' : f.endOffset - 1 ∈ Set.Ico 0 length := by
    rw [← hrange]
    exact ⟨by omega, by omega⟩
  have h₁ := hzero.1
  have h₂ := hlast.2
  have h₃ := hlast'.2
  omega

theorem Invariant.addFragment {b : IPv4FragBuf P} {pending : Key → List (IPv4Datagram P × SimTime)}
    (h : Invariant original fragments b pending) (htransfers : Transfers original path fragments)
    (hf : f ∈ fragments i) (hfragment : f.fragmentOffset ≠ 0 ∨ f.moreFragments = true)
    (now : SimTime) :
    ∃ b' ret, b.addFragment f now = .ok (b', ret) ∧
      Invariant original fragments b' (afterFragment pending f now ret.isSome) ∧
      (ret.isSome = true ↔ covered (f :: (pending (keyOf f)).map (·.1)) =
        Set.Ico 0 (payloadLength (original i))) ∧
      ∀ d ∈ ret, IsWhole (original i) d (keyOf f) := by
  obtain ⟨cut₀, hcuts₀, hsub₀, -⟩ := htransfers.exists_cuts i
  have hlength := htransfers.payloadLength_pos (hcuts₀.partOf f (hsub₀ f hf)) hfragment
  obtain ⟨cut, hcuts, hsub, harrived, hholds, hkept⟩ := h.exists_bufferOf htransfers hf hlength
  obtain ⟨hholds', hcomplete, htotal⟩ := reassembly_addFragment htransfers hcuts hholds
    (fun p hp => hsub p.1 (harrived p hp).1) (hsub f hf) hlength now
  -- the datagram that is kept is a fragment of the same one
  have hstored : store (b.bufferOf (keyOf f)).datagram f ∈ fragments i ∧
      keyOf (store (b.bufferOf (keyOf f)).datagram f) = keyOf f := by
    rcases @store_eq P f (b.bufferOf (keyOf f)).datagram with heq | heq
    · rw [heq]
      exact ⟨hf, rfl⟩
    · exact hkept _ heq
  have hpart := hcuts.partOf _ (hsub _ hstored.1)
  unfold IPv4FragBuf.addFragment
  dsimp only at hholds' hcomplete htotal ⊢
  generalize ReassemblyBuffer.addFragment _ _ _ _ = result at *
  obtain ⟨reassembly, isComplete⟩ := result
  generalize store _ f = stored at *
  cases isComplete with
  | true =>
    have hsome : (b.bufs.lookup (keyOf f)).isNone = false := by
      rw [Option.isNone_eq_false_iff, ← Option.ne_none_iff_isSome]
      intro hnone
      have hpending := h.empty (keyOf f) hnone
      rw [hpending] at hcomplete
      have hbounds := (htransfers.partition hcuts hlength).bounds (hsub f hf)
      exact htransfers.not_whole (hcuts.partOf f (hsub f hf)) hfragment
        (covered_singleton hbounds.2.1 (hcomplete.mp rfl))
    refine ⟨_, _, by rw [if_pos rfl, hsome, if_neg Bool.false_ne_true], h.erase, ?_, ?_⟩
    · exact iff_of_true rfl (hcomplete.mp rfl)
    · intro d hd
      cases hd
      have hbytes := htransfers.length i
      refine ⟨?_, hpart.headerLength, rfl, rfl, hstored.2, hpart.encapsulatedPacket⟩
      dsimp only
      rw [htotal rfl, hpart.headerLength, payloadLength]
      omega
  | false =>
    have hcollects : Collects original fragments i cut (keyOf f)
        { buf := reassembly, datagram := some stored, lastupdate := now }
        ((f, now) :: pending (keyOf f)) := by
      refine ⟨hcuts, hsub, fun p hp => ?_, hholds', ⟨stored, rfl, hstored⟩, ⟨f, _, rfl⟩⟩
      rcases List.mem_cons.mp hp with rfl | hp
      · exact ⟨hf, rfl⟩
      · exact harrived p hp
    refine ⟨_, none, if_neg Bool.false_ne_true, h.insert hcollects, ?_, fun d hd => by cases hd⟩
    exact iff_of_false Bool.false_ne_true fun hcovered => Bool.false_ne_true (hcomplete.mpr hcovered)

theorem Invariant.purgeStaleFragments {b : IPv4FragBuf P} {lastupdate : SimTime}
    {pending pending' : Key → List (IPv4Datagram P × SimTime)}
    (h : Invariant original fragments b pending)
    (hpending' : ∀ key, pending' key = match pending key with
      | [] => []
      | (datagram, now) :: rest => if now < lastupdate then [] else (datagram, now) :: rest) :
    Invariant original fragments (b.purgeStaleFragments lastupdate).1 pending' where
  empty := by
    intro key hlookup
    rw [IPv4FragBuf.purgeStaleFragments, Map.lookup_filter] at hlookup
    rw [hpending']
    cases hbuf : b.bufs.lookup key with
    | none => rw [h.empty key hbuf]
    | some buf =>
      obtain ⟨i, cut, hcollects⟩ := h.collects key buf hbuf
      obtain ⟨d, rest, heq⟩ := hcollects.lastupdate
      rw [hbuf] at hlookup
      have hold : buf.lastupdate < lastupdate := by
        by_contra hnot
        simp [hnot] at hlookup
      rw [heq]
      exact if_pos hold
  collects := by
    intro key buf hlookup
    rw [IPv4FragBuf.purgeStaleFragments, Map.lookup_filter] at hlookup
    obtain ⟨hbuf, hnew⟩ := Option.filter_eq_some_iff.mp hlookup
    obtain ⟨i, cut, hcollects⟩ := h.collects key buf hbuf
    obtain ⟨d, rest, heq⟩ := hcollects.lastupdate
    have hsame : pending' key = pending key := by
      rw [hpending', heq]
      exact if_neg (by simpa using hnew)
    exact ⟨i, cut, hsame ▸ hcollects⟩

end Collects

section Run

variable {P I : Type} {original : I → IPv4Datagram P} {path : I → List InterfaceEntry}
  {fragments : I → List (IPv4Datagram P)}

theorem pending_returned {f : IPv4Datagram P} {now : SimTime} {ret : Option (IPv4Datagram P)}
    {history : List (Event P × Output P)} :
    (fun key => pending key ((.addFragment f now, .returned ret) :: history)) =
      afterFragment (fun key => pending key history) f now ret.isSome := by
  funext key
  cases ret with
  | none => rfl
  | some d => rfl

theorem invariant_of_run (htransfers : Transfers original path fragments) {history}
    {b : IPv4FragBuf P} (hrun : Run (· = new) (StepOf step) history b)
    (harrive : Always (fun _ l => Arrives fragments l.1) history) :
    Invariant original fragments b (fun key => pending key history) := by
  induction hrun with
  | init hinit =>
    refine ⟨fun key _ => rfl, fun key buf hlookup => ?_⟩
    rw [hinit] at hlookup
    cases hlookup
  | @step history s s' l hrun hstep ih =>
    obtain ⟨e, output⟩ := l
    obtain ⟨hearlier, hnow⟩ := harrive
    have h := ih hearlier
    have htaken : step s e = some (s', output) := hstep
    cases e with
    | addFragment f now =>
      obtain ⟨hfragment, i, hf⟩ := hnow
      obtain ⟨b', ret, hcall, hinvariant, -⟩ := h.addFragment htransfers hf hfragment now
      rw [step, hcall] at htaken
      cases htaken
      rw [pending_returned]
      exact hinvariant
    | purgeStaleFragments lastupdate =>
      cases htaken
      exact h.purgeStaleFragments fun key => rfl

/-- The fragments of each datagram fit the last link they came over, at offsets that
are multiples of 8. A datagram is returned, as it was sent, exactly when what is
pending of it and the fragment that arrives have its whole payload. -/
theorem addFragment_returns (htransfers : Transfers original path fragments) {history}
    {b : IPv4FragBuf P} (hrun : Run (· = new) (StepOf step) history b)
    (harrive : Always (fun _ l => Arrives fragments l.1) history) :
    (∀ i, ∀ ie ∈ (path i).getLast?, ∀ f ∈ fragments i,
      f.byteLength ≤ ie.mtu ∧ 8 ∣ f.fragmentOffset) ∧
    ∀ i, ∀ f ∈ fragments i, (f.fragmentOffset ≠ 0 ∨ f.moreFragments = true) → ∀ now,
      ∃ b' ret, b.addFragment f now = .ok (b', ret) ∧
        (ret.isSome = true ↔ covered (f :: (pending (keyOf f) history).map (·.1)) =
          Set.Ico 0 (payloadLength (original i))) ∧
        ∀ d ∈ ret, IsWhole (original i) d (keyOf f) := by
  refine ⟨fun i ie hie f hf => ?_, fun i f hf hfragment now => ?_⟩
  · obtain ⟨cut, hcuts, hsub, hfits⟩ := htransfers.exists_cuts i
    refine ⟨hfits ie hie f hf, (hcuts.partOf f (hsub f hf)).offset ?_⟩
    rw [htransfers.fragmentOffset i]
    exact dvd_zero 8
  · obtain ⟨b', ret, hcall, -, hreturned⟩ :=
      (invariant_of_run htransfers hrun harrive).addFragment htransfers hf hfragment now
    exact ⟨b', ret, hcall, hreturned⟩

end Run

/-- A fragment with a header of 20 bytes. -/
def fragment (identification : ℤ) (offset length : ℕ) (more : Bool) : IPv4Datagram Unit where
  name := "data"
  headerLength := 20
  byteLength := 20 + length
  srcAddress := 1
  destAddress := 2
  timeToLive := 32
  identification := identification
  moreFragments := more
  dontFragment := false
  fragmentOffset := offset
  encapsulatedPacket := some ()

/-- The datagram is cut at the first hop, and its first fragment at the second one. -/
def hops : List InterfaceEntry :=
  [{ mtu := 44, ipAddress := 1 }, { mtu := 36, ipAddress := 3 }]

def arriving : List (IPv4Datagram Unit) :=
  (IPv4.travel hops [fragment 7 0 40 false]).toOption.getD []

theorem transfers_arriving :
    Transfers (fun _ : Unit => fragment 7 0 40 false) (fun _ => hops) (fun _ => arriving) where
  fragmentOffset := fun _ => rfl
  moreFragments := fun _ => rfl
  length := fun _ => by decide
  length_lt := fun _ => by decide
  mtu := fun _ => by decide
  travel_eq := fun _ => by rfl
  keys := fun i j h => absurd rfl h

/-- The fragment of the second hop at an offset. -/
def arrivingAt (offset length : ℕ) : IPv4Datagram Unit :=
  { fragment 7 offset length true with name := "data-frag-frag", timeToLive := 30 }

/-- The parts arrive last one first, and another one twice. -/
theorem addFragment_returns_arriving : ∃ (b b' : IPv4FragBuf Unit)
    (ret : Option (IPv4Datagram Unit)), b.addFragment (arrivingAt 16 8) 3 = .ok (b', ret) ∧
      ret.isSome = true ∧ ∀ d ∈ ret, IsWhole (fragment 7 0 40 false) d (keyOf (arrivingAt 16 8)) := by
  obtain ⟨b, history, hrun, harrive, hreturns⟩ := exists_run_of_execute step new
    (((arriving.drop 2) ++ [arrivingAt 0 16, arrivingAt 0 16]).map fun f => .addFragment f 1)
    (fun b history => Always (fun _ l => Arrives (fun _ : Unit => arriving) l.1) history ∧
      ((b.addFragment (arrivingAt 16 8) 3).toOption.map fun r => r.2.isSome) = some true)
    (by decide +kernel)
  obtain ⟨b', ret, hcall, -, hwhole⟩ := (addFragment_returns transfers_arriving hrun harrive).2 ()
    (arrivingAt 16 8) (by decide +kernel) (by decide) 3
  rw [hcall] at hreturns
  exact ⟨b, b', ret, hcall, Option.some.inj hreturns, hwhole⟩

def returnedLength (l : Event Unit × Output Unit) : Option ℕ :=
  match l.2 with
  | .returned ret => ret.map fun d => d.byteLength
  | .expired _ => none

def returnedLengths (datagrams : List (IPv4Datagram Unit)) : Option (List (Option ℕ)) :=
  (execute step new [] (datagrams.map fun d => .addFragment d 0)).map fun r =>
    r.2.reverse.map returnedLength

/-- Four ways to return something else: all fragments arrive twice; the payload is
longer than a `ushort` can say; the identifications are the same as a `ushort`; the
datagram was not cut. -/
theorem returned_again :
    returnedLengths [fragment 7 0 24 true, fragment 7 24 16 false, fragment 7 0 24 true,
      fragment 7 24 16 false] = some [none, some 60, none, some 60] ∧
    returnedLengths [fragment 7 0 65000 true, fragment 7 65000 544 false] =
      some [none, some 28] ∧
    returnedLengths [fragment 7 0 24 true, fragment 65543 24 16 false] = some [none, some 60] ∧
    returnedLengths [fragment 7 0 24 false] = none := by
  decide +kernel

end IPv4FragBuf

end inet

import LoRaInet.Kernel.FutureEventSet
import LoRaInet.Interval.Partition
import LoRaInet.NetworkLayer.Common.InterfaceEntry
import Mathlib.Tactic.Linarith

open omnetpp interval

namespace inet

/-- The fields of a datagram that fragmentation and reassembly use. Lengths and
offsets are in bytes. -/
structure IPv4Datagram (P : Type) where
  name : String
  headerLength : ℕ
  byteLength : ℕ
  srcAddress : IPv4Address
  destAddress : IPv4Address
  timeToLive : ℤ
  identification : ℤ
  moreFragments : Bool
  dontFragment : Bool
  fragmentOffset : ℕ
  encapsulatedPacket : Option P
  deriving DecidableEq

inductive ICMPError where
  | ICMP_TIME_EXCEEDED
  | ICMP_DU_FRAGMENTATION_NEEDED

namespace IPv4

variable {P : Type}

/-- What is given to `sendDatagramToOutput`, and the error sent when the datagram
is dropped. -/
structure Sent (P : Type) where
  output : List (IPv4Datagram P)
  error : Option ICMPError

variable (datagram : IPv4Datagram P)

/-- The fragment at an offset in the payload. -/
def fragmentAt (payloadLength fragmentLength offset : ℕ) : IPv4Datagram P :=
  let lastFragment : Bool := offset + fragmentLength ≥ payloadLength
  let thisFragmentLength := if lastFragment then payloadLength - offset else fragmentLength
  { datagram with
    name := datagram.name ++ "-frag"
    moreFragments := if lastFragment then datagram.moreFragments else true
    byteLength := datagram.headerLength + thisFragmentLength
    fragmentOffset := datagram.fragmentOffset + offset }

/-- The rounds of the loop that are left. -/
def fragmentLoop (datagram : IPv4Datagram P) (payloadLength fragmentLength : ℕ) :
    ℕ → ℕ → List (IPv4Datagram P)
  | 0, _ => []
  | rounds + 1, offset =>
    if offset < payloadLength then
      fragmentAt datagram payloadLength fragmentLength offset ::
        fragmentLoop datagram payloadLength fragmentLength rounds (offset + fragmentLength)
    else []

def fillSource (ie : InterfaceEntry) : IPv4Datagram P :=
  if datagram.srcAddress.isUnspecified then { datagram with srcAddress := ie.ipAddress }
  else datagram

/-- The payload of a fragment, as the integer division gives it. -/
def fragmentLength (mtu headerLength : ℕ) : ℤ := ((mtu - headerLength : ℤ).tdiv 8) * 8

def breakIntoFragments (fragmentLength : ℕ) : List (IPv4Datagram P) :=
  let payloadLength := datagram.byteLength - datagram.headerLength
  let noOfFragments := (payloadLength + fragmentLength - 1) / fragmentLength
  fragmentLoop datagram payloadLength fragmentLength noOfFragments 0

def fragmentAndSend (ie : InterfaceEntry) : Except Fault (Sent P) :=
  let datagram := fillSource datagram ie
  if datagram.timeToLive ≤ 0 then .ok ⟨[], some .ICMP_TIME_EXCEEDED⟩
  else if ie.mtu = 0 ∨ datagram.byteLength ≤ ie.mtu then .ok ⟨[datagram], none⟩
  else if datagram.dontFragment then .ok ⟨[], some .ICMP_DU_FRAGMENTATION_NEEDED⟩
  else
    let fragmentLength := fragmentLength ie.mtu datagram.headerLength
    if fragmentLength ≤ 0 then
      .error (.cRuntimeError s!"Cannot fragment datagram: MTU={ie.mtu} too small for header size ({datagram.headerLength} bytes)")
    else .ok ⟨breakIntoFragments datagram fragmentLength.toNat, none⟩

/-- `handleIncomingDatagram` at the next node. -/
def receive : IPv4Datagram P :=
  { datagram with timeToLive := datagram.timeToLive - 1 }

/-- What arrives at the next node of the datagrams that are sent to it. -/
def hop (ie : InterfaceEntry) : List (IPv4Datagram P) → Except Fault (List (IPv4Datagram P))
  | [] => .ok []
  | datagram :: rest => do
    let sent ← fragmentAndSend datagram ie
    let others ← hop ie rest
    .ok (sent.output.map receive ++ others)

def travel : List InterfaceEntry → List (IPv4Datagram P) → Except Fault (List (IPv4Datagram P))
  | [], datagrams => .ok datagrams
  | ie :: path, datagrams => do
    let datagrams ← hop ie datagrams
    travel path datagrams

end IPv4

namespace IPv4Datagram

variable {P : Type}

/-- The offset after the last byte of the payload. -/
def endOffset (d : IPv4Datagram P) : ℕ := d.fragmentOffset + (d.byteLength - d.headerLength)

/-- A part of the other datagram: all that fragmentation does not change. -/
structure PartOf (part d : IPv4Datagram P) : Prop where
  headerLength : part.headerLength = d.headerLength
  destAddress : part.destAddress = d.destAddress
  identification : part.identification = d.identification
  encapsulatedPacket : part.encapsulatedPacket = d.encapsulatedPacket
  length : part.headerLength ≤ part.byteLength
  moreFragments : part.moreFragments = false ↔ d.moreFragments = false ∧ part.endOffset = d.endOffset
  offset : 8 ∣ d.fragmentOffset → 8 ∣ part.fragmentOffset
  first_le : d.fragmentOffset ≤ part.fragmentOffset
  last_le : part.endOffset ≤ d.endOffset

theorem PartOf.refl {d : IPv4Datagram P} (h : d.headerLength ≤ d.byteLength) : d.PartOf d :=
  ⟨rfl, rfl, rfl, rfl, h, (and_iff_left rfl).symm, id, le_refl _, le_refl _⟩

theorem PartOf.trans {part d e : IPv4Datagram P} (h : part.PartOf d) (h' : d.PartOf e) :
    part.PartOf e where
  headerLength := h.headerLength.trans h'.headerLength
  destAddress := h.destAddress.trans h'.destAddress
  identification := h.identification.trans h'.identification
  encapsulatedPacket := h.encapsulatedPacket.trans h'.encapsulatedPacket
  length := h.length
  moreFragments := by
    have hlast := h.last_le
    have hlast' := h'.last_le
    rw [h.moreFragments, h'.moreFragments]
    constructor
    · rintro ⟨⟨hmore, heq⟩, heq'⟩
      exact ⟨hmore, heq'.trans heq⟩
    · rintro ⟨hmore, heq⟩
      exact ⟨⟨hmore, by omega⟩, by omega⟩
  offset := fun hdvd => h.offset (h'.offset hdvd)
  first_le := h'.first_le.trans h.first_le
  last_le := h.last_le.trans h'.last_le

end IPv4Datagram

namespace IPv4

section FragmentLoop

variable {P : Type} {datagram part : IPv4Datagram P} {payloadLength fragmentLength rounds offset : ℕ}

theorem fragmentLoop_eq_nil (h : payloadLength ≤ offset) :
    fragmentLoop datagram payloadLength fragmentLength rounds offset = [] := by
  cases rounds with
  | zero => rfl
  | succ rounds => rw [fragmentLoop, if_neg (not_lt.mpr h)]

open IPv4Datagram

theorem endOffset_fragmentAt (hoffset : offset < payloadLength) :
    (fragmentAt datagram payloadLength fragmentLength offset).endOffset =
      datagram.fragmentOffset + min payloadLength (offset + fragmentLength) := by
  rw [endOffset, fragmentAt]
  by_cases hlast : offset + fragmentLength ≥ payloadLength
  · rw [decide_eq_true hlast, if_pos rfl, min_eq_left hlast]
    dsimp only
    omega
  · rw [decide_eq_false hlast, if_neg Bool.false_ne_true, min_eq_right (not_le.mp hlast).le]
    dsimp only
    omega

theorem fragmentAt_byteLength_le (hoffset : offset < payloadLength) :
    (fragmentAt datagram payloadLength fragmentLength offset).byteLength ≤
      datagram.headerLength + fragmentLength := by
  rw [fragmentAt]
  by_cases hlast : offset + fragmentLength ≥ payloadLength
  · rw [decide_eq_true hlast, if_pos rfl]
    dsimp only
    omega
  · rw [decide_eq_false hlast, if_neg Bool.false_ne_true]

/-- Each fragment has the fields of the datagram, and its part of the payload. -/
theorem fragmentAt_partOf (hoffset : offset < payloadLength) (hdvd : 8 ∣ offset)
    (hpayload : datagram.headerLength + payloadLength = datagram.byteLength) :
    (fragmentAt datagram payloadLength fragmentLength offset).PartOf datagram where
  headerLength := rfl
  destAddress := rfl
  identification := rfl
  encapsulatedPacket := rfl
  length := Nat.le_add_right _ _
  moreFragments := by
    rw [endOffset_fragmentAt hoffset, endOffset, fragmentAt]
    by_cases hlast : offset + fragmentLength ≥ payloadLength
    · rw [decide_eq_true hlast, if_pos rfl, min_eq_left hlast]
      refine (and_iff_left ?_).symm
      omega
    · rw [decide_eq_false hlast, if_neg Bool.false_ne_true, min_eq_right (not_le.mp hlast).le]
      constructor
      · intro hfalse
        cases hfalse
      · rintro ⟨-, heq⟩
        omega
  offset := fun hd => Nat.dvd_add hd hdvd
  first_le := Nat.le_add_right _ _
  last_le := by
    rw [endOffset_fragmentAt hoffset, endOffset]
    omega

/-- The loop cuts the rest of the payload into parts that are not empty. -/
theorem fragmentLoop_partition (hpositive : 0 < fragmentLength)
    (hrounds : payloadLength ≤ offset + rounds * fragmentLength) (hoffset : offset < payloadLength) :
    Partition fragmentOffset endOffset (datagram.fragmentOffset + offset)
      (fragmentLoop datagram payloadLength fragmentLength rounds offset)
      (datagram.fragmentOffset + payloadLength) := by
  induction rounds generalizing offset with
  | zero => omega
  | succ rounds ih =>
    have hsucc := Nat.add_one_mul rounds fragmentLength
    have hend := @endOffset_fragmentAt P datagram payloadLength fragmentLength offset hoffset
    rw [fragmentLoop, if_pos hoffset]
    refine ⟨rfl, by omega, ?_⟩
    by_cases hlast : offset + fragmentLength ≥ payloadLength
    · rw [fragmentLoop_eq_nil hlast, hend, min_eq_left hlast]
      rfl
    · rw [hend, min_eq_right (not_le.mp hlast).le]
      exact ih (by omega) (not_le.mp hlast)

theorem mem_fragmentLoop (hdvd : 8 ∣ fragmentLength) (hoffset : 8 ∣ offset)
    (hpayload : datagram.headerLength + payloadLength = datagram.byteLength)
    (h : part ∈ fragmentLoop datagram payloadLength fragmentLength rounds offset) :
    part.PartOf datagram ∧ part.srcAddress = datagram.srcAddress ∧
      part.byteLength ≤ datagram.headerLength + fragmentLength := by
  induction rounds generalizing offset with
  | zero => cases h
  | succ rounds ih =>
    rw [fragmentLoop] at h
    split at h
    · next hlt =>
      rcases List.mem_cons.mp h with rfl | h
      · exact ⟨fragmentAt_partOf hlt hoffset hpayload, rfl, fragmentAt_byteLength_le hlt⟩
      · exact ih (Nat.dvd_add hoffset hdvd) h
    · cases h

end FragmentLoop

section Fragments

variable {P : Type} {datagram part : IPv4Datagram P} {ie : InterfaceEntry}

/-- The datagrams that are sent when none is dropped. -/
def fragmentsFor (ie : InterfaceEntry) (datagram : IPv4Datagram P) : List (IPv4Datagram P) :=
  let datagram := fillSource datagram ie
  if ie.mtu = 0 ∨ datagram.byteLength ≤ ie.mtu then [datagram]
  else breakIntoFragments datagram (fragmentLength ie.mtu datagram.headerLength).toNat

@[simp] theorem fillSource_headerLength : (fillSource datagram ie).headerLength = datagram.headerLength := by
  unfold fillSource
  split <;> rfl

@[simp] theorem fillSource_byteLength : (fillSource datagram ie).byteLength = datagram.byteLength := by
  unfold fillSource
  split <;> rfl

@[simp] theorem fillSource_fragmentOffset :
    (fillSource datagram ie).fragmentOffset = datagram.fragmentOffset := by
  unfold fillSource
  split <;> rfl

@[simp] theorem fillSource_endOffset : (fillSource datagram ie).endOffset = datagram.endOffset := by
  simp [IPv4Datagram.endOffset]

theorem fillSource_partOf (h : datagram.headerLength ≤ datagram.byteLength) :
    (fillSource datagram ie).PartOf datagram := by
  unfold fillSource
  split
  · exact ⟨rfl, rfl, rfl, rfl, h, (and_iff_left rfl).symm, id, le_refl _, le_refl _⟩
  · exact .refl h

theorem fragmentLength_spec {headerLength : ℕ} (hmtu : headerLength + 8 ≤ ie.mtu) :
    0 < (fragmentLength ie.mtu headerLength).toNat ∧
      8 ∣ (fragmentLength ie.mtu headerLength).toNat ∧
      headerLength + (fragmentLength ie.mtu headerLength).toNat ≤ ie.mtu ∧
      0 < fragmentLength ie.mtu headerLength := by
  have hdiv : fragmentLength ie.mtu headerLength = ((ie.mtu - headerLength) / 8 * 8 : ℕ) := by
    rw [fragmentLength, Int.tdiv_eq_ediv_of_nonneg (by omega)]
    omega
  rw [hdiv, Int.toNat_natCast]
  omega

theorem fragmentAndSend_eq_ok (hmtu : datagram.headerLength + 8 ≤ ie.mtu) :
    ∃ sent, fragmentAndSend datagram ie = .ok sent ∧
      ∀ part ∈ sent.output, part ∈ fragmentsFor ie datagram := by
  obtain ⟨-, -, -, hpositive⟩ := fragmentLength_spec hmtu
  unfold fragmentAndSend
  dsimp only
  split
  · exact ⟨_, rfl, fun part hpart => by cases hpart⟩
  · split
    · next hfits =>
      refine ⟨_, rfl, fun part hpart => ?_⟩
      rw [fragmentsFor, if_pos hfits]
      exact hpart
    · next hfits =>
      split
      · exact ⟨_, rfl, fun part hpart => by cases hpart⟩
      · rw [fillSource_headerLength, if_neg (not_le.mpr hpositive)]
        refine ⟨_, rfl, fun part hpart => ?_⟩
        rw [fragmentsFor, if_neg hfits, fillSource_headerLength]
        exact hpart

theorem mem_fragmentsFor (hmtu : datagram.headerLength + 8 ≤ ie.mtu)
    (hlength : datagram.headerLength ≤ datagram.byteLength) (h : part ∈ fragmentsFor ie datagram) :
    part.PartOf datagram ∧ part.srcAddress = (fillSource datagram ie).srcAddress ∧
      part.byteLength ≤ ie.mtu := by
  obtain ⟨-, hdvd, hle, -⟩ := fragmentLength_spec hmtu
  have hfill : (fillSource datagram ie).PartOf datagram := fillSource_partOf hlength
  rw [fragmentsFor] at h
  split at h
  · next hfits =>
    obtain rfl := List.mem_singleton.mp h
    exact ⟨hfill, rfl, hfits.resolve_left (by omega)⟩
  · rw [fillSource_headerLength, breakIntoFragments] at h
    obtain ⟨hpart, hsrc, hbytes⟩ := mem_fragmentLoop hdvd (dvd_zero 8)
      (by rw [fillSource_headerLength, fillSource_byteLength]; omega) h
    rw [fillSource_headerLength] at hbytes
    exact ⟨hpart.trans hfill, hsrc, hbytes.trans hle⟩

theorem fragmentsFor_partition (hmtu : datagram.headerLength + 8 ≤ ie.mtu)
    (hlength : datagram.headerLength < datagram.byteLength) :
    Partition IPv4Datagram.fragmentOffset IPv4Datagram.endOffset datagram.fragmentOffset
      (fragmentsFor ie datagram) datagram.endOffset := by
  obtain ⟨hpositive, -, -, -⟩ := fragmentLength_spec hmtu
  rw [fragmentsFor]
  split
  · refine ⟨fillSource_fragmentOffset, ?_, fillSource_endOffset⟩
    rw [fillSource_endOffset, IPv4Datagram.endOffset]
    omega
  · rw [fillSource_headerLength, breakIntoFragments]
    generalize (fragmentLength ie.mtu datagram.headerLength).toNat = length at *
    have hrounds := Nat.div_add_mod (datagram.byteLength - datagram.headerLength + length - 1) length
    have hmod := Nat.mod_lt (datagram.byteLength - datagram.headerLength + length - 1) hpositive
    have hloop : Partition IPv4Datagram.fragmentOffset IPv4Datagram.endOffset
        ((fillSource datagram ie).fragmentOffset + 0)
        (fragmentLoop (fillSource datagram ie) (datagram.byteLength - datagram.headerLength) length
          ((datagram.byteLength - datagram.headerLength + length - 1) / length) 0)
        ((fillSource datagram ie).fragmentOffset + (datagram.byteLength - datagram.headerLength)) :=
      fragmentLoop_partition hpositive (by rw [mul_comm] at hrounds; omega) (by omega)
    rw [fillSource_byteLength, fillSource_headerLength]
    rw [fillSource_fragmentOffset, add_zero] at hloop
    exact hloop

end Fragments

section Travel

variable {P : Type} {original part : IPv4Datagram P} {datagrams cut out : List (IPv4Datagram P)}
  {ie : InterfaceEntry} {path : List InterfaceEntry}

/-- All parts of a datagram, from one source. -/
structure Cuts (original : IPv4Datagram P) (cut : List (IPv4Datagram P)) : Prop where
  partOf : ∀ part ∈ cut, part.PartOf original
  srcAddress : ∀ part ∈ cut, ∀ part' ∈ cut, part.srcAddress = part'.srcAddress
  partition : original.headerLength < original.byteLength →
    Partition IPv4Datagram.fragmentOffset IPv4Datagram.endOffset original.fragmentOffset cut
      original.endOffset

theorem Cuts.whole (h : original.headerLength ≤ original.byteLength) : Cuts original [original] where
  partOf := fun part hpart => by
    rw [List.mem_singleton.mp hpart]
    exact .refl h
  srcAddress := fun part hpart part' hpart' => by
    rw [List.mem_singleton.mp hpart, List.mem_singleton.mp hpart']
  partition := fun hlength => ⟨rfl, by rw [IPv4Datagram.endOffset]; omega, rfl⟩

theorem receive_partOf {d : IPv4Datagram P} (h : part.PartOf d) : (receive part).PartOf d :=
  ⟨h.headerLength, h.destAddress, h.identification, h.encapsulatedPacket, h.length,
    h.moreFragments, h.offset, h.first_le, h.last_le⟩

theorem partition_receive {low high : ℕ}
    (h : Partition IPv4Datagram.fragmentOffset IPv4Datagram.endOffset low cut high) :
    Partition IPv4Datagram.fragmentOffset IPv4Datagram.endOffset low (cut.map receive) high := by
  induction cut generalizing low with
  | nil => exact h
  | cons part rest ih =>
    obtain ⟨hfirst, hlt, hrest⟩ := h
    exact ⟨hfirst, hlt, ih hrest⟩

theorem Cuts.next (h : Cuts original cut) (hmtu : original.headerLength + 8 ≤ ie.mtu) :
    Cuts original ((cut.flatMap (fragmentsFor ie)).map receive) := by
  have hpart : ∀ part ∈ (cut.flatMap (fragmentsFor ie)).map receive, ∃ d ∈ cut,
      part.PartOf d ∧ part.srcAddress = (fillSource d ie).srcAddress := by
    intro part hpart
    obtain ⟨sent, hsent, rfl⟩ := List.mem_map.mp hpart
    obtain ⟨d, hd, hmem⟩ := List.mem_flatMap.mp hsent
    obtain ⟨hpartOf, hsrc, -⟩ := mem_fragmentsFor ((h.partOf d hd).headerLength ▸ hmtu)
      (h.partOf d hd).length hmem
    exact ⟨d, hd, receive_partOf hpartOf, hsrc⟩
  refine ⟨fun part hmem => ?_, fun part hmem part' hmem' => ?_, fun hlength => ?_⟩
  · obtain ⟨d, hd, hpartOf, -⟩ := hpart part hmem
    exact hpartOf.trans (h.partOf d hd)
  · obtain ⟨d, hd, -, hsrc⟩ := hpart part hmem
    obtain ⟨d', hd', -, hsrc'⟩ := hpart part' hmem'
    have hsame := h.srcAddress d hd d' hd'
    rw [hsrc, hsrc', fillSource, fillSource, hsame]
    split
    · rfl
    · exact hsame
  · apply partition_receive
    apply (h.partition hlength).flatMap
    intro d hd
    have hd' := (h.partition hlength).bounds hd
    apply fragmentsFor_partition ((h.partOf d hd).headerLength ▸ hmtu)
    have hlt := hd'.2.1
    rw [IPv4Datagram.endOffset] at hlt
    omega

/-- A hop does not fail, and what arrives is a part of what was sent and fits. -/
theorem hop_eq_ok (h : ∀ d ∈ datagrams, d.headerLength ≤ d.byteLength ∧ d.headerLength + 8 ≤ ie.mtu) :
    ∃ out, hop ie datagrams = .ok out ∧
      ∀ part ∈ out, part ∈ (datagrams.flatMap (fragmentsFor ie)).map receive ∧
        part.byteLength ≤ ie.mtu := by
  induction datagrams with
  | nil => exact ⟨[], rfl, fun part hpart => by cases hpart⟩
  | cons d rest ih =>
    obtain ⟨hlength, hmtu⟩ := h d (.head _)
    obtain ⟨sent, hsent, houtput⟩ := fragmentAndSend_eq_ok hmtu
    obtain ⟨others, hothers, hmem⟩ := ih fun d' hd' => h d' (List.mem_cons_of_mem d hd')
    refine ⟨sent.output.map receive ++ others, ?_, fun part hpart => ?_⟩
    · rw [hop, hsent, hothers]
      rfl
    · rw [List.flatMap_cons, List.map_append]
      rcases List.mem_append.mp hpart with hpart | hpart
      · obtain ⟨f, hf, rfl⟩ := List.mem_map.mp hpart
        have hfits := (mem_fragmentsFor hmtu hlength (houtput f hf)).2.2
        exact ⟨List.mem_append_left _ (List.mem_map_of_mem (houtput f hf)), hfits⟩
      · obtain ⟨hin, hfits⟩ := hmem part hpart
        exact ⟨List.mem_append_right _ hin, hfits⟩

/-- Whatever is lost on the way, what arrives is a part of the datagram, and not
longer than the last hop allows. -/
theorem travel_eq_ok (hcut : Cuts original cut) (hsub : ∀ d ∈ datagrams, d ∈ cut)
    (hmtu : ∀ ie ∈ path, original.headerLength + 8 ≤ ie.mtu) :
    ∃ out cut', travel path datagrams = .ok out ∧ Cuts original cut' ∧ (∀ d ∈ out, d ∈ cut') ∧
      ∀ ie ∈ path.getLast?, ∀ d ∈ out, d.byteLength ≤ ie.mtu := by
  induction path generalizing datagrams cut with
  | nil => exact ⟨datagrams, cut, rfl, hcut, hsub, fun ie hie => by cases hie⟩
  | cons ie path ih =>
    have hfirst := hmtu ie (.head _)
    obtain ⟨next, hnext, hmem⟩ := @hop_eq_ok P datagrams ie fun d hd =>
      ⟨(hcut.partOf d (hsub d hd)).length, (hcut.partOf d (hsub d hd)).headerLength ▸ hfirst⟩
    have hsub' : ∀ d ∈ next, d ∈ (cut.flatMap (fragmentsFor ie)).map receive := by
      intro d hd
      obtain ⟨f, hf, rfl⟩ := List.mem_map.mp (hmem d hd).1
      obtain ⟨d', hd', hin⟩ := List.mem_flatMap.mp hf
      exact List.mem_map_of_mem (List.mem_flatMap.mpr ⟨d', hsub d' hd', hin⟩)
    obtain ⟨out, cut', hout, hcut', hin, hfits⟩ := ih (hcut.next hfirst) hsub'
      fun ie' hie' => hmtu ie' (List.mem_cons_of_mem ie hie')
    refine ⟨out, cut', ?_, hcut', hin, ?_⟩
    · rw [travel, hnext]
      exact hout
    · cases path with
      | nil =>
        intro ie' hie' d hd
        obtain rfl : next = out := Except.ok.inj hout
        cases hie'
        exact (hmem d hd).2
      | cons ie' path =>
        rw [List.getLast?_cons_cons]
        exact hfits

end Travel

end IPv4

end inet

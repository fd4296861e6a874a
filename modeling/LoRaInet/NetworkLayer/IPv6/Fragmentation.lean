import LoRaInet.Interval.Partition
import LoRaInet.NetworkLayer.IPv6.IPv6Datagram
import Mathlib.Tactic.Linarith

open omnetpp interval

namespace inet

namespace IPv6Address

def isUnspecified (a : IPv6Address) : Bool := (a.d0 ||| a.d1 ||| a.d2 ||| a.d3) = 0

/-- The first 104 bits are those of FF02::1:FF00:0. -/
def isSolicitedNodeMulticastAddress (a : IPv6Address) : Bool :=
  a.d0 = 0xFF020000 && a.d1 = 0 && a.d2 = 1 && a.d3 &&& 0xFF000000 = 0xFF000000

end IPv6Address

inductive ICMPv6Error where
  | ICMPv6_TIME_EXCEEDED
  | ICMPv6_PACKET_TOO_BIG
  | ICMPv6_PARAMETER_PROBLEM
  deriving DecidableEq

namespace IPv6

open IPv6Datagram

variable {P : Type}

/-- What is asked of the interface that a datagram is sent on. -/
structure OutputInterface where
  mtu : ℤ
  preferredAddress : IPv6Address
  isTentativeAddress : Bool

/-- What is given to `sendDatagramToOutput`, the error sent when the datagram is dropped, and the
datagram that is put off. -/
structure Sent (P : Type) where
  output : List (IPv6Packet P) := []
  error : Option ICMPv6Error := none
  scheduled : Option (IPv6Packet P) := none

def IPv6_FRAGMENT_HEADER_LENGTH : ℕ := 8

variable (datagram : IPv6Packet P)

/-- The fragment at an offset in the payload. The offset is kept in a `ushort`. -/
def fragmentAt (identification : uint32)
    (headerLength payloadLength fragmentLength offset : ℕ) : Except Fault (IPv6Packet P) := do
  let lastFragment : Bool := offset + fragmentLength ≥ payloadLength
  let thisFragmentLength := if lastFragment then payloadLength - offset else fragmentLength
  let fh : IPv6ExtensionHeader := .fragment (BitVec.ofNat 16 offset) (!lastFragment) identification
  let extensionHeader ← copy datagram.extensionHeader
  let extensionHeader ← addExtensionHeader extensionHeader fh
  return { datagram with
    extensionHeader := extensionHeader
    encapsulatedPacket := if offset = 0 then datagram.encapsulatedPacket else none
    name := datagram.name ++ "-frag"
    byteLength := headerLength + fh.getByteLength + thisFragmentLength }

/-- The rounds of the loop that are left. -/
def fragmentLoop (datagram : IPv6Packet P) (identification : uint32)
    (headerLength payloadLength fragmentLength : ℕ) : ℕ → ℕ → Except Fault (List (IPv6Packet P))
  | 0, _ => .ok []
  | rounds + 1, offset =>
    if offset < payloadLength then do
      let fragment ← fragmentAt datagram identification headerLength payloadLength fragmentLength offset
      let fragments ← fragmentLoop datagram identification headerLength payloadLength fragmentLength
        rounds (offset + fragmentLength)
      return fragment :: fragments
    else .ok []

/-- The payload of a fragment, as the integer division gives it. -/
def fragmentLength (mtu : ℤ) (headerLength : ℕ) : ℤ :=
  ((mtu - headerLength - IPv6_FRAGMENT_HEADER_LENGTH).tdiv 8) * 8

def breakIntoFragments (identification : uint32) (mtu : ℤ) :
    Except Fault (List (IPv6Packet P)) := do
  let headerLength := calculateUnfragmentableHeaderByteLength datagram.extensionHeader
  let payloadLength := datagram.byteLength - headerLength
  ASSERT (fragmentLength mtu headerLength > 0) "fragmentLength > 0"
  let fragmentLength := (fragmentLength mtu headerLength).toNat
  let noOfFragments := (payloadLength + fragmentLength - 1) / fragmentLength
  fragmentLoop datagram identification headerLength payloadLength fragmentLength noOfFragments 0

/-- Duplicate address detection is done without a source address. -/
def needsSource (fromHL : Bool) : Bool :=
  fromHL && datagram.srcAddress.isUnspecified && !datagram.destAddress.isSolicitedNodeMulticastAddress

def fillSource (ie : OutputInterface) (fromHL : Bool) : IPv6Packet P :=
  if needsSource datagram fromHL then { datagram with srcAddress := ie.preferredAddress } else datagram

/-- The end of `fragmentAndSend`, for a datagram with a source address. -/
def send (curFragmentId : uint32) (datagram : IPv6Packet P) (mtu : ℤ) (fromHL : Bool) :
    Except Fault (uint32 × Sent P) :=
  if (datagram.byteLength : ℤ) ≤ mtu then .ok (curFragmentId, { output := [datagram] })
  else if !fromHL then .ok (curFragmentId, { error := some .ICMPv6_PACKET_TOO_BIG })
  else do
    let fragments ← breakIntoFragments datagram curFragmentId mtu
    return (curFragmentId + 1, { output := fragments })

def fragmentAndSend (curFragmentId : uint32) (datagram : IPv6Packet P) (ie : OutputInterface)
    (fromHL : Bool) : Except Fault (uint32 × Sent P) :=
  if datagram.hopLimit.toInt ≤ 0 then .ok (curFragmentId, { error := some .ICMPv6_TIME_EXCEEDED })
  else if needsSource datagram fromHL then do
    ASSERT (ie.preferredAddress.isUnspecified = false) "!srcAddr.isUnspecified()"
    let datagram := fillSource datagram ie fromHL
    if ie.isTentativeAddress then .ok (curFragmentId, { scheduled := some datagram })
    else send curFragmentId datagram ie.mtu fromHL
  else send curFragmentId datagram ie.mtu fromHL

section FragmentHeaders

open IPv6ExtensionHeader

variable {headers : List IPv6ExtensionHeader} {fh : IPv6ExtensionHeader}

def isFragmentHeader (eh : IPv6ExtensionHeader) : Bool := eh.getExtensionType = IP_PROT_IPv6EXT_FRAGMENT

theorem getExtensionHeaderOrder_eq_three {eh : IPv6ExtensionHeader} :
    eh.getExtensionHeaderOrder = 3 ↔ isFragmentHeader eh = true := by
  unfold getExtensionHeaderOrder isFragmentHeader
  rw [decide_eq_true_eq]
  generalize eh.getExtensionType = extensionType
  split
  · next h => simp [h, IP_PROT_IPv6EXT_HOP, IP_PROT_IPv6EXT_FRAGMENT]
  · split
    · next h => simp [h, IP_PROT_IPv6EXT_DEST, IP_PROT_IPv6EXT_FRAGMENT]
    · split
      · next h => simp [h, IP_PROT_IPv6EXT_ROUTING, IP_PROT_IPv6EXT_FRAGMENT]
      · split
        · next h => simp [h]
        · next h =>
          refine iff_of_false ?_ h
          split
          · decide
          · split
            · decide
            · split
              · decide
              · decide

/-- The headers in front of the place of a fragment header. -/
def inFront (headers : List IPv6ExtensionHeader) : List IPv6ExtensionHeader :=
  headers.takeWhile fun eh => eh.getExtensionHeaderOrder ≤ 3

def behind (headers : List IPv6ExtensionHeader) : List IPv6ExtensionHeader :=
  headers.dropWhile fun eh => eh.getExtensionHeaderOrder ≤ 3

theorem inFront_append_behind : inFront headers ++ behind headers = headers :=
  List.takeWhile_append_dropWhile

theorem insertExtensionHeader_fragment (hfree : ∀ eh ∈ headers, isFragmentHeader eh = false) :
    insertExtensionHeader fh 3 headers = .ok (inFront headers ++ fh :: behind headers) := by
  induction headers with
  | nil => rfl
  | cons that rest ih =>
    obtain ⟨hthat, hrest⟩ := List.forall_mem_cons.mp hfree
    have hne : that.getExtensionHeaderOrder ≠ 3 := by
      intro hthree
      rw [getExtensionHeaderOrder_eq_three, hthat] at hthree
      cases hthree
    unfold insertExtensionHeader inFront behind
    by_cases hbehind : that.getExtensionHeaderOrder > 3
    · rw [List.takeWhile_cons_of_neg (by simpa using hbehind),
        List.dropWhile_cons_of_neg (by simpa using hbehind)]
      exact if_pos ⟨by decide, hbehind⟩
    · rw [List.takeWhile_cons_of_pos (by simpa using hbehind),
        List.dropWhile_cons_of_pos (by simpa using hbehind)]
      simp only
      rw [if_neg fun h => hbehind h.2, if_neg fun h => hne h.1.symm, if_neg fun h => hne h.1.symm,
        ih hrest]
      rfl

theorem addExtensionHeader_fragment (hfree : ∀ eh ∈ headers, isFragmentHeader eh = false)
    (offset : BitVec 16) (more : Bool) (identification : uint32) :
    addExtensionHeader headers (.fragment offset more identification) =
      .ok (inFront headers ++ .fragment offset more identification :: behind headers) := by
  unfold addExtensionHeader
  rw [assert_bind (by simp [getByteLength])]
  exact insertExtensionHeader_fragment hfree

end FragmentHeaders

/-- The headers of which every fragment has a copy are those in front of its fragment header, and none
is a fragment header. -/
structure Splits (headers : List IPv6ExtensionHeader) : Prop where
  same : unfragmentable headers = inFront headers
  free : ∀ eh ∈ headers, isFragmentHeader eh = false

instance (headers : List IPv6ExtensionHeader) : Decidable (Splits headers) :=
  decidable_of_iff (unfragmentable headers = inFront headers ∧
    ∀ eh ∈ headers, isFragmentHeader eh = false) ⟨fun h => ⟨h.1, h.2⟩, fun h => ⟨h.same, h.free⟩⟩

section Fragments

variable {datagram f : IPv6Packet P} {identification : uint32}
  {headerLength payload length rounds offset : ℕ}

/-- The fragment at an offset, when the headers can be copied. -/
def fragmentOf (datagram : IPv6Packet P) (identification : uint32)
    (headerLength payload length offset : ℕ) : IPv6Packet P :=
  let lastFragment : Bool := offset + length ≥ payload
  { datagram with
    extensionHeader := inFront datagram.extensionHeader ++
      .fragment (BitVec.ofNat 16 offset) (!lastFragment) identification ::
        behind datagram.extensionHeader
    encapsulatedPacket := if offset = 0 then datagram.encapsulatedPacket else none
    name := datagram.name ++ "-frag"
    byteLength := headerLength + 8 + (if lastFragment then payload - offset else length) }

theorem fragmentAt_eq_ok (hordered : Ordered datagram.extensionHeader)
    (hfree : ∀ eh ∈ datagram.extensionHeader, isFragmentHeader eh = false) :
    fragmentAt datagram identification headerLength payload length offset =
      .ok (fragmentOf datagram identification headerLength payload length offset) := by
  unfold fragmentAt
  rw [hordered.copy_eq]
  change (addExtensionHeader datagram.extensionHeader _ >>= _) = _
  rw [addExtensionHeader_fragment hfree]
  rfl

/-- The offsets of the rounds that are left. -/
def offsets (payload length : ℕ) : ℕ → ℕ → List ℕ
  | 0, _ => []
  | rounds + 1, offset =>
    if offset < payload then offset :: offsets payload length rounds (offset + length)
    else []

theorem fragmentLoop_eq_ok (hordered : Ordered datagram.extensionHeader)
    (hfree : ∀ eh ∈ datagram.extensionHeader, isFragmentHeader eh = false) :
    fragmentLoop datagram identification headerLength payload length rounds offset =
      .ok ((offsets payload length rounds offset).map
        (fragmentOf datagram identification headerLength payload length)) := by
  induction rounds generalizing offset with
  | zero => rfl
  | succ rounds ih =>
    unfold fragmentLoop offsets
    split
    · rw [fragmentAt_eq_ok hordered hfree, ih]
      rfl
    · rfl

theorem mem_offsets {x : ℕ} (hdvd : 8 ∣ length) (hoffset : 8 ∣ offset)
    (h : x ∈ offsets payload length rounds offset) : 8 ∣ x ∧ x < payload := by
  induction rounds generalizing offset with
  | zero => cases h
  | succ rounds ih =>
    unfold offsets at h
    split at h
    · next hlt =>
      rcases List.mem_cons.mp h with rfl | h
      · exact ⟨hoffset, hlt⟩
      · exact ih (Nat.dvd_add hoffset hdvd) h
    · cases h

/-- The rounds cut the rest of the payload into parts that are not empty. -/
theorem offsets_partition (hpositive : 0 < length)
    (hrounds : payload ≤ offset + rounds * length) (hoffset : offset < payload) :
    Partition id (fun x => min payload (x + length)) offset
      (offsets payload length rounds offset) payload := by
  induction rounds generalizing offset with
  | zero => omega
  | succ rounds ih =>
    have hsucc := Nat.add_one_mul rounds length
    have hlt : offset < min payload (offset + length) := by omega
    rw [offsets, if_pos hoffset]
    refine ⟨rfl, hlt, ?_⟩
    change Partition _ _ (min payload (offset + length)) _ _
    by_cases hlast : offset + length ≥ payload
    · rw [min_eq_left hlast]
      have hnil : offsets payload length rounds (offset + length) = [] := by
        cases rounds with
        | zero => rfl
        | succ rounds => rw [offsets, if_neg (by omega)]
      rw [hnil]
      rfl
    · rw [min_eq_right (by omega)]
      exact ih (by omega) (by omega)

/-- What is not repeated in every fragment. -/
def payloadLength (datagram : IPv6Packet P) : ℕ :=
  datagram.byteLength - calculateUnfragmentableHeaderByteLength datagram.extensionHeader

def fragmentsOf (datagram : IPv6Packet P) (identification : uint32) (mtu : ℤ) : List (IPv6Packet P) :=
  let headerLength := calculateUnfragmentableHeaderByteLength datagram.extensionHeader
  let length := (fragmentLength mtu headerLength).toNat
  (offsets (payloadLength datagram) length ((payloadLength datagram + length - 1) / length) 0).map
    (fragmentOf datagram identification headerLength (payloadLength datagram) length)

theorem fragmentLength_spec {mtu : ℤ} (h : 0 < fragmentLength mtu headerLength) :
    0 < (fragmentLength mtu headerLength).toNat ∧ 8 ∣ (fragmentLength mtu headerLength).toNat ∧
      (headerLength + 8 + (fragmentLength mtu headerLength).toNat : ℤ) ≤ mtu := by
  unfold fragmentLength IPv6_FRAGMENT_HEADER_LENGTH at *
  push_cast at *
  have hnonneg : 0 ≤ mtu - headerLength - 8 := by
    by_contra hneg
    have hle : 0 ≤ (-(mtu - headerLength - 8)).tdiv 8 := Int.tdiv_nonneg (by omega) (by decide)
    rw [Int.neg_tdiv] at hle
    omega
  rw [Int.tdiv_eq_ediv_of_nonneg hnonneg] at *
  omega

/-- A datagram from above that has to be cut, for an interface on which nothing that is asserted fails. -/
structure Fragmented (datagram : IPv6Packet P) (ie : OutputInterface) : Prop where
  allowed : Allowed datagram.extensionHeader
  hopLimit : 0 < datagram.hopLimit.toInt
  source : needsSource datagram true = true →
    ie.preferredAddress.isUnspecified = false ∧ ie.isTentativeAddress = false
  big : ie.mtu < datagram.byteLength
  mtu : 0 < fragmentLength ie.mtu (calculateUnfragmentableHeaderByteLength datagram.extensionHeader)

variable {ie : OutputInterface} {curFragmentId : uint32}

@[simp] theorem fillSource_extensionHeader {fromHL : Bool} :
    (fillSource datagram ie fromHL).extensionHeader = datagram.extensionHeader := by
  unfold fillSource
  split <;> rfl

@[simp] theorem fillSource_byteLength {fromHL : Bool} :
    (fillSource datagram ie fromHL).byteLength = datagram.byteLength := by
  unfold fillSource
  split <;> rfl

theorem Fragmented.fragmentAndSend_eq_ok (h : Fragmented datagram ie)
    (hfree : ∀ eh ∈ datagram.extensionHeader, isFragmentHeader eh = false) :
    fragmentAndSend curFragmentId datagram ie true = .ok (curFragmentId + 1,
      { output := fragmentsOf (fillSource datagram ie true) curFragmentId ie.mtu }) := by
  have hsend : ∀ d : IPv6Packet P, d.extensionHeader = datagram.extensionHeader →
      d.byteLength = datagram.byteLength → send curFragmentId d ie.mtu true =
        .ok (curFragmentId + 1, { output := fragmentsOf d curFragmentId ie.mtu }) := by
    intro d hheaders hlength
    have hmtu := h.mtu
    rw [← hheaders] at hmtu
    unfold send breakIntoFragments
    rw [hlength, if_neg (not_le.mpr h.big), if_neg (by decide)]
    rw [assert_bind hmtu, fragmentLoop_eq_ok (hheaders ▸ h.allowed.ordered) (hheaders ▸ hfree)]
    unfold fragmentsOf payloadLength
    rw [hlength]
    rfl
  unfold fragmentAndSend
  rw [if_neg (not_le.mpr h.hopLimit)]
  split
  · next hsource =>
    obtain ⟨hspecified, htentative⟩ := h.source hsource
    rw [assert_bind hspecified]
    rw [htentative, if_neg Bool.false_ne_true]
    exact hsend _ fillSource_extensionHeader fillSource_byteLength
  · next hsource =>
    unfold fillSource
    rw [if_neg hsource]
    exact hsend _ rfl rfl

theorem fragmentOf_byteLength_le :
    (fragmentOf datagram identification headerLength payload length offset).byteLength ≤
      headerLength + 8 + length := by
  unfold fragmentOf
  dsimp only
  split
  · next hlast =>
    have hlast := of_decide_eq_true hlast
    omega
  · exact le_refl _

end Fragments

end IPv6

end inet

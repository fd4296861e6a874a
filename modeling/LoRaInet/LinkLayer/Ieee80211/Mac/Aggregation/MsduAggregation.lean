import LoRaInet.LinkLayer.Ieee80211.Mac.Queue.InProgressFrames

open omnetpp

namespace inet.ieee80211.MsduAggregation

/-- What a data frame carries, known by its length. -/
structure Msdu (P : Type) where
  content : P
  bitLength : ℕ

def Msdu.getByteLength {P : Type} (msdu : Msdu P) : ℕ := (msdu.bitLength + 7) / 8

/-- `Ieee80211DataFrame`, with the `etherType` of an `Ieee80211DataFrameWithSNAP`. The bit length contains the
encapsulated packet's. -/
structure Ieee80211DataFrame (E : Type) where
  name : String
  type : FrameType
  bitLength : ℕ
  toDS : Bool
  fromDS : Bool
  receiverAddress : MACAddress
  transmitterAddress : MACAddress
  address3 : MACAddress
  address4 : MACAddress
  tid : BitVec 8
  aMsduPresent : Bool
  etherType : Option ℤ
  encapsulatedPacket : Option E

structure Ieee80211MsduSubframe (P : Type) where
  name : String
  bitLength : ℕ
  sa : MACAddress
  da : MACAddress
  etherType : ℤ
  encapsulatedPacket : Option (Msdu P)

structure Ieee80211AMsdu (P : Type) where
  bitLength : ℕ
  subframes : List (Ieee80211MsduSubframe P)

def DATAFRAME_HEADER_MINLENGTH : ℕ := 28 * 8

def QOSCONTROL_BITS : ℕ := 2 * 8

def SNAP_HEADER_BYTES : ℕ := 8

def LENGTH_A_MSDU_SUBFRAME_HEADER : ℕ := 14 * 8

section Frames

variable {E P : Type}

/-- A new `Ieee80211DataFrame`, or an `Ieee80211DataFrameWithSNAP` if there is an `etherType`. -/
def Ieee80211DataFrame.new (name : String) (etherType : Option ℤ) : Ieee80211DataFrame E where
  name := name
  type := .ST_DATA
  bitLength := DATAFRAME_HEADER_MINLENGTH + if etherType.isSome then 8 * SNAP_HEADER_BYTES else 0
  toDS := false
  fromDS := false
  receiverAddress := MACAddress.UNSPECIFIED_ADDRESS
  transmitterAddress := MACAddress.UNSPECIFIED_ADDRESS
  address3 := MACAddress.UNSPECIFIED_ADDRESS
  address4 := MACAddress.UNSPECIFIED_ADDRESS
  tid := 0
  aMsduPresent := false
  etherType := etherType
  encapsulatedPacket := none

/-- `cPacket::decapsulate` of a packet of this length. -/
def decapsulate (bitLength : ℕ) (encapsulatedPacket : Option (Msdu P)) : Except Fault (Option (Msdu P)) :=
  match encapsulatedPacket with
  | none => .ok none
  | some msdu =>
    if 0 < bitLength ∧ bitLength < msdu.bitLength then
      .error (.cRuntimeError "decapsulate(): packet length is smaller than encapsulated packet")
    else .ok (some msdu)

end Frames

section Aggregation

variable {P : Type}

def setSubframeAddress (subframe : Ieee80211MsduSubframe P) (frame : Ieee80211DataFrame (Msdu P)) :
    Ieee80211MsduSubframe P :=
  match frame.toDS, frame.fromDS with
  | false, false => { subframe with da := frame.receiverAddress, sa := frame.transmitterAddress }
  | false, true => { subframe with da := frame.receiverAddress, sa := frame.address3 }
  | true, false => { subframe with da := frame.address3, sa := frame.transmitterAddress }
  | true, true => { subframe with da := frame.address3, sa := frame.address4 }

/-- The subframe for a data frame, with what it adds to the length. -/
def toSubframe (dataFrame : Ieee80211DataFrame (Msdu P)) : Except Fault (Ieee80211MsduSubframe P × ℕ) := do
  ASSERT (dataFrame.type = .ST_DATA_WITH_QOS) "dataFrame->getType() == ST_DATA_WITH_QOS"
  match ← decapsulate dataFrame.bitLength dataFrame.encapsulatedPacket with
  | none => .error .nullPointer
  | some msdu =>
    let snapBytes := if dataFrame.etherType.isSome then SNAP_HEADER_BYTES else 0
    let msduSubframe := setSubframeAddress
      { name := dataFrame.name
        bitLength := LENGTH_A_MSDU_SUBFRAME_HEADER + 8 * snapBytes + msdu.bitLength
        sa := MACAddress.UNSPECIFIED_ADDRESS
        da := MACAddress.UNSPECIFIED_ADDRESS
        etherType := dataFrame.etherType.getD (-1)
        encapsulatedPacket := some msdu } dataFrame
    return (msduSubframe, msdu.getByteLength + LENGTH_A_MSDU_SUBFRAME_HEADER / 8 + snapBytes)

def aggregateFrames (frames : List (Ieee80211DataFrame (Msdu P))) :
    Except Fault (Ieee80211DataFrame (Ieee80211AMsdu P)) :=
  match frames with
  | [] => .error .outOfRange
  | firstFrame :: _ => do
    let subframes ← frames.mapM toSubframe
    let aMsdu : Ieee80211AMsdu P :=
      { bitLength := 8 * (subframes.map (·.2)).sum, subframes := subframes.map (·.1) }
    let aggregatedDataFrame : Ieee80211DataFrame (Ieee80211AMsdu P) := .new "A-MSDU" none
    return { aggregatedDataFrame with
      type := .ST_DATA_WITH_QOS
      toDS := firstFrame.toDS
      fromDS := firstFrame.fromDS
      aMsduPresent := true
      transmitterAddress := firstFrame.transmitterAddress
      receiverAddress := firstFrame.receiverAddress
      tid := firstFrame.tid
      bitLength := aggregatedDataFrame.bitLength + aMsdu.bitLength
      encapsulatedPacket := some aMsdu }

/-- From an AP to a STA the transmitter address of the new frame is assigned to itself. -/
def setExplodedFrameAddress (frame : Ieee80211DataFrame (Msdu P)) (subframe : Ieee80211MsduSubframe P)
    (aMsduFrame : Ieee80211DataFrame (Ieee80211AMsdu P)) : Ieee80211DataFrame (Msdu P) :=
  match aMsduFrame.fromDS, aMsduFrame.toDS with
  | false, false =>
    { frame with
      transmitterAddress := aMsduFrame.transmitterAddress
      receiverAddress := aMsduFrame.receiverAddress }
  | true, false =>
    { frame with
      transmitterAddress := frame.transmitterAddress
      receiverAddress := subframe.da
      address3 := subframe.sa }
  | false, true =>
    { frame with
      transmitterAddress := subframe.sa
      receiverAddress := aMsduFrame.receiverAddress
      address3 := subframe.da }
  | true, true =>
    { frame with
      receiverAddress := aMsduFrame.receiverAddress
      transmitterAddress := aMsduFrame.transmitterAddress
      address3 := subframe.da
      address4 := subframe.sa }

def explode (frame : Ieee80211DataFrame (Ieee80211AMsdu P)) (msduSubframe : Ieee80211MsduSubframe P) :
    Except Fault (Ieee80211DataFrame (Msdu P)) := do
  match ← decapsulate msduSubframe.bitLength msduSubframe.encapsulatedPacket with
  | none => .error .nullPointer
  | some msdu =>
    let dataFrame : Ieee80211DataFrame (Msdu P) := .new msduSubframe.name
      (if msduSubframe.etherType ≠ -1 then some msduSubframe.etherType else none)
    return setExplodedFrameAddress
      { dataFrame with
        type := .ST_DATA_WITH_QOS
        bitLength := dataFrame.bitLength + QOSCONTROL_BITS + msdu.bitLength
        transmitterAddress := msduSubframe.sa
        toDS := frame.toDS
        fromDS := frame.fromDS
        tid := frame.tid
        encapsulatedPacket := some msdu } msduSubframe frame

def deaggregateFrame (frame : Ieee80211DataFrame (Ieee80211AMsdu P)) :
    Except Fault (List (Ieee80211DataFrame (Msdu P))) :=
  match frame.encapsulatedPacket with
  | none => .error .nullPointer
  | some aMsdu => aMsdu.subframes.mapM (explode frame)

end Aggregation

section RoundTrip

variable {P : Type} {frame exploded first : Ieee80211DataFrame (Msdu P)}
  {aggregate : Ieee80211DataFrame (Ieee80211AMsdu P)} {msduSubframe : Ieee80211MsduSubframe P} {length : ℕ}
  {frames : List (Ieee80211DataFrame (Msdu P))}

def destinationAddress (frame : Ieee80211DataFrame (Msdu P)) : MACAddress :=
  if frame.toDS then frame.address3 else frame.receiverAddress

def sourceAddress (frame : Ieee80211DataFrame (Msdu P)) : MACAddress :=
  if frame.fromDS then if frame.toDS then frame.address4 else frame.address3 else frame.transmitterAddress

/-- The frames agree in the payload, the four addresses, the flags and the TID. -/
structure Agree (frame exploded : Ieee80211DataFrame (Msdu P)) : Prop where
  payload : exploded.encapsulatedPacket = frame.encapsulatedPacket
  destination : destinationAddress exploded = destinationAddress frame
  source : sourceAddress exploded = sourceAddress frame
  transmitter : exploded.transmitterAddress = frame.transmitterAddress
  receiver : exploded.receiverAddress = frame.receiverAddress
  toDS : exploded.toDS = frame.toDS
  fromDS : exploded.fromDS = frame.fromDS
  tid : exploded.tid = frame.tid

/-- The flags are the first frame's, and a frame from an AP to a STA comes from the AP itself. -/
def Restorable (first frame : Ieee80211DataFrame (Msdu P)) : Prop :=
  frame.toDS = first.toDS ∧ frame.fromDS = first.fromDS ∧
    (frame.toDS = false → frame.fromDS = true → frame.address3 = frame.transmitterAddress)
deriving Decidable

theorem decapsulate_eq_ok {bitLength : ℕ} {packet msdu : Option (Msdu P)} (h : decapsulate bitLength packet = .ok msdu) :
    msdu = packet := by
  unfold decapsulate at h
  split at h
  · exact (Except.ok.inj h).symm
  · split at h
    · cases h
    · exact (Except.ok.inj h).symm

theorem decapsulate_some {bitLength : ℕ} {msdu : Msdu P} (h : msdu.bitLength ≤ bitLength) :
    decapsulate bitLength (some msdu) = .ok (some msdu) := by
  unfold decapsulate
  exact if_neg fun hshort => absurd hshort.2 (not_lt.mpr h)

theorem setSubframeAddress_eq (subframe : Ieee80211MsduSubframe P) (frame : Ieee80211DataFrame (Msdu P)) :
    setSubframeAddress subframe frame = { subframe with da := destinationAddress frame, sa := sourceAddress frame } := by
  unfold setSubframeAddress destinationAddress sourceAddress
  cases frame.toDS <;> cases frame.fromDS <;> rfl

theorem toSubframe_eq_ok (h : toSubframe frame = .ok (msduSubframe, length)) :
    ∃ msdu, frame.encapsulatedPacket = some msdu ∧ msduSubframe.encapsulatedPacket = some msdu ∧
      msdu.bitLength ≤ msduSubframe.bitLength ∧ msduSubframe.da = destinationAddress frame ∧
      msduSubframe.sa = sourceAddress frame := by
  unfold toSubframe at h
  obtain ⟨_, _, h⟩ := bind_eq_ok_iff.mp h
  obtain ⟨packet, hpacket, h⟩ := bind_eq_ok_iff.mp h
  have heq := decapsulate_eq_ok hpacket
  cases packet with
  | none => cases h
  | some msdu =>
    cases h
    rw [setSubframeAddress_eq]
    exact ⟨msdu, heq.symm, rfl, Nat.le_add_left .., rfl, rfl⟩

theorem setExplodedFrameAddress_kept (dataFrame : Ieee80211DataFrame (Msdu P)) :
    (setExplodedFrameAddress dataFrame msduSubframe aggregate).toDS = dataFrame.toDS ∧
      (setExplodedFrameAddress dataFrame msduSubframe aggregate).fromDS = dataFrame.fromDS ∧
      (setExplodedFrameAddress dataFrame msduSubframe aggregate).tid = dataFrame.tid ∧
      (setExplodedFrameAddress dataFrame msduSubframe aggregate).encapsulatedPacket = dataFrame.encapsulatedPacket := by
  unfold setExplodedFrameAddress
  split <;> exact ⟨rfl, rfl, rfl, rfl⟩

/-- The addresses of a frame with the flags of the aggregate come back, but from an AP to a STA its source takes the
transmitter's place. -/
theorem setExplodedFrameAddress_addresses {dataFrame : Ieee80211DataFrame (Msdu P)}
    (hdataFrame : dataFrame.toDS = aggregate.toDS ∧ dataFrame.fromDS = aggregate.fromDS ∧
      dataFrame.transmitterAddress = sourceAddress frame)
    (hsubframe : msduSubframe.da = destinationAddress frame ∧ msduSubframe.sa = sourceAddress frame)
    (hflags : frame.toDS = aggregate.toDS ∧ frame.fromDS = aggregate.fromDS)
    (haddresses : aggregate.receiverAddress = frame.receiverAddress ∧
      aggregate.transmitterAddress = frame.transmitterAddress) :
    destinationAddress (setExplodedFrameAddress dataFrame msduSubframe aggregate) = destinationAddress frame ∧
      (setExplodedFrameAddress dataFrame msduSubframe aggregate).receiverAddress = frame.receiverAddress ∧
      (setExplodedFrameAddress dataFrame msduSubframe aggregate).transmitterAddress =
        (if frame.toDS = false ∧ frame.fromDS = true then sourceAddress frame else frame.transmitterAddress) ∧
      sourceAddress (setExplodedFrameAddress dataFrame msduSubframe aggregate) = sourceAddress frame := by
  obtain ⟨hto, hfrom, hsource⟩ := hdataFrame
  obtain ⟨hda, hsa⟩ := hsubframe
  obtain ⟨hto', hfrom'⟩ := hflags
  obtain ⟨hra, hta⟩ := haddresses
  unfold sourceAddress at hsa hsource
  unfold destinationAddress at hda
  unfold setExplodedFrameAddress destinationAddress sourceAddress
  cases hto'' : aggregate.toDS <;> cases hfrom'' : aggregate.fromDS <;>
    simp [hto, hfrom, hto', hfrom', hto'', hfrom'', hra, hta, hda, hsa, hsource]

/-- The frame that comes out of a subframe agrees with the one that went in exactly when that one is restorable. -/
theorem exists_explode (h : toSubframe frame = .ok (msduSubframe, length))
    (hflags : aggregate.toDS = first.toDS ∧ aggregate.fromDS = first.fromDS)
    (haddresses : aggregate.receiverAddress = frame.receiverAddress ∧
      aggregate.transmitterAddress = frame.transmitterAddress ∧ aggregate.tid = frame.tid) :
    ∃ exploded, explode aggregate msduSubframe = .ok exploded ∧ (Agree frame exploded ↔ Restorable first frame) := by
  obtain ⟨msdu, hframe, hsubframe, hlength, hda, hsa⟩ := toSubframe_eq_ok h
  obtain ⟨hra, hta, htid⟩ := haddresses
  obtain ⟨hto, hfrom⟩ := hflags
  unfold explode
  rw [hsubframe, decapsulate_some hlength]
  refine ⟨_, rfl, ?_⟩
  generalize hdataFrame : Ieee80211DataFrame.mk _ _ _ _ _ _ _ _ _ _ _ _ _ = dataFrame
  obtain ⟨hkeptTo, hkeptFrom, hkeptTid, hkeptPacket⟩ :=
    @setExplodedFrameAddress_kept _ aggregate msduSubframe dataFrame
  have haddressesOf (hto' : frame.toDS = aggregate.toDS) (hfrom' : frame.fromDS = aggregate.fromDS) :=
    @setExplodedFrameAddress_addresses _ frame aggregate msduSubframe dataFrame
      (hdataFrame ▸ ⟨rfl, rfl, hsa⟩) ⟨hda, hsa⟩ ⟨hto', hfrom'⟩ ⟨hra, hta⟩
  have hsourceOf (hto' : frame.toDS = false) (hfrom' : frame.fromDS = true) : sourceAddress frame = frame.address3 := by
    simp [sourceAddress, hto', hfrom']
  constructor
  · intro hagree
    have hto' : frame.toDS = aggregate.toDS := by
      rw [← hagree.toDS, hkeptTo, ← hdataFrame]
    have hfrom' : frame.fromDS = aggregate.fromDS := by
      rw [← hagree.fromDS, hkeptFrom, ← hdataFrame]
    refine ⟨hto'.trans hto, hfrom'.trans hfrom, fun htoDS hfromDS => ?_⟩
    have htransmitter := (haddressesOf hto' hfrom').2.2.1
    rw [hagree.transmitter, if_pos ⟨htoDS, hfromDS⟩, hsourceOf htoDS hfromDS] at htransmitter
    exact htransmitter.symm
  · rintro ⟨hto', hfrom', hown⟩
    rw [← hto] at hto'
    rw [← hfrom] at hfrom'
    obtain ⟨hdestination, hreceiver, htransmitter, hsource⟩ := haddressesOf hto' hfrom'
    refine ⟨?_, hdestination, hsource, ?_, hreceiver, ?_, ?_, ?_⟩
    · rw [hkeptPacket, ← hdataFrame, hframe]
    · rw [htransmitter]
      split
      · next hAP => rw [hsourceOf hAP.1 hAP.2, hown hAP.1 hAP.2]
      · rfl
    · rw [hkeptTo, ← hdataFrame, hto']
    · rw [hkeptFrom, ← hdataFrame, hfrom']
    · rw [hkeptTid, ← hdataFrame, htid]

theorem exists_explode_all {subframes : List (Ieee80211MsduSubframe P × ℕ)}
    (hsubframes : List.Forall₂ (fun frame subframe => toSubframe frame = .ok subframe) frames subframes)
    (hflags : aggregate.toDS = first.toDS ∧ aggregate.fromDS = first.fromDS)
    (hsame : ∀ frame ∈ frames, aggregate.receiverAddress = frame.receiverAddress ∧
      aggregate.transmitterAddress = frame.transmitterAddress ∧ aggregate.tid = frame.tid) :
    (∃ all, List.Forall₂ (fun subframe exploded => explode aggregate subframe = .ok exploded) (subframes.map (·.1)) all ∧
      List.Forall₂ Agree frames all) ↔ ∀ frame ∈ frames, Restorable first frame := by
  induction hsubframes with
  | nil => exact ⟨fun _ frame hframe => (by cases hframe), fun _ => ⟨[], .nil, .nil⟩⟩
  | @cons frame subframe frames subframes hsubframe hsubframes ih =>
    have ih := ih fun other hother => hsame other (.tail _ hother)
    obtain ⟨exploded, hexplode, hagree⟩ := exists_explode hsubframe hflags (hsame frame (.head _))
    rw [List.forall_mem_cons, ← ih, ← hagree]
    constructor
    · rintro ⟨all, hall, hagrees⟩
      obtain ⟨exploded', rest, hexplode', hrest, rfl⟩ := List.forall₂_cons_left_iff.mp hall
      obtain rfl := Except.ok.inj (hexplode.symm.trans hexplode')
      obtain ⟨hfirst, hagrees⟩ := List.forall₂_cons.mp hagrees
      exact ⟨hfirst, rest, hrest, hagrees⟩
    · rintro ⟨hfirst, rest, hrest, hagrees⟩
      exact ⟨exploded :: rest, .cons hexplode hrest, .cons hfirst hagrees⟩

/-- What is aggregated comes back, frame by frame, exactly when each frame is restorable. -/
theorem deaggregateFrame_aggregateFrames {others : List (Ieee80211DataFrame (Msdu P))}
    (haccepted : aggregateFrames (first :: others) = .ok aggregate)
    (hsame : ∀ frame ∈ others, frame.receiverAddress = first.receiverAddress ∧
      frame.transmitterAddress = first.transmitterAddress ∧ frame.tid = first.tid) :
    (∃ frames, deaggregateFrame aggregate = .ok frames ∧ List.Forall₂ Agree (first :: others) frames) ↔
      ∀ frame ∈ first :: others, Restorable first frame := by
  obtain ⟨subframes, hsubframes, heq⟩ := bind_eq_ok_iff.mp haccepted
  cases heq
  unfold deaggregateFrame
  simp only [mapM_eq_ok_iff]
  refine exists_explode_all (mapM_eq_ok_iff.mp hsubframes) ⟨rfl, rfl⟩ fun frame hframe => ?_
  rcases List.mem_cons.mp hframe with rfl | hframe
  · exact ⟨rfl, rfl, rfl⟩
  · obtain ⟨hra, hta, htid⟩ := hsame frame hframe
    exact ⟨hra.symm, hta.symm, htid.symm⟩

/-- A frame of 100 bytes from an AP, which has the address 2. -/
def fromAP (source : MACAddress) (content : ℕ) : Ieee80211DataFrame (Msdu ℕ) :=
  let frame : Ieee80211DataFrame (Msdu ℕ) := .new "frame" none
  { frame with
    type := .ST_DATA_WITH_QOS
    bitLength := frame.bitLength + QOSCONTROL_BITS + 800
    fromDS := true
    receiverAddress := 1
    transmitterAddress := 2
    address3 := source
    encapsulatedPacket := some { content, bitLength := 800 } }

theorem deaggregateFrame_aggregateFrames_fromAP : ∃ aggregate,
    aggregateFrames [fromAP 2 5, fromAP 2 6] = .ok aggregate ∧
      ∃ frames, deaggregateFrame aggregate = .ok frames ∧ List.Forall₂ Agree [fromAP 2 5, fromAP 2 6] frames :=
  ⟨_, rfl, (deaggregateFrame_aggregateFrames rfl (by decide)).mpr (by decide)⟩

/-- A frame that the AP forwards for the station 3: its transmitter is taken for the station. -/
theorem not_deaggregateFrame_aggregateFrames : ∃ aggregate frame,
    aggregateFrames [fromAP 3 5] = .ok aggregate ∧ deaggregateFrame aggregate = .ok [frame] ∧
      frame.transmitterAddress ≠ (fromAP 3 5).transmitterAddress :=
  ⟨_, _, rfl, rfl, by decide⟩

end RoundTrip

end inet.ieee80211.MsduAggregation

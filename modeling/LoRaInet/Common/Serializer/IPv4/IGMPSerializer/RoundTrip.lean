import LoRaInet.Common.Serializer.IPv4.IGMPSerializer
import Mathlib.Tactic.IntervalCases

open omnetpp

namespace inet.serializer

theorem Reading.reads_readIPv4Address (addr : IPv4Address) :
    Reads readIPv4Address (bigEndian 4 addr.toNat) addr := by
  have hread := (reads_readUint 4 addr.toNat).map (BitVec.ofNat 32)
  have hlt : addr.toNat < 256 ^ 4 := lt_of_lt_of_eq addr.isLt (by norm_num)
  rwa [Nat.mod_eq_of_lt hlt, BitVec.ofNat_toNat, BitVec.setWidth_eq] at hread

namespace IGMPSerializer

open Buffer Reading

section Bytes

def sourceBytes (sources : List IPv4Address) : List UInt8 :=
  sources.flatMap fun source => bigEndian 4 source.toNat

def groupRecordBytes (gr : GroupRecord) : List UInt8 :=
  [gr.recordType, 0] ++ bigEndian 2 gr.sourceList.length ++ bigEndian 4 gr.groupAddress.toNat ++
    sourceBytes gr.sourceList

/-- The type and the code of a message. -/
def headBytes : IGMPMessage → List UInt8
  | .v1Query _ => [IGMP_MEMBERSHIP_QUERY, 0]
  | .v2Query _ maxRespTime => [IGMP_MEMBERSHIP_QUERY, maxRespTime]
  | .v3Query _ maxRespCode _ _ _ _ => [IGMP_MEMBERSHIP_QUERY, maxRespCode]
  | .v1Report _ => [IGMPV1_MEMBERSHIP_REPORT, 0]
  | .v2Report _ => [IGMPV2_MEMBERSHIP_REPORT, 0]
  | .v2Leave _ => [IGMPV2_LEAVE_GROUP, 0]
  | .v3Report _ => [IGMPV3_MEMBERSHIP_REPORT, 0]

/-- What follows the checksum. -/
def tailBytes : IGMPMessage → List UInt8
  | .v1Query groupAddress | .v2Query groupAddress _ | .v1Report groupAddress
  | .v2Report groupAddress | .v2Leave groupAddress => bigEndian 4 groupAddress.toNat
  | .v3Query groupAddress _ suppressRouterProc robustnessVariable queryIntervalCode sourceList =>
    bigEndian 4 groupAddress.toNat ++
      ([(if suppressRouterProc then 0x8 else 0) ||| robustnessVariable, queryIntervalCode] ++
        (bigEndian 2 sourceList.length ++ sourceBytes sourceList))
  | .v3Report groupRecord =>
    bigEndian 2 0 ++ (bigEndian 2 groupRecord.length ++ groupRecord.flatMap groupRecordBytes)

def wireLength (pkt : IGMPMessage) : ℕ := 4 + (tailBytes pkt).length

@[simp] theorem headBytes_length (pkt : IGMPMessage) : (headBytes pkt).length = 2 := by
  cases pkt <;> rfl

theorem serializeHeader_eq (type : UInt8) (groupAddress : IPv4Address) (b : Buffer) :
    serializeHeader type groupAddress b =
      writeNBytes ([type, 0] ++ bigEndian 2 0 ++ bigEndian 4 groupAddress.toNat) b := by
  simp only [serializeHeader, writeByte, writeUint16, writeIPv4Address, writeUint32,
    writeNBytes_writeNBytes]
  rfl

theorem foldl_writeIPv4Address (sources : List IPv4Address) (b : Buffer) :
    sources.foldl (fun b src => b.writeIPv4Address src) b = writeNBytes (sourceBytes sources) b :=
  foldl_writeNBytes (fun source : IPv4Address => bigEndian 4 source.toNat) sources b

theorem serializeGroupRecord_eq (b : Buffer) (gr : GroupRecord) :
    serializeGroupRecord b gr = writeNBytes (groupRecordBytes gr) b := by
  simp only [serializeGroupRecord, foldl_writeIPv4Address]
  simp only [writeByte, writeUint16, writeIPv4Address, writeUint32, writeNBytes_writeNBytes]
  rfl

theorem foldl_serializeGroupRecord (groupRecord : List GroupRecord) (b : Buffer) :
    groupRecord.foldl serializeGroupRecord b =
      writeNBytes (groupRecord.flatMap groupRecordBytes) b := by
  have hstep : serializeGroupRecord = fun b gr => writeNBytes (groupRecordBytes gr) b := by
    funext b gr
    exact serializeGroupRecord_eq b gr
  rw [hstep, foldl_writeNBytes]

theorem writeByteTo_serializeHeader (type code : UInt8) (groupAddress : IPv4Address)
    {space : List UInt8} (h : 8 ≤ space.length) :
    (serializeHeader type groupAddress (ofBytes space)).writeByteTo 1 code =
      writeNBytes ([type, code] ++ bigEndian 2 0 ++ bigEndian 4 groupAddress.toNat)
        (ofBytes space) := by
  have hlength : ∀ code : UInt8,
      ([type, code] ++ bigEndian 2 0 ++ bigEndian 4 groupAddress.toNat).length = 8 := fun _ => rfl
  rw [serializeHeader_eq, ofBytes, writeNBytes_eq _ _ _ _ (by rw [hlength]; exact h),
    writeNBytes_eq _ _ _ _ (by rw [hlength]; exact h)]
  rfl

variable {pkt : IGMPMessage} {space : List UInt8}

theorem serializeBody_eq (hspace : wireLength pkt ≤ space.length) {b : Buffer}
    (hok : serializeBody pkt (ofBytes space) = .ok b) :
    b = writeNBytes (headBytes pkt ++ bigEndian 2 0 ++ tailBytes pkt) (ofBytes space) := by
  cases pkt with
  | v1Query groupAddress | v1Report groupAddress | v2Report groupAddress | v2Leave groupAddress =>
    cases hok
    exact serializeHeader_eq _ _ _
  | v2Query groupAddress maxRespTime =>
    cases hok
    exact writeByteTo_serializeHeader _ _ _ hspace
  | v3Query groupAddress maxRespCode suppressRouterProc robustnessVariable queryIntervalCode
      sourceList =>
    obtain ⟨-, -, hok⟩ := bind_eq_ok_iff.mp hok
    cases hok
    have hlong : 8 ≤ space.length := by
      simp [wireLength, tailBytes] at hspace
      omega
    rw [foldl_writeIPv4Address, writeByteTo_serializeHeader _ _ _ hlong]
    simp only [writeByte, writeUint16, writeNBytes_writeNBytes, headBytes, tailBytes,
      List.append_assoc, List.cons_append, List.nil_append]
  | v3Report groupRecord =>
    cases hok
    rw [foldl_serializeGroupRecord]
    simp only [writeByte, writeUint16, writeNBytes_writeNBytes, headBytes, tailBytes,
      List.append_assoc, List.cons_append, List.nil_append]

theorem serialize_eq (hspace : wireLength pkt ≤ space.length) {b : Buffer}
    (hok : serialize pkt (ofBytes space) = .ok b) :
    b.before = headBytes pkt ++ bigEndian 2
        (TCPIPchecksum.checksum (headBytes pkt ++ bigEndian 2 0 ++ tailBytes pkt)) ++
      tailBytes pkt := by
  obtain ⟨written, hwritten, hok⟩ := bind_eq_ok_iff.mp hok
  cases hok
  have hfits : (headBytes pkt ++ bigEndian 2 0 ++ tailBytes pkt).length ≤ space.length := by
    rw [wireLength] at hspace
    simp only [List.length_append, headBytes_length, bigEndian_length]
    exact hspace
  rw [serializeBody_eq hspace hwritten, ofBytes, writeNBytes_eq _ _ _ _ hfits]
  have hwrite := writeUint16To_before (headBytes pkt) (tailBytes pkt)
    (space.drop (headBytes pkt ++ bigEndian 2 0 ++ tailBytes pkt).length) 0
    (TCPIPchecksum.checksum (headBytes pkt ++ bigEndian 2 0 ++ tailBytes pkt)) false
  rw [headBytes_length] at hwrite
  exact congrArg Buffer.before hwrite

end Bytes

theorem reads_deserializeSources (sources : List IPv4Address) :
    Reads (deserializeSources sources.length) (sourceBytes sources) sources := by
  induction sources with
  | nil => exact Reads.pure []
  | cons source sources ih =>
    exact reads_hasError.bind ((reads_readIPv4Address source).bind (ih.map (source :: ·)))

theorem reads_deserializeGroupRecord {gr : GroupRecord} (h : gr.sourceList.length < 65536) :
    Reads deserializeGroupRecord (groupRecordBytes gr) gr := by
  have hcount := reads_readUint 2 gr.sourceList.length
  rw [Nat.mod_eq_of_lt (by norm_num; exact h)] at hcount
  have hnone : Reads (accessNBytes (4 * (0 : UInt8).toNat)) [] (some []) := reads_accessNBytes []
  have hbytes : groupRecordBytes gr = [gr.recordType] ++ ([0] ++ (bigEndian 2 gr.sourceList.length ++
      (bigEndian 4 gr.groupAddress.toNat ++ (sourceBytes gr.sourceList ++ ([] ++ []))))) := by
    simp [groupRecordBytes]
  rw [hbytes]
  refine (reads_readByte gr.recordType).bind ?_
  refine (reads_readByte 0).bind ?_
  refine hcount.bind ?_
  refine (reads_readIPv4Address gr.groupAddress).bind ?_
  refine (reads_deserializeSources gr.sourceList).bind ?_
  exact hnone.bind (Reads.pure gr)

theorem reads_deserializeGroupRecords {grs : List GroupRecord}
    (h : ∀ gr ∈ grs, gr.sourceList.length < 65536) :
    Reads (deserializeGroupRecords grs.length) (grs.flatMap groupRecordBytes) grs := by
  induction grs with
  | nil => exact Reads.pure []
  | cons gr grs ih =>
    have hrest := ih fun gr' hmem => h gr' (List.mem_cons_of_mem gr hmem)
    exact reads_hasError.bind
      ((reads_deserializeGroupRecord (h gr (.head _))).bind (hrest.map (gr :: ·)))

theorem flag_robustness (suppressRouterProc : Bool) {robustnessVariable : UInt8}
    (h : robustnessVariable ≤ 7) :
    (((if suppressRouterProc then 0x8 else 0) ||| robustnessVariable : UInt8) &&& 0x8 ≠ 0) =
        (suppressRouterProc = true) ∧
      ((if suppressRouterProc then 0x8 else 0) ||| robustnessVariable : UInt8) &&& 7 =
        robustnessVariable := by
  have hlt : robustnessVariable.toNat ≤ 7 := UInt8.le_iff_toNat_le.mp h
  obtain ⟨n, hn, rfl⟩ : ∃ n, n ≤ 7 ∧ robustnessVariable = UInt8.ofNat n :=
    ⟨robustnessVariable.toNat, hlt, UInt8.ofNat_toNat.symm⟩
  interval_cases n <;> cases suppressRouterProc <;> decide

/-- What can be restored: a version 2 query has a response time, a version 3 query a response
code and no sources, and numbers fit into their fields. -/
def Restorable : IGMPMessage → Prop
  | .v2Query _ maxRespTime => maxRespTime ≠ 0
  | .v3Query _ maxRespCode _ robustnessVariable _ sourceList =>
    maxRespCode ≠ 0 ∧ robustnessVariable ≤ 7 ∧ sourceList = []
  | .v3Report groupRecord =>
    groupRecord.length < 65536 ∧ ∀ gr ∈ groupRecord, gr.sourceList.length < 65536
  | _ => True

theorem deserializeV3Query_eq (groupAddress : IPv4Address) (code : UInt8)
    (suppressRouterProc : Bool) (queryIntervalCode : UInt8) {robustnessVariable : UInt8}
    (hrobustness : robustnessVariable ≤ 7) (before : List UInt8) :
    deserializeV3Query code 0
        ⟨before, tailBytes (.v3Query groupAddress code suppressRouterProc robustnessVariable
          queryIntervalCode []), false⟩ =
      .ok ((.v3Query groupAddress code suppressRouterProc robustnessVariable queryIntervalCode [],
          before.length + 8),
        ⟨before ++ tailBytes (.v3Query groupAddress code suppressRouterProc robustnessVariable
          queryIntervalCode []), [], false⟩) := by
  obtain ⟨hflag, hlow⟩ := flag_robustness suppressRouterProc hrobustness
  have hcount := reads_readUint 2 0
  have htail : tailBytes (.v3Query groupAddress code suppressRouterProc robustnessVariable
      queryIntervalCode []) = bigEndian 4 groupAddress.toNat ++
        ([(if suppressRouterProc then 0x8 else 0) ||| robustnessVariable] ++
          ([queryIntervalCode] ++ (bigEndian 2 0 ++ []))) := rfl
  rw [htail, deserializeV3Query, (reads_readIPv4Address groupAddress).run_bind,
    (reads_readByte _).run_bind, (reads_readByte _).run_bind, readUint16, hcount.run_bind]
  simp only [hflag, hlow]
  rw [get_bind]
  simp [getPos]

theorem deserializeV3Report_eq {groupRecord : List GroupRecord}
    (hlength : groupRecord.length < 65536)
    (hsources : ∀ gr ∈ groupRecord, gr.sourceList.length < 65536) (before : List UInt8) :
    deserializeV3Report 0 ⟨before, tailBytes (.v3Report groupRecord), false⟩ =
      .ok ((.v3Report groupRecord, before.length + (tailBytes (.v3Report groupRecord)).length),
        ⟨before ++ tailBytes (.v3Report groupRecord), [], false⟩) := by
  have hreserved := reads_readUint 2 0
  have hcount := reads_readUint 2 groupRecord.length
  rw [Nat.mod_eq_of_lt (by norm_num; exact hlength)] at hcount
  rw [tailBytes, deserializeV3Report, readUint16, hreserved.run_bind, hcount.run_bind,
    (reads_deserializeGroupRecords hsources).all_bind, get_bind]
  simp [getPos]

theorem ofBytes_size (pkt : IGMPMessage) (value : ℕ) :
    (ofBytes (headBytes pkt ++ bigEndian 2 value ++ tailBytes pkt)).getBufSize -
      (ofBytes (headBytes pkt ++ bigEndian 2 value ++ tailBytes pkt)).getPos = wireLength pkt := by
  simp [ofBytes, getBufSize, getPos, wireLength]
  omega

theorem deserializeMessage_eq (h : Restorable pkt) {type code : UInt8}
    (hhead : headBytes pkt = [type, code]) (value : ℕ) :
    deserializeMessage type code (ofBytes (headBytes pkt ++ bigEndian 2 value ++ tailBytes pkt))
        ⟨headBytes pkt ++ bigEndian 2 value, tailBytes pkt, false⟩ =
      .ok (some (pkt, wireLength pkt),
        ⟨headBytes pkt ++ bigEndian 2 value ++ tailBytes pkt, [], false⟩) := by
  cases pkt with
  | v1Query groupAddress =>
    obtain ⟨rfl, hcode⟩ := List.cons.inj hhead
    cases hcode
    rw [deserializeMessage, if_pos rfl, deserializeQuery, if_pos rfl]
    exact (((reads_readIPv4Address groupAddress).map fun a => (IGMPMessage.v1Query a, 8)).map
      some).all _
  | v2Query groupAddress maxRespTime =>
    obtain ⟨rfl, hcode⟩ := List.cons.inj hhead
    obtain ⟨rfl, -⟩ := List.cons.inj hcode
    rw [deserializeMessage, if_pos rfl, deserializeQuery, if_neg h, ofBytes_size,
      if_pos (show wireLength (.v2Query groupAddress maxRespTime) = 8 from rfl)]
    exact (((reads_readIPv4Address groupAddress).map fun a =>
      (IGMPMessage.v2Query a maxRespTime, 8)).map some).all _
  | v3Query groupAddress maxRespCode suppressRouterProc robustnessVariable queryIntervalCode
      sourceList =>
    obtain ⟨rfl, hcode⟩ := List.cons.inj hhead
    obtain ⟨rfl, -⟩ := List.cons.inj hcode
    obtain ⟨hne, hrobustness, rfl⟩ := h
    have hquery := deserializeV3Query_eq groupAddress maxRespCode suppressRouterProc
      queryIntervalCode hrobustness ([IGMP_MEMBERSHIP_QUERY, maxRespCode] ++ bigEndian 2 value)
    rw [deserializeMessage, if_pos rfl, deserializeQuery, if_neg hne, ofBytes_size,
      if_neg (by simp [wireLength, tailBytes, sourceBytes])]
    exact bind_eq_ok.mpr ⟨_, _, hquery, rfl⟩
  | v1Report groupAddress =>
    obtain ⟨rfl, hcode⟩ := List.cons.inj hhead
    rw [deserializeMessage, if_neg (by decide), if_pos rfl]
    exact ((reads_readIPv4Address groupAddress).map fun a =>
      some (IGMPMessage.v1Report a, 8)).all _
  | v2Report groupAddress =>
    obtain ⟨rfl, hcode⟩ := List.cons.inj hhead
    rw [deserializeMessage, if_neg (by decide), if_neg (by decide), if_pos rfl]
    exact ((reads_readIPv4Address groupAddress).map fun a =>
      some (IGMPMessage.v2Report a, 8)).all _
  | v2Leave groupAddress =>
    obtain ⟨rfl, hcode⟩ := List.cons.inj hhead
    rw [deserializeMessage, if_neg (by decide), if_neg (by decide), if_neg (by decide), if_pos rfl]
    exact ((reads_readIPv4Address groupAddress).map fun a =>
      some (IGMPMessage.v2Leave a, 8)).all _
  | v3Report groupRecord =>
    obtain ⟨rfl, hcode⟩ := List.cons.inj hhead
    have hreport := deserializeV3Report_eq h.1 h.2 ([IGMPV3_MEMBERSHIP_REPORT, 0] ++ bigEndian 2 value)
    rw [deserializeMessage, if_neg (by decide), if_neg (by decide), if_neg (by decide),
      if_neg (by decide), if_pos rfl]
    exact bind_eq_ok.mpr ⟨_, _, hreport, rfl⟩

theorem checkPacket_eq {packet : Parsed (IGMPMessage ⊕ ByteArray)} {bytes : List UInt8}
    (hlength : bytes.length = packet.byteLength) (hchecksum : TCPIPchecksum.checksum bytes = 0) :
    checkPacket 0 packet ⟨bytes, [], false⟩ = .ok (packet, ⟨bytes, [], false⟩) := by
  have htake : bytes.take packet.byteLength = bytes := List.take_of_length_le (le_of_eq hlength)
  rw [checkPacket, get_bind]
  simp only [List.append_nil, List.drop_zero, htake, hchecksum, hlength]
  simp

theorem deserialize_eq (h : Restorable pkt) {value : ℕ}
    (hchecksum : TCPIPchecksum.checksum (headBytes pkt ++ bigEndian 2 value ++ tailBytes pkt) = 0) :
    deserialize (ofBytes (headBytes pkt ++ bigEndian 2 value ++ tailBytes pkt)) =
      .ok (⟨.inl pkt, wireLength pkt, false⟩,
        ⟨headBytes pkt ++ bigEndian 2 value ++ tailBytes pkt, [], false⟩) := by
  obtain ⟨type, code, hhead⟩ : ∃ type code, headBytes pkt = [type, code] := by
    cases pkt <;> exact ⟨_, _, rfl⟩
  have hmessage := deserializeMessage_eq h hhead value
  have hlength : (headBytes pkt ++ bigEndian 2 value ++ tailBytes pkt).length = wireLength pkt := by
    simp [wireLength]
    omega
  rw [hhead] at hmessage hchecksum hlength ⊢
  rw [deserialize, get_bind]
  refine bind_eq_ok.mpr ⟨_, _, reads_readByte type [] ([code] ++ (bigEndian 2 value ++ tailBytes pkt)), ?_⟩
  refine bind_eq_ok.mpr ⟨_, _, reads_readByte code [type] (bigEndian 2 value ++ tailBytes pkt), ?_⟩
  refine bind_eq_ok.mpr ⟨_, _, reads_readUint 2 value [type, code] (tailBytes pkt), ?_⟩
  refine bind_eq_ok.mpr ⟨⟨.inl pkt, wireLength pkt, false⟩, _,
    bind_eq_ok.mpr ⟨some (pkt, wireLength pkt), _, hmessage, rfl⟩, ?_⟩
  exact checkPacket_eq hlength hchecksum

section Returned

variable {b b' : Buffer}

theorem checkPacket_packet {startPos : ℕ} {packet parsed : Parsed (IGMPMessage ⊕ ByteArray)}
    (hok : checkPacket startPos packet b = .ok (parsed, b')) :
    parsed.packet = packet.packet := by
  rw [checkPacket, get_bind] at hok
  split at hok
  · cases hok
    rfl
  · split at hok
    · cases hok
    · split at hok <;>
      · cases hok
        rfl

theorem readNBytes_length {n : ℕ} {bytes : List UInt8}
    (hok : readNBytes n b = .ok (bytes, b')) : bytes.length = n := by
  induction n generalizing b b' bytes with
  | zero =>
    cases hok
    rfl
  | succ n ih =>
    obtain ⟨byte, next, -, hok⟩ := bind_eq_ok.mp hok
    obtain ⟨rest, last, hrest, hok⟩ := bind_eq_ok.mp hok
    cases hok
    rw [List.length_cons, ih hrest]

theorem readUint_lt {n v : ℕ} (hok : readUint n b = .ok (v, b')) : v < 256 ^ n := by
  obtain ⟨bytes, next, hbytes, hok⟩ := bind_eq_ok.mp hok
  cases hok
  have hlt := ofBigEndian_lt bytes
  rwa [readNBytes_length hbytes] at hlt

theorem deserializeSources_length {n : ℕ} {sources : List IPv4Address}
    (hok : deserializeSources n b = .ok (sources, b')) : sources.length ≤ n := by
  induction n generalizing b b' sources with
  | zero =>
    cases hok
    exact le_rfl
  | succ n ih =>
    rw [deserializeSources, hasError_bind] at hok
    split at hok
    · cases hok
      exact Nat.zero_le _
    · obtain ⟨source, next, -, hok⟩ := bind_eq_ok.mp hok
      obtain ⟨rest, last, hrest, hok⟩ := bind_eq_ok.mp hok
      cases hok
      exact Nat.succ_le_succ (ih hrest)

theorem deserializeGroupRecord_sources {gr : GroupRecord}
    (hok : deserializeGroupRecord b = .ok (gr, b')) : gr.sourceList.length < 65536 := by
  obtain ⟨recordType, _, -, hok⟩ := bind_eq_ok.mp hok
  obtain ⟨auxDataLen, _, -, hok⟩ := bind_eq_ok.mp hok
  obtain ⟨gac, _, hgac, hok⟩ := bind_eq_ok.mp hok
  obtain ⟨groupAddress, _, -, hok⟩ := bind_eq_ok.mp hok
  obtain ⟨sourceList, _, hsources, hok⟩ := bind_eq_ok.mp hok
  obtain ⟨data, _, -, hok⟩ := bind_eq_ok.mp hok
  cases hok
  exact lt_of_le_of_lt (deserializeSources_length hsources) (readUint_lt hgac)

theorem deserializeGroupRecords_bounds {n : ℕ} {grs : List GroupRecord}
    (hok : deserializeGroupRecords n b = .ok (grs, b')) :
    grs.length ≤ n ∧ ∀ gr ∈ grs, gr.sourceList.length < 65536 := by
  induction n generalizing b b' grs with
  | zero =>
    cases hok
    simp
  | succ n ih =>
    rw [deserializeGroupRecords, hasError_bind] at hok
    split at hok
    · cases hok
      simp
    · obtain ⟨gr, next, hgr, hok⟩ := bind_eq_ok.mp hok
      obtain ⟨rest, last, hrest, hok⟩ := bind_eq_ok.mp hok
      cases hok
      obtain ⟨hlength, hsources⟩ := ih hrest
      refine ⟨Nat.succ_le_succ hlength, fun gr' hmem => ?_⟩
      rcases List.mem_cons.mp hmem with rfl | hmem
      · exact deserializeGroupRecord_sources hgr
      · exact hsources gr' hmem

theorem and_seven_le (x : UInt8) : x &&& 7 ≤ 7 := by
  rw [UInt8.le_iff_toNat_le, UInt8.toNat_and]
  exact Nat.and_le_right

variable {pkt : IGMPMessage} {byteLength : ℕ}

theorem deserializeQuery_restorable {code : UInt8} {start b b' : Buffer}
    (hok : deserializeQuery code start b = .ok ((pkt, byteLength), b')) :
    Restorable pkt := by
  rw [deserializeQuery] at hok
  split at hok
  · obtain ⟨groupAddress, _, -, hok⟩ := bind_eq_ok.mp hok
    cases hok
    trivial
  · next hcode =>
    split at hok
    · obtain ⟨groupAddress, _, -, hok⟩ := bind_eq_ok.mp hok
      cases hok
      exact hcode
    · obtain ⟨groupAddress, _, -, hok⟩ := bind_eq_ok.mp hok
      obtain ⟨x, _, -, hok⟩ := bind_eq_ok.mp hok
      obtain ⟨queryIntervalCode, _, -, hok⟩ := bind_eq_ok.mp hok
      obtain ⟨vs, _, -, hok⟩ := bind_eq_ok.mp hok
      rw [get_bind] at hok
      split at hok
      · cases hok
      · cases hok
        exact ⟨hcode, and_seven_le x, rfl⟩

theorem deserializeV3Report_restorable {startPos : ℕ}
    (hok : deserializeV3Report startPos b = .ok ((pkt, byteLength), b')) :
    Restorable pkt := by
  obtain ⟨reserved, _, -, hok⟩ := bind_eq_ok.mp hok
  obtain ⟨s, _, hs, hok⟩ := bind_eq_ok.mp hok
  obtain ⟨groupRecord, _, hrecords, hok⟩ := bind_eq_ok.mp hok
  rw [get_bind] at hok
  cases hok
  obtain ⟨hlength, hsources⟩ := deserializeGroupRecords_bounds hrecords
  exact ⟨lt_of_le_of_lt hlength (readUint_lt hs), hsources⟩

/-- Whatever the bytes are, the message that is read from them is one that can be restored. -/
theorem deserializeMessage_restorable {type code : UInt8} {start b b' : Buffer}
    (hok : deserializeMessage type code start b = .ok (some (pkt, byteLength), b')) :
    Restorable pkt := by
  rw [deserializeMessage] at hok
  split at hok
  · obtain ⟨query, _, hquery, hok⟩ := bind_eq_ok.mp hok
    cases hok
    exact deserializeQuery_restorable hquery
  iterate 3
    split at hok
    · obtain ⟨groupAddress, _, -, hok⟩ := bind_eq_ok.mp hok
      cases hok
      trivial
  split at hok
  · obtain ⟨report, _, hreport, hok⟩ := bind_eq_ok.mp hok
    cases hok
    exact deserializeV3Report_restorable hreport
  · cases hok

variable {parsed : Parsed (IGMPMessage ⊕ ByteArray)}

theorem deserializeUnknown_raw {startPos : ℕ}
    (hok : deserializeUnknown startPos b = .ok (parsed, b'))
    (pkt : IGMPMessage) : parsed.packet ≠ .inl pkt := by
  obtain ⟨-, _, -, hok⟩ := bind_eq_ok.mp hok
  obtain ⟨packet, _, hpacket, hok⟩ := bind_eq_ok.mp hok
  cases packet with
  | none => cases hok
  | some packet =>
    cases hok
    obtain ⟨data, hraw⟩ := SerializerBase.deserializePacket_raw hpacket
    rw [Parsed.setBitError, hraw]
    exact Sum.inr_ne_inl

theorem deserialize_restorable
    (hok : deserialize b = .ok (parsed, b')) (hpkt : parsed.packet = .inl pkt) :
    Restorable pkt := by
  rw [deserialize, get_bind] at hok
  obtain ⟨type, _, -, hok⟩ := bind_eq_ok.mp hok
  obtain ⟨code, _, -, hok⟩ := bind_eq_ok.mp hok
  obtain ⟨chksum, _, -, hok⟩ := bind_eq_ok.mp hok
  obtain ⟨packet, _, hpacket, hcheck⟩ := bind_eq_ok.mp hok
  have hsame : packet.packet = .inl pkt := by rw [← checkPacket_packet hcheck, hpkt]
  obtain ⟨message, _, hmessage, hreturn⟩ := bind_eq_ok.mp hpacket
  cases message with
  | none => exact absurd hsame (deserializeUnknown_raw hreturn pkt)
  | some message =>
    cases hreturn
    cases hsame
    exact deserializeMessage_restorable hmessage

end Returned

/-- The message is what comes back from the bytes that are written for it. -/
def RoundTrip (pkt : IGMPMessage) (space : List UInt8) : Prop :=
  ∃ written, serialize pkt (ofBytes space) = .ok written ∧
    ∃ parsed rest, deserialize (ofBytes written.before) = .ok (parsed, rest) ∧
      parsed.packet = .inl pkt ∧ parsed.byteLength = written.before.length ∧ parsed.bitError = false

theorem serialize_ok (h : Restorable pkt) (b : Buffer) :
    ∃ written, serialize pkt b = .ok written := by
  have hbody : ∃ written, serializeBody pkt b = .ok written := by
    cases pkt with
    | v3Query groupAddress maxRespCode suppressRouterProc robustnessVariable queryIntervalCode
        sourceList =>
      rw [serializeBody, assert_bind h.2.1]
      exact ⟨_, rfl⟩
    | _ => exact ⟨_, rfl⟩
  obtain ⟨written, hwritten⟩ := hbody
  exact ⟨_, bind_eq_ok_iff.mpr ⟨written, hwritten, rfl⟩⟩

/-- A message makes the round trip exactly when it can be restored: version 2 and 3 queries
with a code of 0 come back as version 1 queries, and a list of sources has no place. -/
theorem igmp_roundTrip_iff
    (hspace : wireLength pkt ≤ space.length) : RoundTrip pkt space ↔ Restorable pkt := by
  constructor
  · rintro ⟨written, -, parsed, rest, hdeserialize, hpkt, -, -⟩
    exact deserialize_restorable hdeserialize hpkt
  · intro h
    obtain ⟨written, hwritten⟩ := serialize_ok h (ofBytes space)
    have hbytes := serialize_eq hspace hwritten
    have hchecksum := TCPIPchecksum.checksum_of_written (headBytes pkt) (tailBytes pkt)
      (by rw [headBytes_length])
    have hdeserialize := deserialize_eq h hchecksum
    rw [← hbytes] at hdeserialize
    refine ⟨written, hwritten, _, _, hdeserialize, rfl, ?_, rfl⟩
    rw [hbytes, wireLength]
    simp only [List.length_append, headBytes_length, bigEndian_length]

theorem igmp_roundTrip_iff_leave :
    RoundTrip (.v2Leave 0xE0000105) (List.replicate 8 0) ↔ Restorable (.v2Leave 0xE0000105) :=
  igmp_roundTrip_iff (by decide)

/-- A version 3 query with one source: reading it writes outside of its source list. -/
theorem not_roundTrip_sources : ∃ written,
    serialize (.v3Query 0xE0000105 100 false 2 125 [0x0A000001]) (ofBytes (List.replicate 16 0)) =
      .ok written ∧
    deserialize (ofBytes written.before) = .error .outOfRange ∧
    ¬RoundTrip (.v3Query 0xE0000105 100 false 2 125 [0x0A000001]) (List.replicate 16 0) := by
  have hfault : ∃ written,
      serialize (.v3Query 0xE0000105 100 false 2 125 [0x0A000001]) (ofBytes (List.replicate 16 0)) =
        .ok written ∧ deserialize (ofBytes written.before) = .error .outOfRange :=
    ⟨_, rfl, rfl⟩
  obtain ⟨written, hwritten, hdeserialize⟩ := hfault
  refine ⟨written, hwritten, hdeserialize, ?_⟩
  rintro ⟨written', hwritten', parsed, rest, hok, -⟩
  rw [hwritten] at hwritten'
  cases hwritten'
  rw [hdeserialize] at hok
  cases hok

end IGMPSerializer

end inet.serializer

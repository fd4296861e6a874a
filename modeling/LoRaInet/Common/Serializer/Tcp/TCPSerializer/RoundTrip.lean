import LoRaInet.Common.Serializer.Tcp.TCPSerializer
import Mathlib.Algebra.Order.BigOperators.Group.List

open omnetpp

namespace inet

namespace tcp

/-- The class, the data and the length of an option belong together. -/
def TCPOption.WellFormed (option : TCPOption) : Prop :=
  match option.data with
  | .endOfOptionList | .noOperation => option.length = 1
  | .maxSegmentSize _ => option.length = 4
  | .windowScale windowScale => option.length = 3 ∧ windowScale < 256
  | .sackPermitted => option.length = 2
  | .sack sackItem => option.length = 2 + sackItem.length * 8
  | .timestamp .. => option.length = 10
  | .unknown kind bytes =>
    option.length = 2 + bytes.length ∧ kind < 256 ∧ kind ∉ [0, 1, 2, 3, 4, 5, 8]

instance (option : TCPOption) : Decidable option.WellFormed := by
  unfold TCPOption.WellFormed
  split <;> infer_instance

end tcp

namespace serializer.TCPSerializer

open Buffer Reading tcp

section Bytes

def sackBytes (si : SackItem) : List UInt8 := bigEndian 4 si.start.toNat ++ bigEndian 4 si.endSeq.toNat

/-- What follows the kind and the length of an option. -/
def dataBytes : OptionData → List UInt8
  | .endOfOptionList | .noOperation | .sackPermitted => []
  | .maxSegmentSize maxSegmentSize => bigEndian 2 maxSegmentSize.toNat
  | .windowScale windowScale => [UInt8.ofNat windowScale]
  | .sack sackItem => sackItem.flatMap sackBytes
  | .timestamp senderTimestamp echoedTimestamp =>
    bigEndian 4 senderTimestamp.toNat ++ bigEndian 4 echoedTimestamp.toNat
  | .unknown _ bytes => bytes

def optionBytes (option : TCPOption) : List UInt8 :=
  UInt8.ofNat option.getKind ::
    ((if option.length > 1 then [UInt8.ofNat option.length] else []) ++ dataBytes option.data)

def optionsLength (options : List TCPOption) : ℕ := (options.map (·.length)).sum

/-- The end options that fill up the last four bytes. -/
def paddingOptions (options : List TCPOption) : List TCPOption :=
  List.replicate ((4 - optionsLength options % 4) % 4) TCPOptionEnd

theorem sackBytes_length (sackItem : List SackItem) :
    (sackItem.flatMap sackBytes).length = 8 * sackItem.length := by
  induction sackItem with
  | nil => rfl
  | cons si sackItem ih =>
    rw [List.flatMap_cons, List.length_append, ih, sackBytes, List.length_append, bigEndian_length,
      bigEndian_length, List.length_cons]
    omega

variable {option : TCPOption}

theorem dataBytes_length (h : option.WellFormed) : option.length = 1 ∧ dataBytes option.data = [] ∨
      option.length = 2 + (dataBytes option.data).length := by
  obtain ⟨length, data⟩ := option
  cases data with
  | endOfOptionList | noOperation => exact .inl ⟨h, rfl⟩
  | maxSegmentSize | sackPermitted | timestamp => exact .inr h
  | windowScale | unknown => exact .inr h.1
  | sack sackItem =>
    obtain rfl : length = _ := h
    rw [dataBytes, sackBytes_length, Nat.mul_comm 8]
    exact .inr rfl

theorem optionBytes_length (h : option.WellFormed) :
    (optionBytes option).length = option.length := by
  rw [optionBytes, List.length_cons, List.length_append]
  obtain ⟨hlength, hdata⟩ | hlength := dataBytes_length h
  · rw [if_neg (by omega), hdata, hlength, List.length_nil]
  · rw [if_pos (by omega), List.length_singleton]
    omega

variable {options : List TCPOption}

theorem flatMap_optionBytes_length (h : ∀ option ∈ options, option.WellFormed) :
    (options.flatMap optionBytes).length = optionsLength options := by
  induction options with
  | nil => rfl
  | cons option options ih =>
    rw [List.flatMap_cons, List.length_append, optionBytes_length (h option (.head _)),
      ih fun o ho => h o (List.mem_cons_of_mem option ho)]
    rfl

theorem serializeOptionData_eq (h : option.WellFormed) (b : Buffer) :
    serializeOptionData option b = .ok (writeNBytes (dataBytes option.data) b) := by
  obtain ⟨length, data⟩ := option
  cases data with
  | endOfOptionList | noOperation | sackPermitted | maxSegmentSize => exact assert_bind h
  | windowScale | unknown => exact assert_bind h.1
  | timestamp senderTimestamp echoedTimestamp =>
    refine (assert_bind h).trans (congrArg Except.ok ?_)
    rw [dataBytes, ← writeNBytes_writeNBytes]
    rfl
  | sack sackItem =>
    refine (assert_bind h).trans (congrArg Except.ok ?_)
    rw [dataBytes, ← foldl_writeNBytes]
    simp only [writeUint32, writeNBytes_writeNBytes]
    rfl

theorem serializeOption_eq (h : option.WellFormed) (b : Buffer) :
    serializeOption option b = .ok (writeNBytes (optionBytes option) b) := by
  rw [serializeOption, serializeOptionData_eq h, optionBytes]
  split
  · simp only [writeByte, writeNBytes_writeNBytes]
    rfl
  · simp only [writeByte, writeNBytes_writeNBytes]
    rfl

theorem serializeOptions_eq (h : ∀ option ∈ options, option.WellFormed) (length : ℕ) (b : Buffer) :
    serializeOptions options length b =
      .ok (length + optionsLength options, writeNBytes (options.flatMap optionBytes) b) := by
  induction options generalizing length b with
  | nil => rfl
  | cons option options ih =>
    rw [serializeOptions, serializeOption_eq (h option (.head _))]
    change serializeOptions options (length + option.length) _ = _
    rw [ih fun o ho => h o (List.mem_cons_of_mem option ho), writeNBytes_writeNBytes,
      List.flatMap_cons, Nat.add_assoc]
    rfl

theorem padding_eq (options : List TCPOption) (b : Buffer) : padding (optionsLength options) b =
      writeNBytes ((paddingOptions options).flatMap optionBytes) b := by
  have hbytes : ∀ n, (List.replicate n TCPOptionEnd).flatMap optionBytes = List.replicate n 0 := by
    intro n
    induction n with
    | zero => rfl
    | succ n ih =>
      rw [List.replicate_succ, List.flatMap_cons, ih]
      rfl
  rw [padding, paddingOptions, hbytes]
  split
  · next h =>
    have hcount : (4 - optionsLength options % 4) % 4 = 4 - optionsLength options % 4 := by omega
    rw [fillNBytes, hcount]
  · next h =>
    have hcount : (4 - optionsLength options % 4) % 4 = 0 := by omega
    rw [hcount]
    rfl

end Bytes

theorem reads_word (n v : ℕ) (h : v < 256 ^ n) : Reads (readUint n) (bigEndian n v) v := by
  have hread := reads_readUint n v
  rwa [Nat.mod_eq_of_lt h] at hread

theorem reads_uint16 (v : BitVec 16) : Reads readUint16 (bigEndian 2 v.toNat) v.toNat :=
  reads_word 2 v.toNat (lt_of_lt_of_eq v.isLt (by norm_num))

theorem reads_uint32 (v : uint32) : Reads readUint32 (bigEndian 4 v.toNat) v.toNat :=
  reads_word 4 v.toNat (lt_of_lt_of_eq v.isLt (by norm_num))

theorem reads_deserializeSackItems (sackItem : List SackItem) :
    Reads (deserializeSackItems sackItem.length) (sackItem.flatMap sackBytes) sackItem := by
  induction sackItem with
  | nil => exact Reads.pure []
  | cons si sackItem ih =>
    have hitem : (⟨BitVec.ofNat 32 si.start.toNat, BitVec.ofNat 32 si.endSeq.toNat⟩ : SackItem) =
        si := by simp
    rw [List.flatMap_cons, sackBytes, List.append_assoc]
    refine (reads_uint32 si.start).bind ((reads_uint32 si.endSeq).bind ?_)
    rw [hitem]
    exact ih.map (si :: ·)

theorem reads_deserializeUnknown (kind : UInt8) {length : UInt8} (bytes : List UInt8)
    (h : length.toNat = 2 + bytes.length) :
    Reads (deserializeUnknown kind length) bytes ⟨length.toNat, .unknown kind.toNat bytes⟩ := by
  have hread := (reads_readNBytes bytes).map
    fun bytes => (⟨length.toNat, .unknown kind.toNat bytes⟩ : TCPOption)
  have hcount : length.toNat - 2 = bytes.length := by omega
  rwa [deserializeUnknown, hcount]

/-- An option of more than one byte whose kind and length have been read. -/
theorem reads_deserializeOptionData (h : option.WellFormed)
    (hlong : 1 < option.length) (hfits : option.length < 256) (hsack : option.data ≠ .sack []) :
    Reads (deserializeOptionData (UInt8.ofNat option.getKind) (UInt8.ofNat option.length))
      (dataBytes option.data) option := by
  obtain ⟨length, data⟩ := option
  cases data with
  | endOfOptionList | noOperation =>
    obtain rfl : length = 1 := h
    exact absurd hlong (by decide)
  | maxSegmentSize maxSegmentSize =>
    obtain rfl : length = 4 := h
    have hread := (reads_uint16 maxSegmentSize).map
      fun v => (⟨4, .maxSegmentSize (BitVec.ofNat 16 v)⟩ : TCPOption)
    rwa [BitVec.ofNat_toNat, BitVec.setWidth_eq] at hread
  | windowScale windowScale =>
    obtain ⟨rfl, hscale⟩ : length = 3 ∧ windowScale < 256 := h
    have hread := (reads_readByte (UInt8.ofNat windowScale)).map
      fun v => (⟨3, .windowScale v.toNat⟩ : TCPOption)
    rwa [UInt8.toNat_ofNat_of_lt' hscale] at hread
  | sackPermitted =>
    obtain rfl : length = 2 := h
    exact Reads.pure _
  | sack sackItem =>
    obtain rfl : length = 2 + sackItem.length * 8 := h
    have hlength := UInt8.toNat_ofNat_of_lt' hfits
    have hsome : sackItem.length ≠ 0 := fun hzero =>
      hsack (congrArg OptionData.sack (List.eq_nil_of_length_eq_zero hzero))
    have hmore : UInt8.ofNat (2 + sackItem.length * 8) > 2 := by
      rw [gt_iff_lt, UInt8.lt_iff_toNat_lt, hlength]
      change 2 < 2 + sackItem.length * 8
      omega
    have hrest : UInt8.ofNat (2 + sackItem.length * 8) % 8 = 2 := by
      rw [← UInt8.toNat_inj, UInt8.toNat_mod, hlength]
      change (2 + sackItem.length * 8) % 8 = 2
      omega
    have hcount : (2 + sackItem.length * 8) / 8 = sackItem.length := by omega
    have hread := (reads_deserializeSackItems sackItem).map
      fun items => (⟨2 + sackItem.length * 8, .sack items⟩ : TCPOption)
    have hkind : ∀ {n : UInt8} {p : Prop}, (5 : UInt8) ≠ n → ¬(5 = n ∧ p) := fun hne h => hne h.1
    change Reads (deserializeOptionData 5 (UInt8.ofNat (2 + sackItem.length * 8))) _ _
    rw [deserializeOptionData, if_neg (hkind (by decide)), if_neg (hkind (by decide)), if_neg (hkind (by decide)),
      if_pos ⟨rfl, hmore, hrest⟩, hlength, hcount]
    exact hread
  | timestamp senderTimestamp echoedTimestamp =>
    obtain rfl : length = 10 := h
    refine (reads_uint32 senderTimestamp).bind ?_
    have hread := (reads_uint32 echoedTimestamp).map fun v =>
      (⟨10, .timestamp senderTimestamp (BitVec.ofNat 32 v)⟩ : TCPOption)
    rw [BitVec.ofNat_toNat, BitVec.setWidth_eq] at hread ⊢
    exact hread
  | unknown kind bytes =>
    obtain ⟨rfl, hkind, hunknown⟩ : length = 2 + bytes.length ∧ kind < 256 ∧
      kind ∉ [0, 1, 2, 3, 4, 5, 8] := h
    have hne : ∀ {n : UInt8} {p : Prop}, n.toNat ∈ [0, 1, 2, 3, 4, 5, 8] →
        ¬(UInt8.ofNat kind = n ∧ p) := by
      rintro n p hmem ⟨rfl, -⟩
      rw [UInt8.toNat_ofNat_of_lt' hkind] at hmem
      exact hunknown hmem
    have hlength := UInt8.toNat_ofNat_of_lt' hfits
    have hread := reads_deserializeUnknown (UInt8.ofNat kind) bytes hlength
    rw [hlength, UInt8.toNat_ofNat_of_lt' hkind] at hread
    change Reads (deserializeOptionData (UInt8.ofNat kind) (UInt8.ofNat (2 + bytes.length))) _ _
    rw [deserializeOptionData, if_neg (hne (by decide)), if_neg (hne (by decide)), if_neg (hne (by decide)),
      if_neg (hne (by decide)), if_neg (hne (by decide))]
    exact hread

/-- An option comes back when it is well formed and no block list without blocks. -/
theorem reads_deserializeOption (h : option.WellFormed)
    (hfits : option.length < 256) (hsack : option.data ≠ .sack []) :
    Reads deserializeOption (optionBytes option) option := by
  obtain ⟨hlength, hdata⟩ | hlength := dataBytes_length h
  · obtain ⟨length, data⟩ := option
    obtain rfl : length = 1 := hlength
    cases data with
    | endOfOptionList => exact (reads_readByte 0).bind (Reads.pure _)
    | noOperation => exact (reads_readByte 1).bind (Reads.pure _)
    | maxSegmentSize | windowScale | sackPermitted | timestamp => simp [TCPOption.WellFormed] at h
    | sack | unknown =>
      simp only [TCPOption.WellFormed] at h
      omega
  · have hlong : 1 < option.length := by omega
    have hread := reads_deserializeOptionData h hlong hfits hsack
    have hkind : option.getKind < 256 ∧ option.getKind ≠ 0 ∧ option.getKind ≠ 1 := by
      obtain ⟨length, data⟩ := option
      cases data with
      | endOfOptionList | noOperation =>
        obtain rfl : length = 1 := h
        exact absurd hlong (by decide)
      | maxSegmentSize | windowScale | sackPermitted | sack | timestamp =>
        simp [TCPOption.getKind]
      | unknown kind bytes =>
        obtain ⟨-, hkind, hunknown⟩ : length = 2 + bytes.length ∧ kind < 256 ∧
          kind ∉ [0, 1, 2, 3, 4, 5, 8] := h
        simp only [List.mem_cons, not_or] at hunknown
        exact ⟨hkind, hunknown.1, hunknown.2.1⟩
    have hbyte : ∀ {n : UInt8}, option.getKind ≠ n.toNat → UInt8.ofNat option.getKind ≠ n := by
      rintro n hne rfl
      exact hne (UInt8.toNat_ofNat_of_lt' hkind.1).symm
    rw [optionBytes, if_pos hlong]
    refine (reads_readByte (UInt8.ofNat option.getKind)).bind ?_
    rw [if_neg (hbyte (n := 0) hkind.2.1), if_neg (hbyte (n := 1) hkind.2.2)]
    exact (reads_readByte (UInt8.ofNat option.length)).bind hread

section Segment

variable {l3Addresses : List UInt8} {tcpseg : WireSegment} {space : List UInt8}

theorem deserializeOptions_eq (h : ∀ option ∈ options,
      option.WellFormed ∧ option.length < 256 ∧ option.data ≠ .sack [])
    {fuel : ℕ} (hfuel : (options.flatMap optionBytes).length ≤ fuel) (before : List UInt8) :
    deserializeOptions fuel ⟨before, options.flatMap optionBytes, false⟩ =
      .ok (options, ⟨before ++ options.flatMap optionBytes, [], false⟩) := by
  induction options generalizing fuel before with
  | nil =>
    rw [List.flatMap_nil, List.append_nil]
    cases fuel <;> rfl
  | cons option options ih =>
    obtain ⟨hoption, hshort, hsack⟩ := h option (.head _)
    rw [List.flatMap_cons] at hfuel ⊢
    rw [List.length_append] at hfuel
    have hsome : 0 < (optionBytes option).length := Nat.succ_pos _
    obtain ⟨fuel, rfl⟩ : ∃ n, fuel = n + 1 := Nat.exists_eq_succ_of_ne_zero (by omega)
    have hleft : ¬(getRemainingSize ⟨before, optionBytes option ++ options.flatMap optionBytes,
        false⟩ = 0) := by
      rw [getRemainingSize, List.length_append]
      omega
    rw [deserializeOptions, get_bind, if_neg hleft,
      (reads_deserializeOption hoption hshort hsack).run_bind]
    refine bind_eq_ok.mpr ⟨_, _,
      ih (fun o ho => h o (List.mem_cons_of_mem option ho)) (by omega) _, ?_⟩
    rw [List.append_assoc]
    rfl

theorem readOptions_eq (h : ∀ option ∈ options,
      option.WellFormed ∧ option.length < 256 ∧ option.data ≠ .sack [])
    (before rest : List UInt8) :
    readOptions (options.flatMap optionBytes).length
        ⟨before, options.flatMap optionBytes ++ rest, false⟩ =
      .ok (options, ⟨before, options.flatMap optionBytes ++ rest, false⟩) := by
  have hsub : Buffer.sub ⟨before, options.flatMap optionBytes ++ rest, false⟩
      (options.flatMap optionBytes).length = ⟨[], options.flatMap optionBytes, false⟩ := by
    rw [Buffer.sub, List.take_left]
  rw [readOptions, hsub]
  exact bind_eq_ok_iff.mpr ⟨_, deserializeOptions_eq h le_rfl [], rfl⟩

theorem flags_eq : ∀ finBit synBit rstBit pshBit ackBit urgBit : Bool, ∀ flags : UInt8,
    flags = ((if finBit then TH_FIN else 0) ||| (if synBit then TH_SYN else 0) |||
      (if rstBit then TH_RST else 0) ||| (if pshBit then TH_PUSH else 0) |||
      (if ackBit then TH_ACK else 0) ||| (if urgBit then TH_URG else 0)) →
    decide (flags &&& TH_FIN = TH_FIN) = finBit ∧ decide (flags &&& TH_SYN = TH_SYN) = synBit ∧
      decide (flags &&& TH_RST = TH_RST) = rstBit ∧ decide (flags &&& TH_PUSH = TH_PUSH) = pshBit ∧
      decide (flags &&& TH_ACK = TH_ACK) = ackBit ∧ decide (flags &&& TH_URG = TH_URG) = urgBit := by
  rintro finBit synBit rstBit pshBit ackBit urgBit _ rfl
  revert finBit synBit rstBit pshBit ackBit urgBit
  decide

theorem th_offs_toNat {headerLength : ℕ} (hfour : headerLength % 4 = 0)
    (hmax : headerLength ≤ 60) : (th_offs headerLength).toNat / 16 * 4 = headerLength := by
  rw [th_offs, UInt8.toNat_ofNat_of_lt' (by change _ < 256; omega)]
  omega

/-- The bytes before the checksum. -/
def headBytes (tcpseg : WireSegment) : List UInt8 :=
  bigEndian 2 tcpseg.srcPort.toNat ++ bigEndian 2 tcpseg.destPort.toNat ++
    bigEndian 4 tcpseg.sequenceNo.toNat ++ bigEndian 4 tcpseg.ackNo.toNat ++
    [th_offs tcpseg.headerLength, th_flags tcpseg] ++ bigEndian 2 tcpseg.window.toNat

/-- The options with their padding. -/
def wireOptions (tcpseg : WireSegment) : List TCPOption :=
  tcpseg.headerOption ++ paddingOptions tcpseg.headerOption

/-- The bytes behind the checksum. -/
def tailBytes (tcpseg : WireSegment) : List UInt8 :=
  bigEndian 2 tcpseg.urgentPointer.toNat ++
    ((wireOptions tcpseg).flatMap optionBytes ++ tcpseg.byteArray)

def wireBytes (tcpseg : WireSegment) (sum : ℕ) : List UInt8 :=
  headBytes tcpseg ++ bigEndian 2 sum ++ tailBytes tcpseg

theorem headBytes_length (tcpseg : WireSegment) : (headBytes tcpseg).length = 16 := rfl

theorem reads_readHeader (hfour : tcpseg.headerLength % 4 = 0) (hmax : tcpseg.headerLength ≤ 60)
    {sum : ℕ} (hsum : sum < 65536) :
    Reads readHeader
      (headBytes tcpseg ++ (bigEndian 2 sum ++ bigEndian 2 tcpseg.urgentPointer.toNat))
      ({ tcpseg with headerOption := [], byteArray := [] }, sum) := by
  have hbytes : headBytes tcpseg ++ (bigEndian 2 sum ++ bigEndian 2 tcpseg.urgentPointer.toNat) =
      bigEndian 2 tcpseg.srcPort.toNat ++ (bigEndian 2 tcpseg.destPort.toNat ++
        (bigEndian 4 tcpseg.sequenceNo.toNat ++ (bigEndian 4 tcpseg.ackNo.toNat ++
          ([th_offs tcpseg.headerLength] ++ ([th_flags tcpseg] ++
            (bigEndian 2 tcpseg.window.toNat ++ (bigEndian 2 sum ++
              (bigEndian 2 tcpseg.urgentPointer.toNat ++ [])))))))) := by
    simp [headBytes]
  obtain ⟨hfin, hsyn, hrst, hpsh, hack, hurg⟩ := flags_eq _ _ _ _ _ _ (th_flags tcpseg) rfl
  rw [hbytes]
  refine (reads_uint16 tcpseg.srcPort).bind ?_
  refine (reads_uint16 tcpseg.destPort).bind ?_
  refine (reads_uint32 tcpseg.sequenceNo).bind ?_
  refine (reads_uint32 tcpseg.ackNo).bind ?_
  refine (reads_readByte (th_offs tcpseg.headerLength)).bind ?_
  refine (reads_readByte (th_flags tcpseg)).bind ?_
  refine (reads_uint16 tcpseg.window).bind ?_
  refine (reads_word 2 sum hsum).bind ?_
  refine (reads_uint16 tcpseg.urgentPointer).bind ?_
  simp only [BitVec.ofNat_toNat, BitVec.setWidth_eq, th_offs_toNat hfour hmax, hurg, hack, hpsh,
    hrst, hsyn, hfin]
  exact Reads.pure _

theorem wireOptions_length {tcpseg : WireSegment}
    (hoptions : ∀ option ∈ tcpseg.headerOption, option.WellFormed) :
    ((wireOptions tcpseg).flatMap optionBytes).length =
      (optionsLength tcpseg.headerOption + 3) / 4 * 4 := by
  have hpadding : ∀ n, ((List.replicate n TCPOptionEnd).flatMap optionBytes).length = n := by
    intro n
    induction n with
    | zero => rfl
    | succ n ih =>
      rw [List.replicate_succ, List.flatMap_cons, List.length_append, ih, Nat.add_comm]
      rfl
  rw [wireOptions, List.flatMap_append, List.length_append, flatMap_optionBytes_length hoptions,
    paddingOptions, hpadding]
  omega

section

variable (hoptions : ∀ option ∈ tcpseg.headerOption, option.WellFormed)
include hoptions

open TCPIPchecksum

/-- Room for the segment is all that its serializer needs beyond well-formed options. -/
theorem serialize_eq (hheader : tcpseg.headerLength =
      TCP_HEADER_OCTETS + (optionsLength tcpseg.headerOption + 3) / 4 * 4)
    (hmany : tcpseg.headerOption.length < 65536)
    (hspace : tcpseg.headerLength + tcpseg.byteArray.length ≤ space.length) :
    ∃ after, serialize l3Addresses tcpseg (tcpseg.headerLength + tcpseg.byteArray.length)
      (ofBytes space) = .ok ⟨wireBytes tcpseg
        (checksumWith IP_PROT_TCP (wireBytes tcpseg 0) l3Addresses), after, false⟩ := by
  have hfour : ¬tcpseg.headerLength % 4 ≠ 0 := by
    rw [hheader, TCP_HEADER_OCTETS]
    omega
  have hall : tcpseg.headerOption.take (tcpseg.headerOption.length % 65536) =
      tcpseg.headerOption := by
    rw [Nat.mod_eq_of_lt hmany, List.take_length]
  have hdata : ∀ b, serializeData tcpseg (tcpseg.headerLength + tcpseg.byteArray.length) b =
      .ok (writeNBytes tcpseg.byteArray b) := by
    intro b
    rw [serializeData]
    split
    · next h =>
      have hsome : tcpseg.byteArray.length > 0 := by omega
      have hcount : tcpseg.byteArray.length =
          tcpseg.headerLength + tcpseg.byteArray.length - tcpseg.headerLength := by omega
      simp only [hsome, if_true]
      exact assert_bind hcount
    · next h =>
      have hnone : tcpseg.byteArray = [] := List.eq_nil_of_length_eq_zero (by omega)
      rw [hnone]
      rfl
  have hwritten : writeNBytes tcpseg.byteArray (padding (0 + optionsLength tcpseg.headerOption)
      (writeNBytes (tcpseg.headerOption.flatMap optionBytes)
        (writeNBytes (headerBytes tcpseg) (ofBytes space)))) =
      ⟨wireBytes tcpseg 0, space.drop (wireBytes tcpseg 0).length, false⟩ := by
    have hlength : (wireBytes tcpseg 0).length ≤ space.length := by
      rw [wireBytes, tailBytes, List.length_append, List.length_append, List.length_append,
        List.length_append, wireOptions_length hoptions, headBytes_length, bigEndian_length,
        bigEndian_length]
      rw [hheader, TCP_HEADER_OCTETS] at hspace
      omega
    have hbytes : headerBytes tcpseg ++ (tcpseg.headerOption.flatMap optionBytes ++
        ((paddingOptions tcpseg.headerOption).flatMap optionBytes ++ tcpseg.byteArray)) =
        wireBytes tcpseg 0 := by
      simp only [headerBytes, wireBytes, headBytes, tailBytes, wireOptions, List.flatMap_append,
        List.append_assoc]
    rw [Nat.zero_add, padding_eq, writeNBytes_writeNBytes, writeNBytes_writeNBytes,
      writeNBytes_writeNBytes, hbytes, ofBytes,
      writeNBytes_eq _ _ _ _ hlength, List.nil_append]
  refine ⟨space.drop (wireBytes tcpseg 0).length, ?_⟩
  have hpatch := writeUint16To_before (headBytes tcpseg) (tailBytes tcpseg)
    (space.drop (wireBytes tcpseg 0).length) 0
    (checksumWith IP_PROT_TCP (wireBytes tcpseg 0) l3Addresses) false
  refine (assert_bind rfl).trans ?_
  rw [if_neg hfour]
  refine bind_eq_ok_iff.mpr ⟨_, (congrArg (serializeOptions · 0 _) hall).trans
    (serializeOptions_eq hoptions 0 _), bind_eq_ok_iff.mpr ⟨_, hdata _, ?_⟩⟩
  rw [hwritten]
  exact congrArg Except.ok hpatch

theorem mem_wireOptions (hsack : ∀ option ∈ tcpseg.headerOption, option.data ≠ .sack [])
    (hmax : (optionsLength tcpseg.headerOption + 3) / 4 * 4 ≤ 40) :
    ∀ option ∈ wireOptions tcpseg,
      option.WellFormed ∧ option.length < 256 ∧ option.data ≠ .sack [] := by
  intro option hmem
  obtain hmem | hmem := List.mem_append.mp hmem
  · have hle : option.length ≤ optionsLength tcpseg.headerOption :=
      List.le_sum_of_mem (List.mem_map_of_mem hmem)
    exact ⟨hoptions option hmem, by omega, hsack option hmem⟩
  · obtain rfl := List.eq_of_mem_replicate hmem
    exact ⟨rfl, by decide, by decide⟩

/-- From the bytes behind the fixed header to the end of the options. -/
theorem headerOption_eq (hsack : ∀ option ∈ tcpseg.headerOption, option.data ≠ .sack [])
    (hmax : (optionsLength tcpseg.headerOption + 3) / 4 * 4 ≤ 40) (before rest : List UInt8) :
    (if TCP_HEADER_OCTETS + (optionsLength tcpseg.headerOption + 3) / 4 * 4 > TCP_HEADER_OCTETS then
      readOptions (TCP_HEADER_OCTETS + (optionsLength tcpseg.headerOption + 3) / 4 * 4 -
        TCP_HEADER_OCTETS)
    else pure []) ⟨before, (wireOptions tcpseg).flatMap optionBytes ++ rest, false⟩ =
      .ok (wireOptions tcpseg, ⟨before, (wireOptions tcpseg).flatMap optionBytes ++ rest, false⟩) := by
  have hlength := wireOptions_length hoptions
  have hread := readOptions_eq (mem_wireOptions hoptions hsack hmax) before rest
  rw [hlength] at hread
  rw [Nat.add_sub_cancel_left]
  split
  · exact hread
  · next h =>
    have hnone : wireOptions tcpseg = [] := by
      cases hcases : wireOptions tcpseg with
      | nil => rfl
      | cons option options =>
        rw [hcases, List.flatMap_cons, List.length_append, optionBytes, List.length_cons] at hlength
        omega
    rw [hnone]
    rfl

theorem deserialize_eq (hsack : ∀ option ∈ tcpseg.headerOption, option.data ≠ .sack [])
    (hheader : tcpseg.headerLength =
      TCP_HEADER_OCTETS + (optionsLength tcpseg.headerOption + 3) / 4 * 4)
    (hmax : tcpseg.headerLength ≤ 60) :
    ∃ rest, deserialize l3Addresses (ofBytes (wireBytes tcpseg
        (checksumWith IP_PROT_TCP (wireBytes tcpseg 0) l3Addresses))) =
      .ok (⟨{ tcpseg with headerOption := wireOptions tcpseg },
        tcpseg.headerLength + tcpseg.byteArray.length, false⟩, rest) := by
  generalize hsum : checksumWith IP_PROT_TCP (wireBytes tcpseg 0) l3Addresses = sum
  have hlt : sum < 65536 := by
    rw [← hsum, checksumWith]
    omega
  have hverify : checksumWith IP_PROT_TCP (wireBytes tcpseg sum) l3Addresses = 0 := by
    rw [← hsum]
    exact checksumWith_of_written IP_PROT_TCP l3Addresses (headBytes tcpseg)
      (tailBytes tcpseg) (by rw [headBytes_length])
  have hfour : tcpseg.headerLength % 4 = 0 := by
    rw [hheader, TCP_HEADER_OCTETS]
    omega
  have hshort : (optionsLength tcpseg.headerOption + 3) / 4 * 4 ≤ 40 := by
    rw [hheader, TCP_HEADER_OCTETS] at hmax
    omega
  have hbytes : wireBytes tcpseg sum =
      headBytes tcpseg ++ (bigEndian 2 sum ++ bigEndian 2 tcpseg.urgentPointer.toNat) ++
        ((wireOptions tcpseg).flatMap optionBytes ++ tcpseg.byteArray) := by
    simp only [wireBytes, tailBytes, List.append_assoc]
  have hfixed : (headBytes tcpseg ++ (bigEndian 2 sum ++
      bigEndian 2 tcpseg.urgentPointer.toNat)).length = TCP_HEADER_OCTETS := rfl
  have hfirst : (headBytes tcpseg ++ (bigEndian 2 sum ++ bigEndian 2 tcpseg.urgentPointer.toNat) ++
      (wireOptions tcpseg).flatMap optionBytes).length = tcpseg.headerLength := by
    rw [List.length_append, hfixed, wireOptions_length hoptions, hheader]
  have hsize : (wireBytes tcpseg sum).length = tcpseg.headerLength + tcpseg.byteArray.length := by
    rw [hbytes, ← List.append_assoc, List.length_append, hfirst]
  have hoption := headerOption_eq hoptions hsack hshort
    (headBytes tcpseg ++ (bigEndian 2 sum ++ bigEndian 2 tcpseg.urgentPointer.toNat))
    tcpseg.byteArray
  rw [← hheader] at hoption
  have hseek : seek tcpseg.headerLength
      ⟨headBytes tcpseg ++ (bigEndian 2 sum ++ bigEndian 2 tcpseg.urgentPointer.toNat),
        (wireOptions tcpseg).flatMap optionBytes ++ tcpseg.byteArray, false⟩ =
      .ok ((), ⟨headBytes tcpseg ++ (bigEndian 2 sum ++ bigEndian 2 tcpseg.urgentPointer.toNat) ++
        (wireOptions tcpseg).flatMap optionBytes, tcpseg.byteArray, false⟩) := by
    rw [seek, if_pos (by
      rw [getBufSize, ← List.length_append, ← hbytes, hsize]
      omega), ← List.append_assoc, ← hfirst, List.take_left, List.drop_left]
  have hfinish : ∃ rest, finishSegment l3Addresses
      { tcpseg with headerOption := wireOptions tcpseg, byteArray := [] } sum
      ⟨headBytes tcpseg ++ (bigEndian 2 sum ++ bigEndian 2 tcpseg.urgentPointer.toNat) ++
        (wireOptions tcpseg).flatMap optionBytes, tcpseg.byteArray, false⟩ =
      .ok (⟨{ tcpseg with headerOption := wireOptions tcpseg },
        tcpseg.headerLength + tcpseg.byteArray.length, false⟩, rest) := by
    refine ⟨⟨wireBytes tcpseg sum, [], false⟩, ?_⟩
    have hskip := (reads_accessNBytes tcpseg.byteArray).all
      (headBytes tcpseg ++ (bigEndian 2 sum ++ bigEndian 2 tcpseg.urgentPointer.toNat) ++
        (wireOptions tcpseg).flatMap optionBytes)
    rw [List.append_assoc _ _ tcpseg.byteArray, ← hbytes] at hskip
    rw [finishSegment, get_bind]
    refine bind_eq_ok.mpr ⟨_, _, hskip, ?_⟩
    rw [get_bind]
    have hright : ¬((⟨wireBytes tcpseg sum, [], false⟩ : Buffer).errorFound = true ∨
        (sum ≠ 0 ∧ l3Addresses ≠ [] ∧ checksumWith IP_PROT_TCP
          (wireBytes tcpseg sum ++ []) l3Addresses ≠ 0)) := by
      rw [List.append_nil]
      rintro (herror | ⟨-, -, hwrong⟩)
      · cases herror
      · exact hwrong hverify
    simp only [hright, if_false]
    rw [getBufSize, hfirst]
    rfl
  obtain ⟨rest, hrest⟩ := hfinish
  refine ⟨rest, ?_⟩
  have hstart := (reads_readHeader hfour hmax hlt) []
    ((wireOptions tcpseg).flatMap optionBytes ++ tcpseg.byteArray)
  rw [← hbytes, List.nil_append] at hstart
  exact bind_eq_ok.mpr ⟨_, _, hstart, bind_eq_ok.mpr ⟨_, _, hoption,
    bind_eq_ok.mpr ⟨_, _, hseek, hrest⟩⟩⟩

end

end Segment

section Post

variable {b b' : Buffer}

variable {tcpseg : WireSegment}

variable {l3Addresses : List UInt8}

end Post

/-- The segment comes back with its padding as end options, and without a bit error. -/
def RoundTrip (l3Addresses : List UInt8) (tcpseg : WireSegment) (space : List UInt8) : Prop :=
  ∃ written parsed rest n,
    serialize l3Addresses tcpseg (tcpseg.headerLength + tcpseg.byteArray.length) (ofBytes space) =
      .ok written ∧
    deserialize l3Addresses (ofBytes written.before) = .ok (parsed, rest) ∧
    parsed.packet = { tcpseg with
      headerOption := tcpseg.headerOption ++ List.replicate n TCPOptionEnd } ∧
    parsed.bitError = false

end serializer.TCPSerializer

end inet

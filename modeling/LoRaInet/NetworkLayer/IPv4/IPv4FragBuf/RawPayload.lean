import LoRaInet.Common.RawPacket
import LoRaInet.NetworkLayer.IPv4.IPv4FragBuf

open omnetpp container interval transition

namespace inet

/-- An encapsulated packet, of raw bytes or of a protocol. -/
inductive Encapsulated (P : Type) where
  | raw (rp : RawPacket)
  | packet (p : P)
  deriving DecidableEq

namespace IPv4FragBuf

variable {P : Type}

/-- The raw bytes of a fragment are moved to its offset. -/
def moveToOffset (setByteLength : RawPacket → RawPacket) (datagram : IPv4Datagram (Encapsulated P)) :
    IPv4Datagram (Encapsulated P) :=
  match datagram.encapsulatedPacket with
  | some (.raw rp) =>
    if datagram.fragmentOffset ≠ 0 then
      { datagram with encapsulatedPacket := some (.raw (setByteLength (rp.expandData datagram.fragmentOffset))) }
    else datagram
  | _ => datagram

def mergeRawData (kept datagram : IPv4Datagram (Encapsulated P)) : IPv4Datagram (Encapsulated P) :=
  match kept.encapsulatedPacket, datagram.encapsulatedPacket with
  | some (.raw brp), some (.raw rp) =>
    { kept with encapsulatedPacket := some (.raw
        { brp.copyDataFromBuffer datagram.fragmentOffset rp.bytes with byteLength := rp.data_arraysize }) }
  | _, _ => kept

/-- As `store`, with the bytes of the fragment where both have raw ones. -/
def storeRaw (kept : Option (IPv4Datagram (Encapsulated P))) (datagram : IPv4Datagram (Encapsulated P)) :
    IPv4Datagram (Encapsulated P) :=
  match kept with
  | none => moveToOffset (fun rp => { rp with byteLength := rp.byteLength + datagram.fragmentOffset }) datagram
  | some kept =>
    if kept.encapsulatedPacket.isNone && datagram.encapsulatedPacket.isSome then
      moveToOffset (fun rp => { rp with byteLength := rp.data_arraysize }) datagram
    else mergeRawData kept datagram

/-- `addFragment` for datagrams that may have raw payloads; what is returned is given to the deserializer of the
protocol. -/
def addRawFragment (b : IPv4FragBuf (Encapsulated P)) (datagram : IPv4Datagram (Encapsulated P)) (now : SimTime) :
    Except Fault (IPv4FragBuf (Encapsulated P) × Option (IPv4Datagram (Encapsulated P))) :=
  let key := keyOf datagram
  let buf := b.bufferOf key
  let bytes := datagram.byteLength - datagram.headerLength
  let (reassembly, isComplete) := buf.buf.addFragment datagram.fragmentOffset
    (datagram.fragmentOffset + bytes) (!datagram.moreFragments)
  let stored := storeRaw buf.datagram datagram
  if isComplete then
    if (b.bufs.lookup key).isNone then .error .outOfRange
    else
      let ret := { stored with
        byteLength := stored.headerLength + reassembly.getTotalLength
        fragmentOffset := 0
        moreFragments := false }
      .ok (⟨b.bufs.erase key⟩, some ret)
  else
    let buf := { buf := reassembly, datagram := some stored, lastupdate := now }
    .ok (⟨b.bufs.insert key buf⟩, none)

/-- As `step`, with raw payloads. -/
def rawStep (b : IPv4FragBuf (Encapsulated P)) :
    Event (Encapsulated P) → Option (IPv4FragBuf (Encapsulated P) × Output (Encapsulated P))
  | .addFragment datagram now =>
    (b.addRawFragment datagram now).toOption.map fun (b, ret) => (b, .returned ret)
  | .purgeStaleFragments lastupdate =>
    let (b, datagrams) := b.purgeStaleFragments lastupdate
    some (b, .expired datagrams)

variable (payload : ByteArray)

/-- A fragment with one of the byte ranges that a raw payload was cut into. -/
def CarriesPiece (pieces : List ReassemblyBuffer.Region)
    (f : IPv4Datagram (Encapsulated P)) : Prop :=
  regionOf f ∈ pieces ∧ f.encapsulatedPacket =
    some (.raw (.ofBytes ((payload.drop f.fragmentOffset).take (f.endOffset - f.fragmentOffset))))

/-- What arrives under the key are fragments of the payload. -/
def CarriesPayload (pieces : List ReassemblyBuffer.Region) (key : Key) :
    Event (Encapsulated P) → Prop
  | .addFragment datagram _ => keyOf datagram = key → CarriesPiece payload pieces datagram
  | .purgeStaleFragments _ => True

instance [DecidableEq P] (payload : ByteArray) (pieces : List ReassemblyBuffer.Region) (key : Key) :
    (e : Event (Encapsulated P)) → Decidable (CarriesPayload payload pieces key e)
  | .addFragment _ _ => inferInstanceAs (Decidable (_ → _ ∧ _))
  | .purgeStaleFragments _ => .isTrue trivial

/-- The bytes of the packet in a datagram. -/
def HasPayload (d : IPv4Datagram (Encapsulated P)) : Prop :=
  ∃ rp, d.encapsulatedPacket = some (.raw rp) ∧ rp.bytes = payload.map some

section Collects

variable {payload : ByteArray} {pieces : List ReassemblyBuffer.Region} {key : Key}
  {b b' : IPv4FragBuf (Encapsulated P)} {f d : IPv4Datagram (Encapsulated P)}
  {arrivals : List (IPv4Datagram (Encapsulated P) × SimTime)} {buf : DatagramBuffer (Encapsulated P)} {now : SimTime}

/-- Where the fragment ends that arrived first. -/
def firstEnd (arrivals : List (IPv4Datagram (Encapsulated P) × SimTime)) : ℕ :=
  (arrivals.getLast?.map fun p => p.1.endOffset).getD 0

/-- The datagram has the bytes that have arrived, up to where the first of the fragments ended. -/
def KeepsBytes (payload : ByteArray) (arrivals : List (IPv4Datagram (Encapsulated P) × SimTime))
    (d : IPv4Datagram (Encapsulated P)) : Prop :=
  ∃ rp, d.encapsulatedPacket = some (.raw rp) ∧
    rp.HasBytes payload (covered (arrivals.map fun p => p.1)) (firstEnd arrivals)

structure CollectsRaw (payload : ByteArray) (pieces : List ReassemblyBuffer.Region)
    (arrivals : List (IPv4Datagram (Encapsulated P) × SimTime)) (buf : DatagramBuffer (Encapsulated P)) : Prop where
  kept : ∃ d, buf.datagram = some d ∧ KeepsBytes payload arrivals d
  holds : payload.length < 65536 →
    ReassemblyBuffer.Holds pieces payload.length (regionsOf arrivals) buf.buf
  lastupdate : ∃ d rest, arrivals = (d, buf.lastupdate) :: rest

theorem covered_cons : covered (f :: arrivals.map fun p => p.1) =
    Set.Ico f.fragmentOffset f.endOffset ∪ covered (arrivals.map fun p => p.1) := by
  ext x
  simp [covered]

theorem moveToOffset_keepsBytes {setByteLength : RawPacket → RawPacket}
    (hset : ∀ rp, (setByteLength rp).data = rp.data ∧ (setByteLength rp).data_arraysize = rp.data_arraysize)
    (hpieces : ReassemblyBuffer.Pieces pieces payload.length) (hf : CarriesPiece payload pieces f) :
    KeepsBytes payload [(f, now)] (moveToOffset setByteLength f) := by
  obtain ⟨hmem, hpacket⟩ := hf
  obtain ⟨-, hlt, hle⟩ := hpieces.partition.bounds hmem
  have hbytes := @RawPacket.hasBytes_expandData payload f.fragmentOffset f.endOffset hlt.le hle
  have hcovered : covered ([(f, now)].map fun p => p.1) = Set.Ico f.fragmentOffset f.endOffset := by
    ext x
    simp [covered]
  unfold KeepsBytes moveToOffset
  rw [hpacket, hcovered]
  dsimp only
  split
  · obtain ⟨hdata, hsize⟩ := hset (RawPacket.expandData
      (.ofBytes ((payload.drop f.fragmentOffset).take (f.endOffset - f.fragmentOffset))) f.fragmentOffset)
    exact ⟨_, rfl, hbytes.congr hdata hsize⟩
  · next hzero =>
    refine ⟨_, hpacket, ?_⟩
    rw [not_not.mp hzero] at hbytes ⊢
    rw [RawPacket.expandData_zero] at hbytes
    exact hbytes

theorem mergeRawData_keepsBytes (hpieces : ReassemblyBuffer.Pieces pieces payload.length)
    (hf : CarriesPiece payload pieces f) (hd : KeepsBytes payload arrivals d) (hne : arrivals ≠ []) :
    KeepsBytes payload ((f, now) :: arrivals) (mergeRawData d f) := by
  obtain ⟨hmem, hpacket⟩ := hf
  obtain ⟨rp, hrp, hbytes⟩ := hd
  obtain ⟨-, hlt, hle⟩ := hpieces.partition.bounds hmem
  have hfirst : firstEnd ((f, now) :: arrivals) = firstEnd arrivals := by
    unfold firstEnd
    rw [List.getLast?_cons_of_ne_nil hne]
  unfold mergeRawData KeepsBytes
  rw [hrp, hpacket, hfirst, List.map_cons, covered_cons]
  exact ⟨_, rfl, (hbytes.copyDataFromBuffer hlt.le hle).congr rfl rfl⟩

/-- The fragment is kept, moved to its offset or merged with what is there. -/
theorem storeRaw_keepsBytes (hpieces : ReassemblyBuffer.Pieces pieces payload.length)
    (hf : CarriesPiece payload pieces f) {kept : Option (IPv4Datagram (Encapsulated P))}
    (hkept : kept = none ∧ arrivals = [] ∨ ∃ d, kept = some d ∧ KeepsBytes payload arrivals d ∧ arrivals ≠ []) :
    KeepsBytes payload ((f, now) :: arrivals) (storeRaw kept f) := by
  rcases hkept with ⟨rfl, rfl⟩ | ⟨d, rfl, hd, hne⟩
  · exact moveToOffset_keepsBytes (fun rp => ⟨rfl, rfl⟩) hpieces hf
  · have hraw : d.encapsulatedPacket.isNone = false := by
      obtain ⟨rp, hrp, -⟩ := hd
      rw [hrp]
      rfl
    unfold storeRaw
    dsimp only
    rw [hraw, Bool.false_and, if_neg Bool.false_ne_true]
    exact mergeRawData_keepsBytes hpieces hf hd hne

/-- What the buffer of the key has, and that there is none when nothing is pending. -/
structure RawInvariant (payload : ByteArray) (pieces : List ReassemblyBuffer.Region) (key : Key)
    (b : IPv4FragBuf (Encapsulated P)) (arrivals : List (IPv4Datagram (Encapsulated P) × SimTime)) : Prop where
  empty : b.bufs.lookup key = none → arrivals = []
  collects : ∀ buf, b.bufs.lookup key = some buf → CollectsRaw payload pieces arrivals buf

theorem RawInvariant.bufferOf (h : RawInvariant payload pieces key b arrivals)
    (hpieces : ReassemblyBuffer.Pieces pieces payload.length) (hpositive : 0 < payload.length) :
    ((b.bufferOf key).datagram = none ∧ arrivals = [] ∨
      ∃ d, (b.bufferOf key).datagram = some d ∧ KeepsBytes payload arrivals d ∧ arrivals ≠ []) ∧
    (payload.length < 65536 →
      ReassemblyBuffer.Holds pieces payload.length (regionsOf arrivals) (b.bufferOf key).buf) := by
  unfold IPv4FragBuf.bufferOf
  cases hlookup : b.bufs.lookup key with
  | none =>
    have hempty := h.empty hlookup
    refine ⟨.inl ⟨rfl, hempty⟩, fun _ => ?_⟩
    have hregions : regionsOf arrivals = ∅ := by
      rw [hempty]
      simp [regionsOf]
    rw [hregions]
    exact ReassemblyBuffer.holds_new hpieces hpositive
  | some buf =>
    obtain ⟨⟨d, hd, hkeeps⟩, hholds, _, _, harrivals⟩ := h.collects buf hlookup
    refine ⟨.inr ⟨d, hd, hkeeps, ?_⟩, hholds⟩
    rw [harrivals]
    exact List.cons_ne_nil _ _

variable {ret : Option (IPv4Datagram (Encapsulated P))}

theorem RawInvariant.addRawFragment (h : RawInvariant payload pieces key b arrivals)
    (hpieces : ReassemblyBuffer.Pieces pieces payload.length) (hkey : keyOf f = key)
    (hf : CarriesPiece payload pieces f)
    (hcall : b.addRawFragment f now = .ok (b', ret)) :
    (ret = none → RawInvariant payload pieces key b' ((f, now) :: arrivals)) ∧
    (∀ d, ret = some d → RawInvariant payload pieces key b' [] ∧ KeepsBytes payload ((f, now) :: arrivals) d ∧
      (payload.length < 65536 → ∀ x < payload.length, x ∈ covered (f :: arrivals.map fun p => p.1))) := by
  subst hkey
  obtain ⟨-, hlt, hle⟩ := hpieces.partition.bounds hf.1
  obtain ⟨hkept, hholds⟩ := h.bufferOf hpieces (by omega)
  have hstored := @storeRaw_keepsBytes P payload pieces f arrivals now hpieces hf _ hkept
  have hinsert : insert (regionOf f) (regionsOf arrivals) = regionsOf ((f, now) :: arrivals) := by
    ext r
    simp [regionsOf, eq_comm]
  have hadd (hlength : payload.length < 65536) := (hholds hlength).addFragment hpieces hlength hf.1
  rw [hinsert] at hadd
  unfold IPv4FragBuf.addRawFragment at hcall
  dsimp only [regionOf, IPv4Datagram.endOffset] at hadd hcall
  generalize ReassemblyBuffer.addFragment _ _ _ _ = result at *
  obtain ⟨reassembly, isComplete⟩ := result
  generalize storeRaw _ f = stored at *
  cases isComplete with
  | true =>
    rw [if_pos rfl] at hcall
    split at hcall
    · cases hcall
    · cases hcall
      refine ⟨fun hnone => (by cases hnone), fun d hd => ?_⟩
      cases hd
      refine ⟨⟨fun _ => rfl, fun buf hlookup => ?_⟩, hstored, fun hlength x hx => ?_⟩
      · rw [Map.lookup_erase_eq, if_pos rfl] at hlookup
        cases hlookup
      · have hall := (hadd hlength).2.1.mp rfl
        obtain ⟨r, hr, hbounds⟩ := hpieces.partition.exists_mem (Nat.zero_le x) hx
        obtain ⟨p, hp, rfl⟩ := hall r hr
        have hmem : p.1 ∈ ((f, now) :: arrivals).map fun p => p.1 := List.mem_map_of_mem hp
        exact ⟨p.1, hmem, hbounds⟩
  | false =>
    rw [if_neg Bool.false_ne_true] at hcall
    cases hcall
    refine ⟨fun _ => ⟨fun hlookup => ?_, fun buf hlookup => ?_⟩, fun d hd => by cases hd⟩
    · rw [Map.lookup_insert_eq, if_pos rfl] at hlookup
      cases hlookup
    · rw [Map.lookup_insert_eq, if_pos rfl] at hlookup
      cases hlookup
      exact ⟨⟨stored, rfl, hstored⟩, fun hlength => (hadd hlength).1, f, arrivals, rfl⟩

theorem lookup_addRawFragment (hkey : keyOf f ≠ key)
    (hcall : b.addRawFragment f now = .ok (b', ret)) : b'.bufs.lookup key = b.bufs.lookup key := by
  unfold IPv4FragBuf.addRawFragment at hcall
  dsimp only at hcall
  generalize ReassemblyBuffer.addFragment _ _ _ _ = result at hcall
  obtain ⟨reassembly, isComplete⟩ := result
  split at hcall
  · split at hcall
    · cases hcall
    · cases hcall
      rw [Map.lookup_erase_eq, if_neg (Ne.symm hkey)]
  · cases hcall
    rw [Map.lookup_insert_eq, if_neg (Ne.symm hkey)]

theorem RawInvariant.purgeStaleFragments {lastupdate : SimTime}
    {arrivals' : List (IPv4Datagram (Encapsulated P) × SimTime)}
    (h : RawInvariant payload pieces key b arrivals) (hnil : arrivals = [] → arrivals' = [])
    (hcons : ∀ datagram now rest, arrivals = (datagram, now) :: rest →
      arrivals' = if now < lastupdate then [] else (datagram, now) :: rest) :
    RawInvariant payload pieces key (b.purgeStaleFragments lastupdate).1 arrivals' := by
  refine ⟨fun hlookup => ?_, fun buf hlookup => ?_⟩
  all_goals rw [IPv4FragBuf.purgeStaleFragments, Map.lookup_filter] at hlookup
  · cases hbuf : b.bufs.lookup key with
    | none => exact hnil (h.empty hbuf)
    | some buf =>
      obtain ⟨-, -, d, rest, heq⟩ := h.collects buf hbuf
      rw [hbuf] at hlookup
      have hold : buf.lastupdate < lastupdate := by
        by_contra hnot
        simp [hnot] at hlookup
      rw [hcons d buf.lastupdate rest heq]
      exact if_pos hold
  · obtain ⟨hbuf, hnew⟩ := Option.filter_eq_some_iff.mp hlookup
    have hcollects := h.collects buf hbuf
    obtain ⟨d, rest, heq⟩ := hcollects.lastupdate
    have hsame := hcons d buf.lastupdate rest heq
    rw [if_neg (by simpa using hnew), ← heq] at hsame
    exact hsame ▸ hcollects

theorem rawInvariant_of_run (hpieces : ReassemblyBuffer.Pieces pieces payload.length) {history}
    (hrun : Run (· = new) (StepOf rawStep) history b)
    (harrive : Always (fun _ l => CarriesPayload payload pieces key l.1) history) :
    RawInvariant payload pieces key b (pending key history) := by
  induction hrun with
  | init hinit =>
    subst hinit
    exact ⟨fun _ => rfl, fun buf hlookup => by cases hlookup⟩
  | @step history s s' l hrun hstep ih =>
    obtain ⟨e, output⟩ := l
    obtain ⟨hearlier, hnow⟩ := harrive
    have h := ih hearlier
    have htaken : rawStep s e = some (s', output) := hstep
    cases e with
    | addFragment f now =>
      unfold rawStep at htaken
      dsimp only at htaken
      rw [Option.map_eq_some_iff] at htaken
      obtain ⟨⟨b', ret⟩, hcall, heq⟩ := htaken
      cases heq
      rw [toOption_eq_some] at hcall
      have hpending : pending key ((.addFragment f now, .returned ret) :: history) =
          afterFragment (fun key => pending key history) f now ret.isSome key := congrFun pending_returned key
      unfold afterFragment at hpending
      rw [hpending]
      by_cases hkey : keyOf f = key
      · rw [if_pos hkey]
        obtain ⟨hmore, hreturned⟩ := h.addRawFragment hpieces hkey (hnow hkey) hcall
        cases ret with
        | none => exact hmore rfl
        | some d => exact (hreturned d rfl).1
      · have hsame := lookup_addRawFragment hkey hcall
        rw [if_neg hkey]
        exact ⟨fun hlookup => h.empty (hsame ▸ hlookup), fun buf hlookup => h.collects buf (hsame ▸ hlookup)⟩
    | purgeStaleFragments lastupdate =>
      cases htaken
      refine h.purgeStaleFragments (fun hnil => ?_) fun datagram now rest hcons => ?_
      · rw [pending, hnil]
      · rw [pending, hcons]

end Collects

/-- A datagram that is returned has the payload exactly when the fragment that arrived first is the last one of the
payload; from 2^16 bytes on the offsets do not fit, and the fragments must all have arrived as well. -/
theorem raw_payload_reassembled_iff {payload : ByteArray} {pieces : List ReassemblyBuffer.Region} {key : Key}
    (hpieces : ReassemblyBuffer.Pieces pieces payload.length) {history} {b b' : IPv4FragBuf (Encapsulated P)}
    (hrun : Run (· = new) (StepOf rawStep) history b)
    (harrive : Always (fun _ l => CarriesPayload payload pieces key l.1) history)
    {f ret : IPv4Datagram (Encapsulated P)} (hkey : keyOf f = key) (hf : CarriesPiece payload pieces f) {now : SimTime}
    (hcall : b.addRawFragment f now = .ok (b', some ret)) :
    HasPayload payload ret ↔ firstEnd ((f, now) :: pending key history) = payload.length ∧
      (payload.length < 65536 ∨
        ∀ x < payload.length, x ∈ covered (f :: (pending key history).map fun p => p.1)) := by
  obtain ⟨-, hreturned⟩ := (rawInvariant_of_run hpieces hrun harrive).addRawFragment hpieces hkey hf hcall
  obtain ⟨-, ⟨rp, hrp, hbytes⟩, hcovered⟩ := hreturned ret rfl
  have hiff : HasPayload payload ret ↔ rp.bytes = payload.map some := by
    constructor
    · rintro ⟨rp', hrp', hbytes'⟩
      obtain rfl : rp' = rp := by
        rw [hrp] at hrp'
        cases hrp'
        rfl
      exact hbytes'
    · exact fun hbytes' => ⟨rp, hrp, hbytes'⟩
  rw [hiff, hbytes.bytes_eq_iff]
  refine and_congr_right fun _ => ⟨.inr, ?_⟩
  rintro (hlength | hall)
  · exact hcovered hlength
  · exact hall

/-- A fragment of a payload with a header of 20 bytes. -/
def rawFragment (offset : ℕ) (bytes : ByteArray) (more : Bool) : IPv4Datagram (Encapsulated Unit) where
  name := "raw"
  headerLength := 20
  byteLength := 20 + bytes.length
  srcAddress := 1
  destAddress := 2
  timeToLive := 32
  identification := 7
  moreFragments := more
  dontFragment := false
  fragmentOffset := offset
  encapsulatedPacket := some (.raw (.ofBytes bytes))

def twoPieces : List ReassemblyBuffer.Region := [⟨0, 8, false⟩, ⟨8, 10, true⟩]

theorem pieces_twoPieces : ReassemblyBuffer.Pieces twoPieces 10 where
  partition := ⟨rfl, by decide, rfl, by decide, rfl⟩
  islast := by decide

def tenBytes : ByteArray := [1, 2, 3, 4, 5, 6, 7, 8, 9, 10]

def firstFragment : IPv4Datagram (Encapsulated Unit) := rawFragment 0 [1, 2, 3, 4, 5, 6, 7, 8] true

def lastFragment : IPv4Datagram (Encapsulated Unit) := rawFragment 8 [9, 10] false

theorem carriesPiece_first : CarriesPiece tenBytes twoPieces firstFragment := ⟨by decide, by decide⟩

theorem carriesPiece_last : CarriesPiece tenBytes twoPieces lastFragment := ⟨by decide, by decide⟩

/-- What is returned for a fragment. -/
def returnedFor (b : IPv4FragBuf (Encapsulated Unit)) (f : IPv4Datagram (Encapsulated Unit)) :
    Option (IPv4Datagram (Encapsulated Unit)) :=
  (b.addRawFragment f 2).toOption.bind fun r => r.2

theorem exists_returned {b : IPv4FragBuf (Encapsulated Unit)} {f ret : IPv4Datagram (Encapsulated Unit)}
    (h : returnedFor b f = some ret) : ∃ b', b.addRawFragment f 2 = .ok (b', some ret) := by
  unfold returnedFor at h
  obtain ⟨⟨b', ret'⟩, hcall, heq⟩ := Option.bind_eq_some_iff.mp h
  rw [toOption_eq_some] at hcall
  dsimp only at heq
  subst heq
  exact ⟨b', hcall⟩

/-- The last fragment arrives first. -/
theorem raw_payload_reassembled_iff_reversed :
    ∃ (b b' : IPv4FragBuf (Encapsulated Unit)) (ret : IPv4Datagram (Encapsulated Unit)),
      b.addRawFragment firstFragment 2 = .ok (b', some ret) ∧ HasPayload tenBytes ret := by
  obtain ⟨b, history, hrun, harrive, hfirst, hreturned⟩ := exists_run_of_execute rawStep new
    [.addFragment lastFragment 1]
    (fun b history => Always (fun _ l => CarriesPayload tenBytes twoPieces (keyOf firstFragment) l.1) history ∧
      firstEnd ((firstFragment, 2) :: pending (keyOf firstFragment) history) = 10 ∧
      (returnedFor b firstFragment).isSome = true)
    (by decide +kernel)
  obtain ⟨ret, hret⟩ := Option.isSome_iff_exists.mp hreturned
  obtain ⟨b', hcall⟩ := exists_returned hret
  exact ⟨b, b', ret, hcall, (raw_payload_reassembled_iff pieces_twoPieces hrun harrive rfl carriesPiece_first
    hcall).mpr ⟨hfirst, .inl (by decide)⟩⟩

/-- In order, what the second fragment adds is lost. -/
theorem not_raw_payload_reassembled : ¬∀ (payload : ByteArray) (pieces : List ReassemblyBuffer.Region) (key : Key)
    (b b' : IPv4FragBuf (Encapsulated Unit)) (history : List (Event (Encapsulated Unit) × Output (Encapsulated Unit)))
    (f ret : IPv4Datagram (Encapsulated Unit)) (now : SimTime), ReassemblyBuffer.Pieces pieces payload.length →
      Run (· = new) (StepOf rawStep) history b →
      Always (fun _ l => CarriesPayload payload pieces key l.1) history → keyOf f = key →
      CarriesPiece payload pieces f → b.addRawFragment f now = .ok (b', some ret) → HasPayload payload ret := by
  intro hall
  obtain ⟨b, history, hrun, harrive, hreturned⟩ := exists_run_of_execute rawStep new
    [.addFragment firstFragment 1]
    (fun b history => Always (fun _ l => CarriesPayload tenBytes twoPieces (keyOf lastFragment) l.1) history ∧
      returnedFor b lastFragment = some { rawFragment 0 [1, 2, 3, 4, 5, 6, 7, 8] false with
        byteLength := 30
        encapsulatedPacket := some (.raw { RawPacket.ofBytes tenBytes with data_arraysize := 8, byteLength := 2 }) })
    (by decide +kernel)
  obtain ⟨b', hcall⟩ := exists_returned hreturned
  obtain ⟨rp, hrp, hbytes⟩ := hall tenBytes twoPieces _ b b' history lastFragment _ 2 pieces_twoPieces hrun harrive rfl
    carriesPiece_last hcall
  cases hrp
  revert hbytes
  decide

end IPv4FragBuf

end inet

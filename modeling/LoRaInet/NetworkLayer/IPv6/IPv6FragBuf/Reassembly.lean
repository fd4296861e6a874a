import LoRaInet.NetworkLayer.IPv6.IPv6FragBuf

open omnetpp container interval transition

namespace inet.IPv6FragBuf

open IPv6 IPv6Datagram IPv6ExtensionHeader

variable {P : Type} {o f : IPv6Packet P} {id : uint32} {mtu : ℤ}

def headerLength (o : IPv6Packet P) : ℕ := calculateUnfragmentableHeaderByteLength o.extensionHeader

/-- The bytes of the payload that a fragment carries. -/
def regionOf (o f : IPv6Packet P) : ReassemblyBuffer.Region :=
  match findFragmentHeader f.extensionHeader with
  | some fh => {
      beg := fh.fragmentOffset.toNat
      endOffset := fh.fragmentOffset.toNat + (f.byteLength - (headerLength o + 8))
      islast := !fh.moreFragments }
  | none => { beg := 0, endOffset := 0, islast := false }

/-- A datagram that is cut into fragments whose lengths and offsets the receiver can read. -/
structure Cut (o : IPv6Packet P) (mtu : ℤ) : Prop where
  splits : Splits o.extensionHeader
  positive : 0 < fragmentLength mtu (headerLength o)
  big : (headerLength o + 8 + (fragmentLength mtu (headerLength o)).toNat : ℤ) < o.byteLength
  length : payloadLength o ≤ 65535

/-- What the fragment at an offset is to the receiver. -/
structure FragmentAt (o : IPv6Packet P) (id : uint32) (f : IPv6Packet P) (r : ReassemblyBuffer.Region) :
    Prop where
  header : findFragmentHeader f.extensionHeader = some ⟨BitVec.ofNat 16 r.beg, !r.islast, id⟩
  length : calculateFragmentLength f = .ok ((r.endOffset - r.beg : ℕ) : ℤ)
  lt : r.beg < r.endOffset
  le : r.endOffset ≤ payloadLength o
  dvd : r.islast = false → 8 ∣ r.endOffset - r.beg
  src : f.srcAddress = o.srcAddress
  dest : f.destAddress = o.destAddress
  extensionHeader : removeExtensionHeader IP_PROT_IPv6EXT_FRAGMENT f.extensionHeader = o.extensionHeader
  first : r.beg = 0 → f = { o with
    extensionHeader := f.extensionHeader
    name := o.name ++ "-frag"
    byteLength := f.byteLength }

section Headers

variable {headers : List IPv6ExtensionHeader} {offset : BitVec 16} {more : Bool}

theorem inFront_free (hfree : ∀ eh ∈ headers, isFragmentHeader eh = false) :
    ∀ eh ∈ inFront headers, ¬ eh.getExtensionType = IP_PROT_IPv6EXT_FRAGMENT := by
  intro eh heh htype
  have hfalse := hfree eh ((List.takeWhile_sublist _).subset heh)
  rw [isFragmentHeader, htype] at hfalse
  simp at hfalse

theorem findFragmentHeader_eq (hfree : ∀ eh ∈ headers, isFragmentHeader eh = false) :
    findFragmentHeader (inFront headers ++ .fragment offset more id :: behind headers) =
      some ⟨offset, more, id⟩ := by
  unfold findFragmentHeader
  rw [List.find?_append, List.find?_eq_none.mpr (by simpa using inFront_free hfree)]
  rfl

theorem removeExtensionHeader_eq (hfree : ∀ eh ∈ headers, isFragmentHeader eh = false) :
    removeExtensionHeader IP_PROT_IPv6EXT_FRAGMENT
      (inFront headers ++ .fragment offset more id :: behind headers) = headers := by
  unfold removeExtensionHeader
  rw [List.eraseP_append_right _ (by simpa using inFront_free hfree),
    List.eraseP_cons_of_pos (by simp [getExtensionType, IP_PROT_IPv6EXT_FRAGMENT])]
  exact inFront_append_behind

theorem lengthBehindFragmentHeader_eq {front back : List IPv6ExtensionHeader} {len : ℤ}
    (hfront : ∀ eh ∈ front, ¬ eh.getExtensionType = IP_PROT_IPv6EXT_FRAGMENT) :
    lengthBehindFragmentHeader (front ++ .fragment offset more id :: back) len =
      .ok (len - byteLengths front - 8) := by
  induction front generalizing len with
  | nil =>
    unfold lengthBehindFragmentHeader
    simp [getExtensionType, IP_PROT_IPv6EXT_FRAGMENT, byteLengths, getByteLength]
  | cons eh front ih =>
    obtain ⟨heh, hrest⟩ := List.forall_mem_cons.mp hfront
    rw [List.cons_append, lengthBehindFragmentHeader, if_neg heh, ih hrest]
    simp only [byteLengths, List.map_cons, List.sum_cons, Nat.cast_add]
    congr 1
    ring

end Headers

section Fragments

variable {length x : ℕ}

/-- The part of the payload at an offset. -/
def regionAt (payload length x : ℕ) : ReassemblyBuffer.Region where
  beg := x
  endOffset := min payload (x + length)
  islast := x + length ≥ payload

theorem regionOf_fragmentOf (hfree : ∀ eh ∈ o.extensionHeader, isFragmentHeader eh = false)
    (hx : x < payloadLength o) (hlength : payloadLength o ≤ 65535) :
    regionOf o (fragmentOf o id (headerLength o) (payloadLength o) length x) =
      regionAt (payloadLength o) length x := by
  have hsmall : x % 2 ^ 16 = x := Nat.mod_eq_of_lt (by omega)
  unfold regionOf fragmentOf regionAt
  simp only
  rw [findFragmentHeader_eq hfree]
  simp only [BitVec.toNat_ofNat, hsmall, Bool.not_not, ReassemblyBuffer.Region.mk.injEq, true_and,
    and_true]
  split
  · next hlast =>
    have hlast := of_decide_eq_true hlast
    omega
  · next hlast =>
    have hlast : ¬ x + length ≥ payloadLength o := fun h => hlast (decide_eq_true h)
    omega

theorem Cut.mem_fragmentsOf (h : Cut o mtu) (hf : f ∈ fragmentsOf o id mtu) :
    ∃ x < payloadLength o, f = fragmentOf o id (headerLength o) (payloadLength o)
      (fragmentLength mtu (headerLength o)).toNat x := by
  obtain ⟨-, hdvd, -⟩ := fragmentLength_spec h.positive
  obtain ⟨x, hx, rfl⟩ := List.mem_map.mp hf
  exact ⟨x, (mem_offsets hdvd (dvd_zero 8) hx).2, rfl⟩

theorem Cut.fragmentAt (h : Cut o mtu) (hf : f ∈ fragmentsOf o id mtu) :
    FragmentAt o id f (regionOf o f) := by
  obtain ⟨hpositive, hdvd, -⟩ := fragmentLength_spec h.positive
  obtain ⟨x, hxlt, rfl⟩ := h.mem_fragmentsOf hf
  clear hf
  generalize (fragmentLength mtu (headerLength o)).toNat = length at *
  rw [regionOf_fragmentOf h.splits.free hxlt h.length]
  have hbytes : headerLength o = 40 + byteLengths (inFront o.extensionHeader) := by
    rw [headerLength, calculateUnfragmentableHeaderByteLength, h.splits.same]
  refine ⟨findFragmentHeader_eq h.splits.free, ?_, ?_, min_le_left _ _, ?_, rfl, rfl,
    removeExtensionHeader_eq h.splits.free, ?_⟩
  · unfold calculateFragmentLength fragmentOf regionAt IPv6_HEADER_BYTES
    simp only
    rw [lengthBehindFragmentHeader_eq (inFront_free h.splits.free), hbytes]
    congr 1
    split
    · next hlast =>
      have hlast := of_decide_eq_true hlast
      omega
    · next hlast =>
      have hlast : ¬ x + length ≥ payloadLength o := fun h => hlast (decide_eq_true h)
      omega
  · unfold regionAt
    dsimp only
    omega
  · unfold regionAt
    intro hlast
    have hlast := of_decide_eq_false hlast
    rw [min_eq_right (by omega), Nat.add_sub_cancel_left]
    exact hdvd
  · unfold regionAt fragmentOf
    rintro rfl
    rfl

theorem Cut.pieces (h : Cut o mtu) :
    ReassemblyBuffer.Pieces ((fragmentsOf o id mtu).map (regionOf o)) (payloadLength o) := by
  obtain ⟨hpositive, hdvd, -⟩ := fragmentLength_spec h.positive
  have hbig := h.big
  have hlt : 0 < payloadLength o := by
    unfold payloadLength
    change 0 < o.byteLength - headerLength o
    omega
  have hmap : (fragmentsOf o id mtu).map (regionOf o) =
      (offsets (payloadLength o) (fragmentLength mtu (headerLength o)).toNat
        ((payloadLength o + (fragmentLength mtu (headerLength o)).toNat - 1) /
          (fragmentLength mtu (headerLength o)).toNat) 0).map
        (regionAt (payloadLength o) (fragmentLength mtu (headerLength o)).toNat) := by
    unfold fragmentsOf
    rw [List.map_map]
    refine List.map_congr_left fun x hx => ?_
    exact regionOf_fragmentOf h.splits.free (mem_offsets hdvd (dvd_zero 8) hx).2 h.length
  rw [hmap]
  generalize (fragmentLength mtu (headerLength o)).toNat = length at *
  have hdiv := Nat.div_add_mod (payloadLength o + length - 1) length
  have hmod := Nat.mod_lt (payloadLength o + length - 1) hpositive
  rw [mul_comm] at hdiv
  refine ⟨?_, fun r hr => ?_⟩
  · rw [partition_map]
    exact offsets_partition hpositive (by omega) hlt
  · obtain ⟨x, hx, rfl⟩ := List.mem_map.mp hr
    unfold regionAt
    simp

theorem Cut.not_whole (h : Cut o mtu) (hf : f ∈ fragmentsOf o id mtu) (hbeg : (regionOf o f).beg = 0) :
    (regionOf o f).endOffset < payloadLength o := by
  obtain ⟨x, hxlt, rfl⟩ := h.mem_fragmentsOf hf
  have hbig := h.big
  have hlt : (fragmentLength mtu (headerLength o)).toNat < payloadLength o := by
    unfold payloadLength
    change _ < o.byteLength - headerLength o
    omega
  rw [regionOf_fragmentOf h.splits.free hxlt h.length] at hbeg ⊢
  unfold regionAt at *
  dsimp only at *
  omega

end Fragments

section Collects

variable {b b' : IPv6FragBuf P} {fh : IPv6FragmentHeader} {now : SimTime}
  {arrived : Option (SimTime × List (IPv6Packet P))} {fs : List (IPv6Packet P)}

def regionsOf (o : IPv6Packet P) (fs : List (IPv6Packet P)) : Set ReassemblyBuffer.Region :=
  {r | ∃ f ∈ fs, regionOf o f = r}

/-- The bytes of the payload that the fragments carry. -/
def covered (o : IPv6Packet P) (fs : List (IPv6Packet P)) : Set ℕ :=
  {x | ∃ r ∈ regionsOf o fs, r.beg ≤ x ∧ x < r.endOffset}

theorem insert_regionsOf : insert (regionOf o f) (regionsOf o fs) = regionsOf o (f :: fs) := by
  ext r
  simp [regionsOf, eq_comm]

/-- The key of all fragments of a datagram. -/
def keyFor (o : IPv6Packet P) (id : uint32) : Key := ⟨id, o.srcAddress, o.destAddress⟩

def fragmentsSince (arrived : Option (SimTime × List (IPv6Packet P))) : List (IPv6Packet P) :=
  (arrived.map (·.2)).getD []

/-- The buffer of the key of a datagram has what arrived of it since the buffer was created. -/
inductive Collects (o : IPv6Packet P) (fragments : List (IPv6Packet P)) :
    Option (DatagramBuffer P) → Option (SimTime × List (IPv6Packet P)) → Prop where
  | none : Collects o fragments none none
  | some (buf : DatagramBuffer P) (fs : List (IPv6Packet P)) (hmem : ∀ f ∈ fs, f ∈ fragments)
    (hholds : ReassemblyBuffer.Holds (fragments.map (regionOf o)) (payloadLength o) (regionsOf o fs)
      buf.buf)
    (hstored : ∀ d ∈ buf.datagram, d ∈ fragments ∧ (regionOf o d).beg = 0)
    (hfirst : (∃ f ∈ fs, (regionOf o f).beg = 0) → buf.datagram.isSome = true) :
    Collects o fragments (some buf) (some (buf.createdAt, fs))

/-- What has arrived after one more fragment, unless that completes the datagram. -/
def arrivedAfter (f : IPv6Packet P) (now : SimTime) :
    Option (SimTime × List (IPv6Packet P)) → SimTime × List (IPv6Packet P)
  | none => (now, [f])
  | some (createdAt, fs) => (createdAt, f :: fs)

theorem Collects.bufferOf (h : Cut o mtu) {key : Key}
    (hcollects : Collects o (fragmentsOf o id mtu) (b.bufs.lookup key) arrived) (now : SimTime) :
    let buf := b.bufferOf key now
    let fs := fragmentsSince arrived
    (∀ f ∈ fs, f ∈ fragmentsOf o id mtu) ∧
    ReassemblyBuffer.Holds ((fragmentsOf o id mtu).map (regionOf o)) (payloadLength o)
      (regionsOf o fs) buf.buf ∧
    (∀ d ∈ buf.datagram, d ∈ fragmentsOf o id mtu ∧ (regionOf o d).beg = 0) ∧
    ((∃ f ∈ fs, (regionOf o f).beg = 0) → buf.datagram.isSome = true) ∧
    ∀ f, arrivedAfter f now arrived = (buf.createdAt, f :: fs) := by
  unfold IPv6FragBuf.bufferOf
  generalize b.bufs.lookup key = buf at hcollects
  cases hcollects with
  | none =>
    have hempty : regionsOf o ([] : List (IPv6Packet P)) = ∅ := by
      ext r
      simp [regionsOf]
    have hpositive : 0 < payloadLength o := by
      have hbig := h.big
      unfold payloadLength
      change 0 < o.byteLength - headerLength o
      omega
    refine ⟨nofun, ?_, nofun, ?_, fun _ => rfl⟩
    · change ReassemblyBuffer.Holds _ _ (regionsOf o []) _
      rw [hempty]
      exact ReassemblyBuffer.holds_new h.pieces hpositive
    · rintro ⟨f, hf, -⟩
      cases hf
  | some buf fs hmem hholds hstored hfirst =>
    exact ⟨hmem, hholds, hstored, hfirst, fun _ => rfl⟩

theorem Cut.restored (h : Cut o mtu) {d : IPv6Packet P} (hd : d ∈ fragmentsOf o id mtu)
    (hbeg : (regionOf o d).beg = 0) :
    { d with
      extensionHeader := removeExtensionHeader IP_PROT_IPv6EXT_FRAGMENT d.extensionHeader
      byteLength := calculateUnfragmentableHeaderByteLength
        (removeExtensionHeader IP_PROT_IPv6EXT_FRAGMENT d.extensionHeader) + payloadLength o } =
      { o with name := o.name ++ "-frag" } := by
  have hspec := h.fragmentAt hd
  have hlength : calculateUnfragmentableHeaderByteLength o.extensionHeader + payloadLength o =
      o.byteLength := by
    have hbig := h.big
    unfold payloadLength
    change headerLength o + (o.byteLength - headerLength o) = _
    omega
  rw [hspec.extensionHeader, hlength, hspec.first hbeg]

theorem FragmentAt.addFragment_eq {r : ReassemblyBuffer.Region} (hspec : FragmentAt o id f r)
    (hle : r.endOffset ≤ 65535) :
    b.addFragment f ⟨BitVec.ofNat 16 r.beg, !r.islast, id⟩ now =
      let buf := b.bufferOf (keyFor o id) now
      let (reassembly, isComplete) := buf.buf.addFragment r.beg r.endOffset r.islast
      let stored := if r.beg = 0 then some f else buf.datagram
      if isComplete then
        match stored with
        | none => .error (.cRuntimeError "Model error: completed datagram without datagram pointer.")
        | some ret =>
          if (b.bufs.lookup (keyFor o id)).isNone then .error .outOfRange
          else .ok (⟨b.bufs.erase (keyFor o id)⟩, { ret := some { ret with
            extensionHeader := removeExtensionHeader IP_PROT_IPv6EXT_FRAGMENT ret.extensionHeader
            byteLength := calculateUnfragmentableHeaderByteLength
              (removeExtensionHeader IP_PROT_IPv6EXT_FRAGMENT ret.extensionHeader) +
                reassembly.getTotalLength } })
      else .ok (⟨b.bufs.insert (keyFor o id) { buf with buf := reassembly, datagram := stored }⟩, {}) := by
  have hlt := hspec.lt
  have hkey : keyOf f ⟨BitVec.ofNat 16 r.beg, !r.islast, id⟩ = keyFor o id := by
    unfold keyOf keyFor
    rw [hspec.src, hspec.dest]
  have hbeg : (BitVec.ofNat 16 r.beg).toNat = r.beg := by
    rw [BitVec.toNat_ofNat]
    exact Nat.mod_eq_of_lt (by omega)
  have hend : (((r.beg : ℤ) + ((r.endOffset - r.beg : ℕ) : ℤ)) % 65536).toNat = r.endOffset := by
    omega
  have hmultiple : ¬ ((!r.islast) = true ∧ ((r.endOffset - r.beg : ℕ) : ℤ) % 8 ≠ 0) := by
    rintro ⟨hmore, hne⟩
    have hdvd := hspec.dvd (by simpa using hmore)
    omega
  have hlong : ¬ (r.beg : ℤ) + ((r.endOffset - r.beg : ℕ) : ℤ) > 65535 := by omega
  unfold IPv6FragBuf.addFragment
  rw [hkey, hspec.length]
  change (if _ then _ else _) = _
  rw [hbeg, if_neg hmultiple, if_neg hlong, hend, Bool.not_not] <;> rfl

/-- A fragment arrives: either the datagram is complete, and its buffer goes, or the buffer stays. -/
theorem Cut.addFragment (h : Cut o mtu) (hf : f ∈ fragmentsOf o id mtu)
    (hfh : findFragmentHeader f.extensionHeader = some fh)
    (hcollects : Collects o (fragmentsOf o id mtu) (b.bufs.lookup (keyFor o id)) arrived)
    (now : SimTime) :
    (covered o (f :: fragmentsSince arrived) = Set.Ico 0 (payloadLength o) ∧
      b.addFragment f fh now = .ok (⟨b.bufs.erase (keyFor o id)⟩,
        { ret := some { o with name := o.name ++ "-frag" } })) ∨
    covered o (f :: fragmentsSince arrived) ≠ Set.Ico 0 (payloadLength o) ∧
      ∃ buf, b.addFragment f fh now = .ok (⟨b.bufs.insert (keyFor o id) buf⟩, {}) ∧
        Collects o (fragmentsOf o id mtu) (some buf) (some (arrivedAfter f now arrived)) := by
  have hspec := h.fragmentAt hf
  obtain ⟨hmem, hholds, hstored, hfirst, harrived⟩ := hcollects.bufferOf h now
  obtain rfl := Option.some.inj (hfh.symm.trans hspec.header)
  have hle := hspec.le.trans h.length
  have hr : regionOf o f ∈ (fragmentsOf o id mtu).map (regionOf o) := List.mem_map_of_mem hf
  have hpieces : ReassemblyBuffer.Pieces ((fragmentsOf o id mtu).map (regionOf o)) (payloadLength o) :=
    h.pieces
  obtain ⟨hholds', hcomplete, htotal⟩ :=
    hholds.addFragment hpieces (Nat.lt_succ_of_le h.length) hr
  rw [insert_regionsOf] at hholds' hcomplete
  have hsub : ∀ g ∈ f :: fragmentsSince arrived, g ∈ fragmentsOf o id mtu :=
    List.forall_mem_cons.mpr ⟨hf, hmem⟩
  have hregions : ∀ r ∈ regionsOf o (f :: fragmentsSince arrived),
      r ∈ (fragmentsOf o id mtu).map (regionOf o) := by
    rintro r ⟨g, hg, rfl⟩
    exact List.mem_map_of_mem (hsub g hg)
  -- what is stored is the first fragment, if that has arrived
  have hstored' : ∀ d ∈ if (regionOf o f).beg = 0 then some f
      else (b.bufferOf (keyFor o id) now).datagram,
      d ∈ fragmentsOf o id mtu ∧ (regionOf o d).beg = 0 := by
    intro d hd
    split at hd
    · next hzero =>
      cases hd
      exact ⟨hf, hzero⟩
    · exact hstored d hd
  have hfirst' : (∃ g ∈ f :: fragmentsSince arrived, (regionOf o g).beg = 0) →
      (if (regionOf o f).beg = 0 then some f
        else (b.bufferOf (keyFor o id) now).datagram).isSome = true := by
    rintro ⟨g, hg, hzero⟩
    split
    · rfl
    · next hne =>
      rcases List.mem_cons.mp hg with rfl | hg
      · exact absurd hzero hne
      · exact hfirst ⟨g, hg, hzero⟩
  have hcovered := (hpieces.covered_iff hregions).trans hcomplete.symm
  have hnew : b.bufs.lookup (keyFor o id) = none → fragmentsSince arrived = [] := by
    intro hnone
    rw [hnone] at hcollects
    cases hcollects with
    | none => rfl
  rw [hspec.addFragment_eq hle]
  dsimp only
  generalize ReassemblyBuffer.addFragment _ _ _ _ = result at *
  generalize (if (regionOf o f).beg = 0 then some f
    else (b.bufferOf (keyFor o id) now).datagram) = stored at *
  obtain ⟨reassembly, isComplete⟩ := result
  cases isComplete with
  | true =>
    refine .inl ⟨hcovered.mpr rfl, ?_⟩
    have hall := hcomplete.mp rfl
    obtain ⟨r, hr', hzero⟩ := hpieces.partition.exists_first (.inl rfl)
      (hspec.lt.bot_lt.trans_le hspec.le)
    obtain ⟨g, hg, rfl⟩ := hall r hr'
    obtain ⟨d, hd⟩ := Option.isSome_iff_exists.mp (hfirst' ⟨g, hg, hzero⟩)
    obtain ⟨hdmem, hdzero⟩ := hstored' d hd
    have hexists : (b.bufs.lookup (keyFor o id)).isNone = false := by
      rw [Option.isNone_eq_false_iff, ← Option.ne_none_iff_isSome]
      intro hnone
      rw [hnew hnone] at hg hall
      obtain rfl := List.mem_singleton.mp hg
      have hwhole := h.not_whole hf hzero
      obtain ⟨r, hr, hlast⟩ := hpieces.partition.exists_first (.inr ⟨_, hr', rfl⟩) hwhole
      obtain ⟨g, hg', rfl⟩ := hall r hr
      obtain rfl := List.mem_singleton.mp hg'
      have hlt := hspec.lt
      omega
    rw [if_pos rfl, hd]
    dsimp only
    rw [hexists, if_neg Bool.false_ne_true, htotal rfl, h.restored hdmem hdzero]
  | false =>
    refine .inr ⟨fun hall => Bool.false_ne_true (hcovered.mp hall), _, rfl, ?_⟩
    rw [harrived]
    exact .some _ _ hsub hholds' hstored' hfirst'

/-- A fragment of one datagram leaves the buffers of the others alone. -/
theorem addFragment_other {d : IPv6Packet P} {added : Added P} {key : Key}
    (h : b.addFragment d fh now = .ok (b', added)) (hkey : key ≠ keyOf d fh) :
    b'.bufs.lookup key = b.bufs.lookup key := by
  have hinsert : ∀ buf, (b.bufs.insert (keyOf d fh) buf).lookup key = b.bufs.lookup key :=
    fun buf => AList.lookup_insert_ne hkey
  obtain ⟨length, -, h⟩ := bind_eq_ok_iff.mp h
  by_cases hmultiple : fh.moreFragments = true ∧ length % 8 ≠ 0
  · rw [if_pos hmultiple] at h
    cases h
    exact hinsert _
  · rw [if_neg hmultiple] at h
    dsimp only at h
    by_cases hlong : (fh.fragmentOffset.toNat : ℤ) + length > 65535
    · rw [if_pos hlong] at h
      cases h
      exact hinsert _
    · rw [if_neg hlong] at h
      generalize ReassemblyBuffer.addFragment _ _ _ _ = result at h
      generalize (if fh.fragmentOffset.toNat = 0 then some d
        else (b.bufferOf (keyOf d fh) now).datagram) = stored at h
      obtain ⟨reassembly, isComplete⟩ := result
      cases isComplete with
      | false =>
        cases h
        exact hinsert _
      | true =>
        cases stored with
        | none => cases h
        | some ret =>
          dsimp only at h
          rw [if_pos rfl] at h
          split at h
          · cases h
          · cases h
            exact AList.lookup_erase_ne hkey

theorem Collects.purge {fragments : List (IPv6Packet P)} {buf : Option (DatagramBuffer P)}
    (lastupdate : SimTime) : Collects o fragments buf arrived →
    Collects o fragments (buf.filter fun buf => !decide (buf.createdAt < lastupdate))
      (match arrived with
        | .none => .none
        | .some (createdAt, fs) =>
          if createdAt < lastupdate then Option.none else Option.some (createdAt, fs)) := by
  intro h
  cases h with
  | none => exact .none
  | some buf fs hmem hholds hstored hfirst =>
    by_cases hold : buf.createdAt < lastupdate
    · rw [Option.filter_some_neg (by simpa using hold)]
      simp only [if_pos hold]
      exact .none
    · rw [Option.filter_some_pos (by simpa using hold)]
      simp only [if_neg hold]
      exact .some buf fs hmem hholds hstored hfirst

end Collects

section Run

variable {b : IPv6FragBuf P} {history : List (Event P × Output P)}

/-- What arrives with the key of the datagram is a fragment of it. -/
def Owns (o : IPv6Packet P) (id : uint32) (fragments : List (IPv6Packet P)) : Event P → Prop
  | .addFragment datagram fh _ => keyOf datagram fh = keyFor o id →
    datagram ∈ fragments ∧ findFragmentHeader datagram.extensionHeader = some fh
  | .purgeStaleFragments _ => True

instance [DecidableEq P] (fragments : List (IPv6Packet P)) : DecidablePred (Owns o id fragments)
  | .addFragment _ _ _ => inferInstanceAs (Decidable (_ → _))
  | .purgeStaleFragments _ => .isTrue trivial

theorem Cut.step (h : Cut o mtu) {b' : IPv6FragBuf P} {e : Event P} {output : Output P}
    (hcollects : Collects o (fragmentsOf o id mtu) (b.bufs.lookup (keyFor o id))
      (received (keyFor o id) history))
    (howns : Owns o id (fragmentsOf o id mtu) e) (hstep : IPv6FragBuf.step b e = some (b', output)) :
    Collects o (fragmentsOf o id mtu) (b'.bufs.lookup (keyFor o id))
      (received (keyFor o id) ((e, output) :: history)) := by
  cases e with
  | addFragment d fh now =>
    obtain ⟨⟨b₂, added⟩, hcall, heq⟩ := Option.map_eq_some_iff.mp hstep
    have hcall := toOption_eq_some.mp hcall
    cases heq
    by_cases hkey : keyOf d fh = keyFor o id
    · obtain ⟨hd, hfh⟩ := howns hkey
      rcases h.addFragment hd hfh hcollects now with ⟨-, hok⟩ | ⟨-, buf, hok, hafter⟩
      · obtain ⟨rfl, rfl⟩ := Prod.mk.inj (Except.ok.inj (hok.symm.trans hcall))
        simp only [received, if_pos hkey]
        rw [AList.lookup_erase]
        exact .none
      · obtain ⟨rfl, rfl⟩ := Prod.mk.inj (Except.ok.inj (hok.symm.trans hcall))
        simp only [received, if_pos hkey]
        rw [AList.lookup_insert]
        generalize received (keyFor o id) history = arrived at *
        cases arrived with
        | none | some arrived => exact hafter
    · simp only [received, if_neg hkey]
      rw [addFragment_other hcall (Ne.symm hkey)]
      exact hcollects
  | purgeStaleFragments lastupdate =>
    cases hstep
    rw [Map.lookup_filter]
    exact .purge lastupdate hcollects

theorem Cut.collects_of_run (h : Cut o mtu)
    (hrun : Run (· = new) (StepOf IPv6FragBuf.step) history b)
    (howns : Always (fun _ l => Owns o id (fragmentsOf o id mtu) l.1) history) :
    Collects o (fragmentsOf o id mtu) (b.bufs.lookup (keyFor o id)) (received (keyFor o id) history) := by
  refine @Run.invariant_of_always _ _ _ _ _ (fun history b => Collects o (fragmentsOf o id mtu)
    (b.bufs.lookup (keyFor o id)) (received (keyFor o id) history)) _ _ hrun howns ?_ ?_
  · rintro b rfl
    exact .none
  · rintro history b ⟨e, output⟩ b' - hcollects hstep howns
    exact h.step hcollects howns hstep

end Run

section Main

variable {datagram : IPv6Packet P} {ie : OutputInterface}

theorem cut_fillSource (h : Fragmented datagram ie) (hsplits : Splits datagram.extensionHeader)
    (hlength : payloadLength datagram ≤ 65535) : Cut (fillSource datagram ie true) ie.mtu := by
  have hheaders : (fillSource datagram ie true).extensionHeader = datagram.extensionHeader :=
    fillSource_extensionHeader
  have hbytes : (fillSource datagram ie true).byteLength = datagram.byteLength :=
    fillSource_byteLength
  obtain ⟨-, -, hle⟩ := fragmentLength_spec h.mtu
  have hbig := h.big
  refine ⟨hheaders ▸ hsplits, ?_, ?_, ?_⟩
  · rw [headerLength, hheaders]
    exact h.mtu
  · rw [headerLength, hheaders, hbytes]
    omega
  · rw [payloadLength, hheaders, hbytes]
    exact hlength

/-- Every fragment fits, and all but the last carry a multiple of 8 bytes. However they arrive, the
datagram is returned when those since its buffer was created cover its payload, and then its buffer is
removed, and only that. -/
theorem fragments_reassembled (h : Fragmented datagram ie) (hsplits : Splits datagram.extensionHeader)
    (hlength : payloadLength datagram ≤ 65535) (curFragmentId : uint32) :
    ∃ fragments, fragmentAndSend curFragmentId datagram ie true =
        .ok (curFragmentId + 1, { output := fragments }) ∧
      (∀ f ∈ fragments, (f.byteLength : ℤ) ≤ ie.mtu ∧ ((regionOf datagram f).islast = false →
        8 ∣ f.byteLength - (headerLength datagram + 8))) ∧
      ∀ history b, Run (· = new) (StepOf step) history b →
        Always (fun _ l => Owns (fillSource datagram ie true) curFragmentId fragments l.1) history →
        ∀ f ∈ fragments, ∀ fh ∈ findFragmentHeader f.extensionHeader, ∀ now,
          ∃ b' ret, b.addFragment f fh now = .ok (b', { ret := ret }) ∧
            (ret.isSome = true ↔ covered datagram (f :: fragmentsSince
              (received (keyFor (fillSource datagram ie true) curFragmentId) history)) =
                Set.Ico 0 (payloadLength datagram)) ∧
            ∀ d ∈ ret, d = { fillSource datagram ie true with name := datagram.name ++ "-frag" } ∧
              b'.bufs = b.bufs.erase (keyFor (fillSource datagram ie true) curFragmentId) := by
  have hcut := cut_fillSource h hsplits hlength
  have hheaders : (fillSource datagram ie true).extensionHeader = datagram.extensionHeader :=
    fillSource_extensionHeader
  have hname : (fillSource datagram ie true).name = datagram.name := by
    unfold fillSource
    split <;> rfl
  have hbytes : (fillSource datagram ie true).byteLength = datagram.byteLength :=
    fillSource_byteLength
  have hpayload : payloadLength (fillSource datagram ie true) = payloadLength datagram := by
    rw [payloadLength, hheaders, hbytes, payloadLength]
  have hheader : headerLength (fillSource datagram ie true) = headerLength datagram := by
    rw [headerLength, hheaders, headerLength]
  have hregion : regionOf (fillSource datagram ie true) = regionOf datagram := by
    funext f
    unfold regionOf
    rw [hheader]
  have hcovered : ∀ fs, covered (fillSource datagram ie true) fs = covered datagram fs := by
    intro fs
    unfold covered regionsOf
    rw [hregion]
  refine ⟨_, h.fragmentAndSend_eq_ok hsplits.free, fun f hf => ⟨?_, fun hlast => ?_⟩, ?_⟩
  · obtain ⟨x, -, rfl⟩ := hcut.mem_fragmentsOf hf
    obtain ⟨-, -, hle⟩ := fragmentLength_spec hcut.positive
    refine le_trans ?_ hle
    exact_mod_cast fragmentOf_byteLength_le
  · have hspec := hcut.fragmentAt hf
    rw [hregion] at hspec
    have hdvd := hspec.dvd hlast
    have hshape : (regionOf datagram f).endOffset =
        (regionOf datagram f).beg + (f.byteLength - (headerLength datagram + 8)) := by
      unfold regionOf
      rw [hspec.header]
    rw [hshape, Nat.add_sub_cancel_left] at hdvd
    exact hdvd
  · intro history b hrun howns f hf fh hfh now
    have hcollects := hcut.collects_of_run hrun howns
    rw [← hpayload, ← hcovered, ← hname]
    rcases hcut.addFragment hf hfh hcollects now with ⟨hall, hok⟩ | ⟨hsome, buf, hok, -⟩
    · refine ⟨_, _, hok, iff_of_true rfl hall, fun d hd => ?_⟩
      exact ⟨(Option.some.inj hd).symm, rfl⟩
    · exact ⟨_, none, hok, iff_of_false Bool.false_ne_true hsome, nofun⟩

def sampleDatagram (headers : List IPv6ExtensionHeader) : IPv6Packet Unit where
  srcAddress := ⟨0x20010DB8, 0, 0, 1⟩
  destAddress := ⟨0x20010DB8, 0, 0, 2⟩
  trafficClass := 0
  flowLabel := 0
  hopLimit := 64
  transportProtocol := 17
  extensionHeader := headers
  encapsulatedPacket := some ()
  name := "data"
  byteLength := 68

def sampleInterface : OutputInterface := ⟨64, ⟨0x20010DB8, 0, 0, 1⟩, false⟩

def sampleFragments (headers : List IPv6ExtensionHeader) : List (IPv6Packet Unit) :=
  fragmentsOf (sampleDatagram headers) 7 64

def arrival (f : IPv6Packet Unit) : Option (Event Unit) :=
  (findFragmentHeader f.extensionHeader).map fun fh => .addFragment f fh 1

/-- The last two of three fragments arrive, and then the first one. -/
theorem fragments_reassembled_of_hopByHop : ∃ (b b' : IPv6FragBuf Unit) (f : IPv6Packet Unit)
    (fh : IPv6FragmentHeader), f ∈ sampleFragments [.hopByHop 8] ∧
      b.addFragment f fh 2 = .ok (b', { ret := some { sampleDatagram [.hopByHop 8] with
        name := "data-frag" } }) := by
  have h : Fragmented (sampleDatagram [.hopByHop 8]) sampleInterface := by
    refine ⟨⟨[.hopByHop 8], rfl⟩, ?_, ?_, ?_, ?_⟩ <;> decide
  obtain ⟨fragments, hok, -, hreturns⟩ := fragments_reassembled h (by decide) (by decide) 7
  have hfragments : fragments = sampleFragments [.hopByHop 8] := by
    have hsent : fragmentAndSend 7 (sampleDatagram [.hopByHop 8]) sampleInterface true =
        .ok (8, { output := sampleFragments [.hopByHop 8] }) := by
      rfl
    rw [hsent] at hok
    exact (congrArg Sent.output (Prod.mk.inj (Except.ok.inj hok)).2).symm
  obtain ⟨b, history, hrun, howns, f, hf, hsome⟩ := exists_run_of_execute IPv6FragBuf.step new
    ((sampleFragments [.hopByHop 8]).drop 1 |>.filterMap arrival)
    (fun b history =>
      Always (fun _ l => Owns (fillSource (sampleDatagram [.hopByHop 8]) sampleInterface true) 7
        (sampleFragments [.hopByHop 8]) l.1) history ∧
      ∃ f ∈ (sampleFragments [.hopByHop 8]).take 1,
        ((b.addFragment f ⟨0, true, 7⟩ 2).toOption.map fun r => r.2.ret.isSome) = some true)
    (by decide +kernel)
  have hmem : f ∈ sampleFragments [.hopByHop 8] := List.mem_of_mem_take hf
  have hheader : findFragmentHeader f.extensionHeader = some ⟨0, true, 7⟩ := by
    have hfirst : ∀ f ∈ (sampleFragments [.hopByHop 8]).take 1,
        findFragmentHeader f.extensionHeader = some ⟨0, true, 7⟩ := by
      decide +kernel
    exact hfirst f hf
  subst hfragments
  obtain ⟨b', ret, hcall, -, hdatagram⟩ := hreturns history b hrun howns f hmem _ hheader 2
  rw [hcall] at hsome
  obtain ⟨d, rfl⟩ := Option.isSome_iff_exists.mp (Option.some.inj hsome)
  obtain ⟨rfl, -⟩ := hdatagram d rfl
  exact ⟨b, b', f, _, hmem, hcall⟩

/-- The length of a fragment with a destination options header alone is taken to be less than it is, and
the datagram is not returned. A datagram of a single fragment erases what is not there. -/
theorem not_reassembled :
    (∃ fragments, fragmentAndSend 7 (sampleDatagram [.destination 8]) sampleInterface true =
        .ok (8, { output := fragments }) ∧
      ∃ r ∈ execute IPv6FragBuf.step new [] (fragments.filterMap arrival),
        r.2.length = fragments.length ∧ ∀ l ∈ r.2, l.2 = .added {}) ∧
    (new : IPv6FragBuf Unit).addFragment
      (sampleDatagram [.fragment 0 false 7]) ⟨0, false, 7⟩ 1 = .error .outOfRange := by
  refine ⟨⟨sampleFragments [.destination 8], rfl, ?_⟩, rfl⟩
  decide +kernel

end Main

end inet.IPv6FragBuf

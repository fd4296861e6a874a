import LoRaInet.Common.ByteArray

namespace inet

/-- A `RawPacket` with the memory of its `ByteArray`: `data` is what is allocated, `none` where nothing has been
written, and `data_arraysize` the length that the array knows. -/
structure RawPacket where
  data : List (Option UInt8)
  data_arraysize : ℕ
  byteLength : ℕ
  deriving DecidableEq

namespace RawPacket

/-- A packet that carries these bytes. -/
def ofBytes (bytes : ByteArray) : RawPacket where
  data := bytes.map some
  data_arraysize := bytes.length
  byteLength := bytes.length

variable (rp : RawPacket)

/-- The bytes of the array. -/
def bytes : List (Option UInt8) := rp.data.take rp.data_arraysize

/-- `ByteArray::expandData`, to the left. -/
def expandData (addleft : ℕ) : RawPacket :=
  { rp with data := List.replicate addleft none ++ rp.bytes, data_arraysize := rp.data_arraysize + addleft }

/-- The memory of the array, new where it is too short. -/
def reallocate (nlength : ℕ) : List (Option UInt8) :=
  if rp.data_arraysize < nlength then rp.bytes ++ List.replicate (nlength - rp.data_arraysize) none else rp.data

/-- `ByteArray::copyDataFromBuffer`: the length of the array stays as it was. -/
def copyDataFromBuffer (destOffset : ℕ) (ptr : List (Option UInt8)) : RawPacket :=
  let data := rp.reallocate (destOffset + ptr.length)
  { rp with data := data.take destOffset ++ ptr ++ data.drop (destOffset + ptr.length) }

/-- The array has the bytes of a payload at the positions of a set, in `size` bytes, and nothing elsewhere. -/
structure HasBytes (payload : ByteArray) (written : Set ℕ) (size : ℕ) : Prop where
  size_eq : rp.data_arraysize = size
  allocated : size ≤ rp.data.length
  inside : ∀ x ∈ written, x < size → ∃ byte, payload[x]? = some byte ∧ rp.data[x]? = some (some byte)
  outside : ∀ x ∉ written, x < size → rp.data[x]? = some none

variable {rp} {payload : ByteArray} {written : Set ℕ} {size beg last : ℕ}

theorem HasBytes.congr {rp' : RawPacket} (h : rp.HasBytes payload written size) (hdata : rp'.data = rp.data)
    (hsize : rp'.data_arraysize = rp.data_arraysize) : rp'.HasBytes payload written size := by
  obtain ⟨h1, h2, h3, h4⟩ := h
  exact ⟨hsize.trans h1, hdata ▸ h2, hdata ▸ h3, hdata ▸ h4⟩

theorem bytes_ofBytes (bytes : ByteArray) : (ofBytes bytes).bytes = bytes.map some := by
  unfold RawPacket.bytes ofBytes
  rw [List.take_of_length_le (by rw [List.length_map])]

theorem expandData_zero (bytes : ByteArray) : (ofBytes bytes).expandData 0 = ofBytes bytes := by
  unfold expandData
  rw [bytes_ofBytes]
  rfl

theorem getElem?_slice {x : ℕ} (hle : beg ≤ x) (hlt : x < last) :
    ((payload.drop beg).take (last - beg))[x - beg]? = payload[x]? := by
  rw [List.getElem?_take_of_lt (by omega), List.getElem?_drop]
  congr 1
  omega

theorem length_slice (hlast : last ≤ payload.length) : ((payload.drop beg).take (last - beg)).length = last - beg := by
  rw [List.length_take, List.length_drop]
  omega

theorem hasBytes_expandData (hbeg : beg ≤ last) (hlast : last ≤ payload.length) :
    ((ofBytes ((payload.drop beg).take (last - beg))).expandData beg).HasBytes payload (Set.Ico beg last) last := by
  have hlength := @length_slice payload beg last hlast
  have hbytes := bytes_ofBytes ((payload.drop beg).take (last - beg))
  unfold expandData
  rw [hbytes]
  refine ⟨?_, ?_, fun x hx hlt => ?_, fun x hx hlt => ?_⟩
  · unfold ofBytes
    dsimp only
    omega
  · rw [List.length_append, List.length_replicate, List.length_map]
    omega
  · obtain ⟨hle, -⟩ := hx
    have hslice := @getElem?_slice payload beg last x hle hlt
    refine ⟨payload[x], List.getElem?_eq_getElem _, ?_⟩
    rw [List.getElem?_append_right (by rw [List.length_replicate]; exact hle), List.length_replicate,
      List.getElem?_map, hslice, List.getElem?_eq_getElem (by omega)]
    rfl
  · have hless : x < beg := by
      by_contra hge
      exact hx ⟨not_lt.mp hge, hlt⟩
    rw [List.getElem?_append_left (by rw [List.length_replicate]; exact hless), List.getElem?_replicate,
      if_pos hless]

/-- Another fragment is copied; what lies beyond the end of the array is lost. -/
theorem HasBytes.copyDataFromBuffer (h : rp.HasBytes payload written size) (hbeg : beg ≤ last)
    (hlast : last ≤ payload.length) :
    (rp.copyDataFromBuffer beg (ofBytes ((payload.drop beg).take (last - beg))).bytes).HasBytes payload
      (Set.Ico beg last ∪ written) size := by
  have hlength := @length_slice payload beg last hlast
  have hbytes := bytes_ofBytes ((payload.drop beg).take (last - beg))
  have hsize := h.size_eq
  have hallocated := h.allocated
  -- what was in the array is still there, and there is room for the fragment
  have hmemory : size ≤ (rp.reallocate last).length ∧ last ≤ (rp.reallocate last).length ∧
      ∀ x < size, (rp.reallocate last)[x]? = rp.data[x]? := by
    unfold reallocate
    rw [hsize]
    split
    · next hless =>
      have hold : rp.bytes.length = size := by
        rw [bytes, hsize, List.length_take]
        omega
      rw [List.length_append, List.length_replicate, hold]
      refine ⟨by omega, by omega, fun x hx => ?_⟩
      rw [List.getElem?_append_left (by omega), bytes, hsize, List.getElem?_take_of_lt hx]
    · exact ⟨hallocated, by omega, fun x _ => rfl⟩
  obtain ⟨hroom, hroom', hsame⟩ := hmemory
  unfold RawPacket.copyDataFromBuffer
  rw [hbytes, List.length_map, hlength, Nat.add_sub_cancel' hbeg]
  have hfront : ((rp.reallocate last).take beg).length = beg := by
    rw [List.length_take]
    omega
  have hmiddle : ((rp.reallocate last).take beg ++ ((payload.drop beg).take (last - beg)).map some).length =
      last := by
    rw [List.length_append, hfront, List.length_map]
    omega
  have hget {x : ℕ} : ((rp.reallocate last).take beg ++ ((payload.drop beg).take (last - beg)).map some ++
      (rp.reallocate last).drop last)[x]? =
        if x < beg then (rp.reallocate last)[x]? else if x < last then payload[x]?.map some
        else (rp.reallocate last)[x]? := by
    by_cases hlt : x < last
    · rw [List.getElem?_append_left (by omega)]
      by_cases hless : x < beg
      · rw [if_pos hless, List.getElem?_append_left (by omega), List.getElem?_take_of_lt hless]
      · rw [if_neg hless, if_pos hlt, List.getElem?_append_right (by omega), hfront, List.getElem?_map,
          getElem?_slice (by omega) hlt]
    · rw [if_neg (by omega), if_neg hlt, List.getElem?_append_right (by omega), hmiddle, List.getElem?_drop]
      congr 1
      omega
  refine ⟨hsize, ?_, fun x hx hlt => ?_, fun x hx hlt => ?_⟩
  · rw [List.length_append, hmiddle, List.length_drop]
    omega
  · rw [hget]
    by_cases hinside : beg ≤ x ∧ x < last
    · refine ⟨payload[x], List.getElem?_eq_getElem _, ?_⟩
      rw [if_neg (by omega), if_pos hinside.2, List.getElem?_eq_getElem (by omega)]
      rfl
    · obtain ⟨byte, hbyte, hdata⟩ := h.inside x (hx.resolve_left hinside) hlt
      refine ⟨byte, hbyte, ?_⟩
      split
      · rw [hsame x hlt, hdata]
      · rw [if_neg (by omega), hsame x hlt, hdata]
  · rw [Set.mem_union, not_or] at hx
    have hdata := h.outside x hx.2 hlt
    have hnot : ¬(beg ≤ x ∧ x < last) := hx.1
    rw [hget]
    split
    · rw [hsame x hlt, hdata]
    · rw [if_neg (by omega), hsame x hlt, hdata]

theorem HasBytes.bytes_eq_iff (h : rp.HasBytes payload written size) :
    rp.bytes = payload.map some ↔ size = payload.length ∧ ∀ x < payload.length, x ∈ written := by
  have hallocated := h.allocated
  have hlength : rp.bytes.length = size := by
    rw [bytes, h.size_eq, List.length_take]
    omega
  have hget {x : ℕ} (hx : x < size) : rp.bytes[x]? = rp.data[x]? := by
    rw [bytes, h.size_eq, List.getElem?_take_of_lt hx]
  constructor
  · intro heq
    have hsize : size = payload.length := by rw [← hlength, heq, List.length_map]
    refine ⟨hsize, fun x hx => ?_⟩
    by_contra hnot
    have hdata := h.outside x hnot (hsize ▸ hx)
    rw [← hget (hsize ▸ hx), heq, List.getElem?_map, List.getElem?_eq_getElem hx] at hdata
    cases hdata
  · rintro ⟨hsize, hall⟩
    apply List.ext_getElem?
    intro x
    by_cases hx : x < size
    · obtain ⟨byte, hbyte, hdata⟩ := h.inside x (hall x (hsize ▸ hx)) hx
      rw [hget hx, hdata, List.getElem?_map, hbyte]
      rfl
    · rw [List.getElem?_eq_none (by omega), List.getElem?_eq_none (by rw [List.length_map]; omega)]

end RawPacket

end inet

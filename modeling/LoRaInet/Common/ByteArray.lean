import LoRaInet.Kernel.Assert

open omnetpp

namespace inet

abbrev uint32 := BitVec 32

/-- The bytes of a `ByteArray`, in order. -/
abbrev ByteArray := List UInt8

namespace ByteArray

variable (data : ByteArray)

/-- The bytes copied, from an offset on, into a buffer of a given length. -/
def copyDataToBuffer (length srcOffs : ℕ) : ByteArray :=
  if srcOffs ≥ data.length then []
  else (data.drop srcOffs).take (if srcOffs + length > data.length then data.length - srcOffs else length)

def truncateData (truncleft truncright : uint32) : Except Fault ByteArray := do
  ASSERT (data.length ≥ (truncleft + truncright).toNat)
    "data_arraysize >= (truncleft + truncright)"
  .ok ((data.drop truncleft.toNat).take (data.length - (truncleft + truncright).toNat))

def setDataFromByteArray (other : ByteArray) (srcOffs length : uint32) : Except Fault ByteArray := do
  ASSERT ((srcOffs + length).toNat ≤ other.length) "srcOffs + length <= other.data_arraysize"
  .ok ((other.drop srcOffs.toNat).take length.toNat)

theorem copyDataToBuffer_eq (length srcOffs : ℕ) :
    copyDataToBuffer data length srcOffs = (data.drop srcOffs).take length := by
  unfold copyDataToBuffer
  split
  · next h => rw [List.drop_eq_nil_of_le h, List.take_nil]
  · split
    · next h => rw [List.take_of_length_le (by simp), List.take_of_length_le (by simp; omega)]
    · rfl

theorem truncateData_left {data : ByteArray} {n : ℕ} (h : n ≤ data.length) (hn : n < 2 ^ 32) :
    truncateData data (BitVec.ofNat 32 n) 0 = .ok (data.drop n) := by
  have hleft : (BitVec.ofNat 32 n).toNat = n := by
    rw [BitVec.toNat_ofNat]
    exact Nat.mod_eq_of_lt hn
  have hsum : (BitVec.ofNat 32 n + 0).toNat = n := by
    rw [BitVec.toNat_add, hleft]
    exact Nat.mod_eq_of_lt hn
  rw [truncateData, hsum, hleft, assert_bind h, List.take_of_length_le (by simp)]

theorem setDataFromByteArray_left {other : ByteArray} {length : uint32}
    (h : length.toNat ≤ other.length) :
    setDataFromByteArray other 0 length = .ok (other.take length.toNat) := by
  have hsum : 0 + length = length := BitVec.zero_add length
  have hzero : BitVec.toNat (0 : uint32) = 0 := rfl
  rw [setDataFromByteArray, hsum, assert_bind h, hzero, List.drop_zero]

end ByteArray

structure ByteArrayBuffer where
  dataListM : List ByteArray
  dataLengthM : ℕ

namespace ByteArrayBuffer

def empty : ByteArrayBuffer where
  dataListM := []
  dataLengthM := 0

variable (b : ByteArrayBuffer)

def push (byteArrayP : ByteArray) : ByteArrayBuffer where
  dataListM := b.dataListM ++ [byteArrayP]
  dataLengthM := b.dataLengthM + byteArrayP.length

/-- The loop of `getBytesToBuffer`, with the room left in the buffer. -/
def copyLoop : List ByteArray → ℕ → ℕ → ByteArray
  | [], _, _ => []
  | i :: rest, room, srcOffs =>
    if room = 0 then []
    else
      let copied := i.copyDataToBuffer room srcOffs
      if copied.length ≠ 0 then copied ++ copyLoop rest (room - copied.length) 0
      else copyLoop rest room (srcOffs - i.length)

def getBytesToBuffer (bufferLength srcOffs : ℕ) : ByteArray :=
  copyLoop b.dataListM bufferLength srcOffs

/-- The loop of `drop`, with the length still to be dropped. -/
def dropLoop : List ByteArray → ℕ → Except Fault (List ByteArray)
  | l, 0 => .ok l
  | [], _ + 1 => .error .outOfRange
  | slice :: rest, length + 1 =>
    if slice.length ≤ length + 1 then dropLoop rest (length + 1 - slice.length)
    else do
      let slice ← slice.truncateData (BitVec.ofNat 32 (length + 1)) 0
      .ok (slice :: rest)

def drop (lengthP : uint32) : Except Fault ByteArrayBuffer := do
  ASSERT (lengthP.toNat ≤ b.dataLengthM) "lengthP <= dataLengthM"
  let dataListM ← dropLoop b.dataListM lengthP.toNat
  .ok { dataListM, dataLengthM := b.dataLengthM - lengthP.toNat }

/-- The buffer holds these bytes. -/
structure Contains (b : ByteArrayBuffer) (bytes : List UInt8) : Prop where
  flatten_eq : b.dataListM.flatten = bytes
  length_eq : b.dataLengthM = bytes.length

theorem contains_empty : empty.Contains [] where
  flatten_eq := rfl
  length_eq := rfl

theorem Contains.push {b : ByteArrayBuffer} {bytes : List UInt8} (h : b.Contains bytes)
    (byteArrayP : ByteArray) : (b.push byteArrayP).Contains (bytes ++ byteArrayP) where
  flatten_eq := by simp [ByteArrayBuffer.push, h.flatten_eq]
  length_eq := by simp [ByteArrayBuffer.push, h.length_eq]

theorem copyLoop_eq (l : List ByteArray) (room srcOffs : ℕ) :
    copyLoop l room srcOffs = (l.flatten.drop srcOffs).take room := by
  induction l generalizing room srcOffs with
  | nil => simp [copyLoop]
  | cons i rest ih =>
    rw [copyLoop, List.flatten_cons, ByteArray.copyDataToBuffer_eq]
    by_cases hroom : room = 0
    · rw [if_pos hroom, hroom, List.take_zero]
    · rw [if_neg hroom]
      by_cases hoffs : srcOffs < i.length
      · have hcopied : ((i.drop srcOffs).take room).length ≠ 0 := by
          simp only [List.length_take, List.length_drop]
          omega
        rw [if_pos hcopied, ih, List.drop_zero, List.drop_append_of_le_length hoffs.le,
          List.take_append, List.length_take, List.length_drop]
        congr 2
        omega
      · have hnone : (i.drop srcOffs).take room = [] := by
          rw [List.drop_eq_nil_of_le (not_lt.mp hoffs), List.take_nil]
        rw [hnone, if_neg (by simp), ih, List.drop_append,
          List.drop_eq_nil_of_le (not_lt.mp hoffs), List.nil_append]

theorem Contains.getBytesToBuffer_eq {b : ByteArrayBuffer} {bytes : List UInt8}
    (h : b.Contains bytes) (bufferLength srcOffs : ℕ) :
    b.getBytesToBuffer bufferLength srcOffs = (bytes.drop srcOffs).take bufferLength := by
  rw [getBytesToBuffer, copyLoop_eq, h.flatten_eq]

theorem dropLoop_eq {l : List ByteArray} {length : ℕ} (h : length ≤ l.flatten.length)
    (hlength : length < 2 ^ 32) :
    ∃ m, dropLoop l length = .ok m ∧ m.flatten = l.flatten.drop length := by
  induction l generalizing length with
  | nil =>
    obtain rfl : length = 0 := by simpa using h
    exact ⟨[], rfl, rfl⟩
  | cons slice rest ih =>
    cases length with
    | zero => exact ⟨slice :: rest, rfl, rfl⟩
    | succ length =>
      rw [List.flatten_cons, List.length_append] at h
      rw [dropLoop, List.flatten_cons]
      by_cases hslice : slice.length ≤ length + 1
      · rw [if_pos hslice]
        have hrest : length + 1 - slice.length ≤ rest.flatten.length := by omega
        obtain ⟨m, hm, hflatten⟩ := ih hrest (by omega)
        refine ⟨m, hm, ?_⟩
        rw [hflatten, List.drop_append, List.drop_eq_nil_of_le hslice, List.nil_append]
      · rw [if_neg hslice, ByteArray.truncateData_left (by omega) hlength]
        refine ⟨_, rfl, ?_⟩
        rw [List.flatten_cons, List.drop_append_of_le_length (by omega)]

theorem Contains.drop {b : ByteArrayBuffer} {bytes : List UInt8} (h : b.Contains bytes)
    {lengthP : uint32} (hle : lengthP.toNat ≤ bytes.length) :
    ∃ b', b.drop lengthP = .ok b' ∧ b'.Contains (bytes.drop lengthP.toNat) := by
  obtain ⟨m, hm, hflatten⟩ := dropLoop_eq (h.flatten_eq.symm ▸ hle) lengthP.isLt
  rw [h.flatten_eq] at hflatten
  refine ⟨⟨m, b.dataLengthM - lengthP.toNat⟩, ?_, hflatten, ?_⟩
  · rw [ByteArrayBuffer.drop, assert_bind (h.length_eq.symm ▸ hle), hm]
    rfl
  · rw [h.length_eq, List.length_drop]

end ByteArrayBuffer

end inet

import LoRaInet.Common.ByteArray
import LoRaInet.Common.Serializer.TCPIPchecksum
import Mathlib.Data.Nat.Bitwise

namespace inet.serializer.TCPIPchecksum

/-- The word of two bytes in network byte order. -/
def word (first second : UInt8) : uint32 :=
  BitVec.ofNat 32 first.toNat <<< 8 ||| BitVec.ofNat 32 second.toNat

/-- The upper half of the accumulator is added to the lower one. -/
def foldOnce (sum : uint32) : uint32 := (sum &&& (0xFFFF : uint32)) + (sum >>> 16)

theorem toNat_foldOnce (sum : uint32) : (foldOnce sum).toNat = sum.toNat % 65536 + sum.toNat / 65536 := by
  have hlow : (sum &&& (0xFFFF : uint32)).toNat = sum.toNat % 65536 := by
    rw [BitVec.toNat_and]
    exact Nat.and_two_pow_sub_one_eq_mod sum.toNat 16
  have hhigh : (sum >>> 16).toNat = sum.toNat / 65536 := by
    rw [BitVec.toNat_ushiftRight, Nat.shiftRight_eq_div_pow]
  have hlt := sum.isLt
  rw [foldOnce, BitVec.toNat_add, hlow, hhigh]
  exact Nat.mod_eq_of_lt (by omega)

theorem shiftRight_ne_zero_iff (sum : uint32) : sum >>> 16 ≠ 0 ↔ 65536 ≤ sum.toNat := by
  have hzero : (0 : uint32).toNat = 0 := rfl
  rw [Ne, ← BitVec.toNat_inj, BitVec.toNat_ushiftRight, Nat.shiftRight_eq_div_pow, hzero]
  omega

/-- The loop that runs while the upper half is not zero. -/
def foldCarries (sum : uint32) : uint32 :=
  if _h : sum >>> 16 ≠ 0 then foldCarries (foldOnce sum) else sum
  termination_by sum.toNat
  decreasing_by
    have hge := (shiftRight_ne_zero_iff sum).mp _h
    rw [toNat_foldOnce]
    omega

def accumulate : List UInt8 → uint32 → uint32
  | first :: second :: rest, sum =>
    let sum := sum + word first second
    accumulate rest (if sum &&& (0x80000000 : uint32) ≠ 0 then foldOnce sum else sum)
  | [last], sum => sum + BitVec.ofNat 32 last.toNat <<< 8
  | [], sum => sum

/-- `_checksum` with its accumulator of 32 bits. -/
def _checksum32 (bytes : List UInt8) : BitVec 16 := (foldCarries (accumulate bytes 0)).setWidth 16

/-- `checksum` with a pseudo header, and with its sum of 32 bits. -/
def checksum32 (protocolId : uint32) (packet addr : List UInt8) : BitVec 16 :=
  ~~~(foldCarries ((_checksum32 packet).setWidth 32 + (_checksum32 addr).setWidth 32 +
    BitVec.ofNat 32 packet.length + protocolId)).setWidth 16

section OnesComplement

/-- The sum of two 16-bit words with the carry brought back in. -/
def onesAdd (m n : ℕ) : ℕ := if m + n < 65536 then m + n else m + n - 65535

/-- The big-endian 16-bit words of the bytes, padded with a zero. -/
def words : List UInt8 → List ℕ
  | first :: second :: rest => (first.toNat * 256 + second.toNat) :: words rest
  | [last] => [last.toNat * 256]
  | [] => []

variable (bytes : List UInt8)

/-- The ones' complement sum of the words. -/
def onesSum : ℕ := (words bytes).foldl onesAdd 0

theorem onesAdd_lt {m n : ℕ} (hm : m < 65536) (hn : n < 65536) : onesAdd m n < 65536 := by
  rw [onesAdd]
  split <;> omega

theorem sameSum_onesAdd (m n : ℕ) : SameSum (onesAdd m n) (m + n) := by
  rw [onesAdd]
  split
  · exact ⟨Iff.rfl, rfl⟩
  · exact ⟨by omega, by omega⟩

theorem lt_of_mem_words {bytes : List UInt8} {value : ℕ} (h : value ∈ words bytes) : value < 65536 := by
  induction bytes using words.induct with
  | case1 first second rest ih =>
    have hfirst := first.toNat_lt
    have hsecond := second.toNat_lt
    rw [words, List.mem_cons] at h
    rcases h with rfl | h
    · omega
    · exact ih h
  | case2 last =>
    have hlast := last.toNat_lt
    rw [words, List.mem_singleton] at h
    omega
  | case3 => cases h

theorem sum_words : (words bytes).sum = wordSum bytes := by
  induction bytes using words.induct with
  | case1 first second rest ih => rw [words, wordSum, List.sum_cons, ih]
  | case2 last => rw [words, wordSum, List.sum_singleton]
  | case3 => rfl

theorem foldl_onesAdd {values : List ℕ} {sum : ℕ} (h : ∀ value ∈ values, value < 65536) (hsum : sum < 65536) :
    values.foldl onesAdd sum < 65536 ∧ SameSum (values.foldl onesAdd sum) (sum + values.sum) := by
  induction values generalizing sum with
  | nil => exact ⟨hsum, Iff.rfl, rfl⟩
  | cons value values ih =>
    rw [List.forall_mem_cons] at h
    obtain ⟨hlt, hsame⟩ := ih h.2 (onesAdd_lt hsum h.1)
    rw [List.foldl_cons, List.sum_cons, ← Nat.add_assoc]
    exact ⟨hlt, hsame.trans ((sameSum_onesAdd sum value).add_right values.sum)⟩

theorem onesSum_lt : onesSum bytes < 65536 :=
  (foldl_onesAdd (fun _ => lt_of_mem_words) (by omega)).1

theorem sameSum_onesSum : SameSum (onesSum bytes) (wordSum bytes) := by
  have hwords : ∀ value ∈ words bytes, value < 65536 := fun _ => lt_of_mem_words
  have hsame := (foldl_onesAdd hwords (Nat.zero_lt_succ 65535)).2
  rwa [Nat.zero_add, sum_words] at hsame

theorem SameSum.eq {m n : ℕ} (h : SameSum m n) (hm : m < 65536) (hn : n < 65536) : m = n := by
  obtain ⟨hzero, hmod⟩ := h
  omega

theorem onesSum_eq_checksum : onesSum bytes = _checksum bytes := by
  have hsum := sameSum_onesSum bytes
  have hchecksum := sameSum_checksum bytes
  have hsame : SameSum (onesSum bytes) (_checksum bytes) :=
    ⟨hsum.1.trans hchecksum.1.symm, hsum.2.trans hchecksum.2.symm⟩
  exact hsame.eq (onesSum_lt bytes) (fold_lt _)

end OnesComplement

theorem toNat_word (first second : UInt8) : (word first second).toNat = first.toNat * 256 + second.toNat := by
  have hfirst := first.toNat_lt
  have hsecond := second.toNat_lt
  have hshift : (BitVec.ofNat 32 first.toNat <<< 8).toNat = first.toNat <<< 8 := by
    have hnarrow : first.toNat % 2 ^ 32 = first.toNat := Nat.mod_eq_of_lt (by omega)
    rw [BitVec.toNat_shiftLeft, BitVec.toNat_ofNat, hnarrow, Nat.shiftLeft_eq]
    exact Nat.mod_eq_of_lt (by omega)
  have hlow : (BitVec.ofNat 32 second.toNat).toNat = second.toNat := by
    rw [BitVec.toNat_ofNat, Nat.mod_eq_of_lt (by omega)]
  rw [word, BitVec.toNat_or, hshift, hlow, ← Nat.shiftLeft_add_eq_or_of_lt (by omega), Nat.shiftLeft_eq]

theorem toNat_last (last : UInt8) : (BitVec.ofNat 32 last.toNat <<< 8).toNat = last.toNat * 256 := by
  have hlast := last.toNat_lt
  have hnarrow : last.toNat % 2 ^ 32 = last.toNat := Nat.mod_eq_of_lt (by omega)
  rw [BitVec.toNat_shiftLeft, BitVec.toNat_ofNat, hnarrow, Nat.shiftLeft_eq]
  exact Nat.mod_eq_of_lt (by omega)

theorem highBit_ne_zero_iff (sum : uint32) : sum &&& (0x80000000 : uint32) ≠ 0 ↔ 2147483648 ≤ sum.toNat := by
  have hlt := sum.isLt
  have hzero : (0 : uint32).toNat = 0 := rfl
  have hand : (sum &&& (0x80000000 : uint32)).toNat = (sum.toNat.testBit 31).toNat * 2 ^ 31 := by
    rw [BitVec.toNat_and]
    exact Nat.and_two_pow sum.toNat 31
  rw [Ne, ← BitVec.toNat_inj, hand, hzero, Nat.testBit_eq_decide_div_mod_eq]
  by_cases hbit : sum.toNat / 2 ^ 31 % 2 = 1
  · rw [decide_eq_true hbit]
    exact iff_of_true (by decide) (by omega)
  · rw [decide_eq_false hbit]
    exact iff_of_false (by decide) (by omega)

theorem toNat_foldCarries (sum : uint32) : (foldCarries sum).toNat = fold sum.toNat := by
  induction sum using foldCarries.induct with
  | case1 sum h ih =>
    have hge := (shiftRight_ne_zero_iff sum).mp h
    have hstep : fold sum.toNat = fold (sum.toNat % 65536 + sum.toNat / 65536) := by
      rw [fold, dif_neg (by omega)]
    rw [foldCarries, dif_pos h, ih, toNat_foldOnce, hstep]
  | case2 sum h =>
    have hlt : sum.toNat < 65536 := by
      by_contra hge
      exact h ((shiftRight_ne_zero_iff sum).mpr (by omega))
    rw [foldCarries, dif_neg h, fold, dif_pos hlt]

theorem toNat_accumulate (bytes : List UInt8) (sum : uint32) (h : sum.toNat < 2147483648) :
    (accumulate bytes sum).toNat = addWords bytes sum.toNat := by
  induction bytes, sum using accumulate.induct with
  | case1 first second rest sum added ih =>
    have hfirst := first.toNat_lt
    have hsecond := second.toNat_lt
    have hadded : added.toNat = sum.toNat + (first.toNat * 256 + second.toNat) := by
      rw [BitVec.toNat_add, toNat_word]
      exact Nat.mod_eq_of_lt (by omega)
    rw [accumulate, addWords, ← hadded]
    by_cases hbit : 2147483648 ≤ added.toNat
    · have hset := (highBit_ne_zero_iff added).mpr hbit
      have hfolded := toNat_foldOnce added
      rw [if_pos hset] at ih ⊢
      rw [if_pos hbit, ih (by omega), hfolded]
    · have hclear := (highBit_ne_zero_iff added).not.mpr hbit
      rw [if_neg hclear] at ih ⊢
      rw [if_neg hbit, ih (by omega)]
  | case2 last sum =>
    have hlast := last.toNat_lt
    rw [accumulate, addWords, BitVec.toNat_add, toNat_last]
    exact Nat.mod_eq_of_lt (by omega)
  | case3 sum => rfl

theorem toNat_checksum32_bytes (bytes : List UInt8) : (_checksum32 bytes).toNat = onesSum bytes := by
  have hlt := fold_lt (addWords bytes 0)
  rw [onesSum_eq_checksum, _checksum, _checksum32, BitVec.toNat_setWidth, toNat_foldCarries, toNat_accumulate bytes 0 (by decide)]
  exact Nat.mod_eq_of_lt hlt

/-- The sum of the four terms is taken modulo the size of the accumulator. -/
theorem toNat_checksum32 (protocolId : uint32) (packet addr : List UInt8) :
    (checksum32 protocolId packet addr).toNat = 65535 - fold ((onesSum packet +
      (onesSum addr + packet.length + protocolId.toNat) % 4294967296) % 4294967296) := by
  have hpacket := onesSum_lt packet
  have haddr := onesSum_lt addr
  generalize hsum : (_checksum32 packet).setWidth 32 + (_checksum32 addr).setWidth 32 +
    BitVec.ofNat 32 packet.length + protocolId = sum
  have hvalue : sum.toNat = (onesSum packet +
      (onesSum addr + packet.length + protocolId.toNat) % 4294967296) % 4294967296 := by
    rw [← hsum, BitVec.toNat_add, BitVec.toNat_add, BitVec.toNat_add, BitVec.toNat_setWidth, BitVec.toNat_setWidth,
      BitVec.toNat_ofNat, toNat_checksum32_bytes, toNat_checksum32_bytes]
    omega
  have hlt := fold_lt sum.toNat
  rw [checksum32, hsum, ← hvalue, BitVec.toNat_not, BitVec.toNat_setWidth, toNat_foldCarries]
  omega

section Detection

/-- A packet with a value in its checksum field. -/
def withField (first second : List UInt8) (value : ℕ) : List UInt8 := first ++ bigEndian 2 value ++ second

variable (protocolId : uint32)

/-- The packet whose checksum was computed over zeros and stored. -/
def stored (addr first second : List UInt8) : List UInt8 :=
  withField first second (checksum32 protocolId (withField first second 0) addr).toNat

/-- What is added to the sum of a packet, in the accumulator. -/
def rest (addr : List UInt8) (length : ℕ) : ℕ :=
  (onesSum addr + length + protocolId.toNat) % 4294967296

theorem length_withField (first second : List UInt8) (value : ℕ) :
    (withField first second value).length = first.length + 2 + second.length := by
  rw [withField, List.length_append, List.length_append, bigEndian_length]

theorem wordSum_withField {first : List UInt8} (second : List UInt8) {value : ℕ} (heven : first.length % 2 = 0)
    (hvalue : value < 65536) : wordSum (withField first second value) = wordSum first + value + wordSum second := by
  have hfield : (first ++ bigEndian 2 value).length % 2 = 0 := by
    rw [List.length_append, bigEndian_length]
    omega
  rw [withField, wordSum_append hfield, wordSum_append heven, wordSum_bigEndian hvalue]

theorem sameSum_withField {first : List UInt8} (second : List UInt8) {value : ℕ} (heven : first.length % 2 = 0)
    (hvalue : value < 65536) :
    SameSum (onesSum (withField first second value)) (onesSum (withField first second 0) + value) := by
  obtain ⟨hzero, hmod⟩ := sameSum_onesSum (withField first second value)
  obtain ⟨hzero', hmod'⟩ := sameSum_onesSum (withField first second 0)
  rw [wordSum_withField second heven hvalue] at hzero hmod
  rw [wordSum_withField second heven (by omega)] at hzero' hmod'
  exact ⟨by omega, by omega⟩

theorem checksum32_eq_zero_iff {protocolId : uint32} {packet addr : List UInt8} :
    checksum32 protocolId packet addr = 0 ↔
      (onesSum packet + rest protocolId addr packet.length) % 4294967296 ≠ 0 ∧
      (onesSum packet + rest protocolId addr packet.length) % 4294967296 % 65535 = 0 := by
  have hzero : (0 : BitVec 16).toNat = 0 := rfl
  have hlt := fold_lt ((onesSum packet + rest protocolId addr packet.length) % 4294967296)
  rw [← fold_eq_iff, ← BitVec.toNat_inj, toNat_checksum32, hzero]
  rw [rest] at hlt ⊢
  omega

/-- The sum with the complement of the folded sum in it, where the sums are taken in 32 bits. -/
theorem complement_iff {empty full rest : ℕ} (hempty : empty < 65536) (hfull : full < 65536)
    (hrest : rest < 4294967296)
    (h : SameSum full (empty + (65535 - fold ((empty + rest) % 4294967296)))) :
    (full + rest) % 4294967296 ≠ 0 ∧ (full + rest) % 4294967296 % 65535 = 0 ↔ empty + rest < 4294967296 := by
  obtain ⟨hzero, hmod⟩ := sameSum_fold ((empty + rest) % 4294967296)
  have hlt := fold_lt ((empty + rest) % 4294967296)
  obtain ⟨hfullZero, hfullMod⟩ := h
  generalize fold ((empty + rest) % 4294967296) = folded at *
  by_cases hsum : empty + rest < 4294967296
  · refine iff_of_true ?_ hsum
    rw [Nat.mod_eq_of_lt hsum] at hzero hmod
    -- A carry would need the largest rest, where the packet is zero and nothing is stored.
    have hfullSum : full + rest < 4294967296 := by
      by_contra hcarry
      have hmultiple : (full + rest) % 65535 = 0 := by omega
      have hlargest : rest = 4294967295 := by omega
      omega
    rw [Nat.mod_eq_of_lt hfullSum]
    exact ⟨by omega, by omega⟩
  · refine iff_of_false ?_ hsum
    have hcarry : (empty + rest) % 4294967296 = empty + rest - 4294967296 := by omega
    rw [hcarry] at hzero hmod
    -- What is stored fills the accumulator up to zero.
    have hfilled : full + rest = 4294967296 := by omega
    rw [hfilled]
    omega

theorem lt_of_verifies {full rest : ℕ} (hfull : full < 65536) (hrest : rest < 4294967296)
    (h : (full + rest) % 4294967296 ≠ 0 ∧ (full + rest) % 4294967296 % 65535 = 0) :
    full + rest < 4294967296 ∧ (full + rest) % 65535 = 0 := by
  have hsum : full + rest < 4294967296 := by
    by_contra hcarry
    have hremainder : (full + rest) % 4294967296 = full + rest - 4294967296 := by omega
    rw [hremainder] at h
    omega
  rw [Nat.mod_eq_of_lt hsum] at h
  exact ⟨hsum, h.2⟩

theorem stored_verifies_iff {protocolId : uint32} {addr first second : List UInt8} (heven : first.length % 2 = 0) :
    checksum32 protocolId (stored protocolId addr first second) addr = 0 ↔
      onesSum (withField first second 0) +
        (onesSum addr + (withField first second 0).length + protocolId.toNat) % 4294967296 < 4294967296 := by
  have hlength : (stored protocolId addr first second).length = (withField first second 0).length := by
    rw [stored, length_withField, length_withField]
  have hsame := sameSum_withField second heven
    (checksum32 protocolId (withField first second 0) addr).isLt
  rw [toNat_checksum32] at hsame
  rw [checksum32_eq_zero_iff, hlength]
  apply complement_iff (onesSum_lt _) (onesSum_lt _) (Nat.mod_lt _ (by omega))
  rwa [stored, toNat_checksum32]

/-- `_checksum` is the ones' complement sum whatever the length. A packet with its checksum stored verifies, and does not when its
words sum to something else, exactly when the first sum with the pseudo header, the length and the protocol stays in 32 bits. -/
theorem checksum32_detects_iff (addr first second : List UInt8) (heven : first.length % 2 = 0) :
    (∀ bytes, (_checksum32 bytes).toNat = onesSum bytes) ∧
    ((checksum32 protocolId (stored protocolId addr first second) addr = 0 ∧
        ∀ packet : List UInt8, packet.length = (stored protocolId addr first second).length →
          onesSum packet % 65535 ≠ onesSum (stored protocolId addr first second) % 65535 →
          checksum32 protocolId packet addr ≠ 0) ↔
      onesSum (withField first second 0) +
        (onesSum addr + (withField first second 0).length + protocolId.toNat) % 4294967296 < 4294967296) := by
  refine ⟨toNat_checksum32_bytes, ?_⟩
  constructor
  · intro h
    exact (stored_verifies_iff heven).mp h.1
  · intro hsum
    have hstored := (stored_verifies_iff heven).mpr hsum
    refine ⟨hstored, ?_⟩
    intro packet hsize hdiffers hzero
    have hrest : rest protocolId addr (stored protocolId addr first second).length < 4294967296 :=
      Nat.mod_lt _ (by omega)
    rw [checksum32_eq_zero_iff] at hstored hzero
    rw [hsize] at hzero
    have hfull := lt_of_verifies (onesSum_lt _) hrest hstored
    have hpacket := lt_of_verifies (onesSum_lt _) hrest hzero
    apply hdiffers
    omega

/-- A UDP packet of two bytes with the checksum before them. -/
theorem checksum32_detects_short :
    checksum32 17 (stored 17 [] [] [0x12, 0x34]) [] = 0 :=
  ((checksum32_detects_iff 17 [] [] [0x12, 0x34] rfl).2.mpr (by decide)).1

theorem wordSum_replicate_zero (n : ℕ) : wordSum (List.replicate n 0) = 0 := by
  induction n using Nat.twoStepInduction with
  | zero => rfl
  | one => rfl
  | more n ih _ =>
    rw [List.replicate_succ, List.replicate_succ, wordSum, ih]
    decide

/-- Two bytes of ones before zeros sum to 65535 however many zeros there are. -/
theorem onesSum_ones_zeros (n : ℕ) : onesSum (withField [] (0xFF :: 0xFF :: List.replicate n 0) 0) = 65535 := by
  obtain ⟨hzero, hmod⟩ := sameSum_onesSum (withField [] (0xFF :: 0xFF :: List.replicate n 0) 0)
  have hones : (0xFF : UInt8).toNat * 256 + (0xFF : UInt8).toNat = 65535 := rfl
  have hsum : wordSum (withField [] (0xFF :: 0xFF :: List.replicate n 0) 0) = 65535 := by
    rw [wordSum_withField _ rfl (by omega), wordSum, wordSum_replicate_zero, wordSum, hones]
  have hlt := onesSum_lt (withField [] (0xFF :: 0xFF :: List.replicate n 0) 0)
  omega

/-- A packet just below the largest length: the sum over the empty field leaves the accumulator as 0, and what is stored does not
verify. -/
theorem not_checksum32_detects :
    checksum32 17 (stored 17 [] [] (0xFF :: 0xFF :: List.replicate 4294901740 0)) [] ≠ 0 := by
  have hprotocol : (17 : uint32).toNat = 17 := rfl
  have hempty : onesSum [] = 0 := rfl
  have hlength (n : ℕ) : (withField [] (0xFF :: 0xFF :: List.replicate n 0) 0).length = n + 4 := by
    rw [length_withField, List.length_cons, List.length_cons, List.length_replicate, List.length_nil]
    omega
  rw [Ne, stored_verifies_iff rfl, onesSum_ones_zeros, hlength, hprotocol, hempty]
  omega

end Detection

end inet.serializer.TCPIPchecksum

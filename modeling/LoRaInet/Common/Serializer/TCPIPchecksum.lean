import LoRaInet.Common.Serializer.Buffer

namespace inet.serializer.TCPIPchecksum

/-- The carries of a 32-bit sum brought back in until it has 16 bits. -/
def fold (sum : ℕ) : ℕ :=
  if h : sum < 65536 then sum else fold (sum % 65536 + sum / 65536)
  termination_by sum
  decreasing_by omega

/-- The loop over the 16-bit words, which folds the sum once when its highest bit is set. -/
def addWords : List UInt8 → ℕ → ℕ
  | first :: second :: rest, sum =>
    let sum := sum + (first.toNat * 256 + second.toNat)
    addWords rest (if sum ≥ 2147483648 then sum % 65536 + sum / 65536 else sum)
  | [last], sum => sum + last.toNat * 256
  | [], sum => sum

variable (bytes : List UInt8)

def _checksum : ℕ := fold (addWords bytes 0)

def checksum : ℕ := 65535 - _checksum bytes

/-- The checksum with a pseudo header. -/
def checksumWith (protocolId : ℕ) (packet addr : List UInt8) : ℕ :=
  65535 - fold (_checksum packet + _checksum addr + packet.length + protocolId)

/-- The sum of the 16-bit words without any folding. -/
def wordSum : List UInt8 → ℕ
  | first :: second :: rest => first.toNat * 256 + second.toNat + wordSum rest
  | [last] => last.toNat * 256
  | [] => 0

/-- Two sums that the folding does not tell apart. -/
def SameSum (m n : ℕ) : Prop := (m = 0 ↔ n = 0) ∧ m % 65535 = n % 65535

theorem SameSum.trans {l m n : ℕ} (hlm : SameSum l m) (hmn : SameSum m n) : SameSum l n :=
  ⟨hlm.1.trans hmn.1, hlm.2.trans hmn.2⟩

theorem SameSum.add_right {m n : ℕ} (h : SameSum m n) (k : ℕ) : SameSum (m + k) (n + k) := by
  obtain ⟨hzero, hmod⟩ := h
  exact ⟨by omega, by omega⟩

variable (sum : ℕ)

theorem sameSum_carry : SameSum (sum % 65536 + sum / 65536) sum :=
  ⟨by omega, by omega⟩

theorem sameSum_fold : SameSum (fold sum) sum := by
  induction sum using fold.induct with
  | case1 sum h =>
    rw [fold, dif_pos h]
    exact ⟨Iff.rfl, rfl⟩
  | case2 sum h ih =>
    rw [fold, dif_neg h]
    exact ih.trans (sameSum_carry sum)

theorem fold_lt : fold sum < 65536 := by
  induction sum using fold.induct with
  | case1 sum h => rwa [fold, dif_pos h]
  | case2 sum h ih => rwa [fold, dif_neg h]

theorem sameSum_addWords : SameSum (addWords bytes sum) (sum + wordSum bytes) := by
  induction bytes, sum using addWords.induct with
  | case1 first second rest sum added ih =>
    have hassoc : sum + wordSum (first :: second :: rest) = added + wordSum rest := by
      rw [wordSum]
      omega
    rw [hassoc, addWords]
    refine ih.trans (SameSum.add_right ?_ (wordSum rest))
    split
    · exact sameSum_carry _
    · exact ⟨Iff.rfl, rfl⟩
  | case2 sum last | case3 sum => exact ⟨Iff.rfl, rfl⟩

theorem sameSum_checksum : SameSum (_checksum bytes) (wordSum bytes) := by
  have hsum := sameSum_addWords bytes 0
  rw [Nat.zero_add] at hsum
  exact (sameSum_fold _).trans hsum

/-- A folded sum of 65535 is what a checksum of 0 is the complement of. -/
theorem fold_eq_iff {sum : ℕ} : fold sum = 65535 ↔ sum ≠ 0 ∧ sum % 65535 = 0 := by
  obtain ⟨hzero, hmod⟩ := sameSum_fold sum
  have hlt := fold_lt sum
  constructor
  · intro h
    rw [h] at hzero hmod
    exact ⟨by omega, by omega⟩
  · rintro ⟨hne, hsum⟩
    omega

theorem checksum_eq_zero_iff {bytes : List UInt8} :
    checksum bytes = 0 ↔ wordSum bytes ≠ 0 ∧ wordSum bytes % 65535 = 0 := by
  obtain ⟨hzero, hmod⟩ := sameSum_checksum bytes
  have hlt : _checksum bytes < 65536 := fold_lt _
  rw [checksum]
  omega

theorem checksum_lt : checksum bytes < 65536 := by
  rw [checksum]
  omega

theorem wordSum_append {first second : List UInt8} (h : first.length % 2 = 0) :
    wordSum (first ++ second) = wordSum first + wordSum second := by
  induction first using wordSum.induct with
  | case1 a b rest ih =>
    have hrest : rest.length % 2 = 0 := by
      rw [List.length_cons, List.length_cons] at h
      omega
    rw [List.cons_append, List.cons_append, wordSum, wordSum, ih hrest]
    omega
  | case2 last => simp at h
  | case3 => rw [List.nil_append, wordSum, Nat.zero_add]

theorem wordSum_bigEndian {value : ℕ} (h : value < 65536) :
    wordSum (bigEndian 2 value) = value := by
  have hhigh : (UInt8.ofNat (value / 256 ^ 1)).toNat = value / 256 ^ 1 % 256 := UInt8.toNat_ofNat'
  have hlow : (UInt8.ofNat (value / 256 ^ 0)).toNat = value / 256 ^ 0 % 256 := UInt8.toNat_ofNat'
  rw [bigEndian, bigEndian, bigEndian, wordSum, wordSum, hhigh, hlow]
  omega

theorem complement_sum {sum folded : ℕ} (h : SameSum folded sum) (hlt : folded < 65536) :
    sum + (65535 - folded) ≠ 0 ∧ (sum + (65535 - folded)) % 65535 = 0 := by
  obtain ⟨hzero, hmod⟩ := h
  exact ⟨by omega, by omega⟩

/-- A checksum that is written at an even place where zeros were makes the checksum of all 0. -/
theorem checksum_of_written (first second : List UInt8) (heven : first.length % 2 = 0) :
    checksum (first ++ bigEndian 2 (checksum (first ++ bigEndian 2 0 ++ second)) ++ second) = 0 := by
  have hlt := checksum_lt (first ++ bigEndian 2 0 ++ second)
  have heven' : ∀ value, (first ++ bigEndian 2 value).length % 2 = 0 := fun value => by
    rw [List.length_append, bigEndian_length]
    omega
  have hsum : ∀ value, value < 65536 →
      wordSum (first ++ bigEndian 2 value ++ second) = wordSum first + value + wordSum second := by
    intro value hvalue
    rw [wordSum_append (heven' value), wordSum_append heven, wordSum_bigEndian hvalue]
  rw [checksum_eq_zero_iff, hsum _ hlt]
  have hzero := sameSum_checksum (first ++ bigEndian 2 0 ++ second)
  rw [hsum 0 (by omega)] at hzero
  have hcomplement := complement_sum hzero (fold_lt _)
  have hrearrange : wordSum first + checksum (first ++ bigEndian 2 0 ++ second) + wordSum second =
      wordSum first + 0 + wordSum second +
        (65535 - _checksum (first ++ bigEndian 2 0 ++ second)) := by
    rw [checksum]
    omega
  rw [hrearrange]
  exact hcomplement

/-- The same with a pseudo header, which adds a constant to both sums. -/
theorem checksumWith_of_written (protocolId : ℕ) (addr first second : List UInt8)
    (heven : first.length % 2 = 0) :
    checksumWith protocolId (first ++
      bigEndian 2 (checksumWith protocolId (first ++ bigEndian 2 0 ++ second) addr) ++ second)
      addr = 0 := by
  have hbound : ∀ packet : List UInt8, checksumWith protocolId packet addr < 65536 := by
    intro packet
    rw [checksumWith]
    omega
  have heven' : ∀ value, (first ++ bigEndian 2 value).length % 2 = 0 := fun value => by
    rw [List.length_append, bigEndian_length]
    omega
  have hlength : ∀ value, (first ++ bigEndian 2 value ++ second).length =
      first.length + 2 + second.length := fun value => by
    rw [List.length_append, List.length_append, bigEndian_length]
  -- The folded sum of a packet with a value in place of the checksum.
  have hsum : ∀ value, value < 65536 → SameSum
      (fold (_checksum (first ++ bigEndian 2 value ++ second) + _checksum addr +
        (first ++ bigEndian 2 value ++ second).length + protocolId))
      (wordSum first + value + wordSum second + _checksum addr +
        (first.length + 2 + second.length) + protocolId) := by
    intro value hvalue
    have hpacket := sameSum_checksum (first ++ bigEndian 2 value ++ second)
    rw [wordSum_append (heven' value), wordSum_append heven, wordSum_bigEndian hvalue] at hpacket
    rw [hlength]
    exact (sameSum_fold _).trans (((hpacket.add_right _).add_right _).add_right _)
  have hwritten := hsum _ (hbound (first ++ bigEndian 2 0 ++ second))
  have hcomplement := complement_sum (hsum 0 (by omega)) (fold_lt _)
  generalize hvalue : checksumWith protocolId (first ++ bigEndian 2 0 ++ second) addr = value at *
  rw [checksumWith] at hvalue
  rw [hvalue] at hcomplement
  rw [checksumWith]
  obtain ⟨hzero, hmod⟩ := hwritten
  have hlt := fold_lt (_checksum (first ++ bigEndian 2 value ++ second) + _checksum addr +
    (first ++ bigEndian 2 value ++ second).length + protocolId)
  omega

end inet.serializer.TCPIPchecksum

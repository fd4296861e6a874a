import LoRaInet.Kernel.FutureEventSet
import Mathlib.Algebra.Order.Ring.Nat
import Mathlib.Algebra.Order.Group.Nat
import Mathlib.Data.List.Induction
import Mathlib.Tactic.Ring

open omnetpp

namespace inet.serializer

/-- The bytes of a buffer on both sides of its position. -/
structure Buffer where
  before : List UInt8
  after : List UInt8
  errorFound : Bool
  deriving DecidableEq

/-- The last `n` bytes of a number, the most significant one first. -/
def bigEndian : ℕ → ℕ → List UInt8
  | 0, _ => []
  | n + 1, v => UInt8.ofNat (v / 256 ^ n) :: bigEndian n v

def ofBigEndian (bytes : List UInt8) : ℕ := bytes.foldl (fun v byte => v * 256 + byte.toNat) 0

@[simp] theorem bigEndian_length (n v : ℕ) : (bigEndian n v).length = n := by
  induction n with
  | zero => rfl
  | succ n ih => rw [bigEndian, List.length_cons, ih]

theorem foldl_bigEndian (n v a : ℕ) :
    (bigEndian n v).foldl (fun v byte => v * 256 + byte.toNat) a = a * 256 ^ n + v % 256 ^ n := by
  induction n generalizing a with
  | zero => simp [bigEndian, Nat.mod_one]
  | succ n ih =>
    have hbyte : (UInt8.ofNat (v / 256 ^ n)).toNat = v / 256 ^ n % 256 := UInt8.toNat_ofNat'
    have hsplit : v % 256 ^ (n + 1) = 256 ^ n * (v / 256 ^ n % 256) + v % 256 ^ n := by
      rw [pow_succ, Nat.mod_mul, add_comm]
    rw [bigEndian, List.foldl_cons, ih, hbyte, hsplit]
    ring

theorem ofBigEndian_bigEndian (n v : ℕ) : ofBigEndian (bigEndian n v) = v % 256 ^ n := by
  rw [ofBigEndian, foldl_bigEndian, Nat.zero_mul, Nat.zero_add]

theorem ofBigEndian_lt (bytes : List UInt8) : ofBigEndian bytes < 256 ^ bytes.length := by
  induction bytes using List.reverseRecOn with
  | nil => exact Nat.one_pos
  | append_singleton bytes byte ih =>
    have hbyte : byte.toNat < 256 := byte.toNat_lt
    have hfold : ofBigEndian (bytes ++ [byte]) = ofBigEndian bytes * 256 + byte.toNat :=
      List.foldl_append
    rw [hfold, List.length_append, List.length_singleton, pow_succ]
    omega

namespace Buffer

def ofBytes (bytes : List UInt8) : Buffer := ⟨[], bytes, false⟩

/-- The buffer over the bytes behind the position, at most `maxLength` of them. -/
def sub (base : Buffer) (maxLength : ℕ) : Buffer := ⟨[], base.after.take maxLength, false⟩

/-- The base buffer after the sub-buffer has been written and its bytes skipped. -/
def join (base subBuffer : Buffer) : Buffer :=
  ⟨base.before ++ subBuffer.before,
    subBuffer.after ++ base.after.drop (subBuffer.before.length + subBuffer.after.length),
    base.errorFound || subBuffer.errorFound⟩

variable (b : Buffer)

def getPos : ℕ := b.before.length

def getBufSize : ℕ := b.before.length + b.after.length

def getRemainingSize : ℕ := b.after.length

def setError : Buffer := { b with errorFound := true }

/-- Bytes are written one by one as long as there is space. -/
def writeNBytes : List UInt8 → Buffer → Buffer
  | [], b => b
  | data :: bytes, b =>
    match b.after with
    | [] => b.setError
    | _ :: rest => writeNBytes bytes ⟨b.before ++ [data], rest, b.errorFound⟩

def writeByte (data : UInt8) (b : Buffer) : Buffer := writeNBytes [data] b

def writeUint16 (data : ℕ) (b : Buffer) : Buffer := writeNBytes (bigEndian 2 data) b

def writeUint32 (data : ℕ) (b : Buffer) : Buffer := writeNBytes (bigEndian 4 data) b

def fillNBytes (length : ℕ) (data : UInt8) (b : Buffer) : Buffer :=
  writeNBytes (List.replicate length data) b

def writeByteTo (position : ℕ) (data : UInt8) (b : Buffer) : Buffer :=
  if position < b.before.length then { b with before := b.before.set position data }
  else if position < b.getBufSize then
    { b with after := b.after.set (position - b.before.length) data }
  else b.setError

def writeUint16To (position : ℕ) (data : ℕ) (b : Buffer) : Buffer :=
  writeByteTo (position + 1) (UInt8.ofNat data) (writeByteTo position (UInt8.ofNat (data / 256)) b)

theorem writeNBytes_eq (bytes before after : List UInt8) (errorFound : Bool)
    (h : bytes.length ≤ after.length) :
    writeNBytes bytes ⟨before, after, errorFound⟩ =
      ⟨before ++ bytes, after.drop bytes.length, errorFound⟩ := by
  induction bytes generalizing before after with
  | nil => simp [writeNBytes]
  | cons data bytes ih =>
    cases after with
    | nil => simp at h
    | cons old rest =>
      rw [List.length_cons, List.length_cons, Nat.add_le_add_iff_right] at h
      change writeNBytes bytes ⟨before ++ [data], rest, errorFound⟩ = _
      rw [ih (before ++ [data]) rest h, List.append_assoc]
      rfl

/-- Where there is no space for the first bytes there is none for what follows. -/
theorem writeNBytes_writeNBytes (first second : List UInt8) (b : Buffer) :
    writeNBytes second (writeNBytes first b) = writeNBytes (first ++ second) b := by
  induction first generalizing b with
  | nil => rfl
  | cons data first ih =>
    obtain ⟨before, after, errorFound⟩ := b
    cases after with
    | nil => cases second <;> rfl
    | cons old rest => exact ih ⟨before ++ [data], rest, errorFound⟩

theorem foldl_writeNBytes {A : Type} (bytes : A → List UInt8) (l : List A) (b : Buffer) :
    l.foldl (fun b a => writeNBytes (bytes a) b) b = writeNBytes (l.flatMap bytes) b := by
  induction l generalizing b with
  | nil => rfl
  | cons a l ih => rw [List.foldl_cons, ih, writeNBytes_writeNBytes, List.flatMap_cons]

theorem writeUint16To_before (first second after : List UInt8) (old value : ℕ) (errorFound : Bool) :
    writeUint16To first.length value ⟨first ++ bigEndian 2 old ++ second, after, errorFound⟩ =
      ⟨first ++ bigEndian 2 value ++ second, after, errorFound⟩ := by
  simp [writeUint16To, writeByteTo, bigEndian, List.set_append]

end Buffer

/-- What a deserializer does: it moves the position of a buffer, or ends in a fault. -/
abbrev Reading := StateT Buffer (Except Fault)

namespace Reading

/-- Returns 0 when there is not enough space. -/
def readByte : Reading UInt8 := fun b =>
  match b.after with
  | [] => .ok (0, b.setError)
  | byte :: rest => .ok (byte, ⟨b.before ++ [byte], rest, b.errorFound⟩)

def readNBytes : ℕ → Reading (List UInt8)
  | 0 => pure []
  | n + 1 => do
    let byte ← readByte
    let bytes ← readNBytes n
    return byte :: bytes

/-- The bytes that are missing count as 0. -/
def readUint (n : ℕ) : Reading ℕ := do
  let bytes ← readNBytes n
  return ofBigEndian bytes

def readUint16 : Reading ℕ := readUint 2

def readUint32 : Reading ℕ := readUint 4

/-- Skips bytes, and everything when there is not enough space. -/
def accessNBytes (length : ℕ) : Reading (Option (List UInt8)) := fun b =>
  if length ≤ b.after.length then
    .ok (some (b.after.take length), ⟨b.before ++ b.after.take length, b.after.drop length, b.errorFound⟩)
  else .ok (none, ⟨b.before ++ b.after, [], true⟩)

/-- Moves the position, to the end when it would lie behind it. -/
def seek (newpos : ℕ) : Reading Unit := fun b =>
  if newpos ≤ b.getBufSize then
    .ok ((), ⟨(b.before ++ b.after).take newpos, (b.before ++ b.after).drop newpos, b.errorFound⟩)
  else .ok ((), ⟨b.before ++ b.after, [], true⟩)

def hasError : Reading Bool := fun b => .ok (b.errorFound, b)

/-- From any position with no error so far, the reading takes just these bytes and returns
just this value. -/
def Reads {A : Type} (reading : Reading A) (bytes : List UInt8) (a : A) : Prop :=
  ∀ before rest, reading ⟨before, bytes ++ rest, false⟩ = .ok (a, ⟨before ++ bytes, rest, false⟩)

section Reads

variable {A B : Type} {reading : Reading A} {f : A → Reading B} {bytes later : List UInt8} {a : A}
  {b : B}

@[simp] theorem pure_eq_ok (a : A) (start : Buffer) : (pure a : Reading A) start = .ok (a, start) := rfl

theorem bind_eq_ok {start : Buffer} {result : B × Buffer} : (reading >>= f) start = .ok result ↔
      ∃ a next, reading start = .ok (a, next) ∧ f a next = .ok result := by
  change (reading start >>= fun r => f r.1 r.2) = _ ↔ _
  rw [bind_eq_ok_iff, Prod.exists]

theorem Reads.run_bind (hfirst : Reads reading bytes a) (before rest : List UInt8) :
    (reading >>= f) ⟨before, bytes ++ rest, false⟩ = f a ⟨before ++ bytes, rest, false⟩ := by
  change (reading ⟨before, bytes ++ rest, false⟩ >>= fun r => f r.1 r.2) = _
  rw [hfirst before rest]
  rfl

theorem get_bind {f : Buffer → Reading B} (start : Buffer) :
    ((get : Reading Buffer) >>= f) start = f start start := rfl

theorem hasError_bind {f : Bool → Reading B} (start : Buffer) :
    (hasError >>= f) start = f start.errorFound start := rfl

theorem Reads.all (h : Reads reading bytes a) (before : List UInt8) :
    reading ⟨before, bytes, false⟩ = .ok (a, ⟨before ++ bytes, [], false⟩) := by
  have hrun := h before []
  rwa [List.append_nil] at hrun

theorem Reads.all_bind (h : Reads reading bytes a) (before : List UInt8) :
    (reading >>= f) ⟨before, bytes, false⟩ = f a ⟨before ++ bytes, [], false⟩ := by
  have hrun := h.run_bind (f := f) before []
  rwa [List.append_nil] at hrun

theorem Reads.pure (a : A) : Reads (pure a) [] a := by
  intro before rest
  rw [List.append_nil]
  rfl

theorem Reads.bind (hfirst : Reads reading bytes a) (hthen : Reads (f a) later b) :
    Reads (reading >>= f) (bytes ++ later) b := by
  intro before rest
  rw [List.append_assoc, hfirst.run_bind before (later ++ rest), hthen (before ++ bytes) rest,
    List.append_assoc]

theorem Reads.map (hfirst : Reads reading bytes a) (g : A → B) :
    Reads (reading >>= fun a => Pure.pure (g a)) bytes (g a) := by
  have hthen := hfirst.bind (f := fun a => Pure.pure (g a)) (Reads.pure (g a))
  rwa [List.append_nil] at hthen

theorem reads_readByte (byte : UInt8) : Reads readByte [byte] byte := fun _ _ => rfl

theorem reads_readNBytes (bytes : List UInt8) : Reads (readNBytes bytes.length) bytes bytes := by
  induction bytes with
  | nil => exact Reads.pure []
  | cons byte bytes ih => exact (reads_readByte byte).bind (ih.map (byte :: ·))

theorem reads_readUint (n v : ℕ) : Reads (readUint n) (bigEndian n v) (v % 256 ^ n) := by
  have hread := (reads_readNBytes (bigEndian n v)).map ofBigEndian
  rwa [ofBigEndian_bigEndian, bigEndian_length] at hread

theorem reads_hasError : Reads hasError [] false := by
  intro before rest
  rw [List.append_nil]
  rfl

theorem reads_accessNBytes (bytes : List UInt8) :
    Reads (accessNBytes bytes.length) bytes (some bytes) := by
  intro before rest
  rw [accessNBytes, if_pos (by simp)]
  simp

end Reads

end Reading

end inet.serializer

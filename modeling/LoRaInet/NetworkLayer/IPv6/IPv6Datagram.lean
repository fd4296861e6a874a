import LoRaInet.Common.Serializer.IPv6.IPv6Serializer
import Mathlib.Data.Int.Notation
import Mathlib.Data.List.DropRight

open omnetpp

namespace inet

namespace IPv6ExtensionHeader

def IP_PROT_IPv6EXT_HOP : UInt8 := 0

def IP_PROT_IPv6EXT_DEST : UInt8 := 60

def IP_PROT_IPv6EXT_ROUTING : UInt8 := 43

def IP_PROT_IPv6EXT_FRAGMENT : UInt8 := 44

def IP_PROT_IPv6EXT_AUTH : UInt8 := 51

def IP_PROT_IPv6EXT_ESP : UInt8 := 50

def IP_PROT_IPv6EXT_MOB : UInt8 := 135

/-- A second destination options header has order 6, but only when it is added. -/
def getExtensionHeaderOrder (eh : IPv6ExtensionHeader) : ℤ :=
  if eh.getExtensionType = IP_PROT_IPv6EXT_HOP then 0
  else if eh.getExtensionType = IP_PROT_IPv6EXT_DEST then 1
  else if eh.getExtensionType = IP_PROT_IPv6EXT_ROUTING then 2
  else if eh.getExtensionType = IP_PROT_IPv6EXT_FRAGMENT then 3
  else if eh.getExtensionType = IP_PROT_IPv6EXT_AUTH then 4
  else if eh.getExtensionType = IP_PROT_IPv6EXT_ESP then 5
  else if eh.getExtensionType = IP_PROT_IPv6EXT_MOB then 7
  else -1

end IPv6ExtensionHeader

/-- A datagram with its name and its length, which the program sets apart from its contents. -/
structure IPv6Packet (P : Type) extends IPv6Datagram (Option P) where
  name : String
  byteLength : ℕ
  deriving DecidableEq

namespace IPv6Datagram

open IPv6ExtensionHeader

def IPv6_HEADER_BYTES : ℕ := 40

/-- The search for the place of a header among those that are left. -/
def insertExtensionHeader (eh : IPv6ExtensionHeader) :
    ℤ → List IPv6ExtensionHeader → Except Fault (List IPv6ExtensionHeader)
  | _, [] => .ok [eh]
  | thisOrder, that :: rest =>
    let thatOrder := that.getExtensionHeaderOrder
    if thisOrder ≠ -1 ∧ thatOrder > thisOrder then .ok (eh :: that :: rest)
    else if thisOrder = thatOrder ∧ thisOrder ≠ 1 ∧ thisOrder ≠ -1 then
      .error (.cRuntimeError
        s!"addExtensionHeader() duplicate extension header: {eh.getExtensionType.toNat}")
    else do
      let thisOrder := if thisOrder = thatOrder ∧ thisOrder = 1 then 6 else thisOrder
      let rest ← insertExtensionHeader eh thisOrder rest
      return that :: rest

variable (extensionHeaders : List IPv6ExtensionHeader)

def addExtensionHeader (eh : IPv6ExtensionHeader) : Except Fault (List IPv6ExtensionHeader) := do
  ASSERT (eh.getByteLength ≥ 1 ∧ eh.getByteLength % 8 = 0)
    "(eh->getByteLength() >= 1) && (eh->getByteLength() % 8 == 0)"
  insertExtensionHeader eh eh.getExtensionHeaderOrder extensionHeaders

/-- The headers of a copy. They are added one by one. -/
def copy : Except Fault (List IPv6ExtensionHeader) :=
  extensionHeaders.foldlM addExtensionHeader []

def byteLengths : ℕ :=
  (extensionHeaders.map IPv6ExtensionHeader.getByteLength).sum

/-- The headers up to the last one that every node on the way reads. -/
def unfragmentable : List IPv6ExtensionHeader :=
  extensionHeaders.rdropWhile fun eh =>
    eh.getExtensionType ≠ IP_PROT_IPv6EXT_ROUTING ∧ eh.getExtensionType ≠ IP_PROT_IPv6EXT_HOP

def calculateUnfragmentableHeaderByteLength : ℕ :=
  40 + byteLengths (unfragmentable extensionHeaders)

/-- The length that is left behind the fragment header. -/
def lengthBehindFragmentHeader : List IPv6ExtensionHeader → ℤ → Except Fault ℤ
  | [], _ => .error (.cRuntimeError
      "ASSERT: IPv6Datagram::calculateFragmentLength() called on non-fragment datagram")
  | eh :: rest, len =>
    if eh.getExtensionType = IP_PROT_IPv6EXT_FRAGMENT then .ok (len - eh.getByteLength)
    else lengthBehindFragmentHeader rest (len - eh.getByteLength)

def calculateFragmentLength {P : Type} (datagram : IPv6Packet P) : Except Fault ℤ :=
  lengthBehindFragmentHeader datagram.extensionHeader (datagram.byteLength - IPv6_HEADER_BYTES)

def removeExtensionHeader (extensionType : UInt8) (extensionHeaders : List IPv6ExtensionHeader) :
    List IPv6ExtensionHeader :=
  extensionHeaders.eraseP fun eh => eh.getExtensionType = extensionType

end IPv6Datagram

end inet

namespace inet.IPv6Datagram

open IPv6ExtensionHeader

variable {eh that : IPv6ExtensionHeader} {thisOrder order : ℤ}
  {headers headers' front back : List IPv6ExtensionHeader}

/-- The order with which the search goes on behind a header, if it does. -/
def pass (thisOrder : ℤ) (that : IPv6ExtensionHeader) : Option ℤ :=
  let thatOrder := that.getExtensionHeaderOrder
  if thisOrder ≠ -1 ∧ thatOrder > thisOrder then none
  else if thisOrder = thatOrder ∧ thisOrder ≠ 1 ∧ thisOrder ≠ -1 then none
  else some (if thisOrder = thatOrder ∧ thisOrder = 1 then 6 else thisOrder)

def passAll (thisOrder : ℤ) (headers : List IPv6ExtensionHeader) : Option ℤ :=
  headers.foldlM pass thisOrder

theorem passAll_append : passAll thisOrder (front ++ back) =
    (passAll thisOrder front).bind fun order => passAll order back :=
  List.foldlM_append

theorem passAll_cons : passAll thisOrder (that :: back) =
    (pass thisOrder that).bind fun order => passAll order back :=
  List.foldlM_cons

theorem pass_eq_some (h : pass thisOrder that = some order) :
    order = thisOrder ∨ thisOrder = 1 ∧ order = 6 := by
  unfold pass at h
  simp only at h
  split at h
  · cases h
  · split at h
    · cases h
    · have heq := Option.some.inj h
      split at heq
      · next hdest => exact .inr ⟨hdest.2, heq.symm⟩
      · exact .inl heq.symm

theorem passAll_eq_some (h : passAll thisOrder headers = some order) :
    order = thisOrder ∨ thisOrder = 1 ∧ order = 6 := by
  induction headers generalizing thisOrder with
  | nil => exact .inl (Option.some.inj h).symm
  | cons that rest ih =>
    rw [passAll_cons] at h
    obtain ⟨next, hnext, hrest⟩ := Option.bind_eq_some_iff.mp h
    rcases pass_eq_some hnext with rfl | ⟨rfl, rfl⟩
    · exact ih hrest
    · rcases ih hrest with rfl | ⟨hsix, -⟩
      · exact .inr ⟨rfl, rfl⟩
      · cases hsix

theorem le_of_pass (h : pass thisOrder that = some order) :
    thisOrder = -1 ∨ that.getExtensionHeaderOrder ≤ thisOrder := by
  unfold pass at h
  simp only at h
  split at h
  · cases h
  · next hbreak =>
    by_cases hunknown : thisOrder = -1
    · exact .inl hunknown
    · exact .inr (not_lt.mp fun hlt => hbreak ⟨hunknown, hlt⟩)

theorem pass_of_lt (h : thisOrder = -1 ∨ that.getExtensionHeaderOrder < thisOrder) :
    pass thisOrder that = some thisOrder := by
  unfold pass
  simp only
  rw [if_neg (by omega), if_neg (by omega), if_neg (by omega)]

theorem insertExtensionHeader_eq_ok
    (h : insertExtensionHeader eh thisOrder headers = .ok headers') :
    ∃ front back order, headers = front ++ back ∧ headers' = front ++ eh :: back ∧
      passAll thisOrder front = some order ∧
      ∀ that ∈ back.head?, order ≠ -1 ∧ that.getExtensionHeaderOrder > order := by
  induction headers generalizing thisOrder headers' with
  | nil =>
    cases h
    exact ⟨[], [], thisOrder, rfl, rfl, rfl, fun that hthat => absurd hthat (Option.not_mem_none that)⟩
  | cons that rest ih =>
    unfold insertExtensionHeader at h
    simp only at h
    split at h
    · next hbreak =>
      cases h
      refine ⟨[], that :: rest, thisOrder, rfl, rfl, rfl, fun next hnext => ?_⟩
      cases hnext
      exact hbreak
    · next hbreak =>
      split at h
      · cases h
      · next hduplicate =>
        obtain ⟨inserted, hinserted, h⟩ := bind_eq_ok_iff.mp h
        cases h
        obtain ⟨front, back, order, rfl, rfl, hpass, hback⟩ := ih hinserted
        refine ⟨that :: front, back, order, rfl, rfl, ?_, hback⟩
        rw [passAll_cons, pass, if_neg hbreak, if_neg hduplicate]
        exact hpass

theorem insertExtensionHeader_of_passAll (h : passAll thisOrder headers = some order) :
    insertExtensionHeader eh thisOrder headers = .ok (headers ++ [eh]) := by
  induction headers generalizing thisOrder with
  | nil => rfl
  | cons that rest ih =>
    rw [passAll_cons] at h
    obtain ⟨next, hnext, hrest⟩ := Option.bind_eq_some_iff.mp h
    unfold pass at hnext
    simp only at hnext
    unfold insertExtensionHeader
    split at hnext
    · cases hnext
    · next hbreak =>
      split at hnext
      · cases hnext
      · next hduplicate =>
        rw [if_neg hbreak, if_neg hduplicate, Option.some.inj hnext]
        dsimp only
        rw [ih hrest]
        rfl

/-- Each header has its place behind those in front of it. -/
def Ordered (headers : List IPv6ExtensionHeader) : Prop :=
  ∀ front eh back, headers = front ++ eh :: back →
    (eh.getByteLength ≥ 1 ∧ eh.getByteLength % 8 = 0) ∧
      ∃ order, passAll eh.getExtensionHeaderOrder front = some order

theorem ordered_nil : Ordered [] := by
  intro front eh back heq
  cases front with
  | nil | cons first front => cases heq

/-- What is in front of a header stands where it stood before another one came between. -/
theorem passAll_between (hpass : passAll thisOrder (front ++ back) = some order)
    (hlow : ∀ that ∈ back.head?, eh.getExtensionHeaderOrder < that.getExtensionHeaderOrder)
    (hnil : back = [] → eh.getExtensionHeaderOrder < thisOrder) :
    ∃ order, passAll thisOrder (front ++ eh :: back) = some order := by
  rw [passAll_append] at hpass
  obtain ⟨next, hfront, hback⟩ := Option.bind_eq_some_iff.mp hpass
  have hnext := passAll_eq_some hfront
  refine ⟨order, ?_⟩
  have heh : pass next eh = some next := by
    apply pass_of_lt
    cases back with
    | nil =>
      have hlt := hnil rfl
      omega
    | cons that rest =>
      rw [passAll_cons] at hback
      obtain ⟨next', hthat, -⟩ := Option.bind_eq_some_iff.mp hback
      have hlt := hlow that rfl
      rcases le_of_pass hthat with hunknown | hle
      · exact .inl hunknown
      · exact .inr (hlt.trans_le hle)
  rw [passAll_append, hfront]
  change passAll next (eh :: back) = some order
  rw [passAll_cons, heh]
  exact hback

theorem Ordered.add (h : Ordered headers) (hadd : addExtensionHeader headers eh = .ok headers') :
    Ordered headers' := by
  obtain ⟨_, hlength, hinsert⟩ := bind_eq_ok_iff.mp hadd
  have hlength := assert_eq_ok.mp hlength
  obtain ⟨front, back, order, rfl, rfl, hpass, hback⟩ := insertExtensionHeader_eq_ok hinsert
  have horder := passAll_eq_some hpass
  intro front' eh' back' heq
  rcases List.append_eq_append_iff.mp heq with ⟨middle, rfl, hrest⟩ | ⟨middle, rfl, hrest⟩
  · cases middle with
    | nil =>
      cases hrest
      rw [List.append_nil]
      exact ⟨hlength, order, hpass⟩
    | cons first middle =>
      cases hrest
      obtain ⟨hlength', order', hpass'⟩ := h (front ++ middle) eh' back' (by simp)
      refine ⟨hlength', passAll_between hpass' (fun that hthat => ?_) fun hnil => ?_⟩
      · have hhead : that ∈ (middle ++ eh' :: back').head? := by
          rw [List.head?_append, Option.mem_def.mp hthat]
          rfl
        have hlow := hback that hhead
        omega
      · subst hnil
        have hlow := hback eh' rfl
        omega
  · cases middle with
    | nil =>
      cases hrest
      rw [List.append_nil] at hpass
      exact ⟨hlength, order, hpass⟩
    | cons first middle =>
      cases hrest
      exact h front' eh' (middle ++ back) (by simp)

theorem Ordered.foldlM (h : Ordered headers) {added : List IPv6ExtensionHeader}
    (hadd : added.foldlM addExtensionHeader headers = .ok headers') : Ordered headers' := by
  induction added generalizing headers with
  | nil =>
    cases hadd
    exact h
  | cons eh added ih =>
    rw [List.foldlM_cons] at hadd
    obtain ⟨next, hnext, hrest⟩ := bind_eq_ok_iff.mp hadd
    exact ih (h.add hnext) hrest

/-- A list of headers that `addExtensionHeader` has made. -/
def Allowed (headers : List IPv6ExtensionHeader) : Prop :=
  ∃ added : List IPv6ExtensionHeader, added.foldlM addExtensionHeader [] = .ok headers

theorem Allowed.ordered (h : Allowed headers) : Ordered headers := by
  obtain ⟨added, hadded⟩ := h
  exact ordered_nil.foldlM hadded

theorem Ordered.copy_eq (h : Ordered headers) : copy headers = .ok headers := by
  have hcopy : ∀ (back front : List IPv6ExtensionHeader), headers = front ++ back →
      back.foldlM addExtensionHeader front = .ok headers := by
    intro back
    induction back with
    | nil =>
      rintro front rfl
      rw [List.append_nil]
      rfl
    | cons eh back ih =>
      intro front heq
      obtain ⟨hlength, order, hpass⟩ := h front eh back heq
      have hadd : addExtensionHeader front eh = .ok (front ++ [eh]) := by
        unfold addExtensionHeader
        rw [assert_bind hlength]
        exact insertExtensionHeader_of_passAll hpass
      rw [List.foldlM_cons, hadd]
      exact ih (front ++ [eh]) (by simp [heq])
  exact hcopy headers [] rfl

end inet.IPv6Datagram

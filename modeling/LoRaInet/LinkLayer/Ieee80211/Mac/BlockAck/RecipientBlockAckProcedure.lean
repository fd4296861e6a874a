import LoRaInet.Container.OrderedMap
import LoRaInet.Kernel.Assert
import LoRaInet.NetworkLayer.Common.InterfaceEntry
import Mathlib.Data.Int.ModEq
import Mathlib.Data.Prod.Lex
import Mathlib.Tactic.Ring

namespace inet.ieee80211

abbrev Tid := ℤ

/-- Sequence numbers are 16-bit integers, of which frames carry twelve bits. The remainder is
that of the language, which keeps the sign of the dividend. -/
def sequenceNumberDistance (number1 number2 : ℤ) : ℤ :=
  (number2 - number1 + 4096).tmod 4096

def isSequenceNumberTooOld (number nextExpected range : ℤ) : Bool :=
  sequenceNumberDistance nextExpected number > range

def isSequenceNumberLess (number1 number2 nextExpected range : ℤ) : Bool :=
  let d1 := sequenceNumberDistance nextExpected number1
  let d2 := sequenceNumberDistance nextExpected number2
  if d1 < range ∧ d2 < range then d1 < d2
  else if d1 < range ∧ d2 ≥ range then false
  else if d1 ≥ range ∧ d2 < range then true
  else d1 < d2

inductive AckPolicy where
  | NORMAL_ACK
  | NO_ACK
  | NO_EXPLICIT_ACK
  | BLOCK_ACK
  deriving DecidableEq

/-- What of a QoS data frame the receiver of a block ack agreement reads. -/
structure Ieee80211DataFrame where
  sequenceNumber : ℤ
  fragmentNumber : ℤ
  moreFragments : Bool
  ackPolicy : AckPolicy

structure Ieee80211BasicBlockAckReq where
  transmitterAddress : MACAddress
  tidInfo : Tid
  startingSequenceNumber : ℤ

/-- The variants of a BlockAckReq frame. -/
inductive Ieee80211BlockAckReq where
  | basic (frame : Ieee80211BasicBlockAckReq)
  | compressed (transmitterAddress : MACAddress) (tidInfo : Tid)
    (startingSequenceNumber : ℤ)
  | multiTid (transmitterAddress : MACAddress)

/-- Row `k` of the bitmap is for the starting sequence number plus `k`, with a bit for each
fragment number. -/
structure Ieee80211BasicBlockAck where
  receiverAddress : MACAddress
  compressedBitmap : Bool
  startingSequenceNumber : ℤ
  tidInfo : Tid
  blockAckBitmap : List (List Bool)
  deriving DecidableEq

end inet.ieee80211

open container omnetpp

namespace inet.ieee80211

structure BlockAckRecord where
  originatorAddress : MACAddress
  tid : Tid
  acknowledgmentState : OrderedMap (ℤ ×ₗ ℤ) Bool

namespace BlockAckRecord

def blockAckPolicyFrameReceived (frame : Ieee80211DataFrame) (record : BlockAckRecord) :
    BlockAckRecord :=
  { record with
    acknowledgmentState :=
      record.acknowledgmentState.assign (toLex (frame.sequenceNumber, frame.fragmentNumber)) true }

/-- The last test compares the value of the earliest entry, not its sequence number. -/
def getAckState (record : BlockAckRecord) (sequenceNumber : ℤ) (fragmentNumber : ℤ) : Bool :=
  match record.acknowledgmentState.lookup (toLex (sequenceNumber, fragmentNumber)) with
  | some _ => true
  | none =>
    match record.acknowledgmentState.entries with
    | [] => true
    | earliest :: _ => earliest.2.toInt > sequenceNumber

end BlockAckRecord

structure RecipientBlockAckAgreement where
  blockAckRecord : BlockAckRecord
  startingSequenceNumber : ℤ
  bufferSize : ℤ

namespace RecipientBlockAckAgreement

def blockAckPolicyFrameReceived (frame : Ieee80211DataFrame)
    (agreement : RecipientBlockAckAgreement) : Except Fault RecipientBlockAckAgreement := do
  ASSERT (frame.ackPolicy = .BLOCK_ACK) "frame->getAckPolicy() == BLOCK_ACK"
  return { agreement with
    blockAckRecord := agreement.blockAckRecord.blockAckPolicyFrameReceived frame }

end RecipientBlockAckAgreement

namespace RecipientBlockAckProcedure

/-- The states of the sixteen fragments of one sequence number. -/
def bitmapRow (record : BlockAckRecord) (seqNum : ℤ) : List Bool :=
  (List.range 16).map fun fragNum : ℕ => record.getAckState seqNum (fragNum : ℤ)

def buildBlockAck (blockAckReq : Ieee80211BlockAckReq)
    (agreement : Option RecipientBlockAckAgreement) : Except Fault Ieee80211BasicBlockAck :=
  match blockAckReq, agreement with
  | .basic basicBlockAckReq, some agreement =>
    .ok
      { receiverAddress := basicBlockAckReq.transmitterAddress
        compressedBitmap := false
        startingSequenceNumber := basicBlockAckReq.startingSequenceNumber
        tidInfo := basicBlockAckReq.tidInfo
        blockAckBitmap := (List.range 64).map fun k : ℕ =>
          bitmapRow agreement.blockAckRecord (basicBlockAckReq.startingSequenceNumber + (k : ℤ)) }
  | .basic _, none => .error (.cRuntimeError "ASSERT: Condition 'agreement != nullptr' does not hold")
  | _, _ => .error (.cRuntimeError "Unsupported Block Ack Request")

end RecipientBlockAckProcedure

/-- The bit of a basic BlockAck frame for a row and a fragment number. -/
def Ieee80211BasicBlockAck.acknowledges (blockAck : Ieee80211BasicBlockAck) (k fragNum : ℕ) : Bool :=
  ((blockAck.blockAckBitmap[k]?).bind (·[fragNum]?)).getD false

/-- An MPDU: its MSDU is given by its place in the count of the originator, of which the frame
carries the last twelve bits. -/
structure Mpdu where
  msdu : ℕ
  fragmentNumber : ℕ
  moreFragments : Bool

def Mpdu.frame (mpdu : Mpdu) : Ieee80211DataFrame where
  sequenceNumber := (mpdu.msdu % 4096 : ℕ)
  fragmentNumber := mpdu.fragmentNumber
  moreFragments := mpdu.moreFragments
  ackPolicy := .BLOCK_ACK

variable (received : List Mpdu)

/-- The agreement after some MPDUs have been received. -/
def RecipientBlockAckAgreement.receive
    (agreement : RecipientBlockAckAgreement) : Except Fault RecipientBlockAckAgreement :=
  received.foldlM (fun agreement mpdu => agreement.blockAckPolicyFrameReceived mpdu.frame) agreement

namespace BlockAckRecord

variable {received : List Mpdu} {record : BlockAckRecord}

/-- A record holds what has been received, with nothing but the numbers of the frames. -/
def Holds (record : BlockAckRecord) (received : List Mpdu) : Prop :=
  ∀ (sequenceNumber : ℤ) (fragmentNumber : ℤ),
    record.acknowledgmentState.lookup (toLex (sequenceNumber, fragmentNumber)) =
      if ∃ mpdu ∈ received, mpdu.frame.sequenceNumber = sequenceNumber ∧
        mpdu.frame.fragmentNumber = fragmentNumber then some true else none

theorem holds_received (h : Holds record received) (mpdu : Mpdu) :
    Holds (record.blockAckPolicyFrameReceived mpdu.frame) (received ++ [mpdu]) := by
  intro sequenceNumber fragmentNumber
  rw [blockAckPolicyFrameReceived, OrderedMap.lookup_assign, h]
  have hkey : toLex (sequenceNumber, fragmentNumber) =
      toLex (mpdu.frame.sequenceNumber, mpdu.frame.fragmentNumber) ↔
      mpdu.frame.sequenceNumber = sequenceNumber ∧ mpdu.frame.fragmentNumber = fragmentNumber := by
    rw [toLex_inj, Prod.mk.injEq, eq_comm, @eq_comm _ fragmentNumber]
  by_cases hlast : mpdu.frame.sequenceNumber = sequenceNumber ∧
      mpdu.frame.fragmentNumber = fragmentNumber
  · rw [if_pos (hkey.mpr hlast), if_pos ⟨mpdu, by simp, hlast⟩]
  · rw [if_neg (mt hkey.mp hlast)]
    have hiff : (∃ m ∈ received ++ [mpdu], m.frame.sequenceNumber = sequenceNumber ∧
        m.frame.fragmentNumber = fragmentNumber) ↔
        ∃ m ∈ received, m.frame.sequenceNumber = sequenceNumber ∧
          m.frame.fragmentNumber = fragmentNumber := by
      simp [or_and_right, exists_or, hlast]
    simp only [hiff]

/-- What a lookup answers: besides what was received, everything when nothing was received, and
everything up to sequence number 0. -/
theorem getAckState_iff (h : Holds record received) (sequenceNumber : ℤ) (fragmentNumber : ℤ) :
    record.getAckState sequenceNumber fragmentNumber = true ↔
      (∃ mpdu ∈ received, mpdu.frame.sequenceNumber = sequenceNumber ∧
        mpdu.frame.fragmentNumber = fragmentNumber) ∨ received = [] ∨ sequenceNumber ≤ 0 := by
  rw [getAckState, h]
  by_cases hreceived : ∃ mpdu ∈ received, mpdu.frame.sequenceNumber = sequenceNumber ∧
      mpdu.frame.fragmentNumber = fragmentNumber
  · simp [hreceived]
  · simp only [hreceived, if_false, false_or]
    cases hentries : record.acknowledgmentState.entries with
    | nil =>
      have hnil : received = [] := by
        rw [List.eq_nil_iff_forall_not_mem]
        intro mpdu hmem
        have hnone := OrderedMap.entries_eq_nil_iff.mp hentries
          (toLex (mpdu.frame.sequenceNumber, mpdu.frame.fragmentNumber))
        rw [h, if_pos ⟨mpdu, hmem, rfl, rfl⟩] at hnone
        cases hnone
      simp [hnil]
    | cons earliest rest =>
      obtain ⟨key, value⟩ := earliest
      have hlookup : record.acknowledgmentState.lookup key = some value :=
        OrderedMap.mem_entries_iff.mp (by rw [hentries]; exact (.head _))
      have hheld := h (ofLex key).1 (ofLex key).2
      rw [Prod.mk.eta, toLex_ofLex, hlookup] at hheld
      split at hheld
      · next hexists =>
        obtain ⟨mpdu, hmem, -⟩ := hexists
        cases hheld
        have hne : received ≠ [] := List.ne_nil_of_mem hmem
        rw [decide_eq_true_eq, Bool.toInt_true, or_iff_right hne]
        omega
      · cases hheld

end BlockAckRecord

/-- A new agreement. -/
def RecipientBlockAckAgreement.create (originatorAddress : MACAddress) (tid : Tid)
    (startingSequenceNumber : ℤ) (bufferSize : ℤ) : RecipientBlockAckAgreement :=
  ⟨⟨originatorAddress, tid, .empty⟩, startingSequenceNumber, bufferSize⟩

/-- The MSDU that a sequence number stands for when the window starts at a given MSDU: the one
within half a cycle. -/
def currentMsdu (windowStart : ℕ) (sequenceNumber : ℤ) : ℤ :=
  windowStart - 2048 + (sequenceNumber - (windowStart - 2048)) % 4096

/-- An MPDU is among those received. -/
def Received (msdu : ℤ) (fragmentNumber : ℕ) : Prop :=
  ∃ mpdu ∈ received, (mpdu.msdu : ℤ) = msdu ∧ mpdu.fragmentNumber = fragmentNumber
deriving Decidable

/-- A BlockAck frame acknowledges nothing else than what was received or precedes the window,
and everything from the window on that was received. -/
structure Truthful (received : List Mpdu) (windowStart : ℕ) (blockAck : Ieee80211BasicBlockAck) :
    Prop where
  sound : ∀ k : ℕ, k < 64 → ∀ fragNum : ℕ, fragNum < 16 → blockAck.acknowledges k fragNum = true →
    Received received (currentMsdu windowStart (blockAck.startingSequenceNumber + (k : ℤ))) fragNum ∨
      currentMsdu windowStart (blockAck.startingSequenceNumber + (k : ℤ)) < windowStart
  complete : ∀ k : ℕ, k < 64 → ∀ fragNum : ℕ, fragNum < 16 →
    windowStart ≤ currentMsdu windowStart (blockAck.startingSequenceNumber + (k : ℤ)) →
    Received received (currentMsdu windowStart (blockAck.startingSequenceNumber + (k : ℤ))) fragNum →
    blockAck.acknowledges k fragNum = true
  nothing : received = [] → ∀ k : ℕ, k < 64 → ∀ fragNum : ℕ, fragNum < 16 → blockAck.acknowledges k fragNum = false

/-- Something was received; what the frame has to acknowledge does not lie behind the end of the
sequence numbers; and what it must not acknowledge has not the number 0 and was not received
under its number in an earlier cycle. -/
def Reported (windowStart : ℕ) (startingSequenceNumber : ℤ) : Prop :=
  received ≠ [] ∧ ∀ k : ℕ, k < 64 → ∀ fragNum : ℕ, fragNum < 16 →
    windowStart ≤ currentMsdu windowStart (startingSequenceNumber + (k : ℤ)) →
    if Received received (currentMsdu windowStart (startingSequenceNumber + (k : ℤ))) fragNum then
      startingSequenceNumber + (k : ℤ) < 4096
    else
      startingSequenceNumber + (k : ℤ) ≠ 0 ∧
        ∀ mpdu ∈ received, mpdu.fragmentNumber = fragNum →
          ((mpdu.msdu % 4096 : ℕ) : ℤ) ≠ startingSequenceNumber + (k : ℤ)

section Truthful

variable {received : List Mpdu} {windowStart : ℕ} {agreement : RecipientBlockAckAgreement}

theorem currentMsdu_emod (windowStart : ℕ) (sequenceNumber : ℤ) :
    currentMsdu windowStart sequenceNumber % 4096 = sequenceNumber % 4096 := by
  rw [currentMsdu]
  omega

theorem receive_eq_ok (received : List Mpdu) {earlier : List Mpdu}
    (h : agreement.blockAckRecord.Holds earlier) :
    ∃ agreement', agreement.receive received = .ok agreement' ∧
      agreement'.blockAckRecord.Holds (earlier ++ received) := by
  induction received generalizing agreement earlier with
  | nil => exact ⟨agreement, rfl, by rwa [List.append_nil]⟩
  | cons mpdu received ih =>
    have hassert : mpdu.frame.ackPolicy = .BLOCK_ACK := rfl
    obtain ⟨agreement', hok, hholds⟩ := @ih
      { agreement with
        blockAckRecord := agreement.blockAckRecord.blockAckPolicyFrameReceived mpdu.frame }
      (earlier ++ [mpdu]) (BlockAckRecord.holds_received h mpdu)
    refine ⟨agreement', ?_, by rwa [List.append_assoc] at hholds⟩
    rw [RecipientBlockAckAgreement.receive, List.foldlM_cons,
      RecipientBlockAckAgreement.blockAckPolicyFrameReceived, assert_bind hassert]
    exact hok

variable {blockAck : Ieee80211BasicBlockAck}

theorem acknowledges_buildBlockAck {req : Ieee80211BasicBlockAckReq}
    (hbuild : RecipientBlockAckProcedure.buildBlockAck (.basic req) (some agreement) = .ok blockAck)
    {k fragNum : ℕ} (hk : k < 64) (hfrag : fragNum < 16) :
    blockAck.acknowledges k fragNum =
      agreement.blockAckRecord.getAckState (req.startingSequenceNumber + (k : ℤ)) (fragNum : ℤ) := by
  cases hbuild
  simp [Ieee80211BasicBlockAck.acknowledges, RecipientBlockAckProcedure.bitmapRow, hk, hfrag]

theorem truthful_iff {req : Ieee80211BasicBlockAckReq}
    (hholds : agreement.blockAckRecord.Holds received)
    (hbuild : RecipientBlockAckProcedure.buildBlockAck (.basic req) (some agreement) = .ok blockAck)
    (hnumber : 0 ≤ req.startingSequenceNumber ∧ req.startingSequenceNumber < 4096) :
    Truthful received windowStart blockAck ↔
      Reported received windowStart req.startingSequenceNumber := by
  have hstart : blockAck.startingSequenceNumber = req.startingSequenceNumber := by
    cases hbuild
    rfl
  have hstate : ∀ k : ℕ, k < 64 → ∀ fragNum : ℕ, fragNum < 16 → (blockAck.acknowledges k fragNum = true ↔
      (∃ mpdu ∈ received, ((mpdu.msdu % 4096 : ℕ) : ℤ) = req.startingSequenceNumber + (k : ℤ) ∧
        mpdu.fragmentNumber = fragNum) ∨ received = [] ∨
        req.startingSequenceNumber + (k : ℤ) ≤ 0) := by
    intro k hk fragNum hfrag
    rw [acknowledges_buildBlockAck hbuild hk hfrag, BlockAckRecord.getAckState_iff hholds]
    simp only [Mpdu.frame, Nat.cast_inj]
  constructor
  · rintro ⟨hsound, hcomplete, hnothing⟩
    have hne : received ≠ [] := by
      intro hnil
      have hset := (hstate 0 (by omega) 0 (by omega)).mpr (.inr (.inl hnil))
      rw [hnothing hnil 0 (by omega) 0 (by omega)] at hset
      cases hset
    refine ⟨hne, fun k hk fragNum hfrag hwindow => ?_⟩
    have hsound := hsound k hk fragNum hfrag
    have hcomplete := hcomplete k hk fragNum hfrag
    rw [hstart] at hsound hcomplete
    split
    · next hreceived =>
      rcases (hstate k hk fragNum hfrag).mp (hcomplete hwindow hreceived) with
        ⟨mpdu, -, hmsdu, -⟩ | hnil | hzero
      · omega
      · exact absurd hnil hne
      · omega
    · next hmissing =>
      have hclear : ¬blockAck.acknowledges k fragNum = true := fun hset =>
        (hsound hset).elim hmissing (not_lt.mpr hwindow)
      rw [hstate k hk fragNum hfrag] at hclear
      push Not at hclear
      obtain ⟨hstale, -, hpositive⟩ := hclear
      exact ⟨by omega, fun mpdu hmem hfragment hmsdu => hstale mpdu hmem hmsdu hfragment⟩
  · rintro ⟨hne, hreported⟩
    refine ⟨fun k hk fragNum hfrag hset => ?_, fun k hk fragNum hfrag hwindow hreceived => ?_,
      fun hnil => absurd hnil hne⟩
    · rw [hstart]
      by_contra hnot
      push Not at hnot
      obtain ⟨hmissing, hwindow⟩ := hnot
      have hclear := hreported k hk fragNum hfrag hwindow
      rw [if_neg hmissing] at hclear
      rcases (hstate k hk fragNum hfrag).mp hset with ⟨mpdu, hmem, hmsdu, hfragment⟩ | hnil | hzero
      · exact hclear.2 mpdu hmem hfragment hmsdu
      · exact hne hnil
      · omega
    · rw [hstart] at hwindow hreceived
      have hlow := hreported k hk fragNum hfrag hwindow
      rw [if_pos hreceived] at hlow
      obtain ⟨mpdu, hmem, hmsdu, hfragment⟩ := hreceived
      refine (hstate k hk fragNum hfrag).mpr (.inl ⟨mpdu, hmem, ?_, hfragment⟩)
      have hmod := currentMsdu_emod windowStart (req.startingSequenceNumber + (k : ℤ))
      omega

/-- The BlockAck frame is truthful exactly when nothing that it answers from has wrapped around,
something was received, and MSDU 0 is not asked about before it has arrived. -/
theorem blockAck_truthful_iff (originatorAddress : MACAddress) (tid : Tid)
    (startingSequenceNumber : ℤ) (bufferSize : ℤ) (received : List Mpdu)
    (windowStart : ℕ) (req : Ieee80211BasicBlockAckReq)
    (hnumber : 0 ≤ req.startingSequenceNumber ∧ req.startingSequenceNumber < 4096) :
    ∃ agreement blockAck,
      (RecipientBlockAckAgreement.create originatorAddress tid startingSequenceNumber
        bufferSize).receive received = .ok agreement ∧
      RecipientBlockAckProcedure.buildBlockAck (.basic req) (some agreement) = .ok blockAck ∧
      (Truthful received windowStart blockAck ↔
        Reported received windowStart req.startingSequenceNumber) := by
  have hempty : (RecipientBlockAckAgreement.create originatorAddress tid startingSequenceNumber
      bufferSize).blockAckRecord.Holds [] := by
    intro sequenceNumber fragmentNumber
    simp [RecipientBlockAckAgreement.create]
  obtain ⟨agreement, hreceive, hholds⟩ := receive_eq_ok received hempty
  exact ⟨agreement, _, hreceive, rfl, truthful_iff hholds rfl hnumber⟩

theorem blockAck_truthful_iff_five : ∃ agreement blockAck,
    (RecipientBlockAckAgreement.create 1 0 5 64).receive [⟨5, 0, true⟩, ⟨5, 1, false⟩] =
      .ok agreement ∧
    RecipientBlockAckProcedure.buildBlockAck (.basic ⟨1, 0, 5⟩) (some agreement) = .ok blockAck ∧
    (Truthful [⟨5, 0, true⟩, ⟨5, 1, false⟩] 5 blockAck ↔
      Reported [⟨5, 0, true⟩, ⟨5, 1, false⟩] 5 5) :=
  blockAck_truthful_iff 1 0 5 64 [⟨5, 0, true⟩, ⟨5, 1, false⟩] 5 ⟨1, 0, 5⟩ (by decide)

/-- MSDU 0 is lost and MSDU 1 arrives; the BlockAck frame acknowledges both. -/
theorem blockAck_not_truthful : ∃ agreement blockAck,
    (RecipientBlockAckAgreement.create 1 0 0 64).receive [⟨1, 0, false⟩] = .ok agreement ∧
    RecipientBlockAckProcedure.buildBlockAck (.basic ⟨1, 0, 0⟩) (some agreement) = .ok blockAck ∧
    blockAck.acknowledges 0 0 = true ∧ ¬Truthful [⟨1, 0, false⟩] 0 blockAck := by
  refine ⟨_, _, rfl, rfl, by decide +kernel, fun htruthful => ?_⟩
  have hreceived := htruthful.sound 0 (by decide) 0 (by decide) (by decide +kernel)
  revert hreceived
  decide +kernel

end Truthful

end inet.ieee80211

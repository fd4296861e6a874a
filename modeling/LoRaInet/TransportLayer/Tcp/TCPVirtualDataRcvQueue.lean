import LoRaInet.TransportLayer.Tcp.TCPSegment

open omnetpp

namespace inet.tcp

/-- The virtual functions of a `Region`. A merge that returns false is `none`; a
split gives the new region and what is left. -/
class Region (R : Type) where
  getBegin : R → uint32
  getEnd : R → uint32
  merge : R → R → Option R
  split : R → uint32 → Except Fault (R × R)

inductive CompareStatus where
  | BEFORE | BEFORE_TOUCH | OVERLAP | AFTER_TOUCH | AFTER

/-- `TCPVirtualDataRcvQueue`, with the regions of one of its subclasses. -/
structure TCPVirtualDataRcvQueue (R : Type) where
  rcv_nxt : uint32
  regionList : List R
  deriving DecidableEq

namespace TCPVirtualDataRcvQueue

variable {R : Type} [Region R]

def compare (self other : R) : CompareStatus :=
  if Region.getEnd self = Region.getBegin other then .BEFORE_TOUCH
  else if Region.getBegin self = Region.getEnd other then .AFTER_TOUCH
  else if seqLess (Region.getEnd self) (Region.getBegin other) then .BEFORE
  else if seqLess (Region.getEnd other) (Region.getBegin self) then .AFTER
  else .OVERLAP

def getLength (self : R) : uint32 := Region.getEnd self - Region.getBegin self

variable (q : TCPVirtualDataRcvQueue R)

def str : String :=
  q.regionList.foldl
    (fun res elem => res ++ s!" [{(Region.getBegin elem).toNat}..{(Region.getEnd elem).toNat})")
    s!"rcv_nxt={q.rcv_nxt.toNat}"

def init (startSeq : uint32) : TCPVirtualDataRcvQueue R where
  rcv_nxt := startSeq
  regionList := []

/-- The loop of `merge`, from the last region to the first; `after` has been
passed. -/
def mergeLoop (seg : R) : List R → List R → Except Fault (List R)
  | [], after => .ok (seg :: after)
  | i :: before, after =>
    match compare i seg with
    | .BEFORE => .ok (before.reverse ++ i :: seg :: after)
    | .AFTER => mergeLoop seg before (i :: after)
    | _ =>
      match Region.merge seg i with
      | some seg => mergeLoop seg before after
      | none => .error (.cRuntimeError s!"Model error: merge of region [{(Region.getBegin i).toNat},{(Region.getEnd i).toNat}) with [{(Region.getBegin seg).toNat},{(Region.getEnd seg).toNat}) unsuccessful")

def merge (seg : R) : Except Fault (TCPVirtualDataRcvQueue R) := do
  let regionList ← mergeLoop seg q.regionList.reverse []
  .ok { q with regionList }

/-- The check of a debug build, against the first and the last region. -/
def outOfRange (front back region : R) : Bool :=
  let ob := Region.getBegin front
  let oe := Region.getEnd back
  let nb := Region.getBegin region
  let ne := Region.getEnd region
  let minb := seqMin ob nb
  let maxe := seqMax oe ne
  seqGE minb oe || seqGE minb ne || seqGE ob maxe || seqGE nb maxe

def outOfRangeError (region : R) (str : String) : Fault :=
  .cRuntimeError s!"The new segment is [{(Region.getBegin region).toNat}, {(Region.getEnd region).toNat}) out of the acceptable range at the queue {str}"

/-- `str` is that of the subclass. -/
def checkRange (region : R) (str : String) : Except Fault Unit :=
  match q.regionList.head?, q.regionList.getLast? with
  | some front, some back =>
    if outOfRange front back region then .error (outOfRangeError region str) else .ok ()
  | _, _ => .ok ()

/-- `rcv_nxt` after the merge. -/
def updateRcvNxt : Except Fault (TCPVirtualDataRcvQueue R) :=
  match q.regionList with
  | [] => .error .outOfRange
  | front :: _ =>
    if seqGE q.rcv_nxt (Region.getBegin front) then
      .ok { q with rcv_nxt := Region.getEnd front }
    else .ok q

/-- `insertBytesFromSegment`, from the region that the segment becomes. -/
def insertRegion (region : R) (str : String) : Except Fault (TCPVirtualDataRcvQueue R) := do
  q.checkRange region str
  let q ← q.merge region
  q.updateRcvNxt

def extractTo (seq : uint32) : Except Fault (TCPVirtualDataRcvQueue R × Option R) := do
  ASSERT (seqLE seq q.rcv_nxt) "seqLE(seq, rcv_nxt)"
  match q.regionList with
  | [] => .ok (q, none)
  | reg :: rest =>
    if seqLE seq (Region.getBegin reg) then .ok (q, none)
    else if seqGE seq (Region.getEnd reg) then .ok ({ q with regionList := rest }, some reg)
    else do
      let (first, reg) ← Region.split reg seq
      .ok ({ q with regionList := reg :: rest }, some first)

/-- The minimum of the first byte in the queue and `rcv_nxt`. -/
def getFirstSeqNo : uint32 :=
  match q.regionList with
  | [] => q.rcv_nxt
  | front :: _ => seqMin (Region.getBegin front) q.rcv_nxt

def getAmountOfBufferedBytes : uint32 :=
  q.regionList.foldl (fun bytes elem => bytes + getLength elem) 0

def getLE (fromSeqNum : uint32) : uint32 :=
  match q.regionList.find? fun i =>
      seqLE (Region.getBegin i) fromSeqNum && seqLess fromSeqNum (Region.getEnd i) with
  | some i => Region.getBegin i
  | none => fromSeqNum

def getRE (toSeqNum : uint32) : uint32 :=
  match q.regionList.find? fun i =>
      seqLess (Region.getBegin i) toSeqNum && seqLE toSeqNum (Region.getEnd i) with
  | some i => Region.getEnd i
  | none => toSeqNum

end TCPVirtualDataRcvQueue

/-- The region of the base class: byte counts only. -/
structure VirtualRegion where
  begin : uint32
  endSeq : uint32
  deriving DecidableEq

namespace VirtualRegion

def merge (self other : VirtualRegion) : Option VirtualRegion :=
  if seqLess self.endSeq other.begin || seqLess other.endSeq self.begin then none
  else some {
    begin := if seqLess other.begin self.begin then other.begin else self.begin
    endSeq := if seqLess self.endSeq other.endSeq then other.endSeq else self.endSeq }

def split (self : VirtualRegion) (seq : uint32) : Except Fault (VirtualRegion × VirtualRegion) := do
  ASSERT (seqGreater seq self.begin && seqLess seq self.endSeq)
    "seqGreater(seq, begin) && seqLess(seq, end)"
  .ok (⟨self.begin, seq⟩, ⟨seq, self.endSeq⟩)

instance : Region VirtualRegion where
  getBegin := begin
  getEnd := endSeq
  merge := merge
  split := split

def createRegionFromSegment {M : Type} (tcpseg : TCPSegment M) : VirtualRegion where
  begin := tcpseg.sequenceNo
  endSeq := tcpseg.endSeq

end VirtualRegion

namespace TCPVirtualDataRcvQueue

def insertBytesFromSegment {M : Type} (q : TCPVirtualDataRcvQueue VirtualRegion)
    (tcpseg : TCPSegment M) : Except Fault (TCPVirtualDataRcvQueue VirtualRegion × uint32) := do
  let q ← q.insertRegion (VirtualRegion.createRegionFromSegment tcpseg) q.str
  .ok (q, q.rcv_nxt)

/-- The packet is given by its length. -/
def extractBytesUpTo (q : TCPVirtualDataRcvQueue VirtualRegion) (seq : uint32) :
    Except Fault (TCPVirtualDataRcvQueue VirtualRegion × Option ℕ) := do
  let (q, reg) ← q.extractTo seq
  .ok (q, reg.map fun reg => (getLength reg).toNat)

end TCPVirtualDataRcvQueue

end inet.tcp

import LoRaInet.TransportLayer.Tcp.TCPSegment

open omnetpp

namespace inet.tcp

namespace TCPSACKRexmitQueue

structure Region where
  beginSeqNum : uint32
  endSeqNum : uint32
  sacked : Bool
  rexmitted : Bool

end TCPSACKRexmitQueue

structure TCPSACKRexmitQueue where
  rexmitQueue : List TCPSACKRexmitQueue.Region
  begin : uint32
  endSeq : uint32

namespace TCPSACKRexmitQueue

def new : TCPSACKRexmitQueue where
  rexmitQueue := []
  begin := 0
  endSeq := 0

variable (q : TCPSACKRexmitQueue) (seqNum : uint32)

def init : TCPSACKRexmitQueue :=
  { q with begin := seqNum, endSeq := seqNum }

/-- The condition of the loops that search for a sequence number. -/
def endsBy (i : Region) : Bool := seqLE i.endSeqNum seqNum

def checkLoop (endSeq : uint32) : uint32 → List Region → Bool
  | b, [] => b = endSeq
  | b, elem :: rest =>
    b = elem.beginSeqNum && seqLess elem.beginSeqNum elem.endSeqNum &&
      checkLoop endSeq elem.endSeqNum rest

def checkQueue : Bool := checkLoop q.endSeq q.begin q.rexmitQueue

/-- The test at the end of each change. -/
def checked : Except Fault TCPSACKRexmitQueue := do
  ASSERT q.checkQueue "checkQueue()"
  .ok q

def discardRegions : List Region → Except Fault (List Region)
  | [] => .ok []
  | i :: rest => do
    ASSERT (seqLE i.beginSeqNum seqNum && seqLess seqNum i.endSeqNum)
      "seqLE(i->beginSeqNum, seqNum) && seqLess(seqNum, i->endSeqNum)"
    .ok ({ i with beginSeqNum := seqNum } :: rest)

def discardUpTo : Except Fault TCPSACKRexmitQueue := do
  ASSERT (seqLE q.begin seqNum && seqLE seqNum q.endSeq)
    "seqLE(begin, seqNum) && seqLE(seqNum, end)"
  let rexmitQueue ← discardRegions seqNum (q.rexmitQueue.dropWhile (endsBy seqNum))
  checked { q with rexmitQueue, begin := seqNum }

/-- The region is cut in two where a change begins inside it. -/
def chunk (fromSeqNum : uint32) (i : Region) : List Region × Region :=
  if i.beginSeqNum ≠ fromSeqNum then
    ([{ i with endSeqNum := fromSeqNum }], { i with beginSeqNum := fromSeqNum })
  else ([], i)

def setRexmitted (i : Region) : Region := { i with rexmitted := true }

def setSacked (fromSeqNum : uint32) (i : Region) : Region :=
  if seqGE i.beginSeqNum fromSeqNum then { i with sacked := true } else i

variable (fromSeqNum toSeqNum : uint32)

/-- What is left of a retransmission after the regions that lie in it. -/
def rexmitRest (found : Bool) (rest : List Region) : Except Fault (List Region × Bool) :=
  if fromSeqNum ≠ toSeqNum then
    match rest with
    | [] =>
      let region := { beginSeqNum := fromSeqNum, endSeqNum := toSeqNum, sacked := false, rexmitted := false }
      .ok ([region], true)
    | i :: rest => do
      ASSERT (seqLess i.beginSeqNum toSeqNum)
        "i == rexmitQueue.end() || seqLess(i->beginSeqNum, toSeqNum)"
      let region := { beginSeqNum := fromSeqNum, endSeqNum := toSeqNum, sacked := i.sacked, rexmitted := true }
      .ok (region :: { i with beginSeqNum := toSeqNum } :: rest, true)
  else .ok (rest, found)

/-- A retransmission, from the region in which it begins. -/
def rexmit : List Region → Except Fault (List Region)
  | [] => do
    ASSERT False "i != rexmitQueue.end()"
    .ok []
  | i :: rest => do
    ASSERT (seqLE i.beginSeqNum fromSeqNum && seqLess fromSeqNum i.endSeqNum)
      "seqLE(i->beginSeqNum, fromSeqNum) && seqLess(fromSeqNum, i->endSeqNum)"
    let (cut, i) := chunk fromSeqNum i
    let marked := ((i :: rest).takeWhile (endsBy toSeqNum)).map setRexmitted
    let fromSeqNum := (marked.getLast?.map (·.endSeqNum)).getD fromSeqNum
    let (rest, found) ← rexmitRest fromSeqNum toSeqNum (marked ≠ [])
      ((i :: rest).dropWhile (endsBy toSeqNum))
    ASSERT found "found"
    .ok (cut ++ marked ++ rest)

def enqueueRegions : Except Fault (List Region) :=
  if q.rexmitQueue = [] ∨ q.endSeq = fromSeqNum then
    let region := { beginSeqNum := fromSeqNum, endSeqNum := toSeqNum, sacked := false, rexmitted := false }
    .ok (q.rexmitQueue ++ [region])
  else do
    let rest ← rexmit fromSeqNum toSeqNum (q.rexmitQueue.dropWhile (endsBy fromSeqNum))
    .ok (q.rexmitQueue.takeWhile (endsBy fromSeqNum) ++ rest)

def enqueueSentData : Except Fault TCPSACKRexmitQueue := do
  ASSERT (seqLE q.begin fromSeqNum && seqLE fromSeqNum q.endSeq)
    "seqLE(begin, fromSeqNum) && seqLE(fromSeqNum, end)"
  ASSERT (seqLess fromSeqNum toSeqNum) "seqLess(fromSeqNum, toSeqNum)"
  let rexmitQueue ← q.enqueueRegions fromSeqNum toSeqNum
  match rexmitQueue.head?, rexmitQueue.getLast? with
  | some front, some back =>
    checked { rexmitQueue, begin := front.beginSeqNum, endSeq := back.endSeqNum }
  | _, _ => .error .outOfRange

/-- The part of a region up to the end of the change. -/
def sackRest (toSeqNum : uint32) : List Region → List Region
  | [] => []
  | i :: rest =>
    if seqLess i.beginSeqNum toSeqNum && seqLess toSeqNum i.endSeqNum then
      { i with endSeqNum := toSeqNum, sacked := true } :: { i with beginSeqNum := toSeqNum } :: rest
    else i :: rest

/-- The bits are set from the region in which the change begins. -/
def sack : List Region → Except Fault (List Region)
  | [] => do
    ASSERT False
      "i != rexmitQueue.end() && seqLE(i->beginSeqNum, fromSeqNum) && seqLess(fromSeqNum, i->endSeqNum)"
    .ok []
  | i :: rest => do
    ASSERT (seqLE i.beginSeqNum fromSeqNum && seqLess fromSeqNum i.endSeqNum)
      "i != rexmitQueue.end() && seqLE(i->beginSeqNum, fromSeqNum) && seqLess(fromSeqNum, i->endSeqNum)"
    let (cut, i) := chunk fromSeqNum i
    let marked := ((i :: rest).takeWhile (endsBy toSeqNum)).map (setSacked fromSeqNum)
    let rest := sackRest toSeqNum ((i :: rest).dropWhile (endsBy toSeqNum))
    .ok (cut ++ marked ++ rest)

def sackRegions : Except Fault (List Region) :=
  if q.rexmitQueue = [] then .ok []
  else do
    let rest ← sack fromSeqNum toSeqNum (q.rexmitQueue.dropWhile (endsBy fromSeqNum))
    .ok (q.rexmitQueue.takeWhile (endsBy fromSeqNum) ++ rest)

def setSackedBit : Except Fault TCPSACKRexmitQueue := do
  let fromSeqNum := if seqLess fromSeqNum q.begin then q.begin else fromSeqNum
  ASSERT (seqLess fromSeqNum q.endSeq) "seqLess(fromSeqNum, end)"
  ASSERT (seqLess q.begin toSeqNum && seqLE toSeqNum q.endSeq)
    "seqLess(begin, toSeqNum) && seqLE(toSeqNum, end)"
  ASSERT (seqLess fromSeqNum toSeqNum) "seqLess(fromSeqNum, toSeqNum)"
  let rexmitQueue ← q.sackRegions fromSeqNum toSeqNum
  checked { q with rexmitQueue }

def resetSackedBit : TCPSACKRexmitQueue :=
  { q with rexmitQueue := q.rexmitQueue.map fun elem => { elem with sacked := false } }

def resetRexmittedBit : TCPSACKRexmitQueue :=
  { q with rexmitQueue := q.rexmitQueue.map fun elem => { elem with rexmitted := false } }

def getSackedBit : Except Fault Bool := do
  ASSERT (seqLE q.begin seqNum && seqLE seqNum q.endSeq)
    "seqLE(begin, seqNum) && seqLE(seqNum, end)"
  if q.endSeq = seqNum then .ok false
  else match q.rexmitQueue.dropWhile (endsBy seqNum) with
    | [] => .error (.cRuntimeError "ASSERT: Condition '(i != rexmitQueue.end()) && seqLE(i->beginSeqNum, seqNum) && seqLess(seqNum, i->endSeqNum)' does not hold")
    | i :: _ => do
      ASSERT (seqLE i.beginSeqNum seqNum && seqLess seqNum i.endSeqNum)
        "(i != rexmitQueue.end()) && seqLE(i->beginSeqNum, seqNum) && seqLess(seqNum, i->endSeqNum)"
      .ok i.sacked

def getHighestSackedSeqNum : uint32 :=
  match q.rexmitQueue.reverse.find? (·.sacked) with
  | some i => i.endSeqNum
  | none => q.begin

def getHighestRexmittedSeqNum : uint32 :=
  match q.rexmitQueue.reverse.find? (·.rexmitted) with
  | some i => i.endSeqNum
  | none => q.begin

def forwardLoop : uint32 → uint32 → List Region → Except Fault uint32
  | bytes, _, [] => .ok bytes
  | bytes, fromSeqNum, i :: rest =>
    if i.sacked || i.rexmitted then do
      ASSERT (seqLE i.beginSeqNum fromSeqNum && seqLess fromSeqNum i.endSeqNum)
        "seqLE(i->beginSeqNum, fromSeqNum) && seqLess(fromSeqNum, i->endSeqNum)"
      forwardLoop (bytes + (i.endSeqNum - fromSeqNum)) i.endSeqNum rest
    else .ok bytes

def checkRexmitQueueForSackedOrRexmittedSegments (fromSeqNum : uint32) : Except Fault uint32 := do
  ASSERT (seqLE q.begin fromSeqNum && seqLE fromSeqNum q.endSeq)
    "seqLE(begin, fromSeqNum) && seqLE(fromSeqNum, end)"
  if q.rexmitQueue = [] ∨ q.endSeq = fromSeqNum then .ok 0
  else forwardLoop 0 fromSeqNum (q.rexmitQueue.dropWhile (endsBy fromSeqNum))

def getTotalAmountOfSackedBytes : uint32 :=
  q.rexmitQueue.foldl
    (fun bytes elem => if elem.sacked then bytes + (elem.endSeqNum - elem.beginSeqNum) else bytes) 0

/-- From the last region to the first. -/
def sackedLoop (fromSeqNum : uint32) : uint32 → List Region → uint32
  | bytes, [] => bytes
  | bytes, i :: rest =>
    if seqLE fromSeqNum i.beginSeqNum then
      sackedLoop fromSeqNum (if i.sacked then bytes + (i.endSeqNum - i.beginSeqNum) else bytes) rest
    else if seqLess i.beginSeqNum fromSeqNum && seqLess fromSeqNum i.endSeqNum && i.sacked then
      bytes + (i.endSeqNum - fromSeqNum)
    else bytes

def getAmountOfSackedBytes (fromSeqNum : uint32) : Except Fault uint32 := do
  ASSERT (seqLE q.begin fromSeqNum && seqLE fromSeqNum q.endSeq)
    "seqLE(begin, fromSeqNum) && seqLE(fromSeqNum, end)"
  .ok (sackedLoop fromSeqNum 0 q.rexmitQueue.reverse)

def discontiguousLoop : uint32 → Bool → List Region → uint32
  | counter, _, [] => counter
  | counter, prevSacked, i :: rest =>
    discontiguousLoop (if i.sacked && !prevSacked then counter + 1 else counter) i.sacked rest

def getNumOfDiscontiguousSacks (fromSeqNum : uint32) : Except Fault uint32 := do
  ASSERT (seqLE q.begin fromSeqNum && seqLE fromSeqNum q.endSeq)
    "seqLE(begin, fromSeqNum) && seqLE(fromSeqNum, end)"
  if q.rexmitQueue = [] ∨ fromSeqNum = q.endSeq then .ok 0
  else .ok (discontiguousLoop 0 false (q.rexmitQueue.dropWhile (endsBy fromSeqNum)))

/-- The length of the rest of the region, and its bits. -/
def checkSackBlock (fromSeqNum : uint32) : Except Fault (uint32 × Bool × Bool) := do
  ASSERT (seqLE q.begin fromSeqNum && seqLess fromSeqNum q.endSeq)
    "seqLE(begin, fromSeqNum) && seqLess(fromSeqNum, end)"
  match q.rexmitQueue.dropWhile (endsBy fromSeqNum) with
  | [] => .error (.cRuntimeError "ASSERT: Condition 'i != rexmitQueue.end()' does not hold")
  | i :: _ => do
    ASSERT (seqLE i.beginSeqNum fromSeqNum && seqLess fromSeqNum i.endSeqNum)
      "seqLE(i->beginSeqNum, fromSeqNum) && seqLess(fromSeqNum, i->endSeqNum)"
    .ok (i.endSeqNum - fromSeqNum, i.sacked, i.rexmitted)

end TCPSACKRexmitQueue

def DUPTHRESH : uint32 := 3

/-- What `isLost` reads of the state of a connection. -/
structure TCPStateVariables where
  sack_enabled : Bool
  snd_una : uint32
  snd_mss : uint32

/-- `TCPConnection::isLost`. -/
def isLost (state : TCPStateVariables) (rexmitQueue : TCPSACKRexmitQueue) (seqNum : uint32) :
    Except Fault Bool := do
  ASSERT state.sack_enabled "state->sack_enabled"
  ASSERT (seqGE seqNum state.snd_una) "seqGE(seqNum, state->snd_una)"
  let sacks ← rexmitQueue.getNumOfDiscontiguousSacks seqNum
  if sacks ≥ DUPTHRESH then .ok true
  else do
    let bytes ← rexmitQueue.getAmountOfSackedBytes seqNum
    .ok (bytes ≥ DUPTHRESH * state.snd_mss)

end inet.tcp

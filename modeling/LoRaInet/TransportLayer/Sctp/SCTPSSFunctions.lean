import LoRaInet.Container.Basic
import LoRaInet.Container.CircularScan
import LoRaInet.Container.OrderedMap
import LoRaInet.Kernel.FutureEventSet
import LoRaInet.Transition.Run

open omnetpp container transition

namespace inet.sctp

/-- `byteLength` is that of the encapsulated message. -/
structure SCTPDataMsg where
  enqueuingTime : SimTime
  byteLength : ℕ

structure SCTPSendStream where
  unorderedStreamQ : List SCTPDataMsg
  streamQ : List SCTPDataMsg

namespace SCTPSendStream

variable (stream : SCTPSendStream)

def isWaiting : Bool :=
  0 < stream.unorderedStreamQ.length || 0 < stream.streamQ.length

/-- Size of the first packet in the stream. -/
def packetsize : BitVec 32 :=
  match stream.unorderedStreamQ, stream.streamQ with
  | datMsg :: _, _ => BitVec.ofNat 32 datMsg.byteLength
  | [], datMsg :: _ => BitVec.ofNat 32 datMsg.byteLength
  | [], [] => 0#32

/-- The messages at the fronts of the two queues. -/
def heads : List SCTPDataMsg :=
  stream.unorderedStreamQ.head?.toList ++ stream.streamQ.head?.toList

theorem heads_eq_nil_iff {stream : SCTPSendStream} :
    stream.heads = [] ↔ stream.isWaiting = false := by
  obtain ⟨unordered, ordered⟩ := stream
  cases unordered <;> cases ordered <;> simp [heads, isWaiting]

end SCTPSendStream

structure SCTPStateVariables where
  lastStreamScheduled : ℕ
  ssNextStream : Bool
  ssLastDataChunkSizeSet : Bool
  ssPriorityMap : Map ℕ ℕ
  ssFairBandwidthMap : OrderedMap ℕ (BitVec 32)

/-- The value `operator[]` comes to; an entry that is missing is created as 0. -/
def SCTPStateVariables.priority (state : SCTPStateVariables) (sid : ℕ) : ℕ :=
  (state.ssPriorityMap.lookup sid).getD 0

/-- The keys of `sendStreams` are the numbers below `outboundStreams`. -/
structure SCTPAssociation where
  sendStreams : List SCTPSendStream
  state : SCTPStateVariables

/-- The schedulers that the simulation is configured with, without the random and manual ones. -/
inductive SCTPStreamSchedulers where
  | ROUND_ROBIN
  | ROUND_ROBIN_PACKET
  | FAIR_BANDWITH_PACKET
  | PRIORITY
  | FCFS
  deriving DecidableEq

/-- The stream is missing where the code returns -1. -/
abbrev Scheduled := SCTPStateVariables × Option ℕ

namespace SCTPAssociation

variable (a : SCTPAssociation)

def outboundStreams : ℕ := a.sendStreams.length

def hasData (sid : ℕ) : Bool := (a.sendStreams[sid]?.map SCTPSendStream.isWaiting).getD false

variable (peek : Bool)

/-- The loop of both round robin schedulers. The first leaves it by `break` where the condition
ends that of the second. -/
def nextWithData : Option Scheduled :=
  scan a.outboundStreams (fun r testsid =>
      if a.hasData testsid then
        (if peek then r.1 else { r.1 with lastStreamScheduled := testsid }, some testsid)
      else r)
    (fun r testsid => r.2.isNone && testsid != r.1.lastStreamScheduled)
    a.outboundStreams a.state.lastStreamScheduled (a.state, none)

def streamScheduler : Option Scheduled :=
  let r :=
    if (!a.state.ssLastDataChunkSizeSet || !a.state.ssNextStream) &&
        a.hasData a.state.lastStreamScheduled then
      some ({ a.state with ssNextStream := true }, some a.state.lastStreamScheduled)
    else a.nextWithData peek
  r.map fun r =>
    if r.2.isSome && !peek then ({ r.1 with ssLastDataChunkSizeSet := false }, r.2) else r

def streamSchedulerRoundRobinPacket : Option Scheduled :=
  let r :=
    if a.state.ssNextStream then a.nextWithData peek
    else if a.hasData a.state.lastStreamScheduled then
      some (a.state, some a.state.lastStreamScheduled)
    else some (a.state, none)
  r.map fun r => if r.2.isSome && !peek then ({ r.1 with ssNextStream := false }, r.2) else r

/-- Where a scan for the best stream starts; it ends at the stream scheduled last. -/
def scanStart : ℤ := if a.state.ssNextStream then a.state.lastStreamScheduled else -1

def testPriority (r : Scheduled) (testsid : ℕ) : Scheduled :=
  match r.2 with
  | none => (r.1, some testsid)
  | some sid =>
    ({ r.1 with ssPriorityMap := (r.1.ssPriorityMap.subscript testsid 0).subscript sid 0 },
      if r.1.priority testsid < r.1.priority sid then some testsid else some sid)

/-- The stream that was chosen last, and of which nothing was sent since. -/
def again : Bool :=
  !a.state.ssLastDataChunkSizeSet && a.state.ssNextStream && a.hasData a.state.lastStreamScheduled

def streamSchedulerPriority : Option Scheduled :=
  if a.again then some (a.state, some a.state.lastStreamScheduled)
  else
    (scan a.outboundStreams
      (fun r testsid => if a.hasData testsid then testPriority r testsid else r)
      (fun r testsid => testsid != r.1.lastStreamScheduled)
      a.outboundStreams a.scanStart ({ a.state with ssNextStream := true }, none)).map fun r =>
        match r.2 with
        | some sid =>
          if peek then r
          else ({ r.1 with lastStreamScheduled := sid, ssLastDataChunkSizeSet := false }, r.2)
        | none => r

/-- The stream and `oldestEnqueuing`. -/
def testEnqueuing (testsid : ℕ) (best : Option (ℕ × SimTime)) (datMsg : SCTPDataMsg) :
    Option (ℕ × SimTime) :=
  match best with
  | none => some (testsid, datMsg.enqueuingTime)
  | some b => if datMsg.enqueuingTime < b.2 then some (testsid, datMsg.enqueuingTime) else some b

def testHeads (best : Option (ℕ × SimTime)) (testsid : ℕ) : Option (ℕ × SimTime) :=
  match a.sendStreams[testsid]? with
  | none => best
  | some stream =>
    let best := stream.unorderedStreamQ.head?.elim best (testEnqueuing testsid best)
    stream.streamQ.head?.elim best (testEnqueuing testsid best)

def streamSchedulerFCFS : Option Scheduled :=
  (scan a.outboundStreams a.testHeads (fun _ testsid => testsid != a.state.lastStreamScheduled)
    a.outboundStreams a.scanStart none).map fun best =>
      let state := { a.state with ssNextStream := true }
      match best with
      | some (sid, _) =>
        (if peek then state else { state with lastStreamScheduled := sid }, some sid)
      | none => (state, none)

def initFairBandwidthMap : OrderedMap ℕ (BitVec 32) :=
  a.sendStreams.zipIdx.foldl (fun m e => m.assign e.2 (-1#32)) OrderedMap.empty

/-- What becomes of the entry of a stream. -/
def fairBandwidthEntry (lastDataChunkSize : BitVec 32) (sid : ℕ) (stream : SCTPSendStream)
    (entry : BitVec 32) : BitVec 32 :=
  if stream.isWaiting then
    if entry.toInt < 0 then if 0#32 < stream.packetsize then stream.packetsize else entry
    else if a.state.ssLastDataChunkSizeSet then
      let left := entry - lastDataChunkSize
      let left := if left.toInt < 0 then 0#32 else left
      if sid = a.state.lastStreamScheduled then left + stream.packetsize else left
    else entry
  else -1#32

def updateFairBandwidthMap (m : OrderedMap ℕ (BitVec 32)) : OrderedMap ℕ (BitVec 32) :=
  let lastDataChunkSize := (m.lookup a.state.lastStreamScheduled).getD 0#32
  a.sendStreams.zipIdx.foldl (fun m e => m.assign e.2
      (a.fairBandwidthEntry lastDataChunkSize e.2 e.1 ((m.lookup e.2).getD 0#32)))
    (m.assign a.state.lastStreamScheduled lastDataChunkSize)

/-- The stream and `bandwidth`. -/
def testBandwidth (best : Option (ℕ × BitVec 32)) (elem : ℕ × BitVec 32) : Option (ℕ × BitVec 32) :=
  match best with
  | none => if 0 ≤ elem.2.toInt then some elem else none
  | some b => if elem.2 < b.2 ∧ 0 ≤ elem.2.toInt then some elem else some b

def streamSchedulerFairBandwidthPacket : Scheduled :=
  let state :=
    if a.state.ssFairBandwidthMap.entries.isEmpty then
      { a.state with ssFairBandwidthMap := a.initFairBandwidthMap }
    else a.state
  let map := a.updateFairBandwidthMap state.ssFairBandwidthMap
  let state :=
    if peek then state
    else { state with ssFairBandwidthMap := map, ssLastDataChunkSizeSet := false }
  let sid :=
    if state.ssNextStream then (map.entries.foldl testBandwidth none).map Prod.fst
    else if a.hasData state.lastStreamScheduled then some state.lastStreamScheduled
    else none
  match sid with
  | some sid =>
    (if peek then state else { state with lastStreamScheduled := sid, ssNextStream := false },
      some sid)
  | none => (state, none)

variable (ssModule : SCTPStreamSchedulers)

def ssGetNextSid (peek : Bool) : Option Scheduled :=
  match ssModule with
  | .ROUND_ROBIN => a.streamScheduler peek
  | .ROUND_ROBIN_PACKET => a.streamSchedulerRoundRobinPacket peek
  | .FAIR_BANDWITH_PACKET => some (a.streamSchedulerFairBandwidthPacket peek)
  | .PRIORITY => a.streamSchedulerPriority peek
  | .FCFS => a.streamSchedulerFCFS peek

/-- What happens to an association between two calls of the scheduler, and the calls. -/
inductive Event where
  | schedule (peek : Bool)
  /-- Messages are sent by the application, dequeued or fragmented, streams are added. -/
  | queues (sendStreams : List SCTPSendStream)
  /-- A data chunk is made. -/
  | makeDataVar
  /-- A packet is sent. -/
  | sendToIP
  | setStreamPriority (sid ppid : ℕ)

def step (event : Event) : Option SCTPAssociation :=
  match event with
  | .schedule peek => (a.ssGetNextSid ssModule peek).map fun r => { a with state := r.1 }
  | .queues sendStreams =>
    if a.outboundStreams ≤ sendStreams.length then some { a with sendStreams := sendStreams }
    else none
  | .makeDataVar => some { a with state := { a.state with ssLastDataChunkSizeSet := true } }
  | .sendToIP => some { a with state := { a.state with ssNextStream := true } }
  | .setStreamPriority sid ppid =>
    some { a with
      state := { a.state with ssPriorityMap := a.state.ssPriorityMap.insert sid ppid } }

def Initial : Prop :=
  0 < a.outboundStreams ∧ (∀ stream ∈ a.sendStreams, stream = ⟨[], []⟩) ∧
    a.state = ⟨0, true, false, ∅, OrderedMap.empty⟩

def Step (event : Event) (b : SCTPAssociation) : Prop :=
  a.step ssModule event = some b

end SCTPAssociation

end inet.sctp

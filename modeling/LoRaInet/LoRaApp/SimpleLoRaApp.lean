import LoRaInet.LoRa.Messages
import LoRaInet.Kernel.FutureEventSet
import LoRaInet.Transition.Run

open omnetpp transition

namespace inet

/-- The state of the application. Its one self message, `sendMeasurements`, is
scheduled or not. -/
structure SimpleLoRaApp where
  sentPackets : Int
  receivedADRCommands : Int
  lastSentMeasurement : Int
  ADR_ACK_CNT : Int
  sendNextPacketWithADRACKReq : Bool
  loRaTP : ℚ
  loRaCF : ℚ
  loRaSF : Int
  loRaBW : ℚ
  loRaCR : Int
  loRaUseHeader : Bool
  sfVector : List Int
  tpVector : List ℚ
  fes : FutureEventSet Unit

namespace SimpleLoRaApp

/-- The parameters of the module, with the value that was drawn for
`timeToFirstPacket`. -/
structure Parameters where
  numberOfPacketsToSend : Int := 1
  timeToFirstPacket : SimTime := 10
  initialLoRaTP : ℚ := 14
  initialLoRaCF : ℚ := 868000000
  initialLoRaSF : Int := 12
  initialLoRaBW : ℚ := 125000
  initialLoRaCR : Int := 4
  initialUseHeader : Bool := true
  evaluateADRinNode : Bool := false
  warmupPeriod : SimTime := 0

def ADR_ACK_LIMIT : Int := 64

def ADR_ACK_DELAY : Int := 32

/-- The state after `initialize`. -/
def initial (par : Parameters) : SimpleLoRaApp where
  sentPackets := 0
  receivedADRCommands := 0
  lastSentMeasurement := 0
  ADR_ACK_CNT := 0
  sendNextPacketWithADRACKReq := false
  loRaTP := par.initialLoRaTP
  loRaCF := par.initialLoRaCF
  loRaSF := par.initialLoRaSF
  loRaBW := par.initialLoRaBW
  loRaCR := par.initialLoRaCR
  loRaUseHeader := par.initialUseHeader
  sfVector := []
  tpVector := []
  fes := { simTime := 0, scheduled := [⟨par.timeToFirstPacket, ()⟩] }

def increaseSFIfPossible (s : SimpleLoRaApp) : SimpleLoRaApp :=
  if s.loRaSF < 12 then { s with loRaSF := s.loRaSF + 1 } else s

/-- An uplink sent through `appOut`, with the value emitted after it in
`LoRa_AppPacketSent`. -/
structure Uplink where
  request : LoRaAppPacket
  cInfo : LoRaMacControlInfo
  LoRa_AppPacketSent : Int

variable (par : Parameters)

/-- The packet and the flag after the first block of `sendJoinRequest`. -/
def joinRequest (s : SimpleLoRaApp) (measurement : Int) : SimpleLoRaApp × LoRaAppPacket :=
  let s := { s with lastSentMeasurement := measurement }
  if par.evaluateADRinNode && s.sendNextPacketWithADRACKReq then
    ({ s with sendNextPacketWithADRACKReq := false },
      { sampleMeasurement := measurement, options := { ADRACKReq := true } })
  else (s, { sampleMeasurement := measurement })

def controlInfo (s : SimpleLoRaApp) : LoRaMacControlInfo :=
  { LoRaTP := s.loRaTP, LoRaCF := s.loRaCF, LoRaSF := s.loRaSF, LoRaBW := s.loRaBW,
    LoRaCR := s.loRaCR }

/-- The block after `send` that counts the uplink. -/
def countUplink (s : SimpleLoRaApp) : SimpleLoRaApp :=
  let s := { s with ADR_ACK_CNT := s.ADR_ACK_CNT + 1 }
  let s := if s.ADR_ACK_CNT = ADR_ACK_LIMIT then
    { s with sendNextPacketWithADRACKReq := true } else s
  if ADR_ACK_LIMIT + ADR_ACK_DELAY ≤ s.ADR_ACK_CNT then
    { s with ADR_ACK_CNT := 0 }.increaseSFIfPossible else s

def sendJoinRequest (s : SimpleLoRaApp) (measurement : Int) : SimpleLoRaApp × Uplink :=
  let (s, request) := s.joinRequest par measurement
  let cInfo := s.controlInfo
  let s := { s with sfVector := s.sfVector ++ [s.loRaSF], tpVector := s.tpVector ++ [s.loRaTP] }
  let s := if par.evaluateADRinNode then s.countUplink else s
  (s, ⟨request, cInfo, s.loRaSF⟩)

/-- The least `timeToNextPacket` that the loop of `handleMessage` does not draw
again; `none` when `time` has been given no value. -/
def time (loRaSF : Int) : Option SimTime :=
  if loRaSF = 7 then some 7.808
  else if loRaSF = 8 then some 13.9776
  else if loRaSF = 9 then some 24.6784
  else if loRaSF = 10 then some 49.3568
  else if loRaSF = 11 then some 85.6064
  else if loRaSF = 12 then some 171.2128
  else none

def handleMessageFromLowerLayer (s : SimpleLoRaApp) (packet : LoRaAppPacket) : SimpleLoRaApp :=
  let s := if par.warmupPeriod ≤ s.fes.simTime then
    { s with receivedADRCommands := s.receivedADRCommands + 1 } else s
  if par.evaluateADRinNode then
    let s := { s with ADR_ACK_CNT := 0 }
    if packet.msgType = some .TXCONFIG then
      let s := if packet.options.LoRaTP ≠ -1 then { s with loRaTP := packet.options.LoRaTP } else s
      if packet.options.LoRaSF ≠ -1 then { s with loRaSF := packet.options.LoRaSF } else s
    else s
  else s

/-- `sendMeasurements` is delivered, with the measurement and the time to the
next packet that are drawn; or a packet arrives from the lower layer. -/
inductive Event where
  | sendMeasurements (e : ScheduledMessage Unit) (measurement : Int) (timeToNextPacket : SimTime)
  | lowerLayer (t : SimTime) (packet : LoRaAppPacket)

/-- `handleMessage` for the self message. -/
def handleSendMeasurements (s : SimpleLoRaApp) (measurement : Int)
    (timeToNextPacket : SimTime) : Option (SimpleLoRaApp × Uplink) :=
  let (s, uplink) := s.sendJoinRequest par measurement
  let s := if par.warmupPeriod ≤ s.fes.simTime then
    { s with sentPackets := s.sentPackets + 1 } else s
  if par.numberOfPacketsToSend = 0 ∨ s.sentPackets < par.numberOfPacketsToSend then
    if (time s.loRaSF).all (· < timeToNextPacket) then
      match s.fes.scheduleAt (s.fes.simTime + timeToNextPacket) () with
      | .ok fes => some ({ s with fes }, uplink)
      | .error _ => none
    else none
  else some (s, uplink)

/-- `handleMessage` for the next event of the simulation. -/
def step (s : SimpleLoRaApp) : Event → Option (SimpleLoRaApp × Option Uplink)
  | .sendMeasurements e measurement timeToNextPacket =>
    if e ∈ s.fes.scheduled ∧ s.fes.IsNext e.arrivalTime then
      (handleSendMeasurements par { s with fes := s.fes.fire e } measurement
        timeToNextPacket).map fun (s', uplink) => (s', some uplink)
    else none
  | .lowerLayer t packet =>
    if s.fes.IsNext t then
      some (handleMessageFromLowerLayer par { s with fes := s.fes.advance t } packet, none)
    else none

/-- A step taken: the event, the state before it, and the uplink sent in it. -/
abbrev Label := Event × SimpleLoRaApp × Option Uplink

/-- The runs of the application, each label with the state before its step. -/
abbrev AppRun : List Label → SimpleLoRaApp → Prop :=
  Run (· = initial par) (StepOf (traced (step par)))

end SimpleLoRaApp

end inet

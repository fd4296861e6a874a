import LoRaInet.LoRaApp.SimpleLoRaApp
import LoRaInet.LoRa.NetworkServerApp.KnownNodes

open omnetpp transition

namespace inet.SimpleLoRaApp

variable {par : Parameters} {s s' : SimpleLoRaApp}

/-- The uplinks sent since a packet was last received. -/
def uplinksSinceDownlink : List Label → Int
  | [] => 0
  | (.sendMeasurements _ _ _, _) :: history => uplinksSinceDownlink history + 1
  | (.lowerLayer _ _, _) :: _ => 0

/-- Whether `increaseSFIfPossible` raised the spreading factor after the uplink. -/
def Uplink.raised (uplink : Uplink) : Bool := uplink.cInfo.LoRaSF < uplink.LoRa_AppPacketSent

/-- The uplinks sent since a packet was last received or the spreading factor
was last raised. -/
def uplinksSinceRaise : List Label → Int
  | [] => 0
  | (.sendMeasurements _ _ _, _, o) :: history =>
    if o.any Uplink.raised then 0 else uplinksSinceRaise history + 1
  | (.lowerLayer _ _, _) :: _ => 0

/-- Everything the ADR variables do when an uplink is sent. -/
structure UplinkSent (s : SimpleLoRaApp) (uplink : Uplink) (s' : SimpleLoRaApp) : Prop where
  request : uplink.request.options.ADRACKReq = s.sendNextPacketWithADRACKReq
  before : uplink.cInfo.LoRaSF = s.loRaSF
  after : uplink.LoRa_AppPacketSent = s'.loRaSF
  count : s'.ADR_ACK_CNT = if 96 ≤ s.ADR_ACK_CNT + 1 then 0 else s.ADR_ACK_CNT + 1
  flag : s'.sendNextPacketWithADRACKReq = decide (s.ADR_ACK_CNT + 1 = 64)
  raise : s'.loRaSF = if 96 ≤ s.ADR_ACK_CNT + 1 ∧ s.loRaSF < 12 then s.loRaSF + 1 else s.loRaSF

/-- Everything the ADR variables do when a packet is received. -/
structure DownlinkReceived (s : SimpleLoRaApp) (packet : LoRaAppPacket) (s' : SimpleLoRaApp) :
    Prop where
  count : s'.ADR_ACK_CNT = 0
  flag : s'.sendNextPacketWithADRACKReq = s.sendNextPacketWithADRACKReq
  command : s'.loRaSF = if packet.msgType = some .TXCONFIG ∧ packet.options.LoRaSF ≠ -1 then
    packet.options.LoRaSF else s.loRaSF

@[simp] theorem increaseSFIfPossible_ADR_ACK_CNT (s : SimpleLoRaApp) :
    s.increaseSFIfPossible.ADR_ACK_CNT = s.ADR_ACK_CNT := by
  unfold increaseSFIfPossible
  split <;> rfl

@[simp] theorem increaseSFIfPossible_sendNextPacketWithADRACKReq (s : SimpleLoRaApp) :
    s.increaseSFIfPossible.sendNextPacketWithADRACKReq = s.sendNextPacketWithADRACKReq := by
  unfold increaseSFIfPossible
  split <;> rfl

@[simp] theorem increaseSFIfPossible_loRaSF (s : SimpleLoRaApp) :
    s.increaseSFIfPossible.loRaSF = if s.loRaSF < 12 then s.loRaSF + 1 else s.loRaSF := by
  unfold increaseSFIfPossible
  split <;> rfl

/-- The flag goes up at the limit, the count starts again at the limit with the
delay, and only then may the spreading factor rise. -/
theorem countUplink_spec (s : SimpleLoRaApp) :
    s.countUplink.ADR_ACK_CNT = (if 96 ≤ s.ADR_ACK_CNT + 1 then 0 else s.ADR_ACK_CNT + 1) ∧
      s.countUplink.sendNextPacketWithADRACKReq =
        (s.sendNextPacketWithADRACKReq || decide (s.ADR_ACK_CNT + 1 = 64)) ∧
      s.countUplink.loRaSF =
        if 96 ≤ s.ADR_ACK_CNT + 1 ∧ s.loRaSF < 12 then s.loRaSF + 1 else s.loRaSF := by
  unfold countUplink ADR_ACK_LIMIT ADR_ACK_DELAY
  by_cases hlimit : s.ADR_ACK_CNT + 1 = 64
  · simp [hlimit]
  · by_cases hdelay : 96 ≤ s.ADR_ACK_CNT + 1
    · simp [hlimit, hdelay]
    · simp [hlimit, hdelay]

theorem joinRequest_spec (hadr : par.evaluateADRinNode = true) (s : SimpleLoRaApp)
    (measurement : Int) : s.joinRequest par measurement =
      ({ s with lastSentMeasurement := measurement, sendNextPacketWithADRACKReq := false },
        { sampleMeasurement := measurement,
          options := { ADRACKReq := s.sendNextPacketWithADRACKReq } }) := by
  unfold joinRequest
  dsimp only
  rw [hadr, Bool.true_and]
  cases s.sendNextPacketWithADRACKReq with
  | true => rfl
  | false => rfl

theorem sendJoinRequest_uplinkSent (hadr : par.evaluateADRinNode = true) (s : SimpleLoRaApp)
    (measurement : Int) :
    UplinkSent s (s.sendJoinRequest par measurement).2 (s.sendJoinRequest par measurement).1 := by
  unfold sendJoinRequest
  rw [joinRequest_spec hadr]
  simp only [hadr, if_true]
  obtain ⟨hcount, hflag, hraise⟩ := countUplink_spec { s with
    lastSentMeasurement := measurement, sendNextPacketWithADRACKReq := false,
    sfVector := s.sfVector ++ [s.loRaSF], tpVector := s.tpVector ++ [s.loRaTP] }
  exact ⟨rfl, rfl, rfl, hcount, hflag, hraise⟩

variable {uplink : Uplink}

theorem UplinkSent.congr {s s₁ s₂ : SimpleLoRaApp} (h : UplinkSent s uplink s₁)
    (hcount : s₂.ADR_ACK_CNT = s₁.ADR_ACK_CNT)
    (hflag : s₂.sendNextPacketWithADRACKReq = s₁.sendNextPacketWithADRACKReq)
    (hSF : s₂.loRaSF = s₁.loRaSF) : UplinkSent s uplink s₂ :=
  ⟨h.request, h.before, h.after.trans hSF.symm, hcount.trans h.count, hflag.trans h.flag,
    hSF.trans h.raise⟩

variable {timeToNextPacket : SimTime} {measurement : Int}

theorem handleSendMeasurements_uplinkSent (hadr : par.evaluateADRinNode = true)
    (h : s.handleSendMeasurements par measurement timeToNextPacket = some (s', uplink)) :
    UplinkSent s uplink s' := by
  have hsent := sendJoinRequest_uplinkSent hadr s measurement
  unfold handleSendMeasurements at h
  generalize s.sendJoinRequest par measurement = result at hsent h
  obtain ⟨sent, request⟩ := result
  dsimp only at h hsent
  have hcounted : UplinkSent s request (if par.warmupPeriod ≤ sent.fes.simTime then
      { sent with sentPackets := sent.sentPackets + 1 } else sent) := by
    split
    · exact hsent.congr rfl rfl rfl
    · exact hsent
  generalize (if par.warmupPeriod ≤ sent.fes.simTime then
      { sent with sentPackets := sent.sentPackets + 1 } else sent) = counted at h hcounted
  split at h
  · split at h
    · split at h
      · cases h
        exact hcounted.congr rfl rfl rfl
      · cases h
    · cases h
  · cases h
    exact hcounted

theorem handleMessageFromLowerLayer_downlinkReceived (hadr : par.evaluateADRinNode = true)
    (s : SimpleLoRaApp) (packet : LoRaAppPacket) :
    DownlinkReceived s packet (s.handleMessageFromLowerLayer par packet) := by
  unfold handleMessageFromLowerLayer
  simp only [hadr, if_true]
  by_cases htype : packet.msgType = some .TXCONFIG
  · by_cases hSF : packet.options.LoRaSF = -1
    · constructor <;> simp only [htype, hSF, if_true, ne_eq, not_true, if_false, and_false] <;>
        split_ifs <;> rfl
    · constructor <;> simp only [htype, hSF, if_true, ne_eq, not_false_iff, and_true] <;>
        split_ifs <;> rfl
  · constructor <;> simp only [htype, if_false, false_and] <;> split_ifs <;> rfl

variable {o : Option Uplink}

theorem step_sendMeasurements (hadr : par.evaluateADRinNode = true) {e : ScheduledMessage Unit}
    (h : step par s (.sendMeasurements e measurement timeToNextPacket) = some (s', o)) :
    ∃ uplink, o = some uplink ∧ UplinkSent s uplink s' := by
  rw [step] at h
  split at h
  · obtain ⟨⟨next, uplink⟩, hsent, hsome⟩ := Option.map_eq_some_iff.mp h
    cases hsome
    obtain ⟨hrequest, hbefore, hafter, hcount, hflag, hraise⟩ :=
      handleSendMeasurements_uplinkSent hadr hsent
    exact ⟨uplink, rfl, hrequest, hbefore, hafter, hcount, hflag, hraise⟩
  · cases h

variable {packet : LoRaAppPacket}

theorem step_lowerLayer (hadr : par.evaluateADRinNode = true) {t : SimTime}
    (h : step par s (.lowerLayer t packet) = some (s', o)) :
    o = none ∧ DownlinkReceived s packet s' := by
  rw [step] at h
  split at h
  · cases h
    obtain ⟨hcount, hflag, hcommand⟩ :=
      handleMessageFromLowerLayer_downlinkReceived hadr { s with fes := s.fes.advance t } packet
    exact ⟨rfl, hcount, hflag, hcommand⟩
  · cases h

/-- No packet arrives between the uplink that reaches the limit and the next. -/
def NoDownlinkWhileRequesting : List Label → Label → Prop
  | _, (.lowerLayer _ _, before, _) => before.sendNextPacketWithADRACKReq = false
  | _, (.sendMeasurements _ _ _, _) => True

instance (history : List Label) (label : Label) :
    Decidable (NoDownlinkWhileRequesting history label) :=
  match label with
  | (.lowerLayer _ _, before, _) =>
    inferInstanceAs (Decidable (before.sendNextPacketWithADRACKReq = false))
  | (.sendMeasurements _ _ _, _) => isTrue trivial

/-- An uplink asks for an acknowledgement only when the limit of uplinks has
been sent since the last packet came. -/
def RequestsAtLimit (history : List Label) (label : Label) : Prop :=
  ∀ uplink ∈ label.2.2, uplink.request.options.ADRACKReq = true →
    ADR_ACK_LIMIT ≤ uplinksSinceDownlink history
deriving Decidable

/-- The spreading factor is raised at exactly so many uplinks. -/
def RaisesAtDelay (history : List Label) (label : Label) : Prop :=
  ∀ uplink ∈ label.2.2, uplink.raised = true →
    uplinksSinceRaise history + 1 = ADR_ACK_LIMIT + ADR_ACK_DELAY

/-- How `ADR_ACK_CNT` and the flag relate to the uplinks sent. -/
structure CountsUplinks (history : List Label) (s : SimpleLoRaApp) : Prop where
  few : 0 ≤ s.ADR_ACK_CNT ∧ s.ADR_ACK_CNT < 96
  sinceDownlink : s.ADR_ACK_CNT ≤ uplinksSinceDownlink history
  sinceRaise : s.loRaSF < 12 → s.ADR_ACK_CNT = uplinksSinceRaise history

theorem UplinkSent.raised_iff (hsent : UplinkSent s uplink s') :
    uplink.raised = true ↔ 96 ≤ s.ADR_ACK_CNT + 1 ∧ s.loRaSF < 12 := by
  rw [Uplink.raised, hsent.before, hsent.after, hsent.raise, decide_eq_true_iff]
  split
  · next hraise => simp [hraise]
  · next hkeep => simp [hkeep]

variable {history : List Label}

theorem CountsUplinks.uplinkSent {e : ScheduledMessage Unit}
    (hcounts : CountsUplinks history s) (hsent : UplinkSent s uplink s') :
    CountsUplinks ((.sendMeasurements e measurement timeToNextPacket, s, some uplink) :: history)
      s' := by
  obtain ⟨⟨hpositive, hfew⟩, hdownlink, hsinceRaise⟩ := hcounts
  have hcount := hsent.count
  have hraise := hsent.raise
  refine ⟨?_, ?_, ?_⟩
  · rw [hcount]
    split <;> omega
  · rw [hcount, uplinksSinceDownlink]
    split <;> omega
  · rw [hraise, hcount, uplinksSinceRaise, Option.any_some]
    intro hSF
    by_cases hraised : uplink.raised = true
    · rw [if_pos hraised, if_pos (hsent.raised_iff.mp hraised).1]
    · rw [if_neg hraised]
      have hkeep : ¬ (96 ≤ s.ADR_ACK_CNT + 1 ∧ s.loRaSF < 12) :=
        fun h => hraised (hsent.raised_iff.mpr h)
      rw [if_neg hkeep] at hSF
      rw [if_neg (by omega), hsinceRaise hSF]

theorem CountsUplinks.downlinkReceived {t : SimTime} (hreceived : DownlinkReceived s packet s') :
    CountsUplinks ((.lowerLayer t packet, s, o) :: history) s' := by
  have hcount := hreceived.count
  refine ⟨?_, ?_, ?_⟩
  · omega
  · rw [uplinksSinceDownlink]
    omega
  · intro _
    rw [uplinksSinceRaise]
    exact hcount

section

variable (hadr : par.evaluateADRinNode = true) (hrun : AppRun par history s)
include hadr hrun

theorem countsUplinks_of_run : CountsUplinks history s := by
  induction hrun with
  | init hinit =>
    rw [hinit]
    exact ⟨by simp [initial], le_rfl, fun _ => rfl⟩
  | @step history s s' label hrun hstep ih =>
    obtain ⟨event, before, o⟩ := label
    obtain ⟨rfl, h⟩ := traced_eq_some.mp hstep
    cases event with
    | sendMeasurements e measurement timeToNextPacket =>
      obtain ⟨uplink, rfl, hsent⟩ := step_sendMeasurements hadr h
      exact ih.uplinkSent hsent
    | lowerLayer t packet =>
      exact CountsUplinks.downlinkReceived (step_lowerLayer hadr h).2

/-- While no packet comes between, a raised flag means the limit was reached. -/
theorem requesting_of_run (hclear : Always NoDownlinkWhileRequesting history)
    (hflag : s.sendNextPacketWithADRACKReq = true) : 64 ≤ uplinksSinceDownlink history := by
  induction hrun with
  | init hinit =>
    rw [hinit] at hflag
    cases hflag
  | @step history s s' label hrun hstep ih =>
    obtain ⟨event, before, o⟩ := label
    obtain ⟨rfl, h⟩ := traced_eq_some.mp hstep
    cases event with
    | sendMeasurements e measurement timeToNextPacket =>
      obtain ⟨uplink, rfl, hsent⟩ := step_sendMeasurements hadr h
      have hcounts := (countsUplinks_of_run hadr hrun).sinceDownlink
      rw [hsent.flag, decide_eq_true_iff] at hflag
      rw [uplinksSinceDownlink]
      omega
    | lowerLayer t packet =>
      rw [(step_lowerLayer hadr h).2.flag] at hflag
      have hnot : before.sendNextPacketWithADRACKReq = false := hclear.2
      rw [hnot] at hflag
      cases hflag

theorem requestsAtLimit_of_run (hclear : Always NoDownlinkWhileRequesting history) :
    Always RequestsAtLimit history := by
  induction hrun with
  | init => trivial
  | @step history s s' label hrun hstep ih =>
    refine ⟨ih hclear.1, ?_⟩
    obtain ⟨event, before, o⟩ := label
    obtain ⟨rfl, h⟩ := traced_eq_some.mp hstep
    cases event with
    | sendMeasurements e measurement timeToNextPacket =>
      obtain ⟨uplink, rfl, hsent⟩ := step_sendMeasurements hadr h
      rintro _ ⟨⟩ hrequest
      exact requesting_of_run hadr hrun hclear.1 (hsent.request ▸ hrequest)
    | lowerLayer t packet =>
      obtain ⟨rfl, -⟩ := step_lowerLayer hadr h
      rintro _ ⟨⟩

theorem raisesAtDelay_of_run : Always RaisesAtDelay history := by
  induction hrun with
  | init => trivial
  | @step history s s' label hrun hstep ih =>
    refine ⟨ih, ?_⟩
    obtain ⟨event, before, o⟩ := label
    obtain ⟨rfl, h⟩ := traced_eq_some.mp hstep
    cases event with
    | sendMeasurements e measurement timeToNextPacket =>
      obtain ⟨uplink, rfl, hsent⟩ := step_sendMeasurements hadr h
      rintro _ ⟨⟩ hraised
      obtain ⟨hdelay, hSF⟩ := hsent.raised_iff.mp hraised
      obtain ⟨⟨-, hfew⟩, -, hsinceRaise⟩ := countsUplinks_of_run hadr hrun
      rw [← hsinceRaise hSF, ADR_ACK_LIMIT, ADR_ACK_DELAY]
      omega
    | lowerLayer t packet =>
      obtain ⟨rfl, -⟩ := step_lowerLayer hadr h
      rintro _ ⟨⟩

end

/-- The uplinks of a history. -/
def uplinks (history : List Label) : List Uplink := history.filterMap (·.2.2)

/-- The packet is one that `evaluateADR` sends, in any state of the server, for
an uplink of this node that reached it through a gateway. -/
def FromServer (history : List Label) (packet : LoRaAppPacket) : Prop :=
  ∃ uplink ∈ uplinks history, ∃ (address : DevAddr) (sequenceNumber : Int) (RSSI SNIR : ℚ)
    (server : NetworkServerApp.Parameters) (locals : NetworkServerApp.Indeterminate)
    (isAfterWarmup : Bool) (knownNodes knownNodes' : List KnownNode) (pickedGateway : L3Address)
    (SNIRinGW RSSIinGW : ℚ) (adr : NetworkServerApp.AdrEvaluation)
    (downlink : NetworkServerApp.Downlink),
    NetworkServerApp.evaluateADR server locals isAfterWarmup knownNodes
        (PacketForwarder.processLoraMACPacket
          (LoRaMac.handleUpperPacket address sequenceNumber uplink.request uplink.cInfo) RSSI SNIR)
        pickedGateway SNIRinGW RSSIinGW = .ok (knownNodes', adr) ∧
      adr.downlink = some downlink ∧ packet = downlink.frameToSend.encapsulatedPacket

/-- Every packet received comes from the server; it may answer any uplink sent
before, any number of times. -/
def ReceivesFromServer : List Label → Label → Prop
  | history, (.lowerLayer _ packet, _) => FromServer history packet
  | _, (.sendMeasurements _ _ _, _) => True

open NetworkServerApp

theorem FromServer.LoRaSF (hserver : FromServer history packet)
    (hrange : ∀ uplink ∈ uplinks history, 7 ≤ uplink.cInfo.LoRaSF ∧ uplink.cInfo.LoRaSF ≤ 12) :
    packet.options.LoRaSF = -1 ∨ 7 ≤ packet.options.LoRaSF ∧ packet.options.LoRaSF ≤ 12 := by
  obtain ⟨uplink, huplink, address, sequenceNumber, RSSI, SNIR, server, locals, warm, knownNodes,
    knownNodes', gateway, SNIRinGW, RSSIinGW, adr, downlink, hevaluate, hdownlink, rfl⟩ := hserver
  obtain ⟨hmin, hmax⟩ := hrange uplink huplink
  rcases evaluateADR_packet hevaluate hdownlink with hdefault | ⟨Nstep, hnew⟩
  · exact Or.inl (by rw [hdefault])
  · obtain ⟨hlow, hhigh⟩ := newOptions_LoRaSF
      (PacketForwarder.processLoraMACPacket (LoRaMac.handleUpperPacket address
        sequenceNumber uplink.request uplink.cInfo) RSSI SNIR) hmin Nstep
    rw [hnew]
    exact Or.inr ⟨hlow, hhigh.trans hmax⟩

/-- The spreading factor, now and in every uplink sent, is between 7 and 12. -/
structure SFInRange (history : List Label) (s : SimpleLoRaApp) : Prop where
  current : 7 ≤ s.loRaSF ∧ s.loRaSF ≤ 12
  sent : ∀ uplink ∈ uplinks history, 7 ≤ uplink.cInfo.LoRaSF ∧ uplink.cInfo.LoRaSF ≤ 12

theorem sfInRange_of_run (hadr : par.evaluateADRinNode = true)
    (hinitial : 7 ≤ par.initialLoRaSF ∧ par.initialLoRaSF ≤ 12) (hrun : AppRun par history s)
    (hserver : Always ReceivesFromServer history) : SFInRange history s := by
  induction hrun with
  | init hinit =>
    rw [hinit]
    exact ⟨hinitial, by simp [uplinks]⟩
  | @step history s s' label hrun hstep ih =>
    obtain ⟨hcurrent, hsent⟩ := ih hserver.1
    obtain ⟨event, before, o⟩ := label
    obtain ⟨rfl, h⟩ := traced_eq_some.mp hstep
    cases event with
    | sendMeasurements e measurement timeToNextPacket =>
      obtain ⟨uplink, rfl, huplink⟩ := step_sendMeasurements hadr h
      constructor
      · rw [huplink.raise]
        split <;> omega
      · intro other hother
        change other ∈ uplink :: uplinks history at hother
        rcases List.mem_cons.mp hother with rfl | hother
        · rw [huplink.before]
          exact hcurrent
        · exact hsent other hother
    | lowerLayer t packet =>
      obtain ⟨rfl, hreceived⟩ := step_lowerLayer hadr h
      constructor
      · have hcommand : FromServer history packet := hserver.2
        rw [hreceived.command]
        split
        · next hset =>
          rcases hcommand.LoRaSF hsent with hdefault | hrange
          · exact absurd hdefault hset.2
          · exact hrange
        · exact hcurrent
      · intro other hother
        exact hsent other hother

/-- While no packet comes between the uplink that reaches the limit and the one
that carries the request, requests are made at the limit or after it; raises are
made exactly at the limit with the delay, and the spreading factor stays between
7 and 12 under the commands of the server. -/
theorem adr_acknowledgement {history : List Label} (hadr : par.evaluateADRinNode = true)
    (hrun : AppRun par history s) (hclear : Always NoDownlinkWhileRequesting history) :
    Always RequestsAtLimit history ∧ Always RaisesAtDelay history ∧
      (7 ≤ par.initialLoRaSF ∧ par.initialLoRaSF ≤ 12 → Always ReceivesFromServer history →
        7 ≤ s.loRaSF ∧ s.loRaSF ≤ 12) := by
  refine ⟨requestsAtLimit_of_run hadr hrun hclear, raisesAtDelay_of_run hadr hrun, ?_⟩
  intro hinitial hserver
  exact (sfInRange_of_run hadr hinitial hrun hserver).current

/-- The packet of a downlink that only answers a request. -/
def sampleReply : LoRaAppPacket := { msgType := some .TXCONFIG }

def AnswersRequest : List Label → Label → Prop
  | history, (.lowerLayer _ packet, _) => packet = sampleReply ∧
    ∃ uplink ∈ uplinks history, uplink.request.options.ADRACKReq = true
  | _, (.sendMeasurements _ _ _, _) => True

instance (history : List Label) (label : Label) : Decidable (AnswersRequest history label) :=
  match label with
  | (.lowerLayer _ packet, _) => inferInstanceAs (Decidable (packet = sampleReply ∧ _))
  | (.sendMeasurements _ _ _, _) => isTrue trivial

theorem AnswersRequest.receivesFromServer (history : List Label) (label : Label)
    (h : AnswersRequest history label) : ReceivesFromServer history label := by
  obtain ⟨event, before, o⟩ := label
  cases event with
  | sendMeasurements e measurement timeToNextPacket => trivial
  | lowerLayer t packet =>
    obtain ⟨rfl, uplink, huplink, hrequest⟩ := h
    let frame := PacketForwarder.processLoraMACPacket
      (LoRaMac.handleUpperPacket ⟨1⟩ 0 uplink.request uplink.cInfo) 0 0
    refine ⟨uplink, huplink, ⟨1⟩, 0, 0, 0, ⟨true, .max, 10, 1000, 0, fun _ => 0⟩,
      { nodeIndex := 0, SNRm := 0, requiredSNR := 0 }, false, [], [], {}, 0, 0,
      { SNRm := none, downlink := some ⟨adrFrame frame {}, {}, 1000⟩ }, _, ?_,
      rfl, rfl⟩
    have hframe : frame.encapsulatedPacket.options.ADRACKReq = true := hrequest
    unfold evaluateADR
    simp only [scanKnownNodes, Bool.false_or]
    rw [if_pos hframe]
    rfl

def sampleParameters : Parameters :=
  { numberOfPacketsToSend := 0, initialLoRaSF := 7, evaluateADRinNode := true }

/-- So many uplinks, one every 20 s, the first of them with this number. -/
def sampleUplinks (i n : Nat) : List Event :=
  (List.range' i n).map fun k => .sendMeasurements ⟨10 + 20 * k, ()⟩ 0 20

/-- A node that is never answered until it has raised its spreading factor. -/
theorem adr_acknowledgement_after_raise : ∃ history s, AppRun sampleParameters history s ∧
    s.loRaSF = 8 ∧ Always RequestsAtLimit history ∧ Always RaisesAtDelay history ∧
      7 ≤ s.loRaSF ∧ s.loRaSF ≤ 12 := by
  obtain ⟨s, history, hrun, hSF, hclear, hanswers⟩ := exists_run_of_execute
    (traced (step sampleParameters)) (initial sampleParameters)
    (sampleUplinks 0 96 ++ [.lowerLayer 1915 sampleReply])
    (fun s history => s.loRaSF = 8 ∧ Always NoDownlinkWhileRequesting history ∧
      Always AnswersRequest history) (by decide +kernel)
  obtain ⟨hrequests, hraises, hrange⟩ := adr_acknowledgement rfl hrun hclear
  exact ⟨history, s, hrun, hSF, hrequests, hraises,
    hrange (by decide) (hanswers.mono AnswersRequest.receivesFromServer)⟩

/-- A packet comes after the uplink that reaches the limit: the next one asks for
an acknowledgement although nothing was sent since. -/
theorem adr_acknowledgement_after_downlink : ∃ history s, AppRun sampleParameters history s ∧
    (∃ label ∈ history.head?, ∃ uplink ∈ label.2.2,
      uplink.request.options.ADRACKReq = true ∧ uplinksSinceDownlink history.tail = 0) ∧
    ¬ Always RequestsAtLimit history := by
  obtain ⟨s, history, hrun, hlast, hrequests⟩ := exists_run_of_execute
    (traced (step sampleParameters)) (initial sampleParameters)
    (sampleUplinks 0 64 ++ .lowerLayer 1275 sampleReply :: sampleUplinks 64 1)
    (fun s history => (∃ label ∈ history.head?, ∃ uplink ∈ label.2.2,
        uplink.request.options.ADRACKReq = true ∧ uplinksSinceDownlink history.tail = 0) ∧
      ¬ Always RequestsAtLimit history) (by decide +kernel)
  exact ⟨history, s, hrun, hlast, hrequests⟩

end inet.SimpleLoRaApp

import LoRaInet.LoRa.NetworkServerApp.Arrival

open omnetpp

namespace inet

variable (node : KnownNode) (pkt : LoRaMacFrame) (SNIRinGW RSSIinGW : ℚ)

/-- A record of the transmitter after the scan of `evaluateADR`. -/
def KnownNode.afterUplink : KnownNode :=
  let node := node.recordUplink pkt SNIRinGW RSSIinGW
  if node.framesFromLastADRCommand = 20 then { node with framesFromLastADRCommand := 0 } else node

open KnownNode

@[simp] theorem KnownNode.afterUplink_srcAddr : (node.afterUplink pkt SNIRinGW RSSIinGW).srcAddr = node.srcAddr := by
  unfold afterUplink
  dsimp only
  split <;> rfl

@[simp] theorem KnownNode.afterUplink_lastSeqNoProcessed :
    (node.afterUplink pkt SNIRinGW RSSIinGW).lastSeqNoProcessed = node.lastSeqNoProcessed := by
  unfold afterUplink
  dsimp only
  split <;> rfl

theorem KnownNode.afterUplink_framesFromLastADRCommand :
    (node.afterUplink pkt SNIRinGW RSSIinGW).framesFromLastADRCommand =
      if node.framesFromLastADRCommand + 1 = 20 then 0 else node.framesFromLastADRCommand + 1 := by
  unfold afterUplink recordUplink
  dsimp only
  split <;> rfl

theorem KnownNode.afterUplink_adrListSNIR : (node.afterUplink pkt SNIRinGW RSSIinGW).adrListSNIR =
      (node.recordUplink pkt SNIRinGW RSSIinGW).adrListSNIR := by
  unfold afterUplink
  dsimp only
  split <;> rfl

/-- The record, less the two fields that `evaluateADR` changes through `nodeIndex`. -/
def KnownNode.unaccounted : KnownNode :=
  { node with numberOfSentADRPackets := 0, calculatedSNRmargin := [] }

namespace NetworkServerApp

variable {par : Parameters} {locals : Indeterminate}

theorem modifyAt_map {A : Type} {f : KnownNode → A} {g : KnownNode → KnownNode}
    (hfg : ∀ node, f (g node) = f node) {knownNodes knownNodes' : List KnownNode} {i : Int}
    (h : modifyAt knownNodes i g = .ok knownNodes') : knownNodes'.map f = knownNodes.map f := by
  unfold modifyAt at h
  split at h
  · rw [Except.ok.injEq] at h
    rw [← h]
    apply List.ext_getElem?
    intro j
    rw [List.getElem?_map, List.getElem?_map, List.getElem?_modify]
    cases knownNodes[j]? with
    | none => rfl
    | some node =>
      by_cases hj : i.toNat = j
      · simp [hj, hfg]
      · simp [hj]
  · cases h

theorem scanKnownNodes_fst (method : AdrMethod) (pkt : LoRaMacFrame) (SNIRinGW RSSIinGW : ℚ)
    (i : Nat) (knownNodes : List KnownNode) (scan : AdrScan) :
    (scanKnownNodes method pkt SNIRinGW RSSIinGW i knownNodes scan).1 =
      knownNodes.map fun node => if node.srcAddr = pkt.transmitterAddress then
        node.afterUplink pkt SNIRinGW RSSIinGW else node := by
  induction knownNodes generalizing i scan with
  | nil => rfl
  | cons node rest ih =>
    rw [scanKnownNodes, List.map_cons]
    by_cases haddr : node.srcAddr = pkt.transmitterAddress
    · simp only [if_pos haddr, afterUplink]
      by_cases hfull : (node.recordUplink pkt SNIRinGW RSSIinGW).framesFromLastADRCommand = 20
      · rw [if_pos hfull, if_pos hfull]
        exact congrArg _ (ih ..)
      · rw [if_neg hfull, if_neg hfull]
        exact congrArg _ (ih ..)
    · simp only [if_neg haddr]
      exact congrArg _ (ih ..)

theorem scanKnownNodes_of_not_mem {method : AdrMethod} {pkt : LoRaMacFrame} {SNIRinGW RSSIinGW : ℚ}
    {knownNodes : List KnownNode}
    (hnone : ∀ node ∈ knownNodes, node.srcAddr ≠ pkt.transmitterAddress) (i : Nat)
    (scan : AdrScan) :
    scanKnownNodes method pkt SNIRinGW RSSIinGW i knownNodes scan = (knownNodes, scan) := by
  induction knownNodes generalizing i with
  | nil => rfl
  | cons node rest ih =>
    obtain ⟨hnode, hrest⟩ := List.forall_mem_cons.mp hnone
    rw [scanKnownNodes, if_neg hnode, ih hrest]

theorem scanKnownNodes_split {method : AdrMethod} {pkt : LoRaMacFrame} {SNIRinGW RSSIinGW : ℚ}
    {before after : List KnownNode} {node : KnownNode}
    (hbefore : ∀ n ∈ before, n.srcAddr ≠ pkt.transmitterAddress)
    (hnode : node.srcAddr = pkt.transmitterAddress)
    (hafter : ∀ n ∈ after, n.srcAddr ≠ pkt.transmitterAddress) (i : Nat) (scan : AdrScan) :
    scanKnownNodes method pkt SNIRinGW RSSIinGW i (before ++ node :: after) scan =
      (before ++ node.afterUplink pkt SNIRinGW RSSIinGW :: after,
        if node.framesFromLastADRCommand + 1 = 20 then
          { sendADR := true, nodeIndex := (i + before.length : Nat),
            SNRm := method.SNRm scan.SNRm (node.recordUplink pkt SNIRinGW RSSIinGW).adrListSNIR }
        else scan) := by
  induction before generalizing i with
  | nil =>
    rw [List.nil_append, scanKnownNodes, if_pos hnode]
    simp only [scanKnownNodes_of_not_mem hafter, afterUplink]
    by_cases hfull : (node.recordUplink pkt SNIRinGW RSSIinGW).framesFromLastADRCommand = 20
    · have hcount : node.framesFromLastADRCommand + 1 = 20 := hfull
      rw [if_pos hfull, if_pos hfull, if_pos hcount]
      rfl
    · have hcount : ¬ node.framesFromLastADRCommand + 1 = 20 := hfull
      rw [if_neg hfull, if_neg hfull, if_neg hcount]
      rfl
  | cons first rest ih =>
    obtain ⟨hfirst, hrest⟩ := List.forall_mem_cons.mp hbefore
    rw [List.cons_append, scanKnownNodes, if_neg hfirst, ih hrest]
    have hlength : i + 1 + rest.length = i + (first :: rest).length := by
      rw [List.length_cons]
      omega
    rw [hlength]
    rfl

theorem adrOptions_unaccounted {pkt : LoRaMacFrame} {scan : AdrScan}
    {knownNodes knownNodes' : List KnownNode} {options : LoRaOptions}
    (h : adrOptions par locals pkt scan knownNodes = .ok (knownNodes', options)) :
    knownNodes'.map unaccounted = knownNodes.map unaccounted := by
  unfold adrOptions at h
  split at h
  · obtain ⟨recorded, hrecorded, hok⟩ := bind_eq_ok_iff.mp h
    cases hok
    refine modifyAt_map ?_ hrecorded
    intro node
    rfl
  · cases h
    rfl

variable {isAfterWarmup : Bool}

theorem countSentADR_unaccounted {scan : AdrScan} {knownNodes knownNodes' : List KnownNode}
    (h : countSentADR isAfterWarmup scan knownNodes = .ok knownNodes') :
    knownNodes'.map unaccounted = knownNodes.map unaccounted := by
  unfold countSentADR at h
  split at h
  · refine modifyAt_map ?_ h
    intro node
    rfl
  · rw [Except.ok.inj h]

variable {knownNodes knownNodes' : List KnownNode}

/-- The scan decides; the rest of `evaluateADR` only writes the margin and the
count of sent packets. -/
theorem evaluateADR_unaccounted
    {pkt : LoRaMacFrame} {pickedGateway : L3Address} {SNIRinGW RSSIinGW : ℚ} {adr : AdrEvaluation}
    (h : evaluateADR par locals isAfterWarmup knownNodes pkt pickedGateway SNIRinGW RSSIinGW =
      .ok (knownNodes', adr)) :
    let scanned := scanKnownNodes par.adrMethod pkt SNIRinGW RSSIinGW 0 knownNodes
      { sendADR := false, nodeIndex := locals.nodeIndex, SNRm := locals.SNRm }
    knownNodes'.map unaccounted = scanned.1.map unaccounted ∧
      adr.SNRm = (if scanned.2.sendADR then some scanned.2.SNRm else none) := by
  unfold evaluateADR at h
  intro scanned
  dsimp only at h
  split at h
  · obtain ⟨⟨recorded, options⟩, hoptions, h⟩ := bind_eq_ok_iff.mp h
    obtain ⟨counted, hcount, hok⟩ := bind_eq_ok_iff.mp h
    cases hok
    exact ⟨(countSentADR_unaccounted hcount).trans (adrOptions_unaccounted hoptions), rfl⟩
  · cases h
    exact ⟨rfl, rfl⟩

/-- `evaluateADR` does not touch the sequence numbers of the duplicate filter. -/
theorem evaluateADR_lastSeqNos
    {pkt : LoRaMacFrame} {pickedGateway : L3Address} {SNIRinGW RSSIinGW : ℚ} {adr : AdrEvaluation}
    (h : evaluateADR par locals isAfterWarmup knownNodes pkt pickedGateway SNIRinGW RSSIinGW =
      .ok (knownNodes', adr)) : lastSeqNos knownNodes' = lastSeqNos knownNodes := by
  have hmap := congrArg (List.map fun node => (node.srcAddr, node.lastSeqNoProcessed))
    (evaluateADR_unaccounted h).1
  rw [List.map_map, List.map_map, scanKnownNodes_fst, List.map_map] at hmap
  unfold lastSeqNos
  calc knownNodes'.map (fun node => (node.srcAddr, node.lastSeqNoProcessed))
      = _ := hmap
    _ = knownNodes.map (fun node => (node.srcAddr, node.lastSeqNoProcessed)) := by
      apply List.map_congr_left
      intro node hnode
      by_cases haddr : node.srcAddr = pkt.transmitterAddress
      · simp [haddr, unaccounted]
      · simp [haddr, unaccounted]

/-- A property that each turn of the loop keeps holds of its result. -/
theorem stepWhile_induct {A : Type} (cond : A → Bool) (next : A → A) {P : A → Prop}
    (hnext : ∀ x, P x → cond x = true → P (next x)) (steps : Nat) (x : A) (hx : P x) :
    P (stepWhile cond next steps x).2 := by
  induction steps generalizing x with
  | zero => exact hx
  | succ steps ih =>
    rw [stepWhile]
    by_cases hcond : cond x = true
    · rw [if_pos hcond]
      exact ih (next x) (hnext x hx hcond)
    · rw [if_neg hcond]
      exact hx

/-- An ADR command never asks for less than 7 nor for more than the spreading
factor of the frame it answers. -/
theorem newOptions_LoRaSF (hmin : 7 ≤ pkt.LoRaSF) (Nstep : Int) :
    7 ≤ (newOptions pkt Nstep).LoRaSF ∧ (newOptions pkt Nstep).LoRaSF ≤ pkt.LoRaSF := by
  refine stepWhile_induct (fun sf : Int => 7 < sf) (· - 1)
    (P := fun sf => 7 ≤ sf ∧ sf ≤ pkt.LoRaSF) ?_ Nstep.toNat pkt.LoRaSF ⟨hmin, le_rfl⟩
  intro sf hsf hlt
  have hlt' : 7 < sf := by simpa using hlt
  omega

/-- The packet in a downlink is a `TXCONFIG` with the default options, or with
those of an ADR command. -/
theorem evaluateADR_packet {pkt : LoRaMacFrame} {pickedGateway : L3Address}
    {SNIRinGW RSSIinGW : ℚ} {adr : AdrEvaluation} {downlink : Downlink}
    (h : evaluateADR par locals isAfterWarmup knownNodes pkt pickedGateway SNIRinGW RSSIinGW =
      .ok (knownNodes', adr)) (hdownlink : adr.downlink = some downlink) :
    downlink.frameToSend.encapsulatedPacket.options = {} ∨
      ∃ Nstep, downlink.frameToSend.encapsulatedPacket.options = newOptions pkt Nstep := by
  unfold evaluateADR at h
  dsimp only at h
  split at h
  · obtain ⟨⟨recorded, options⟩, hoptions, h⟩ := bind_eq_ok_iff.mp h
    obtain ⟨counted, -, hok⟩ := bind_eq_ok_iff.mp h
    cases hok
    cases hdownlink
    change options = {} ∨ ∃ Nstep, options = newOptions pkt Nstep
    unfold adrOptions at hoptions
    split at hoptions
    · obtain ⟨margins, -, hok⟩ := bind_eq_ok_iff.mp hoptions
      cases hok
      exact Or.inr ⟨_, rfl⟩
    · cases hoptions
      exact Or.inl rfl
  · cases h
    cases hdownlink

end NetworkServerApp

end inet

open omnetpp transition

namespace inet.NetworkServerApp

variable {s s' : NetworkServerApp}

/-- The frames delivered to the server. -/
def delivered : List Label → List LoRaMacFrame
  | [] => []
  | (.udpIn _ frame _, _) :: history => frame :: delivered history
  | (.selfMessage _ _, _) :: history => delivered history

/-- A frame of the same node with a higher sequence number has been delivered. -/
def Superseded (history : List Label) (key : UplinkKey) : Prop :=
  ∃ frame ∈ delivered history, frame.transmitterAddress = key.1 ∧ key.2 < frame.sequenceNumber
deriving Decidable

theorem superseded_udpIn {t : SimTime} {frame : LoRaMacFrame} {srcAddr : L3Address}
    {o : Option Processed} {history : List Label} {key : UplinkKey} :
    Superseded ((.udpIn t frame srcAddr, o) :: history) key ↔
      frame.transmitterAddress = key.1 ∧ key.2 < frame.sequenceNumber ∨ Superseded history key := by
  unfold Superseded
  rw [delivered, List.exists_mem_cons_iff]

theorem superseded_self {t : SimTime} {frame : LoRaMacFrame} {srcAddr : L3Address}
    {o : Option Processed} {history : List Label} :
    Superseded ((.udpIn t frame srcAddr, o) :: history) frame.key ↔
      Superseded history frame.key := by
  rw [superseded_udpIn]
  exact or_iff_right fun h => lt_irrefl _ h.2

/-- The nodes are those the frames came from, each with the highest of its
sequence numbers. -/
structure HighestSeqNos (frames : List LoRaMacFrame) (nodes : List (DevAddr × Int)) : Prop where
  nodup : (nodes.map Prod.fst).Nodup
  known : ∀ frame ∈ frames, frame.transmitterAddress ∈ nodes.map Prod.fst
  reached : ∀ node ∈ nodes, ∃ frame ∈ frames, frame.key = node
  bound : ∀ node ∈ nodes, ∀ frame ∈ frames, frame.transmitterAddress = node.1 →
    frame.sequenceNumber ≤ node.2

theorem isPacketProcessed_iff {pkt : LoRaMacFrame} : isPacketProcessed s pkt = true ↔
      ∃ node ∈ lastSeqNos s.knownNodes, node.1 = pkt.transmitterAddress ∧
        pkt.sequenceNumber < node.2 := by
  simp [isPacketProcessed, lastSeqNos]

theorem isPacketProcessed_iff_superseded {history : List Label} {pkt : LoRaMacFrame}
    (hnodes : HighestSeqNos (delivered history) (lastSeqNos s.knownNodes)) :
    isPacketProcessed s pkt = true ↔ Superseded history pkt.key := by
  rw [isPacketProcessed_iff]
  constructor
  · rintro ⟨node, hnode, haddr, hlt⟩
    obtain ⟨frame, hframe, hkey⟩ := hnodes.reached node hnode
    have haddr' : frame.transmitterAddress = node.1 := congrArg Prod.fst hkey
    have hseq : frame.sequenceNumber = node.2 := congrArg Prod.snd hkey
    exact ⟨frame, hframe, haddr'.trans haddr, hlt.trans_eq hseq.symm⟩
  · rintro ⟨frame, hframe, haddr, hlt⟩
    obtain ⟨node, hnode, hnodeAddr⟩ := List.mem_map.mp (hnodes.known frame hframe)
    have hle := hnodes.bound node hnode frame hframe hnodeAddr.symm
    exact ⟨node, hnode, hnodeAddr.trans haddr, lt_of_lt_of_le hlt hle⟩

theorem HighestSeqNos.append {frames : List LoRaMacFrame} {nodes : List (DevAddr × Int)}
    (hnodes : HighestSeqNos frames nodes) {pkt : LoRaMacFrame}
    (hunknown : pkt.transmitterAddress ∉ nodes.map Prod.fst) :
    HighestSeqNos (pkt :: frames) (nodes ++ [pkt.key]) := by
  refine ⟨?_, ?_, ?_, ?_⟩
  · rw [List.map_append]
    exact List.Nodup.append hnodes.nodup (List.nodup_singleton _)
      (List.disjoint_singleton.mpr hunknown)
  · intro frame hframe
    rw [List.map_append, List.mem_append]
    rcases List.mem_cons.mp hframe with rfl | hframe
    · exact Or.inr (.head _)
    · exact Or.inl (hnodes.known frame hframe)
  · intro node hnode
    rcases List.mem_append.mp hnode with hnode | hnode
    · obtain ⟨frame, hframe, hkey⟩ := hnodes.reached node hnode
      exact ⟨frame, .tail _ hframe, hkey⟩
    · exact ⟨pkt, (.head _), (List.mem_singleton.mp hnode).symm⟩
  · intro node hnode frame hframe haddr
    rcases List.mem_append.mp hnode with hnode | hnode
    · have hknown : node.1 ∈ nodes.map Prod.fst := List.mem_map_of_mem hnode
      rcases List.mem_cons.mp hframe with rfl | hframe
      · exact absurd (haddr ▸ hknown) hunknown
      · exact hnodes.bound node hnode frame hframe haddr
    · rw [List.mem_singleton.mp hnode] at haddr ⊢
      rcases List.mem_cons.mp hframe with rfl | hframe
      · exact le_rfl
      · have haddr' : frame.transmitterAddress = pkt.transmitterAddress := haddr
        exact absurd (haddr' ▸ hnodes.known frame hframe) hunknown

theorem HighestSeqNos.raise {frames : List LoRaMacFrame} {before after : List (DevAddr × Int)}
    {pkt : LoRaMacFrame} {last : Int}
    (hnodes : HighestSeqNos frames (before ++ (pkt.transmitterAddress, last) :: after)) :
    HighestSeqNos (pkt :: frames)
      (before ++ (pkt.transmitterAddress, max last pkt.sequenceNumber) :: after) := by
  have haddrs : (before ++ (pkt.transmitterAddress, max last pkt.sequenceNumber) :: after).map
      Prod.fst = (before ++ (pkt.transmitterAddress, last) :: after).map Prod.fst := by
    simp only [List.map_append, List.map_cons]
  have hother : ∀ node ∈ before ++ after, node.1 ≠ pkt.transmitterAddress := by
    have hnodup := hnodes.nodup
    rw [List.map_append, List.map_cons, List.nodup_middle, List.nodup_cons,
      ← List.map_append] at hnodup
    intro node hnode haddr
    have hmem : node.1 ∈ (before ++ after).map Prod.fst := List.mem_map_of_mem hnode
    exact hnodup.1 (haddr ▸ hmem)
  have hlast : (pkt.transmitterAddress, last) ∈ before ++ (pkt.transmitterAddress, last) :: after :=
    List.mem_append_right _ (.head _)
  refine ⟨haddrs ▸ hnodes.nodup, ?_, ?_, ?_⟩
  · intro frame hframe
    rw [haddrs]
    rcases List.mem_cons.mp hframe with rfl | hframe
    · exact List.mem_map_of_mem hlast
    · exact hnodes.known frame hframe
  · intro node hnode
    rcases List.mem_cons.mp (List.perm_middle.mem_iff.mp hnode) with rfl | hrest
    · rcases le_total pkt.sequenceNumber last with hle | hle
      · rw [max_eq_left hle]
        obtain ⟨frame, hframe, hkey⟩ := hnodes.reached _ hlast
        exact ⟨frame, .tail _ hframe, hkey⟩
      · rw [max_eq_right hle]
        exact ⟨pkt, (.head _), rfl⟩
    · obtain ⟨frame, hframe, hkey⟩ :=
        hnodes.reached node (List.perm_middle.mem_iff.mpr (.tail _ hrest))
      exact ⟨frame, .tail _ hframe, hkey⟩
  · intro node hnode frame hframe haddr
    rcases List.mem_cons.mp (List.perm_middle.mem_iff.mp hnode) with rfl | hrest
    · rcases List.mem_cons.mp hframe with rfl | hframe
      · exact le_max_right _ _
      · exact (hnodes.bound _ hlast frame hframe haddr).trans (le_max_left _ _)
    · rcases List.mem_cons.mp hframe with rfl | hframe
      · exact absurd haddr.symm (hother node hrest)
      · exact hnodes.bound node (List.perm_middle.mem_iff.mpr (.tail _ hrest))
          frame hframe haddr

theorem HighestSeqNos.updateKnownNodes {frames : List LoRaMacFrame} {knownNodes : List KnownNode}
    (hnodes : HighestSeqNos frames (lastSeqNos knownNodes)) (par : Parameters)
    (pkt : LoRaMacFrame) :
    HighestSeqNos (pkt :: frames) (lastSeqNos (updateKnownNodes par pkt knownNodes)) := by
  rcases @updateKnownNodes_lastSeqNos par pkt knownNodes with
    ⟨hnew, heq⟩ | ⟨before, last, after, -, hold, heq⟩
  · rw [heq]
    apply hnodes.append
    simpa [lastSeqNos] using hnew
  · rw [heq]
    exact HighestSeqNos.raise (hold ▸ hnodes)

end inet.NetworkServerApp

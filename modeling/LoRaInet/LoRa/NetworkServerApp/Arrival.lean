import LoRaInet.LoRa.NetworkServerApp

open omnetpp transition

namespace inet.NetworkServerApp

variable {par : Parameters} {s s' : NetworkServerApp}

/-- The keys of the frames in the waiting table. -/
def tableKeys (s : NetworkServerApp) : List UplinkKey := s.receivedPackets.map (·.rcvdPacket.key)

/-- The address and the highest sequence number kept for each known node. -/
def lastSeqNos (knownNodes : List KnownNode) : List (DevAddr × Int) :=
  knownNodes.map fun node => (node.srcAddr, node.lastSeqNoProcessed)

variable {srcAddr : L3Address}

theorem addGateway_eq_none_iff {pkt : LoRaMacFrame} {table : List ReceivedPacket} :
    addGateway par pkt srcAddr table = none ↔ ∀ entry ∈ table, entry.rcvdPacket.key ≠ pkt.key := by
  induction table with
  | nil => simp [addGateway]
  | cons entry rest ih =>
    rw [addGateway, List.forall_mem_cons]
    by_cases hkey : entry.rcvdPacket.key = pkt.key
    · simp [hkey]
    · simp [hkey, ih]

/-- A copy of a frame in the table extends the gateways of its first entry and
changes nothing else. -/
theorem addGateway_eq_some {pkt : LoRaMacFrame}
    {table table' : List ReceivedPacket} (h : addGateway par pkt srcAddr table = some table') :
    ∃ before entry after, table = before ++ entry :: after ∧ entry.rcvdPacket.key = pkt.key ∧
      table' = before ++ { entry with possibleGateways :=
        entry.possibleGateways ++ [possibleGateway par pkt srcAddr] } :: after := by
  induction table generalizing table' with
  | nil => simp [addGateway] at h
  | cons entry rest ih =>
    rw [addGateway] at h
    by_cases hkey : entry.rcvdPacket.key = pkt.key
    · rw [if_pos hkey, Option.some.injEq] at h
      exact ⟨[], entry, rest, rfl, hkey, h.symm⟩
    · rw [if_neg hkey, Option.map_eq_some_iff] at h
      obtain ⟨rest', hrest, rfl⟩ := h
      obtain ⟨before, found, after, rfl, hfound, rfl⟩ := ih hrest
      exact ⟨entry :: before, found, after, rfl, hfound, rfl⟩

/-- The state in which the table is consulted for an arriving frame: the clock
has moved on and `updateKnownNodes` has run. -/
def heard (par : Parameters) (s : NetworkServerApp) (t : SimTime) (frame : LoRaMacFrame) :
    NetworkServerApp :=
  { s with
    fes := s.fes.advance t
    totalReceivedPackets :=
      if par.warmupPeriod ≤ t then s.totalReceivedPackets + 1 else s.totalReceivedPackets
    knownNodes := updateKnownNodes par frame s.knownNodes }

/-- The entry of a frame that opens a waiting window. -/
def newEntry (par : Parameters) (s : NetworkServerApp) (frame : LoRaMacFrame)
    (srcAddr : L3Address) : ReceivedPacket :=
  ⟨frame, ⟨s.messageCount, frame⟩, [possibleGateway par frame srcAddr]⟩

/-- The state after the window of a frame is opened. -/
def opened (par : Parameters) (s : NetworkServerApp) (frame : LoRaMacFrame)
    (srcAddr : L3Address) : NetworkServerApp :=
  { s with
    fes := { s.fes with scheduled := s.fes.scheduled ++
      [⟨s.fes.simTime + waitingTime, ⟨s.messageCount, frame⟩⟩] }
    messageCount := s.messageCount + 1
    receivedPackets := s.receivedPackets ++ [newEntry par s frame srcAddr] }

theorem handleUdpIn_heard (t : SimTime) (frame : LoRaMacFrame) (srcAddr : L3Address) :
    handleUdpIn par { s with fes := s.fes.advance t } frame srcAddr =
      (s.heard par t frame).processLoraMACPacket par frame srcAddr := by
  unfold handleUdpIn heard isAfterWarmup
  by_cases hwarm : par.warmupPeriod ≤ t <;> simp [hwarm]

/-- A copy of an uplink is dropped as processed, joins the entry of its key, or
opens a window. -/
theorem step_udpIn {t : SimTime} {frame : LoRaMacFrame}
    {o : Option Processed} (h : step par s (.udpIn t frame srcAddr) = some (s', o)) :
    o = none ∧ s.fes.IsNext t ∧
      ((isPacketProcessed (s.heard par t frame) frame = true ∧ s' = s.heard par t frame) ∨
        isPacketProcessed (s.heard par t frame) frame = false ∧
          ((∃ table, addGateway par frame srcAddr s.receivedPackets = some table ∧
            s' = { s.heard par t frame with receivedPackets := table }) ∨
          (∀ entry ∈ s.receivedPackets, entry.rcvdPacket.key ≠ frame.key) ∧
            s' = (s.heard par t frame).opened par frame srcAddr)) := by
  rw [step] at h
  by_cases hnext : s.fes.IsNext t
  · rw [if_pos hnext, handleUdpIn_heard, processLoraMACPacket] at h
    by_cases hdone : isPacketProcessed (s.heard par t frame) frame = true
    · rw [if_pos hdone] at h
      simp only [Option.some.injEq, Prod.mk.injEq] at h
      exact ⟨h.2.symm, hnext, Or.inl ⟨hdone, h.1.symm⟩⟩
    · rw [if_neg hdone, addPktToProcessingTable] at h
      have hfalse : isPacketProcessed (s.heard par t frame) frame = false := by simpa using hdone
      cases hadd : addGateway par frame srcAddr s.receivedPackets with
      | some table =>
        have hadd' : addGateway par frame srcAddr (s.heard par t frame).receivedPackets =
            some table := hadd
        simp only [hadd', Option.some.injEq, Prod.mk.injEq] at h
        exact ⟨h.2.symm, hnext, Or.inr ⟨hfalse, Or.inl ⟨table, rfl, h.1.symm⟩⟩⟩
      | none =>
        have hadd' : addGateway par frame srcAddr (s.heard par t frame).receivedPackets = none :=
          hadd
        have hfuture : ¬ (s.heard par t frame).fes.simTime + waitingTime <
            (s.heard par t frame).fes.simTime := by
          have hpositive : (0 : ℚ) < waitingTime := by norm_num [waitingTime]
          exact not_lt.mpr (le_add_of_nonneg_right hpositive.le)
        simp only [hadd', FutureEventSet.scheduleAt, if_neg hfuture, bind, Except.bind,
          Option.some.injEq, Prod.mk.injEq] at h
        exact ⟨h.2.symm, hnext, Or.inr ⟨hfalse, Or.inr ⟨addGateway_eq_none_iff.mp hadd, h.1.symm⟩⟩⟩
  · rw [if_neg hnext] at h
    cases h

/-- The end of a window is handled when its message is the next event. -/
theorem step_selfMessage {e : ScheduledMessage EndOfWaiting} {locals : Indeterminate}
    {o : Option Processed} (h : step par s (.selfMessage e locals) = some (s', o)) :
    e ∈ s.fes.scheduled ∧ s.fes.IsNext e.arrivalTime ∧ ∃ processed, o = some processed ∧
      processScheduledPacket par locals { s with fes := s.fes.fire e } e.message =
        .ok (s', processed) := by
  rw [step] at h
  by_cases hnext : e ∈ s.fes.scheduled ∧ s.fes.IsNext e.arrivalTime
  · rw [if_pos hnext] at h
    cases hproc : processScheduledPacket par locals { s with fes := s.fes.fire e } e.message with
    | error fault => simp [hproc] at h
    | ok result =>
      obtain ⟨next, processed⟩ := result
      simp only [hproc, Option.some.injEq, Prod.mk.injEq] at h
      obtain ⟨rfl, rfl⟩ := h
      exact ⟨hnext.1, hnext.2, processed, rfl, rfl⟩
  · rw [if_neg hnext] at h
    cases h

/-- `updateKnownNodes` keeps one record a node and its highest sequence number,
and adds a record for a node it has not heard. -/
theorem updateKnownNodes_lastSeqNos (pkt : LoRaMacFrame) (knownNodes : List KnownNode) :
    (∀ node ∈ knownNodes, node.srcAddr ≠ pkt.transmitterAddress) ∧
        lastSeqNos (updateKnownNodes par pkt knownNodes) =
          lastSeqNos knownNodes ++ [(pkt.transmitterAddress, pkt.sequenceNumber)] ∨
      ∃ before last after, (∀ node ∈ before, node.1 ≠ pkt.transmitterAddress) ∧
        lastSeqNos knownNodes = before ++ (pkt.transmitterAddress, last) :: after ∧
        lastSeqNos (updateKnownNodes par pkt knownNodes) =
          before ++ (pkt.transmitterAddress, max last pkt.sequenceNumber) :: after := by
  induction knownNodes with
  | nil => exact Or.inl ⟨by simp, rfl⟩
  | cons node rest ih =>
    rw [updateKnownNodes]
    by_cases haddr : node.srcAddr = pkt.transmitterAddress
    · rw [if_pos haddr]
      refine Or.inr ⟨[], node.lastSeqNoProcessed, lastSeqNos rest, by simp, ?_, ?_⟩
      · simp [lastSeqNos, haddr]
      · by_cases hlt : node.lastSeqNoProcessed < pkt.sequenceNumber
        · simp [lastSeqNos, haddr, hlt, max_eq_right hlt.le]
        · simp [lastSeqNos, haddr, hlt, max_eq_left (not_lt.mp hlt)]
    · rw [if_neg haddr]
      rcases ih with ⟨hnone, heq⟩ | ⟨before, last, after, hbefore, hold, hnew⟩
      · refine Or.inl ⟨List.forall_mem_cons.mpr ⟨haddr, hnone⟩, ?_⟩
        simpa [lastSeqNos] using heq
      · refine Or.inr ⟨(node.srcAddr, node.lastSeqNoProcessed) :: before, last, after,
          List.forall_mem_cons.mpr ⟨haddr, hbefore⟩, ?_, ?_⟩
        · simpa [lastSeqNos] using hold
        · simpa [lastSeqNos] using hnew

end inet.NetworkServerApp

namespace inet.NetworkServerApp

variable {par : Parameters} {locals : Indeterminate} {s s' : NetworkServerApp}

theorem scanReceivedPackets_of_not_mem {frame : LoRaMacFrame} {table : List ReceivedPacket}
    (hnone : ∀ entry ∈ table, entry.rcvdPacket.key ≠ frame.key) (i : Nat) (scan : TableScan) :
    scanReceivedPackets frame i table scan = scan := by
  induction table generalizing i with
  | nil => rfl
  | cons entry rest ih =>
    obtain ⟨hentry, hrest⟩ := List.forall_mem_cons.mp hnone
    rw [scanReceivedPackets, if_neg hentry]
    exact ih hrest (i + 1)

/-- When one entry has the key of the frame, the scan stops changing after it:
its index is the packet number, and its gateways alone are compared. -/
theorem scanReceivedPackets_split {frame : LoRaMacFrame} {before after : List ReceivedPacket}
    {entry : ReceivedPacket} (hbefore : ∀ e ∈ before, e.rcvdPacket.key ≠ frame.key)
    (hentry : entry.rcvdPacket.key = frame.key)
    (hafter : ∀ e ∈ after, e.rcvdPacket.key ≠ frame.key) (i : Nat) (scan : TableScan) :
    scanReceivedPackets frame i (before ++ entry :: after) scan =
      entry.possibleGateways.foldl TableScan.pick { scan with
        packetNumber := some (i + before.length)
        numReceivedPerNode :=
          countReceived frame.transmitterAddress.getInt scan.numReceivedPerNode } := by
  induction before generalizing i with
  | nil =>
    rw [List.nil_append, scanReceivedPackets, if_pos hentry, scanReceivedPackets_of_not_mem hafter]
    rfl
  | cons first rest ih =>
    obtain ⟨hfirst, hrest⟩ := List.forall_mem_cons.mp hbefore
    rw [List.cons_append, scanReceivedPackets, if_neg hfirst, ih hrest (i + 1)]
    simp only [List.length_cons, Nat.add_assoc, Nat.add_comm 1]

/-- Comparing gateways leaves the packet number and the counters alone. -/
theorem foldl_pick_frame (gateways : List (L3Address × ℚ × ℚ)) (scan : TableScan) :
    (gateways.foldl TableScan.pick scan).packetNumber = scan.packetNumber ∧
      (gateways.foldl TableScan.pick scan).numReceivedPerNode = scan.numReceivedPerNode := by
  induction gateways generalizing scan with
  | nil => exact ⟨rfl, rfl⟩
  | cons gateway rest ih =>
    obtain ⟨hnumber, hcount⟩ := ih (scan.pick gateway)
    rw [List.foldl_cons, hnumber, hcount]
    unfold TableScan.pick
    split <;> exact ⟨rfl, rfl⟩

/-- The inner loop ends on the greatest SNIR it has seen, above the one it
started from, and on the gateway that has it. -/
theorem foldl_pick_max (gateways : List (L3Address × ℚ × ℚ)) (scan : TableScan) :
    let final := gateways.foldl TableScan.pick scan
    scan.SNIRinGW ≤ final.SNIRinGW ∧ (∀ gateway ∈ gateways, gateway.2.1 ≤ final.SNIRinGW) ∧
      (final = scan ∨ (final.pickedGateway, final.SNIRinGW, final.RSSIinGW) ∈ gateways) := by
  induction gateways generalizing scan with
  | nil => exact ⟨le_rfl, by simp, Or.inl rfl⟩
  | cons gateway rest ih =>
    obtain ⟨hstart, hall, hpicked⟩ := ih (scan.pick gateway)
    simp only [List.foldl_cons]
    have hstep : scan.SNIRinGW ≤ (scan.pick gateway).SNIRinGW ∧
        gateway.2.1 ≤ (scan.pick gateway).SNIRinGW ∧
        (scan.pick gateway = scan ∨ ((scan.pick gateway).pickedGateway,
          (scan.pick gateway).SNIRinGW, (scan.pick gateway).RSSIinGW) = gateway) := by
      unfold TableScan.pick
      by_cases hlt : scan.SNIRinGW < gateway.2.1
      · rw [if_pos hlt]
        exact ⟨hlt.le, le_rfl, Or.inr rfl⟩
      · rw [if_neg hlt]
        exact ⟨le_rfl, not_lt.mp hlt, Or.inl rfl⟩
    obtain ⟨hkept, hgateway, hcase⟩ := hstep
    refine ⟨hkept.trans hstart, List.forall_mem_cons.mpr ⟨hgateway.trans hstart, hall⟩, ?_⟩
    rcases hpicked with hsame | hmem
    · rcases hcase with hscan | heq
      · exact Or.inl (hsame.trans hscan)
      · exact Or.inr (by rw [hsame, heq]; exact (.head _))
    · exact Or.inr (.tail _ hmem)

/-- Everything a call of `processScheduledPacket` that returns has done. -/
theorem processScheduledPacket_eq_ok {selfMsg : EndOfWaiting} {processed : Processed}
    (h : processScheduledPacket par locals s selfMsg = .ok (s', processed)) :
    ∃ packetNumber knownNodes adr perSF,
      (s.tableScan selfMsg.contextPointer).packetNumber = some packetNumber ∧
      s.countPerSF par selfMsg.contextPointer = .ok perSF ∧
      callEvaluateADR par locals s selfMsg.contextPointer (s.tableScan selfMsg.contextPointer) =
        .ok (knownNodes, adr) ∧
      processed = ⟨selfMsg.contextPointer, (s.tableScan selfMsg.contextPointer).pickedGateway,
        (s.tableScan selfMsg.contextPointer).SNIRinGW,
        (s.tableScan selfMsg.contextPointer).RSSIinGW, adr⟩ ∧
      s' = { s with
        knownNodes
        receivedPackets := s.receivedPackets.eraseIdx packetNumber
        numReceivedPerNode := (s.tableScan selfMsg.contextPointer).numReceivedPerNode
        counterUniqueReceivedPackets :=
          if s.isAfterWarmup par then s.counterUniqueReceivedPackets + 1
          else s.counterUniqueReceivedPackets
        counterUniqueReceivedPacketsPerSF := perSF } := by
  unfold processScheduledPacket at h
  cases hsf : s.countPerSF par selfMsg.contextPointer with
  | error fault => simp [hsf, bind, Except.bind] at h
  | ok perSF =>
    cases hadr : callEvaluateADR par locals s selfMsg.contextPointer
        (s.tableScan selfMsg.contextPointer) with
    | error fault => simp [hsf, hadr, bind, Except.bind] at h
    | ok result =>
      obtain ⟨knownNodes, adr⟩ := result
      cases hnumber : (s.tableScan selfMsg.contextPointer).packetNumber with
      | none => simp [hsf, hadr, hnumber, bind, Except.bind] at h
      | some packetNumber =>
        simp only [hsf, hadr, hnumber, bind, Except.bind, Except.ok.injEq, Prod.mk.injEq] at h
        exact ⟨packetNumber, knownNodes, adr, perSF, rfl, rfl, rfl, h.2.symm, h.1.symm⟩

end inet.NetworkServerApp

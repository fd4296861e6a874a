import LoRaInet.LoRa.NetworkServerApp.KnownNodes

open omnetpp transition

namespace inet.NetworkServerApp

variable {par : Parameters} {locals : Indeterminate} {s s' : NetworkServerApp}

/-- The waiting table and its timers agree: one entry a key, and the pending
`endOfWaiting` messages are those of the entries. -/
structure TableConsistent (s : NetworkServerApp) : Prop where
  keys_nodup : (tableKeys s).Nodup
  context : ∀ entry ∈ s.receivedPackets, entry.endOfWaiting.contextPointer = entry.rcvdPacket
  pending : s.fes.messages.Perm (s.receivedPackets.map (·.endOfWaiting))

theorem tableConsistent_initial : TableConsistent initial :=
  ⟨List.nodup_nil, by simp [initial], .nil⟩

variable {e : ScheduledMessage EndOfWaiting}

/-- A pending timer belongs to one entry, the only one with its key. -/
theorem TableConsistent.entry_of_scheduled (htable : TableConsistent s) (he : e ∈ s.fes.scheduled) :
    ∃ before entry after, s.receivedPackets = before ++ entry :: after ∧
      entry.endOfWaiting = e.message ∧ entry.rcvdPacket = e.message.contextPointer ∧
      ∀ other ∈ before ++ after, other.rcvdPacket.key ≠ entry.rcvdPacket.key := by
  have hmessage : e.message ∈ s.receivedPackets.map (·.endOfWaiting) :=
    htable.pending.mem_iff.mp (List.mem_map_of_mem he)
  obtain ⟨entry, hentry, hmsg⟩ := List.mem_map.mp hmessage
  obtain ⟨before, after, hsplit⟩ := List.append_of_mem hentry
  have hcontext : entry.rcvdPacket = e.message.contextPointer := by
    rw [← htable.context entry hentry, hmsg]
  have hnodup := htable.keys_nodup
  rw [tableKeys, hsplit, List.map_append, List.map_cons, List.nodup_middle, List.nodup_cons,
    ← List.map_append] at hnodup
  refine ⟨before, entry, after, hsplit, hmsg, hcontext, ?_⟩
  intro other hother heq
  exact hnodup.1 (List.mem_map.mpr ⟨other, hother, heq⟩)

/-- The gateway handed to `evaluateADR` is one of these, and none is better. -/
structure PicksBest (gateways : List (L3Address × ℚ × ℚ)) (processed : Processed) : Prop where
  greatest : ∀ gateway ∈ gateways, gateway.2.1 ≤ processed.SNIRinGW
  picked : (processed.pickedGateway, processed.SNIRinGW, processed.RSSIinGW) ∈ gateways

/-- What the end of the window of `entry` does. -/
structure WindowEnded (par : Parameters) (locals : Indeterminate) (s : NetworkServerApp)
    (e : ScheduledMessage EndOfWaiting) (before : List ReceivedPacket) (entry : ReceivedPacket)
    (after : List ReceivedPacket) (processed : Processed) (s' : NetworkServerApp) : Prop where
  next : e ∈ s.fes.scheduled ∧ s.fes.IsNext e.arrivalTime
  table : s.receivedPackets = before ++ entry :: after
  timer : entry.endOfWaiting = e.message
  context : entry.rcvdPacket = e.message.contextPointer
  others : ∀ other ∈ before ++ after, other.rcvdPacket.key ≠ entry.rcvdPacket.key
  removed : s'.receivedPackets = before ++ after
  fired : s'.fes = s.fes.fire e
  frame : processed.frame = entry.rcvdPacket
  picked : (∃ gateway ∈ entry.possibleGateways, noSignal < gateway.2.1) →
    PicksBest entry.possibleGateways processed
  perNode : s'.numReceivedPerNode =
    countReceived entry.rcvdPacket.transmitterAddress.getInt s.numReceivedPerNode
  unique : s'.counterUniqueReceivedPackets =
    if par.warmupPeriod ≤ e.arrivalTime then s.counterUniqueReceivedPackets + 1
    else s.counterUniqueReceivedPackets
  perSF : countPerSF par { s with fes := s.fes.fire e } entry.rcvdPacket =
    .ok s'.counterUniqueReceivedPacketsPerSF
  adr : if par.evaluateADRinServer then ∃ evaluation, processed.adr = some evaluation ∧
      evaluateADR par locals (par.warmupPeriod ≤ e.arrivalTime) s.knownNodes entry.rcvdPacket
        processed.pickedGateway processed.SNIRinGW processed.RSSIinGW =
          .ok (s'.knownNodes, evaluation)
    else processed.adr = none ∧ s'.knownNodes = s.knownNodes

variable {frame : LoRaMacFrame}

theorem picksBest_of_foldl {gateways : List (L3Address × ℚ × ℚ)} {scan : TableScan}
    {adr : Option AdrEvaluation} (hscan : scan.SNIRinGW = noSignal)
    (hsignal : ∃ gateway ∈ gateways, noSignal < gateway.2.1) :
    PicksBest gateways ⟨frame, (gateways.foldl TableScan.pick scan).pickedGateway,
      (gateways.foldl TableScan.pick scan).SNIRinGW,
      (gateways.foldl TableScan.pick scan).RSSIinGW, adr⟩ := by
  obtain ⟨-, hall, hpicked⟩ := foldl_pick_max gateways scan
  refine ⟨hall, ?_⟩
  rcases hpicked with hsame | hmem
  · -- the scan cannot have kept the value it started from
    obtain ⟨gateway, hgateway, hlt⟩ := hsignal
    have hle := hall gateway hgateway
    rw [hsame, hscan] at hle
    exact absurd hlt (not_lt.mpr hle)
  · exact hmem

variable {o : Option Processed}

theorem step_selfMessage_windowEnded (htable : TableConsistent s)
    (h : step par s (.selfMessage e locals) = some (s', o)) :
    ∃ before entry after processed, o = some processed ∧
      WindowEnded par locals s e before entry after processed s' := by
  obtain ⟨hscheduled, hnext, processed, rfl, hproc⟩ := step_selfMessage h
  obtain ⟨before, entry, after, hsplit, htimer, hcontext, hothers⟩ :=
    htable.entry_of_scheduled hscheduled
  obtain ⟨packetNumber, knownNodes, adr, perSF, hnumber, hperSF, hadr, hprocessed, hs'⟩ :=
    processScheduledPacket_eq_ok hproc
  rw [← hcontext] at hnumber hperSF hadr hprocessed hs'
  have hscan : tableScan { s with fes := s.fes.fire e } entry.rcvdPacket =
      entry.possibleGateways.foldl TableScan.pick
        { packetNumber := some (0 + before.length)
          numReceivedPerNode := countReceived entry.rcvdPacket.transmitterAddress.getInt
            s.numReceivedPerNode
          pickedGateway := {}, SNIRinGW := noSignal, RSSIinGW := noSignal } := by
    unfold tableScan
    rw [hsplit, scanReceivedPackets_split
      (fun other hother => hothers other (List.mem_append_left _ hother)) rfl
      (fun other hother => hothers other (List.mem_append_right _ hother))]
  rw [hscan] at hnumber hadr hprocessed hs'
  rw [(foldl_pick_frame _ _).1, Option.some.injEq, Nat.zero_add] at hnumber
  have hremoved : s.receivedPackets.eraseIdx packetNumber = before ++ after := by
    rw [hsplit, ← hnumber, List.eraseIdx_append_of_length_le le_rfl, Nat.sub_self,
      List.eraseIdx_cons_zero]
  subst hprocessed hs'
  refine ⟨before, entry, after, _, rfl, ?_⟩
  refine {
    next := ⟨hscheduled, hnext⟩, table := hsplit, timer := htimer, context := hcontext
    others := hothers, removed := hremoved, fired := rfl, frame := rfl
    picked := picksBest_of_foldl rfl, perNode := (foldl_pick_frame _ _).2, unique := ?_
    perSF := hperSF, adr := ?_ }
  · by_cases hwarm : par.warmupPeriod ≤ e.arrivalTime
    · simp [isAfterWarmup, FutureEventSet.fire, hwarm]
    · simp [isAfterWarmup, FutureEventSet.fire, hwarm]
  · unfold callEvaluateADR at hadr
    by_cases hserver : par.evaluateADRinServer = true
    · rw [if_pos hserver] at hadr ⊢
      obtain ⟨⟨evaluated, evaluation⟩, hevaluate, hok⟩ := bind_eq_ok_iff.mp hadr
      cases hok
      exact ⟨evaluation, rfl, hevaluate⟩
    · rw [if_neg hserver] at hadr ⊢
      cases hadr
      exact ⟨rfl, rfl⟩

variable {before after : List ReceivedPacket}

theorem WindowEnded.lastSeqNos {entry : ReceivedPacket} {processed : Processed}
    (hended : WindowEnded par locals s e before entry after processed s') :
    lastSeqNos s'.knownNodes = lastSeqNos s.knownNodes := by
  have hadr := hended.adr
  split at hadr
  · obtain ⟨evaluation, -, hevaluate⟩ := hadr
    exact evaluateADR_lastSeqNos hevaluate
  · rw [hadr.2]

theorem TableConsistent.windowEnded {entry : ReceivedPacket} {processed : Processed}
    (htable : TableConsistent s)
    (hended : WindowEnded par locals s e before entry after processed s') :
    TableConsistent s' := by
  have hsub : (before ++ after).Sublist s.receivedPackets := by
    rw [hended.table]
    exact (List.sublist_cons_self _ _).append_left before
  refine ⟨?_, ?_, ?_⟩
  · rw [tableKeys, hended.removed]
    exact htable.keys_nodup.sublist (hsub.map _)
  · intro other hother
    rw [hended.removed] at hother
    exact htable.context other (hsub.subset hother)
  · rw [hended.fired, hended.removed]
    have hpending : s.fes.messages.Perm
        (e.message :: (before ++ after).map (·.endOfWaiting)) := by
      refine htable.pending.trans ?_
      rw [hended.table, List.map_append, List.map_cons, hended.timer, List.map_append]
      exact List.perm_middle
    have hmessages : s.fes.messages.Perm (e.message :: (s.fes.fire e).messages) :=
      (List.perm_cons_erase hended.next.1).map _
    exact (hmessages.symm.trans hpending).cons_inv

theorem TableConsistent.heard (htable : TableConsistent s) (t : SimTime) (frame : LoRaMacFrame) :
    TableConsistent (s.heard par t frame) := ⟨htable.keys_nodup, htable.context, htable.pending⟩

theorem TableConsistent.addGateway (htable : TableConsistent s)
    {srcAddr : L3Address} {table : List ReceivedPacket}
    (hadd : addGateway par frame srcAddr s.receivedPackets = some table) :
    TableConsistent { s with receivedPackets := table } := by
  obtain ⟨before, entry, after, hsplit, -, rfl⟩ := addGateway_eq_some hadd
  obtain ⟨hkeys, hcontext, hpending⟩ := htable
  rw [tableKeys, hsplit, List.map_append, List.map_cons] at hkeys
  rw [hsplit, List.map_append, List.map_cons] at hpending
  refine ⟨?_, ?_, ?_⟩
  · rw [tableKeys, List.map_append, List.map_cons]
    exact hkeys
  · intro other hother
    rcases List.mem_append.mp hother with hother | hother
    · exact hcontext other (hsplit ▸ List.mem_append_left _ hother)
    · rcases List.mem_cons.mp hother with rfl | hother
      · exact hcontext entry (hsplit ▸ List.mem_append_right _ (.head _))
      · exact hcontext other
          (hsplit ▸ List.mem_append_right _ (.tail _ hother))
  · rw [List.map_append, List.map_cons]
    exact hpending

theorem TableConsistent.opened (htable : TableConsistent s)
    (srcAddr : L3Address) (hnone : ∀ entry ∈ s.receivedPackets, entry.rcvdPacket.key ≠ frame.key) :
    TableConsistent (s.opened par frame srcAddr) := by
  unfold NetworkServerApp.opened newEntry
  refine ⟨?_, ?_, ?_⟩
  · rw [tableKeys, List.map_append]
    refine List.Nodup.append htable.keys_nodup (List.nodup_singleton _) ?_
    rw [List.map_singleton, List.disjoint_singleton]
    intro hmem
    obtain ⟨entry, hentry, hkey⟩ := List.mem_map.mp hmem
    exact hnone entry hentry hkey
  · intro entry hentry
    rcases List.mem_append.mp hentry with hentry | hentry
    · exact htable.context entry hentry
    · rw [List.mem_singleton.mp hentry]
  · rw [List.map_append, FutureEventSet.messages, List.map_append]
    exact htable.pending.append_right _

theorem TableConsistent.step {event : Event} (htable : TableConsistent s)
    (h : step par s event = some (s', o)) : TableConsistent s' := by
  cases event with
  | udpIn t frame srcAddr =>
    obtain ⟨-, -, ⟨-, rfl⟩ | ⟨-, ⟨table, hadd, rfl⟩ | ⟨hnone, rfl⟩⟩⟩ := step_udpIn h
    · exact htable.heard t frame
    · exact (htable.heard t frame).addGateway hadd
    · exact (htable.heard t frame).opened srcAddr hnone
  | selfMessage e locals =>
    obtain ⟨before, entry, after, processed, -, hended⟩ := step_selfMessage_windowEnded htable h
    exact htable.windowEnded hended

variable {history : List Label}

theorem HighestSeqNos.step {event : Event} (htable : TableConsistent s)
    (hnodes : HighestSeqNos (delivered history) (lastSeqNos s.knownNodes))
    (h : step par s event = some (s', o)) :
    HighestSeqNos (delivered ((event, o) :: history)) (lastSeqNos s'.knownNodes) := by
  cases event with
  | udpIn t frame srcAddr =>
    have hheard := hnodes.updateKnownNodes par frame
    obtain ⟨-, -, ⟨-, rfl⟩ | ⟨-, ⟨table, -, rfl⟩ | ⟨-, rfl⟩⟩⟩ := step_udpIn h
    · exact hheard
    · exact hheard
    · exact hheard
  | selfMessage e locals =>
    obtain ⟨before, entry, after, processed, -, hended⟩ := step_selfMessage_windowEnded htable h
    rw [hended.lastSeqNos]
    exact hnodes

theorem tableConsistent_of_run (hrun : ServerRun par history s) : TableConsistent s := by
  induction hrun with
  | init hinit =>
    rw [hinit]
    exact tableConsistent_initial
  | step hrun hstep ih => exact ih.step hstep

theorem highestSeqNos_of_run (hrun : ServerRun par history s) :
    HighestSeqNos (delivered history) (lastSeqNos s.knownNodes) := by
  induction hrun with
  | init hinit =>
    rw [hinit]
    exact ⟨List.nodup_nil, by simp [delivered], by simp [lastSeqNos, initial],
      by simp [lastSeqNos, initial]⟩
  | step hrun hstep ih => exact HighestSeqNos.step (tableConsistent_of_run hrun) ih hstep

/-- Where the server has got to, the duplicate filter drops the superseded
frames and no others. -/
theorem isPacketProcessed_heard_iff (hrun : ServerRun par history s)
    (t : SimTime) (frame : LoRaMacFrame) :
    isPacketProcessed (s.heard par t frame) frame = true ↔ Superseded history frame.key := by
  have hnodes : HighestSeqNos (delivered ((.udpIn t frame {}, none) :: history))
      (lastSeqNos (s.heard par t frame).knownNodes) :=
    (highestSeqNos_of_run hrun).updateKnownNodes par frame
  rw [isPacketProcessed_iff_superseded hnodes, superseded_self]

end inet.NetworkServerApp

namespace inet.NetworkServerApp

variable {par : Parameters} {locals : Indeterminate} {s s' : NetworkServerApp}

/-- The uplinks that have been processed, each with the time of its call. -/
def processedUplinks : List Label → List (SimTime × Processed)
  | [] => []
  | (.selfMessage e _, some processed) :: history =>
    (e.arrivalTime, processed) :: processedUplinks history
  | _ :: history => processedUplinks history

/-- The address and sequence number of every call of `processScheduledPacket`. -/
def processedKeys (history : List Label) : List UplinkKey :=
  (processedUplinks history).map (·.2.frame.key)

def processedAfterWarmup (par : Parameters) (history : List Label) : List (SimTime × Processed) :=
  (processedUplinks history).filter fun uplink => par.warmupPeriod ≤ uplink.1

theorem processedAfterWarmup_selfMessage (e : ScheduledMessage EndOfWaiting)
    (locals : Indeterminate) (processed : Processed) (history : List Label) :
    processedAfterWarmup par ((.selfMessage e locals, some processed) :: history) =
      if par.warmupPeriod ≤ e.arrivalTime then
        (e.arrivalTime, processed) :: processedAfterWarmup par history
      else processedAfterWarmup par history := by
  unfold processedAfterWarmup
  rw [processedUplinks, List.filter_cons]
  by_cases hwarm : par.warmupPeriod ≤ e.arrivalTime
  · rw [if_pos (decide_eq_true hwarm), if_pos hwarm]
  · rw [if_neg (by simpa using hwarm), if_neg hwarm]

/-- The three statistics count the calls of `processScheduledPacket`. -/
structure CountsProcessed (par : Parameters) (history : List Label) (s : NetworkServerApp) :
    Prop where
  unique : s.counterUniqueReceivedPackets = (processedAfterWarmup par history).length
  perSF : ∀ i : Fin 6, s.counterUniqueReceivedPacketsPerSF i =
    ((processedAfterWarmup par history).countP fun uplink => uplink.2.frame.LoRaSF = ((i : Nat) : Int) + 7)
  perNode : ∀ nodeNumber : Int, (s.numReceivedPerNode nodeNumber).getD 0 =
    (processedUplinks history).countP fun uplink =>
      uplink.2.frame.transmitterAddress.getInt - 1 = nodeNumber

theorem countReceived_getD (nodeNumber n : Int) (numReceivedPerNode : Int → Option Nat) :
    (countReceived nodeNumber numReceivedPerNode n).getD 0 =
      (numReceivedPerNode n).getD 0 + if nodeNumber - 1 = n then 1 else 0 := by
  unfold countReceived
  by_cases hn : nodeNumber - 1 = n
  · rw [hn, Function.update_self, if_pos rfl, Option.getD_some]
  · rw [Function.update_of_ne (Ne.symm hn), if_neg hn, Nat.add_zero]

theorem countPerSF_eq_ok {frame : LoRaMacFrame} {perSF : Fin 6 → Nat}
    (h : countPerSF par s frame = .ok perSF) (i : Fin 6) :
    perSF i = s.counterUniqueReceivedPacketsPerSF i +
      if par.warmupPeriod ≤ s.fes.simTime ∧ frame.LoRaSF = ((i : Nat) : Int) + 7 then 1 else 0 := by
  unfold countPerSF isAfterWarmup at h
  by_cases hwarm : par.warmupPeriod ≤ s.fes.simTime
  · rw [if_pos (decide_eq_true hwarm)] at h
    obtain ⟨index, hindex, hok⟩ := bind_eq_ok_iff.mp h
    rw [← Except.ok.inj hok]
    unfold sfIndex at hindex
    split at hindex
    · have hval : (index : Nat) = (frame.LoRaSF - 7).toNat := by
        rw [← Except.ok.inj hindex]
      by_cases hi : i = index
      · have hsf : frame.LoRaSF = ((i : Nat) : Int) + 7 := by
          rw [hi]
          omega
        rw [hi, Function.update_self, if_pos ⟨hwarm, hi ▸ hsf⟩]
      · have hsf : ¬ frame.LoRaSF = ((i : Nat) : Int) + 7 := by
          intro hsf
          apply hi
          apply Fin.ext
          omega
        rw [Function.update_of_ne hi, if_neg (fun hboth => hsf hboth.2), Nat.add_zero]
    · cases hindex
  · rw [if_neg (by simpa using hwarm)] at h
    rw [← Except.ok.inj h, if_neg (fun hboth => hwarm hboth.1), Nat.add_zero]

theorem countsProcessed_of_run {history : List Label} (hrun : ServerRun par history s) :
    CountsProcessed par history s := by
  induction hrun with
  | init hinit =>
    rw [hinit]
    exact ⟨rfl, fun _ => rfl, fun _ => rfl⟩
  | @step history s s' label hrun hstep ih =>
    obtain ⟨event, o⟩ := label
    cases event with
    | udpIn t frame srcAddr =>
      have hcounts : CountsProcessed par history s' := by
        obtain ⟨-, -, ⟨-, rfl⟩ | ⟨-, ⟨table, -, rfl⟩ | ⟨-, rfl⟩⟩⟩ := step_udpIn hstep
        · exact ⟨ih.unique, ih.perSF, ih.perNode⟩
        · exact ⟨ih.unique, ih.perSF, ih.perNode⟩
        · exact ⟨ih.unique, ih.perSF, ih.perNode⟩
      exact ⟨hcounts.unique, hcounts.perSF, hcounts.perNode⟩
    | selfMessage e locals =>
      obtain ⟨before, entry, after, processed, ho, hended⟩ :=
        step_selfMessage_windowEnded (tableConsistent_of_run hrun) hstep
      dsimp only at ho
      subst ho
      refine ⟨?_, ?_, ?_⟩
      · rw [hended.unique, ih.unique, processedAfterWarmup_selfMessage]
        split
        · rw [List.length_cons]
        · rfl
      · intro i
        rw [countPerSF_eq_ok hended.perSF i, ih.perSF i, processedAfterWarmup_selfMessage,
          ← hended.frame]
        by_cases hwarm : par.warmupPeriod ≤ e.arrivalTime
        · simp [hwarm, FutureEventSet.fire, List.countP_cons]
        · simp [hwarm, FutureEventSet.fire]
      · intro nodeNumber
        rw [hended.perNode, countReceived_getD, ih.perNode nodeNumber, processedUplinks,
          List.countP_cons, hended.frame]
        simp

/-- A copy of an uplink that has been processed arrives only after the server
has heard a later frame of the node. -/
def LateCopiesSuperseded : List Label → Label → Prop
  | history, (.udpIn _ frame _, _) => frame.key ∈ processedKeys history → Superseded history frame.key
  | _, (.selfMessage _ _, _) => True

instance (history : List Label) (label : Label) : Decidable (LateCopiesSuperseded history label) :=
  match label with
  | (.udpIn _ frame _, _) => inferInstanceAs (Decidable (frame.key ∈ processedKeys history → _))
  | (.selfMessage _ _, _) => isTrue trivial

/-- No uplink is processed twice, and none in the table has been processed. -/
structure ProcessedOnce (history : List Label) (s : NetworkServerApp) : Prop where
  nodup : (processedKeys history).Nodup
  waiting : ∀ key ∈ tableKeys s, key ∉ processedKeys history

theorem ProcessedOnce.step {history : List Label} {event : Event} {o : Option Processed}
    (hrun : ServerRun par history s) (honce : ProcessedOnce history s)
    (h : NetworkServerApp.step par s event = some (s', o))
    (hlate : LateCopiesSuperseded history (event, o)) :
    ProcessedOnce ((event, o) :: history) s' := by
  cases event with
  | udpIn t frame srcAddr =>
    refine ⟨honce.nodup, ?_⟩
    change ∀ key ∈ tableKeys s', key ∉ processedKeys history
    obtain ⟨-, -, ⟨-, rfl⟩ | ⟨hfalse, ⟨table, hadd, rfl⟩ | ⟨-, rfl⟩⟩⟩ := step_udpIn h
    · exact honce.waiting
    · obtain ⟨before, entry, after, hsplit, -, rfl⟩ := addGateway_eq_some hadd
      intro key hkey
      apply honce.waiting key
      rw [tableKeys, hsplit]
      simpa [tableKeys] using hkey
    · intro key hkey
      rw [tableKeys, opened, List.map_append, List.mem_append] at hkey
      rcases hkey with hkey | hkey
      · exact honce.waiting key hkey
      · -- a window opened for a processed uplink needs an unsuperseded late copy
        rw [List.map_singleton, List.mem_singleton] at hkey
        intro hprocessed
        have hsuperseded : Superseded history frame.key := hlate (hkey ▸ hprocessed)
        rw [(isPacketProcessed_heard_iff hrun t frame).mpr hsuperseded] at hfalse
        cases hfalse
  | selfMessage e locals =>
    obtain ⟨before, entry, after, processed, rfl, hended⟩ :=
      step_selfMessage_windowEnded (tableConsistent_of_run hrun) h
    have hkeys : processedKeys ((Event.selfMessage e locals, some processed) :: history) =
        entry.rcvdPacket.key :: processedKeys history := by
      rw [processedKeys, processedUplinks, List.map_cons, hended.frame, processedKeys]
    have hentry : entry.rcvdPacket.key ∈ tableKeys s := by
      rw [tableKeys, hended.table]
      exact List.mem_map_of_mem (List.mem_append_right _ (.head _))
    constructor
    · rw [hkeys]
      exact List.nodup_cons.mpr ⟨honce.waiting _ hentry, honce.nodup⟩
    · intro key hkey
      rw [tableKeys, hended.removed] at hkey
      obtain ⟨other, hother, rfl⟩ := List.mem_map.mp hkey
      rw [hkeys, List.mem_cons, not_or]
      refine ⟨hended.others other hother, honce.waiting _ ?_⟩
      rw [tableKeys, hended.table]
      apply List.mem_map_of_mem
      exact List.perm_middle.mem_iff.mpr (.tail _ hother)

/-- When every copy that comes after its uplink was processed is superseded,
each uplink is processed, and counted, at most once. -/
theorem processScheduledPacket_at_most_once {history : List Label}
    (hrun : ServerRun par history s) (hlate : Always LateCopiesSuperseded history) :
    (processedKeys history).Nodup ∧ CountsProcessed par history s := by
  refine ⟨?_, countsProcessed_of_run hrun⟩
  have honce : ProcessedOnce history s := by
    refine Run.invariant_of_always hrun hlate ?_ ?_
    · rintro s rfl
      exact ⟨List.nodup_nil, by simp [tableKeys, initial]⟩
    · intro history s label s' hrun honce hstep hlate
      exact honce.step hrun hstep hlate
  exact honce.nodup

/-- A server with a logarithm that is right on 1, 10 and 100. -/
def sampleParameters : Parameters where
  evaluateADRinServer := true
  adrMethod := .max
  adrDeviceMargin := 10
  destPort := 1000
  warmupPeriod := 0
  log10 := fun x => if x = 10 then 1 else if x = 100 then 2 else 0

def sampleFrame (node : BitVec 32) (sequenceNumber : Int) (SNIR : ℚ) : LoRaMacFrame where
  transmitterAddress := ⟨node⟩
  sequenceNumber := sequenceNumber
  LoRaTP := 14
  LoRaSF := 12
  SNIR := SNIR

/-- The timer of the window that `frame` opened at `t`. -/
def sampleTimer (t : SimTime) (id : Nat) (frame : LoRaMacFrame) (nodeIndex : Int) : Event :=
  .selfMessage ⟨t + waitingTime, id, frame⟩ { nodeIndex, SNRm := 0, requiredSNR := 0 }

/-- Two copies in one window, a later frame, and a copy that is late. -/
theorem processScheduledPacket_at_most_once_of_superseded : ∃ history s,
    ServerRun sampleParameters history s ∧
      processedKeys history = [(⟨1⟩, 6), (⟨1⟩, 5)] ∧ (processedKeys history).Nodup ∧
        CountsProcessed sampleParameters history s := by
  obtain ⟨s, history, hrun, hkeys, hlate⟩ := exists_run_of_execute
    (step sampleParameters) initial
    [.udpIn 0 (sampleFrame 1 5 10) {}, .udpIn 1 (sampleFrame 1 5 100) {},
      sampleTimer 0 0 (sampleFrame 1 5 10) 0, .udpIn 2 (sampleFrame 1 6 10) {},
      .udpIn 3 (sampleFrame 1 5 1) {}, sampleTimer 2 1 (sampleFrame 1 6 10) 0]
    (fun _ history => processedKeys history = [(⟨1⟩, 6), (⟨1⟩, 5)] ∧
      Always LateCopiesSuperseded history) (by decide +kernel)
  obtain ⟨hnodup, hcounts⟩ := processScheduledPacket_at_most_once hrun hlate
  exact ⟨history, s, hrun, hkeys, hnodup, hcounts⟩

/-- A copy that comes after the window, and before any later frame of its node,
opens a second window: the uplink is processed and counted twice. -/
theorem processScheduledPacket_twice : ∃ history s, ServerRun sampleParameters history s ∧
    ¬ (processedKeys history).Nodup ∧ s.counterUniqueReceivedPackets = 2 := by
  obtain ⟨s, history, hrun, hnodup, hunique⟩ := exists_run_of_execute
    (step sampleParameters) initial
    [.udpIn 0 (sampleFrame 1 5 10) {}, sampleTimer 0 0 (sampleFrame 1 5 10) 0,
      .udpIn 2 (sampleFrame 1 5 100) {}, sampleTimer 2 1 (sampleFrame 1 5 100) 0]
    (fun s history => ¬ (processedKeys history).Nodup ∧ s.counterUniqueReceivedPackets = 2)
    (by decide +kernel)
  exact ⟨history, s, hrun, hnodup, hunique⟩

end inet.NetworkServerApp

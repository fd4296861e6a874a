import LoRaInet.LoRa.NetworkServerApp.GatewayChoice
import Mathlib.Data.List.DropRight
import Mathlib.Order.Bounds.Basic
import Mathlib.Tactic.Linarith
import Mathlib.Tactic.FieldSimp

open omnetpp transition

namespace inet

theorem maxElement_isGreatest (x : ℚ) (xs : List ℚ) :
    IsGreatest {y | y ∈ x :: xs} (maxElement (x :: xs)) := by
  induction xs generalizing x with
  | nil => exact ⟨(.head _), fun y hy => (List.mem_singleton.mp hy).le⟩
  | cons y ys ih =>
    rw [show maxElement (x :: y :: ys) = maxElement ((if x < y then y else x) :: ys) from rfl]
    obtain ⟨hmem, hbound⟩ := ih (if x < y then y else x)
    have hx : x ≤ if x < y then y else x := by
      split
      · next hlt => exact hlt.le
      · exact le_rfl
    have hy : y ≤ if x < y then y else x := by
      split
      · exact le_rfl
      · next hlt => exact not_lt.mp hlt
    constructor
    · rcases List.mem_cons.mp hmem with heq | hmem
      · rw [Set.mem_ofPred_eq, heq]
        split
        · exact .tail _ (.head _)
        · exact (.head _)
      · exact .tail _ (.tail _ hmem)
    · have hfirst := hbound (.head _)
      intro z hz
      rcases List.mem_cons.mp hz with rfl | hz
      · exact hx.trans hfirst
      · rcases List.mem_cons.mp hz with rfl | hz
        · exact hy.trans hfirst
        · exact hbound (.tail _ hz)

namespace NetworkServerApp

variable {par : Parameters} {locals : Indeterminate} {s s' : NetworkServerApp}

/-- Whether the twenty-frame condition of `evaluateADR` held. -/
def Processed.sentCommand (processed : Processed) : Bool :=
  processed.adr.any (·.SNRm.isSome)

/-- The picked-gateway SNIR of all uplinks of a node that were processed. -/
def nodeSNIRs (addr : DevAddr) : List Label → List ℚ
  | [] => []
  | (_, some processed) :: history =>
    if processed.frame.transmitterAddress = addr then
      nodeSNIRs addr history ++ [processed.SNIRinGW]
    else nodeSNIRs addr history
  | (_, none) :: history => nodeSNIRs addr history

/-- Those of the uplinks processed since the last ADR command for the node. -/
def snirsSinceCommand (addr : DevAddr) : List Label → List ℚ
  | [] => []
  | (_, some processed) :: history =>
    if processed.frame.transmitterAddress = addr then
      if processed.sentCommand then [] else snirsSinceCommand addr history ++ [processed.SNIRinGW]
    else snirsSinceCommand addr history
  | (_, none) :: history => snirsSinceCommand addr history

theorem snirsSinceCommand_suffix (addr : DevAddr) (history : List Label) :
    snirsSinceCommand addr history <:+ nodeSNIRs addr history := by
  induction history with
  | nil => exact List.suffix_rfl
  | cons label history ih =>
    obtain ⟨event, o⟩ := label
    cases o with
    | none => exact ih
    | some processed =>
      rw [snirsSinceCommand, nodeSNIRs]
      by_cases haddr : processed.frame.transmitterAddress = addr
      · rw [if_pos haddr, if_pos haddr]
        split
        · exact List.nil_suffix
        · obtain ⟨before, hbefore⟩ := ih
          exact ⟨before, by rw [← hbefore, List.append_assoc]⟩
      · rw [if_neg haddr, if_neg haddr]
        exact ih

/-- The record of a node keeps the last nineteen of its values, and counts those
since the last command. -/
structure AdrWindow (history : List Label) (node : KnownNode) : Prop where
  frames : node.framesFromLastADRCommand = (snirsSinceCommand node.srcAddr history).length
  few : node.framesFromLastADRCommand < 20
  list : node.adrListSNIR = (nodeSNIRs node.srcAddr history).rtake 19

variable {history : List Label}

theorem AdrWindow.congr {node node' : KnownNode}
    (hnode : AdrWindow history node) (haddr : node'.srcAddr = node.srcAddr)
    (hframes : node'.framesFromLastADRCommand = node.framesFromLastADRCommand)
    (hlist : node'.adrListSNIR = node.adrListSNIR) : AdrWindow history node' :=
  ⟨by rw [hframes, haddr, hnode.frames], hframes ▸ hnode.few, by rw [hlist, haddr, hnode.list]⟩

theorem AdrWindow.of_unaccounted {node node' : KnownNode}
    (hnode : AdrWindow history node) (heq : node'.unaccounted = node.unaccounted) :
    AdrWindow history node' := by
  obtain ⟨haddr, hframes, -, -, hlist, -⟩ := KnownNode.mk.inj heq
  exact hnode.congr haddr hframes hlist

theorem rtake_push (values : List ℚ) (x : ℚ) :
    (if (values.rtake 19 ++ [x]).length = 20 then (values.rtake 19 ++ [x]).tail
      else values.rtake 19 ++ [x]) = (values ++ [x]).rtake 19 := by
  have hlength : (values.rtake 19).length = min 19 values.length := by
    rw [List.rtake, List.length_drop]
    omega
  rw [List.length_append, hlength, List.length_singleton]
  by_cases hfull : 19 ≤ values.length
  · rw [if_pos (by omega), List.rtake, List.rtake, List.length_append, List.length_singleton]
    rw [List.tail_append_of_ne_nil, List.tail_drop, List.drop_append_of_le_length (by omega)]
    · congr 2
      omega
    · intro hnil
      rw [List.drop_eq_nil_iff] at hnil
      omega
  · rw [if_neg (by omega), List.rtake, List.rtake, List.length_append, List.length_singleton,
      Nat.sub_eq_zero_of_le (by omega), Nat.sub_eq_zero_of_le (by omega), List.drop_zero,
      List.drop_zero]

theorem rtake_of_suffix {values all : List ℚ} (hsuffix : values <:+ all) :
    all.rtake values.length = values := (List.suffix_iff_eq_drop.mp hsuffix).symm

variable {processed : Processed} {node : KnownNode}

theorem AdrWindow.other {event : Event} (hnode : AdrWindow history node)
    (haddr : ¬ processed.frame.transmitterAddress = node.srcAddr) :
    AdrWindow ((event, some processed) :: history) node := by
  refine ⟨?_, hnode.few, ?_⟩
  · rw [snirsSinceCommand, if_neg haddr]
    exact hnode.frames
  · rw [nodeSNIRs, if_neg haddr]
    exact hnode.list

open KnownNode

/-- An uplink of the node is counted in its record, and the count starts again
with the command. -/
theorem AdrWindow.afterUplink {event : Event} (hnode : AdrWindow history node)
    (haddr : processed.frame.transmitterAddress = node.srcAddr)
    (hsent : processed.sentCommand = true ↔ node.framesFromLastADRCommand + 1 = 20)
    (pkt : LoRaMacFrame) (RSSIinGW : ℚ) :
    AdrWindow ((event, some processed) :: history)
      (node.afterUplink pkt processed.SNIRinGW RSSIinGW) := by
  have hlist : (node.recordUplink pkt processed.SNIRinGW RSSIinGW).adrListSNIR =
      (nodeSNIRs node.srcAddr history ++ [processed.SNIRinGW]).rtake 19 := by
    unfold recordUplink
    rw [hnode.list]
    exact rtake_push _ _
  have hfew := hnode.few
  refine ⟨?_, ?_, ?_⟩
  · rw [afterUplink_framesFromLastADRCommand, afterUplink_srcAddr,
      snirsSinceCommand, if_pos haddr]
    by_cases hfull : node.framesFromLastADRCommand + 1 = 20
    · rw [if_pos hfull, if_pos (hsent.mpr hfull), List.length_nil]
    · rw [if_neg hfull, if_neg (fun hsome => hfull (hsent.mp hsome)), List.length_append,
        List.length_singleton, hnode.frames]
  · rw [afterUplink_framesFromLastADRCommand]
    split
    · decide
    · omega
  · rw [afterUplink_adrListSNIR, afterUplink_srcAddr, nodeSNIRs,
      if_pos haddr]
    exact hlist

theorem mem_updateKnownNodes {pkt : LoRaMacFrame} {knownNodes : List KnownNode}
    (h : node ∈ updateKnownNodes par pkt knownNodes) :
    (∃ old ∈ knownNodes, node.srcAddr = old.srcAddr ∧
        node.framesFromLastADRCommand = old.framesFromLastADRCommand ∧
        node.adrListSNIR = old.adrListSNIR) ∨
      node = newNode par pkt ∧ ∀ old ∈ knownNodes, old.srcAddr ≠ pkt.transmitterAddress := by
  induction knownNodes with
  | nil => exact Or.inr ⟨List.mem_singleton.mp h, by simp⟩
  | cons first rest ih =>
    rw [updateKnownNodes] at h
    by_cases haddr : first.srcAddr = pkt.transmitterAddress
    · rw [if_pos haddr] at h
      rcases List.mem_cons.mp h with rfl | hrest
      · refine Or.inl ⟨first, (.head _), ?_⟩
        split <;> exact ⟨rfl, rfl, rfl⟩
      · exact Or.inl ⟨node, .tail _ hrest, rfl, rfl, rfl⟩
    · rw [if_neg haddr] at h
      rcases List.mem_cons.mp h with rfl | hrest
      · exact Or.inl ⟨node, (.head _), rfl, rfl, rfl⟩
      · rcases ih hrest with ⟨old, hold, hsame⟩ | ⟨hnew, hnone⟩
        · exact Or.inl ⟨old, .tail _ hold, hsame⟩
        · exact Or.inr ⟨hnew, List.forall_mem_cons.mpr ⟨haddr, hnone⟩⟩

/-- With one record of the transmitter, the twenty-frame condition is its own. -/
theorem evaluateADR_SNRm {isAfterWarmup : Bool} {before after knownNodes' : List KnownNode}
    {pkt : LoRaMacFrame} {pickedGateway : L3Address} {SNIRinGW RSSIinGW : ℚ}
    {adr : AdrEvaluation}
    (hbefore : ∀ n ∈ before, n.srcAddr ≠ pkt.transmitterAddress)
    (hnode : node.srcAddr = pkt.transmitterAddress)
    (hafter : ∀ n ∈ after, n.srcAddr ≠ pkt.transmitterAddress)
    (h : evaluateADR par locals isAfterWarmup (before ++ node :: after) pkt pickedGateway SNIRinGW
      RSSIinGW = .ok (knownNodes', adr)) :
    adr.SNRm = if node.framesFromLastADRCommand + 1 = 20 then
      some (par.adrMethod.SNRm locals.SNRm
        (node.recordUplink pkt SNIRinGW RSSIinGW).adrListSNIR) else none := by
  rw [(evaluateADR_unaccounted h).2, scanKnownNodes_split hbefore hnode hafter]
  by_cases hfull : node.framesFromLastADRCommand + 1 = 20
  · simp only [if_pos hfull, if_true]
  · simp only [if_neg hfull, Bool.false_eq_true, if_false]

theorem rcvdPacket_delivered (hrun : ServerRun par history s) :
    ∀ entry ∈ s.receivedPackets, entry.rcvdPacket ∈ delivered history := by
  induction hrun with
  | init hinit =>
    rw [hinit]
    simp [initial]
  | @step history s s' label hrun hstep ih =>
    obtain ⟨event, o⟩ := label
    cases event with
    | udpIn t frame srcAddr =>
      rw [delivered]
      obtain ⟨-, -, ⟨-, rfl⟩ | ⟨-, ⟨table, hadd, rfl⟩ | ⟨-, rfl⟩⟩⟩ := step_udpIn hstep
      · intro entry hentry
        exact .tail _ (ih entry hentry)
      · obtain ⟨before, joined, after, hsplit, -, rfl⟩ := addGateway_eq_some hadd
        intro entry hentry
        apply List.mem_cons_of_mem
        rcases List.mem_cons.mp (List.perm_middle.mem_iff.mp hentry) with rfl | hother
        · exact ih joined (hsplit ▸ List.mem_append_right _ (.head _))
        · apply ih
          rw [hsplit]
          exact List.perm_middle.mem_iff.mpr (.tail _ hother)
      · intro entry hentry
        rcases List.mem_append.mp hentry with hentry | hentry
        · exact .tail _ (ih entry hentry)
        · rw [List.mem_singleton.mp hentry]
          exact (.head _)
    | selfMessage e locals =>
      obtain ⟨before, ended, after, processed, -, hended⟩ :=
        step_selfMessage_windowEnded (tableConsistent_of_run hrun) hstep
      intro entry hentry
      apply ih
      rw [hended.removed] at hentry
      rw [hended.table]
      exact List.perm_middle.mem_iff.mpr (.tail _ hentry)

/-- The table of known nodes splits at the transmitter of an uplink whose window
ends. -/
theorem knownNodes_split (hrun : ServerRun par history s)
    {entry : ReceivedPacket} (hentry : entry ∈ s.receivedPackets) :
    ∃ before node after, s.knownNodes = before ++ node :: after ∧
      node.srcAddr = entry.rcvdPacket.transmitterAddress ∧
      (∀ n ∈ before, n.srcAddr ≠ entry.rcvdPacket.transmitterAddress) ∧
      ∀ n ∈ after, n.srcAddr ≠ entry.rcvdPacket.transmitterAddress := by
  have hnodes := highestSeqNos_of_run hrun
  obtain ⟨seqNo, hseqNo, haddr⟩ := List.mem_map.mp
    (hnodes.known _ (rcvdPacket_delivered hrun entry hentry))
  obtain ⟨node, hnode, rfl⟩ := List.mem_map.mp hseqNo
  obtain ⟨before, after, hsplit⟩ := List.append_of_mem hnode
  have hnodup := hnodes.nodup
  rw [hsplit, lastSeqNos, List.map_map, List.map_append, List.map_cons, List.nodup_middle,
    List.nodup_cons, ← List.map_append] at hnodup
  have hother : ∀ n ∈ before ++ after, n.srcAddr ≠ entry.rcvdPacket.transmitterAddress := by
    intro n hn heq
    exact hnodup.1 (List.mem_map.mpr ⟨n, hn, heq.trans haddr.symm⟩)
  exact ⟨before, node, after, hsplit, haddr, fun n hn => hother n (List.mem_append_left _ hn),
    fun n hn => hother n (List.mem_append_right _ hn)⟩

/-- Each record keeps the window of its node, and a node without a record has
had no uplink processed. -/
structure AdrHistory (history : List Label) (s : NetworkServerApp) : Prop where
  windows : ∀ node ∈ s.knownNodes, AdrWindow history node
  unheard : ∀ addr ∉ s.knownNodes.map (·.srcAddr), nodeSNIRs addr history = []

theorem map_srcAddr (knownNodes : List KnownNode) :
    knownNodes.map (·.srcAddr) = (lastSeqNos knownNodes).map Prod.fst := by
  rw [lastSeqNos, List.map_map]
  rfl

theorem AdrHistory.heard {t : SimTime} {frame : LoRaMacFrame}
    (hadr : AdrHistory history s) : AdrHistory history (s.heard par t frame) := by
  constructor
  · intro node hnode
    rcases mem_updateKnownNodes hnode with ⟨old, hold, haddr, hframes, hlist⟩ | ⟨rfl, hnone⟩
    · exact (hadr.windows old hold).congr haddr hframes hlist
    · have hempty : nodeSNIRs frame.transmitterAddress history = [] := by
        apply hadr.unheard
        simpa using hnone
      have hsince := snirsSinceCommand_suffix frame.transmitterAddress history
      rw [hempty, List.suffix_nil] at hsince
      exact ⟨by rw [newNode, hsince]; rfl, Nat.zero_lt_succ _, by rw [newNode, hempty]; rfl⟩
  · intro addr hunknown
    apply hadr.unheard
    intro hknown
    apply hunknown
    rw [map_srcAddr] at hknown ⊢
    rcases @updateKnownNodes_lastSeqNos par frame s.knownNodes with
      ⟨-, heq⟩ | ⟨before, last, after, -, hold, heq⟩
    · change addr ∈ (lastSeqNos (updateKnownNodes par frame s.knownNodes)).map Prod.fst
      rw [heq, List.map_append]
      exact List.mem_append_left _ hknown
    · change addr ∈ (lastSeqNos (updateKnownNodes par frame s.knownNodes)).map Prod.fst
      rw [hold] at hknown
      rw [heq]
      simpa using hknown

/-- A step in which no uplink is processed leaves the windows alone. -/
theorem AdrHistory.unprocessed {event : Event}
    (hadr : AdrHistory history s) : AdrHistory ((event, none) :: history) s := by
  refine ⟨?_, hadr.unheard⟩
  intro node hnode
  obtain ⟨hframes, hfew, hlist⟩ := hadr.windows node hnode
  exact ⟨hframes, hfew, hlist⟩

theorem AdrHistory.windowEnded {e : ScheduledMessage EndOfWaiting}
    {before after : List ReceivedPacket} {entry : ReceivedPacket}
    (hserver : par.evaluateADRinServer = true) (hrun : ServerRun par history s)
    (hadr : AdrHistory history s)
    (hended : WindowEnded par locals s e before entry after processed s') :
    AdrHistory ((.selfMessage e locals, some processed) :: history) s' := by
  have hentry : entry ∈ s.receivedPackets := by
    rw [hended.table]
    exact List.mem_append_right _ (.head _)
  obtain ⟨evaluation, hsome, hevaluate⟩ : ∃ evaluation, processed.adr = some evaluation ∧ _ := by
    simpa only [hserver, if_true] using hended.adr
  obtain ⟨beforeNodes, tx, afterNodes, hsplit, htx, hbefore, hafter⟩ := knownNodes_split hrun hentry
  have hSNRm : evaluation.SNRm = if tx.framesFromLastADRCommand + 1 = 20 then _ else none :=
    evaluateADR_SNRm hbefore htx hafter (hsplit ▸ hevaluate)
  have hsent : processed.sentCommand = true ↔ tx.framesFromLastADRCommand + 1 = 20 := by
    rw [Processed.sentCommand, hsome, Option.any_some, hSNRm]
    split
    · next hfull => simpa using hfull
    · next hfull => simpa using hfull
  have hunaccounted := (evaluateADR_unaccounted hevaluate).1
  rw [scanKnownNodes_fst, List.map_map] at hunaccounted
  constructor
  · intro node hnode
    obtain ⟨old, hold, heq⟩ := List.mem_map.mp
      (hunaccounted ▸ List.mem_map_of_mem (f := unaccounted) hnode)
    rw [Function.comp_apply] at heq
    refine AdrWindow.of_unaccounted ?_ heq.symm
    by_cases haddr : old.srcAddr = entry.rcvdPacket.transmitterAddress
    · rw [if_pos haddr]
      have hold_tx : old = tx := by
        rw [hsplit] at hold
        rcases List.mem_cons.mp (List.perm_middle.mem_iff.mp hold) with heq | hother
        · exact heq
        · rcases List.mem_append.mp hother with hother | hother
          · exact absurd haddr (hbefore old hother)
          · exact absurd haddr (hafter old hother)
      refine (hadr.windows old hold).afterUplink ?_ ?_ _ _
      · rw [hended.frame, haddr]
      · rw [hold_tx]
        exact hsent
    · rw [if_neg haddr]
      refine (hadr.windows old hold).other ?_
      rw [hended.frame]
      exact Ne.symm haddr
  · intro addr hunknown
    rw [map_srcAddr, hended.lastSeqNos, ← map_srcAddr] at hunknown
    rw [nodeSNIRs, if_neg]
    · exact hadr.unheard addr hunknown
    · rintro rfl
      apply hunknown
      rw [hended.frame, hsplit]
      exact List.mem_map.mpr ⟨tx, List.mem_append_right _ (.head _), htx⟩

theorem adrHistory_of_run (hserver : par.evaluateADRinServer = true)
    (hrun : ServerRun par history s) : AdrHistory history s := by
  induction hrun with
  | init hinit =>
    rw [hinit]
    exact ⟨by simp [initial], fun _ _ => rfl⟩
  | @step history s s' label hrun hstep ih =>
    obtain ⟨event, o⟩ := label
    cases event with
    | udpIn t frame srcAddr =>
      obtain ⟨ho, -, hcases⟩ := step_udpIn hstep
      dsimp only at ho
      subst ho
      have hheard : AdrHistory history (s.heard par t frame) := ih.heard
      obtain ⟨-, rfl⟩ | ⟨-, ⟨table, -, rfl⟩ | ⟨-, rfl⟩⟩ := hcases
      · exact hheard.unprocessed
      · exact AdrHistory.unprocessed ⟨hheard.windows, hheard.unheard⟩
      · exact AdrHistory.unprocessed ⟨hheard.windows, hheard.unheard⟩
    | selfMessage e locals =>
      obtain ⟨before, entry, after, processed, ho, hended⟩ :=
        step_selfMessage_windowEnded (tableConsistent_of_run hrun) hstep
      dsimp only at ho
      subst ho
      exact ih.windowEnded hserver hrun hended

/-- An ADR command is decided at the twentieth uplink processed for the node
since the last one. The measure is taken over the last nineteen of them, so it
is that of all twenty exactly when the first does not matter. -/
theorem evaluateADR_window {history : List Label} {e : ScheduledMessage EndOfWaiting}
    {processed : Processed} {evaluation : AdrEvaluation} {SNRm : ℚ}
    (hrun : ServerRun par history s)
    (h : step par s (.selfMessage e locals) = some (s', some processed))
    (hadr : processed.adr = some evaluation) (hcommand : evaluation.SNRm = some SNRm) :
    ∃ first others,
      snirsSinceCommand processed.frame.transmitterAddress history ++ [processed.SNIRinGW] =
        first :: others ∧
      others.length = 19 ∧
      (par.adrMethod = .max →
        (IsGreatest {x | x ∈ first :: others} SNRm ↔ ∃ x ∈ others, first ≤ x)) ∧
      (par.adrMethod = .avg →
        (SNRm = (first :: others).sum / 20 ↔ first = others.sum / 19)) := by
  obtain ⟨before, entry, after, _, ho, hended⟩ :=
    step_selfMessage_windowEnded (tableConsistent_of_run hrun) h
  cases ho
  have hentry : entry ∈ s.receivedPackets := by
    rw [hended.table]
    exact List.mem_append_right _ List.mem_cons_self
  have hserver : par.evaluateADRinServer = true := by
    by_contra hoff
    have hnone := hended.adr
    rw [if_neg hoff, hadr] at hnone
    cases hnone.1
  obtain ⟨_, hsome, hevaluate⟩ : ∃ evaluation, processed.adr = some evaluation ∧ _ := by
    simpa only [hserver, if_true] using hended.adr
  obtain rfl := Option.some.inj (hsome.symm.trans hadr)
  obtain ⟨beforeNodes, tx, afterNodes, hsplit, htx, hbefore, hafter⟩ := knownNodes_split hrun hentry
  have hwindow := (adrHistory_of_run hserver hrun).windows tx
    (hsplit ▸ List.mem_append_right _ List.mem_cons_self)
  rw [evaluateADR_SNRm hbefore htx hafter (hsplit ▸ hevaluate)] at hcommand
  split at hcommand
  · next hfull =>
    rw [hended.frame, ← htx]
    -- the twenty values are those since the last command, and this one
    obtain ⟨first, others, hvalues⟩ : ∃ first others,
        snirsSinceCommand tx.srcAddr history ++ [processed.SNIRinGW] = first :: others :=
      List.exists_cons_of_ne_nil (by simp)
    have hlength : others.length = 19 := by
      have hcount := congrArg List.length hvalues
      rw [List.length_append, List.length_singleton, ← hwindow.frames, List.length_cons] at hcount
      omega
    have hlist : (tx.recordUplink entry.rcvdPacket processed.SNIRinGW
        processed.RSSIinGW).adrListSNIR = others := by
      unfold KnownNode.recordUplink
      dsimp only
      rw [hwindow.list, rtake_push, ← hlength]
      apply rtake_of_suffix
      obtain ⟨earlier, hearlier⟩ := snirsSinceCommand_suffix tx.srcAddr history
      refine (List.suffix_cons first others).trans ?_
      rw [← hvalues, ← hearlier, List.append_assoc]
      exact List.suffix_append _ _
    rw [hlist] at hcommand
    obtain ⟨second, rest, rfl⟩ : ∃ second rest, others = second :: rest :=
      List.exists_cons_of_length_pos (by omega)
    refine ⟨first, second :: rest, hvalues, hlength, ?_, ?_⟩
    · intro hmax
      rw [hmax] at hcommand
      have hgreatest : IsGreatest {x | x ∈ second :: rest} SNRm :=
        Option.some.inj hcommand ▸ maxElement_isGreatest second rest
      constructor
      · intro htwenty
        exact ⟨SNRm, hgreatest.1, htwenty.2 List.mem_cons_self⟩
      · rintro ⟨x, hx, hle⟩
        refine ⟨List.mem_cons_of_mem _ hgreatest.1, ?_⟩
        intro y hy
        rcases List.mem_cons.mp hy with rfl | hy
        · exact hle.trans (hgreatest.2 hx)
        · exact hgreatest.2 hy
    · intro havg
      rw [havg] at hcommand
      have hmean : (second :: rest).sum / 19 = SNRm := by
        have hSNRm := Option.some.inj hcommand
        rw [AdrMethod.SNRm, average, hlength] at hSNRm
        exact_mod_cast hSNRm
      rw [List.sum_cons (a := first), ← hmean]
      constructor
      · intro heq
        linarith
      · intro heq
        linarith
  · cases hcommand

/-- Uplinks of node 1 with these SNIR values, each in a window of its own. -/
def sampleUplinks : Nat → List ℚ → List Event
  | _, [] => []
  | i, SNIR :: rest =>
    .udpIn (2 * i) (sampleFrame 1 i SNIR) {} :: sampleTimer (2 * i) i (sampleFrame 1 i SNIR) 0 ::
      sampleUplinks (i + 1) rest

/-- What the server decides when the window of the twentieth uplink ends. -/
def sampleDecision (s : NetworkServerApp) (SNIR : ℚ) : Option (Processed × AdrEvaluation × ℚ) := do
  let result ← step sampleParameters s (sampleTimer 38 19 (sampleFrame 1 19 SNIR) 0)
  let processed ← result.2
  let evaluation ← processed.adr
  let SNRm ← evaluation.SNRm
  some (processed, evaluation, SNRm)

theorem sampleDecision_eq_some {SNIR SNRm : ℚ}
    {evaluation : AdrEvaluation} (h : sampleDecision s SNIR = some (processed, evaluation, SNRm)) :
    ∃ s', step sampleParameters s (sampleTimer 38 19 (sampleFrame 1 19 SNIR) 0) =
        some (s', some processed) ∧
      processed.adr = some evaluation ∧ evaluation.SNRm = some SNRm := by
  unfold sampleDecision at h
  simp only [Option.bind_eq_bind, Option.bind_eq_some_iff, Option.some.injEq, Prod.mk.injEq] at h
  obtain ⟨⟨s', o⟩, hstep, processed', ho, evaluation', hadr, SNRm', hSNRm, rfl, rfl, rfl⟩ := h
  dsimp only at ho
  rw [ho] at hstep
  exact ⟨s', hstep, hadr, hSNRm⟩

/-- Nineteen uplinks of which the first is not the best, and the twentieth. -/
theorem evaluateADR_window_of_twenty : ∃ history s s' processed,
    ServerRun sampleParameters history s ∧
      step sampleParameters s (sampleTimer 38 19 (sampleFrame 1 19 1) 0) =
        some (s', some processed) ∧
      IsGreatest {x | x ∈ snirsSinceCommand processed.frame.transmitterAddress history ++
        [processed.SNIRinGW]} 20 := by
  obtain ⟨s, history, hrun, ⟨processed, evaluation, SNRm⟩, hdecision, haddr, hsnir, rfl, hvalues⟩ :=
    exists_run_of_execute (step sampleParameters) initial
    (sampleUplinks 0 (10 :: 100 :: List.replicate 17 1) ++
      [.udpIn 38 (sampleFrame 1 19 1) {}])
    (fun s history => ∃ decision ∈ sampleDecision s 1,
      decision.1.frame.transmitterAddress = ⟨1⟩ ∧ decision.1.SNIRinGW = 0 ∧
      decision.2.2 = 20 ∧
      snirsSinceCommand ⟨1⟩ history = 10 :: 20 :: List.replicate 17 0)
    (by decide +kernel)
  dsimp only at haddr hsnir
  obtain ⟨s', hstep, hadr, hcommand⟩ := sampleDecision_eq_some hdecision
  obtain ⟨first, others, hwindow, -, hmax, -⟩ := evaluateADR_window hrun hstep hadr hcommand
  refine ⟨history, s, s', processed, hrun, hstep, ?_⟩
  rw [hwindow]
  apply (hmax rfl).mpr
  rw [haddr, hvalues, hsnir] at hwindow
  cases hwindow
  exact ⟨20, by decide +kernel, by decide +kernel⟩

/-- The first of the twenty uplinks has 20 dB and the others 0 dB: the command
is computed from 0 dB. -/
theorem evaluateADR_forgets_first : ∃ history s s' processed evaluation,
    ServerRun sampleParameters history s ∧
      step sampleParameters s (sampleTimer 38 19 (sampleFrame 1 19 1) 0) =
        some (s', some processed) ∧
      processed.adr = some evaluation ∧ evaluation.SNRm = some 0 ∧
      snirsSinceCommand processed.frame.transmitterAddress history ++ [processed.SNIRinGW] =
        20 :: List.replicate 19 0 ∧
      ¬ IsGreatest {x | x ∈ (20 :: List.replicate 19 0 : List ℚ)} 0 := by
  obtain ⟨s, history, hrun, ⟨processed, evaluation, SNRm⟩, hdecision, haddr, hsnir, rfl, hvalues⟩ :=
    exists_run_of_execute (step sampleParameters) initial
    (sampleUplinks 0 (100 :: List.replicate 18 1) ++ [.udpIn 38 (sampleFrame 1 19 1) {}])
    (fun s history => ∃ decision ∈ sampleDecision s 1,
      decision.1.frame.transmitterAddress = ⟨1⟩ ∧ decision.1.SNIRinGW = 0 ∧
      decision.2.2 = 0 ∧ snirsSinceCommand ⟨1⟩ history = 20 :: List.replicate 18 0)
    (by decide +kernel)
  dsimp only at haddr hsnir
  obtain ⟨s', hstep, hadr, hcommand⟩ := sampleDecision_eq_some hdecision
  refine ⟨history, s, s', processed, evaluation, hrun, hstep, hadr, hcommand, ?_, ?_⟩
  · rw [haddr, hvalues, hsnir]
    rfl
  · intro hgreatest
    have hle : (20 : ℚ) ≤ 0 := hgreatest.2 List.mem_cons_self
    exact absurd hle (by decide +kernel)

end NetworkServerApp

end inet

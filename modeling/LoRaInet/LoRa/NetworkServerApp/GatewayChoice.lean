import LoRaInet.LoRa.NetworkServerApp.ExactlyOnce

open omnetpp transition

namespace inet.NetworkServerApp

variable {par : Parameters} {locals : Indeterminate} {s s' : NetworkServerApp}

/-- The copies of an uplink delivered since its window was opened, with their
gateways and signal values; `none` while there is no window. A copy opens a
window unless its node has already been heard with a higher sequence number. -/
def windowCopies (par : Parameters) (key : UplinkKey) :
    List Label → Option (List (L3Address × ℚ × ℚ))
  | [] => none
  | (.udpIn _ frame srcAddr, _) :: history =>
    if frame.key = key then
      match windowCopies par key history with
      | some copies => some (copies ++ [possibleGateway par frame srcAddr])
      | none =>
        if Superseded history key then none else some [possibleGateway par frame srcAddr]
    else windowCopies par key history
  | (.selfMessage e _, _) :: history =>
    if e.message.contextPointer.key = key then none else windowCopies par key history

/-- No copy arrives in its window after the server has heard a later frame of
the node, and when a window ends one of its copies had a signal to compare. -/
def CopiesKept (par : Parameters) : List Label → Label → Prop
  | history, (.udpIn _ frame _, _) =>
    (windowCopies par frame.key history).isSome → ¬ Superseded history frame.key
  | history, (.selfMessage e _, _) =>
    ∃ copy ∈ (windowCopies par e.message.contextPointer.key history).getD [], noSignal < copy.2.1

instance (history : List Label) (label : Label) : Decidable (CopiesKept par history label) :=
  match label with
  | (.udpIn _ frame _, _) =>
    inferInstanceAs (Decidable ((windowCopies par frame.key history).isSome → _))
  | (.selfMessage _ _, _) => inferInstanceAs (Decidable (∃ _ ∈ _, _))

/-- The table holds the copies of every open window. -/
structure HoldsCopies (par : Parameters) (history : List Label) (s : NetworkServerApp) :
    Prop where
  waiting : ∀ entry ∈ s.receivedPackets,
    windowCopies par entry.rcvdPacket.key history = some entry.possibleGateways
  closed : ∀ key ∉ tableKeys s, windowCopies par key history = none

variable {o : Option Processed} {history : List Label} {frame : LoRaMacFrame} {srcAddr : L3Address}

variable {t : SimTime}

theorem windowCopies_udpIn_of_ne {key : UplinkKey} (hne : frame.key ≠ key) :
    windowCopies par key ((.udpIn t frame srcAddr, o) :: history) =
      windowCopies par key history := by
  rw [windowCopies, if_neg hne]

theorem HoldsCopies.dropped (hholds : HoldsCopies par history s)
    (hclosed : windowCopies par frame.key history = none)
    (hsuperseded : Superseded history frame.key) :
    HoldsCopies par ((.udpIn t frame srcAddr, o) :: history) s := by
  have hsame : ∀ key, windowCopies par key ((.udpIn t frame srcAddr, o) :: history) =
      windowCopies par key history := by
    intro key
    by_cases hkey : frame.key = key
    · rw [windowCopies, if_pos hkey, ← hkey, hclosed]
      exact if_pos hsuperseded
    · exact windowCopies_udpIn_of_ne hkey
  constructor
  · intro entry hentry
    rw [hsame]
    exact hholds.waiting entry hentry
  · intro key hkey
    rw [hsame]
    exact hholds.closed key hkey

theorem HoldsCopies.addGateway {table : List ReceivedPacket}
    (htable : TableConsistent s) (hholds : HoldsCopies par history s)
    (hadd : addGateway par frame srcAddr s.receivedPackets = some table) :
    HoldsCopies par ((.udpIn t frame srcAddr, o) :: history)
      { s with receivedPackets := table } := by
  obtain ⟨before, entry, after, hsplit, hkey, rfl⟩ := addGateway_eq_some hadd
  have hothers : ∀ other ∈ before ++ after, frame.key ≠ other.rcvdPacket.key := by
    have hnodup := htable.keys_nodup
    rw [tableKeys, hsplit, List.map_append, List.map_cons, List.nodup_middle, List.nodup_cons,
      ← List.map_append] at hnodup
    intro other hother heq
    exact hnodup.1 (List.mem_map.mpr ⟨other, hother, heq.symm.trans hkey.symm⟩)
  have hentry := hholds.waiting entry (hsplit ▸ List.mem_append_right _ (.head _))
  constructor
  · intro other hother
    rcases List.mem_cons.mp (List.perm_middle.mem_iff.mp hother) with rfl | hother
    · change windowCopies par entry.rcvdPacket.key _ = _
      rw [windowCopies, if_pos hkey.symm, hentry]
    · rw [windowCopies_udpIn_of_ne (hothers other hother)]
      apply hholds.waiting
      rw [hsplit]
      exact List.perm_middle.mem_iff.mpr (.tail _ hother)
  · intro key hmissing
    have hmissing' : key ∉ tableKeys s := by
      rw [tableKeys, hsplit]
      simpa [tableKeys] using hmissing
    rw [windowCopies_udpIn_of_ne, hholds.closed key hmissing']
    rintro rfl
    apply hmissing'
    rw [tableKeys, hsplit]
    exact List.mem_map.mpr ⟨entry, List.mem_append_right _ (.head _), hkey⟩

theorem HoldsCopies.opened (hholds : HoldsCopies par history s)
    (hnone : ∀ entry ∈ s.receivedPackets, entry.rcvdPacket.key ≠ frame.key)
    (hfirst : ¬ Superseded history frame.key) :
    HoldsCopies par ((.udpIn t frame srcAddr, o) :: history) (s.opened par frame srcAddr) := by
  have hclosed : windowCopies par frame.key history = none := by
    apply hholds.closed
    intro hmem
    obtain ⟨entry, hentry, hkey⟩ := List.mem_map.mp hmem
    exact hnone entry hentry hkey
  unfold NetworkServerApp.opened newEntry
  constructor
  · intro entry hentry
    rcases List.mem_append.mp hentry with hentry | hentry
    · rw [windowCopies_udpIn_of_ne (Ne.symm (hnone entry hentry))]
      exact hholds.waiting entry hentry
    · rw [List.mem_singleton.mp hentry, windowCopies, if_pos rfl, hclosed]
      exact if_neg hfirst
  · intro key hmissing
    rw [tableKeys, List.map_append, List.mem_append, not_or, List.map_singleton,
      List.mem_singleton] at hmissing
    rw [windowCopies_udpIn_of_ne (Ne.symm hmissing.2)]
    exact hholds.closed key hmissing.1

theorem HoldsCopies.windowEnded {e : ScheduledMessage EndOfWaiting}
    {before after : List ReceivedPacket} {entry : ReceivedPacket} {processed : Processed}
    (hholds : HoldsCopies par history s)
    (hended : WindowEnded par locals s e before entry after processed s') :
    HoldsCopies par ((.selfMessage e locals, o) :: history) s' := by
  constructor
  · intro other hother
    rw [hended.removed] at hother
    have hne := hended.others other hother
    rw [hended.context] at hne
    rw [windowCopies, if_neg (Ne.symm hne)]
    apply hholds.waiting
    rw [hended.table]
    exact List.perm_middle.mem_iff.mpr (.tail _ hother)
  · intro key hmissing
    rw [windowCopies]
    by_cases hkey : e.message.contextPointer.key = key
    · exact if_pos hkey
    · rw [if_neg hkey]
      apply hholds.closed
      rw [← hended.context] at hkey
      rw [tableKeys, hended.removed, List.map_append] at hmissing
      rw [tableKeys, hended.table, List.map_append, List.map_cons,
        List.perm_middle.mem_iff, List.mem_cons, not_or]
      exact ⟨Ne.symm hkey, hmissing⟩

theorem HoldsCopies.step {event : Event}
    (hrun : ServerRun par history s) (hholds : HoldsCopies par history s)
    (h : NetworkServerApp.step par s event = some (s', o))
    (hkept : CopiesKept par history (event, o)) :
    HoldsCopies par ((event, o) :: history) s' := by
  have htable := tableConsistent_of_run hrun
  cases event with
  | udpIn t frame srcAddr =>
    have hheard : HoldsCopies par history (s.heard par t frame) :=
      ⟨hholds.waiting, hholds.closed⟩
    have hprocessed := isPacketProcessed_heard_iff hrun t frame
    obtain ⟨-, -, ⟨htrue, rfl⟩ | ⟨hfalse, ⟨table, hadd, rfl⟩ | ⟨hnone, rfl⟩⟩⟩ := step_udpIn h
    · have hsuperseded := hprocessed.mp htrue
      refine hheard.dropped ?_ hsuperseded
      -- a superseded copy of an open window would be lost here
      cases hwindow : windowCopies par frame.key history with
      | none => rfl
      | some copies => exact absurd hsuperseded (hkept (by rw [hwindow]; rfl))
    · exact HoldsCopies.addGateway (htable.heard t frame) hheard hadd
    · refine hheard.opened hnone ?_
      intro hsuperseded
      rw [hprocessed.mpr hsuperseded] at hfalse
      cases hfalse
  | selfMessage e locals =>
    obtain ⟨before, entry, after, processed, -, hended⟩ := step_selfMessage_windowEnded htable h
    exact hholds.windowEnded hended

theorem TableConsistent.count_endOfWaiting (htable : TableConsistent s) {entry : ReceivedPacket}
    (hentry : entry ∈ s.receivedPackets) : s.fes.messages.count entry.endOfWaiting = 1 := by
  have hkeys : (s.receivedPackets.map (·.endOfWaiting)).map (·.contextPointer.key) =
      tableKeys s := by
    rw [List.map_map]
    apply List.map_congr_left
    intro other hother
    rw [Function.comp_apply, htable.context other hother]
  have hnodup : (s.receivedPackets.map (·.endOfWaiting)).Nodup := by
    apply List.Nodup.of_map (·.contextPointer.key)
    rw [hkeys]
    exact htable.keys_nodup
  rw [htable.pending.count_eq]
  exact List.count_eq_one_of_mem hnodup (List.mem_map_of_mem hentry)

/-- The table has one entry a key and each entry one pending timer. When no
copy was lost to the duplicate filter, the end of a window removes its entry and
picks the best gateway of all the copies delivered in it. -/
theorem processScheduledPacket_picks_best {history : List Label} (hrun : ServerRun par history s)
    (hkept : Always (CopiesKept par) history) :
    (tableKeys s).Nodup ∧
      (∀ entry ∈ s.receivedPackets, s.fes.messages.count entry.endOfWaiting = 1) ∧
      ∀ e locals s' o, step par s (.selfMessage e locals) = some (s', o) →
        CopiesKept par history (.selfMessage e locals, o) →
          ∃ before entry after copies processed, o = some processed ∧
            s.receivedPackets = before ++ entry :: after ∧ entry.endOfWaiting = e.message ∧
            s'.receivedPackets = before ++ after ∧
            windowCopies par entry.rcvdPacket.key history = some copies ∧
            PicksBest copies processed := by
  have htable := tableConsistent_of_run hrun
  have hholds : HoldsCopies par history s := by
    refine Run.invariant_of_always hrun hkept ?_ ?_
    · rintro s rfl
      exact ⟨by simp [initial], fun _ _ => rfl⟩
    · intro history s label s' hrun hholds hstep hkept
      exact hholds.step hrun hstep hkept
  refine ⟨htable.keys_nodup, fun entry hentry => htable.count_endOfWaiting hentry, ?_⟩
  intro e locals s' o h hsignal
  obtain ⟨before, entry, after, processed, ho, hended⟩ := step_selfMessage_windowEnded htable h
  have hcopies : windowCopies par entry.rcvdPacket.key history = some entry.possibleGateways := by
    apply hholds.waiting
    rw [hended.table]
    exact List.mem_append_right _ List.mem_cons_self
  refine ⟨before, entry, after, _, processed, ho, hended.table, hended.timer, hended.removed,
    hcopies, hended.picked ?_⟩
  rw [CopiesKept, ← hended.context, hcopies, Option.getD_some] at hsignal
  exact hsignal

/-- Three copies in one window, the second of them with the best signal. -/
theorem processScheduledPacket_picks_best_of_three : ∃ history s s' processed,
    ServerRun sampleParameters history s ∧
      step sampleParameters s (sampleTimer 0 0 (sampleFrame 1 5 1) 0) = some (s', some processed) ∧
      PicksBest [({}, 0, 0), (⟨0, 7⟩, 20, 0), (⟨0, 8⟩, 10, 0)] processed := by
  obtain ⟨s, history, hrun, hcopies, hkept, hsome, hsignal⟩ := exists_run_of_execute
    (step sampleParameters) initial
    [.udpIn 0 (sampleFrame 1 5 1) {}, .udpIn (1 / 2) (sampleFrame 1 5 100) ⟨0, 7⟩,
      .udpIn 1 (sampleFrame 1 5 10) ⟨0, 8⟩]
    (fun s history =>
      windowCopies sampleParameters (⟨1⟩, 5) history =
        some [({}, 0, 0), (⟨0, 7⟩, 20, 0), (⟨0, 8⟩, 10, 0)] ∧
      Always (CopiesKept sampleParameters) history ∧
      (step sampleParameters s (sampleTimer 0 0 (sampleFrame 1 5 1) 0)).isSome = true ∧
      CopiesKept sampleParameters history (sampleTimer 0 0 (sampleFrame 1 5 1) 0, none))
    (by decide +kernel)
  obtain ⟨⟨s', o⟩, hstep⟩ := Option.isSome_iff_exists.mp hsome
  obtain ⟨-, -, hbest⟩ := processScheduledPacket_picks_best hrun hkept
  obtain ⟨before, entry, after, copies, processed, rfl, hsplit, htimer, -, hwindow, hpicks⟩ :=
    hbest _ _ _ _ hstep hsignal
  have hkey : entry.rcvdPacket.key = (⟨1⟩, 5) := by
    have hentry : entry ∈ s.receivedPackets :=
      hsplit ▸ List.mem_append_right _ List.mem_cons_self
    rw [← (tableConsistent_of_run hrun).context entry hentry, htimer]
    rfl
  rw [hkey, hcopies, Option.some.injEq] at hwindow
  exact ⟨history, s, s', processed, hrun, hstep, hwindow ▸ hpicks⟩

/-- A copy delivered in its open window, after a later frame of the node, is
dropped: the gateway picked has 0 dB while a copy of the window had 20 dB. -/
theorem processScheduledPacket_misses_best : ∃ history s s' processed,
    ServerRun sampleParameters history s ∧
      windowCopies sampleParameters (⟨1⟩, 5) history = some [({}, 0, 0), (⟨0, 7⟩, 20, 0)] ∧
      step sampleParameters s (sampleTimer 0 0 (sampleFrame 1 5 1) 0) = some (s', some processed) ∧
      processed.frame.key = (⟨1⟩, 5) ∧ processed.SNIRinGW = 0 := by
  obtain ⟨s, history, hrun, hcopies, hstep⟩ := exists_run_of_execute
    (step sampleParameters) initial
    [.udpIn 0 (sampleFrame 1 5 1) {}, .udpIn (1 / 2) (sampleFrame 1 6 1) {},
      .udpIn 1 (sampleFrame 1 5 100) ⟨0, 7⟩]
    (fun s history =>
      windowCopies sampleParameters (⟨1⟩, 5) history = some [({}, 0, 0), (⟨0, 7⟩, 20, 0)] ∧
      ∃ result ∈ step sampleParameters s (sampleTimer 0 0 (sampleFrame 1 5 1) 0),
        ∃ processed ∈ result.2, processed.frame.key = (⟨1⟩, 5) ∧ processed.SNIRinGW = 0)
    (by decide +kernel)
  obtain ⟨⟨s', o⟩, hs', processed, ho, hkey, hsnir⟩ := hstep
  rw [Option.mem_def] at hs' ho
  dsimp only at ho
  rw [ho] at hs'
  exact ⟨history, s, s', processed, hrun, hcopies, hs', hkey, hsnir⟩

end inet.NetworkServerApp

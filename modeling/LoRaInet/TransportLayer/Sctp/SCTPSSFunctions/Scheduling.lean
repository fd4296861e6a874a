import LoRaInet.TransportLayer.Sctp.SCTPSSFunctions.Chosen

open omnetpp container transition

namespace inet.sctp.SCTPAssociation

section Calls

variable {a : SCTPAssociation} {ssModule : SCTPStreamSchedulers}

theorem FillsDefaults.refl (hmodule : ssModule ≠ .FAIR_BANDWITH_PACKET) :
    a.FillsDefaults ssModule a.state :=
  ⟨rfl, fun _ => rfl, fun _ => rfl, (if_neg hmodule).symm⟩

theorem After.refl (h : a.Inv ssModule) (hmodule : ssModule ≠ .FAIR_BANDWITH_PACKET)
    (peek : Bool) : a.After ssModule peek a.state :=
  ⟨fun _ => .refl hmodule, .inl rfl, h.nextStream, h.inside⟩

variable {state : SCTPStateVariables}

/-- A call that sends leaves another stream, or the same, as the last one. -/
theorem After.sent (h : a.Inv ssModule)
    (hlast : state.lastStreamScheduled = a.state.lastStreamScheduled ∨
      a.chosen ssModule = some state.lastStreamScheduled)
    (hnext : ssModule ≠ .ROUND_ROBIN_PACKET → ssModule ≠ .FAIR_BANDWITH_PACKET →
      state.ssNextStream = true)
    (hmap : state.ssFairBandwidthMap = a.state.ssFairBandwidthMap) :
    a.After ssModule false state :=
  ⟨fun hpeek => (by cases hpeek), hlast, hnext, hmap ▸ h.inside⟩

theorem setNextStream_eq (hnext : a.state.ssNextStream = true) :
    ({ a.state with ssNextStream := true } : SCTPStateVariables) = a.state := by
  rw [← hnext]

theorem streamScheduler_returns (h : a.Inv .ROUND_ROBIN) (peek : Bool) :
    ∃ state, a.streamScheduler peek = some (state, a.chosen .ROUND_ROBIN) ∧
      a.After .ROUND_ROBIN peek state := by
  have hnext : a.state.ssNextStream = true := h.nextStream (by simp) (by simp)
  have hstate := setNextStream_eq hnext
  by_cases hagain : a.state.ssLastDataChunkSizeSet = false ∧
      a.hasData a.state.lastStreamScheduled = true
  · have hchosen : a.chosen .ROUND_ROBIN = some a.state.lastStreamScheduled := by
      simp [chosen, hagain.1, hagain.2]
    have hcond : ((!a.state.ssLastDataChunkSizeSet || !a.state.ssNextStream) &&
        a.hasData a.state.lastStreamScheduled) = true := by
      rw [hagain.1, hagain.2]
      rfl
    cases peek with
    | true =>
      refine ⟨{ a.state with ssNextStream := true }, ?_, by rw [hstate]; exact .refl h (by simp) _⟩
      simp [streamScheduler, hchosen, hcond]
    | false =>
      refine ⟨{ a.state with ssNextStream := true, ssLastDataChunkSizeSet := false }, ?_,
        .sent h (.inl rfl) (fun _ _ => rfl) rfl⟩
      simp [streamScheduler, hchosen, hcond]
  · have hcond : ((!a.state.ssLastDataChunkSizeSet || !a.state.ssNextStream) &&
        a.hasData a.state.lastStreamScheduled) = false := by
      rw [hnext, Bool.not_true, Bool.or_false, ← Bool.not_eq_true, Bool.and_eq_true_iff,
        Bool.not_eq_true']
      exact hagain
    have hchosen : a.chosen .ROUND_ROBIN = a.waiting.head? := by
      rw [chosen, if_neg]
      rwa [Bool.and_eq_true_iff, Bool.not_eq_true']
    cases peek with
    | true =>
      refine ⟨a.state, ?_, .refl h (by simp) _⟩
      simp only [streamScheduler, hcond, nextWithData_eq h.last_lt, hchosen]
      cases a.waiting.head? <;> rfl
    | false =>
      cases hhead : a.waiting.head? with
      | none =>
        refine ⟨a.state, ?_, .refl h (by simp) _⟩
        simp [streamScheduler, hcond, nextWithData_eq h.last_lt, hchosen, hhead]
      | some sid =>
        refine ⟨{ a.state with lastStreamScheduled := sid, ssLastDataChunkSizeSet := false }, ?_,
          .sent h (.inr (hchosen.trans hhead)) h.nextStream rfl⟩
        simp [streamScheduler, hcond, nextWithData_eq h.last_lt, hchosen, hhead]

theorem streamSchedulerRoundRobinPacket_returns (h : a.Inv .ROUND_ROBIN_PACKET) (peek : Bool) :
    ∃ state, a.streamSchedulerRoundRobinPacket peek = some (state, a.chosen .ROUND_ROBIN_PACKET) ∧
      a.After .ROUND_ROBIN_PACKET peek state := by
  cases hnext : a.state.ssNextStream with
  | true =>
    have hchosen : a.chosen .ROUND_ROBIN_PACKET = a.waiting.head? := by rw [chosen, if_pos hnext]
    cases hhead : a.waiting.head? with
    | none =>
      refine ⟨a.state, ?_, .refl h (by simp) _⟩
      simp [streamSchedulerRoundRobinPacket, hnext, nextWithData_eq h.last_lt, hchosen, hhead]
    | some sid =>
      cases peek with
      | true =>
        refine ⟨a.state, ?_, .refl h (by simp) _⟩
        simp [streamSchedulerRoundRobinPacket, hnext, nextWithData_eq h.last_lt, hchosen, hhead]
      | false =>
        refine ⟨{ a.state with lastStreamScheduled := sid, ssNextStream := false }, ?_,
          .sent h (.inr (hchosen.trans hhead)) (fun hne => absurd rfl hne) rfl⟩
        simp [streamSchedulerRoundRobinPacket, hnext, nextWithData_eq h.last_lt, hchosen, hhead]
  | false =>
    have hchosen : a.chosen .ROUND_ROBIN_PACKET = a.sameStream := by
      rw [chosen, if_neg (by simp [hnext])]
    cases hdata : a.hasData a.state.lastStreamScheduled with
    | false =>
      refine ⟨a.state, ?_, .refl h (by simp) _⟩
      simp [streamSchedulerRoundRobinPacket, hnext, hchosen, hdata, sameStream]
    | true =>
      cases peek with
      | true =>
        refine ⟨a.state, ?_, .refl h (by simp) _⟩
        simp [streamSchedulerRoundRobinPacket, hnext, hchosen, hdata, sameStream]
      | false =>
        refine ⟨{ a.state with ssNextStream := false }, ?_,
          .sent h (.inl rfl) (fun hne => absurd rfl hne) rfl⟩
        simp [streamSchedulerRoundRobinPacket, hnext, hchosen, hdata, sameStream]

theorem testPriority_last (r : Scheduled) (testsid : ℕ) :
    (if a.hasData testsid then testPriority r testsid else r).1.lastStreamScheduled =
      r.1.lastStreamScheduled := by
  split
  · rw [testPriority]
    cases r.2 <;> rfl
  · rfl

theorem scanPriority_eq (h : a.Inv .PRIORITY) :
    ∃ map : Map ℕ ℕ, (∀ sid, (map.lookup sid).getD 0 = a.state.priority sid) ∧
      scan a.outboundStreams
        (fun r testsid => if a.hasData testsid then testPriority r testsid else r)
        (fun r testsid => testsid != r.1.lastStreamScheduled)
        a.outboundStreams a.scanStart ({ a.state with ssNextStream := true }, none) =
          some ({ a.state with ssPriorityMap := map }, a.waiting.argmin a.state.priority) := by
  have hnext : a.state.ssNextStream = true := h.nextStream (by simp) (by simp)
  have hstart : a.scanStart = a.state.lastStreamScheduled := by rw [scanStart, if_pos hnext]
  obtain ⟨hsid, map, hstate, hmap⟩ := @foldl_testPriority a a.state.priority
    (circle a.outboundStreams a.state.lastStreamScheduled) (a.state, none) fun _ => rfl
  refine ⟨map, hmap, ?_⟩
  rw [hstart, setNextStream_eq hnext, @scan_circle Scheduled _ _ _ _ (fun _ => false)
    (fun r => r.1.lastStreamScheduled = a.state.lastStreamScheduled) h.last_lt,
    foldUntil_never]
  · exact congrArg some (Prod.ext hstate hsid)
  · intro r testsid hr
    rw [testPriority_last, hr]
    simp
  · intro r testsid hr _
    rw [testPriority_last, hr]
  · rfl

theorem streamSchedulerPriority_returns (h : a.Inv .PRIORITY) (peek : Bool) :
    ∃ state, a.streamSchedulerPriority peek = some (state, a.chosen .PRIORITY) ∧
      a.After .PRIORITY peek state := by
  cases hagain : a.again with
  | true =>
    refine ⟨a.state, ?_, .refl h (by simp) _⟩
    simp [streamSchedulerPriority, chosen, hagain]
  | false =>
    have hchosen : a.chosen .PRIORITY = a.waiting.argmin a.state.priority := by
      rw [chosen, if_neg (by simp [hagain])]
    obtain ⟨map, hmap, hscan⟩ := scanPriority_eq h
    rw [streamSchedulerPriority, if_neg (by simp [hagain]), hscan, ← hchosen]
    have hlooked : a.After .PRIORITY peek { a.state with ssPriorityMap := map } :=
      ⟨fun _ => ⟨rfl, fun hne => absurd rfl hne, hmap, (if_neg (by simp)).symm⟩, .inl rfl,
        h.nextStream, h.inside⟩
    cases hsid : a.chosen .PRIORITY with
    | none => exact ⟨_, rfl, hlooked⟩
    | some sid =>
      cases peek with
      | true => exact ⟨_, rfl, hlooked⟩
      | false =>
        exact ⟨{ a.state with
          ssPriorityMap := map, lastStreamScheduled := sid, ssLastDataChunkSizeSet := false }, rfl,
          .sent h (.inr hsid) h.nextStream rfl⟩

theorem streamSchedulerFCFS_returns (h : a.Inv .FCFS) (peek : Bool) :
    ∃ state, a.streamSchedulerFCFS peek = some (state, a.chosen .FCFS) ∧
      a.After .FCFS peek state := by
  have hnext : a.state.ssNextStream = true := h.nextStream (by simp) (by simp)
  have hstart : a.scanStart = a.state.lastStreamScheduled := by rw [scanStart, if_pos hnext]
  have hstate := setNextStream_eq hnext
  have hscan : scan a.outboundStreams a.testHeads
      (fun _ testsid => testsid != a.state.lastStreamScheduled) a.outboundStreams a.scanStart none =
        some (((circle a.outboundStreams a.state.lastStreamScheduled).flatMap a.headsOf).argmin
          Prod.snd) := by
    have hround := @scan_circle (Option (ℕ × SimTime)) a.outboundStreams
      a.state.lastStreamScheduled a.testHeads
      (fun _ testsid => testsid != a.state.lastStreamScheduled) (fun _ => false) (fun _ => True)
      h.last_lt (by simp) (by simp) none trivial
    rw [hstart, hround, foldUntil_never, foldl_testHeads]
    rfl
  rw [streamSchedulerFCFS, hscan, chosen]
  cases hbest : ((circle a.outboundStreams a.state.lastStreamScheduled).flatMap a.headsOf).argmin
      Prod.snd with
  | none => exact ⟨_, rfl, by rw [hstate]; exact .refl h (by simp) _⟩
  | some best =>
    cases peek with
    | true => exact ⟨_, rfl, by rw [if_pos rfl, hstate]; exact .refl h (by simp) _⟩
    | false =>
      refine ⟨_, rfl, .sent h (.inr ?_) (fun _ _ => rfl) rfl⟩
      rw [chosen, hbest]
      rfl

theorem streamSchedulerFairBandwidthPacket_returns (h : a.Inv .FAIR_BANDWITH_PACKET) (peek : Bool) :
    ∃ state, a.streamSchedulerFairBandwidthPacket peek = (state, a.chosen .FAIR_BANDWITH_PACKET) ∧
      a.After .FAIR_BANDWITH_PACKET peek state := by
  have hmap : (if a.state.ssFairBandwidthMap.entries.isEmpty then
      { a.state with ssFairBandwidthMap := a.initFairBandwidthMap } else a.state) =
        { a.state with ssFairBandwidthMap := a.fairBandwidthMap } := by
    rw [fairBandwidthMap]
    split <;> rfl
  have hchosen : (if a.state.ssNextStream then
      ((a.updateFairBandwidthMap a.fairBandwidthMap).entries.foldl testBandwidth none).map Prod.fst
      else if a.hasData a.state.lastStreamScheduled then some a.state.lastStreamScheduled
      else none) = a.chosen .FAIR_BANDWITH_PACKET := by
    rw [chosen, foldl_testBandwidth]
    rfl
  have hinside : ∀ j, a.outboundStreams ≤ j →
      (a.updateFairBandwidthMap a.fairBandwidthMap).lookup j = none := by
    intro j hj
    rw [lookup_updateFairBandwidthMap h, List.getElem?_eq_none hj]
    rfl
  rw [streamSchedulerFairBandwidthPacket]
  cases peek with
  | true =>
    have hlooked : a.After .FAIR_BANDWITH_PACKET true
        { a.state with ssFairBandwidthMap := a.fairBandwidthMap } :=
      ⟨fun _ => ⟨rfl, fun _ => rfl, fun _ => rfl, (if_pos rfl).symm⟩, .inl rfl, h.nextStream,
        fun j hj => fairBandwidthMap_inside h hj⟩
    refine ⟨_, ?_, hlooked⟩
    simp only [hmap, if_true, hchosen]
    cases a.chosen .FAIR_BANDWITH_PACKET <;> rfl
  | false =>
    simp only [hmap, Bool.false_eq_true, if_false, hchosen]
    cases hsid : a.chosen .FAIR_BANDWITH_PACKET with
    | none => exact ⟨_, rfl, fun hpeek => (by cases hpeek), .inl rfl, h.nextStream, hinside⟩
    | some sid =>
      exact ⟨_, rfl, fun hpeek => (by cases hpeek), .inr hsid, fun _ hne => absurd rfl hne, hinside⟩

theorem ssGetNextSid_returns (h : a.Inv ssModule) (peek : Bool) :
    ∃ state, a.ssGetNextSid ssModule peek = some (state, a.chosen ssModule) ∧
      a.After ssModule peek state := by
  cases ssModule with
  | ROUND_ROBIN => exact streamScheduler_returns h peek
  | ROUND_ROBIN_PACKET => exact streamSchedulerRoundRobinPacket_returns h peek
  | FAIR_BANDWITH_PACKET =>
    obtain ⟨state, heq, hafter⟩ := streamSchedulerFairBandwidthPacket_returns h peek
    exact ⟨state, congrArg some heq, hafter⟩
  | PRIORITY => exact streamSchedulerPriority_returns h peek
  | FCFS => exact streamSchedulerFCFS_returns h peek

/-- The entries that a call creates make no difference to the next call. -/
theorem chosen_of_fillsDefaults (h : a.FillsDefaults ssModule state) :
    ({ a with state := state } : SCTPAssociation).chosen ssModule = a.chosen ssModule := by
  have hlast : state.lastStreamScheduled = a.state.lastStreamScheduled := by rw [h.others]
  have hnext : state.ssNextStream = a.state.ssNextStream := by rw [h.others]
  have hset : state.ssLastDataChunkSizeSet = a.state.ssLastDataChunkSizeSet := by rw [h.others]
  have hpriority : state.priority = a.state.priority := funext h.priority
  have hcircle : circle a.sendStreams.length state.lastStreamScheduled =
      circle a.outboundStreams a.state.lastStreamScheduled := by rw [hlast]; rfl
  have hwaiting : ({ a with state := state } : SCTPAssociation).waiting = a.waiting :=
    congrArg (List.filter a.hasData) hcircle
  have hsame : ({ a with state := state } : SCTPAssociation).sameStream = a.sameStream := by
    change (if a.hasData state.lastStreamScheduled then some state.lastStreamScheduled else none) = _
    rw [hlast]
    rfl
  cases ssModule with
  | ROUND_ROBIN =>
    change (if !state.ssLastDataChunkSizeSet && a.hasData state.lastStreamScheduled then
      some state.lastStreamScheduled else _) = _
    rw [hset, hlast, hwaiting]
    rfl
  | ROUND_ROBIN_PACKET =>
    change (if state.ssNextStream then _ else _) = _
    rw [hnext, hwaiting, hsame]
    rfl
  | FAIR_BANDWITH_PACKET =>
    have hfilled := h.ssFairBandwidthMap
    rw [if_pos rfl] at hfilled
    have hmap : ({ a with state := state } : SCTPAssociation).fairBandwidthMap =
        a.fairBandwidthMap := by
      change (if state.ssFairBandwidthMap.entries.isEmpty then a.initFairBandwidthMap
        else state.ssFairBandwidthMap) = _
      rw [hfilled]
      split
      · next hempty =>
        rw [fairBandwidthMap] at hempty ⊢
        split
        · rfl
        · next hsome =>
          rw [if_neg hsome] at hempty
          exact absurd hempty hsome
      · rfl
    have hupdate : ∀ m, ({ a with state := state } : SCTPAssociation).updateFairBandwidthMap m =
        a.updateFairBandwidthMap m := by
      intro m
      simp only [updateFairBandwidthMap, fairBandwidthEntry, hlast, hset]
    change (if state.ssNextStream then _ else _) = _
    rw [hnext, hmap, hupdate, hsame]
    rfl
  | PRIORITY =>
    have hagain : ({ a with state := state } : SCTPAssociation).again = a.again := by
      change (!state.ssLastDataChunkSizeSet && state.ssNextStream &&
        a.hasData state.lastStreamScheduled) = _
      rw [hset, hnext, hlast]
      rfl
    change (if ({ a with state := state } : SCTPAssociation).again then
      some state.lastStreamScheduled else List.argmin state.priority _) = _
    rw [hagain, hlast, hpriority, hwaiting]
    rfl
  | FCFS =>
    change (((circle a.sendStreams.length state.lastStreamScheduled).flatMap a.headsOf).argmin
      Prod.snd).map Prod.fst = _
    rw [hcircle]
    rfl

theorem After.inv (h : a.Inv ssModule) {peek : Bool} (hafter : a.After ssModule peek state) :
    ({ a with state := state } : SCTPAssociation).Inv ssModule := by
  refine ⟨?_, hafter.nextStream, hafter.inside⟩
  obtain hlast | hchosen := hafter.last
  · exact hlast ▸ h.last_lt
  · exact lt_of_hasData (mayUse_of_chosen h hchosen).1

end Calls

section Runs

variable {a : SCTPAssociation} {ssModule : SCTPStreamSchedulers}

theorem Initial.inv (h : a.Initial) : a.Inv ssModule := by
  obtain ⟨hpos, -, hstate⟩ := h
  refine ⟨?_, fun _ _ => ?_, fun j _ => ?_⟩
  · rw [hstate]
    exact hpos
  · rw [hstate]
  · rw [hstate]
    exact OrderedMap.lookup_empty j

theorem Inv.step (h : a.Inv ssModule) {event : Event} {b : SCTPAssociation}
    (hstep : a.Step ssModule event b) : b.Inv ssModule := by
  cases event with
  | schedule peek =>
    obtain ⟨state, hcall, hafter⟩ := ssGetNextSid_returns h peek
    rw [Step, SCTPAssociation.step, hcall] at hstep
    exact Option.some.inj hstep ▸ hafter.inv h
  | queues sendStreams =>
    rw [Step, SCTPAssociation.step] at hstep
    split at hstep
    · next hle =>
      rw [← Option.some.inj hstep]
      exact ⟨h.last_lt.trans_le hle, h.nextStream, fun j hj => h.inside j (hle.trans hj)⟩
    · cases hstep
  | makeDataVar => exact Option.some.inj hstep ▸ ⟨h.last_lt, h.nextStream, h.inside⟩
  | sendToIP => exact Option.some.inj hstep ▸ ⟨h.last_lt, fun _ _ => rfl, h.inside⟩
  | setStreamPriority sid ppid =>
    exact Option.some.inj hstep ▸ ⟨h.last_lt, h.nextStream, h.inside⟩

theorem inv_of_run {history : List Event}
    (hrun : Run Initial (fun a event b => a.Step ssModule event b) history a) :
    a.Inv ssModule := by
  apply @Run.invariant _ _ _ _ (fun _ a => a.Inv ssModule) _ _ hrun
  · exact fun a ha => ha.inv
  · exact fun _ a event b _ ha hstep => ha.step hstep

/-- Each scheduler terminates and finds a stream with data if there is one that it may use, one
that is the best where there is an order; looking does not change what is then chosen. -/
theorem ssGetNextSid_spec {history : List Event}
    (hrun : Run Initial (fun a event b => a.Step ssModule event b) history a) (peek : Bool) :
    ∃ state sid, a.ssGetNextSid ssModule peek = some (state, sid) ∧
      (sid = none ↔ ∀ i, a.MayUse ssModule i → ¬ a.Considered ssModule i) ∧
      (∀ i, sid = some i → i < a.outboundStreams ∧ a.MayUse ssModule i) ∧
      (ssModule = .PRIORITY → a.again = true → sid = some a.state.lastStreamScheduled) ∧
      (ssModule = .PRIORITY → a.again = false → ∀ i, sid = some i →
        ∀ j, a.hasData j = true → a.state.priority i ≤ a.state.priority j) ∧
      (ssModule = .FCFS → ∀ i, sid = some i →
        ∃ e ∈ a.headsOf i, ∀ j, ∀ e' ∈ a.headsOf j, e.2 ≤ e'.2) ∧
      (peek = true → a.FillsDefaults ssModule state ∧
        ∃ state', ({ a with state := state } : SCTPAssociation).ssGetNextSid ssModule false =
          some (state', sid)) := by
  have h := inv_of_run hrun
  obtain ⟨state, hcall, hafter⟩ := ssGetNextSid_returns h peek
  refine ⟨state, a.chosen ssModule, hcall, chosen_eq_none_iff h, fun i hi => ?_, ?_, ?_, ?_, ?_⟩
  · have huse := mayUse_of_chosen h hi
    exact ⟨lt_of_hasData huse.1, huse⟩
  · rintro rfl hagain
    rw [chosen, if_pos hagain]
  · rintro rfl hagain i hi j hj
    exact priority_le_of_chosen h hagain hi hj
  · rintro rfl i hi
    exact enqueuingTime_le_of_chosen h hi
  · intro hpeek
    have hfills := hafter.fills hpeek
    obtain ⟨state', hnext, -⟩ := ssGetNextSid_returns (hafter.inv h) false
    rw [chosen_of_fillsDefaults hfills] at hnext
    exact ⟨hfills, state', hnext⟩

def idle (n : ℕ) : SCTPAssociation :=
  ⟨List.replicate n ⟨[], []⟩, ⟨0, true, false, ∅, OrderedMap.empty⟩⟩

theorem idle_initial (n : ℕ) : (idle (n + 1)).Initial :=
  ⟨by simp [idle, outboundStreams], fun _ h => List.eq_of_mem_replicate h, rfl⟩

/-- One message in each of two streams. -/
def twoMessages : List SCTPSendStream := [⟨[], [⟨0, 10⟩]⟩, ⟨[⟨0, 10⟩], []⟩]

theorem ssGetNextSid_spec_twoMessages :
    ∃ state sid, ({ idle 2 with sendStreams := twoMessages } : SCTPAssociation).ssGetNextSid .FCFS
        true = some (state, sid) ∧ ∀ i, sid = some i → i < 2 := by
  obtain ⟨state, sid, hcall, -, hlt, -⟩ := @ssGetNextSid_spec
    { idle 2 with sendStreams := twoMessages } .FCFS [.queues twoMessages]
    (.step (.init (idle_initial 1)) rfl) true
  exact ⟨state, sid, hcall, fun i hi => (hlt i hi).1⟩

/-- Stream 0 is taken at first whatever its priority, a call that looks creates entries, and an
empty message is passed over. -/
theorem scheduler_not_best :
    (∃ history a state, Run Initial (fun a event b => a.Step .PRIORITY event b) history a ∧
      a.ssGetNextSid .PRIORITY false = some (state, some 0) ∧
      a.hasData 1 = true ∧ a.state.priority 1 < a.state.priority 0) ∧
    (∃ history a state, Run Initial (fun a event b => a.Step .PRIORITY event b) history a ∧
      a.ssGetNextSid .PRIORITY true = some (state, some 1) ∧
      state.ssPriorityMap.lookup 0 ≠ a.state.ssPriorityMap.lookup 0) ∧
    ∃ history a state, Run Initial (fun a event b => a.Step .FAIR_BANDWITH_PACKET event b) history a ∧
      a.ssGetNextSid .FAIR_BANDWITH_PACKET true = some (state, none) ∧
      a.MayUse .FAIR_BANDWITH_PACKET 0 ∧
      state.ssFairBandwidthMap.entries ≠ a.state.ssFairBandwidthMap.entries := by
  refine ⟨⟨[.setStreamPriority 0 1, .queues twoMessages], _, _,
    .step (.step (.init (idle_initial 1)) rfl) rfl, rfl, ?_⟩,
    ⟨[.makeDataVar, .queues twoMessages], _, _,
      .step (.step (.init (idle_initial 1)) rfl) rfl, rfl, ?_⟩,
    ⟨[.queues [⟨[], [⟨0, 0⟩]⟩]], _, _, .step (.init (idle_initial 0)) rfl, rfl, ?_⟩⟩
  · exact ⟨by decide, by decide⟩
  · decide
  · refine ⟨⟨by decide, fun _ h => by cases h⟩, by decide⟩

end Runs

end inet.sctp.SCTPAssociation

import LoRaInet.TransportLayer.Sctp.SCTPSSFunctions

open omnetpp container transition

namespace inet.sctp.SCTPAssociation

section Chosen

variable (a : SCTPAssociation)

/-- The streams that wait, in the order of a round. -/
def waiting : List ℕ :=
  (circle a.outboundStreams a.state.lastStreamScheduled).filter a.hasData

def headsOf (sid : ℕ) : List (ℕ × SimTime) :=
  ((a.sendStreams[sid]?.map SCTPSendStream.heads).getD []).map fun datMsg =>
    (sid, datMsg.enqueuingTime)

def fairBandwidthMap : OrderedMap ℕ (BitVec 32) :=
  if a.state.ssFairBandwidthMap.entries.isEmpty then a.initFairBandwidthMap
  else a.state.ssFairBandwidthMap

/-- The stream of the packet that is being filled. -/
def sameStream : Option ℕ :=
  if a.hasData a.state.lastStreamScheduled then some a.state.lastStreamScheduled else none

variable (ssModule : SCTPStreamSchedulers)

/-- The stream that a call returns, without the loop that finds it. -/
def chosen : Option ℕ :=
  match ssModule with
  | .ROUND_ROBIN =>
    if !a.state.ssLastDataChunkSizeSet && a.hasData a.state.lastStreamScheduled then
      some a.state.lastStreamScheduled
    else a.waiting.head?
  | .ROUND_ROBIN_PACKET => if a.state.ssNextStream then a.waiting.head? else a.sameStream
  | .FAIR_BANDWITH_PACKET =>
    if a.state.ssNextStream then
      (((a.updateFairBandwidthMap a.fairBandwidthMap).entries.filter (0 ≤ ·.2.toInt)).argmin
        (·.2.toNat)).map Prod.fst
    else a.sameStream
  | .PRIORITY =>
    if a.again then some a.state.lastStreamScheduled else a.waiting.argmin a.state.priority
  | .FCFS =>
    (((circle a.outboundStreams a.state.lastStreamScheduled).flatMap a.headsOf).argmin
      Prod.snd).map Prod.fst

/-- The state after a call that only looked: entries may have been created with the values that
a missing entry stands for. -/
structure FillsDefaults (ssModule : SCTPStreamSchedulers) (state : SCTPStateVariables) : Prop where
  others : state = { a.state with
    ssPriorityMap := state.ssPriorityMap
    ssFairBandwidthMap := state.ssFairBandwidthMap }
  ssPriorityMap : ssModule ≠ .PRIORITY → state.ssPriorityMap = a.state.ssPriorityMap
  priority : ∀ sid, state.priority sid = a.state.priority sid
  ssFairBandwidthMap : state.ssFairBandwidthMap =
    if ssModule = .FAIR_BANDWITH_PACKET then a.fairBandwidthMap else a.state.ssFairBandwidthMap

/-- A stream with data that is not kept waiting until the packet is complete. -/
def MayUse (sid : ℕ) : Prop :=
  a.hasData sid = true ∧ (ssModule = .ROUND_ROBIN_PACKET ∨ ssModule = .FAIR_BANDWITH_PACKET →
      a.state.ssNextStream = false → sid = a.state.lastStreamScheduled)

/-- The fair bandwidth scheduler passes over a stream whose entry does not become a size. -/
def HasSize (sid : ℕ) (stream : SCTPSendStream) : Prop :=
  if ((a.fairBandwidthMap.lookup sid).getD 0#32).toInt < 0 then 0 < stream.packetsize.toInt
  else a.state.ssLastDataChunkSizeSet = true → sid = a.state.lastStreamScheduled →
    0 ≤ stream.packetsize.toInt

def Considered (sid : ℕ) : Prop :=
  ssModule = .FAIR_BANDWITH_PACKET → a.state.ssNextStream = true →
    ∀ stream, a.sendStreams[sid]? = some stream → a.HasSize sid stream

structure Inv (ssModule : SCTPStreamSchedulers) : Prop where
  last_lt : a.state.lastStreamScheduled < a.outboundStreams
  nextStream : ssModule ≠ .ROUND_ROBIN_PACKET → ssModule ≠ .FAIR_BANDWITH_PACKET →
    a.state.ssNextStream = true
  /-- No entry is for a stream that does not exist. -/
  inside : ∀ j, a.outboundStreams ≤ j → a.state.ssFairBandwidthMap.lookup j = none

/-- What a call makes of the state. -/
structure After (ssModule : SCTPStreamSchedulers) (peek : Bool) (state : SCTPStateVariables) :
    Prop where
  fills : peek = true → a.FillsDefaults ssModule state
  last : state.lastStreamScheduled = a.state.lastStreamScheduled ∨
    a.chosen ssModule = some state.lastStreamScheduled
  nextStream : ssModule ≠ .ROUND_ROBIN_PACKET → ssModule ≠ .FAIR_BANDWITH_PACKET →
    state.ssNextStream = true
  inside : ∀ j, a.outboundStreams ≤ j → state.ssFairBandwidthMap.lookup j = none

end Chosen

section Scan

variable {a : SCTPAssociation} {sid : ℕ}

theorem hasData_iff :
    a.hasData sid = true ↔ ∃ stream, a.sendStreams[sid]? = some stream ∧ stream.isWaiting = true := by
  rw [hasData]
  cases a.sendStreams[sid]? with
  | none | some stream => simp

theorem lt_of_hasData (h : a.hasData sid = true) : sid < a.outboundStreams := by
  obtain ⟨stream, hstream, -⟩ := hasData_iff.mp h
  exact (List.getElem?_eq_some_iff.mp hstream).1

theorem mem_waiting (hlast : a.state.lastStreamScheduled < a.outboundStreams) {sid : ℕ} :
    sid ∈ a.waiting ↔ a.hasData sid = true := by
  rw [waiting, List.mem_filter, mem_circle hlast, and_iff_right_of_imp lt_of_hasData]

theorem nextWithData_eq (hlast : a.state.lastStreamScheduled < a.outboundStreams) (peek : Bool) :
    a.nextWithData peek = some (a.waiting.head?.elim a.state fun sid =>
        if peek then a.state else { a.state with lastStreamScheduled := sid },
        a.waiting.head?) := by
  rw [nextWithData, @scan_circle Scheduled _ _ _ _ (fun r => r.2.isSome)
    (fun r => r.2 = none → r.1.lastStreamScheduled = a.state.lastStreamScheduled) hlast,
    waiting, List.head?_filter]
  · exact congrArg some (@foldUntil_search _ a.hasData (fun (s : SCTPStateVariables) sid =>
      if peek then s else { s with lastStreamScheduled := sid }) _ _)
  · intro r testsid hr
    cases hdata : a.hasData testsid with
    | true => simp
    | false =>
      cases hsid : r.2 with
      | none => simp [hsid, hr hsid]
      | some sid => simp [hsid]
  · intro r testsid hr hdone
    cases hdata : a.hasData testsid with
    | true => simp [hdata] at hdone
    | false => simpa [hdata] using hr
  · exact fun _ => rfl

theorem priority_filled (state : SCTPStateVariables) (j k sid : ℕ) : ({ state with
      ssPriorityMap := (state.ssPriorityMap.subscript j 0).subscript k 0 } :
        SCTPStateVariables).priority sid = state.priority sid := by
  rw [SCTPStateVariables.priority, Map.getD_lookup_subscript, Map.getD_lookup_subscript,
    SCTPStateVariables.priority]

/-- The scan of the priority scheduler keeps the first stream of the smallest value so far. -/
theorem foldl_testPriority (value : ℕ → ℕ) (l : List ℕ) (r : Scheduled)
    (hvalue : ∀ sid, r.1.priority sid = value sid) :
    (l.foldl (fun r testsid => if a.hasData testsid then testPriority r testsid else r) r).2 =
        (l.filter a.hasData).foldl (List.argAux fun b c => value b < value c) r.2 ∧
      ∃ map : Map ℕ ℕ,
        (l.foldl (fun r testsid => if a.hasData testsid then testPriority r testsid else r) r).1 =
          { r.1 with ssPriorityMap := map } ∧
        ∀ sid, (map.lookup sid).getD 0 = value sid := by
  induction l generalizing r with
  | nil => exact ⟨rfl, r.1.ssPriorityMap, rfl, hvalue⟩
  | cons testsid rest ih =>
    rw [List.foldl_cons]
    cases hdata : a.hasData testsid with
    | false =>
      rw [List.filter_cons_of_neg (by simp [hdata])]
      exact ih r hvalue
    | true =>
      rw [List.filter_cons_of_pos hdata, List.foldl_cons, if_pos rfl]
      obtain ⟨state, best⟩ := r
      cases best with
      | none => exact ih (state, some testsid) hvalue
      | some sid =>
        obtain ⟨hsid, map, hstate, hmap⟩ := ih (testPriority (state, some sid) testsid)
          fun j => (priority_filled state testsid sid j).trans (hvalue j)
        refine ⟨?_, map, hstate, hmap⟩
        have hkey : ∀ j, state.priority j = value j := hvalue
        have hbest : (testPriority (state, some sid) testsid).2 =
            List.argAux (fun b c => value b < value c) (some sid) testsid := by
          simp [testPriority, List.argAux, hkey]
        rw [hsid, hbest]

theorem testHeads_eq (best : Option (ℕ × SimTime)) (testsid : ℕ) : a.testHeads best testsid =
      (a.headsOf testsid).foldl (List.argAux fun b c => b.2 < c.2) best := by
  have hone : ∀ best : Option (ℕ × SimTime), ∀ datMsg, testEnqueuing testsid best datMsg =
        List.argAux (fun b c => b.2 < c.2) best (testsid, datMsg.enqueuingTime) := by
    intro best datMsg
    cases best <;> rfl
  rw [testHeads, headsOf]
  cases a.sendStreams[testsid]? with
  | none => rfl
  | some stream =>
    obtain ⟨unordered, ordered⟩ := stream
    cases unordered <;> cases ordered <;> simp [SCTPSendStream.heads, hone]

theorem foldl_testHeads (l : List ℕ) (best : Option (ℕ × SimTime)) : l.foldl a.testHeads best =
      (l.flatMap a.headsOf).foldl (List.argAux fun b c => b.2 < c.2) best := by
  induction l generalizing best with
  | nil => rfl
  | cons testsid rest ih =>
    rw [List.foldl_cons, List.flatMap_cons, List.foldl_append, testHeads_eq, ih]

theorem foldl_testBandwidth (l : List (ℕ × BitVec 32)) (best : Option (ℕ × BitVec 32)) :
    l.foldl testBandwidth best =
      (l.filter (0 ≤ ·.2.toInt)).foldl (List.argAux fun b c => b.2.toNat < c.2.toNat) best := by
  induction l generalizing best with
  | nil => rfl
  | cons elem rest ih =>
    rw [List.foldl_cons, ih]
    by_cases hle : 0 ≤ elem.2.toInt
    · rw [List.filter_cons_of_pos (by simpa using hle), List.foldl_cons]
      cases best with
      | none => simp [testBandwidth, hle, List.argAux]
      | some b => simp [testBandwidth, hle, List.argAux, BitVec.lt_def]
    · rw [List.filter_cons_of_neg (by simpa using hle)]
      cases best <;> simp [testBandwidth, hle]

end Scan

section FairBandwidth

variable {a : SCTPAssociation}

/-- A loop over the streams that assigns to each of their entries once. -/
theorem lookup_foldl_assign {V : Type} (next : ℕ → SCTPSendStream → V → V) (default : V)
    (streams : List SCTPSendStream) (k : ℕ) (m : OrderedMap ℕ V) (j : ℕ) :
    ((streams.zipIdx k).foldl
      (fun m e => m.assign e.2 (next e.2 e.1 ((m.lookup e.2).getD default))) m).lookup j =
        if k ≤ j then
          (streams[j - k]?.map fun stream => next j stream ((m.lookup j).getD default)).or
            (m.lookup j)
        else m.lookup j := by
  induction streams generalizing k m with
  | nil => simp
  | cons stream rest ih =>
    rw [List.zipIdx_cons, List.foldl_cons, ih, OrderedMap.lookup_assign]
    by_cases hj : j = k
    · subst hj
      simp
    · rw [if_neg hj]
      by_cases hle : k ≤ j
      · have hsub : j - k = j - (k + 1) + 1 := by omega
        rw [if_pos hle, if_pos (by omega), hsub, List.getElem?_cons_succ]
      · rw [if_neg hle, if_neg (by omega)]

theorem lookup_initFairBandwidthMap (j : ℕ) :
    a.initFairBandwidthMap.lookup j = if j < a.outboundStreams then some (-1#32) else none := by
  rw [initFairBandwidthMap, lookup_foldl_assign (fun _ _ _ => -1#32) 0#32, if_pos (Nat.zero_le j),
    OrderedMap.lookup_empty, Option.or_none, Nat.sub_zero]
  by_cases hj : j < a.outboundStreams
  · rw [if_pos hj, List.getElem?_eq_getElem hj]
    rfl
  · rw [if_neg hj, List.getElem?_eq_none (by simpa [outboundStreams] using hj)]
    rfl

variable {ssModule : SCTPStreamSchedulers}

theorem fairBandwidthMap_inside (h : a.Inv ssModule) {j : ℕ}
    (hj : a.outboundStreams ≤ j) : a.fairBandwidthMap.lookup j = none := by
  rw [fairBandwidthMap]
  split
  · rw [lookup_initFairBandwidthMap, if_neg (by omega)]
  · exact h.inside j hj

theorem lookup_updateFairBandwidthMap (h : a.Inv ssModule) (j : ℕ) :
    (a.updateFairBandwidthMap a.fairBandwidthMap).lookup j = a.sendStreams[j]?.map fun stream =>
        a.fairBandwidthEntry
          ((a.fairBandwidthMap.lookup a.state.lastStreamScheduled).getD 0#32) j stream
          ((a.fairBandwidthMap.lookup j).getD 0#32) := by
  rw [updateFairBandwidthMap, lookup_foldl_assign (fun sid stream entry =>
    a.fairBandwidthEntry _ sid stream entry), if_pos (Nat.zero_le j), Nat.sub_zero]
  have hsame : ((a.fairBandwidthMap.assign a.state.lastStreamScheduled
      ((a.fairBandwidthMap.lookup a.state.lastStreamScheduled).getD 0#32)).lookup j).getD 0#32 =
        (a.fairBandwidthMap.lookup j).getD 0#32 := by
    rw [OrderedMap.lookup_assign]
    split
    · next heq => rw [heq, Option.getD_some]
    · rfl
  rw [hsame]
  cases hstream : a.sendStreams[j]? with
  | some stream => rfl
  | none =>
    have hj : a.outboundStreams ≤ j := List.getElem?_eq_none_iff.mp hstream
    have hne : j ≠ a.state.lastStreamScheduled := by
      have hlast := h.last_lt
      omega
    rw [OrderedMap.lookup_assign, if_neg hne, fairBandwidthMap_inside h hj]
    rfl

theorem toInt_pos_iff (x : BitVec 32) : 0 < x.toInt ↔ 0#32 < x ∧ 0 ≤ x.toInt := by
  rw [BitVec.lt_def, BitVec.toInt_eq_toNat_cond]
  simp only [BitVec.toNat_ofNat, Nat.zero_mod]
  split <;> omega

theorem fairBandwidthEntry_nonneg_iff {stream : SCTPSendStream} {lastDataChunkSize : BitVec 32}
    (hlast : lastDataChunkSize =
      (a.fairBandwidthMap.lookup a.state.lastStreamScheduled).getD 0#32) :
    0 ≤ (a.fairBandwidthEntry lastDataChunkSize sid stream
        ((a.fairBandwidthMap.lookup sid).getD 0#32)).toInt ↔
      stream.isWaiting = true ∧ a.HasSize sid stream := by
  rw [fairBandwidthEntry, HasSize]
  cases stream.isWaiting with
  | false => simp
  | true =>
    simp only [if_true, true_and]
    by_cases hneg : ((a.fairBandwidthMap.lookup sid).getD 0#32).toInt < 0
    · simp only [hneg, if_true]
      rw [toInt_pos_iff]
      split
      · next hpos => rw [and_iff_right hpos]
      · next hpos =>
        exact ⟨fun h => absurd h (by omega), fun h => absurd h.1 hpos⟩
    · simp only [hneg, if_false]
      cases a.state.ssLastDataChunkSizeSet with
      | false => simpa using hneg
      | true =>
        by_cases hsid : sid = a.state.lastStreamScheduled
        · simp [hsid, hlast]
        · simp only [if_true, hsid, if_false, true_implies, false_implies, iff_true]
          split
          · simp
          · omega

theorem mem_sizes (h : a.Inv ssModule) {e : ℕ × BitVec 32} :
    e ∈ (a.updateFairBandwidthMap a.fairBandwidthMap).entries.filter (0 ≤ ·.2.toInt) →
      a.hasData e.1 = true ∧ ∀ stream, a.sendStreams[e.1]? = some stream → a.HasSize e.1 stream := by
  intro he
  obtain ⟨hmem, hnonneg⟩ := List.mem_filter.mp he
  have hlookup := OrderedMap.mem_entries_iff.mp hmem
  rw [lookup_updateFairBandwidthMap h, Option.map_eq_some_iff] at hlookup
  obtain ⟨stream, hstream, hentry⟩ := hlookup
  have hsize := of_decide_eq_true hnonneg
  rw [← hentry, fairBandwidthEntry_nonneg_iff rfl] at hsize
  refine ⟨hasData_iff.mpr ⟨stream, hstream, hsize.1⟩, fun other hother => ?_⟩
  rw [hstream] at hother
  rw [← Option.some.inj hother]
  exact hsize.2

theorem exists_size (h : a.Inv ssModule) {sid : ℕ} (hdata : a.hasData sid = true)
    (hsize : ∀ stream, a.sendStreams[sid]? = some stream → a.HasSize sid stream) :
    ∃ size, (sid, size) ∈
      (a.updateFairBandwidthMap a.fairBandwidthMap).entries.filter (0 ≤ ·.2.toInt) := by
  obtain ⟨stream, hstream, hwaiting⟩ := hasData_iff.mp hdata
  have hlookup := lookup_updateFairBandwidthMap h sid
  rw [hstream, Option.map_some] at hlookup
  exact ⟨_, List.mem_filter.mpr ⟨OrderedMap.mem_entries_iff.mpr hlookup,
    decide_eq_true ((fairBandwidthEntry_nonneg_iff rfl).mpr ⟨hwaiting, hsize stream hstream⟩)⟩⟩

end FairBandwidth

section Choice

variable {a : SCTPAssociation} {ssModule : SCTPStreamSchedulers}

theorem waiting_eq_nil_iff (hlast : a.state.lastStreamScheduled < a.outboundStreams) :
    a.waiting = [] ↔ ∀ sid, a.hasData sid ≠ true := by
  rw [List.eq_nil_iff_forall_not_mem]
  exact forall_congr' fun sid => not_congr (mem_waiting hlast)

theorem sameStream_eq_some_iff :
    a.sameStream = some sid ↔ a.hasData sid = true ∧ sid = a.state.lastStreamScheduled := by
  rw [sameStream]
  split
  · next hdata =>
    rw [Option.some.injEq]
    exact ⟨fun heq => ⟨heq ▸ hdata, heq.symm⟩, fun h => h.2.symm⟩
  · next hdata =>
    exact ⟨fun h => (by cases h), fun h => absurd (h.2 ▸ h.1) hdata⟩

variable {sid : ℕ}

theorem mem_headsOf {e : ℕ × SimTime} (h : e ∈ a.headsOf sid) :
    e.1 = sid ∧ a.hasData sid = true := by
  rw [headsOf] at h
  cases hstream : a.sendStreams[sid]? with
  | none => simp [hstream] at h
  | some stream =>
    rw [hstream] at h
    obtain ⟨datMsg, hmem, rfl⟩ := List.mem_map.mp h
    refine ⟨rfl, hasData_iff.mpr ⟨stream, hstream, ?_⟩⟩
    rw [← Bool.not_eq_false, ← SCTPSendStream.heads_eq_nil_iff]
    exact List.ne_nil_of_mem hmem

theorem exists_mem_headsOf (h : a.hasData sid = true) : ∃ e, e ∈ a.headsOf sid := by
  obtain ⟨stream, hstream, hwaiting⟩ := hasData_iff.mp h
  have hne : stream.heads ≠ [] := by
    rw [Ne, SCTPSendStream.heads_eq_nil_iff, hwaiting]
    simp
  obtain ⟨datMsg, hmem⟩ := List.exists_mem_of_ne_nil _ hne
  refine ⟨(sid, datMsg.enqueuingTime), ?_⟩
  rw [headsOf, hstream]
  exact List.mem_map_of_mem hmem

theorem mem_allHeads (hlast : a.state.lastStreamScheduled < a.outboundStreams) {e : ℕ × SimTime} :
    e ∈ (circle a.outboundStreams a.state.lastStreamScheduled).flatMap a.headsOf ↔
      ∃ sid, e ∈ a.headsOf sid := by
  rw [List.mem_flatMap]
  constructor
  · rintro ⟨sid, -, he⟩
    exact ⟨sid, he⟩
  · rintro ⟨sid, he⟩
    exact ⟨sid, (mem_circle hlast).mpr (lt_of_hasData (mem_headsOf he).2), he⟩

theorem mayUse_of_chosen (h : a.Inv ssModule) (hsid : a.chosen ssModule = some sid) :
    a.MayUse ssModule sid := by
  have hwaiting : ∀ {sid}, a.waiting.head? = some sid → a.hasData sid = true := fun hhead =>
    (mem_waiting h.last_lt).mp (List.mem_of_head? hhead)
  cases ssModule with
  | ROUND_ROBIN =>
    refine ⟨?_, fun hm => by cases hm <;> contradiction⟩
    rw [chosen] at hsid
    split at hsid
    · next hagain =>
      rw [← Option.some.inj hsid]
      exact (Bool.and_eq_true_iff.mp hagain).2
    · exact hwaiting hsid
  | ROUND_ROBIN_PACKET =>
    rw [chosen] at hsid
    split at hsid
    · next hnext => exact ⟨hwaiting hsid, fun _ hfalse => by simp [hnext] at hfalse⟩
    · exact ⟨(sameStream_eq_some_iff.mp hsid).1, fun _ _ => (sameStream_eq_some_iff.mp hsid).2⟩
  | FAIR_BANDWITH_PACKET =>
    rw [chosen] at hsid
    split at hsid
    · next hnext =>
      obtain ⟨e, he, rfl⟩ := Option.map_eq_some_iff.mp hsid
      exact ⟨(mem_sizes h (List.argmin_mem he)).1, fun _ hfalse => by simp [hnext] at hfalse⟩
    · exact ⟨(sameStream_eq_some_iff.mp hsid).1, fun _ _ => (sameStream_eq_some_iff.mp hsid).2⟩
  | PRIORITY =>
    refine ⟨?_, fun hm => by cases hm <;> contradiction⟩
    rw [chosen] at hsid
    split at hsid
    · next hagain =>
      rw [← Option.some.inj hsid]
      exact (Bool.and_eq_true_iff.mp hagain).2
    · exact (mem_waiting h.last_lt).mp (List.argmin_mem hsid)
  | FCFS =>
    refine ⟨?_, fun hm => by cases hm <;> contradiction⟩
    rw [chosen] at hsid
    obtain ⟨e, he, rfl⟩ := Option.map_eq_some_iff.mp hsid
    obtain ⟨sid, hhead⟩ := (mem_allHeads h.last_lt).mp (List.argmin_mem he)
    obtain ⟨rfl, hdata⟩ := mem_headsOf hhead
    exact hdata

theorem not_considered_of_chosen_eq_none (h : a.Inv ssModule) (hnone : a.chosen ssModule = none)
    (hsid : a.MayUse ssModule sid) : ¬ a.Considered ssModule sid := by
  intro hconsidered
  have hempty : a.waiting ≠ [] := fun hnil =>
    (waiting_eq_nil_iff h.last_lt).mp hnil sid hsid.1
  have hsame : ∀ {b : Bool}, a.state.ssNextStream = b → b = false →
      (ssModule = .ROUND_ROBIN_PACKET ∨ ssModule = .FAIR_BANDWITH_PACKET) →
        a.sameStream ≠ none := by
    intro b hb hfalse hm hnone
    have hsome := sameStream_eq_some_iff.mpr ⟨hsid.1, hsid.2 hm (hb.trans hfalse)⟩
    rw [hnone] at hsome
    cases hsome
  cases ssModule with
  | ROUND_ROBIN =>
    rw [chosen] at hnone
    split at hnone
    · cases hnone
    · exact hempty (List.head?_eq_none_iff.mp hnone)
  | ROUND_ROBIN_PACKET =>
    rw [chosen] at hnone
    split at hnone
    · exact hempty (List.head?_eq_none_iff.mp hnone)
    · next hnext => exact hsame (by simpa using hnext) rfl (.inl rfl) hnone
  | FAIR_BANDWITH_PACKET =>
    rw [chosen] at hnone
    split at hnone
    · next hnext =>
      rw [Option.map_eq_none_iff, List.argmin_eq_none] at hnone
      obtain ⟨size, hmem⟩ := exists_size h hsid.1 (hconsidered rfl hnext)
      rw [hnone] at hmem
      cases hmem
    · next hnext => exact hsame (by simpa using hnext) rfl (.inr rfl) hnone
  | PRIORITY =>
    rw [chosen] at hnone
    split at hnone
    · cases hnone
    · exact hempty (List.argmin_eq_none.mp hnone)
  | FCFS =>
    rw [chosen, Option.map_eq_none_iff, List.argmin_eq_none] at hnone
    obtain ⟨e, he⟩ := exists_mem_headsOf hsid.1
    have hmem := (mem_allHeads h.last_lt).mpr ⟨sid, he⟩
    rw [hnone] at hmem
    cases hmem

theorem considered_of_chosen (h : a.Inv ssModule)
    (hsid : a.chosen ssModule = some sid) : a.Considered ssModule sid := by
  rintro rfl hnext
  rw [chosen, if_pos hnext] at hsid
  obtain ⟨e, he, rfl⟩ := Option.map_eq_some_iff.mp hsid
  exact (mem_sizes h (List.argmin_mem he)).2

theorem chosen_eq_none_iff (h : a.Inv ssModule) :
    a.chosen ssModule = none ↔ ∀ sid, a.MayUse ssModule sid → ¬ a.Considered ssModule sid := by
  constructor
  · exact fun hnone sid => not_considered_of_chosen_eq_none h hnone
  · intro hall
    cases hsid : a.chosen ssModule with
    | none => rfl
    | some sid => exact absurd (considered_of_chosen h hsid) (hall sid (mayUse_of_chosen h hsid))

theorem priority_le_of_chosen (h : a.Inv .PRIORITY) (hagain : a.again = false) {sid other : ℕ}
    (hsid : a.chosen .PRIORITY = some sid) (hother : a.hasData other = true) :
    a.state.priority sid ≤ a.state.priority other := by
  rw [chosen, hagain, if_neg (by simp)] at hsid
  exact List.le_of_mem_argmin ((mem_waiting h.last_lt).mpr hother) hsid

theorem enqueuingTime_le_of_chosen (h : a.Inv .FCFS) (hsid : a.chosen .FCFS = some sid) :
    ∃ e ∈ a.headsOf sid, ∀ other, ∀ e' ∈ a.headsOf other, e.2 ≤ e'.2 := by
  rw [chosen] at hsid
  obtain ⟨e, he, rfl⟩ := Option.map_eq_some_iff.mp hsid
  obtain ⟨sid, hhead⟩ := (mem_allHeads h.last_lt).mp (List.argmin_mem he)
  refine ⟨e, (mem_headsOf hhead).1 ▸ hhead, fun other e' he' => ?_⟩
  exact List.le_of_mem_argmin ((mem_allHeads h.last_lt).mpr ⟨other, he'⟩) he

end Choice

end inet.sctp.SCTPAssociation

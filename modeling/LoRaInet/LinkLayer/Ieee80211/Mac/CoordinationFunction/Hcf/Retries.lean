import LoRaInet.LinkLayer.Ieee80211.Mac.CoordinationFunction.Hcf.Kept

open omnetpp

namespace inet.ieee80211

open InProgressFrames QoSAckHandler EdcaQueue Hcf RetryAccount

/-- The retry keys of the data frames of a list. -/
def retryKeys (l : List Ieee80211DataOrMgmtFrame) : List RetryKey :=
  (l.filter fun f => !f.isManagement).map (·.retryKey)

/-- The frames that wait to get in progress. -/
def InProgressFrames.pendingFrames (frames : InProgressFrames) : List Ieee80211DataOrMgmtFrame :=
  frames.pendingQueue.flatMap Fragments.frames

/-- No two data frames of a queue share a retry key, and none that waits finds a counter. -/
structure Undisputed (frames : InProgressFrames) (short long : RetryCounter) : Prop where
  distinct : (retryKeys (frames.inProgressFrames ++ frames.pendingFrames)).Nodup
  unused : ∀ key ∈ retryKeys frames.pendingFrames, short key = none ∧ long key = none

theorem retryKeys_append (l l' : List Ieee80211DataOrMgmtFrame) :
    retryKeys (l ++ l') = retryKeys l ++ retryKeys l' := by
  unfold retryKeys
  rw [List.filter_append, List.map_append]

variable {l : List Ieee80211DataOrMgmtFrame}

theorem mem_retryKeys {f : Ieee80211DataOrMgmtFrame} (hf : f ∈ l)
    (hdata : ¬f.isManagement) : f.retryKey ∈ retryKeys l :=
  List.mem_map_of_mem (List.mem_filter.mpr ⟨hf, by simpa using hdata⟩)

theorem retryKeys_numbered (l : List Ieee80211DataOrMgmtFrame) :
    ∀ nextId, retryKeys (numbered nextId l) = retryKeys l := by
  induction l with
  | nil => exact fun _ => rfl
  | cons f l ih =>
    intro nextId
    have hcons : ∀ (g : Ieee80211DataOrMgmtFrame) l, retryKeys (g :: l) = retryKeys [g] ++ retryKeys l :=
      fun g l => retryKeys_append [g] l
    have hfirst : retryKeys [{ f with id := nextId }] = retryKeys [f] := by
      unfold retryKeys
      rw [List.filter_singleton, List.filter_singleton]
      change List.map _ (bif !f.isManagement then _ else _) = List.map _ (bif !f.isManagement then _ else _)
      cases f.isManagement <;> rfl
    unfold numbered
    rw [hcons, hcons f, ih, hfirst]

theorem retryKeys_of_management (h : ∀ f ∈ l, f.isManagement) : retryKeys l = [] := by
  unfold retryKeys
  rw [List.filter_eq_nil_iff.mpr fun f hf => by simp [h f hf]]
  rfl

namespace Undisputed

variable {frames frames' : InProgressFrames} {short long short' long' : RetryCounter}
  {f : Ieee80211DataOrMgmtFrame}

section

variable (h : Undisputed frames short long)
include h

theorem eq_of_retryKey {g : Ieee80211DataOrMgmtFrame}
    (hf : f ∈ frames.inProgressFrames) (hg : g ∈ frames.inProgressFrames) (hdata : ¬f.isManagement)
    (hdata' : ¬g.isManagement) (hkey : g.retryKey = f.retryKey) : g = f := by
  have hnodup := h.distinct
  rw [retryKeys_append] at hnodup
  refine List.inj_on_of_nodup_map (List.Nodup.of_append_left hnodup) ?_ ?_ hkey
  · exact List.mem_filter.mpr ⟨hg, by simpa using hdata'⟩
  · exact List.mem_filter.mpr ⟨hf, by simpa using hdata⟩

theorem shrink (hsub : frames'.inProgressFrames.Sublist frames.inProgressFrames)
    (hpending : frames'.pendingQueue = frames.pendingQueue)
    (hcounters : ∀ key ∈ retryKeys frames.pendingFrames, short' key = short key ∧ long' key = long key) :
    Undisputed frames' short' long' := by
  have hpending' : frames'.pendingFrames = frames.pendingFrames := by
    unfold pendingFrames
    rw [hpending]
  refine ⟨?_, fun key hkey => ?_⟩
  · rw [hpending']
    refine h.distinct.sublist ?_
    unfold retryKeys
    exact ((hsub.append (List.Sublist.refl _)).filter _).map _
  · rw [hpending'] at hkey
    obtain ⟨hshort, hlong⟩ := hcounters key hkey
    obtain ⟨hs, hl⟩ := h.unused key hkey
    exact ⟨hshort.trans hs, hlong.trans hl⟩

theorem ne_of_pending (hf : f ∈ frames.inProgressFrames)
    (hdata : ¬f.isManagement) {key : RetryKey} (hkey : key ∈ retryKeys frames.pendingFrames) :
    key ≠ f.retryKey := by
  rintro rfl
  have hnodup := h.distinct
  rw [retryKeys_append] at hnodup
  exact List.disjoint_of_nodup_append hnodup (mem_retryKeys hf hdata) hkey

theorem extracted : Undisputed frames.extracted short long := by
  unfold InProgressFrames.extracted
  split
  · exact h
  · next fragments pendingQueue hpending =>
    obtain ⟨hdistinct, hunused⟩ := h
    unfold pendingFrames at hdistinct hunused
    rw [hpending, List.flatMap_cons] at hdistinct hunused
    refine ⟨?_, fun key hkey => hunused key ?_⟩
    · change (retryKeys ((frames.inProgressFrames ++ numbered frames.nextId fragments.frames) ++
        pendingQueue.flatMap Fragments.frames)).Nodup
      rw [retryKeys_append, retryKeys_append, retryKeys_numbered, List.append_assoc, ← retryKeys_append,
        ← retryKeys_append]
      exact hdistinct
    · rw [retryKeys_append]
      exact List.mem_append_right _ hkey

theorem insert {requests : List Fragments}
    (hmanagement : ∀ request ∈ requests, ∀ f ∈ request.frames, f.isManagement) :
    Undisputed { frames with pendingQueue := frames.pendingQueue ++ requests } short long := by
  have hkeys : retryKeys (requests.flatMap Fragments.frames) = [] := by
    refine retryKeys_of_management fun f hf => ?_
    obtain ⟨request, hrequest, hf⟩ := List.mem_flatMap.mp hf
    exact hmanagement request hrequest f hf
  have hsame : retryKeys ({ frames with
      pendingQueue := frames.pendingQueue ++ requests } : InProgressFrames).pendingFrames =
      retryKeys frames.pendingFrames := by
    unfold pendingFrames
    rw [List.flatMap_append, retryKeys_append, hkeys, List.append_nil]
  refine ⟨?_, fun key hkey => h.unused key (hsame ▸ hkey)⟩
  rw [retryKeys_append, hsame, ← retryKeys_append]
  exact h.distinct

end

end Undisputed

/-- The retries of a queue are accounted for. -/
structure Accounted (q : EdcaQueue) : Prop where
  balanced : q.account.Balanced
  undisputed : Undisputed q.frames q.dataRecovery.shortRetryCounter q.dataRecovery.longRetryCounter

namespace Accounted

variable {p : HcfParameters} {ac : AccessCategory} {e : Event} {q q' : EdcaQueue}
  {frames : InProgressFrames} {step step' : Option SequenceStep} {f : Ieee80211DataOrMgmtFrame}

theorem alone (h : Accounted q) (hf : f ∈ q.frames.inProgressFrames) (hdata : ¬f.isManagement) :
    q.account.Alone f := fun _ hg hother hkey => h.undisputed.eq_of_retryKey hf hg hdata hother hkey

theorem extracted (h : Accounted q) : Accounted { q with frames := q.frames.extracted } := by
  refine ⟨?_, h.undisputed.extracted⟩
  have hunused := h.undisputed.unused
  unfold pendingFrames at hunused
  unfold InProgressFrames.extracted
  split
  · exact h.balanced
  · next fragments pendingQueue hpending =>
    rw [hpending, List.flatMap_cons, retryKeys_append] at hunused
    exact h.balanced.push fragments.frames fun f hf hdata =>
      hunused f.retryKey (List.mem_append_left _ (mem_retryKeys hf hdata))

theorem extend (h : Accounted q) (hext : Extends q.frames frames) : Accounted { q with frames := frames } :=
  hext.invariant (P := fun frames => Accounted { q with frames := frames })
    (fun _ hq => hq.extracted) h

theorem silent {r : Report} (hr : ∀ f, ¬f.isManagement → r.frame = f →
    r = .transmitted f ∨ r = .acknowledged f) : Silent r := by
  intro f hdata
  refine ⟨?_, ?_, ?_⟩ <;>
  · rintro rfl
    rcases hr f hdata rfl with h | h <;> cases h

theorem continues (h : Accounted q) (hkept : Kept ac q.frames q.ackPolicy none)
    (hcontinues : Continues q q' step) : q'.account.Balanced := by
  cases hcontinues with
  | @transmit _ frames' frame policy st hext heligible hext' hstep =>
    have hextended := (h.extend hext).extend hext'
    have hmem := mem_of_extends hext' (List.mem_of_find?_eq_some heligible)
    have hfresh := ((hkept.extend hext).extend hext').fresh frame hmem
    exact hextended.balanced.report (silent fun _ _ heq => .inl (by cases heq; rfl)) hfresh
  | rts hext heligible hunicast hmanagement hnext | blockAckReq blockAckReq hext | released hext =>
    exact (h.extend hext).balanced

theorem account_dataFailed (q : EdcaQueue) (f : Ieee80211DataOrMgmtFrame) :
    (q.dataFrameTransmissionFailed f).account = q.account.dataFailed f := by
  unfold EdcaQueue.dataFrameTransmissionFailed QoSRecoveryProcedure.dataFrameTransmissionFailed
    RetryAccount.dataFailed QoSRecoveryProcedure.incrementStationLrc QoSRecoveryProcedure.incrementStationSrc
  change _ = if q.dataRecovery.isLong f then _ else _
  dsimp only
  split_ifs <;> rfl

theorem account_rtsFailed (q : EdcaQueue) (f : Ieee80211DataOrMgmtFrame) :
    (q.rtsFrameTransmissionFailed f).account = q.account.rtsFailed f := by
  unfold EdcaQueue.rtsFrameTransmissionFailed QoSRecoveryProcedure.rtsFrameTransmissionFailed
    QoSRecoveryProcedure.incrementStationSrc
  dsimp only
  split_ifs <;> rfl

open QoSRecoveryProcedure

theorem account_discard (q : EdcaQueue) (f : Ieee80211DataOrMgmtFrame) :
    (q.discard f).account = q.account.discard f := by
  unfold EdcaQueue.discard retryLimitReached RetryAccount.discard
  change _ = if q.dataRecovery.isLong f then _ else _
  split_ifs <;> rfl

variable {retryLimitReached : Bool}

theorem isRetryLimitReached_account
    (h : q.dataRecovery.isRetryLimitReached f = .ok retryLimitReached) :
    (q.account.isLong f → ∃ count, q.account.longRetryCounter f.retryKey = some count ∧
      (retryLimitReached ↔ q.account.longRetryLimit ≤ count)) ∧
    (¬q.account.isLong f → ∃ count, q.account.shortRetryCounter f.retryKey = some count ∧
      (retryLimitReached ↔ q.account.shortRetryLimit ≤ count)) := by
  unfold isRetryLimitReached getRc at h
  change (if q.account.isLong f then _ else _) = _ at h
  split at h
  · next hisLong =>
    refine ⟨fun _ => ?_, fun hshort => absurd hisLong hshort⟩
    obtain ⟨count, hcount, heq⟩ := bind_eq_ok_iff.mp h
    split at hcount
    · next hcounter =>
      cases hcount
      exact ⟨_, hcounter, by rw [← Except.ok.inj heq]; exact decide_eq_true_iff⟩
    · cases hcount
  · next hisShort =>
    refine ⟨fun hlong => absurd hlong hisShort, fun _ => ?_⟩
    obtain ⟨count, hcount, heq⟩ := bind_eq_ok_iff.mp h
    split at hcount
    · next hcounter =>
      cases hcount
      exact ⟨_, hcounter, by rw [← Except.ok.inj heq]; exact decide_eq_true_iff⟩
    · cases hcount

section

variable (h : Accounted q) (hf : f ∈ q.frames.inProgressFrames) (hdata : ¬f.isManagement)
include h hf hdata

/-- The limit that is compared is reached just when a limit of the frame is. -/
theorem reached_of_dataFailed (hid : f.id < q.frames.nextId)
    (hlimit : (q.dataRecovery.dataFrameTransmissionFailed f).isRetryLimitReached f =
      .ok retryLimitReached) :
    (retryLimitReached = true → (q.account.dataFailed f).Exhausted f) ∧
      (retryLimitReached = false → (q.account.dataFailed f).Below f) := by
  have hbut := BalancedBut.of_dataFailed h.balanced hf hdata hid (h.alone hf hdata)
  have hmem : f ∈ (q.account.dataFailed f).inProgressFrames := by
    unfold RetryAccount.dataFailed
    split <;> exact hf
  obtain ⟨hshort, hlong⟩ := hbut.counted f hmem hdata
  obtain ⟨hbelowShort, hbelowLong⟩ := h.balanced.below f hf hdata
  obtain ⟨hshortFailures, hlongFailures⟩ := dataFailed_failures q.account f
  obtain ⟨hshortLimit, hlongLimit⟩ := dataFailed_limits q.account f
  have hisLong : (q.account.dataFailed f).isLong f = q.account.isLong f := by
    unfold RetryAccount.dataFailed
    split <;> rfl
  obtain ⟨hcaseLong, hcaseShort⟩ := @isRetryLimitReached_account (q.dataFrameTransmissionFailed f) f _ hlimit
  rw [account_dataFailed, hisLong] at hcaseLong hcaseShort
  unfold RetryAccount.Exhausted
  by_cases hlongFrame : q.account.isLong f
  · obtain ⟨count, hcount, hiff⟩ := hcaseLong hlongFrame
    rw [hlong] at hcount
    have hcount := eq_of_counted hcount
    rw [if_pos hlongFrame] at hshortFailures hlongFailures
    refine ⟨fun hreached => ?_, fun hreached => ⟨?_, ?_⟩⟩
    · have hle := hiff.mp hreached
      omega
    · omega
    · have hlt := mt hiff.mpr (by simp [hreached])
      omega
  · obtain ⟨count, hcount, hiff⟩ := hcaseShort hlongFrame
    rw [hshort] at hcount
    have hcount := eq_of_counted hcount
    rw [if_neg hlongFrame] at hshortFailures hlongFailures
    refine ⟨fun hreached => ?_, fun hreached => ⟨?_, ?_⟩⟩
    · have hle := hiff.mp hreached
      omega
    · have hlt := mt hiff.mpr (by simp [hreached])
      omega
    · omega

theorem reached_of_rtsFailed (hid : f.id < q.frames.nextId)
    (hlimit : (q.dataRecovery.rtsFrameTransmissionFailed f).isRtsFrameRetryLimitReached f =
      .ok retryLimitReached) :
    (retryLimitReached = true → (q.account.rtsFailed f).Exhausted f) ∧
      (retryLimitReached = false → (q.account.rtsFailed f).Below f) := by
  have hbut := BalancedBut.of_rtsFailed h.balanced hf hdata hid (h.alone hf hdata)
  obtain ⟨hshort, -⟩ := hbut.counted f hf hdata
  obtain ⟨hbelowShort, hbelowLong⟩ := h.balanced.below f hf hdata
  obtain ⟨hshortFailures, hlongFailures⟩ := rtsFailed_failures q.account f
  have haccount := account_rtsFailed q f
  unfold isRtsFrameRetryLimitReached getRc at hlimit
  obtain ⟨count, hcount, heq⟩ := bind_eq_ok_iff.mp hlimit
  have hcounter : (q.account.rtsFailed f).shortRetryCounter f.retryKey = some count := by
    rw [← haccount]
    split at hcount
    · next hsome =>
      cases hcount
      exact hsome
    · cases hcount
  rw [hshort] at hcounter
  have hcount := eq_of_counted hcounter
  have hreached : retryLimitReached = decide (q.account.shortRetryLimit ≤ (count : ℤ)) := by
    have hlimitEq := congrArg RetryAccount.shortRetryLimit haccount
    change (q.dataRecovery.rtsFrameTransmissionFailed f).shortRetryLimit = q.account.shortRetryLimit at hlimitEq
    rw [← hlimitEq]
    exact (Except.ok.inj heq).symm
  have hsame : (q.account.rtsFailed f).shortRetryLimit = q.account.shortRetryLimit := rfl
  have hsame' : (q.account.rtsFailed f).longRetryLimit = q.account.longRetryLimit := rfl
  unfold RetryAccount.Exhausted
  refine ⟨fun htrue => ?_, fun hfalse => ⟨?_, ?_⟩⟩
  · rw [htrue] at hreached
    have hle := of_decide_eq_true hreached.symm
    omega
  · rw [hfalse] at hreached
    have hlt := of_decide_eq_false hreached.symm
    omega
  · omega

theorem of_balanced (hbalanced : q'.account.Balanced)
    (hsub : q'.frames.inProgressFrames.Sublist q.frames.inProgressFrames)
    (hpending : q'.frames.pendingQueue = q.frames.pendingQueue)
    (hcounters : ∀ key ≠ f.retryKey, q'.account.shortRetryCounter key = q.account.shortRetryCounter key ∧
      q'.account.longRetryCounter key = q.account.longRetryCounter key) : Accounted q' := by
  refine ⟨hbalanced, h.undisputed.shrink hsub hpending fun key hkey => ?_⟩
  exact hcounters key (h.undisputed.ne_of_pending hf hdata hkey)

end

/-- A data frame fails, and is discarded when it has reached a limit. -/
theorem dataFailed {retryLimitReached : Bool} (h : Accounted q) (hf : f ∈ q.frames.inProgressFrames)
    (hdata : ¬f.isManagement) (hid : f.id < q.frames.nextId)
    (hlimit : (q.dataRecovery.dataFrameTransmissionFailed f).isRetryLimitReached f =
      .ok retryLimitReached) :
    Accounted (if retryLimitReached then (q.dataFrameTransmissionFailed f).discard f
      else q.dataFrameTransmissionFailed f) := by
  obtain ⟨hreached, hnotReached⟩ := h.reached_of_dataFailed hf hdata hid hlimit
  have hbut := BalancedBut.of_dataFailed h.balanced hf hdata hid (h.alone hf hdata)
  have hsame : (q.account.dataFailed f).inProgressFrames = q.account.inProgressFrames ∧
      (q.account.dataFailed f).nextId = q.account.nextId := by
    unfold RetryAccount.dataFailed
    split <;> exact ⟨rfl, rfl⟩
  have halone : (q.account.dataFailed f).Alone f := by
    intro g hg
    rw [hsame.1] at hg
    exact h.alone hf hdata g hg
  cases retryLimitReached with
  | false =>
    refine h.of_balanced hf hdata ?_ (List.Sublist.refl _) rfl fun key hkey => ?_
    · rw [if_neg nofun, account_dataFailed]
      exact hbut.balanced (hnotReached rfl)
    · rw [if_neg nofun, account_dataFailed]
      exact dataFailed_counters _ hkey
  | true =>
    refine h.of_balanced hf hdata ?_ List.filter_sublist rfl fun key hkey => ?_
    · rw [if_pos rfl, account_discard, account_dataFailed]
      exact hbut.discard (by rw [hsame.2]; exact hid) halone (hreached rfl)
    · rw [if_pos rfl, account_discard, account_dataFailed]
      obtain ⟨short, long, heq, hcounters⟩ := discard_eq (q.account.dataFailed f) f
      rw [heq]
      obtain ⟨hshort, hlong⟩ := dataFailed_counters q.account hkey
      exact ⟨(hcounters key hkey).1.trans hshort, (hcounters key hkey).2.trans hlong⟩

theorem rtsFailed {retryLimitReached : Bool} (h : Accounted q) (hf : f ∈ q.frames.inProgressFrames)
    (hdata : ¬f.isManagement) (hid : f.id < q.frames.nextId)
    (hlimit : (q.dataRecovery.rtsFrameTransmissionFailed f).isRtsFrameRetryLimitReached f =
      .ok retryLimitReached) :
    Accounted (if retryLimitReached then (q.rtsFrameTransmissionFailed f).discard f
      else q.rtsFrameTransmissionFailed f) := by
  obtain ⟨hreached, hnotReached⟩ := h.reached_of_rtsFailed hf hdata hid hlimit
  have hbut := BalancedBut.of_rtsFailed h.balanced hf hdata hid (h.alone hf hdata)
  cases retryLimitReached with
  | false =>
    refine h.of_balanced hf hdata ?_ (List.Sublist.refl _) rfl fun key hkey => ?_
    · rw [if_neg nofun, account_rtsFailed]
      exact hbut.balanced (hnotReached rfl)
    · rw [if_neg nofun, account_rtsFailed]
      exact ⟨incrementCounter_of_ne hkey, rfl⟩
  | true =>
    refine h.of_balanced hf hdata ?_ List.filter_sublist rfl fun key hkey => ?_
    · rw [if_pos rfl, account_discard, account_rtsFailed]
      exact hbut.discard hid (h.alone hf hdata) (hreached rfl)
    · rw [if_pos rfl, account_discard, account_rtsFailed]
      obtain ⟨short, long, heq, hcounters⟩ := discard_eq (q.account.rtsFailed f) f
      rw [heq]
      exact ⟨(hcounters key hkey).1.trans (incrementCounter_of_ne hkey), (hcounters key hkey).2⟩

theorem leave {frames' : List Ieee80211DataOrMgmtFrame} (h : Accounted q)
    (hsub : frames'.Sublist q.frames.inProgressFrames)
    (haccount : q'.account = { q.account with inProgressFrames := frames' })
    (hpending : q'.frames.pendingQueue = q.frames.pendingQueue) : Accounted q' := by
  have hframes : q'.frames.inProgressFrames = frames' := congrArg RetryAccount.inProgressFrames haccount
  have hshort := congrArg RetryAccount.shortRetryCounter haccount
  have hlong := congrArg RetryAccount.longRetryCounter haccount
  refine ⟨?_, h.undisputed.shrink (by rw [hframes]; exact hsub) hpending fun key _ => ?_⟩
  · rw [haccount]
    exact h.balanced.shrink hsub.subset fun _ _ _ => ⟨rfl, rfl⟩
  · exact ⟨congrFun hshort key, congrFun hlong key⟩

theorem report {r : Report} (h : Accounted q) (hr : Silent r) (hid : r.frame.id < q.frames.nextId) :
    Accounted (q.report r) := ⟨h.balanced.report hr hid, h.undisputed⟩

theorem withFailedStatus (h : Accounted q) (f : Ieee80211DataOrMgmtFrame) :
    Accounted (q.withFailedStatus f) := h.leave (List.Sublist.refl _) rfl rfl

theorem setRetry (h : Accounted q) (hid : f.id < q.frames.nextId)
    (hone : ∀ g ∈ q.frames.inProgressFrames, g.id = f.id → g = f)
    (hfailed : ¬f.isManagement →
      0 < if q.account.isLong f then q.account.longFailures f else q.account.shortFailures f) :
    Accounted (Hcf.setRetry q f) :=
  ⟨h.balanced.setRetry hid hone hfailed, h.undisputed⟩

theorem managementFailed {edcaf : Edcaf} (retryLimitReached : Bool) (h : Accounted q)
    (hid : f.id < q.frames.nextId) (hmanagement : f.isManagement) :
    Accounted (if retryLimitReached then
        ({ q with dataRecovery.cwCalculator := edcaf }.report (.transmissionFailed f)).discardManagement f
      else { q with dataRecovery.cwCalculator := edcaf }.report (.transmissionFailed f)) := by
  have hsilent : ∀ r : Report, r = .transmissionFailed f ∨ r = .discarded f → Silent r := by
    intro r hr g hdata
    have hne : f ≠ g := fun heq => hdata (heq ▸ hmanagement)
    rcases hr with rfl | rfl
    · exact ⟨nofun, fun heq => hne (Report.transmissionFailed.inj heq), nofun⟩
    · exact ⟨nofun, nofun, fun heq => hne (Report.discarded.inj heq)⟩
  have hmoved : Accounted { q with dataRecovery.cwCalculator := edcaf } := h.leave (List.Sublist.refl _) rfl rfl
  have hreported := hmoved.report (hsilent _ (.inl rfl)) hid
  cases retryLimitReached with
  | false => exact hreported
  | true =>
    have hdropped : Accounted { ({ q with
          dataRecovery.cwCalculator := edcaf }.report (.transmissionFailed f)) with
        frames := q.frames.dropFrame f } := hreported.leave List.filter_sublist rfl rfl
    exact hdropped.report (hsilent _ (.inr rfl)) hid

theorem account_ackFrameReceived (q : EdcaQueue) (f : Ieee80211DataOrMgmtFrame) : ∃ short long,
    ({ q with dataRecovery := q.dataRecovery.ackFrameReceived f } : EdcaQueue).account =
      { q.account with shortRetryCounter := short, longRetryCounter := long } ∧
    ∀ key ≠ f.retryKey, short key = q.account.shortRetryCounter key ∧
      long key = q.account.longRetryCounter key := by
  unfold ackFrameReceived
  split
  · exact ⟨_, _, rfl, fun key hkey => ⟨rfl, Function.update_of_ne hkey _ _⟩⟩
  · exact ⟨_, _, rfl, fun key hkey => ⟨Function.update_of_ne hkey _ _, rfl⟩⟩

/-- A data frame is acknowledged, whether or not its counters are erased. -/
theorem acknowledge {ackStatuses : AckStatuses} (h : Accounted q) (hf : f ∈ q.frames.inProgressFrames)
    (hdata : ¬f.isManagement) (hid : f.id < q.frames.nextId)
    (hcases : q' = q ∨ q' = { q with dataRecovery := q.dataRecovery.ackFrameReceived f }) :
    Accounted (q'.acknowledge ackStatuses f) := by
  have hdropped : Accounted { q' with
      frames := { q'.frames with ackStatuses := ackStatuses }.dropFrame f } := by
    rcases hcases with rfl | rfl
    · exact h.leave List.filter_sublist rfl rfl
    · obtain ⟨short, long, haccount, hcounters⟩ := account_ackFrameReceived q f
      have hshort := congrArg RetryAccount.shortRetryCounter haccount
      have hlong := congrArg RetryAccount.longRetryCounter haccount
      refine h.of_balanced hf hdata ?_ List.filter_sublist rfl fun key hkey => ?_
      · change Balanced { ({ q with
          dataRecovery := q.dataRecovery.ackFrameReceived f } : EdcaQueue).account with
          inProgressFrames := q.frames.inProgressFrames.filter (·.id ≠ f.id) }
        rw [haccount]
        refine h.balanced.shrink (List.filter_subset_self _) fun g hg hother => hcounters _ fun hkey => ?_
        obtain ⟨hg, hne⟩ := List.mem_filter.mp hg
        exact of_decide_eq_true hne (by rw [h.alone hf hdata g hg hother hkey])
      · obtain ⟨hs, hl⟩ := hcounters key hkey
        exact ⟨(congrFun hshort key).trans hs, (congrFun hlong key).trans hl⟩
  have hid' : f.id < q'.frames.nextId := by
    rcases hcases with rfl | rfl <;> exact hid
  exact hdropped.report (silent fun _ _ heq => .inr (by cases heq; rfl)) hid'

theorem completes (h : Accounted q) (hkept : Kept ac q.frames q.ackPolicy step)
    (hmanagement : ∀ request remaining, e = .transmissionComplete (some request) remaining →
      ∀ f ∈ request.frames, f.isManagement)
    (hcompletes : Completes p ac e q step q' step') : Accounted q' := by
  cases hcompletes with
  | granted => exact h
  | collided hcollides =>
    cases hcollides with
    | @data frames frame retryLimitReached contention hext heligible hdata hlimit =>
      have hquiet : Accounted (q.contend false) := h.leave (List.Sublist.refl _) rfl rfl
      have hfailed := (hquiet.extend hext).dataFailed (List.mem_of_find?_eq_some heligible) hdata
        ((hkept.extend hext).fresh frame (List.mem_of_find?_eq_some heligible)) hlimit
      exact hfailed.leave (List.Sublist.refl _) rfl rfl
    | @management frames frame edcaf retryLimitReached contention hext heligible hmgmt hwindow =>
      have hquiet : Accounted (q.contend false) := h.leave (List.Sublist.refl _) rfl rfl
      have hfailed := @managementFailed _ _ edcaf retryLimitReached (hquiet.extend hext)
        ((hkept.extend hext).fresh frame (List.mem_of_find?_eq_some heligible)) hmgmt
      exact hfailed.leave (List.Sublist.refl _) rfl rfl
  | @multicastTransmitted _ _ _ _ frame htransmitted =>
    obtain ⟨hg, -, hmulticast⟩ := hkept.suits _ rfl
    cases htransmitted with
    | multicast _ => exact h.leave List.filter_sublist rfl rfl
    | unicast hunicast _ => exact absurd hmulticast hunicast
  | rtsTransmitted => exact h
  | @dataTransmitted _ _ ackExpected _ _ frame requests htransmitted hrequests =>
    obtain ⟨hf, -, hunicast, hdata, hpolicy, hqos⟩ := hkept.suits _ rfl
    have heq := Tracked.transmitted_eq htransmitted hunicast (fun _ => hpolicy)
      (fun hmgmt => absurd hmgmt hdata) hqos
    subst heq
    have htransmitted : Accounted { q with
        frames.ackStatuses := Function.update q.frames.ackStatuses (key frame)
          (if ackExpected then .WAITING_FOR_NORMAL_ACK else .BLOCK_ACK_NOT_YET_REQUESTED) } :=
      h.leave (List.Sublist.refl _) rfl rfl
    refine ⟨htransmitted.balanced, htransmitted.undisputed.insert fun request hrequest => ?_⟩
    obtain ⟨haddba, -⟩ := hrequests request hrequest
    subst haddba
    exact hmanagement request _ rfl
  | managementTransmitted htransmitted =>
    obtain ⟨hf, -, hunicast, hmgmt⟩ := hkept.suits _ rfl
    have heq := Tracked.transmitted_eq htransmitted hunicast
      (fun hdata => absurd hmgmt hdata) (fun _ => rfl) nofun
    subst heq
    exact h.leave (List.Sublist.refl _) rfl rfl
  | blockAckReqTransmitted | ctsReceived => exact h.leave (List.Sublist.refl _) rfl rfl
  | dataAckReceived hdata hcounters hstatuses =>
    obtain ⟨-, -, -, hcases⟩ := Tracked.ackDataFrame_eq_ok hcounters
    obtain ⟨hf, -⟩ := hkept.suits _ rfl
    exact h.acknowledge hf hdata (hkept.fresh _ hf) (hcases.imp And.right And.right)
  | @managementAckReceived _ _ frame edcaf ackStatuses hmgmt hwindow hstatuses =>
    obtain ⟨hf, -⟩ := hkept.suits _ rfl
    have hdropped : Accounted { q with
        dataRecovery.cwCalculator := edcaf
        frames := { q.frames with ackStatuses := ackStatuses }.dropFrame frame } :=
      h.leave List.filter_sublist rfl rfl
    exact hdropped.report (silent fun _ _ heq => .inr (by cases heq; rfl)) (hkept.fresh frame hf)
  | @blockAckReceived _ _ _ transmitterAddress blockAck =>
    have hdropped : Accounted { q with
        dataRecovery := q.dataRecovery.blockAckFrameReceived
        frames := { q.frames with
          ackStatuses := processReceivedBlockAck q.frames.ackStatuses transmitterAddress
            blockAck }.dropFrames (ackedFrames q.frames.ackStatuses transmitterAddress blockAck) } :=
      h.leave List.filter_sublist rfl rfl
    refine ⟨hdropped.balanced.reports _ fun r hr => ?_, hdropped.undisputed⟩
    obtain ⟨g, hg, rfl⟩ := List.mem_map.mp hr
    refine ⟨silent fun _ _ heq => .inr (by cases heq; rfl), ?_⟩
    exact hkept.fresh g (List.mem_filter.mp hg).1
  | blockAckLost => exact h
  | @rtsFailed _ _ protectedFrame _ retryLimitReached hdata hlimit =>
    obtain ⟨heligible, -⟩ := hkept.suits _ rfl
    have hf := List.mem_of_find?_eq_some heligible
    exact h.rtsFailed hf hdata (hkept.fresh _ hf) hlimit
  | @dataFailed _ _ failedFrame retryLimitReached hdata hlimit =>
    obtain ⟨hf, -⟩ := hkept.suits _ rfl
    have hid := hkept.fresh failedFrame hf
    have hfailed := (h.withFailedStatus failedFrame).dataFailed hf hdata hid hlimit
    cases retryLimitReached with
    | true => exact hfailed
    | false =>
      have hfailed : Accounted ((q.withFailedStatus failedFrame).dataFrameTransmissionFailed failedFrame) :=
        hfailed
      refine hfailed.setRetry hid (fun g hg heq => hkept.eq_of_id hg hf heq) fun _ => ?_
      rw [account_dataFailed]
      obtain ⟨hshort, hlong⟩ := dataFailed_failures q.account failedFrame
      have hisLong : (q.account.dataFailed failedFrame).isLong failedFrame =
          q.account.isLong failedFrame := by
        unfold RetryAccount.dataFailed
        split <;> rfl
      change 0 < if (q.account.dataFailed failedFrame).isLong failedFrame then
        (q.account.dataFailed failedFrame).longFailures failedFrame
        else (q.account.dataFailed failedFrame).shortFailures failedFrame
      rw [hshort, hlong, hisLong]
      cases q.account.isLong failedFrame <;> simp
  | blockAckDataFailed hdata hpolicy =>
    obtain ⟨-, -, hnormal⟩ := hkept.suits _ rfl
    rw [hnormal hdata] at hpolicy
    cases hpolicy
  | @managementFailed _ _ failedFrame edcaf retryLimitReached hmgmt hwindow =>
    obtain ⟨hf, -⟩ := hkept.suits _ rfl
    have hid := hkept.fresh failedFrame hf
    have hfailed := @managementFailed _ _ edcaf retryLimitReached (h.withFailedStatus failedFrame) hid hmgmt
    cases retryLimitReached with
    | true => exact hfailed
    | false =>
      refine hfailed.setRetry hid (fun g hg heq => hkept.eq_of_id hg hf heq) ?_
      exact fun hdata => absurd hmgmt hdata

theorem evolves (h : Accounted q) (hkept : Kept ac q.frames q.ackPolicy step)
    (hmanagement : ∀ request remaining, e = .transmissionComplete (some request) remaining →
      ∀ f ∈ request.frames, f.isManagement)
    (hevolves : Evolves p ac e q step q' step') : q'.account.Balanced := by
  cases hevolves with
  | adjusts hadjusts =>
    obtain ⟨pendingQueue, hbelongs, hwindow⟩ := hadjusts
    exact h.balanced
  | stays contention hcompletes =>
    have hcompleted := h.completes hkept hmanagement hcompletes
    exact hcompleted.balanced
  | @continues q₁ q₂ _ contention contention' hcompletes hcontinues =>
    have hcompleted := h.completes hkept hmanagement hcompletes
    have hquiet : Accounted (q₁.contend contention) := ⟨hcompleted.balanced, hcompleted.undisputed⟩
    have hkept₁ : Kept ac q₁.frames q₁.ackPolicy none := hkept.completes hcompletes
    have hcontinued := @continues ac (q₁.contend contention) q₂ _ hquiet hkept₁ hcontinues
    exact hcontinued

end Accounted

end inet.ieee80211

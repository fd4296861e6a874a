import LoRaInet.LinkLayer.Ieee80211.Mac.CoordinationFunction.Hcf.Evolution

open omnetpp

namespace inet.ieee80211

open InProgressFrames

/-- The frame that a queue reports about. -/
def Report.frame : Report → Ieee80211DataOrMgmtFrame
  | .transmitted frame | .rtsTransmissionFailed frame | .transmissionFailed frame
  | .discarded frame | .acknowledged frame => frame

/-- What of a queue is about retries. -/
structure RetryAccount where
  inProgressFrames : List Ieee80211DataOrMgmtFrame
  nextId : ℕ
  retry : ℕ → Bool
  log : List Report
  shortRetryCounter : RetryCounter
  longRetryCounter : RetryCounter
  shortRetryLimit : ℤ
  longRetryLimit : ℤ
  rtsThreshold : ℤ

def EdcaQueue.account (q : EdcaQueue) : RetryAccount :=
  ⟨q.frames.inProgressFrames, q.frames.nextId, q.retry, q.log, q.dataRecovery.shortRetryCounter,
    q.dataRecovery.longRetryCounter, q.dataRecovery.shortRetryLimit, q.dataRecovery.longRetryLimit,
    q.dataRecovery.rtsThreshold⟩

/-- The counter for this many failures. -/
def counted (n : ℕ) : Option ℕ := if n = 0 then none else some n

namespace RetryAccount

variable {a a' : RetryAccount} {f g : Ieee80211DataOrMgmtFrame}

def isLong (a : RetryAccount) (f : Ieee80211DataOrMgmtFrame) : Bool := a.rtsThreshold ≤ f.byteLength

/-- The failed short attempts of a frame, those of its RTS frames included. -/
def shortFailures (a : RetryAccount) (f : Ieee80211DataOrMgmtFrame) : ℕ :=
  a.log.count (.rtsTransmissionFailed f) +
    if a.isLong f then 0 else a.log.count (.transmissionFailed f)

/-- The failed long attempts of a frame. -/
def longFailures (a : RetryAccount) (f : Ieee80211DataOrMgmtFrame) : ℕ :=
  if a.isLong f then a.log.count (.transmissionFailed f) else 0

/-- A limit is reached. -/
def Exhausted (a : RetryAccount) (f : Ieee80211DataOrMgmtFrame) : Prop :=
  (a.shortFailures f : ℤ) = a.shortRetryLimit ∨ (a.longFailures f : ℤ) = a.longRetryLimit

/-- The counters of a frame are those of its own failures. -/
structure Counted (a : RetryAccount) (f : Ieee80211DataOrMgmtFrame) : Prop where
  short : a.shortRetryCounter f.retryKey = counted (a.shortFailures f)
  long : a.longRetryCounter f.retryKey = counted (a.longFailures f)

/-- No limit is reached yet. -/
structure Below (a : RetryAccount) (f : Ieee80211DataOrMgmtFrame) : Prop where
  short : (a.shortFailures f : ℤ) < a.shortRetryLimit
  long : (a.longFailures f : ℤ) < a.longRetryLimit

/-- Every data frame in progress has counters of its own, and a data frame is discarded just when
it has reached a limit. -/
structure Balanced (a : RetryAccount) : Prop where
  logged : ∀ r ∈ a.log, r.frame.id < a.nextId
  counted : ∀ f ∈ a.inProgressFrames, ¬f.isManagement → a.Counted f
  below : ∀ f ∈ a.inProgressFrames, ¬f.isManagement → a.Below f
  discarded : ∀ f, ¬f.isManagement → (.discarded f ∈ a.log ↔ a.Exhausted f)
  retried : ∀ f ∈ a.inProgressFrames, ¬f.isManagement → a.retry f.id →
    0 < if a.isLong f then a.longFailures f else a.shortFailures f
  unretried : ∀ id, a.nextId ≤ id → a.retry id = false
  shortRetryLimit : 1 ≤ a.shortRetryLimit
  longRetryLimit : 1 ≤ a.longRetryLimit

theorem Below.not_exhausted (h : a.Below f) : ¬a.Exhausted f := by
  obtain ⟨hshort, hlong⟩ := h
  unfold Exhausted
  omega

/-- A report about other things than the failures of data frames. -/
def Silent (r : Report) : Prop :=
  ∀ f, ¬f.isManagement → r ≠ .rtsTransmissionFailed f ∧ r ≠ .transmissionFailed f ∧ r ≠ .discarded f

/-- The failures of a frame and its limits are the same. -/
structure Agrees (a a' : RetryAccount) (f : Ieee80211DataOrMgmtFrame) : Prop where
  isLong : a'.isLong f = a.isLong f
  short : a'.shortFailures f = a.shortFailures f
  long : a'.longFailures f = a.longFailures f
  shortRetryLimit : a'.shortRetryLimit = a.shortRetryLimit
  longRetryLimit : a'.longRetryLimit = a.longRetryLimit

namespace Agrees

theorem below (h : Agrees a a' f) (hbelow : a.Below f) : a'.Below f := by
  obtain ⟨hshort, hlong⟩ := hbelow
  constructor
  · rw [h.short, h.shortRetryLimit]
    exact hshort
  · rw [h.long, h.longRetryLimit]
    exact hlong

theorem exhausted (h : Agrees a a' f) : a'.Exhausted f ↔ a.Exhausted f := by
  unfold Exhausted
  rw [h.short, h.long, h.shortRetryLimit, h.longRetryLimit]

theorem counted (h : Agrees a a' f) (hcounted : a.Counted f)
    (hshort : a'.shortRetryCounter f.retryKey = a.shortRetryCounter f.retryKey)
    (hlong : a'.longRetryCounter f.retryKey = a.longRetryCounter f.retryKey) : a'.Counted f := by
  constructor
  · rw [hshort, h.short]
    exact hcounted.short
  · rw [hlong, h.long]
    exact hcounted.long

theorem retried (h : Agrees a a' f)
    (hretried : 0 < if a.isLong f then a.longFailures f else a.shortFailures f) :
    0 < if a'.isLong f then a'.longFailures f else a'.shortFailures f := by
  rw [h.isLong, h.short, h.long]
  exact hretried

theorem cons {r : Report} (hrts : r ≠ .rtsTransmissionFailed f) (hfailed : r ≠ .transmissionFailed f)
    (hlog : a'.log = r :: a.log) (hthreshold : a'.rtsThreshold = a.rtsThreshold)
    (hshort : a'.shortRetryLimit = a.shortRetryLimit) (hlong : a'.longRetryLimit = a.longRetryLimit) :
    Agrees a a' f := by
  have hisLong : a'.isLong f = a.isLong f := by
    unfold RetryAccount.isLong
    rw [hthreshold]
  refine ⟨hisLong, ?_, ?_, hshort, hlong⟩
  · unfold shortFailures
    rw [hisLong, hlog, List.count_cons_of_ne hrts, List.count_cons_of_ne hfailed]
  · unfold longFailures
    rw [hisLong, hlog, List.count_cons_of_ne hfailed]

end Agrees

theorem Balanced.report {r : Report} (h : a.Balanced) (hr : Silent r) (hid : r.frame.id < a.nextId) :
    Balanced { a with log := r :: a.log } := by
  have hagrees : ∀ f, ¬f.isManagement → Agrees a { a with log := r :: a.log } f := by
    intro f hdata
    obtain ⟨hrts, hfailed, -⟩ := hr f hdata
    exact .cons hrts hfailed rfl rfl rfl rfl
  refine ⟨fun r' hr' => ?_, fun f hf hdata => (hagrees f hdata).counted (h.counted f hf hdata) rfl rfl,
    fun f hf hdata => (hagrees f hdata).below (h.below f hf hdata), fun f hdata => ?_,
    fun f hf hdata hretry => (hagrees f hdata).retried (h.retried f hf hdata hretry), h.unretried,
    h.shortRetryLimit, h.longRetryLimit⟩
  · rcases List.mem_cons.mp hr' with rfl | hr'
    · exact hid
    · exact h.logged r' hr'
  · rw [List.mem_cons, or_iff_right (hr f hdata).2.2.symm, h.discarded f hdata]
    exact (hagrees f hdata).exhausted.symm

/-- All frames but one are accounted for, and that one has its own counters. -/
structure BalancedBut (a : RetryAccount) (f : Ieee80211DataOrMgmtFrame) : Prop where
  logged : ∀ r ∈ a.log, r.frame.id < a.nextId
  counted : ∀ g ∈ a.inProgressFrames, ¬g.isManagement → a.Counted g
  below : ∀ g ∈ a.inProgressFrames, g ≠ f → ¬g.isManagement → a.Below g
  discarded : ∀ g ≠ f, ¬g.isManagement → (.discarded g ∈ a.log ↔ a.Exhausted g)
  kept : .discarded f ∉ a.log
  retried : ∀ g ∈ a.inProgressFrames, ¬g.isManagement → a.retry g.id →
    0 < if a.isLong g then a.longFailures g else a.shortFailures g
  unretried : ∀ id, a.nextId ≤ id → a.retry id = false
  shortRetryLimit : 1 ≤ a.shortRetryLimit
  longRetryLimit : 1 ≤ a.longRetryLimit

def dataFailed (a : RetryAccount) (f : Ieee80211DataOrMgmtFrame) : RetryAccount :=
  if a.isLong f then
    { a with
      log := .transmissionFailed f :: a.log
      longRetryCounter := QoSRecoveryProcedure.incrementCounter f a.longRetryCounter }
  else
    { a with
      log := .transmissionFailed f :: a.log
      shortRetryCounter := QoSRecoveryProcedure.incrementCounter f a.shortRetryCounter }

def rtsFailed (a : RetryAccount) (f : Ieee80211DataOrMgmtFrame) : RetryAccount :=
  { a with
    log := .rtsTransmissionFailed f :: a.log
    shortRetryCounter := QoSRecoveryProcedure.incrementCounter f a.shortRetryCounter }

def discard (a : RetryAccount) (f : Ieee80211DataOrMgmtFrame) : RetryAccount :=
  let frames := a.inProgressFrames.filter (·.id ≠ f.id)
  if a.isLong f then
    { a with
      inProgressFrames := frames
      log := .discarded f :: a.log
      longRetryCounter := QoSRecoveryProcedure.erase f a.longRetryCounter }
  else
    { a with
      inProgressFrames := frames
      log := .discarded f :: a.log
      shortRetryCounter := QoSRecoveryProcedure.erase f a.shortRetryCounter }

theorem incrementCounter_of_ne {key : RetryKey} {counter : RetryCounter} (h : key ≠ f.retryKey) :
    QoSRecoveryProcedure.incrementCounter f counter key = counter key := by
  unfold QoSRecoveryProcedure.incrementCounter
  cases counter f.retryKey <;> exact Function.update_of_ne h _ _

theorem incrementCounter_counted {counter : RetryCounter} {n : ℕ}
    (h : counter f.retryKey = counted n) :
    QoSRecoveryProcedure.incrementCounter f counter f.retryKey = counted (n + 1) := by
  unfold QoSRecoveryProcedure.incrementCounter
  rw [h]
  unfold counted
  cases n with
  | zero | succ n => exact Function.update_self _ _ _

/-- The frame is the only one in progress with its retry key. -/
def Alone (a : RetryAccount) (f : Ieee80211DataOrMgmtFrame) : Prop :=
  ∀ g ∈ a.inProgressFrames, ¬g.isManagement → g.retryKey = f.retryKey → g = f

/-- A failure of a frame in progress is accounted for but in what follows from it. -/
theorem BalancedBut.of_failure {r : Report} (h : a.Balanced) (hf : f ∈ a.inProgressFrames)
    (hdata : ¬f.isManagement) (hid : f.id < a.nextId) (halone : a.Alone f)
    (hr : r = .rtsTransmissionFailed f ∨ r = .transmissionFailed f)
    (hframes : a'.inProgressFrames = a.inProgressFrames) (hnextId : a'.nextId = a.nextId)
    (hretry : a'.retry = a.retry) (hlog : a'.log = r :: a.log)
    (hthreshold : a'.rtsThreshold = a.rtsThreshold)
    (hshortLimit : a'.shortRetryLimit = a.shortRetryLimit)
    (hlongLimit : a'.longRetryLimit = a.longRetryLimit)
    (hcounters : ∀ key ≠ f.retryKey, a'.shortRetryCounter key = a.shortRetryCounter key ∧
      a'.longRetryCounter key = a.longRetryCounter key)
    (hcounted : a'.Counted f) : BalancedBut a' f := by
  have hagrees : ∀ g ≠ f, Agrees a a' g := by
    intro g hne
    refine .cons ?_ ?_ hlog hthreshold hshortLimit hlongLimit
    · rintro rfl
      rcases hr with hr | hr <;> cases hr
      exact hne rfl
    · rintro rfl
      rcases hr with hr | hr <;> cases hr
      exact hne rfl
  refine ⟨fun r' hr' => ?_, fun g hg hother => ?_, fun g hg hne hother => ?_, fun g hne hother => ?_,
    fun hmem => ?_, fun g hg hother hretried => ?_, fun id hid => ?_, ?_, ?_⟩
  · rw [hnextId]
    rw [hlog] at hr'
    rcases List.mem_cons.mp hr' with rfl | hr'
    · rcases hr with rfl | rfl <;> exact hid
    · exact h.logged r' hr'
  · rw [hframes] at hg
    by_cases hkey : g.retryKey = f.retryKey
    · rw [halone g hg hother hkey]
      exact hcounted
    · obtain ⟨hshort, hlong⟩ := hcounters _ hkey
      exact (hagrees g fun heq => hkey (by rw [heq])).counted (h.counted g hg hother) hshort hlong
  · rw [hframes] at hg
    exact (hagrees g hne).below (h.below g hg hother)
  · rw [hlog, List.mem_cons, (hagrees g hne).exhausted, h.discarded g hother]
    exact or_iff_right (by rcases hr with rfl | rfl <;> nofun)
  · rw [hlog, List.mem_cons] at hmem
    rcases hmem with hmem | hmem
    · rcases hr with rfl | rfl <;> cases hmem
    · exact (h.below f hf hdata).not_exhausted ((h.discarded f hdata).mp hmem)
  · rw [hframes] at hg
    rw [hretry] at hretried
    have hbefore := h.retried g hg hother hretried
    have hisLong : a'.isLong g = a.isLong g := by
      unfold isLong
      rw [hthreshold]
    have hfailed : a.log.count (.transmissionFailed g) ≤ a'.log.count (.transmissionFailed g) := by
      rw [hlog]
      exact List.count_le_count_cons
    have hrts : a.log.count (.rtsTransmissionFailed g) ≤ a'.log.count (.rtsTransmissionFailed g) := by
      rw [hlog]
      exact List.count_le_count_cons
    unfold shortFailures longFailures at hbefore ⊢
    rw [hisLong]
    cases hcase : a.isLong g <;> simp only [hcase, if_true, Bool.false_eq_true, if_false] at hbefore ⊢
    · omega
    · omega
  · rw [hnextId] at hid
    rw [hretry]
    exact h.unretried id hid
  · rw [hshortLimit]
    exact h.shortRetryLimit
  · rw [hlongLimit]
    exact h.longRetryLimit

theorem count_failed (f : Ieee80211DataOrMgmtFrame) (log : List Report) :
    (Report.transmissionFailed f :: log).count (.transmissionFailed f) =
        log.count (.transmissionFailed f) + 1 ∧
      (Report.transmissionFailed f :: log).count (.rtsTransmissionFailed f) =
        log.count (.rtsTransmissionFailed f) ∧
      (Report.rtsTransmissionFailed f :: log).count (.transmissionFailed f) =
        log.count (.transmissionFailed f) ∧
      (Report.rtsTransmissionFailed f :: log).count (.rtsTransmissionFailed f) =
        log.count (.rtsTransmissionFailed f) + 1 := by
  simp

theorem BalancedBut.of_dataFailed (h : a.Balanced) (hf : f ∈ a.inProgressFrames)
    (hdata : ¬f.isManagement) (hid : f.id < a.nextId) (halone : a.Alone f) :
    BalancedBut (a.dataFailed f) f := by
  obtain ⟨hshort, hlong⟩ := h.counted f hf hdata
  obtain ⟨hfailed, hrts, -, -⟩ := count_failed f a.log
  unfold shortFailures at hshort
  unfold longFailures at hlong
  unfold dataFailed
  split
  · next hisLong =>
    rw [if_pos hisLong] at hshort hlong
    refine .of_failure h hf hdata hid halone (.inr rfl) rfl rfl rfl rfl rfl rfl rfl
      (fun key hkey => ⟨rfl, incrementCounter_of_ne hkey⟩) ⟨?_, ?_⟩
    · refine hshort.trans (congrArg inet.ieee80211.counted ?_)
      change _ = _ + if a.isLong f then 0 else _
      rw [if_pos hisLong, hrts]
    · refine (incrementCounter_counted hlong).trans (congrArg inet.ieee80211.counted ?_)
      change _ = if a.isLong f then _ else 0
      rw [if_pos hisLong, hfailed]
  · next hisShort =>
    rw [if_neg hisShort] at hshort hlong
    refine .of_failure h hf hdata hid halone (.inr rfl) rfl rfl rfl rfl rfl rfl rfl
      (fun key hkey => ⟨incrementCounter_of_ne hkey, rfl⟩) ⟨?_, ?_⟩
    · refine (incrementCounter_counted hshort).trans (congrArg inet.ieee80211.counted ?_)
      change _ = _ + if a.isLong f then 0 else _
      rw [if_neg hisShort, hrts, hfailed]
      rfl
    · refine hlong.trans (congrArg inet.ieee80211.counted ?_)
      change _ = if a.isLong f then _ else 0
      rw [if_neg hisShort]

theorem BalancedBut.of_rtsFailed (h : a.Balanced) (hf : f ∈ a.inProgressFrames)
    (hdata : ¬f.isManagement) (hid : f.id < a.nextId) (halone : a.Alone f) :
    BalancedBut (a.rtsFailed f) f := by
  obtain ⟨hshort, hlong⟩ := h.counted f hf hdata
  obtain ⟨-, -, hfailed, hrts⟩ := count_failed f a.log
  unfold shortFailures at hshort
  unfold longFailures at hlong
  refine .of_failure h hf hdata hid halone (.inl rfl) rfl rfl rfl rfl rfl rfl rfl
    (fun key hkey => ⟨incrementCounter_of_ne hkey, rfl⟩) ⟨?_, ?_⟩
  · refine (incrementCounter_counted hshort).trans (congrArg inet.ieee80211.counted ?_)
    change _ = List.count _ (Report.rtsTransmissionFailed f :: a.log) +
      if a.isLong f then 0 else List.count _ (Report.rtsTransmissionFailed f :: a.log)
    rw [hrts, hfailed]
    omega
  · refine hlong.trans (congrArg inet.ieee80211.counted ?_)
    change _ = if a.isLong f then List.count _ (Report.rtsTransmissionFailed f :: a.log) else 0
    rw [hfailed]

theorem BalancedBut.balanced (h : a.BalancedBut f) (hbelow : a.Below f) : a.Balanced := by
  refine ⟨h.logged, h.counted, fun g hg hdata => ?_, fun g hdata => ?_, h.retried, h.unretried,
    h.shortRetryLimit, h.longRetryLimit⟩
  · by_cases hne : g = f
    · rw [hne]
      exact hbelow
    · exact h.below g hg hne hdata
  · by_cases hne : g = f
    · rw [hne]
      exact iff_of_false h.kept hbelow.not_exhausted
    · exact h.discarded g hne hdata

theorem discard_eq (a : RetryAccount) (f : Ieee80211DataOrMgmtFrame) : ∃ short long,
    a.discard f = { a with
      inProgressFrames := a.inProgressFrames.filter (·.id ≠ f.id)
      log := .discarded f :: a.log
      shortRetryCounter := short
      longRetryCounter := long } ∧
    ∀ key ≠ f.retryKey, short key = a.shortRetryCounter key ∧ long key = a.longRetryCounter key := by
  unfold discard
  split
  · exact ⟨_, _, rfl, fun key hkey => ⟨rfl, Function.update_of_ne hkey _ _⟩⟩
  · exact ⟨_, _, rfl, fun key hkey => ⟨Function.update_of_ne hkey _ _, rfl⟩⟩

theorem BalancedBut.discard (h : a.BalancedBut f) (hid : f.id < a.nextId) (halone : a.Alone f)
    (hexhausted : a.Exhausted f) : (a.discard f).Balanced := by
  obtain ⟨short, long, heq, hcounters⟩ := discard_eq a f
  rw [heq]
  have hagrees : ∀ g, Agrees a { a with
      inProgressFrames := a.inProgressFrames.filter (·.id ≠ f.id)
      log := .discarded f :: a.log
      shortRetryCounter := short
      longRetryCounter := long } g :=
    fun g => @Agrees.cons _ _ _ (.discarded f) nofun nofun rfl rfl rfl rfl
  have hmem : ∀ {g}, g ∈ a.inProgressFrames.filter (·.id ≠ f.id) → g ∈ a.inProgressFrames ∧ g ≠ f := by
    intro g hg
    obtain ⟨hg, hne⟩ := List.mem_filter.mp hg
    exact ⟨hg, fun heq => of_decide_eq_true hne (by rw [heq])⟩
  refine ⟨fun r hr => ?_, fun g hg hdata => ?_, fun g hg hdata => ?_, fun g hdata => ?_,
    fun g hg hdata hretry => (hagrees g).retried (h.retried g (hmem hg).1 hdata hretry), h.unretried,
    h.shortRetryLimit, h.longRetryLimit⟩
  · rcases List.mem_cons.mp hr with rfl | hr
    · exact hid
    · exact h.logged r hr
  · obtain ⟨hg, hne⟩ := hmem hg
    obtain ⟨hshort, hlong⟩ := hcounters g.retryKey fun hkey => hne (halone g hg hdata hkey)
    exact (hagrees g).counted (h.counted g hg hdata) hshort hlong
  · obtain ⟨hg, hne⟩ := hmem hg
    exact (hagrees g).below (h.below g hg hne hdata)
  · rw [(hagrees g).exhausted, List.mem_cons]
    by_cases hne : g = f
    · subst hne
      exact iff_of_true (.inl rfl) hexhausted
    · rw [← h.discarded g hne hdata]
      exact or_iff_right fun heq => hne (Report.discarded.inj heq)

theorem Balanced.shrink (h : a.Balanced) {frames : List Ieee80211DataOrMgmtFrame}
    {short long : RetryCounter} (hsub : frames ⊆ a.inProgressFrames)
    (hcounters : ∀ f ∈ frames, ¬f.isManagement → short f.retryKey = a.shortRetryCounter f.retryKey ∧
      long f.retryKey = a.longRetryCounter f.retryKey) :
    Balanced { a with
      inProgressFrames := frames
      shortRetryCounter := short
      longRetryCounter := long } :=
  ⟨h.logged, fun f hf hdata => ⟨(hcounters f hf hdata).1.trans (h.counted f (hsub hf) hdata).short,
    (hcounters f hf hdata).2.trans (h.counted f (hsub hf) hdata).long⟩,
    fun f hf hdata => ⟨(h.below f (hsub hf) hdata).short, (h.below f (hsub hf) hdata).long⟩,
    h.discarded, fun f hf => h.retried f (hsub hf), h.unretried, h.shortRetryLimit, h.longRetryLimit⟩

theorem Balanced.push (h : a.Balanced) (l : List Ieee80211DataOrMgmtFrame)
    (hunused : ∀ f ∈ l, ¬f.isManagement →
      a.shortRetryCounter f.retryKey = none ∧ a.longRetryCounter f.retryKey = none) :
    Balanced { a with
      inProgressFrames := a.inProgressFrames ++ numbered a.nextId l
      nextId := a.nextId + l.length } := by
  have hnew : ∀ {g}, g ∈ numbered a.nextId l → ¬g.isManagement →
      a.shortFailures g = 0 ∧ a.longFailures g = 0 ∧ a.shortRetryCounter g.retryKey = none ∧
        a.longRetryCounter g.retryKey = none ∧ a.retry g.id = false := by
    intro g hg hdata
    obtain ⟨hle, -, f, hf, heq⟩ := mem_numbered hg
    have hcount : ∀ r : Report, r.frame = g → a.log.count r = 0 := by
      intro r hr
      refine List.count_eq_zero.mpr fun hmem => ?_
      have hlt := h.logged r hmem
      rw [hr] at hlt
      omega
    obtain ⟨hshort, hlong⟩ := hunused f hf (by rw [heq] at hdata; exact hdata)
    have hkey : g.retryKey = f.retryKey := by
      rw [heq]
      rfl
    refine ⟨?_, ?_, by rw [hkey]; exact hshort, by rw [hkey]; exact hlong, h.unretried _ hle⟩
    · unfold shortFailures
      rw [hcount _ rfl, hcount _ rfl, ite_self]
    · unfold longFailures
      rw [hcount _ rfl, ite_self]
  refine ⟨fun r hr => (h.logged r hr).trans_le (Nat.le_add_right _ _), fun g hg hdata => ?_,
    fun g hg hdata => ?_, h.discarded, fun g hg hdata hretry => ?_,
    fun id hid => h.unretried id ((Nat.le_add_right _ _).trans hid), h.shortRetryLimit, h.longRetryLimit⟩
  · rcases List.mem_append.mp hg with hg | hg
    · obtain ⟨hshort, hlong⟩ := h.counted g hg hdata
      exact ⟨hshort, hlong⟩
    · obtain ⟨hshortZero, hlongZero, hshort, hlong, -⟩ := hnew hg hdata
      constructor
      · change _ = inet.ieee80211.counted (a.shortFailures g)
        rw [hshortZero]
        exact hshort
      · change _ = inet.ieee80211.counted (a.longFailures g)
        rw [hlongZero]
        exact hlong
  · rcases List.mem_append.mp hg with hg | hg
    · obtain ⟨hshort, hlong⟩ := h.below g hg hdata
      exact ⟨hshort, hlong⟩
    · obtain ⟨hshortZero, hlongZero, -⟩ := hnew hg hdata
      have hshort := h.shortRetryLimit
      have hlong := h.longRetryLimit
      constructor
      · change (a.shortFailures g : ℤ) < a.shortRetryLimit
        omega
      · change (a.longFailures g : ℤ) < a.longRetryLimit
        omega
  · rcases List.mem_append.mp hg with hg | hg
    · exact h.retried g hg hdata hretry
    · obtain ⟨-, -, -, -, hunretried⟩ := hnew hg hdata
      change a.retry g.id = true at hretry
      rw [hunretried] at hretry
      cases hretry

theorem Balanced.setRetry (h : a.Balanced) (hid : f.id < a.nextId)
    (hone : ∀ g ∈ a.inProgressFrames, g.id = f.id → g = f)
    (hfailed : ¬f.isManagement → 0 < if a.isLong f then a.longFailures f else a.shortFailures f) :
    Balanced { a with retry := Function.update a.retry f.id true } := by
  refine ⟨h.logged, fun g hg hdata => ⟨(h.counted g hg hdata).short, (h.counted g hg hdata).long⟩,
    fun g hg hdata => ⟨(h.below g hg hdata).short, (h.below g hg hdata).long⟩, h.discarded,
    fun g hg hdata hretry => ?_, fun id hle => ?_, h.shortRetryLimit, h.longRetryLimit⟩
  · by_cases heq : g.id = f.id
    · rw [hone g hg heq] at hdata ⊢
      exact hfailed hdata
    · change Function.update a.retry f.id true g.id = true at hretry
      rw [Function.update_of_ne heq] at hretry
      exact h.retried g hg hdata hretry
  · change Function.update a.retry f.id true id = false
    change a.nextId ≤ id at hle
    rw [Function.update_of_ne (by omega)]
    exact h.unretried id hle

theorem Balanced.reports (l : List Report) (h : a.Balanced)
    (hl : ∀ r ∈ l, Silent r ∧ r.frame.id < a.nextId) : Balanced { a with log := l ++ a.log } := by
  induction l with
  | nil => exact h
  | cons r l ih =>
    have hrest := ih fun r' hr' => hl r' (List.mem_cons_of_mem r hr')
    obtain ⟨hr, hid⟩ := hl r (.head _)
    exact hrest.report hr hid

theorem dataFailed_failures (a : RetryAccount) (f : Ieee80211DataOrMgmtFrame) :
    (a.dataFailed f).shortFailures f = a.shortFailures f + (if a.isLong f then 0 else 1) ∧
      (a.dataFailed f).longFailures f = a.longFailures f + (if a.isLong f then 1 else 0) := by
  obtain ⟨hfailed, hrts, -, -⟩ := count_failed f a.log
  have hlog : (a.dataFailed f).log = .transmissionFailed f :: a.log := by
    unfold dataFailed
    split <;> rfl
  have hisLong : (a.dataFailed f).isLong f = a.isLong f := by
    unfold dataFailed
    split <;> rfl
  unfold shortFailures longFailures
  rw [hlog, hisLong, hfailed, hrts]
  cases a.isLong f <;> simp [Nat.add_assoc]

theorem rtsFailed_failures (a : RetryAccount) (f : Ieee80211DataOrMgmtFrame) :
    (a.rtsFailed f).shortFailures f = a.shortFailures f + 1 ∧
      (a.rtsFailed f).longFailures f = a.longFailures f := by
  obtain ⟨-, -, hfailed, hrts⟩ := count_failed f a.log
  have hisLong : (a.rtsFailed f).isLong f = a.isLong f := rfl
  have hlog : (a.rtsFailed f).log = .rtsTransmissionFailed f :: a.log := rfl
  unfold shortFailures longFailures
  rw [hlog, hisLong, hfailed, hrts]
  exact ⟨by omega, rfl⟩

theorem dataFailed_limits (a : RetryAccount) (f : Ieee80211DataOrMgmtFrame) :
    (a.dataFailed f).shortRetryLimit = a.shortRetryLimit ∧
      (a.dataFailed f).longRetryLimit = a.longRetryLimit := by
  unfold dataFailed
  split <;> exact ⟨rfl, rfl⟩

theorem dataFailed_counters (a : RetryAccount) {key : RetryKey} (h : key ≠ f.retryKey) :
    (a.dataFailed f).shortRetryCounter key = a.shortRetryCounter key ∧
      (a.dataFailed f).longRetryCounter key = a.longRetryCounter key := by
  unfold dataFailed
  split
  · exact ⟨rfl, incrementCounter_of_ne h⟩
  · exact ⟨incrementCounter_of_ne h, rfl⟩

theorem eq_of_counted {n count : ℕ} (h : inet.ieee80211.counted n = some count) : count = n := by
  unfold inet.ieee80211.counted at h
  split at h
  · cases h
  · exact (Option.some.inj h).symm

end RetryAccount

theorem EdcaQueue.Initial.balanced {q : EdcaQueue} (h : q.Initial) : q.account.Balanced := by
  have hframes : q.account.inProgressFrames = [] := h.inProgressFrames
  have hlog : q.account.log = [] := h.log
  have hretry : q.account.retry = fun _ => false := h.retry
  have hshortLimit : 1 ≤ q.account.shortRetryLimit := h.shortRetryLimit
  have hlongLimit : 1 ≤ q.account.longRetryLimit := h.longRetryLimit
  refine ⟨?_, ?_, ?_, fun f _ => ?_, ?_, fun id _ => by rw [hretry], hshortLimit, hlongLimit⟩
  · rw [hlog]
    nofun
  · rw [hframes]
    nofun
  · rw [hframes]
    nofun
  · have hshort : q.account.shortFailures f = 0 := by simp [RetryAccount.shortFailures, hlog]
    have hlong : q.account.longFailures f = 0 := by simp [RetryAccount.longFailures, hlog]
    unfold RetryAccount.Exhausted
    rw [hlog, hshort, hlong]
    refine iff_of_false List.not_mem_nil ?_
    omega
  · rw [hframes]
    nofun

end inet.ieee80211

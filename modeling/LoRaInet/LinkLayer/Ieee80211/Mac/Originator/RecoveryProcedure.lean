import LoRaInet.LinkLayer.Ieee80211.Mac.Queue.InProgressFrames
import Mathlib.Data.Int.Order.Basic
import Mathlib.Tactic.Linarith

namespace inet.ieee80211

inductive AccessCategory where
  | AC_BK
  | AC_BE
  | AC_VI
  | AC_VO
  deriving DecidableEq

def AccessCategory.toNat : AccessCategory → ℕ
  | .AC_BK => 0
  | .AC_BE => 1
  | .AC_VI => 2
  | .AC_VO => 3

structure Edcaf where
  cw : ℤ
  cwMin : ℤ
  cwMax : ℤ
  isContentionInProgress : Bool

namespace Edcaf

variable (edcaf : Edcaf)

def incrementCw : Edcaf :=
  let newCw := 2 * edcaf.cw + 1
  { edcaf with cw := if newCw > edcaf.cwMax then edcaf.cwMax else newCw }

def resetCw : Edcaf := { edcaf with cw := edcaf.cwMin }

/-- The window lies between its bounds. -/
def InBounds : Prop := 0 ≤ edcaf.cwMin ∧ edcaf.cwMin ≤ edcaf.cw ∧ edcaf.cw ≤ edcaf.cwMax

variable {edcaf}

theorem InBounds.incrementCw (h : edcaf.InBounds) : edcaf.incrementCw.InBounds := by
  obtain ⟨hnonneg, hmin, hmax⟩ := h
  unfold InBounds Edcaf.incrementCw
  dsimp only
  split
  · exact ⟨hnonneg, hmin.trans hmax, le_refl _⟩
  · next hle => exact ⟨hnonneg, by linarith, not_lt.mp hle⟩

theorem InBounds.resetCw (h : edcaf.InBounds) : edcaf.resetCw.InBounds :=
  ⟨h.1, le_refl _, h.2.1.trans h.2.2⟩

end Edcaf

structure StationRetryCounters where
  stationShortRetryCount : ℤ
  stationLongRetryCount : ℤ

/-- A map of retry counters, in which a counter without an entry counts as 0. -/
abbrev NonQoSRetryCounter := Fin 4096 × ℕ → ℤ

/-- The procedure for management frames, with the counters of the station it is called with. -/
structure NonQoSRecoveryProcedure where
  shortRetryCounter : NonQoSRetryCounter
  longRetryCounter : NonQoSRetryCounter
  shortRetryLimit : ℤ
  longRetryLimit : ℤ
  rtsThreshold : ℤ

namespace NonQoSRecoveryProcedure

variable (r : NonQoSRecoveryProcedure)

def id (frame : Ieee80211DataOrMgmtFrame) : Fin 4096 × ℕ :=
  (frame.sequenceNumber, frame.fragmentNumber)

def isLong (frame : Ieee80211DataOrMgmtFrame) : Bool := r.rtsThreshold ≤ frame.byteLength

def incrementStationSrc (stationCounters : StationRetryCounters) (cwCalculator : Edcaf) :
    StationRetryCounters × Edcaf :=
  let stationCounters :=
    { stationCounters with
      stationShortRetryCount := stationCounters.stationShortRetryCount + 1 }
  (stationCounters,
    if stationCounters.stationShortRetryCount = r.shortRetryLimit then cwCalculator.resetCw
    else cwCalculator.incrementCw)

def incrementStationLrc (stationCounters : StationRetryCounters) (cwCalculator : Edcaf) :
    StationRetryCounters × Edcaf :=
  let stationCounters :=
    { stationCounters with
      stationLongRetryCount := stationCounters.stationLongRetryCount + 1 }
  (stationCounters,
    if stationCounters.stationLongRetryCount = r.longRetryLimit then cwCalculator.resetCw
    else cwCalculator.incrementCw)

def dataOrMgmtFrameTransmissionFailed (failedFrame : Ieee80211DataOrMgmtFrame)
    (stationCounters : StationRetryCounters) (cwCalculator : Edcaf) :
    NonQoSRecoveryProcedure × StationRetryCounters × Edcaf :=
  if r.isLong failedFrame then
    ({ r with
        longRetryCounter := Function.update r.longRetryCounter (id failedFrame)
          (r.longRetryCounter (id failedFrame) + 1) },
      r.incrementStationLrc stationCounters cwCalculator)
  else
    ({ r with
        shortRetryCounter := Function.update r.shortRetryCounter (id failedFrame)
          (r.shortRetryCounter (id failedFrame) + 1) },
      r.incrementStationSrc stationCounters cwCalculator)

def isRetryLimitReached (failedFrame : Ieee80211DataOrMgmtFrame) : Bool :=
  if r.isLong failedFrame then r.longRetryLimit ≤ r.longRetryCounter (id failedFrame)
  else r.shortRetryLimit ≤ r.shortRetryCounter (id failedFrame)

def retryLimitReached (frame : Ieee80211DataOrMgmtFrame) : NonQoSRecoveryProcedure :=
  if r.isLong frame then
    { r with longRetryCounter := Function.update r.longRetryCounter (id frame) 0 }
  else { r with shortRetryCounter := Function.update r.shortRetryCounter (id frame) 0 }

def ackFrameReceived (ackedFrame : Ieee80211DataOrMgmtFrame)
    (stationCounters : StationRetryCounters) (cwCalculator : Edcaf) :
    NonQoSRecoveryProcedure × StationRetryCounters × Edcaf :=
  if r.isLong ackedFrame then
    ({ r with longRetryCounter := Function.update r.longRetryCounter (id ackedFrame) 0 },
      { stationCounters with stationLongRetryCount := 0 }, cwCalculator.resetCw)
  else
    ({ r with shortRetryCounter := Function.update r.shortRetryCounter (id ackedFrame) 0 },
      { stationCounters with stationShortRetryCount := 0 }, cwCalculator.resetCw)

end NonQoSRecoveryProcedure

end inet.ieee80211

open omnetpp

namespace inet.ieee80211

/-- The key of a retry counter. The receiver is no part of it. -/
structure RetryKey where
  tid : Tid
  sequenceNumber : Fin 4096
  fragmentNumber : ℕ
  deriving DecidableEq

def Ieee80211DataOrMgmtFrame.retryKey (frame : Ieee80211DataOrMgmtFrame) : RetryKey :=
  ⟨frame.tid, frame.sequenceNumber, frame.fragmentNumber⟩

/-- A map of retry counters. -/
abbrev RetryCounter := RetryKey → Option ℕ

structure QoSRecoveryProcedure where
  cwCalculator : Edcaf
  shortRetryCounter : RetryCounter
  longRetryCounter : RetryCounter
  stationShortRetryCounter : ℤ
  stationLongRetryCounter : ℤ
  shortRetryLimit : ℤ
  longRetryLimit : ℤ
  rtsThreshold : ℤ

namespace QoSRecoveryProcedure

def incrementCounter (frame : Ieee80211DataOrMgmtFrame) (retryCounter : RetryCounter) :
    RetryCounter :=
  match retryCounter frame.retryKey with
  | some count => Function.update retryCounter frame.retryKey (some (count + 1))
  | none => Function.update retryCounter frame.retryKey (some 1)

def getRc (frame : Ieee80211DataOrMgmtFrame) (retryCounter : RetryCounter) : Except Fault ℕ :=
  match retryCounter frame.retryKey with
  | some count => .ok count
  | none => .error (.cRuntimeError "The retry counter entry doesn't exist for message id")

def erase (frame : Ieee80211DataOrMgmtFrame) (retryCounter : RetryCounter) : RetryCounter :=
  Function.update retryCounter frame.retryKey none

variable (r : QoSRecoveryProcedure)

def resetContentionWindow : QoSRecoveryProcedure :=
  { r with cwCalculator := r.cwCalculator.resetCw }

def incrementStationSrc : QoSRecoveryProcedure :=
  let r := { r with stationShortRetryCounter := r.stationShortRetryCounter + 1 }
  if r.stationShortRetryCounter = r.shortRetryLimit then r.resetContentionWindow
  else { r with cwCalculator := r.cwCalculator.incrementCw }

def incrementStationLrc : QoSRecoveryProcedure :=
  let r := { r with stationLongRetryCounter := r.stationLongRetryCounter + 1 }
  if r.stationLongRetryCounter = r.longRetryLimit then r.resetContentionWindow
  else { r with cwCalculator := r.cwCalculator.incrementCw }

def resetStationSrc : QoSRecoveryProcedure := { r with stationShortRetryCounter := 0 }

def resetStationLrc : QoSRecoveryProcedure := { r with stationLongRetryCounter := 0 }

def multicastFrameTransmitted : QoSRecoveryProcedure := r.resetStationLrc.resetStationSrc

def ctsFrameReceived : QoSRecoveryProcedure := r.resetStationSrc

def blockAckFrameReceived : QoSRecoveryProcedure := r.resetStationSrc

def isLong (frame : Ieee80211DataOrMgmtFrame) : Bool := r.rtsThreshold ≤ frame.byteLength

/-- Only the counter for frames of its length is erased. -/
def ackFrameReceived (ackedFrame : Ieee80211DataOrMgmtFrame) : QoSRecoveryProcedure :=
  if r.isLong ackedFrame then
    { r.resetStationLrc with
      longRetryCounter := erase ackedFrame r.longRetryCounter }.resetContentionWindow
  else
    { r.resetStationSrc with
      shortRetryCounter := erase ackedFrame r.shortRetryCounter }.resetContentionWindow

def retryLimitReached (frame : Ieee80211DataOrMgmtFrame) : QoSRecoveryProcedure :=
  if r.isLong frame then { r with longRetryCounter := erase frame r.longRetryCounter }
  else { r with shortRetryCounter := erase frame r.shortRetryCounter }

def dataFrameTransmissionFailed (failedFrame : Ieee80211DataOrMgmtFrame) : QoSRecoveryProcedure :=
  if r.isLong failedFrame then
    { r.incrementStationLrc with
      longRetryCounter := incrementCounter failedFrame r.longRetryCounter }
  else
    { r.incrementStationSrc with
      shortRetryCounter := incrementCounter failedFrame r.shortRetryCounter }

def rtsFrameTransmissionFailed (protectedFrame : Ieee80211DataOrMgmtFrame) : QoSRecoveryProcedure :=
  { r.incrementStationSrc with
    shortRetryCounter := incrementCounter protectedFrame r.shortRetryCounter }

def getRetryCount (frame : Ieee80211DataOrMgmtFrame) : Except Fault ℕ :=
  if r.isLong frame then getRc frame r.longRetryCounter else getRc frame r.shortRetryCounter

def isRetryLimitReached (failedFrame : Ieee80211DataOrMgmtFrame) : Except Fault Bool :=
  if r.isLong failedFrame then do
    let count ← getRc failedFrame r.longRetryCounter
    return r.longRetryLimit ≤ count
  else do
    let count ← getRc failedFrame r.shortRetryCounter
    return r.shortRetryLimit ≤ count

def isRtsFrameRetryLimitReached (protectedFrame : Ieee80211DataOrMgmtFrame) :
    Except Fault Bool := do
  let count ← getRc protectedFrame r.shortRetryCounter
  return r.shortRetryLimit ≤ count

end QoSRecoveryProcedure

end inet.ieee80211

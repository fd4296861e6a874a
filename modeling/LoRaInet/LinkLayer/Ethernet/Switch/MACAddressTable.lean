import LoRaInet.Container.Basic
import LoRaInet.Kernel.FutureEventSet
import LoRaInet.NetworkLayer.Common.InterfaceEntry

open omnetpp container

namespace inet

structure AddressEntry where
  vid : ℕ
  portno : Int
  insertionTime : SimTime
  deriving DecidableEq

abbrev AddressTable := Map MACAddress AddressEntry

/-- The table for VLAN 0 is only kept once: `addressTable` always points to it. -/
structure MACAddressTable where
  agingTime : SimTime
  lastPurge : SimTime := 0
  vlanAddressTable : Map ℕ AddressTable := (∅ : Map ℕ AddressTable).insert 0 ∅

namespace MACAddressTable

variable {s : MACAddressTable} {now : SimTime}

def getTableForVid (s : MACAddressTable) (vid : ℕ) : Option AddressTable := s.vlanAddressTable.lookup vid

/-- An entry that is as old as the aging time is not used any more. -/
def aged (s : MACAddressTable) (now : SimTime) (entry : AddressEntry) : Bool :=
  entry.insertionTime + s.agingTime ≤ now

def setTable (s : MACAddressTable) (vid : ℕ) (table : AddressTable) : MACAddressTable :=
  { s with vlanAddressTable := s.vlanAddressTable.insert vid table }

def getPortForAddress (s : MACAddressTable) (now : SimTime) (address : MACAddress) (vid : ℕ) :
    MACAddressTable × Int :=
  match s.getTableForVid vid with
  | none => (s, -1)
  | some table =>
    match table.lookup address with
    | none => (s, -1)
    | some entry => if s.aged now entry then (s.setTable vid (table.erase address), -1) else (s, entry.portno)

def removeAgedEntriesFromVlan (s : MACAddressTable) (now : SimTime) (vid : ℕ) : MACAddressTable :=
  match s.getTableForVid vid with
  | none => s
  | some table => s.setTable vid (Map.filter (fun _ entry => !s.aged now entry) table)

def removeAgedEntriesFromAllVlans (s : MACAddressTable) (now : SimTime) : MACAddressTable :=
  { s with vlanAddressTable := s.vlanAddressTable.mapValues (Map.filter fun _ entry => !s.aged now entry) }

def removeAgedEntriesIfNeeded (s : MACAddressTable) (now : SimTime) : MACAddressTable :=
  let s := if now ≥ s.lastPurge + 1 then s.removeAgedEntriesFromAllVlans now else s
  { s with lastPurge := now }

/-- Returns whether the address was known. The table of a VLAN is looked up again after the purge. -/
def updateTableWithAddress (s : MACAddressTable) (now : SimTime) (portno : Int) (address : MACAddress)
    (vid : ℕ) : MACAddressTable × Bool :=
  if address = MACAddress.BROADCAST_ADDRESS then (s, false)
  else
    let s := if (s.getTableForVid vid).isNone then s.setTable vid ∅ else s
    let table := (s.getTableForVid vid).getD ∅
    match table.lookup address with
    | none =>
      let s := s.removeAgedEntriesIfNeeded now
      let table := (s.getTableForVid vid).getD ∅
      (s.setTable vid (table.insert address ⟨vid, portno, now⟩), false)
    | some entry =>
      (s.setTable vid (table.insert address { entry with insertionTime := now, portno := portno }), true)

def flush (s : MACAddressTable) (portno : Int) : MACAddressTable :=
  { s with vlanAddressTable :=
      s.vlanAddressTable.mapValues (Map.filter fun _ entry => entry.portno ≠ portno) }

def copyTable (s : MACAddressTable) (portA portB : Int) : MACAddressTable :=
  { s with vlanAddressTable := s.vlanAddressTable.mapValues (Map.mapValues fun entry =>
      if entry.portno = portA then { entry with portno := portB } else entry) }

def clearTable (s : MACAddressTable) : MACAddressTable := { s with vlanAddressTable := ∅ }

section Find

variable {vid v : ℕ} {address a : MACAddress}

/-- The entry for an address in a VLAN. -/
def find (s : MACAddressTable) (vid : ℕ) (address : MACAddress) : Option AddressEntry :=
  (s.getTableForVid vid).bind (·.lookup address)

theorem find_setTable {table : AddressTable} :
    (s.setTable vid table).find v a = if v = vid then table.lookup a else s.find v a := by
  unfold find getTableForVid setTable
  rw [Map.lookup_insert_eq]
  by_cases hv : v = vid
  · rw [if_pos hv, if_pos hv, Option.bind_some]
  · rw [if_neg hv, if_neg hv]

theorem find_setTable_insert {entry : AddressEntry} :
    (s.setTable vid (((s.getTableForVid vid).getD ∅).insert address entry)).find v a =
      if v = vid ∧ a = address then some entry else s.find v a := by
  rw [find_setTable, Map.lookup_insert_eq]
  by_cases hv : v = vid
  · subst hv
    by_cases ha : a = address
    · rw [if_pos rfl, if_pos ha, if_pos ⟨rfl, ha⟩]
    · rw [if_pos rfl, if_neg ha, if_neg fun h => ha h.2, find]
      cases s.getTableForVid v with
      | none | some table => rfl
  · rw [if_neg hv, if_neg fun h => hv h.1]

theorem find_setTable_empty (h : s.getTableForVid vid = none) : (s.setTable vid ∅).find v a = s.find v a := by
  rw [find_setTable]
  by_cases hv : v = vid
  · subst hv
    rw [if_pos rfl, find, h]
    rfl
  · rw [if_neg hv]

theorem find_mapValues {f : AddressTable → AddressTable} {g : Option AddressEntry → Option AddressEntry}
    (hf : ∀ table, (f table).lookup a = g (table.lookup a)) (hg : g none = none) :
    find { s with vlanAddressTable := s.vlanAddressTable.mapValues f } v a = g (s.find v a) := by
  unfold find getTableForVid
  rw [Map.lookup_mapValues]
  cases s.vlanAddressTable.lookup v with
  | none => exact hg.symm
  | some table => exact hf table

@[simp] theorem find_flush {portno : Int} :
    (s.flush portno).find v a = (s.find v a).filter (·.portno ≠ portno) := by
  apply find_mapValues _ rfl
  intro table
  exact Map.lookup_filter _ table a

@[simp] theorem find_copyTable {portA portB : Int} : (s.copyTable portA portB).find v a =
    (s.find v a).map fun entry => if entry.portno = portA then { entry with portno := portB } else entry := by
  apply find_mapValues _ rfl
  intro table
  exact Map.lookup_mapValues _ table a

@[simp] theorem find_clearTable : s.clearTable.find v a = none := rfl

@[simp] theorem find_removeAgedEntriesFromAllVlans :
    (s.removeAgedEntriesFromAllVlans now).find v a = (s.find v a).filter (!s.aged now ·) := by
  apply find_mapValues _ rfl
  intro table
  exact Map.lookup_filter _ table a

theorem find_removeAgedEntriesFromVlan : (s.removeAgedEntriesFromVlan now vid).find v a =
    if v = vid then (s.find v a).filter (!s.aged now ·) else s.find v a := by
  unfold removeAgedEntriesFromVlan
  cases htable : s.getTableForVid vid with
  | none =>
    by_cases hv : v = vid
    · subst hv
      rw [if_pos rfl, find, htable]
      rfl
    · rw [if_neg hv]
  | some table =>
    rw [find_setTable, Map.lookup_filter]
    by_cases hv : v = vid
    · subst hv
      rw [if_pos rfl, if_pos rfl, find, htable]
      rfl
    · rw [if_neg hv, if_neg hv]

end Find

/-- Entries are only removed when they are aged. -/
structure Purges (s s' : MACAddressTable) (now : SimTime) : Prop where
  agingTime : s'.agingTime = s.agingTime
  find : ∀ v a, s'.find v a = s.find v a ∨ s'.find v a = none ∧ ∀ entry ∈ s.find v a, s.aged now entry = true

theorem Purges.of_filter {s' : MACAddressTable} (haging : s'.agingTime = s.agingTime)
    (h : ∀ v a, s'.find v a = s.find v a ∨ s'.find v a = (s.find v a).filter (!s.aged now ·)) :
    Purges s s' now := by
  refine ⟨haging, fun v a => ?_⟩
  rcases h v a with h | h
  · exact .inl h
  · rw [h]
    cases s.find v a with
    | none => exact .inl rfl
    | some entry =>
      cases haged : s.aged now entry with
      | true => exact .inr ⟨by simp [haged], by simpa using haged⟩
      | false => exact .inl (by simp [haged])

theorem purges_removeAgedEntriesFromAllVlans : Purges s (s.removeAgedEntriesFromAllVlans now) now :=
  .of_filter rfl fun _ _ => .inr find_removeAgedEntriesFromAllVlans

variable {vid : ℕ}

theorem purges_removeAgedEntriesFromVlan : Purges s (s.removeAgedEntriesFromVlan now vid) now := by
  refine .of_filter ?_ fun v a => ?_
  · unfold removeAgedEntriesFromVlan
    split <;> rfl
  · rw [find_removeAgedEntriesFromVlan]
    split
    · exact .inr rfl
    · exact .inl rfl

theorem purges_removeAgedEntriesIfNeeded : Purges s (s.removeAgedEntriesIfNeeded now) now := by
  unfold removeAgedEntriesIfNeeded
  split
  · exact ⟨rfl, purges_removeAgedEntriesFromAllVlans.find⟩
  · exact ⟨rfl, fun _ _ => .inl rfl⟩

variable {address : MACAddress}

theorem purges_getPortForAddress : Purges s (s.getPortForAddress now address vid).1 now := by
  have hrefl : Purges s s now := ⟨rfl, fun _ _ => .inl rfl⟩
  unfold getPortForAddress
  split
  · exact hrefl
  · next table htable =>
    split
    · exact hrefl
    · next entry hentry =>
      split
      · next haged =>
        refine ⟨rfl, fun v a => ?_⟩
        rw [find_setTable, Map.lookup_erase_eq]
        by_cases hv : v = vid
        · subst hv
          rw [if_pos rfl, find, htable, Option.bind_some]
          by_cases ha : a = address
          · subst ha
            rw [if_pos rfl, hentry]
            exact .inr ⟨rfl, by simpa using haged⟩
          · rw [if_neg ha]
            exact .inl rfl
        · rw [if_neg hv]
          exact .inl rfl
      · exact hrefl

theorem getPortForAddress_eq : (s.getPortForAddress now address vid).2 =
    ((s.find vid address).filter (!s.aged now ·)).elim (-1) (·.portno) := by
  unfold getPortForAddress find
  cases s.getTableForVid vid with
  | none => rfl
  | some table =>
    rw [Option.bind_some]
    cases htable : table.lookup address with
    | none => simp [htable]
    | some entry =>
      cases haged : s.aged now entry with
      | true | false => simp [htable, haged, Option.filter]

/-- An address that is learned gets its port and the time, and the other entries stay unless they are aged. -/
theorem updateTableWithAddress_spec {portno : Int}
    (haddress : address ≠ MACAddress.BROADCAST_ADDRESS) :
    ∃ purged entry, Purges s purged now ∧ entry.portno = portno ∧ entry.insertionTime = now ∧
      (s.updateTableWithAddress now portno address vid).1.agingTime = s.agingTime ∧
        ∀ v a, (s.updateTableWithAddress now portno address vid).1.find v a =
          if v = vid ∧ a = address then some entry else purged.find v a := by
  unfold updateTableWithAddress
  rw [if_neg haddress]
  have hcreated : ∃ created : MACAddressTable, (if (s.getTableForVid vid).isNone then s.setTable vid ∅ else s) =
      created ∧ created.agingTime = s.agingTime ∧ ∀ v a, created.find v a = s.find v a := by
    split
    · next hnone => exact ⟨_, rfl, rfl, fun v a => find_setTable_empty (by simpa using hnone)⟩
    · exact ⟨s, rfl, rfl, fun _ _ => rfl⟩
  obtain ⟨created, hcreated, haging, hfind⟩ := hcreated
  rw [hcreated]
  dsimp only
  split
  · obtain ⟨haging', hpurge⟩ := @purges_removeAgedEntriesIfNeeded created now
    refine ⟨created.removeAgedEntriesIfNeeded now, ⟨vid, portno, now⟩, ⟨haging'.trans haging, fun v a => ?_⟩,
      rfl, rfl, haging'.trans haging, fun v a => find_setTable_insert⟩
    rw [← hfind v a]
    simpa only [aged, haging] using hpurge v a
  · next entry hentry =>
    exact ⟨created, { entry with insertionTime := now, portno := portno }, ⟨haging, fun v a => .inl (hfind v a)⟩,
      rfl, rfl, haging, fun v a => find_setTable_insert⟩

section Remembers

/-- The port on which an address was learned in a VLAN, and the time. -/
abbrev Learned := ℕ → MACAddress → Option (Int × SimTime)

/-- The table has what was learned, unless it is aged. -/
def Remembers (s : MACAddressTable) (learned : Learned) (now : SimTime) : Prop := ∀ v a,
  (∃ entry, s.find v a = some entry ∧ learned v a = some (entry.portno, entry.insertionTime)) ∨
    s.find v a = none ∧ ∀ l ∈ learned v a, l.2 + s.agingTime ≤ now

/-- The port of an address that was learned less than the aging time ago. -/
def portOf (agingTime : SimTime) (now : SimTime) (l : Option (Int × SimTime)) : Int :=
  (l.filter fun l => now < l.2 + agingTime).elim (-1) (·.1)

variable {learned : Learned} {s' : MACAddressTable} {now' : SimTime}

theorem Remembers.later (h : Remembers s learned now) (hle : now ≤ now') : Remembers s learned now' := by
  intro v a
  rcases h v a with h | ⟨hnone, haged⟩
  · exact .inl h
  · exact .inr ⟨hnone, fun l hl => (haged l hl).trans hle⟩

theorem Remembers.purges (h : Remembers s learned now) (hpurges : Purges s s' now) : Remembers s' learned now := by
  intro v a
  rw [hpurges.agingTime]
  rcases hpurges.find v a with hfind | ⟨hnone, haged⟩
  · rw [hfind]
    exact h v a
  · refine .inr ⟨hnone, ?_⟩
    rcases h v a with ⟨entry, hentry, hlearned⟩ | ⟨-, hold⟩
    · rw [hlearned]
      rintro l hl
      cases hl
      exact of_decide_eq_true (haged entry hentry)
    · exact hold

theorem Remembers.flush (h : Remembers s learned now) (portno : Int) :
    Remembers (s.flush portno) (fun v a => (learned v a).filter (·.1 ≠ portno)) now := by
  intro v a
  dsimp only
  rw [find_flush]
  rcases h v a with ⟨entry, hentry, hlearned⟩ | ⟨hnone, haged⟩
  · rw [hentry, hlearned]
    by_cases hport : entry.portno = portno
    · exact .inr ⟨by simp [hport], by simp [hport]⟩
    · exact .inl ⟨entry, by simp [hport], by simp [hport]⟩
  · rw [hnone]
    exact .inr ⟨rfl, fun l hl => haged l (Option.mem_filter_iff.mp hl).1⟩

theorem Remembers.copyTable (h : Remembers s learned now) (portA portB : Int) :
    Remembers (s.copyTable portA portB)
      (fun v a => (learned v a).map fun l => (if l.1 = portA then portB else l.1, l.2)) now := by
  intro v a
  dsimp only
  rw [find_copyTable]
  rcases h v a with ⟨entry, hentry, hlearned⟩ | ⟨hnone, haged⟩
  · rw [hentry, hlearned]
    refine .inl ⟨_, rfl, ?_⟩
    by_cases hport : entry.portno = portA
    · simp [hport]
    · simp [hport]
  · rw [hnone]
    refine .inr ⟨rfl, fun l hl => ?_⟩
    obtain ⟨l', hl', rfl⟩ := Option.map_eq_some_iff.mp hl
    exact haged l' hl'

theorem remembers_clearTable : Remembers s.clearTable (fun _ _ => none) now :=
  fun _ _ => .inr ⟨rfl, nofun⟩

theorem Remembers.updateTableWithAddress (h : Remembers s learned now) {portno : Int} {address : MACAddress}
    {vid : ℕ} (haddress : address ≠ MACAddress.BROADCAST_ADDRESS) :
    Remembers (s.updateTableWithAddress now portno address vid).1
      (fun v a => if v = vid ∧ a = address then some (portno, now) else learned v a) now := by
  obtain ⟨purged, entry, hpurges, hportno, htime, haging, hfind⟩ :=
    @updateTableWithAddress_spec s now vid address portno haddress
  intro v a
  dsimp only
  rw [hfind, haging]
  by_cases hkey : v = vid ∧ a = address
  · rw [if_pos hkey, if_pos hkey]
    exact .inl ⟨entry, rfl, by rw [hportno, htime]⟩
  · rw [if_neg hkey, if_neg hkey, ← hpurges.agingTime]
    exact h.purges hpurges v a

theorem Remembers.getPortForAddress (h : Remembers s learned now) {vid : ℕ} {address : MACAddress} :
    (s.getPortForAddress now address vid).2 = portOf s.agingTime now (learned vid address) := by
  rw [getPortForAddress_eq, portOf]
  rcases h vid address with ⟨entry, hentry, hlearned⟩ | ⟨hnone, haged⟩
  · rw [hentry, hlearned]
    by_cases hold : entry.insertionTime + s.agingTime ≤ now
    · simp [aged, hold, not_lt.mpr hold, Option.filter]
    · simp [aged, hold, not_le.mp hold, Option.filter]
  · have hfilter : (learned vid address).filter (fun l => now < l.2 + s.agingTime) = none := by
      rw [Option.filter_eq_none_iff]
      intro l hl
      simpa using haged l hl
    rw [hnone, hfilter]
    rfl

end Remembers

end MACAddressTable

end inet

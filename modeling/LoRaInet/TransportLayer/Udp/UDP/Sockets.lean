import LoRaInet.Kernel.Assert
import LoRaInet.TransportLayer.Udp.UDP

open omnetpp container

namespace inet.UDP

variable {s s' : UDP} {sd old : SockDesc} {sockId port localPort gateIndex : ℤ} {localAddr : L3Address}

/-- The ids of the list of a port. -/
def idsAt (s : UDP) (port : ℤ) : List ℤ := (s.socketsByPortMap.lookup port).getD []

/-- Both maps hold the same sockets, each under its port, and no list is empty. A flag stands for no
more than the port being set. -/
structure Consistent (s : UDP) : Prop where
  id : ∀ sockId, ∀ sd ∈ s.socketsByIdMap.lookup sockId, sd.sockId = sockId
  listed : ∀ port sockId,
    sockId ∈ s.idsAt port ↔ ∃ sd ∈ s.socketsByIdMap.lookup sockId, sd.localPort = port
  nodup : ∀ port, (s.idsAt port).Nodup
  nonempty : ∀ port, s.socketsByPortMap.lookup port ≠ some []
  flag : ∀ sockId, ∀ sd ∈ s.socketsByIdMap.lookup sockId, sd.onlyLocalPortIsSet →
    sd.localAddr.isUnspecified ∧ sd.remoteAddr.isUnspecified ∧ sd.remotePort = -1
  start : EPHEMERAL_PORTRANGE_START ≤ s.lastEphemeralPort
  «end» : s.lastEphemeralPort < EPHEMERAL_PORTRANGE_END

/-- The flag of a socket stands for no more than its port being set. -/
def Flagged (sd : SockDesc) : Prop :=
  sd.onlyLocalPortIsSet → sd.localAddr.isUnspecified ∧ sd.remoteAddr.isUnspecified ∧ sd.remotePort = -1

theorem consistent_initial : Consistent initial := by
  have hid : ∀ sockId, initial.socketsByIdMap.lookup sockId = none := AList.lookup_empty
  have hport : ∀ port, initial.socketsByPortMap.lookup port = none := AList.lookup_empty
  have hids : ∀ port, initial.idsAt port = [] := by
    intro port
    unfold idsAt
    rw [hport]
    rfl
  refine ⟨fun sockId sd hsd => ?_, fun port sockId => ?_, fun port => ?_, fun port => ?_,
    fun sockId sd hsd => ?_, le_refl _, by decide⟩
  · rw [hid] at hsd
    cases hsd
  · rw [hids, hid]
    exact iff_of_false List.not_mem_nil nofun
  · rw [hids]
    exact List.nodup_nil
  · rw [hport]
    nofun
  · rw [hid] at hsd
    cases hsd

theorem idsAt_pushSocket (s : UDP) (port port' sockId : ℤ) :
    (s.pushSocket port sockId).idsAt port' =
      if port' = port then s.idsAt port ++ [sockId] else s.idsAt port' := by
  unfold idsAt pushSocket
  rw [Map.lookup_insert_eq]
  split <;> rfl

theorem idsAt_removeSocket (s : UDP) (port port' sockId : ℤ) :
    (s.removeSocket port sockId).idsAt port' =
      if port' = port then (s.idsAt port).filter (· ≠ sockId) else s.idsAt port' := by
  unfold idsAt removeSocket
  rw [Map.lookup_insert_eq]
  split <;> rfl

theorem lookup_setSocket (s : UDP) (sd : SockDesc) (sockId : ℤ) :
    (s.setSocket sd).socketsByIdMap.lookup sockId =
      if sockId = sd.sockId then some sd else s.socketsByIdMap.lookup sockId :=
  Map.lookup_insert_eq _ _ _ _

namespace Consistent

theorem setSocket (h : Consistent s) (hold : old ∈ s.socketsByIdMap.lookup sd.sockId)
    (hport : sd.localPort = old.localPort) (hflag : Flagged sd) : Consistent (s.setSocket sd) := by
  refine ⟨fun sockId sd' hsd' => ?_, fun port sockId => ?_, h.nodup, h.nonempty,
    fun sockId sd' hsd' => ?_, h.start, h.end⟩
  · rw [lookup_setSocket] at hsd'
    split at hsd'
    · next heq => rw [← Option.some.inj hsd', heq]
    · exact h.id sockId sd' hsd'
  · change sockId ∈ s.idsAt port ↔ _
    rw [h.listed, lookup_setSocket]
    split
    · next heq =>
      rw [heq, Option.mem_def.mp hold]
      simp [hport]
    · rfl
  · rw [lookup_setSocket] at hsd'
    split at hsd'
    · rw [← Option.some.inj hsd']
      exact hflag
    · exact h.flag sockId sd' hsd'

theorem create (h : Consistent s) (hnew : s.socketsByIdMap.lookup sd.sockId = none)
    (hflag : Flagged sd) : Consistent ((s.setSocket sd).pushSocket sd.localPort sd.sockId) := by
  have hids : ∀ port, (s.setSocket sd).idsAt port = s.idsAt port := fun _ => rfl
  have hnotMem : ∀ port, sd.sockId ∉ s.idsAt port := by
    intro port hmem
    obtain ⟨sd', hsd', -⟩ := (h.listed port sd.sockId).mp hmem
    rw [hnew] at hsd'
    cases hsd'
  have hlookup : ∀ sockId, ((s.setSocket sd).pushSocket sd.localPort sd.sockId).socketsByIdMap.lookup
      sockId = if sockId = sd.sockId then some sd else s.socketsByIdMap.lookup sockId :=
    lookup_setSocket s sd
  refine ⟨fun sockId sd' hsd' => ?_, fun port sockId => ?_, fun port => ?_, fun port => ?_,
    fun sockId sd' hsd' => ?_, h.start, h.end⟩
  · rw [hlookup] at hsd'
    split at hsd'
    · next heq => rw [← Option.some.inj hsd', heq]
    · exact h.id sockId sd' hsd'
  · rw [idsAt_pushSocket, hids, hids, hlookup]
    by_cases hid : sockId = sd.sockId
    · subst hid
      rw [if_pos rfl]
      split
      · next heq => simp [heq]
      · next hne => simp [hnotMem port, Ne.symm hne]
    · rw [if_neg hid, ← h.listed]
      split
      · next heq => simp [heq, hid]
      · rfl
  · rw [idsAt_pushSocket, hids, hids]
    split
    · refine List.nodup_append'.mpr ⟨h.nodup _, List.nodup_singleton _, ?_⟩
      rw [List.disjoint_singleton]
      exact hnotMem _
    · exact h.nodup port
  · unfold pushSocket
    rw [Map.lookup_insert_eq]
    split
    · simp
    · exact h.nonempty port
  · rw [hlookup] at hsd'
    split at hsd'
    · rw [← Option.some.inj hsd']
      exact hflag
    · exact h.flag sockId sd' hsd'

end Consistent

theorem close_eq_ok (h : s.close sockId = .ok s') : ∃ sd ∈ s.socketsByIdMap.lookup sockId,
    s'.socketsByIdMap = s.socketsByIdMap.erase sockId ∧ s'.lastEphemeralPort = s.lastEphemeralPort ∧
    ∀ port, s'.socketsByPortMap.lookup port = if port = sd.localPort then
        if (s.idsAt port).erase sockId = [] then none else some ((s.idsAt port).erase sockId)
      else s.socketsByPortMap.lookup port := by
  unfold UDP.close at h
  split at h
  · cases h
  · next sd hsd =>
    cases h
    refine ⟨sd, hsd, rfl, rfl, fun port => ?_⟩
    change (if ((s.idsAt sd.localPort).erase sockId).isEmpty then s.socketsByPortMap.erase sd.localPort
      else s.socketsByPortMap.insert sd.localPort ((s.idsAt sd.localPort).erase sockId)).lookup port = _
    split
    · next hempty =>
      rw [Map.lookup_erase_eq]
      split
      · next heq => rw [heq, if_pos (List.isEmpty_iff.mp hempty)]
      · rfl
    · next hmore =>
      rw [Map.lookup_insert_eq]
      split
      · next heq => rw [heq, if_neg fun hempty => hmore (List.isEmpty_iff.mpr hempty)]
      · rfl

theorem Consistent.close (h : Consistent s) (hclose : s.close sockId = .ok s') : Consistent s' := by
  obtain ⟨sd, hsd, hid, hlast, hport⟩ := close_eq_ok hclose
  have hids : ∀ port, s'.idsAt port =
      if port = sd.localPort then (s.idsAt port).erase sockId else s.idsAt port := by
    intro port
    unfold UDP.idsAt at hport ⊢
    rw [hport]
    split
    · split
      · next hempty => rw [hempty]; rfl
      · rfl
    · rfl
  have hlookup : ∀ id, s'.socketsByIdMap.lookup id =
      if id = sockId then none else s.socketsByIdMap.lookup id := by
    intro id
    rw [hid, Map.lookup_erase_eq]
  refine ⟨fun id sd' hsd' => ?_, fun port id => ?_, fun port => ?_, fun port => ?_,
    fun id sd' hsd' => ?_, hlast ▸ h.start, hlast ▸ h.end⟩
  · rw [hlookup] at hsd'
    split at hsd'
    · cases hsd'
    · exact h.id id sd' hsd'
  · rw [hids, hlookup]
    split
    · next heq =>
      rw [(h.nodup port).mem_erase_iff, h.listed]
      split
      · next hclosed => simp [hclosed]
      · next hother => exact and_iff_right hother
    · next hne =>
      split
      · next hclosed =>
        rw [h.listed, hclosed, Option.mem_def.mp hsd]
        simp [Ne.symm hne]
      · exact h.listed port id
  · rw [hids]
    split
    · exact (h.nodup port).erase _
    · exact h.nodup port
  · rw [hport]
    split
    · split
      · nofun
      · next hne => exact fun heq => hne (Option.some.inj heq)
    · exact h.nonempty port
  · rw [hlookup] at hsd'
    split at hsd'
    · cases hsd'
    · exact h.flag id sd' hsd'

/-- A socket moves to another port, and does not leave its old one without sockets. -/
theorem Consistent.move (h : Consistent s) (hold : old ∈ s.socketsByIdMap.lookup sd.sockId)
    (hport : old.localPort ≠ sd.localPort) (hother : ∃ id ∈ s.idsAt old.localPort, id ≠ sd.sockId)
    (hflag : Flagged sd) :
    Consistent (((s.removeSocket old.localPort sd.sockId).setSocket sd).pushSocket
      sd.localPort sd.sockId) := by
  have hids : ∀ port, (((s.removeSocket old.localPort sd.sockId).setSocket sd).pushSocket
      sd.localPort sd.sockId).idsAt port =
      if port = sd.localPort then s.idsAt sd.localPort ++ [sd.sockId]
      else if port = old.localPort then (s.idsAt port).filter (· ≠ sd.sockId)
      else s.idsAt port := by
    intro port
    have hset : ∀ port, ((s.removeSocket old.localPort sd.sockId).setSocket sd).idsAt port =
        (s.removeSocket old.localPort sd.sockId).idsAt port := fun _ => rfl
    rw [idsAt_pushSocket, hset, hset, idsAt_removeSocket, idsAt_removeSocket, if_neg (Ne.symm hport)]
    split
    · rfl
    · split
      · next heq => rw [heq]
      · rfl
  have hlookup : ∀ id, (((s.removeSocket old.localPort sd.sockId).setSocket sd).pushSocket
      sd.localPort sd.sockId).socketsByIdMap.lookup id =
      if id = sd.sockId then some sd else s.socketsByIdMap.lookup id :=
    lookup_setSocket (s.removeSocket old.localPort sd.sockId) sd
  have hnotMem : sd.sockId ∉ s.idsAt sd.localPort := by
    rw [h.listed, Option.mem_def.mp hold]
    simp [hport]
  refine ⟨fun id sd' hsd' => ?_, fun port id => ?_, fun port => ?_, fun port => ?_,
    fun id sd' hsd' => ?_, h.start, h.end⟩
  · rw [hlookup] at hsd'
    split at hsd'
    · next heq => rw [← Option.some.inj hsd', heq]
    · exact h.id id sd' hsd'
  · rw [hids, hlookup]
    by_cases hid : id = sd.sockId
    · subst hid
      rw [if_pos rfl]
      by_cases hnew : port = sd.localPort
      · simp [hnew]
      · rw [if_neg hnew]
        refine iff_of_false ?_ (by simp [Ne.symm hnew])
        split
        · simp
        · next hne =>
          rw [h.listed, Option.mem_def.mp hold]
          simp [Ne.symm hne]
    · rw [if_neg hid, ← h.listed]
      split
      · next heq => simp [heq, hid]
      · split
        · simp [hid]
        · rfl
  · rw [hids]
    split
    · refine List.nodup_append'.mpr ⟨h.nodup _, List.nodup_singleton _, ?_⟩
      rw [List.disjoint_singleton]
      exact hnotMem
    · split
      · exact (h.nodup port).filter _
      · exact h.nodup port
  · unfold UDP.pushSocket UDP.removeSocket UDP.setSocket
    rw [Map.lookup_insert_eq]
    split
    · simp
    · rw [Map.lookup_insert_eq]
      split
      · obtain ⟨id, hmem, hne⟩ := hother
        intro heq
        have hfiltered : id ∈ (s.idsAt old.localPort).filter (· ≠ sd.sockId) :=
          List.mem_filter.mpr ⟨hmem, by simpa using hne⟩
        unfold UDP.idsAt at hfiltered
        rw [Option.some.inj heq] at hfiltered
        cases hfiltered
      · exact h.nonempty port
  · rw [hlookup] at hsd'
    split at hsd'
    · rw [← Option.some.inj hsd']
      exact hflag
    · exact h.flag id sd' hsd'

end inet.UDP

namespace inet.UDP

variable {s s' : UDP} {port searchUntil rounds : ℕ}

def InEphemeralRange (port : ℕ) : Prop :=
  EPHEMERAL_PORTRANGE_START ≤ port ∧ port < EPHEMERAL_PORTRANGE_END

/-- The search comes from `port` to `p` before it is back at `searchUntil`. -/
def Ahead (searchUntil port p : ℕ) : Prop :=
  InEphemeralRange p ∧ (port ≤ searchUntil ∧ port ≤ p ∧ p ≤ searchUntil ∨
    searchUntil < port ∧ (port ≤ p ∨ p ≤ searchUntil))

def roundsAhead (searchUntil port : ℕ) : ℕ :=
  if port ≤ searchUntil then searchUntil - port + 1
  else EPHEMERAL_PORTRANGE_END - port + (searchUntil - EPHEMERAL_PORTRANGE_START + 1)

theorem nextPort_inEphemeralRange (h : InEphemeralRange port) : InEphemeralRange (nextPort port) := by
  unfold InEphemeralRange nextPort EPHEMERAL_PORTRANGE_START EPHEMERAL_PORTRANGE_END at *
  split <;> omega

theorem ahead_nextPort {p : ℕ} (huntil : InEphemeralRange searchUntil) (hport : InEphemeralRange port)
    (h : Ahead searchUntil port p) (hother : p ≠ port) :
    Ahead searchUntil (nextPort port) p := by
  unfold Ahead InEphemeralRange nextPort EPHEMERAL_PORTRANGE_START EPHEMERAL_PORTRANGE_END at *
  split <;> omega

theorem roundsAhead_nextPort (huntil : InEphemeralRange searchUntil) (hport : InEphemeralRange port)
    (hne : port ≠ searchUntil) :
    roundsAhead searchUntil (nextPort port) + 1 = roundsAhead searchUntil port := by
  unfold roundsAhead InEphemeralRange nextPort EPHEMERAL_PORTRANGE_START
    EPHEMERAL_PORTRANGE_END at *
  split <;> split <;> split <;> omega

/-- Every port is ahead when the search starts behind the last one. -/
theorem ahead_start {p : ℕ} (huntil : InEphemeralRange searchUntil) (hp : InEphemeralRange p) :
    Ahead searchUntil (nextPort searchUntil) p := by
  unfold Ahead InEphemeralRange nextPort EPHEMERAL_PORTRANGE_START EPHEMERAL_PORTRANGE_END at *
  split <;> omega

theorem roundsAhead_start (huntil : InEphemeralRange searchUntil) :
    roundsAhead searchUntil (nextPort searchUntil) =
      EPHEMERAL_PORTRANGE_END - EPHEMERAL_PORTRANGE_START := by
  unfold roundsAhead InEphemeralRange nextPort EPHEMERAL_PORTRANGE_START
    EPHEMERAL_PORTRANGE_END at *
  split <;> split <;> omega

/-- The search finds a port that is not in use, if there is one ahead. -/
theorem searchPort_cases (huntil : InEphemeralRange searchUntil) :
    ∀ {rounds port : ℕ}, InEphemeralRange port → roundsAhead searchUntil port ≤ rounds →
      (∃ p, s.searchPort searchUntil rounds port = .ok p ∧ InEphemeralRange p ∧
        s.portInUse p = false) ∨
      (∃ fault, s.searchPort searchUntil rounds port = .error fault) ∧
        ∀ p, Ahead searchUntil port p → s.portInUse p = true := by
  intro rounds
  induction rounds with
  | zero =>
    intro port hport hrounds
    unfold roundsAhead at hrounds
    split at hrounds
    · omega
    · have hlt : port < EPHEMERAL_PORTRANGE_END := hport.2
      omega
  | succ rounds ih =>
    intro port hport hrounds
    unfold searchPort
    cases hused : s.portInUse port with
    | false => exact .inl ⟨port, by simp, hport, hused⟩
    | true =>
      by_cases hback : port = searchUntil
      · subst hback
        refine .inr ⟨⟨_, by rw [if_pos rfl, if_pos rfl]⟩, fun p hp => ?_⟩
        obtain rfl : p = port := by
          obtain ⟨-, hp⟩ := hp
          omega
        exact hused
      · have hstep := roundsAhead_nextPort huntil hport hback
        simp only [if_true, if_neg hback]
        rcases ih (nextPort_inEphemeralRange hport) (by omega) with hfound | ⟨hfault, hall⟩
        · exact .inl hfound
        · refine .inr ⟨hfault, fun p hp => ?_⟩
          by_cases hhere : p = port
          · rw [hhere]
            exact hused
          · exact hall p (ahead_nextPort huntil hport hp hhere)

/-- No socket has the port. -/
def Unused (s : UDP) (port : ℤ) : Prop :=
  ∀ sockId, ∀ sd ∈ s.socketsByIdMap.lookup sockId, sd.localPort ≠ port

theorem Consistent.portInUse_iff (h : Consistent s) :
    s.portInUse port = true ↔ ¬ s.Unused port := by
  unfold portInUse Unused
  constructor
  · intro hsome hunused
    obtain ⟨list, hlist⟩ := Option.isSome_iff_exists.mp hsome
    cases list with
    | nil => exact h.nonempty _ hlist
    | cons id list =>
      have hmem : id ∈ s.idsAt port := by
        unfold idsAt
        rw [hlist]
        exact (.head _)
      obtain ⟨sd, hsd, hport⟩ := (h.listed port id).mp hmem
      exact hunused id sd hsd hport
  · intro hused
    push Not at hused
    obtain ⟨id, sd, hsd, hport⟩ := hused
    have hmem := (h.listed port id).mpr ⟨sd, hsd, hport⟩
    unfold idsAt at hmem
    cases hlist : s.socketsByPortMap.lookup (port : ℤ) with
    | none =>
      rw [hlist] at hmem
      cases hmem
    | some list => rfl

/-- A port that is returned is in the range and used by no socket; there is none only if every port of
the range is used. -/
theorem Consistent.getEphemeralPort_cases (h : Consistent s) :
    (∃ port, s.getEphemeralPort = .ok (port, { s with lastEphemeralPort := port }) ∧
      InEphemeralRange port ∧ s.Unused port) ∨
    (∃ fault, s.getEphemeralPort = .error fault) ∧ ∀ port, InEphemeralRange port → ¬ s.Unused port := by
  have huntil : InEphemeralRange s.lastEphemeralPort := ⟨h.start, h.end⟩
  have hsearch := searchPort_cases (s := s) huntil (nextPort_inEphemeralRange huntil)
    (roundsAhead_start huntil).le
  unfold getEphemeralPort
  rcases hsearch with ⟨port, hport, hrange, hfree⟩ | ⟨⟨fault, hfault⟩, hall⟩
  · refine .inl ⟨port, ?_, hrange, ?_⟩
    · rw [hport]
      rfl
    · by_contra hused
      rw [h.portInUse_iff.mpr hused] at hfree
      cases hfree
  · refine .inr ⟨⟨fault, ?_⟩, fun port hport => ?_⟩
    · rw [hfault]
      rfl
    · exact h.portInUse_iff.mp (hall port (ahead_start huntil hport))

theorem Consistent.getEphemeralPort (h : Consistent s) :
    Yields s.getEphemeralPort fun r => Consistent r.2 ∧ r.2.socketsByIdMap = s.socketsByIdMap := by
  intro r hr
  rcases h.getEphemeralPort_cases with ⟨port, hport, hrange, -⟩ | ⟨⟨fault, hfault⟩, -⟩
  · obtain rfl := Except.ok.inj (hport.symm.trans hr)
    exact ⟨⟨h.id, h.listed, h.nodup, h.nonempty, h.flag, hrange.1, hrange.2⟩, rfl⟩
  · rw [hfault] at hr
    cases hr

end inet.UDP

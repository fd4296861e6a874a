import LoRaInet.TransportLayer.Udp.UDP.Sockets

open omnetpp container transition

namespace inet.UDP

variable {s s' : UDP} {sd : SockDesc} {sockId localPort gateIndex : ℤ} {localAddr : L3Address}

/-- A socket that the tables hold. -/
structure Holds (s : UDP) (sockId : ℤ) (sd : SockDesc) : Prop where
  consistent : Consistent s
  found : sd ∈ s.socketsByIdMap.lookup sockId

namespace Holds

theorem sockId_eq (h : Holds s sockId sd) : sd.sockId = sockId := h.consistent.id sockId sd h.found

theorem flagged (h : Holds s sockId sd) : Flagged sd := h.consistent.flag sockId sd h.found

theorem set {sd' : SockDesc} (h : Holds s sockId sd) (hid : sd'.sockId = sd.sockId)
    (hport : sd'.localPort = sd.localPort) (hflag : Flagged sd') : Consistent (s.setSocket sd') := by
  have hold : sd ∈ s.socketsByIdMap.lookup sd'.sockId := by
    rw [hid, h.sockId_eq]
    exact h.found
  exact h.consistent.setSocket hold hport hflag

end Holds

theorem createSocket_yields (h : Consistent s) (hnew : s.socketsByIdMap.lookup sockId = none) :
    Yields (s.createSocket sockId gateIndex localAddr localPort) fun r => Holds r.2 sockId r.1 := by
  have hnext : ∀ (port : ℤ) (s₂ : UDP), Consistent s₂ → s₂.socketsByIdMap = s.socketsByIdMap →
      ∀ sd : SockDesc, sd.sockId = sockId → sd.localPort = port → Flagged sd →
      Holds ((s₂.setSocket sd).pushSocket port sockId) sockId sd := by
    rintro port s₂ hs₂ hids sd rfl rfl hflag
    rw [← hids] at hnew
    refine ⟨hs₂.create hnew hflag, ?_⟩
    exact (lookup_setSocket s₂ sd sd.sockId).trans (if_pos rfl)
  have hflag : localAddr.isUnspecified = true → localAddr.isUnspecified = true ∧
      L3Address.unspecified.isUnspecified = true ∧ (-1 : ℤ) = -1 := fun hany => ⟨hany, by decide, rfl⟩
  unfold createSocket
  split
  · refine h.getEphemeralPort.bind ?_
    rintro ⟨port, s₂⟩ ⟨hs₂, hids⟩
    exact .pure (hnext port s₂ hs₂ hids _ rfl rfl hflag)
  · exact .pure (hnext localPort s h rfl _ rfl rfl hflag)

theorem getOrCreateSocket_yields (h : Consistent s) :
    Yields (s.getOrCreateSocket sockId gateIndex) fun r => Holds r.2 sockId r.1 := by
  unfold getOrCreateSocket
  split
  · exact .error _
  · split
    · next sd hsd => exact .ok ⟨h, hsd⟩
    · next hnew => exact createSocket_yields h hnew

theorem connect_yields (h : Consistent s) (remoteAddr : L3Address) (remotePort : ℤ) :
    Yields (s.connect sockId gateIndex remoteAddr remotePort) Consistent := by
  unfold connect
  split
  · exact .error _
  · split
    · exact .error _
    · refine (getOrCreateSocket_yields h).bind fun r hr => .pure ?_
      refine hr.set rfl rfl fun hflag => ?_
      cases hflag

theorem setOption_yields (h : Consistent s) (option : SocketOption) :
    Yields (s.setOption sockId gateIndex option) Consistent := by
  unfold setOption
  refine (getOrCreateSocket_yields h).bind fun r hr => .pure ?_
  have hflag := hr.flagged
  cases option <;> exact hr.set rfl rfl hflag

theorem processPacketFromApp_yields (h : Consistent s) (srcAddr destAddr : L3Address) (destPort : ℤ) :
    Yields (s.processPacketFromApp sockId gateIndex srcAddr destAddr destPort) fun r =>
      Consistent r.1 := by
  unfold processPacketFromApp
  refine (getOrCreateSocket_yields h).bind fun r hr => ?_
  dsimp only
  generalize (if destAddr.isUnspecified = true then r.1.remoteAddr else destAddr) = destAddr
  generalize (if destPort = -1 then r.1.remotePort else destPort) = destPort
  split
  · exact .error _
  · exact Yields.bind (P := fun _ => True) (fun _ _ => trivial) fun _ _ => .pure hr.consistent

/-- A bound socket leaves none of its ports without sockets, and is not bound to an address while its
flag is set. -/
def Binds (s : UDP) (sockId : ℤ) (localAddr : L3Address) (localPort : ℤ) (sd : SockDesc) : Prop :=
  (localPort = -1 ∨ sd.localPort = localPort ∨ ∃ id ∈ s.idsAt sd.localPort, id ≠ sockId) ∧
    (sd.onlyLocalPortIsSet → localAddr.isUnspecified)
deriving Decidable

theorem bindSocket_consistent (h : Holds s sockId sd) (hbinds : s.Binds sockId localAddr localPort sd) :
    Consistent (s.bindSocket sd localAddr localPort) := by
  obtain ⟨hport, haddr⟩ := hbinds
  have hflag : sd.onlyLocalPortIsSet → localAddr.isUnspecified ∧ sd.remoteAddr.isUnspecified ∧
      sd.remotePort = -1 := by
    intro hset
    exact ⟨haddr hset, (h.flagged hset).2⟩
  unfold bindSocket
  split
  · next hmoved =>
    have hother : ∃ id ∈ s.idsAt sd.localPort, id ≠ sd.sockId := by
      rw [h.sockId_eq]
      exact (hport.resolve_left hmoved.1).resolve_left hmoved.2
    have hold : sd ∈ s.socketsByIdMap.lookup sd.sockId := by
      rw [h.sockId_eq]
      exact h.found
    exact h.consistent.move hold hmoved.2 hother hflag
  · exact h.set rfl rfl hflag

theorem bind_yields (h : Consistent s)
    (hbinds : ∀ sd ∈ s.socketsByIdMap.lookup sockId, s.Binds sockId localAddr localPort sd) :
    Yields (s.bind sockId gateIndex localAddr localPort) Consistent := by
  unfold UDP.bind
  split
  · exact .error _
  · split
    · exact .error _
    · dsimp only
      split
      · next sd hsd =>
        split
        · exact .error _
        · split
          · exact .error _
          · exact .ok (bindSocket_consistent ⟨h, hsd⟩ (hbinds sd hsd))
      · next hnew =>
        split
        · exact .error _
        · refine (createSocket_yields h hnew).bind fun r hr => .pure ?_
          exact hr.set rfl rfl hr.flagged

/-- A command that keeps the tables in order. -/
def Proper (s : UDP) : Command → Prop
  | .bind sockId _ localAddr localPort =>
    ∀ sd ∈ s.socketsByIdMap.lookup sockId, s.Binds sockId localAddr localPort sd
  | _ => True

instance : DecidablePred s.Proper
  | .bind sockId _ localAddr localPort =>
    inferInstanceAs (Decidable (∀ sd ∈ s.socketsByIdMap.lookup sockId,
      s.Binds sockId localAddr localPort sd))
  | .connect _ _ _ _ | .close _ | .setOption _ _ _ | .send _ _ _ _ _ => .isTrue trivial

theorem Consistent.processCommand {command : Command} (h : Consistent s) (hproper : s.Proper command) :
    Yields (s.processCommand command) fun r => Consistent r.1 := by
  cases command with
  | bind sockId gateIndex localAddr localPort =>
    exact (bind_yields h hproper).bind fun s' hs' => .pure hs'
  | connect sockId gateIndex remoteAddr remotePort =>
    exact (connect_yields h remoteAddr remotePort).bind fun s' hs' => .pure hs'
  | close sockId =>
    exact Yields.bind (fun s' hs' => h.close hs') fun s' hs' => .pure hs'
  | setOption sockId gateIndex option =>
    exact (setOption_yields h option).bind fun s' hs' => .pure hs'
  | send sockId gateIndex srcAddr destAddr destPort =>
    exact (processPacketFromApp_yields h srcAddr destAddr destPort).bind fun r hr => .pure hr

section Selection

variable {isMatch : SockDesc → Bool} {list : List SockDesc}

/-- A socket is selected among those that match. One without a local address comes last. -/
theorem selectSocket_some {any : Option SockDesc} (hany : ∀ sd ∈ any, sd.localAddr.isUnspecified)
    (h : selectSocket isMatch list any = some sd) :
    (sd ∈ any ∨ sd ∈ list ∧ isMatch sd) ∧ (sd.localAddr.isUnspecified →
      ∀ other ∈ list, isMatch other → other.localAddr.isUnspecified) := by
  induction list generalizing any with
  | nil => exact ⟨.inl h, fun _ other hother => absurd hother List.not_mem_nil⟩
  | cons first list ih =>
    unfold selectSocket at h
    split at h
    · next hmatch =>
      split at h
      · next haddr =>
        have hfirst : ∀ sd ∈ some first, sd.localAddr.isUnspecified := by
          intro sd hsd
          rw [← Option.some.inj hsd]
          exact haddr
        obtain ⟨hfrom, hprefer⟩ := ih hfirst h
        refine ⟨.inr ?_, fun hsd other hother => ?_⟩
        · rcases hfrom with hsd | ⟨hmem, hsd⟩
          · rw [← Option.some.inj hsd]
            exact ⟨(.head _), hmatch⟩
          · exact ⟨List.mem_cons_of_mem first hmem, hsd⟩
        · rcases List.mem_cons.mp hother with rfl | hother
          · exact fun _ => haddr
          · exact hprefer hsd other hother
      · next haddr =>
        rw [← Option.some.inj h]
        exact ⟨.inr ⟨(.head _), hmatch⟩, fun hsd => absurd hsd haddr⟩
    · next hmatch =>
      obtain ⟨hfrom, hprefer⟩ := ih hany h
      refine ⟨hfrom.imp_right fun hsd => ⟨List.mem_cons_of_mem first hsd.1, hsd.2⟩, ?_⟩
      intro hsd other hother hother'
      rcases List.mem_cons.mp hother with rfl | hother
      · exact absurd hother' hmatch
      · exact hprefer hsd other hother hother'

theorem selectSocket_eq_none {any : Option SockDesc} :
    selectSocket isMatch list any = none ↔ any = none ∧ ∀ sd ∈ list, ¬ isMatch sd := by
  induction list generalizing any with
  | nil => simp [selectSocket]
  | cons first list ih =>
    unfold selectSocket
    rw [List.forall_mem_cons]
    split
    · next hmatch =>
      refine iff_of_false ?_ fun hnone => hnone.2.1 hmatch
      split
      · rw [ih]
        exact fun hnone => nomatch hnone.1
      · nofun
    · next hmatch => rw [ih, and_iff_right hmatch]

end Selection

/-- The local port of the socket, its local address if it has one, and its remote address and port if
it is connected match the packet. -/
structure Matches (sd : SockDesc) (localAddr : L3Address) (localPort : ℤ) (remoteAddr : L3Address)
    (remotePort : ℤ) : Prop where
  localPort : sd.localPort = localPort
  localAddr : sd.localAddr.isUnspecified ∨ sd.localAddr = localAddr
  remoteAddr : sd.remoteAddr.isUnspecified ∨ sd.remoteAddr = remoteAddr
  remotePort : sd.remotePort = -1 ∨ sd.remotePort = remotePort

/-- Every packet goes to a socket that matches it, to one with a local address before one without, and
to none only if there is none. -/
def Demultiplexes (s : UDP) : Prop :=
  ∀ localAddr localPort remoteAddr remotePort,
    (∀ sd ∈ s.findSocketForUnicastPacket localAddr localPort remoteAddr remotePort,
      (∃ sockId, sd ∈ s.socketsByIdMap.lookup sockId) ∧
      Matches sd localAddr localPort remoteAddr remotePort ∧
      (sd.localAddr.isUnspecified → ∀ sockId, ∀ other ∈ s.socketsByIdMap.lookup sockId,
        Matches other localAddr localPort remoteAddr remotePort → other.localAddr.isUnspecified)) ∧
    (s.findSocketForUnicastPacket localAddr localPort remoteAddr remotePort = none ↔
      ∀ sockId, ∀ sd ∈ s.socketsByIdMap.lookup sockId,
        ¬ Matches sd localAddr localPort remoteAddr remotePort)

theorem Consistent.mem_socketsAt (h : Consistent s) : sd ∈ s.socketsAt localPort ↔
      (∃ sockId, sd ∈ s.socketsByIdMap.lookup sockId) ∧ sd.localPort = localPort := by
  have hids : s.socketsAt localPort = (s.idsAt localPort).filterMap s.socketsByIdMap.lookup := rfl
  rw [hids, List.mem_filterMap]
  constructor
  · rintro ⟨sockId, hmem, hsd⟩
    obtain ⟨sd', hsd', hport⟩ := (h.listed localPort sockId).mp hmem
    obtain rfl := Option.some.inj (hsd'.symm.trans hsd)
    exact ⟨⟨sockId, hsd⟩, hport⟩
  · rintro ⟨⟨sockId, hsd⟩, hport⟩
    exact ⟨sockId, (h.listed localPort sockId).mpr ⟨sd, hsd, hport⟩, hsd⟩

theorem Flagged.matches_iff {remoteAddr : L3Address} {remotePort : ℤ} (h : Flagged sd)
    (hport : sd.localPort = localPort) :
    (sd.onlyLocalPortIsSet || ((sd.remotePort = -1 || sd.remotePort = remotePort) &&
      (sd.localAddr.isUnspecified || sd.localAddr = localAddr) &&
      (sd.remoteAddr.isUnspecified || sd.remoteAddr = remoteAddr))) = true ↔
      Matches sd localAddr localPort remoteAddr remotePort := by
  simp only [Bool.or_eq_true, Bool.and_eq_true, decide_eq_true_eq]
  constructor
  · rintro (hset | ⟨⟨hremotePort, hlocalAddr⟩, hremoteAddr⟩)
    · obtain ⟨hlocal, hremote, hremotePort⟩ := h hset
      exact ⟨hport, .inl hlocal, .inl hremote, .inl hremotePort⟩
    · exact ⟨hport, hlocalAddr, hremoteAddr, hremotePort⟩
  · intro hmatch
    exact .inr ⟨⟨hmatch.remotePort, hmatch.localAddr⟩, hmatch.remoteAddr⟩

theorem Consistent.demultiplexes (h : Consistent s) : Demultiplexes s := by
  intro localAddr localPort remoteAddr remotePort
  have hmem : ∀ sd, sd ∈ (s.socketsAt localPort).reverse ↔
      (∃ sockId, sd ∈ s.socketsByIdMap.lookup sockId) ∧ sd.localPort = localPort := by
    intro sd
    rw [List.mem_reverse, h.mem_socketsAt]
  have hmatches : ∀ sockId, ∀ sd ∈ s.socketsByIdMap.lookup sockId, sd.localPort = localPort →
      ((sd.onlyLocalPortIsSet || ((sd.remotePort = -1 || sd.remotePort = remotePort) &&
        (sd.localAddr.isUnspecified || sd.localAddr = localAddr) &&
        (sd.remoteAddr.isUnspecified || sd.remoteAddr = remoteAddr))) = true ↔
        Matches sd localAddr localPort remoteAddr remotePort) := by
    intro sockId sd hsd hport
    have hflag : Flagged sd := h.flag sockId sd hsd
    exact hflag.matches_iff hport
  unfold findSocketForUnicastPacket
  refine ⟨fun sd hsd => ?_, ?_⟩
  · have hnone : ∀ sd, sd ∉ (none : Option SockDesc) := Option.not_mem_none
    obtain ⟨hfrom, hprefer⟩ := selectSocket_some (fun sd hsd => absurd hsd (hnone sd)) hsd
    obtain ⟨hlist, hmatch⟩ := hfrom.resolve_left (hnone sd)
    obtain ⟨⟨sockId, hfound⟩, hport⟩ := (hmem sd).mp hlist
    refine ⟨⟨sockId, hfound⟩, (hmatches sockId sd hfound hport).mp hmatch, ?_⟩
    intro haddr otherId other hother hother'
    refine hprefer haddr other ((hmem other).mpr ⟨⟨otherId, hother⟩, hother'.localPort⟩) ?_
    exact (hmatches otherId other hother hother'.localPort).mpr hother'
  · rw [selectSocket_eq_none, and_iff_right rfl]
    constructor
    · intro hnone sockId sd hsd hmatch
      refine hnone sd ((hmem sd).mpr ⟨⟨sockId, hsd⟩, hmatch.localPort⟩) ?_
      exact (hmatches sockId sd hsd hmatch.localPort).mpr hmatch
    · intro hnone sd hlist hmatch
      obtain ⟨⟨sockId, hsd⟩, hport⟩ := (hmem sd).mp hlist
      exact hnone sockId sd hsd ((hmatches sockId sd hsd hport).mp hmatch)

/-- A port that is returned is in the range and no socket has it. There is none only if every port of the
range is taken. -/
structure AllocatesPorts (s : UDP) : Prop where
  free : ∀ r, s.getEphemeralPort = .ok r → InEphemeralRange r.1 ∧ s.Unused r.1
  exhausted : ∀ fault, s.getEphemeralPort = .error fault →
    ∀ port, InEphemeralRange port → ¬ s.Unused port

theorem Consistent.allocatesPorts (h : Consistent s) : AllocatesPorts s := by
  rcases h.getEphemeralPort_cases with ⟨port, hport, hrange, hunused⟩ | ⟨⟨fault, hfault⟩, hall⟩
  · refine ⟨fun r hr => ?_, fun fault hfault => ?_⟩
    · obtain rfl := Except.ok.inj (hport.symm.trans hr)
      exact ⟨hrange, hunused⟩
    · rw [hport] at hfault
      cases hfault
  · refine ⟨fun r hr => ?_, fun _ _ => hall⟩
    rw [hfault] at hr
    cases hr

/-- After proper commands the tables agree, ports are given out once, and packets find their sockets. -/
theorem sockets_demultiplexed {history : List (Command × UDP × Option SentPacket)}
    (hrun : Run (· = initial) (StepOf (traced handle)) history s)
    (hproper : Always (fun _ l => Proper l.2.1 l.1) history) :
    Consistent s ∧ AllocatesPorts s ∧ Demultiplexes s := by
  have h : Consistent s := by
    refine @Run.invariant_of_always _ _ _ _ _ (fun _ s => Consistent s) _ _ hrun hproper
      (fun _ hinit => hinit ▸ consistent_initial) ?_
    rintro history s ⟨command, before, o⟩ s' - h hstep hproper
    obtain ⟨rfl, hhandle⟩ := traced_eq_some.mp hstep
    exact h.processCommand hproper (s', o) (toOption_eq_some.mp hhandle)
  exact ⟨h, h.allocatesPorts, h.demultiplexes⟩

/-- A server, a client that is connected over an ephemeral port, and a third socket that leaves. -/
theorem sockets_demultiplexed_of_commands : ∃ history s,
    Run (· = initial) (StepOf (traced handle)) history s ∧ history.length = 5 ∧
      Demultiplexes s := by
  obtain ⟨s, history, hrun, hlength, hproper⟩ := exists_run_of_execute (traced handle) initial
    [.bind 1 0 (.ofIPv4 0x0A000001) 53, .setOption 2 0 (.timeToLive 5),
      .connect 2 0 (.ofIPv4 0x0A000002) 53, .send 3 1 .unspecified (.ofIPv4 0x0A000003) 53, .close 3]
    (fun _ history => history.length = 5 ∧ Always (fun _ l => Proper l.2.1 l.1) history)
    (by decide +kernel)
  exact ⟨history, s, hrun, hlength, (sockets_demultiplexed hrun hproper).2.2⟩

/-- A socket gets an option, and then an address and a port. Its first port is left behind without
sockets, and packets to other addresses still reach it. -/
theorem socket_keeps_flag : ∃ history s,
    Run (· = initial) (StepOf (traced handle)) history s ∧
      s.socketsByPortMap.lookup 1025 = some [] ∧
      ∃ sd ∈ s.findSocketForUnicastPacket (.ofIPv4 0x0A000002) 53 (.ofIPv4 0x0A000003) 4000,
        ¬ Matches sd (.ofIPv4 0x0A000002) 53 (.ofIPv4 0x0A000003) 4000 := by
  obtain ⟨s, history, hrun, hempty, hfound⟩ := exists_run_of_execute (traced handle) initial
    [.setOption 1 0 (.timeToLive 5), .bind 1 0 (.ofIPv4 0x0A000001) 53]
    (fun s _ => s.socketsByPortMap.lookup 1025 = some [] ∧
      ∃ sd ∈ s.findSocketForUnicastPacket (.ofIPv4 0x0A000002) 53 (.ofIPv4 0x0A000003) 4000,
        ¬ (sd.localAddr.isUnspecified ∨ sd.localAddr = .ofIPv4 0x0A000002))
    (by decide +kernel)
  obtain ⟨sd, hsd, haddr⟩ := hfound
  exact ⟨history, s, hrun, hempty, sd, hsd, fun hmatch => haddr hmatch.localAddr⟩

end inet.UDP

import LoRaInet.NetworkLayer.IPv4.PendingPackets

open omnetpp container transition

namespace inet

namespace MACAddress

theorem isUnspecified_makeMulticastAddress (addr : IPv4Address) :
    (makeMulticastAddress addr).isUnspecified = false := by
  apply decide_eq_false
  intro hzero
  have hbit := congrArg (fun a : MACAddress => a.getLsbD 40) hzero
  simp [makeMulticastAddress] at hbit

end MACAddress

namespace IPv4NetworkLayer

variable {P : Type}

abbrev Label (P : Type) := (SimTime × Event P) × Output P

/-- A datagram that was queued, with the interface it was handed over for. -/
structure Queued (P : Type) where
  time : SimTime
  datagram : IPv4Datagram P
  ie : InterfaceEntry

def queued (k : IPv4Address) (l : Label P) : List (Queued P) :=
  match l.1.2, l.2.queued with
  | .sendDatagramToOutput datagram ie _, some nextHop =>
    if nextHop = k then [⟨l.1.1, datagram, ie⟩] else []
  | _, _ => []

def released (k : IPv4Address) (l : Label P) : List (Released P) :=
  l.2.released.filter fun r => r.nextHop = k

/-- The datagrams queued for a next hop, first one first. -/
def queuedFor (k : IPv4Address) : List (Label P) → List (Queued P)
  | [] => []
  | l :: history => queuedFor k history ++ queued k l

def releasedFor (k : IPv4Address) : List (Label P) → List (Released P)
  | [] => []
  | l :: history => releasedFor k history ++ released k l

/-- The datagrams queued for a next hop that have not been released. -/
def waitingFor (k : IPv4Address) (history : List (Label P)) : List (Queued P) :=
  (queuedFor k history).drop (releasedFor k history).length

/-- What a released datagram's fate says of the step that released it: an address came
from the next hop itself, for the resolution that the first datagram started, or the
resolution failed, or the node was stopped. -/
def Settles (waiting : List (Queued P)) (l : Label P) (r : Released P) : Prop :=
  match r.fate with
  | .sent ie macAddress => (∃ q ∈ waiting.head?, q.ie = ie) ∧
    ∃ packet arrivalIE routing, l.1.2 = .arpPacket packet arrivalIE routing ∧
      packet.srcIPAddress = r.nextHop ∧ packet.srcMACAddress = macAddress
  | .dropped => l.1.2 = .stop ∨
    ∃ n, l.2.emitted.signal = some (.failedARPResolution n) ∧ n.l3Address = r.nextHop

/-- The first datagram that waits started the resolution, which has not ended. -/
structure Waiting (c : ARP.Parameters) (now : SimTime) (first : Queued P) (rest : List (Queued P))
    (entry : ARP.ARPCacheEntry) : Prop where
  resolving : entry.Resolving c first.time first.ie
  started : first.time ≤ now
  onTime : ∀ t ∈ entry.timer, now ≤ t
  later : ∀ q ∈ rest, first.time ≤ q.time

/-- What both modules keep for one next hop, against the datagrams that wait for it. -/
inductive Slot (c : ARP.Parameters) (now : SimTime) :
    List (Queued P) → Option (List (IPv4Datagram P)) → Option ARP.ARPCacheEntry → Prop where
  | idle {entry : Option ARP.ARPCacheEntry} (hentry : ∀ e ∈ entry, e.Resolved) :
      Slot c now [] none entry
  | waiting {first : Queued P} {rest : List (Queued P)} {entry : ARP.ARPCacheEntry}
      (hentry : Waiting c now first rest entry) :
      Slot c now (first :: rest) (some ((first :: rest).map (·.datagram))) (some entry)

/-- What a step does to the datagrams that wait for one next hop. -/
def Served (k : IPv4Address) (w : List (Queued P)) (l : Label P) (w' : List (Queued P)) : Prop :=
  (released k l = [] ∧ w' = w ++ queued k l) ∨
  (queued k l = [] ∧ w' = [] ∧ (released k l).map (·.datagram) = w.map (·.datagram) ∧
    ∀ r ∈ released k l, Settles w l r)

section Step

variable {c : ARP.Parameters} {useProxyARP : Bool} {s s' : IPv4NetworkLayer P} {o : Output P}
  {now t : SimTime} {w : List (Queued P)} {queue : Option (List (IPv4Datagram P))}
  {entry : Option ARP.ARPCacheEntry} {k : IPv4Address}

theorem Slot.advance (hslot : Slot c now w queue entry) (hle : now ≤ t)
    (htimer : ∀ e ∈ entry, ∀ timer ∈ e.timer, t ≤ timer) : Slot c t w queue entry := by
  cases hslot with
  | idle hentry => exact .idle hentry
  | waiting hentry =>
    exact .waiting ⟨hentry.resolving, hentry.started.trans hle, htimer _ rfl, hentry.later⟩

theorem Slot.getD (hslot : Slot c now w queue entry) : queue.getD [] = w.map (·.datagram) := by
  cases hslot with
  | idle hentry => rfl
  | waiting hentry => rfl

variable {ie : InterfaceEntry} {emitted : ARP.Emitted}

/-- No resolution is needed, or one is in progress, or one is started. -/
theorem resolveNextHopMacAddress_cases {nextHop : IPv4Address} {arp : ARP} {mac : MACAddress}
    (h : s.resolveNextHopMacAddress c nextHop ie = .ok (arp, mac, emitted)) :
    (arp = s.arp ∧ (mac.isUnspecified = true → ∃ entry ∈ s.arp.arpCache.lookup nextHop,
      entry.pending = true ∨ entry.macAddress.isUnspecified = true)) ∨
    (mac = .UNSPECIFIED_ADDRESS ∧ (∀ entry ∈ s.arp.arpCache.lookup nextHop, entry.pending = false) ∧
      ∃ entry : ARP.ARPCacheEntry, entry.Resolving c s.simTime ie ∧
        arp.arpCache = s.arp.arpCache.insert nextHop entry) := by
  unfold resolveNextHopMacAddress at h
  split at h
  · obtain ⟨rfl, hrest⟩ := Prod.mk.inj (Except.ok.inj h)
    cases hrest
    exact .inl ⟨rfl, fun hunspecified => (by cases hunspecified)⟩
  · split at h
    · obtain ⟨rfl, hrest⟩ := Prod.mk.inj (Except.ok.inj h)
      cases hrest
      refine .inl ⟨rfl, fun hunspecified => ?_⟩
      rw [MACAddress.isUnspecified_makeMulticastAddress] at hunspecified
      cases hunspecified
    · rcases ARP.resolveL3Address_cases h with ⟨rfl, -, -, old, hold, hpending⟩ |
        ⟨rfl, -, old, hold, -, -, rfl⟩ | ⟨hmac, hended, entry, hentry, rfl, -⟩
      · exact .inl ⟨rfl, fun _ => ⟨old, hold, .inl hpending⟩⟩
      · exact .inl ⟨rfl, fun hunspecified => ⟨old, hold, .inr hunspecified⟩⟩
      · exact .inr ⟨hmac, hended, entry, hentry, rfl⟩

variable {nextHopAddr : IPv4Address}

theorem sendDatagramToOutput_cases {datagram : IPv4Datagram P}
    (h : s.sendDatagramToOutput c useProxyARP datagram ie nextHopAddr = .ok (s', o)) :
    o.released = [] ∧ ((s' = s ∧ o.queued = none) ∨
      ∃ nextHop, o.queued = some nextHop ∧ s'.simTime = s.simTime ∧ s'.pendingPackets =
          s.pendingPackets.insert nextHop (waiting s.pendingPackets nextHop ++ [datagram]) ∧
        ((s'.arp = s.arp ∧ ∃ entry ∈ s.arp.arpCache.lookup nextHop,
            entry.pending = true ∨ entry.macAddress.isUnspecified = true) ∨
          (∀ entry ∈ s.arp.arpCache.lookup nextHop, entry.pending = false) ∧
            ∃ entry : ARP.ARPCacheEntry, entry.Resolving c s.simTime ie ∧
              s'.arp.arpCache = s.arp.arpCache.insert nextHop entry)) := by
  unfold sendDatagramToOutput at h
  simp only at h
  split at h
  · obtain ⟨nextHop, -, h⟩ := bind_eq_ok_iff.mp h
    obtain ⟨⟨arp, mac, emitted⟩, hresolve, h⟩ := bind_eq_ok_iff.mp h
    have hcases := resolveNextHopMacAddress_cases hresolve
    simp only at h
    split at h
    · next hunspecified =>
      cases h
      refine ⟨rfl, .inr ⟨nextHop, rfl, rfl, rfl, ?_⟩⟩
      rcases hcases with ⟨rfl, hentry⟩ | ⟨-, hended, hstarted⟩
      · exact .inl ⟨rfl, hentry hunspecified⟩
      · exact .inr ⟨hended, hstarted⟩
    · next hspecified =>
      obtain ⟨-, -, h⟩ := bind_eq_ok_iff.mp h
      cases h
      rcases hcases with ⟨rfl, -⟩ | ⟨rfl, -⟩
      · exact ⟨rfl, .inl ⟨rfl, rfl⟩⟩
      · exact absurd rfl hspecified
  · cases h
    exact ⟨rfl, .inl ⟨rfl, rfl⟩⟩

variable {e : ARP.ARPCacheEntry}

theorem Slot.append (hslot : Slot c now w queue (some e))
    (he : e.pending = true ∨ e.macAddress.isUnspecified = true) {q : Queued P} (hq : q.time = now) :
    Slot c now (w ++ [q]) (some (queue.getD [] ++ [q.datagram])) (some e) := by
  cases hslot with
  | idle hentry =>
    have hresolved := hentry e rfl
    rcases he with hpending | hmac
    · rw [hresolved.pending] at hpending
      cases hpending
    · rw [hresolved.macAddress] at hmac
      cases hmac
  | @waiting first rest _ hentry =>
    have happend : ((first :: rest).map fun q => q.datagram) ++ [q.datagram] =
        (first :: (rest ++ [q])).map fun q => q.datagram := by simp
    rw [Option.getD_some, happend]
    refine .waiting ⟨hentry.resolving, hentry.started, hentry.onTime, fun other hother => ?_⟩
    rcases List.mem_append.mp hother with hrest | hlast
    · exact hentry.later other hrest
    · rw [List.mem_singleton.mp hlast, hq]
      exact hentry.started

theorem Slot.start (hslot : Slot c now w queue entry)
    (hended : ∀ e ∈ entry, e.pending = false) {q : Queued P} (hq : q.time = now)
    (hresolving : e.Resolving c now q.ie) :
    Slot c now (w ++ [q]) (some (queue.getD [] ++ [q.datagram])) (some e) := by
  cases hslot with
  | idle hentry =>
    refine .waiting ⟨hq ▸ hresolving, hq.le, fun t ht => ?_, fun other hother => by cases hother⟩
    rw [hresolving.timer] at ht
    rw [← Option.some.inj ht, le_add_iff_nonneg_right]
    exact mul_nonneg (by positivity) hresolving.retryTimeout
  | waiting hentry =>
    have hpending := hended _ rfl
    rw [hentry.resolving.pending] at hpending
    cases hpending

/-- A scheduled timer belongs to a resolution that datagrams wait for. -/
theorem Slot.of_timer (hslot : Slot c now w queue (some e))
    (htimer : e.timer = some t) : ∃ first rest, w = first :: rest ∧
      queue = some ((first :: rest).map (·.datagram)) ∧ Waiting c now first rest e := by
  cases hslot with
  | idle hentry =>
    rw [(hentry e rfl).timer] at htimer
    cases htimer
  | @waiting first rest _ hentry => exact ⟨first, rest, rfl, rfl, hentry⟩

theorem Slot.pending_or_timer (hslot : Slot c now w queue entry) :
    ∀ e ∈ entry, e.pending = true ∨ e.timer = none := by
  intro e he
  cases hslot with
  | idle hentry => exact .inr (hentry e he).timer
  | waiting hentry =>
    cases he
    exact .inl hentry.resolving.pending

theorem arpResolutionCompleted_eq (pendingPackets : PendingPackets P) (n : ARP.Notification) :
    arpResolutionCompleted pendingPackets n = (pendingPackets.erase n.l3Address,
      (waiting pendingPackets n.l3Address).map fun msg =>
        ⟨n.l3Address, msg, .sent n.ie n.macAddress⟩) := by
  unfold arpResolutionCompleted waiting
  cases hlookup : pendingPackets.lookup n.l3Address with
  | none => simp [Map.erase_of_lookup_eq_none hlookup]
  | some packetQueue => rfl

theorem arpResolutionTimedOut_eq (pendingPackets : PendingPackets P) (n : ARP.Notification) :
    arpResolutionTimedOut pendingPackets n = (pendingPackets.erase n.l3Address,
      (waiting pendingPackets n.l3Address).map fun packet =>
        ⟨n.l3Address, packet, .dropped⟩) := by
  unfold arpResolutionTimedOut waiting
  cases hlookup : pendingPackets.lookup n.l3Address with
  | none => simp [Map.erase_of_lookup_eq_none hlookup]
  | some packetQueue => rfl

/-- Both modules agree with the datagrams that wait for each next hop. -/
def Consistent (c : ARP.Parameters) (s : IPv4NetworkLayer P) (w : IPv4Address → List (Queued P)) :
    Prop :=
  ∀ k, Slot c s.simTime (w k) (s.pendingPackets.lookup k) (s.arp.arpCache.lookup k)

/-- They still do after a step, each next hop having been served. -/
def Kept (c : ARP.Parameters) (w : IPv4Address → List (Queued P)) (l : Label P)
    (s' : IPv4NetworkLayer P) : Prop :=
  ∀ k, ∃ w', Served k (w k) l w' ∧
    Slot c s'.simTime w' (s'.pendingPackets.lookup k) (s'.arp.arpCache.lookup k)

variable {l : Label P} {waits : IPv4Address → List (Queued P)}

theorem queued_of_none (h : l.2.queued = none) : queued k l = [] := by
  simp [queued, h]

theorem released_of_nil (h : l.2.released = []) : released k l = [] := by
  simp [released, h]

theorem served_none (hreleased : released k l = []) (hqueued : queued k l = []) : Served k w l w :=
  .inl ⟨hreleased, by rw [hqueued, List.append_nil]⟩

theorem Consistent.kept_same (hslots : Consistent c s waits) (hqueued : l.2.queued = none)
    (hreleased : l.2.released = []) : Kept c waits l s :=
  fun k => ⟨waits k, served_none (released_of_nil hreleased) (queued_of_none hqueued), hslots k⟩

theorem Consistent.advance (hslots : Consistent c s waits) {e : Event P} (hnext : s.IsNext t e) :
    Consistent c { s with simTime := t } waits := by
  intro k
  apply (hslots k).advance hnext.1
  intro entry hentry
  exact hnext.2.1 ⟨k, entry⟩ (Map.mem_entries_iff.mpr hentry)

open AList

theorem Consistent.sendDatagramToOutput (hslots : Consistent c s waits) {datagram : IPv4Datagram P}
    (h : s.sendDatagramToOutput c useProxyARP datagram ie nextHopAddr = .ok (s', o)) :
    Kept c waits ((s.simTime, .sendDatagramToOutput datagram ie nextHopAddr), o) s' := by
  obtain ⟨hreleased, ⟨rfl, hqueued⟩ | ⟨nextHop, hqueued, htime, hpackets, harp⟩⟩ :=
    sendDatagramToOutput_cases h
  · exact hslots.kept_same hqueued hreleased
  · intro k
    rw [htime, hpackets]
    by_cases hk : k = nextHop
    · subst hk
      let q : Queued P := ⟨s.simTime, datagram, ie⟩
      refine ⟨waits k ++ [q], .inl ⟨released_of_nil hreleased, ?_⟩, ?_⟩
      · simp [queued, hqueued, q]
      · rw [lookup_insert]
        rcases harp with ⟨harp, entry, hentry, hpending⟩ | ⟨hended, entry, hresolving, harp⟩
        · have hslot := hslots k
          rw [hentry] at hslot
          rw [harp, hentry]
          exact hslot.append hpending rfl
        · rw [harp, lookup_insert]
          exact (hslots k).start hended rfl hresolving
    · refine ⟨waits k, served_none (released_of_nil hreleased) ?_, ?_⟩
      · simp [queued, hqueued, Ne.symm hk]
      · rw [lookup_insert_ne hk]
        rcases harp with ⟨harp, -⟩ | ⟨-, entry, -, harp⟩
        · rw [harp]
          exact hslots k
        · rw [harp, lookup_insert_ne hk]
          exact hslots k

theorem released_map (k j : IPv4Address) (datagrams : List (IPv4Datagram P)) (fate : Fate)
    (hreleased : l.2.released = datagrams.map fun d => ⟨j, d, fate⟩) :
    released k l = if k = j then datagrams.map fun d => ⟨j, d, fate⟩ else [] := by
  rw [released, hreleased, List.filter_map]
  by_cases hk : k = j
  · simp [hk, Function.comp_def]
  · simp [hk, Ne.symm hk, Function.comp_def]

theorem Slot.served (hslot : Slot c now w queue entry) (fate : Fate)
    (hreleased : released k l = (queue.getD []).map fun d => ⟨k, d, fate⟩)
    (hqueued : l.2.queued = none)
    (hfate : ∀ first rest, w = first :: rest → ∀ d, Settles w l ⟨k, d, fate⟩) :
    Served k w l [] := by
  rw [hslot.getD] at hreleased
  refine .inr ⟨queued_of_none hqueued, rfl, ?_, fun r hr => ?_⟩
  · rw [hreleased, List.map_map]
    exact List.map_id _
  · rw [hreleased] at hr
    obtain ⟨d, hd, rfl⟩ := List.mem_map.mp hr
    cases w with
    | nil => cases hd
    | cons first rest => exact hfate first rest rfl d

theorem Consistent.arpPacket (hslots : Consistent c s waits) {packet : ARPPacket}
    {routing : ARP.Routing} {arp : ARP}
    (h : s.arp.processARPPacket c s.simTime packet ie routing = .ok (arp, emitted)) :
    Kept c waits ((s.simTime, .arpPacket packet ie routing), (s.afterARP arp emitted).2)
      (s.afterARP arp emitted).1 := by
  have hslot := hslots packet.srcIPAddress
  rcases ARP.processARPPacket_cases hslot.pending_or_timer h with ⟨rfl, rfl, -⟩ |
    ⟨entry, hresolved, -, -, rfl, -, sender, hsender, hsignal⟩
  · rw [afterARP]
    exact hslots.kept_same rfl rfl
  · intro k
    rw [afterARP, hsignal]
    simp only [receiveSignal, arpResolutionCompleted_eq]
    by_cases hk : k = packet.srcIPAddress
    · subst hk
      rw [lookup_insert, lookup_erase]
      refine ⟨[], ?_, .idle fun e he => Option.some.inj he ▸ hresolved⟩
      apply hslot.served (.sent sender packet.srcMACAddress) _ rfl
      · intro first rest hwaits d
        rw [hwaits] at hslot ⊢
        refine ⟨⟨first, rfl, ?_⟩, packet, ie, routing, rfl, rfl, rfl⟩
        generalize hold : s.arp.arpCache.lookup packet.srcIPAddress = old at hslot
        generalize s.pendingPackets.lookup packet.srcIPAddress = packets at hslot
        cases hslot with
        | waiting hentry => exact hentry.resolving.ie.symm.trans (hsender _ hold).symm
      · exact (released_map _ _ _ _ rfl).trans (if_pos rfl)
    · rw [lookup_insert_ne hk, lookup_erase_ne hk]
      refine ⟨waits k, served_none ?_ (queued_of_none rfl), hslots k⟩
      exact (released_map _ _ _ _ rfl).trans (if_neg hk)

theorem Consistent.requestTimedOut (hslots : Consistent c s waits)
    {entry : ARP.ARPCacheEntry} (hentry : s.arp.arpCache.lookup nextHopAddr = some entry)
    (htimer : entry.timer = some s.simTime) {arp : ARP}
    (h : s.arp.requestTimedOut c s.simTime nextHopAddr = .ok (arp, emitted)) :
    Kept c waits ((s.simTime, .requestTimedOut nextHopAddr), (s.afterARP arp emitted).2)
      (s.afterARP arp emitted).1 := by
  have hslot := hslots nextHopAddr
  rw [hentry] at hslot
  obtain ⟨first, rest, hwaits, hqueue, hwaiting⟩ := hslot.of_timer htimer
  rcases ARP.requestTimedOut_cases hentry hwaiting.resolving htimer h with
    ⟨hsignal, entry', hresolving, htimer', rfl, -⟩ | ⟨hsignal, rfl, -⟩
  · intro k
    rw [afterARP, hsignal]
    refine ⟨waits k, served_none (released_of_nil rfl) (queued_of_none rfl), ?_⟩
    simp only [receiveSignal]
    by_cases hk : k = nextHopAddr
    · subst hk
      rw [lookup_insert, hwaits, hqueue]
      refine .waiting ⟨hresolving, hwaiting.started, fun t ht => ?_, hwaiting.later⟩
      rw [htimer'] at ht
      rw [← Option.some.inj ht, le_add_iff_nonneg_right]
      exact hresolving.retryTimeout
    · rw [lookup_insert_ne hk]
      exact hslots k
  · intro k
    rw [afterARP, hsignal]
    simp only [receiveSignal, arpResolutionTimedOut_eq]
    by_cases hk : k = nextHopAddr
    · subst hk
      rw [lookup_erase, lookup_erase]
      refine ⟨[], ?_, .idle fun e he => by cases he⟩
      apply hslot.served .dropped _ rfl
      · intro first rest hwaits d
        exact .inr ⟨_, hsignal, rfl⟩
      · exact (released_map _ _ _ _ rfl).trans (if_pos rfl)
    · rw [lookup_erase_ne hk, lookup_erase_ne hk]
      refine ⟨waits k, served_none ?_ (queued_of_none rfl), hslots k⟩
      exact (released_map _ _ _ _ rfl).trans (if_neg hk)

theorem released_flush (k : IPv4Address) (pendingPackets : PendingPackets P)
    (hreleased : l.2.released = (flush pendingPackets).2) :
    released k l = ((pendingPackets.lookup k).getD []).map fun d => ⟨k, d, .dropped⟩ := by
  let dropAll (j : IPv4Address) (packets : List (IPv4Datagram P)) : List (Released P) :=
    packets.map fun d => ⟨j, d, .dropped⟩
  have hkey : ∀ j packets, ∀ r ∈ dropAll j packets, r.nextHop = j := by
    intro j packets r hr
    obtain ⟨d, -, rfl⟩ := List.mem_map.mp hr
    rfl
  rw [released, hreleased]
  apply (Map.filter_flatMap_entries hkey pendingPackets k).trans
  cases pendingPackets.lookup k with
  | none => rfl
  | some packets => rfl

theorem Consistent.stop (hslots : Consistent c s waits) {upper : Bool}
    (hreleased : l.2.released = (flush s.pendingPackets).2) (hqueued : l.2.queued = none)
    (hstop : l.1.2 = .stop) :
    Kept c waits l { s with isUp := upper, arp := s.arp.stop, pendingPackets := ∅ } := by
  intro k
  refine ⟨[], (hslots k).served .dropped ?_ hqueued fun first rest hwaits d => .inl hstop, ?_⟩
  · exact released_flush k s.pendingPackets hreleased
  · exact .idle fun e he => by cases he

theorem Consistent.handle (hslots : Consistent c s waits) {e : Event P}
    (hnext : s.IsNext s.simTime e) (h : handle c useProxyARP s e = .ok (s', o)) :
    Kept c waits ((s.simTime, e), o) s' := by
  cases e with
  | sendDatagramToOutput datagram ie nextHopAddr =>
    simp only [IPv4NetworkLayer.handle] at h
    split at h
    · exact hslots.sendDatagramToOutput h
    · cases h
      exact hslots.kept_same rfl rfl
  | arpPacket packet ie routing =>
    simp only [IPv4NetworkLayer.handle] at h
    split at h
    · obtain ⟨⟨arp, emitted⟩, hcall, h⟩ := bind_eq_ok_iff.mp h
      cases h
      exact hslots.arpPacket hcall
    · cases h
      exact hslots.kept_same rfl rfl
  | requestTimedOut nextHopAddr =>
    simp only [IPv4NetworkLayer.handle] at h
    split at h
    · obtain ⟨⟨arp, emitted⟩, hcall, h⟩ := bind_eq_ok_iff.mp h
      cases h
      obtain ⟨entry, hentry, htimer⟩ := hnext.2.2
      exact hslots.requestTimedOut hentry htimer hcall
    · cases h
  | start =>
    obtain ⟨arp, hstart, h⟩ := bind_eq_ok_iff.mp h
    obtain ⟨-, -, harp⟩ := bind_eq_ok_iff.mp hstart
    cases harp
    cases h
    exact fun k => ⟨waits k, served_none (released_of_nil rfl) (queued_of_none rfl), hslots k⟩
  | stop =>
    cases h
    exact hslots.stop rfl rfl rfl

theorem Consistent.step (hslots : Consistent c s waits) {e : SimTime × Event P}
    (h : step c useProxyARP s e = some (s', o)) : Kept c waits (e, o) s' := by
  unfold IPv4NetworkLayer.step at h
  split at h
  · next hnext =>
    obtain ⟨t, e⟩ := e
    have hnow : ({ s with simTime := t } : IPv4NetworkLayer P).IsNext t e :=
      ⟨le_refl t, hnext.2.1, hnext.2.2⟩
    exact (hslots.advance hnext).handle hnow (toOption_eq_some.mp h)
  · cases h

end Step

section Run

variable {c : ARP.Parameters} {useProxyARP isUp : Bool} {s s' : IPv4NetworkLayer P}
  {history : List (Label P)} {l : Label P} {w' : List (Queued P)} {k : IPv4Address}

/-- Nothing that was queued is lost, released twice or released out of order. -/
def Conserved (k : IPv4Address) (history : List (Label P)) : Prop :=
  (queuedFor k history).map (·.datagram) =
    (releasedFor k history).map (·.datagram) ++ (waitingFor k history).map (·.datagram)

theorem Conserved.length_le (h : Conserved k history) :
    (releasedFor k history).length ≤ (queuedFor k history).length := by
  have hlength := congrArg List.length h
  simp only [List.length_map, List.length_append] at hlength
  omega

theorem Conserved.waitingFor_eq (h : Conserved k history)
    (hserved : Served k (waitingFor k history) l w') : waitingFor k (l :: history) = w' := by
  rcases hserved with ⟨hreleased, rfl⟩ | ⟨hqueued, rfl, hdatagrams, -⟩
  · rw [waitingFor, queuedFor, releasedFor, hreleased, List.append_nil,
      List.drop_append_of_le_length h.length_le]
    rfl
  · have hlength := congrArg List.length hdatagrams
    simp only [List.length_map, waitingFor, List.length_drop] at hlength
    apply List.drop_eq_nil_of_le
    rw [queuedFor, releasedFor, hqueued, List.append_nil, List.length_append, hlength]
    omega

theorem Conserved.step (h : Conserved k history)
    (hserved : Served k (waitingFor k history) l w') : Conserved k (l :: history) := by
  unfold Conserved
  rw [h.waitingFor_eq hserved, queuedFor, releasedFor, List.map_append, List.map_append, h]
  rcases hserved with ⟨hreleased, rfl⟩ | ⟨hqueued, rfl, hdatagrams, -⟩
  · rw [hreleased, List.map_nil, List.append_nil, List.map_append, List.append_assoc]
  · rw [hqueued, hdatagrams, List.map_nil, List.append_nil]

theorem run_consistent (hrun : Run (· = new isUp) (StepOf (step c useProxyARP)) history s) :
    Consistent c s (fun k => waitingFor k history) ∧ ∀ k, Conserved k history := by
  induction hrun with
  | init hinit =>
    subst hinit
    exact ⟨fun k => .idle fun e he => (by cases he), fun k => rfl⟩
  | @step history s s' l hrun hstep ih =>
    obtain ⟨hslots, hconserved⟩ := ih
    have hkept : Kept c (fun k => waitingFor k history) l s' := hslots.step hstep
    refine ⟨fun k => ?_, fun k => ?_⟩
    · obtain ⟨w', hserved, hslot⟩ := hkept k
      simp only [(hconserved k).waitingFor_eq hserved]
      exact hslot
    · obtain ⟨w', hserved, -⟩ := hkept k
      exact (hconserved k).step hserved

theorem run_settles (hrun : Run (· = new isUp) (StepOf (step c useProxyARP)) history s) :
    Always (fun earlier l => ∀ r ∈ l.2.released, Settles (waitingFor r.nextHop earlier) l r)
      history := by
  induction hrun with
  | init hinit => trivial
  | step hrun hstep ih =>
    refine ⟨ih, fun r hr => ?_⟩
    obtain ⟨w', hserved, -⟩ := (run_consistent hrun).1.step hstep r.nextHop
    have hmem : r ∈ released r.nextHop _ := List.mem_filter.mpr ⟨hr, decide_eq_true rfl⟩
    rcases hserved with ⟨hreleased, -⟩ | ⟨-, -, -, hsettles⟩
    · rw [hreleased] at hmem
      cases hmem
    · exact hsettles r hmem

theorem Slot.waits {now : SimTime} {w : List (Queued P)} {queue : Option (List (IPv4Datagram P))}
    {entry : Option ARP.ARPCacheEntry} (hslot : Slot c now w queue entry) {q : Queued P}
    (hq : q ∈ w) : now ≤ q.time + (max 1 c.retryCount : ℤ) * c.retryTimeout ∧
      ∃ e ∈ entry, e.pending = true ∧ ∃ t ∈ e.timer, now ≤ t := by
  cases hslot with
  | idle hentry => cases hq
  | @waiting first rest e hentry =>
    have hresolving := hentry.resolving
    have htimer := hentry.onTime _ hresolving.timer
    refine ⟨?_, e, rfl, hresolving.pending, _, hresolving.timer, htimer⟩
    have hfirst : first.time ≤ q.time := by
      rcases List.mem_cons.mp hq with rfl | hrest
      · exact le_refl _
      · exact hentry.later q hrest
    have hcount : (e.numRetries : ℚ) + 1 ≤ (max 1 c.retryCount : ℤ) := by
      exact_mod_cast hresolving.numRetries
    calc now ≤ first.time + (e.numRetries + 1) * c.retryTimeout := htimer
      _ ≤ q.time + (max 1 c.retryCount : ℤ) * c.retryTimeout :=
        add_le_add hfirst (mul_le_mul_of_nonneg_right hcount hresolving.retryTimeout)

/-- Every datagram that is queued for a next hop is released once, in the order of the
queue: sent to the address that the next hop answered with, on the interface with which
the first datagram that waited started the resolution, or dropped when the resolution
failed or the node was stopped. What is still queued waits for a resolution that has not
ended, and for no longer than all its request timeouts. -/
theorem pendingPackets_settled (hrun : Run (· = new isUp) (StepOf (step c useProxyARP)) history s) :
    (∀ k, (queuedFor k history).map (·.datagram) =
      (releasedFor k history).map (·.datagram) ++ (waitingFor k history).map (·.datagram)) ∧
    (∀ k, waiting s.pendingPackets k = (waitingFor k history).map (·.datagram)) ∧
    (∀ k, ∀ q ∈ waitingFor k history,
      s.simTime ≤ q.time + (max 1 c.retryCount : ℤ) * c.retryTimeout ∧
      ∃ entry ∈ s.arp.arpCache.lookup k, entry.pending = true ∧
        ∃ t ∈ entry.timer, s.simTime ≤ t) ∧
    Always (fun earlier l => ∀ r ∈ l.2.released, Settles (waitingFor r.nextHop earlier) l r)
      history := by
  obtain ⟨hslots, hconserved⟩ := run_consistent hrun
  refine ⟨hconserved, fun k => (hslots k).getD, fun k q hq => ?_, run_settles hrun⟩
  exact (hslots k).waits hq

end Run

def parameters : ARP.Parameters where
  retryTimeout := 1
  retryCount := 3
  cacheTimeout := 120
  respondToProxyARP := true

def eth (interfaceId : ℤ) (macAddress : MACAddress) (ipAddress : IPv4Address) : InterfaceEntry where
  mtu := 1500
  ipAddress := ipAddress
  interfaceId := interfaceId
  isBroadcast := true
  macAddress := macAddress
  netmask := 0xFFFFFF00

def ping (identification : ℤ) : IPv4Datagram Unit where
  name := "ping"
  headerLength := 20
  byteLength := 84
  srcAddress := 0x0A000001
  destAddress := 0x0A000909
  timeToLive := 32
  identification := identification
  moreFragments := false
  dontFragment := false
  fragmentOffset := 0
  encapsulatedPacket := some ()

def reply (srcIPAddress : IPv4Address) (srcMACAddress : MACAddress) : ARPPacket where
  opcode := .ARP_REPLY
  srcMACAddress := srcMACAddress
  destMACAddress := 0xAA0001
  srcIPAddress := srcIPAddress
  destIPAddress := 0x0A000001

/-- Two datagrams wait for one next hop and another one for a second next hop, which
does not answer. -/
def resolution (second : InterfaceEntry) : List (SimTime × Event Unit) :=
  [(0, .sendDatagramToOutput (ping 1) (eth 1 0xAA0001 0x0A000001) 0x0A000002),
    (0, .sendDatagramToOutput (ping 2) (eth 1 0xAA0001 0x0A000001) 0x0A000003),
    (0, .sendDatagramToOutput (ping 3) second 0x0A000002),
    (1, .requestTimedOut 0x0A000002),
    (1, .requestTimedOut 0x0A000003),
    (1, .arpPacket (reply 0x0A000002 0xBB0001) (eth 1 0xAA0001 0x0A000001) ⟨true, none⟩),
    (2, .requestTimedOut 0x0A000003),
    (3, .requestTimedOut 0x0A000003)]

theorem pendingPackets_settled_resolution : ∃ (s : IPv4NetworkLayer Unit)
    (history : List (Label Unit)),
    (releasedFor 0x0A000002 history).map (·.datagram.identification) = [1, 3] ∧
    (releasedFor 0x0A000003 history).map (·.fate) = [.dropped] ∧
    (∀ k, (queuedFor k history).map (·.datagram) =
      (releasedFor k history).map (·.datagram) ++ (waitingFor k history).map (·.datagram)) ∧
    Always (fun earlier l => ∀ r ∈ l.2.released, Settles (waitingFor r.nextHop earlier) l r)
      history := by
  obtain ⟨s, history, hrun, hsent, hdropped⟩ := exists_run_of_execute (step parameters false)
    (new true) (resolution (eth 1 0xAA0001 0x0A000001))
    (fun _ history =>
      (releasedFor 0x0A000002 history).map (·.datagram.identification) = [1, 3] ∧
      (releasedFor 0x0A000003 history).map (·.fate) = [.dropped])
    (by decide +kernel)
  obtain ⟨hconserved, -, -, hsettles⟩ := pendingPackets_settled hrun
  exact ⟨s, history, hsent, hdropped, hconserved, hsettles⟩

/-- A datagram queued for the same next hop on another interface is sent on the
interface of the first one. -/
theorem sent_on_another_interface : ∃ (s : IPv4NetworkLayer Unit) (history : List (Label Unit)),
    Run (· = new true) (StepOf (step parameters false)) history s ∧
    (queuedFor 0x0A000002 history).map (fun q => (q.datagram.identification, q.ie.interfaceId)) =
      [(1, 1), (3, 2)] ∧
    (releasedFor 0x0A000002 history).map (fun r => (r.datagram.identification, r.fate)) =
      [(1, .sent (eth 1 0xAA0001 0x0A000001) 0xBB0001),
        (3, .sent (eth 1 0xAA0001 0x0A000001) 0xBB0001)] :=
  exists_run_of_execute (step parameters false) (new true)
    (resolution (eth 2 0xAA0002 0x0A000101))
    (fun _ history =>
      (queuedFor 0x0A000002 history).map (fun q => (q.datagram.identification, q.ie.interfaceId)) =
        [(1, 1), (3, 2)] ∧
      (releasedFor 0x0A000002 history).map (fun r => (r.datagram.identification, r.fate)) =
        [(1, .sent (eth 1 0xAA0001 0x0A000001) 0xBB0001),
          (3, .sent (eth 1 0xAA0001 0x0A000001) 0xBB0001)])
    (by decide +kernel)

end IPv4NetworkLayer

end inet

import LoRaInet.NetworkLayer.Arp.ARP
import LoRaInet.Transition.Run

open omnetpp container transition

namespace inet

/-- `ARP` with the clock of the simulation. -/
structure ARPModule where
  simTime : SimTime
  arp : ARP

def ARP.Signal.notification : ARP.Signal → ARP.Notification
  | .initiatedARPResolution n | .completedARPResolution n | .failedARPResolution n => n

namespace ARPModule

inductive Event where
  | resolveL3Address (address : IPv4Address) (ie : InterfaceEntry)
  | arpPacket (packet : ARPPacket) (ie : InterfaceEntry) (routing : ARP.Routing)
  | requestTimedOut (nextHopAddr : IPv4Address)
  | start
  | stop
  deriving DecidableEq

structure Output where
  /-- What `resolveL3Address` returns. -/
  macAddress : Option MACAddress := none
  emitted : ARP.Emitted := {}

variable (c : ARP.Parameters) (s : ARPModule)

/-- Messages that arrive while the node is down are discarded. A call is not. -/
def handle : Event → Except Fault (ARPModule × Output)
  | .resolveL3Address address ie => do
    let (arp, macAddress, emitted) ← s.arp.resolveL3Address c s.simTime address ie
    return ({ s with arp := arp }, { macAddress := some macAddress, emitted := emitted })
  | .arpPacket packet ie routing =>
    if s.arp.isUp then do
      let (arp, emitted) ← s.arp.processARPPacket c s.simTime packet ie routing
      return ({ s with arp := arp }, { emitted := emitted })
    else .ok (s, {})
  | .requestTimedOut nextHopAddr =>
    if s.arp.isUp then do
      let (arp, emitted) ← s.arp.requestTimedOut c s.simTime nextHopAddr
      return ({ s with arp := arp }, { emitted := emitted })
    else .error (.cRuntimeError "Model error: self msg received when protocol is down")
  | .start => do
    let arp ← s.arp.start
    return ({ s with arp := arp }, {})
  | .stop => .ok ({ s with arp := s.arp.stop }, {})

/-- No timer is overdue at `t`, and a request timeout arrives when its timer says. -/
def IsNext (t : SimTime) (e : Event) : Prop :=
  s.simTime ≤ t ∧ (∀ e ∈ s.arp.arpCache.entries, ∀ timer ∈ e.2.timer, t ≤ timer) ∧
  match e with
  | .requestTimedOut nextHopAddr => ∃ entry ∈ s.arp.arpCache.lookup nextHopAddr,
      entry.timer = some t
  | _ => True

instance (s : ARPModule) (t : SimTime) : (e : Event) → Decidable (s.IsNext t e)
  | .requestTimedOut _ => inferInstanceAs (Decidable (_ ∧ _ ∧ _))
  | .resolveL3Address .. | .arpPacket .. | .start | .stop => inferInstanceAs (Decidable (_ ∧ _ ∧ True))

/-- A call that throws is no step. -/
def step (e : SimTime × Event) : Option (ARPModule × Output) :=
  if s.IsNext e.1 e.2 then (handle c { s with simTime := e.1 } e.2).toOption else none

def new (isUp : Bool) : ARPModule where
  simTime := 0
  arp := { isUp := isUp, arpCache := ∅ }

abbrev Label := (SimTime × Event) × Output

section Labels

variable (a : IPv4Address) (l : Label)

/-- A resolution of the address starts. -/
def Initiates : Prop :=
  ∃ n, l.2.emitted.signal = some (.initiatedARPResolution n) ∧ n.l3Address = a

def Completes : Prop :=
  ∃ n, l.2.emitted.signal = some (.completedARPResolution n) ∧ n.l3Address = a

def Fails : Prop :=
  ∃ n, l.2.emitted.signal = some (.failedARPResolution n) ∧ n.l3Address = a

/-- What ends a resolution. -/
def Ends : Prop := Completes a l ∨ Fails a l ∨ l.1.2 = .stop

/-- A packet of the owner of the address says where it is. -/
def Announces (mac : MACAddress) : Prop :=
  ∃ packet ie routing, l.1.2 = .arpPacket packet ie routing ∧ packet.srcIPAddress = a ∧
    packet.srcMACAddress = mac

end Labels

/-- What one step does to the entry of an address. -/
inductive Effect (c : ARP.Parameters) (a : IPv4Address) (s s' : ARPModule) (l : Label) : Prop where
  | untouched (hsame : s'.arp.arpCache.lookup a = s.arp.arpCache.lookup a)
    (hsilent : ¬ Initiates a l ∧ ¬ Ends a l ∧ ¬ l.2.emitted.Requests a)
    (hpacket : s.arp.isUp = true → s.arp.arpCache.lookup a ≠ none → ∀ mac, ¬ Announces a l mac)
  | initiated (entry : ARP.ARPCacheEntry) (ie : InterfaceEntry)
    (hbefore : ∀ old ∈ s.arp.arpCache.lookup a, old.pending = false)
    (hafter : s'.arp.arpCache.lookup a = some entry) (hentry : entry.Resolving c l.1.1 ie)
    (hretries : entry.numRetries = 0) (haddressed : ARP.Addressed ie) (hinitiates : Initiates a l)
    (hends : ¬ Ends a l)
  | retried (old entry : ARP.ARPCacheEntry) (hbefore : s.arp.arpCache.lookup a = some old)
    (hpending : old.pending = true) (hafter : s'.arp.arpCache.lookup a = some entry)
    (hentry : ∀ started ie, old.Resolving c started ie → entry.Resolving c started ie)
    (hretries : entry.numRetries = old.numRetries + 1) (hrequests : l.2.emitted.Requests a)
    (hsilent : ¬ Initiates a l ∧ ¬ Ends a l)
  | completed (entry : ARP.ARPCacheEntry) (hafter : s'.arp.arpCache.lookup a = some entry)
    (hentry : entry.Resolved) (hup : s.arp.isUp = true) (hupdate : entry.lastUpdate = l.1.1)
    (hannounces : Announces a l entry.macAddress) (hcompletes : Completes a l)
    (hrequests : ¬ l.2.emitted.Requests a)
  | failed (old : ARP.ARPCacheEntry) (hbefore : s.arp.arpCache.lookup a = some old)
    (hpending : old.pending = true) (hafter : s'.arp.arpCache.lookup a = none) (hfails : Fails a l)
    (hrequests : ¬ l.2.emitted.Requests a)
  | stopped (hafter : s'.arp.arpCache.lookup a = none) (hstop : l.1.2 = .stop) (houtput : l.2 = {})

/-- Every entry belongs to a resolution in progress or to one that has ended. -/
def Sound : Prop :=
  ∀ a, ∀ entry ∈ s.arp.arpCache.lookup a,
    (∃ started ie, entry.Resolving c started ie) ∨ entry.Resolved

section Steps

variable {c : ARP.Parameters} {s s' : ARPModule} {e : SimTime × Event} {o : Output} {a : IPv4Address}

theorem step_eq_some (h : step c s e = some (s', o)) :
    s.IsNext e.1 e.2 ∧ handle c { s with simTime := e.1 } e.2 = .ok (s', o) := by
  unfold step at h
  split at h
  · next hnext => exact ⟨hnext, toOption_eq_some.mp h⟩
  · cases h

/-- A step that signals nothing and sends no request leaves the other addresses alone. -/
theorem Effect.of_silent {l : Label} (hemitted : l.2.emitted = {})
    (hcache : s'.arp.arpCache = s.arp.arpCache) (hstop : l.1.2 ≠ .stop)
    (hpacket : s.arp.isUp = true → s.arp.arpCache.lookup a ≠ none → ∀ mac, ¬ Announces a l mac) :
    Effect c a s s' l := by
  refine .untouched (by rw [hcache]) ⟨?_, ?_, ?_⟩ hpacket
  · rintro ⟨n, hn, -⟩
    rw [hemitted] at hn
    cases hn
  · rintro (⟨n, hn, -⟩ | ⟨n, hn, -⟩ | hn)
    · rw [hemitted] at hn
      cases hn
    · rw [hemitted] at hn
      cases hn
    · exact hstop hn
  · rw [hemitted]
    rintro ⟨sent, hsent, -⟩
    cases hsent

variable {address : IPv4Address}

theorem Effect.of_other {l : Label} (ha : a ≠ address)
    (hsame : s'.arp.arpCache.lookup a = s.arp.arpCache.lookup a)
    (hsignal : ∀ signal ∈ l.2.emitted.signal, signal.notification.l3Address = address)
    (hrequests : ∀ b, l.2.emitted.Requests b → b = address) (hstop : l.1.2 ≠ .stop)
    (hpacket : ∀ mac, ¬ Announces a l mac) : Effect c a s s' l := by
  refine .untouched hsame ⟨?_, ?_, fun hrequest => ha (hrequests a hrequest)⟩ fun _ _ => hpacket
  · rintro ⟨n, hn, rfl⟩
    exact ha (hsignal _ hn)
  · rintro (⟨n, hn, rfl⟩ | ⟨n, hn, rfl⟩ | hn)
    · exact ha (hsignal _ hn)
    · exact ha (hsignal _ hn)
    · exact hstop hn

variable {emitted : ARP.Emitted}

theorem requests_unique {a b : IPv4Address} (ha : emitted.Requests a)
    (hb : emitted.Requests b) : b = a := by
  obtain ⟨sent, hsent, -, rfl⟩ := ha
  obtain ⟨sent', hsent', -, rfl⟩ := hb
  rw [Option.some.inj (hsent'.symm.trans hsent)]

theorem resolveL3Address_effect {t : SimTime} {ie : InterfaceEntry} {arp : ARP} {mac : MACAddress}
    (h : s.arp.resolveL3Address c t address ie = .ok (arp, mac, emitted)) :
    Effect c a s ⟨t, arp⟩ ((t, .resolveL3Address address ie), ⟨some mac, emitted⟩) ∧
      arp.isUp = s.arp.isUp := by
  have hpacket : ∀ mac', ¬ Announces a ((t, .resolveL3Address address ie), ⟨some mac, emitted⟩) mac' := by
    rintro mac' ⟨packet, ie', routing, hevent, -⟩
    cases hevent
  rcases ARP.resolveL3Address_cases h with ⟨rfl, rfl, -⟩ | ⟨rfl, rfl, -⟩ |
    ⟨-, hended, entry, hentry, rfl, hretries, hrequests, hsignal, haddressed⟩
  · exact ⟨.of_silent rfl rfl nofun fun _ _ => hpacket, rfl⟩
  · exact ⟨.of_silent rfl rfl nofun fun _ _ => hpacket, rfl⟩
  · refine ⟨?_, rfl⟩
    by_cases ha : a = address
    · subst ha
      refine .initiated entry ie hended (AList.lookup_insert _) hentry hretries haddressed
        ⟨_, hsignal, rfl⟩ ?_
      rintro (⟨n, hn, -⟩ | ⟨n, hn, -⟩ | hn)
      · cases hsignal.symm.trans hn
      · cases hsignal.symm.trans hn
      · cases hn
    · refine .of_other ha (AList.lookup_insert_ne ha) (fun signal hs => ?_)
        (fun b hb => requests_unique hrequests hb) nofun hpacket
      cases hsignal.symm.trans hs
      rfl

theorem arpPacket_effect {t : SimTime} {packet : ARPPacket} {ie : InterfaceEntry}
    {routing : ARP.Routing} {arp : ARP} (hsound : Sound c s)
    (hup : s.arp.isUp = true)
    (h : s.arp.processARPPacket c t packet ie routing = .ok (arp, emitted)) :
    Effect c a s ⟨t, arp⟩ ((t, .arpPacket packet ie routing), ⟨none, emitted⟩) ∧
      arp.isUp = s.arp.isUp := by
  have hcache : ∀ entry ∈ s.arp.arpCache.lookup packet.srcIPAddress,
      entry.pending = true ∨ entry.timer = none := by
    intro entry hentry
    rcases hsound _ entry hentry with ⟨started, ie, hresolving⟩ | hresolved
    · exact .inl hresolving.pending
    · exact .inr hresolved.timer
  have hannounces : ∀ mac, Announces a ((t, .arpPacket packet ie routing), ⟨none, emitted⟩) mac →
      packet.srcIPAddress = a := by
    rintro mac ⟨packet', ie', routing', hevent, hsrc, -⟩
    cases hevent
    exact hsrc
  rcases ARP.processARPPacket_cases hcache h with ⟨rfl, rfl, hnone⟩ |
    ⟨entry, hentry, hmac, hupdate, rfl, hrequests, sender, -, hsignal⟩
  · refine ⟨.of_silent rfl rfl nofun fun _ hsome mac hmac => hsome ?_, rfl⟩
    rw [← hannounces mac hmac]
    exact hnone
  · refine ⟨?_, rfl⟩
    by_cases ha : a = packet.srcIPAddress
    · subst ha
      exact .completed entry (AList.lookup_insert _) hentry hup hupdate
        ⟨packet, ie, routing, rfl, rfl, hmac.symm⟩ ⟨_, hsignal, rfl⟩ (hrequests _)
    · refine .of_other ha (AList.lookup_insert_ne ha) (fun signal hs => ?_)
        (fun b hb => (hrequests b hb).elim) nofun fun mac hmac => ha (hannounces mac hmac).symm
      cases hsignal.symm.trans hs
      rfl

theorem requestTimedOut_effect {t : SimTime} {old : ARP.ARPCacheEntry}
    {arp : ARP} (hsound : Sound c s)
    (hold : s.arp.arpCache.lookup address = some old) (htimer : old.timer = some t)
    (h : s.arp.requestTimedOut c t address = .ok (arp, emitted)) :
    Effect c a s ⟨t, arp⟩ ((t, .requestTimedOut address), ⟨none, emitted⟩) ∧
      arp.isUp = s.arp.isUp := by
  have hpacket : ∀ mac, ¬ Announces a ((t, .requestTimedOut address), ⟨none, emitted⟩) mac := by
    rintro mac ⟨packet, ie, routing, hevent, -⟩
    cases hevent
  have hresolving : ∃ started ie, old.Resolving c started ie := by
    refine (hsound _ old hold).resolve_right fun hresolved => ?_
    rw [hresolved.timer] at htimer
    cases htimer
  obtain ⟨started, ie, hresolving⟩ := hresolving
  rcases ARP.requestTimedOut_cases hold hresolving htimer h with
    ⟨hsignal, entry, hentry, -, rfl, hretries, hrequests⟩ | ⟨hsignal, rfl, hpackets⟩
  · refine ⟨?_, rfl⟩
    by_cases ha : a = address
    · subst ha
      refine .retried old entry hold hresolving.pending (AList.lookup_insert _) ?_ hretries hrequests ⟨?_, ?_⟩
      · intro started' ie' h'
        have hstarted : started' = started :=
          add_right_cancel (Option.some.inj (h'.timer.symm.trans hresolving.timer))
        rw [hstarted, ← h'.ie, hresolving.ie]
        exact hentry
      · rintro ⟨n, hn, -⟩
        cases hsignal.symm.trans hn
      · rintro (⟨n, hn, -⟩ | ⟨n, hn, -⟩ | hn)
        · cases hsignal.symm.trans hn
        · cases hsignal.symm.trans hn
        · cases hn
    · refine .of_other ha (AList.lookup_insert_ne ha) (fun signal hs => ?_)
        (fun b hb => requests_unique hrequests hb) nofun hpacket
      cases hsignal.symm.trans hs
  · refine ⟨?_, rfl⟩
    by_cases ha : a = address
    · subst ha
      refine .failed old hold hresolving.pending (AList.lookup_erase _ _) ⟨_, hsignal, rfl⟩ ?_
      rintro ⟨sent, hsent, -⟩
      cases hpackets.symm.trans hsent
    · refine .of_other ha (AList.lookup_erase_ne ha) (fun signal hs => ?_) ?_ nofun hpacket
      · cases hsignal.symm.trans hs
        rfl
      · rintro b ⟨sent, hsent, -⟩
        cases hpackets.symm.trans hsent

theorem step_effect (hsound : Sound c s) (h : step c s e = some (s', o)) (a : IPv4Address) :
    Effect c a s s' (e, o) ∧ s'.simTime = e.1 ∧
      (s.arp.isUp = true → e.2 ≠ .stop → s'.arp.isUp = true) := by
  obtain ⟨⟨-, -, hnext⟩, h⟩ := step_eq_some h
  obtain ⟨t, event⟩ := e
  cases event with
  | resolveL3Address address ie =>
    obtain ⟨⟨arp, mac, emitted⟩, hcall, h⟩ := bind_eq_ok_iff.mp h
    cases h
    obtain ⟨heffect, hsame⟩ := resolveL3Address_effect (s := s) (a := a) hcall
    exact ⟨heffect, rfl, fun hup _ => hsame.trans hup⟩
  | arpPacket packet ie routing =>
    simp only [handle] at h
    split at h
    · next hup =>
      obtain ⟨⟨arp, emitted⟩, hcall, h⟩ := bind_eq_ok_iff.mp h
      cases h
      obtain ⟨heffect, hsame⟩ := arpPacket_effect (s := s) (a := a) hsound hup hcall
      exact ⟨heffect, rfl, fun hup _ => hsame.trans hup⟩
    · next hdown =>
      cases h
      exact ⟨.of_silent rfl rfl nofun fun hup => absurd hup hdown, rfl, fun hup _ => hup⟩
  | requestTimedOut nextHopAddr =>
    obtain ⟨old, hold, htimer⟩ := hnext
    simp only [handle] at h
    split at h
    · next hup =>
      obtain ⟨⟨arp, emitted⟩, hcall, h⟩ := bind_eq_ok_iff.mp h
      cases h
      obtain ⟨heffect, hsame⟩ := requestTimedOut_effect (s := s) (a := a) hsound hold htimer hcall
      exact ⟨heffect, rfl, fun hup _ => hsame.trans hup⟩
    · cases h
  | start =>
    obtain ⟨arp, hcall, h⟩ := bind_eq_ok_iff.mp h
    cases h
    obtain ⟨-, -, hcall⟩ := bind_eq_ok_iff.mp hcall
    cases hcall
    refine ⟨.of_silent rfl rfl nofun fun _ _ mac => ?_, rfl, fun _ _ => rfl⟩
    rintro ⟨packet, ie, routing, hevent, -⟩
    cases hevent
  | stop =>
    cases h
    exact ⟨.stopped (AList.lookup_empty a) rfl rfl, rfl, fun _ hstop => absurd rfl hstop⟩

end Steps

end ARPModule

end inet

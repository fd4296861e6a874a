import LoRaInet.NetworkLayer.Arp.ARP.Resolutions

open omnetpp container transition

namespace inet.ARPModule

variable {c : ARP.Parameters} {s s' : ARPModule} {a : IPv4Address} {l x : Label}
  {history later : List Label}

/-- No resolution of the address starts or ends in these steps. -/
def Quiet (a : IPv4Address) (labels : List Label) : Prop :=
  ∀ l ∈ labels, ¬ Initiates a l ∧ ¬ Ends a l

instance (emitted : ARP.Emitted) : Decidable (emitted.Requests a) :=
  inferInstanceAs (Decidable (∃ sent ∈ emitted.packet, _ ∧ _))

/-- The requests for the address that were sent in these steps. -/
def requests (a : IPv4Address) (labels : List Label) : ℕ :=
  labels.countP fun l => l.2.emitted.Requests a

/-- The entry belongs to the resolution that `l` started, and so it has been in the steps since. -/
structure InProgress (c : ARP.Parameters) (a : IPv4Address) (entry : ARP.ARPCacheEntry) (l : Label)
    (later : List Label) : Prop where
  quiet : Quiet a later
  resolving : entry.Resolving c l.1.1 entry.ie
  numRetries : entry.numRetries = requests a later
  addressed : ARP.Addressed entry.ie

/-- What has become of a resolution in the steps since: it goes on, or it has ended with one step.
Its requests are counted from its start on. -/
inductive Outcome (c : ARP.Parameters) (a : IPv4Address) (s : ARPModule) (l : Label) :
    List Label → Prop where
  | inProgress {later : List Label} (entry : ARP.ARPCacheEntry)
    (hentry : s.arp.arpCache.lookup a = some entry) (hprogress : InProgress c a entry l later)
    (hrequests : (requests a (later ++ [l]) : ℤ) ≤ max 1 c.retryCount) : Outcome c a s l later
  | ended (after : List Label) (e : Label) {during : List Label} (hends : Ends a e)
    (hquiet : Quiet a during) (hrequests : (requests a (e :: during ++ [l]) : ℤ) ≤ max 1 c.retryCount)
    (htime : e.1.1 ≤ l.1.1 + max 1 c.retryCount * c.retryTimeout) :
    Outcome c a s l (after ++ e :: during)

/-- The last packet of the owner of the address arrived then, and the cache has not been flushed since. -/
def Announced (a : IPv4Address) (mac : MACAddress) (t : SimTime) (history : List Label) : Prop :=
  ∃ later p earlier, history = later ++ p :: earlier ∧ Announces a p mac ∧ p.1.1 = t ∧
    ∀ l ∈ later, l.1.2 ≠ .stop ∧ ∀ mac', ¬ Announces a l mac'

/-- Every failure ends a resolution, and every address that is returned was announced. -/
def Justified (c : ARP.Parameters) (earlier : List Label) (x : Label) : Prop :=
  (∀ a, Fails a x → ∃ during l before, earlier = during ++ l :: before ∧ Initiates a l ∧
    Quiet a during) ∧
  ∀ a ie, x.1.2 = .resolveL3Address a ie → ∀ mac ∈ x.2.macAddress, mac.isUnspecified = false →
    ∃ t, Announced a mac t earlier ∧ x.1.1 ≤ t + c.cacheTimeout

theorem requests_cons_of_not (h : ¬ x.2.emitted.Requests a) :
    requests a (x :: later) = requests a later :=
  List.countP_cons_of_neg (by simpa using h)

theorem requests_cons (h : x.2.emitted.Requests a) :
    requests a (x :: later) = requests a later + 1 :=
  List.countP_cons_of_pos (by simpa using h)

theorem requests_append_le : requests a (later ++ [l]) ≤ requests a later + 1 := by
  unfold requests
  rw [List.countP_append]
  exact Nat.add_le_add_left List.countP_le_length _

theorem Quiet.cons (h : Quiet a later) (hx : ¬ Initiates a x ∧ ¬ Ends a x) : Quiet a (x :: later) :=
  List.forall_mem_cons.mpr ⟨hx, h⟩

variable {entry : ARP.ARPCacheEntry}

theorem InProgress.requests_le (h : InProgress c a entry l later) :
    (requests a (later ++ [l]) : ℤ) ≤ max 1 c.retryCount := by
  have hle : requests a (later ++ [l]) ≤ entry.numRetries + 1 := by
    rw [h.numRetries]
    exact requests_append_le
  have hbound := h.resolving.numRetries
  omega

theorem InProgress.start {ie : InterfaceEntry}
    (h : entry.Resolving c l.1.1 ie) (hretries : entry.numRetries = 0)
    (haddressed : ARP.Addressed ie) : InProgress c a entry l [] := by
  obtain rfl := h.ie
  exact ⟨fun l hl => absurd hl List.not_mem_nil, h, hretries, haddressed⟩

theorem InProgress.untouched (h : InProgress c a entry l later)
    (hsilent : ¬ Initiates a x ∧ ¬ Ends a x ∧ ¬ x.2.emitted.Requests a) :
    InProgress c a entry l (x :: later) := by
  refine ⟨h.quiet.cons ⟨hsilent.1, hsilent.2.1⟩, h.resolving, ?_, h.addressed⟩
  rw [requests_cons_of_not hsilent.2.2]
  exact h.numRetries

theorem InProgress.retried {old entry : ARP.ARPCacheEntry} (h : InProgress c a old l later)
    (hentry : ∀ started ie, old.Resolving c started ie → entry.Resolving c started ie)
    (hretries : entry.numRetries = old.numRetries + 1) (hrequests : x.2.emitted.Requests a)
    (hsilent : ¬ Initiates a x ∧ ¬ Ends a x) : InProgress c a entry l (x :: later) := by
  have hresolving := hentry _ _ h.resolving
  have hie := hresolving.ie
  refine ⟨h.quiet.cons hsilent, hie ▸ hresolving, ?_, hie ▸ h.addressed⟩
  rw [requests_cons hrequests, hretries, h.numRetries]

theorem InProgress.time_le {t : SimTime}
    (h : InProgress c a entry l later) (htimer : ∀ timer ∈ entry.timer, t ≤ timer) :
    t ≤ l.1.1 + max 1 c.retryCount * c.retryTimeout := by
  have hcount : ((entry.numRetries : ℚ) + 1) ≤ (max 1 c.retryCount : ℤ) := by
    exact_mod_cast h.resolving.numRetries
  have hmul := mul_le_mul_of_nonneg_right hcount h.resolving.retryTimeout
  have ht := htimer _ h.resolving.timer
  linarith

theorem Outcome.step (h : Outcome c a s l later) (heffect : Effect c a s s' x)
    (htimers : ∀ entry ∈ s.arp.arpCache.lookup a, ∀ timer ∈ entry.timer, x.1.1 ≤ timer) :
    Outcome c a s' l (x :: later) := by
  cases h with
  | ended after e hends hquiet hrequests htime =>
    exact .ended (x :: after) e hends hquiet hrequests htime
  | inProgress entry hentry hprogress hrequests =>
    have hend : Ends a x → ¬ x.2.emitted.Requests a → Outcome c a s' l (x :: later) := by
      intro hends hsilent
      refine .ended [] x hends hprogress.quiet ?_ (hprogress.time_le (htimers entry hentry))
      rw [List.cons_append, requests_cons_of_not hsilent]
      exact hrequests
    cases heffect with
    | untouched hsame hsilent hpacket =>
      have hnext := hprogress.untouched hsilent
      exact .inProgress entry (hsame.trans hentry) hnext hnext.requests_le
    | initiated entry' ie hbefore hafter hentry' hretries haddressed hinitiates hends =>
      have hpending := hprogress.resolving.pending
      rw [hbefore entry hentry] at hpending
      cases hpending
    | retried old entry' hbefore hpending hafter hentry' hretries hrequest hsilent =>
      obtain rfl := Option.some.inj (hbefore.symm.trans hentry)
      have hnext := hprogress.retried hentry' hretries hrequest hsilent
      exact .inProgress entry' hafter hnext hnext.requests_le
    | completed entry' hafter hentry' hup hupdate hannounces hcompletes hsilent =>
      exact hend (.inl hcompletes) hsilent
    | failed old hbefore hpending hafter hfails hsilent => exact hend (.inr (.inl hfails)) hsilent
    | stopped hafter hstop houtput =>
      refine hend (.inr (.inr hstop)) ?_
      rw [houtput]
      rintro ⟨sent, hsent, -⟩
      cases hsent

/-- What holds of the entries and of the resolutions after a run. -/
structure Settled (c : ARP.Parameters) (history : List Label) (s : ARPModule) : Prop where
  entries : ∀ a, ∀ entry ∈ s.arp.arpCache.lookup a,
    (∃ later l earlier, history = later ++ l :: earlier ∧ Initiates a l ∧
      InProgress c a entry l later) ∨
    entry.Resolved ∧ s.arp.isUp = true ∧ Announced a entry.macAddress entry.lastUpdate history
  resolutions : ∀ a later l earlier, history = later ++ l :: earlier → Initiates a l →
    Outcome c a s l later
  justified : Always (Justified c) history

namespace Settled

theorem sound (h : Settled c history s) : Sound c s := by
  intro a entry hentry
  rcases h.entries a entry hentry with ⟨later, l, earlier, -, -, hprogress⟩ | ⟨hresolved, -⟩
  · exact .inl ⟨l.1.1, entry.ie, hprogress.resolving⟩
  · exact .inr hresolved

theorem pending {entry : ARP.ARPCacheEntry} (h : Settled c history s)
    (hentry : s.arp.arpCache.lookup a = some entry) (hpending : entry.pending = true) :
    ∃ later l earlier, history = later ++ l :: earlier ∧ Initiates a l ∧
      InProgress c a entry l later := by
  refine (h.entries a entry hentry).resolve_right fun hresolved => ?_
  rw [hresolved.1.pending] at hpending
  cases hpending

theorem resolved (h : Settled c history s)
    (hentry : s.arp.arpCache.lookup a = some entry) (hpending : entry.pending = false) :
    entry.Resolved ∧ s.arp.isUp = true ∧ Announced a entry.macAddress entry.lastUpdate history := by
  refine (h.entries a entry hentry).resolve_left ?_
  rintro ⟨later, l, earlier, -, -, hprogress⟩
  rw [hprogress.resolving.pending] at hpending
  cases hpending

end Settled

theorem Announced.cons {mac : MACAddress} {t : SimTime} (h : Announced a mac t history)
    (hstop : x.1.2 ≠ .stop) (hx : ∀ mac', ¬ Announces a x mac') : Announced a mac t (x :: history) := by
  obtain ⟨later, p, earlier, rfl, hp, ht, hlater⟩ := h
  exact ⟨x :: later, p, earlier, rfl, hp, ht, List.forall_mem_cons.mpr ⟨⟨hstop, hx⟩, hlater⟩⟩

theorem Effect.initiated_of_initiates (h : Effect c a s s' x) (hx : Initiates a x) :
    ∃ entry, s'.arp.arpCache.lookup a = some entry ∧ InProgress c a entry x [] := by
  cases h with
  | untouched hsame hsilent hpacket => exact absurd hx hsilent.1
  | initiated entry ie hbefore hafter hentry hretries haddressed hinitiates hends =>
    exact ⟨entry, hafter, .start hentry hretries haddressed⟩
  | retried old entry hbefore hpending hafter hentry hretries hrequests hsilent =>
    exact absurd hx hsilent.1
  | completed entry hafter hentry hup hupdate hannounces hcompletes hrequests =>
    obtain ⟨n, hn, -⟩ := hcompletes
    obtain ⟨m, hm, -⟩ := hx
    cases hn.symm.trans hm
  | failed old hbefore hpending hafter hfails hrequests =>
    obtain ⟨n, hn, -⟩ := hfails
    obtain ⟨m, hm, -⟩ := hx
    cases hn.symm.trans hm
  | stopped hafter hstop houtput =>
    obtain ⟨m, hm, -⟩ := hx
    rw [houtput] at hm
    cases hm

theorem Effect.failed_of_fails (h : Effect c a s s' x) (hx : Fails a x) :
    ∃ old, s.arp.arpCache.lookup a = some old ∧ old.pending = true := by
  cases h with
  | untouched hsame hsilent hpacket => exact absurd (.inr (.inl hx)) hsilent.2.1
  | initiated entry ie hbefore hafter hentry hretries haddressed hinitiates hends =>
    exact absurd (.inr (.inl hx)) hends
  | retried old entry hbefore hpending hafter hentry hretries hrequests hsilent =>
    exact absurd (.inr (.inl hx)) hsilent.2
  | completed entry hafter hentry hup hupdate hannounces hcompletes hrequests =>
    obtain ⟨n, hn, -⟩ := hcompletes
    obtain ⟨m, hm, -⟩ := hx
    cases hn.symm.trans hm
  | failed old hbefore hpending hafter hfails hrequests => exact ⟨old, hbefore, hpending⟩
  | stopped hafter hstop houtput =>
    obtain ⟨m, hm, -⟩ := hx
    rw [houtput] at hm
    cases hm

namespace Settled

theorem entries_step (h : Settled c history s)
    (hup : s.arp.isUp = true → x.1.2 ≠ .stop → s'.arp.isUp = true) (heffect : Effect c a s s' x)
    {entry : ARP.ARPCacheEntry} (hentry : s'.arp.arpCache.lookup a = some entry) :
    (∃ later l earlier, x :: history = later ++ l :: earlier ∧ Initiates a l ∧
      InProgress c a entry l later) ∨
    entry.Resolved ∧ s'.arp.isUp = true ∧
      Announced a entry.macAddress entry.lastUpdate (x :: history) := by
  cases heffect with
  | untouched hsame hsilent hpacket =>
    have hbefore := hsame.symm.trans hentry
    rcases h.entries a entry hbefore with
      ⟨later, l, earlier, rfl, hl, hprogress⟩ | ⟨hresolved, hisUp, hannounced⟩
    · exact .inl ⟨x :: later, l, earlier, rfl, hl, hprogress.untouched hsilent⟩
    · have hstop : x.1.2 ≠ .stop := fun hstop => hsilent.2.1 (.inr (.inr hstop))
      have hsome : s.arp.arpCache.lookup a ≠ none := by
        rw [hbefore]
        exact Option.some_ne_none entry
      exact .inr ⟨hresolved, hup hisUp hstop, hannounced.cons hstop (hpacket hisUp hsome)⟩
  | initiated entry' ie hbefore hafter hentry' hretries haddressed hinitiates hends =>
    obtain rfl := Option.some.inj (hafter.symm.trans hentry)
    exact .inl ⟨[], x, history, rfl, hinitiates, .start hentry' hretries haddressed⟩
  | retried old entry' hbefore hpending hafter hentry' hretries hrequests hsilent =>
    obtain rfl := Option.some.inj (hafter.symm.trans hentry)
    obtain ⟨later, l, earlier, rfl, hl, hprogress⟩ := h.pending hbefore hpending
    exact .inl ⟨x :: later, l, earlier, rfl, hl,
      hprogress.retried hentry' hretries hrequests hsilent⟩
  | completed entry' hafter hentry' hisUp hupdate hannounces hcompletes hrequests =>
    obtain rfl := Option.some.inj (hafter.symm.trans hentry)
    have hstop : x.1.2 ≠ .stop := by
      obtain ⟨packet, ie, routing, hevent, -⟩ := hannounces
      rw [hevent]
      nofun
    exact .inr ⟨hentry', hup hisUp hstop, [], x, history, rfl, hannounces, hupdate.symm,
      fun l hl => absurd hl List.not_mem_nil⟩
  | failed old hbefore hpending hafter hfails hrequests | stopped hafter hstop houtput =>
    cases hafter.symm.trans hentry

theorem resolveL3Address_announced (h : Settled c history s) {t : SimTime} {address : IPv4Address}
    {ie : InterfaceEntry} {arp : ARP} {mac : MACAddress} {emitted : ARP.Emitted}
    (hcall : s.arp.resolveL3Address c t address ie = .ok (arp, mac, emitted))
    (hmac : mac.isUnspecified = false) :
    ∃ updated, Announced address mac updated history ∧ t ≤ updated + c.cacheTimeout := by
  rcases ARP.resolveL3Address_cases hcall with ⟨-, -, rfl, -⟩ |
    ⟨-, -, entry, hentry, hended, hfresh, rfl⟩ | ⟨rfl, -⟩
  · cases hmac
  · exact ⟨entry.lastUpdate, (h.resolved hentry hended).2.2, hfresh⟩
  · cases hmac

theorem initial (isUp : Bool) : Settled c [] (new isUp) := by
  refine ⟨fun a entry hentry => ?_, fun a later l earlier heq => ?_, trivial⟩
  · have hempty : (new isUp).arp.arpCache.lookup a = none := AList.lookup_empty a
    rw [hempty] at hentry
    cases hentry
  · cases later with
    | nil | cons x later => cases heq

theorem justified_step {e : SimTime × Event} {o : Output} (h : Settled c history s)
    (hstep : step c s e = some (s', o)) : Justified c history (e, o) := by
  refine ⟨fun a hfails => ?_, fun a ie hevent mac hmac hspecified => ?_⟩
  · obtain ⟨heffect, -⟩ := step_effect h.sound hstep a
    obtain ⟨old, hold, hpending⟩ := heffect.failed_of_fails hfails
    obtain ⟨during, l, before, heq, hl, hprogress⟩ := h.pending hold hpending
    exact ⟨during, l, before, heq, hl, hprogress.quiet⟩
  · obtain ⟨-, hhandle⟩ := step_eq_some hstep
    rw [show e.2 = .resolveL3Address a ie from hevent] at hhandle
    obtain ⟨⟨arp, mac', emitted⟩, hcall, hret⟩ := bind_eq_ok_iff.mp hhandle
    cases hret
    cases hmac
    exact h.resolveL3Address_announced hcall hspecified

theorem step {e : SimTime × Event} {o : Output} (h : Settled c history s)
    (hstep : step c s e = some (s', o)) : Settled c ((e, o) :: history) s' := by
  have heffect := fun a => step_effect h.sound hstep a
  obtain ⟨⟨-, hoverdue, -⟩, -⟩ := step_eq_some hstep
  refine ⟨fun a entry hentry => h.entries_step (heffect a).2.2 (heffect a).1 hentry, ?_,
    h.justified, h.justified_step hstep⟩
  intro a later l earlier heq hl
  cases later with
  | nil =>
    cases heq
    obtain ⟨entry, hentry, hprogress⟩ := (heffect a).1.initiated_of_initiates hl
    exact .inProgress entry hentry hprogress hprogress.requests_le
  | cons x later =>
    obtain ⟨rfl, hsplit⟩ := List.cons.inj heq
    refine (h.resolutions a later l earlier hsplit hl).step (heffect a).1 ?_
    intro entry hentry timer htimer
    exact hoverdue ⟨a, entry⟩ (AList.mem_lookup_iff.mp hentry) timer htimer

end Settled

def sampleParameters : ARP.Parameters := ⟨1, 3, 120, false⟩

def sampleInterface : InterfaceEntry where
  mtu := 1500
  ipAddress := 0x0A000001
  interfaceId := 100
  isBroadcast := true
  macAddress := 0x0AAA00000001
  netmask := 0xFFFFFF00

end inet.ARPModule

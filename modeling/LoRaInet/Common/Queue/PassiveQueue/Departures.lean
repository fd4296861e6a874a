import LoRaInet.Common.Queue.PassiveQueue.Settled

open omnetpp transition

namespace inet.PassiveQueue

section Places

variable {P : Type} {M : Type}

/-- The packets in the queue at the end of the way. -/
def queueAt : PassiveQueue P → List ℕ → List P
  | .queue q _, [] => q.queue
  | .scheduler (n := n) _ inputs _, i :: way => if h : i < n then queueAt (inputs ⟨i, h⟩) way else []
  | _, _ => []

/-- The packets of one queue that the modules on the way have sent. What the last module of the chain has
sent comes first. -/
def sentFrom (entered : List ℕ) : PassiveQueue (Packet M) → List ℕ → List (Packet M)
  | .scheduler (n := n) _ inputs sent, i :: way =>
    sent.filter (·.entered = entered) ++ if h : i < n then sentFrom entered (inputs ⟨i, h⟩) way else []
  | q, _ => q.sentOf.filter (·.entered = entered)

/-- The packets in a part of the chain have entered it there. -/
def Belongs : PassiveQueue (Packet M) → List ℕ → Prop
  | .queue q sent, place => ∀ p ∈ q.queue ++ sent, p.entered = place
  | .scheduler _ inputs sent, place =>
    (∀ p ∈ sent, place <+: p.entered) ∧ ∀ i, Belongs (inputs i) (place ++ [i.val])

end Places

variable {M : Type} {n : ℕ} {s s' : SchedulerBase n} {inputs : Fin n → PassiveQueue (Packet M)}
  {q q' : PassiveQueue (Packet M)} {sent : List (Packet M)} {way place : List ℕ} {i : Fin n}
  {msg : Packet M} {arrived : Arrived} {came gone : List ℕ → List (Packet M)}

theorem Belongs.sentOf (h : Belongs q place) {p : Packet M} (hp : p ∈ q.sentOf) : place <+: p.entered := by
  cases q with
  | queue q sent => rw [h p (List.mem_append_right _ hp)]
  | scheduler s inputs sent => exact h.1 p hp

/-- What an operation does to the packets of every queue: some come, some are sent, and some are taken away. -/
structure Flows (came gone : List ℕ → List (Packet M)) (place : List ℕ) (q q' : PassiveQueue (Packet M)) :
    Prop where
  belongs : Belongs q' place
  flows : ∀ way, ∃ moved,
    queueAt q way ++ came (place ++ way) = moved ++ (gone (place ++ way) ++ queueAt q' way) ∧
      sentFrom (place ++ way) q' way = sentFrom (place ++ way) q way ++ moved

theorem filter_entered_eq_nil {ps : List (Packet M)} {entered : List ℕ} (h : ∀ p ∈ ps, p.entered ≠ entered) :
    ps.filter (·.entered = entered) = [] := by
  apply List.filter_eq_nil_iff.mpr
  intro p hp
  simpa using h p hp

theorem filter_entered_eq_self {ps : List (Packet M)} {entered : List ℕ} (h : ∀ p ∈ ps, p.entered = entered) :
    ps.filter (·.entered = entered) = ps := by
  apply List.filter_eq_self.mpr
  intro p hp
  simpa using h p hp

theorem not_beyond {j : ℕ} (h : j ≠ i.val) : ¬ place ++ [i.val] <+: place ++ j :: way := by
  rw [List.prefix_append_right_inj]
  rintro ⟨rest, hrest⟩
  exact h (List.cons.inj hrest).1.symm

theorem not_beyond_nil : ¬ place ++ [i.val] <+: place ++ [] := by
  rw [List.prefix_append_right_inj]
  exact fun hbeyond => by simpa using hbeyond.length_le

theorem Belongs.update {input : PassiveQueue (Packet M)} {sent' : List (Packet M)}
    (h : Belongs (.scheduler s inputs sent) place) (hinput : Belongs input (place ++ [i.val]))
    (hsent : ∀ p ∈ sent', place <+: p.entered) :
    Belongs (.scheduler s' (Function.update inputs i input) sent') place := by
  refine ⟨hsent, fun j => ?_⟩
  by_cases hj : j = i
  · subst hj
    rw [Function.update_self]
    exact hinput
  · rw [Function.update_of_ne hj]
    exact h.2 j

open PassiveQueue

theorem Flows.of_counters (hbelongs : Belongs (.scheduler s inputs sent) place) :
    Flows (fun _ => []) (fun _ => []) place (.scheduler s inputs sent) (.scheduler s' inputs sent) := by
  refine ⟨hbelongs, fun way => ⟨[], ?_⟩⟩
  cases way <;> simp [queueAt, sentFrom, sentOf]

theorem Flows.update {input : PassiveQueue (Packet M)} (hbelongs : Belongs (.scheduler s inputs sent) place)
    (h : Flows came gone (place ++ [i.val]) (inputs i) input)
    (hother : ∀ entered, ¬ place ++ [i.val] <+: entered → came entered = [] ∧ gone entered = []) :
    Flows came gone place (.scheduler s inputs sent) (.scheduler s' (Function.update inputs i input) sent) := by
  refine ⟨hbelongs.update h.belongs hbelongs.1, fun way => ?_⟩
  cases way with
  | nil =>
    obtain ⟨hcame, hgone⟩ := hother (place ++ []) not_beyond_nil
    refine ⟨[], ?_, by simp [sentFrom, sentOf]⟩
    rw [hcame, hgone]
    rfl
  | cons j way =>
    by_cases hj : j = i.val
    · subst hj
      obtain ⟨moved, hqueue, hsent⟩ := h.flows way
      refine ⟨moved, ?_, ?_⟩
      · simpa [queueAt] using hqueue
      · simp only [sentFrom, i.isLt, dif_pos, Fin.eta, Function.update_self]
        simp only [List.append_assoc, List.singleton_append] at hsent
        rw [hsent, List.append_assoc]
    · obtain ⟨hcame, hgone⟩ := hother (place ++ j :: way) (not_beyond hj)
      refine ⟨[], ?_⟩
      have hupdate : ∀ hlt : j < n, Function.update inputs i input ⟨j, hlt⟩ = inputs ⟨j, hlt⟩ :=
        fun hlt => Function.update_of_ne (fun heq => hj (congrArg Fin.val heq)) _ _
      simp only [queueAt, sentFrom, hupdate, hcame, hgone, List.append_nil, List.nil_append, and_self]

theorem Flows.requestPacket (hfilled : AllFilled q) (hbelongs : Belongs q place) :
    Flows (fun _ => []) (fun _ => []) place q (requestPacket q) := by
  induction q generalizing place with
  | queue q sent =>
    unfold requestPacket
    split
    · refine ⟨hbelongs, fun way => ⟨[], ?_⟩⟩
      cases way <;> simp [queueAt, sentFrom, sentOf]
    · next msg rest hcons =>
      have hmsg : msg.entered = place := hbelongs msg (by simp [hcons])
      refine ⟨fun p hp => hbelongs p ?_, fun way => ?_⟩
      · simp only [hcons, List.mem_append, List.mem_cons, List.not_mem_nil, or_false] at hp ⊢
        tauto
      · cases way with
        | nil =>
          refine ⟨[msg], by simp [queueAt, hcons], ?_⟩
          simp [sentFrom, sentOf, hmsg]
        | cons j way =>
          refine ⟨[], by simp [queueAt], ?_⟩
          simp [sentFrom, sentOf, hmsg]
  | scheduler s inputs sent ih =>
    obtain ⟨s', inputs', heq, -, -, -, hcases⟩ := @requestPacket_cases _ _ s inputs sent hfilled.1
    rw [heq]
    rcases hcases with ⟨i, -, -, rfl, -⟩ | ⟨-, rfl, -⟩
    · exact Flows.update hbelongs (ih i (hfilled.2 i) (hbelongs.2 i)) fun _ _ => ⟨rfl, rfl⟩
    · exact Flows.of_counters hbelongs

theorem Flows.trans {q₁ q₂ : PassiveQueue (Packet M)} (h : Flows came (fun _ => []) place q q₁)
    (h' : Flows (fun _ => []) (fun _ => []) place q₁ q₂) : Flows came (fun _ => []) place q q₂ := by
  refine ⟨h'.belongs, fun way => ?_⟩
  obtain ⟨moved, hqueue, hsent⟩ := h.flows way
  obtain ⟨moved', hqueue', hsent'⟩ := h'.flows way
  simp only [List.append_nil, List.nil_append] at hqueue hqueue' ⊢
  exact ⟨moved ++ moved', by rw [hqueue, hqueue', List.append_assoc],
    by rw [hsent', hsent, List.append_assoc]⟩

theorem Flows.schedule {inputs' : Fin n → PassiveQueue (Packet M)}
    (h : schedule s inputs (fun i => PassiveQueue.requestPacket (inputs i)) = (s', inputs'))
    (hfilled : AllFilled (.scheduler s inputs sent)) (hbelongs : Belongs (.scheduler s inputs sent) place) :
    AllFilled (.scheduler s' inputs' sent) ∧
      Flows (fun _ => []) (fun _ => []) place (.scheduler s inputs sent) (.scheduler s' inputs' sent) := by
  obtain ⟨hfilled', -, -, hcases⟩ := schedule_cases h hfilled.1
  rcases hcases with ⟨i, -, -, rfl, -⟩ | ⟨-, rfl, -⟩
  · exact ⟨⟨hfilled', forall_update hfilled.2 (hfilled.2 i).requestPacket⟩,
      Flows.update hbelongs (Flows.requestPacket (hfilled.2 i) (hbelongs.2 i)) fun _ _ => ⟨rfl, rfl⟩⟩
  · exact ⟨⟨hfilled', hfilled.2⟩, Flows.of_counters hbelongs⟩

theorem Flows.notifyListeners (hfilled : AllFilled q) (hbelongs : Belongs q place) :
    AllFilled (notifyListeners q way).1 ∧
      Flows (fun _ => []) (fun _ => []) place q (notifyListeners q way).1 := by
  have hrefl : ∀ {q : PassiveQueue (Packet M)} {place}, Belongs q place →
      Flows (fun _ => []) (fun _ => []) place q q := fun h => ⟨h, fun way => ⟨[], by simp⟩⟩
  induction q generalizing way place with
  | queue q sent =>
    unfold notifyListeners
    exact ⟨hfilled, hrefl hbelongs⟩
  | @scheduler n s inputs sent ih =>
    cases way with
    | nil => exact ⟨hfilled, hrefl hbelongs⟩
    | cons j way =>
      unfold notifyListeners
      split
      · next hj =>
        obtain ⟨hfilledInput, hinput⟩ := @ih ⟨j, hj⟩ way _ (hfilled.2 _) (hbelongs.2 _)
        generalize notifyListeners (inputs ⟨j, hj⟩) way = result at hfilledInput hinput
        obtain ⟨input, notified⟩ := result
        have hfilled' : AllFilled (.scheduler s (Function.update inputs ⟨j, hj⟩ input) sent) :=
          ⟨hfilled.1, forall_update hfilled.2 hfilledInput⟩
        have hflows : Flows (fun _ => []) (fun _ => []) place (.scheduler s inputs sent)
            (.scheduler s (Function.update inputs ⟨j, hj⟩ input) sent) :=
          Flows.update hbelongs hinput fun _ _ => ⟨rfl, rfl⟩
        dsimp only
        cases notified with
        | false => exact ⟨hfilled', hflows⟩
        | true =>
          rw [if_pos rfl]
          unfold packetEnqueued
          split
          · obtain ⟨hfilled'', hflows'⟩ := Flows.schedule rfl hfilled' hflows.belongs
            exact ⟨hfilled'', hflows.trans hflows'⟩
          · exact ⟨hfilled', hflows⟩
      · exact ⟨hfilled, hrefl hbelongs⟩

/-- The packets that a queue accepts. -/
def accepting (arrived : Arrived) (way : List ℕ) (msg : Packet M) (entered : List ℕ) : List (Packet M) :=
  if arrived ≠ .dropped ∧ way = entered then [msg] else []

theorem Flows.enqueueAt (hbelongs : Belongs q place) (hentered : msg.entered = place ++ way)
    (hforwarded : arrived = .forwarded → queueAt q way = [])
    (h : enqueueAt q way msg = some (q', arrived)) :
    Flows (accepting arrived (place ++ way) msg) (fun _ => []) place q q' := by
  induction q generalizing way place q' with
  | queue q sent =>
    cases way with
    | cons i way => cases h
    | nil =>
      rw [List.append_nil] at hentered
      unfold enqueueAt at h
      have hbelongs' : ∀ p ∈ q.queue ++ sent ++ [msg], p.entered = place := by
        intro p hp
        rcases List.mem_append.mp hp with hp | hp
        · exact hbelongs p hp
        · rw [List.mem_singleton.mp hp, hentered]
      have hother : ∀ i rest, accepting arrived (place ++ []) msg (place ++ i :: rest) = [] := by
        intro i rest
        unfold accepting
        rw [if_neg]
        simp
      have hsame : arrived ≠ .dropped → accepting arrived (place ++ []) msg (place ++ []) = [msg] :=
        fun hne => if_pos ⟨hne, rfl⟩
      split at h
      · cases h
        have hnil : q.queue = [] := hforwarded rfl
        refine ⟨fun p hp => hbelongs' p ?_, fun way => ?_⟩
        · simpa using hp
        · cases way with
          | nil =>
            refine ⟨[msg], ?_, by simp [sentFrom, sentOf, hentered]⟩
            rw [hsame (by simp)]
            simp [queueAt, hnil]
          | cons i rest =>
            refine ⟨[], ?_, by simp [sentFrom, sentOf, hentered]⟩
            rw [hother]
            rfl
      · split at h
        · cases h
          refine ⟨hbelongs, fun way => ⟨[], ?_, by simp⟩⟩
          simp [accepting]
        · cases h
          refine ⟨fun p hp => hbelongs' p ?_, fun way => ⟨[], ?_, ?_⟩⟩
          · simp only [List.mem_append] at hp ⊢
            tauto
          · cases way with
            | nil =>
              rw [hsame (by simp)]
              rfl
            | cons i rest =>
              rw [hother]
              rfl
          · cases way <;> simp [sentFrom, sentOf]
  | @scheduler n s inputs sent ih =>
    cases way with
    | nil => cases h
    | cons i way =>
      unfold enqueueAt at h
      split at h
      · next hi =>
        obtain ⟨⟨input, arrived'⟩, hinput, heq⟩ := Option.map_eq_some_iff.mp h
        cases heq
        have hplace : place ++ i :: way = place ++ [i] ++ way := by simp
        rw [hplace] at hentered ⊢
        refine Flows.update hbelongs (ih ⟨i, hi⟩ (hbelongs.2 _) hentered ?_ hinput) fun entered hnot => ⟨?_, rfl⟩
        · intro heq
          simpa [queueAt, hi] using hforwarded heq
        · apply if_neg
          rintro ⟨-, rfl⟩
          exact hnot (List.prefix_append _ _)
      · cases h

theorem Settled.queueAt_of_forwarded (h : Settled q)
    (harrives : enqueueAt q way msg = some (q', .forwarded)) : queueAt q way = [] := by
  cases q with
  | queue q sent =>
    cases way with
    | cons i way => cases harrives
    | nil =>
      unfold enqueueAt at harrives
      split at harrives
      · next hrequested => exact h.waiting hrequested
      · split at harrives <;> cases harrives
  | @scheduler n s inputs sent =>
    cases way with
    | nil => cases harrives
    | cons i way =>
      unfold enqueueAt at harrives
      split at harrives
      · next hi =>
        obtain ⟨⟨input, arrived⟩, hinput, heq⟩ := Option.map_eq_some_iff.mp harrives
        cases heq
        exact absurd rfl ((takes_enqueueAt hinput).answered (h.waiting.1 ⟨i, hi⟩)).2
      · cases harrives

theorem Settled.flows_handleMessage (h : Settled q) (hbelongs : Belongs q []) (hentered : msg.entered = way)
    (harrives : PassiveQueue.handleMessage q way msg = some (q', arrived)) :
    Flows (accepting arrived way msg) (fun _ => []) [] q q' := by
  obtain ⟨⟨taken, arrived'⟩, htaken, heq⟩ := Option.map_eq_some_iff.mp harrives
  have hflows : Flows (accepting arrived' way msg) (fun _ => []) [] q taken :=
    Flows.enqueueAt hbelongs hentered (fun hforwarded => h.queueAt_of_forwarded (hforwarded ▸ htaken)) htaken
  dsimp only at heq
  split at heq
  · cases heq
    have hfilled := (takes_enqueueAt htaken).filled h.filled
    exact hflows.trans (Flows.notifyListeners hfilled hflows.belongs).2
  · cases heq
    exact hflows

theorem sentFrom_takeSent {input : PassiveQueue (Packet M)} (h : takeSent q = some (msg, input))
    (hbelongs : Belongs q place) :
    Belongs input place ∧ place <+: msg.entered ∧ ∀ way, queueAt input way = queueAt q way ∧
      ∀ entered, sentFrom entered q way = [msg].filter (·.entered = entered) ++ sentFrom entered input way := by
  unfold takeSent at h
  split at h
  · next q msg sent =>
    cases h
    refine ⟨fun p hp => hbelongs p ?_, hbelongs.sentOf (.head _), fun way => ⟨?_, fun entered => ?_⟩⟩
    · simp only [List.mem_append, List.mem_cons] at hp ⊢
      tauto
    · cases way <;> rfl
    · cases way <;> exact List.filter_append [msg] sent
  · next n s inputs msg sent =>
    cases h
    refine ⟨⟨fun p hp => hbelongs.1 p (.tail _ hp), hbelongs.2⟩,
      hbelongs.sentOf (.head _), fun way => ⟨?_, fun entered => ?_⟩⟩
    · cases way <;> rfl
    · cases way with
      | nil => exact List.filter_append [msg] sent
      | cons j way =>
        unfold sentFrom
        rw [← List.append_assoc, ← List.filter_append]
        rfl
  · cases h

theorem Flows.deliver (hbelongs : Belongs q place) (h : deliver q way = some (.ok q')) :
    Flows (fun _ => []) (fun _ => []) place q q' := by
  induction q generalizing way place q' with
  | queue q sent => cases h
  | @scheduler n s inputs sent ih =>
    cases way with
    | nil => cases h
    | cons i way =>
      cases way with
      | nil =>
        unfold deliver at h
        split at h
        · next hi =>
          obtain ⟨⟨msg, input⟩, htake, heq⟩ := Option.map_eq_some_iff.mp h
          dsimp only at heq
          obtain ⟨hbelongsInput, hbeyond, hplaces⟩ := sentFrom_takeSent htake (hbelongs.2 ⟨i, hi⟩)
          obtain ⟨-, -, heq⟩ := bind_eq_ok_iff.mp heq
          cases heq
          have hother : ∀ entered, ¬ place ++ [i] <+: entered → [msg].filter (·.entered = entered) = [] := by
            intro entered hnot
            apply filter_entered_eq_nil
            intro p hp heq
            rw [List.mem_singleton.mp hp] at heq
            exact hnot (heq ▸ hbeyond)
          refine ⟨hbelongs.update hbelongsInput fun p hp => ?_, fun way => ⟨[], ?_⟩⟩
          · rcases List.mem_append.mp hp with hp | hp
            · exact hbelongs.1 p hp
            · rw [List.mem_singleton.mp hp]
              exact (List.prefix_append _ _).trans hbeyond
          · cases way with
            | nil =>
              refine ⟨rfl, ?_⟩
              unfold sentFrom sentOf
              rw [List.filter_append, hother _ (not_beyond_nil (i := ⟨i, hi⟩))]
            | cons j way =>
              by_cases hj : j = i
              · subst hj
                obtain ⟨hqueue, hsent⟩ := hplaces way
                constructor
                · simp only [queueAt, hi, dif_pos, Function.update_self, hqueue, List.append_nil,
                    List.nil_append]
                · simp only [sentFrom, hi, dif_pos, Function.update_self, hsent, List.filter_append,
                    List.append_assoc, List.append_nil]
              · have hupdate : ∀ hlt : j < n, Function.update inputs ⟨i, hi⟩ input ⟨j, hlt⟩ = inputs ⟨j, hlt⟩ :=
                  fun hlt => Function.update_of_ne (fun heq => hj (congrArg Fin.val heq)) _ _
                have hnot := hother (place ++ j :: way) (not_beyond (i := ⟨i, hi⟩) hj)
                constructor
                · simp only [queueAt, hupdate, List.append_nil, List.nil_append]
                · simp only [sentFrom, hupdate, List.filter_append, hnot, List.append_nil]
        · cases h
      | cons j way =>
        unfold deliver at h
        split at h
        · next hi =>
          obtain ⟨result, hinput, heq⟩ := Option.map_eq_some_iff.mp h
          cases result with
          | error fault => cases heq
          | ok input =>
            cases heq
            exact Flows.update hbelongs (ih ⟨i, hi⟩ (hbelongs.2 _) hinput) fun _ _ => ⟨rfl, rfl⟩
        · cases h

/-- The packets of one queue among those that are taken away. -/
def takenFrom (msgs : List (Packet M)) (entered : List ℕ) : List (Packet M) :=
  msgs.filter (·.entered = entered)

theorem takenFrom_eq_nil {msgs : List (Packet M)} (h : ∀ p ∈ msgs, place <+: p.entered) {entered : List ℕ}
    (hnot : ¬ place <+: entered) : takenFrom msgs entered = [] := by
  apply filter_entered_eq_nil
  intro p hp heq
  exact hnot (heq ▸ h p hp)

theorem Flows.pop (hbelongs : Belongs q place) :
    Flows (fun _ => []) (takenFrom q.pop.2.toList) place q q.pop.1 ∧
      ∀ p ∈ q.pop.2.toList, place <+: p.entered := by
  induction q generalizing place with
  | queue q sent =>
    unfold pop
    split
    · exact ⟨⟨hbelongs, fun way => ⟨[], by simp [takenFrom]⟩⟩, by simp⟩
    · next msg rest hcons =>
      have hmsg : msg.entered = place := hbelongs msg (by simp [hcons])
      refine ⟨⟨fun p hp => hbelongs p ?_, fun way => ⟨[], ?_⟩⟩, by simp [hmsg]⟩
      · simp only [hcons, List.mem_append, List.mem_cons] at hp ⊢
        tauto
      · cases way <;> simp [queueAt, sentFrom, sentOf, takenFrom, hcons, hmsg]
  | scheduler s inputs sent ih =>
    unfold pop
    split
    · next i hi =>
      obtain ⟨hflows, hbeyond⟩ := ih i (hbelongs.2 i)
      exact ⟨Flows.update hbelongs hflows fun entered hnot => ⟨rfl, takenFrom_eq_nil hbeyond hnot⟩,
        fun p hp => (List.prefix_append _ _).trans (hbeyond p hp)⟩
    · exact ⟨⟨hbelongs, fun way => ⟨[], by simp [takenFrom]⟩⟩, by simp⟩

theorem flatMap_eq_of_unique {α β : Type} {f : α → List β} {a : α} {as : List α} (hnodup : as.Nodup)
    (ha : a ∈ as) (h : ∀ b, b ≠ a → f b = []) : as.flatMap f = f a := by
  obtain ⟨front, rest, rfl⟩ := List.append_of_mem ha
  have hne : ∀ b ∈ front ++ rest, f b = [] := by
    intro b hb
    apply h
    rintro rfl
    exact (List.nodup_cons.mp (List.nodup_middle.mp hnodup)).1 hb
  have hfront : front.flatMap f = [] :=
    List.flatMap_eq_nil_iff.mpr fun b hb => hne b (List.mem_append_left _ hb)
  have hrest : rest.flatMap f = [] :=
    List.flatMap_eq_nil_iff.mpr fun b hb => hne b (List.mem_append_right _ hb)
  rw [List.flatMap_append, List.flatMap_cons, hfront, hrest, List.append_nil, List.nil_append]

theorem Flows.clear (hbelongs : Belongs q place) :
    Flows (fun _ => []) (takenFrom q.clear.2) place q q.clear.1 ∧ ∀ p ∈ q.clear.2, place <+: p.entered := by
  induction q generalizing place with
  | queue q sent =>
    refine ⟨⟨fun p hp => hbelongs p (List.mem_append_right _ hp), fun way => ⟨[], ?_⟩⟩, fun p hp => ?_⟩
    · have hqueue : ∀ p ∈ q.queue, p.entered = place := fun p hp => hbelongs p (List.mem_append_left _ hp)
      cases way with
      | nil =>
        have hself : q.queue.filter (·.entered = place) = q.queue := filter_entered_eq_self hqueue
        simp [clear, queueAt, sentFrom, sentOf, takenFrom, hself]
      | cons i way =>
        have hnil : q.queue.filter (·.entered = place ++ i :: way) = [] :=
          filter_entered_eq_nil fun p hp => by simp [hqueue p hp]
        simp [clear, queueAt, sentFrom, sentOf, takenFrom, hnil]
    · rw [hbelongs p (List.mem_append_left _ hp)]
  | @scheduler n s inputs sent ih =>
    have hinput := fun i => ih i (hbelongs.2 i)
    refine ⟨⟨⟨hbelongs.1, fun i => (hinput i).1.belongs⟩, fun way => ?_⟩, fun p hp => ?_⟩
    · have htaken : ∀ entered, takenFrom (clear (.scheduler s inputs sent)).2 entered =
          (List.finRange n).flatMap fun i => takenFrom (inputs i).clear.2 entered :=
        fun entered => List.filter_flatMap
      have hnil : ∀ i entered, ¬ place ++ [i.val] <+: entered → takenFrom (inputs i).clear.2 entered = [] :=
        fun i entered hnot => takenFrom_eq_nil (hinput i).2 hnot
      cases way with
      | nil =>
        refine ⟨[], ?_, by simp [sentFrom, sentOf, clear]⟩
        have hall := List.flatMap_eq_nil_iff.mpr fun i (_ : i ∈ List.finRange n) =>
          hnil i (place ++ []) not_beyond_nil
        rw [htaken, hall]
        rfl
      | cons j way =>
        by_cases hj : j < n
        · obtain ⟨moved, hqueue, hsent⟩ := (hinput ⟨j, hj⟩).1.flows way
          have hunique := flatMap_eq_of_unique (List.nodup_finRange n) (List.mem_finRange ⟨j, hj⟩)
            fun i hne => hnil i (place ++ j :: way) (not_beyond fun heq => hne (Fin.ext heq.symm))
          have hplace : place ++ [j] ++ way = place ++ j :: way := by simp
          rw [hplace] at hqueue hsent
          refine ⟨moved, ?_, ?_⟩
          · rw [htaken, hunique]
            simpa only [clear, queueAt, hj, dif_pos] using hqueue
          · simp only [clear, sentFrom, hj, dif_pos]
            rw [hsent, List.append_assoc]
        · have hall := List.flatMap_eq_nil_iff.mpr fun (i : Fin n) (_ : i ∈ List.finRange n) =>
            hnil i (place ++ j :: way) (not_beyond fun heq => hj (heq ▸ i.isLt))
          refine ⟨[], ?_, ?_⟩
          · rw [htaken, hall]
            simp only [clear, queueAt, hj, dif_neg, not_false_eq_true, List.append_nil]
          · simp only [clear, sentFrom, hj, dif_neg, not_false_eq_true, List.append_nil]
    · obtain ⟨i, -, hp⟩ := List.mem_flatMap.mp hp
      exact (List.prefix_append _ _).trans ((hinput i).2 p hp)

end inet.PassiveQueue

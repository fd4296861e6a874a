import LoRaInet.Kernel.FutureEventSet

open omnetpp

namespace fsma

variable {S W : Type} [DecidableEq S]

/-- An `FSMA_Event_Transition`: its condition, its target and its action. -/
structure Transition (S W : Type) where
  condition : W → Bool
  target : S
  action : W → Except Fault W

/-- An `FSMA_State` with its `FSMA_Enter`. -/
structure Block (S W : Type) where
  state : S
  enter : W → Except Fault W
  transitions : List (Transition S W)

/-- Where the state of the machine is kept. -/
structure Machine (S W : Type) where
  getState : W → S
  setState : S → W → W

/-- A transition is taken: its action is done and the state is set. -/
def take (fsm : Machine S W) (transition : Transition S W) (w : W) : Except Fault W := do
  let w ← transition.action w
  return fsm.setState transition.target w

/-- One pass over the blocks, and whether it was the last one. The state is read anew at
each block: an enter action may have changed it. -/
def pass (fsm : Machine S W) (isEvent : Bool) : List (Block S W) → W → Except Fault (Bool × W)
  | [], w => .ok (true, w)
  | block :: blocks, w =>
    if fsm.getState w = block.state then do
      let w ← if isEvent then .ok w else block.enter w
      match if isEvent then block.transitions.find? (·.condition w) else none with
      | some transition => return (false, ← take fsm transition w)
      | none => pass fsm isEvent blocks w
    else pass fsm isEvent blocks w

/-- The rounds of `FSMA_Switch` that are left. -/
def switch (fsm : Machine S W) (blocks : List (Block S W)) : ℕ → Bool → W → Except Fault W
  | 0, _, _ => .error (.cRuntimeError "Infinite loop in FSM")
  | rounds + 1, isEvent, w => do
    let (exit, w) ← pass fsm isEvent blocks w
    if exit then return w else switch fsm blocks rounds false w

/-- The transition that the event fires in the state, if any. -/
def firing (fsm : Machine S W) (blocks : List (Block S W)) (w : W) : Option (Transition S W) :=
  blocks.findSome? fun block =>
    if fsm.getState w = block.state then block.transitions.find? (·.condition w) else none

/-- The enter actions of the states that the machine is in, block by block. -/
def enter (fsm : Machine S W) : List (Block S W) → W → Except Fault W
  | [], w => .ok w
  | block :: blocks, w =>
    if fsm.getState w = block.state then do
      let w ← block.enter w
      enter fsm blocks w
    else enter fsm blocks w

variable {fsm : Machine S W} {blocks : List (Block S W)} {w : W} {transition : Transition S W}

theorem pass_event_none (h : firing fsm blocks w = none) : pass fsm true blocks w = .ok (true, w) := by
  induction blocks with
  | nil => rfl
  | cons block blocks ih =>
    rw [firing, List.findSome?_cons] at h
    rw [pass]
    by_cases hstate : fsm.getState w = block.state
    · rw [if_pos hstate] at h ⊢
      cases hfind : block.transitions.find? (·.condition w) with
      | some transition =>
        rw [hfind] at h
        cases h
      | none =>
        rw [hfind] at h
        change (match block.transitions.find? (·.condition w) with
          | some transition => _
          | none => pass fsm true blocks w) = _
        rw [hfind]
        exact ih h
    · rw [if_neg hstate] at h ⊢
      exact ih h

theorem pass_event_some (h : firing fsm blocks w = some transition) :
    pass fsm true blocks w = (take fsm transition w).map fun w => (false, w) := by
  induction blocks with
  | nil => cases h
  | cons block blocks ih =>
    rw [firing, List.findSome?_cons] at h
    rw [pass]
    by_cases hstate : fsm.getState w = block.state
    · rw [if_pos hstate] at h ⊢
      change (match block.transitions.find? (·.condition w) with
        | some transition => _
        | none => pass fsm true blocks w) = _
      cases hfind : block.transitions.find? (·.condition w) with
      | some found =>
        rw [hfind] at h
        obtain rfl := Option.some.inj h
        cases htaken : take fsm found w with
        | error fault | ok taken => simp only [htaken]; rfl
      | none =>
        rw [hfind] at h
        exact ih h
    · rw [if_neg hstate] at h ⊢
      exact ih h

theorem pass_enter : pass fsm false blocks w = (enter fsm blocks w).map fun w => (true, w) := by
  induction blocks generalizing w with
  | nil => rfl
  | cons block blocks ih =>
    rw [pass, enter]
    by_cases hstate : fsm.getState w = block.state
    · rw [if_pos hstate, if_pos hstate]
      cases hentered : block.enter w with
      | error fault => rfl
      | ok entered => exact ih
    · rw [if_neg hstate, if_neg hstate]
      exact ih

theorem switch_none (rounds : ℕ) (h : firing fsm blocks w = none) :
    switch fsm blocks (rounds + 1) true w = .ok w := by
  rw [switch, pass_event_none h]
  rfl

/-- An event takes one transition at most, and then the enter actions follow. -/
theorem switch_some (rounds : ℕ) (h : firing fsm blocks w = some transition) :
    switch fsm blocks (rounds + 2) true w = take fsm transition w >>= enter fsm blocks := by
  rw [switch, pass_event_some h]
  cases take fsm transition w with
  | error fault => rfl
  | ok taken =>
    change switch fsm blocks (rounds + 1) false taken = enter fsm blocks taken
    rw [switch, pass_enter]
    cases enter fsm blocks taken with
    | error fault | ok entered => rfl

theorem enter_of_ne (h : ∀ block ∈ blocks, fsm.getState w ≠ block.state) :
    enter fsm blocks w = .ok w := by
  induction blocks with
  | nil => rfl
  | cons block blocks ih =>
    rw [enter, if_neg (h block (.head _))]
    exact ih fun b hb => h b (List.mem_cons_of_mem block hb)

theorem enter_of_stable (h : ∀ block ∈ blocks, fsm.getState w = block.state →
    block.enter w = .ok w) : enter fsm blocks w = .ok w := by
  induction blocks with
  | nil => rfl
  | cons block blocks ih =>
    have hrest := ih fun b hb => h b (List.mem_cons_of_mem block hb)
    rw [enter]
    split
    · next hstate =>
      rw [h block (.head _) hstate]
      exact hrest
    · exact hrest

theorem enter_append {before : List (Block S W)} {block : Block S W}
    (hbefore : ∀ b ∈ before, fsm.getState w ≠ b.state) (hstate : fsm.getState w = block.state) :
    enter fsm (before ++ block :: blocks) w = block.enter w >>= enter fsm blocks := by
  induction before with
  | nil =>
    rw [List.nil_append, enter, if_pos hstate]
  | cons b before ih =>
    rw [List.cons_append, enter, if_neg (hbefore b (.head _))]
    exact ih fun c hc => hbefore c (List.mem_cons_of_mem b hc)

end fsma

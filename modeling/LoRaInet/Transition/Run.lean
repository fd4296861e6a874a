import Mathlib.Data.List.Basic

namespace transition

/-- The runs of a labelled system, each with its history: the labels of the
steps taken, the most recent one first. -/
inductive Run {S L : Type} (Init : S → Prop) (Step : S → L → S → Prop) : List L → S → Prop where
  | init {s : S} (hinit : Init s) : Run Init Step [] s
  | step {history : List L} {s s' : S} {l : L} (hrun : Run Init Step history s)
      (hstep : Step s l s') : Run Init Step (l :: history) s'

section Run

variable {S L : Type} {Init : S → Prop} {Step : S → L → S → Prop}

/-- A relation between history and state that holds initially and is kept by
every step holds of every run. -/
theorem Run.invariant {Inv : List L → S → Prop} {history : List L} {s : S}
    (hrun : Run Init Step history s) (hinit : ∀ s, Init s → Inv [] s)
    (hstep : ∀ history s l s', Run Init Step history s → Inv history s → Step s l s' →
      Inv (l :: history) s') : Inv history s := by
  induction hrun with
  | init h => exact hinit _ h
  | step hrun h ih => exact hstep _ _ _ _ hrun ih h

/-- A property of the label and the history before it, of every step taken. -/
def Always (P : List L → L → Prop) : List L → Prop
  | [] => True
  | l :: history => Always P history ∧ P history l

@[simp] theorem always_nil (P : List L → L → Prop) : Always P [] := trivial

@[simp] theorem always_cons (P : List L → L → Prop) (l : L) (history : List L) :
    Always P (l :: history) ↔ Always P history ∧ P history l := Iff.rfl

instance (P : List L → L → Prop) [∀ history l, Decidable (P history l)] :
    DecidablePred (Always P) := fun history => by
  induction history with
  | nil => exact isTrue trivial
  | cons l history ih => exact inferInstanceAs (Decidable (_ ∧ _))

theorem always_iff {P : List L → L → Prop} {history : List L} :
    Always P history ↔ ∀ later l earlier, history = later ++ l :: earlier → P earlier l := by
  induction history with
  | nil => simp
  | cons l history ih =>
    rw [always_cons, ih]
    constructor
    · rintro ⟨hall, hlast⟩ later x earlier heq
      cases later with
      | nil =>
        cases heq
        exact hlast
      | cons y later => exact hall later x earlier (List.cons.inj heq).2
    · intro hall
      refine ⟨fun later x earlier heq => hall (l :: later) x earlier (by rw [heq]; rfl), ?_⟩
      exact hall [] l history rfl

theorem Always.mono {P Q : List L → L → Prop} (hPQ : ∀ history l, P history l → Q history l)
    {history : List L} (h : Always P history) : Always Q history := by
  induction history with
  | nil => trivial
  | cons l history ih => exact ⟨ih h.1, hPQ _ _ h.2⟩

/-- The invariant rule for runs all of whose steps meet a condition. -/
theorem Run.invariant_of_always {P : List L → L → Prop} {Inv : List L → S → Prop}
    {history : List L} {s : S} (hrun : Run Init Step history s) (hcond : Always P history)
    (hinit : ∀ s, Init s → Inv [] s)
    (hstep : ∀ history s l s', Run Init Step history s → Inv history s → Step s l s' →
      P history l → Inv (l :: history) s') : Inv history s := by
  induction hrun with
  | init h => exact hinit _ h
  | step hrun h ih => exact hstep _ _ _ _ hrun (ih hcond.1) h hcond.2

end Run

section Execute

variable {S E O : Type} (step : S → E → Option (S × O))

/-- The step relation of a deterministic system: the label pairs the event with
what the system put out when it handled it. -/
def StepOf (s : S) (l : E × O) (s' : S) : Prop :=
  step s l.1 = some (s', l.2)

/-- The same system, with the state before each step put out as well. -/
def traced (s : S) (e : E) : Option (S × (S × O)) :=
  (step s e).map fun (s', o) => (s', (s, o))

theorem traced_eq_some {step : S → E → Option (S × O)} {s s' before : S} {e : E} {o : O} :
    traced step s e = some (s', (before, o)) ↔ before = s ∧ step s e = some (s', o) := by
  unfold traced
  rw [Option.map_eq_some_iff]
  constructor
  · rintro ⟨⟨next, output⟩, hstep, heq⟩
    obtain ⟨rfl, rfl, rfl⟩ := Prod.mk.inj heq |>.imp id Prod.mk.inj
    exact ⟨rfl, hstep⟩
  · rintro ⟨rfl, hstep⟩
    exact ⟨(s', o), hstep, rfl⟩

/-- Handles the events from left to right and returns the last state with the
history; `none` as soon as one event cannot be handled. -/
def execute (step : S → E → Option (S × O)) : S → List (E × O) → List E → Option (S × List (E × O))
  | s, history, [] => some (s, history)
  | s, history, e :: events =>
    match step s e with
    | none => none
    | some (s', o) => execute step s' ((e, o) :: history) events

theorem execute_run {step : S → E → Option (S × O)} {Init : S → Prop} (events : List E) :
    ∀ {s s' : S} {history history' : List (E × O)}, Run Init (StepOf step) history s →
      execute step s history events = some (s', history') →
      Run Init (StepOf step) history' s' := by
  induction events with
  | nil =>
    intro s s' history history' hrun hexec
    simp only [execute, Option.some.injEq, Prod.mk.injEq] at hexec
    obtain ⟨rfl, rfl⟩ := hexec
    exact hrun
  | cons e events ih =>
    intro s s' history history' hrun hexec
    rw [execute] at hexec
    cases hstep : step s e with
    | none => simp [hstep] at hexec
    | some result =>
      obtain ⟨next, o⟩ := result
      simp only [hstep] at hexec
      have htaken : StepOf step s (e, o) next := hstep
      exact ih (.step hrun htaken) hexec

/-- A run of which a decidable property holds, found by executing the events. -/
theorem exists_run_of_initial {Init : S → Prop} {s : S}
    (hinit : Init s) (events : List E) (P : S → List (E × O) → Prop)
    (hexec : ∃ r ∈ execute step s [] events, P r.1 r.2) :
    ∃ s' history, Run Init (StepOf step) history s' ∧ P s' history := by
  obtain ⟨⟨s', history⟩, hr, hP⟩ := hexec
  exact ⟨s', history, execute_run events (.init hinit) hr, hP⟩

theorem exists_run_of_execute (s : S) (events : List E)
    (P : S → List (E × O) → Prop) (hexec : ∃ r ∈ execute step s [] events, P r.1 r.2) :
    ∃ s' history, Run (· = s) (StepOf step) history s' ∧ P s' history :=
  @exists_run_of_initial _ _ _ step (· = s) s rfl events P hexec

end Execute

end transition

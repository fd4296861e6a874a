import LoRaInet.Kernel.Assert
import LoRaInet.Transition.Run

open omnetpp transition

namespace inet.physicallayer

/-- `LoRaMedium::radios`: the radios are known by their ids, and one that has been removed leaves a null. -/
abbrev RadioTable := List (Option ℕ)

namespace RadioTable

variable (radios : RadioTable)

def addRadio (radio : ℕ) : RadioTable := radios ++ [some radio]

/-- The nulls at the front are erased. The loop reads the entry before it looks at the size. -/
def trim : RadioTable → Except Fault RadioTable
  | [] => .error .outOfRange
  | none :: radios => trim radios
  | some radio :: radios => .ok (some radio :: radios)

def removeRadio (radio : ℕ) : Except Fault RadioTable :=
  match radios with
  | [] => .error .outOfRange
  | none :: _ => .error .nullPointer
  | some first :: _ =>
    let radioIndex : ℤ := radio - first
    if 0 ≤ radioIndex ∧ radioIndex < radios.length then trim (radios.set radioIndex.toNat none)
    else .error .outOfRange

inductive Event where
  | addRadio (radio : ℕ)
  | removeRadio (radio : ℕ)
  deriving DecidableEq

def step : Event → Option (RadioTable × Unit)
  | .addRadio radio => some (radios.addRadio radio, ())
  | .removeRadio radio => (radios.removeRadio radio).toOption.map fun radios => (radios, ())

/-- The radios in the table, without the nulls. -/
def nonNull : List ℕ := radios.filterMap id

/-- The radios that have been added and not removed, in order of addition. -/
def present : List Event → List ℕ
  | [] => []
  | .addRadio radio :: history => present history ++ [radio]
  | .removeRadio radio :: history => (present history).filter (· ≠ radio)

/-- The radios that have been added, the last one first. -/
def added : List Event → List ℕ
  | [] => []
  | .addRadio radio :: history => radio :: added history
  | .removeRadio _ :: history => added history

/-- Radios are added with increasing ids, and only present ones are removed. -/
def IsLegal (history : List Event) : Event → Prop
  | .addRadio radio => ∀ earlier ∈ added history, earlier < radio
  | .removeRadio radio => radio ∈ present history

instance (history : List Event) (e : Event) : Decidable (IsLegal history e) :=
  match e with
  | .addRadio radio => inferInstanceAs (Decidable (∀ earlier ∈ added history, earlier < radio))
  | .removeRadio radio => inferInstanceAs (Decidable (radio ∈ present history))

/-- As many entries lie between the first radio and this one as their ids differ, and there is another radio. -/
def isAligned (radio : ℕ) : Bool :=
  (radios.head?.join.any fun first => first ≤ radio && radios[radio - first]? = some (some radio)) &&
    radios.nonNull.any (· ≠ radio)

def isAlignedEvent : Event → Bool
  | .addRadio _ => true
  | .removeRadio radio => radios.isAligned radio

section Trim

variable {radios radios' : RadioTable} {radio : ℕ}

theorem trim_eq_ok (h : trim radios = .ok radios') :
    radios'.nonNull = radios.nonNull ∧ ∃ first rest, radios' = some first :: rest := by
  induction radios with
  | nil => cases h
  | cons entry radios ih =>
    cases entry with
    | none => exact ih h
    | some first =>
      cases h
      exact ⟨rfl, first, radios, rfl⟩

theorem exists_trim (h : radios.nonNull ≠ []) : ∃ radios', trim radios = .ok radios' := by
  induction radios with
  | nil => exact absurd rfl h
  | cons entry radios ih =>
    cases entry with
    | none => exact ih h
    | some first => exact ⟨_, rfl⟩

@[simp] theorem nonNull_append : nonNull (radios ++ radios') = radios.nonNull ++ radios'.nonNull := by
  simp [nonNull]

@[simp] theorem nonNull_cons_none : nonNull (none :: radios) = radios.nonNull := rfl

@[simp] theorem nonNull_cons_some : nonNull (some radio :: radios) = radio :: radios.nonNull := rfl

theorem mem_nonNull : radio ∈ radios.nonNull ↔ some radio ∈ radios := by
  simp [nonNull]

theorem set_none_eq {i : ℕ} {entry : Option ℕ} (hi : radios[i]? = some entry) :
    radios = radios.take i ++ entry :: radios.drop (i + 1) ∧
      radios.set i none = radios.take i ++ none :: radios.drop (i + 1) := by
  obtain ⟨hlt, hget⟩ := List.getElem?_eq_some_iff.mp hi
  refine ⟨?_, by rw [List.set_eq_take_append_cons_drop, if_pos hlt]⟩
  rw [← hget, List.getElem_cons_drop, List.take_append_drop]

theorem nonNull_set {i : ℕ} (hnodup : radios.nonNull.Nodup) (hi : radios[i]? = some (some radio)) :
    nonNull (radios.set i none) = radios.nonNull.filter (· ≠ radio) := by
  obtain ⟨hsplit, hset⟩ := set_none_eq hi
  generalize radios.take i = before at hsplit hset
  generalize radios.drop (i + 1) = after at hsplit hset
  subst hsplit
  rw [hset]
  rw [nonNull_append, nonNull_cons_some] at hnodup
  rw [nonNull_append, nonNull_cons_none, nonNull_append, nonNull_cons_some, List.filter_append,
    List.filter_cons_of_neg (by simp)]
  obtain ⟨-, hafter, hbefore⟩ := List.nodup_append.mp hnodup
  have hkeep {l : List ℕ} (hl : ∀ x ∈ l, x ≠ radio) : l.filter (· ≠ radio) = l := by
    rw [List.filter_eq_self]
    exact fun x hx => decide_eq_true (hl x hx)
  rw [hkeep fun x hx => hbefore x hx radio (.head _),
    hkeep fun x hx heq => (List.nodup_cons.mp hafter).1 (heq ▸ hx)]

/-- A removal that makes the radio disappear has found it at its index. -/
theorem getElem?_eq_of_set {i : ℕ} {entry : Option ℕ} (hi : radios[i]? = some entry) (hmem : radio ∈ radios.nonNull)
    (hgone : radio ∉ nonNull (radios.set i none)) : entry = some radio := by
  obtain ⟨hsplit, hset⟩ := set_none_eq hi
  rw [mem_nonNull] at hmem hgone
  rw [hset, List.mem_append, List.mem_cons] at hgone
  rw [hsplit, List.mem_append, List.mem_cons] at hmem
  rcases hmem with hmem | rfl | hmem
  · exact absurd (.inl hmem) hgone
  · rfl
  · exact absurd (.inr (.inr hmem)) hgone

end Trim

section Run

variable {radios radios' : RadioTable} {radio : ℕ} {history : List Event}

/-- The radios are in the order of their ids, and the first entry is not null. -/
structure Holds (radios : RadioTable) (history : List Event) : Prop where
  nonNull_eq : radios.nonNull = present history
  first : radios = [] ∨ ∃ first rest, radios = some first :: rest
  increasing : (present history).Pairwise (· < ·)
  added : ∀ radio ∈ present history, radio ∈ added history

theorem Holds.nodup (h : Holds radios history) : radios.nonNull.Nodup := by
  rw [h.nonNull_eq]
  exact h.increasing.imp fun hlt => hlt.ne

theorem Holds.addRadio (h : Holds radios history) (hlegal : IsLegal history (.addRadio radio)) :
    Holds (radios.addRadio radio) (.addRadio radio :: history) where
  nonNull_eq := by
    rw [RadioTable.addRadio, nonNull_append, h.nonNull_eq]
    rfl
  first := by
    rcases h.first with rfl | ⟨first, rest, rfl⟩
    · exact .inr ⟨radio, [], rfl⟩
    · exact .inr ⟨first, rest ++ [some radio], rfl⟩
  increasing := by
    refine List.pairwise_append.mpr ⟨h.increasing, List.pairwise_singleton .., fun earlier hearlier x hx => ?_⟩
    rw [List.mem_singleton.mp hx]
    exact hlegal earlier (h.added earlier hearlier)
  added := by
    intro x hx
    rcases List.mem_append.mp hx with hx | hx
    · exact .tail _ (h.added x hx)
    · rw [List.mem_singleton.mp hx]
      exact (.head _)

/-- The removal of a present radio works exactly when the radio is at the index that is computed, and another one
remains. -/
theorem Holds.removeRadio_iff (h : Holds radios history) (hmem : radio ∈ present history) :
    (∃ radios', radios.removeRadio radio = .ok radios' ∧
      radios'.nonNull = (present history).filter (· ≠ radio)) ↔ radios.isAligned radio = true := by
  have hnonNull := h.nonNull_eq
  have hnodup := h.nodup
  rcases h.first with rfl | ⟨first, rest, rfl⟩
  · rw [← hnonNull] at hmem
    cases hmem
  · have hother : (nonNull (some first :: rest)).any (· ≠ radio) = true ↔
        (present history).filter (· ≠ radio) ≠ [] := by
      rw [← hnonNull, List.any_eq_true, ne_eq, List.filter_eq_nil_iff]
      simp only [not_forall, exists_prop, not_not]
    have hfirst : first ≤ radio := by
      have hincreasing := h.increasing
      rw [← hnonNull, nonNull_cons_some] at hincreasing hmem
      rcases List.mem_cons.mp hmem with rfl | hmem
      · exact le_refl _
      · exact (List.rel_of_pairwise_cons hincreasing hmem).le
    have hindex : ((radio : ℤ) - first).toNat = radio - first := by omega
    unfold RadioTable.removeRadio isAligned
    rw [Bool.and_eq_true, hother]
    simp only [hindex, List.head?_cons, Option.join_some, Option.any_some, Bool.and_eq_true, decide_eq_true_eq,
      hfirst, true_and]
    constructor
    · rintro ⟨radios', hcall, hgone⟩
      split at hcall
      · next hrange =>
        obtain ⟨hsame, first', rest', rfl⟩ := trim_eq_ok hcall
        rw [hgone] at hsame
        have hi := List.getElem?_eq_getElem (show radio - first < (some first :: rest).length by omega)
        have hfound := getElem?_eq_of_set hi (hnonNull ▸ hmem) (by rw [← hsame]; simp)
        refine ⟨hi.trans (congrArg some hfound), ?_⟩
        rw [← hgone]
        exact List.cons_ne_nil _ _
      · cases hcall
    · rintro ⟨hi, hne⟩
      have hrange := (List.getElem?_eq_some_iff.mp hi).1
      have hset := nonNull_set hnodup hi
      rw [hnonNull] at hset
      obtain ⟨radios', hcall⟩ := exists_trim (hset ▸ hne)
      rw [if_pos ⟨by omega, by omega⟩]
      exact ⟨radios', hcall, (trim_eq_ok hcall).1.trans hset⟩

theorem Holds.removeRadio (h : Holds radios history) (hmem : radio ∈ present history)
    (haligned : radios.isAligned radio = true) (hcall : radios.removeRadio radio = .ok radios') :
    Holds radios' (.removeRadio radio :: history) where
  nonNull_eq := by
    obtain ⟨radios'', hcall', hnonNull⟩ := (h.removeRadio_iff hmem).mpr haligned
    obtain rfl := Except.ok.inj (hcall.symm.trans hcall')
    exact hnonNull
  first := by
    unfold RadioTable.removeRadio at hcall
    split at hcall
    · cases hcall
    · cases hcall
    · dsimp only at hcall
      split at hcall
      · exact .inr (trim_eq_ok hcall).2
      · cases hcall
  increasing := h.increasing.filter _
  added := fun x hx => h.added x (List.mem_of_mem_filter hx)

theorem holds_of_run {history : List (Event × (RadioTable × Unit))}
    (hrun : Run (· = []) (StepOf (traced step)) history radios)
    (hlegal : Always (fun earlier l => IsLegal (earlier.map (·.1)) l.1) history)
    (haligned : Always (fun _ l => l.2.1.isAlignedEvent l.1 = true) history) :
    Holds radios (history.map (·.1)) := by
  induction hrun with
  | init hinit =>
    subst hinit
    exact ⟨rfl, .inl rfl, .nil, fun x hx => hx⟩
  | @step history s s' l hrun hstep ih =>
    obtain ⟨e, before, output⟩ := l
    obtain ⟨rfl, hstep⟩ := traced_eq_some.mp hstep
    have h := ih hlegal.1 haligned.1
    cases e with
    | addRadio radio =>
      cases hstep
      exact h.addRadio hlegal.2
    | removeRadio radio =>
      obtain ⟨radios', hcall, heq⟩ := Option.map_eq_some_iff.mp hstep
      cases heq
      exact h.removeRadio hlegal.2 haligned.2 (toOption_eq_some.mp hcall)

/-- The table has the radios that are present, in order, and a further removal finds its radio without an access out
of range exactly when the radio is where the difference of the ids says and is not the last one. -/
theorem radios_present {history : List (Event × (RadioTable × Unit))}
    (hrun : Run (· = []) (StepOf (traced step)) history radios)
    (hlegal : Always (fun earlier l => IsLegal (earlier.map (·.1)) l.1) history)
    (haligned : Always (fun _ l => l.2.1.isAlignedEvent l.1 = true) history) :
    radios.nonNull = present (history.map (·.1)) ∧ ∀ radio ∈ present (history.map (·.1)),
      (∃ radios', radios.removeRadio radio = .ok radios' ∧
        radios'.nonNull = (present (history.map (·.1))).filter (· ≠ radio)) ↔ radios.isAligned radio = true := by
  have h := holds_of_run hrun hlegal haligned
  exact ⟨h.nonNull_eq, fun radio hmem => h.removeRadio_iff hmem⟩

/-- Ids with a gap: the table is right, and the radio behind the gap cannot be removed. -/
theorem radios_present_of_gap : ∃ radios : RadioTable, radios.nonNull = [4, 6, 9] ∧
    ∀ radio ∈ [4, 6, 9], (∃ radios', radios.removeRadio radio = .ok radios' ∧
      radios'.nonNull = [4, 6, 9].filter (· ≠ radio)) ↔ radios.isAligned radio = true := by
  obtain ⟨radios, history, hrun, hlegal, haligned, hpresent⟩ := exists_run_of_execute (traced step) []
    [.addRadio 3, .addRadio 4, .addRadio 5, .removeRadio 3, .removeRadio 5, .addRadio 6, .addRadio 9]
    (fun _ history => Always (fun earlier l => IsLegal (earlier.map (·.1)) l.1) history ∧
      Always (fun _ l => l.2.1.isAlignedEvent l.1 = true) history ∧ present (history.map (·.1)) = [4, 6, 9])
    (by decide +kernel)
  have h := radios_present hrun hlegal haligned
  rw [hpresent] at h
  exact ⟨radios, h⟩

/-- A radio whose id is not the next one is looked for past the end of the table. When the only radio is removed, the
nulls are trimmed past the end. -/
theorem not_radios_present :
    (∃ (radios : RadioTable) (history : List (Event × Unit)), Run (· = []) (StepOf step) history radios ∧
      Always (fun earlier l => IsLegal (earlier.map (·.1)) l.1) history ∧
      history.map (·.1) = [.addRadio 3, .addRadio 1] ∧ IsLegal (history.map (·.1)) (.removeRadio 3) ∧
      radios.removeRadio 3 = .error .outOfRange) ∧
    ∃ (radios : RadioTable) (history : List (Event × Unit)), Run (· = []) (StepOf step) history radios ∧
      Always (fun earlier l => IsLegal (earlier.map (·.1)) l.1) history ∧
      history.map (·.1) = [.addRadio 1] ∧ IsLegal (history.map (·.1)) (.removeRadio 1) ∧
      radios.removeRadio 1 = .error .outOfRange := by
  constructor
  · exact exists_run_of_execute step [] [.addRadio 1, .addRadio 3] (fun radios history =>
      Always (fun earlier l => IsLegal (earlier.map (·.1)) l.1) history ∧
      history.map (·.1) = [.addRadio 3, .addRadio 1] ∧ IsLegal (history.map (·.1)) (.removeRadio 3) ∧
      radios.removeRadio 3 = .error .outOfRange)
      (by decide +kernel)
  · exact exists_run_of_execute step [] [.addRadio 1] (fun radios history =>
      Always (fun earlier l => IsLegal (earlier.map (·.1)) l.1) history ∧
      history.map (·.1) = [.addRadio 1] ∧ IsLegal (history.map (·.1)) (.removeRadio 1) ∧
      radios.removeRadio 1 = .error .outOfRange) (by decide +kernel)

end Run

end RadioTable

end inet.physicallayer

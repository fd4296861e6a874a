import Mathlib.Data.List.Basic
import Mathlib.Order.WellFounded
import Mathlib.Order.Nat

namespace graph

section Trellis

variable {S I : Type}

/-- The state to which the inputs lead. -/
def pathState (next : S → I → S) (s : S) (inputs : List I) : S := inputs.foldl next s

/-- The costs of the inputs together; the cost of an input depends on the time. -/
def pathCost (next : S → I → S) (cost : ℕ → S → I → ℕ) : ℕ → S → List I → ℕ
  | _, _, [] => 0
  | t, s, i :: inputs => cost t s i + pathCost next cost (t + 1) (next s i) inputs

/-- No other allowed inputs, as many as these, lead to the same state at a lower cost. -/
structure Survivor (next : S → I → S) (cost : ℕ → S → I → ℕ) (allowed : I → Prop) (start : S)
    (inputs : List I) : Prop where
  all_allowed : ∀ i ∈ inputs, allowed i
  least : ∀ others : List I, (∀ i ∈ others, allowed i) → others.length = inputs.length →
    pathState next start others = pathState next start inputs →
      pathCost next cost 0 start inputs ≤ pathCost next cost 0 start others

variable {next : S → I → S} {cost : ℕ → S → I → ℕ} {allowed : I → Prop} {start s : S} {i : I} {inputs : List I}

@[simp] theorem pathState_snoc : pathState next s (inputs ++ [i]) = next (pathState next s inputs) i := by
  simp [pathState]

theorem pathCost_snoc (t : ℕ) : pathCost next cost t s (inputs ++ [i]) =
    pathCost next cost t s inputs + cost (t + inputs.length) (pathState next s inputs) i := by
  induction inputs generalizing t s with
  | nil => simp [pathCost, pathState]
  | cons j inputs ih =>
    rw [List.cons_append, pathCost, ih, pathCost, List.length_cons, Nat.add_assoc, Nat.add_assoc,
      Nat.add_comm 1 inputs.length]
    rfl

theorem exists_survivor (next : S → I → S) (cost : ℕ → S → I → ℕ) (start : S) (h : ∀ i ∈ inputs, allowed i) :
    ∃ survivor, Survivor next cost allowed start survivor ∧ survivor.length = inputs.length ∧
      pathState next start survivor = pathState next start inputs ∧
      pathCost next cost 0 start survivor ≤ pathCost next cost 0 start inputs := by
  let same : Set (List I) := {others | (∀ i ∈ others, allowed i) ∧ others.length = inputs.length ∧
    pathState next start others = pathState next start inputs}
  have hsame : inputs ∈ same := ⟨h, rfl, rfl⟩
  obtain ⟨survivor, ⟨hallowed, hlength, hstate⟩, hleast⟩ :=
    (InvImage.wf (pathCost next cost 0 start) Nat.lt_wfRel.wf).has_min same ⟨inputs, hsame⟩
  refine ⟨survivor, ⟨hallowed, fun others hothers hlength' hstate' => ?_⟩, hlength, hstate, ?_⟩
  · exact not_lt.mp (hleast others ⟨hothers, hlength'.trans hlength, hstate'.trans hstate⟩)
  · exact not_lt.mp (hleast inputs hsame)

/-- A survivor with one more input survives when it costs no more than the other survivors that are led to the same
state. -/
theorem Survivor.snoc (h : Survivor next cost allowed start inputs) (hi : allowed i)
    (hleast : ∀ (others : List I) (j : I), Survivor next cost allowed start others → others.length = inputs.length →
      allowed j → next (pathState next start others) j = next (pathState next start inputs) i →
      pathCost next cost 0 start (inputs ++ [i]) ≤ pathCost next cost 0 start (others ++ [j])) :
    Survivor next cost allowed start (inputs ++ [i]) := by
  refine ⟨fun j hj => ?_, fun others hothers hlength hstate => ?_⟩
  · rcases List.mem_append.mp hj with hj | hj
    · exact h.all_allowed j hj
    · rw [List.mem_singleton.mp hj]
      exact hi
  · rcases List.eq_nil_or_concat others with rfl | ⟨others, j, rfl⟩
    · rw [List.length_append] at hlength
      cases hlength
    · rw [List.concat_eq_append] at *
      rw [List.length_append, List.length_append, List.length_singleton, List.length_singleton,
        Nat.add_right_cancel_iff] at hlength
      obtain ⟨survivor, hsurvivor, hsame, hsameState, hle⟩ := exists_survivor next cost start
        fun k hk => hothers k (List.mem_append_left _ hk)
      rw [pathState_snoc, pathState_snoc, ← hsameState] at hstate
      refine (hleast survivor j hsurvivor (hsame.trans hlength) (hothers j (by simp)) hstate).trans ?_
      rw [pathCost_snoc, pathCost_snoc, hsame, hsameState]
      exact Nat.add_le_add_right hle _

end Trellis

end graph

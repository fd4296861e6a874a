import LoRaInet.Kernel.FutureEventSet
import Mathlib.Data.List.Forall2

namespace omnetpp

/-- `ASSERT` of a debug build. -/
def ASSERT (condition : Prop) [Decidable condition] (text : String) : Except Fault Unit :=
  if condition then .ok ()
  else .error (.cRuntimeError s!"ASSERT: Condition '{text}' does not hold")

/-- `ASSERT2`, with a text for its error. -/
def ASSERT2 (condition : Prop) [Decidable condition] (text : String) : Except Fault Unit :=
  if condition then .ok () else .error (.cRuntimeError s!"ASSERT: {text}")

variable {condition : Prop}

theorem assert_eq_ok [Decidable condition] {text : String} {u : Unit} :
    ASSERT condition text = .ok u ↔ condition := by
  unfold ASSERT
  split
  · next h => simp [h]
  · next h => simp [h]

theorem assert_bind [Decidable condition] {text : String} {B : Type}
    {f : Unit → Except Fault B} (h : condition) : (ASSERT condition text >>= f) = f () := by
  rw [ASSERT, if_pos h]
  rfl

theorem exists_of_forall₂ {A B : Type} {R : A → B → Prop} {l : List A} {l' : List B} {a : A}
    (h : List.Forall₂ R l l') (ha : a ∈ l) : ∃ b ∈ l', R a b := by
  induction h with
  | nil => cases ha
  | @cons a' b l l' hab _ ih =>
    rcases List.mem_cons.mp ha with rfl | ha
    · exact ⟨b, .head _, hab⟩
    · obtain ⟨b', hb', hab'⟩ := ih ha
      exact ⟨b', .tail _ hb', hab'⟩

theorem mapM_eq_ok_iff {A B : Type} {f : A → Except Fault B} {l : List A} {l' : List B} :
    l.mapM f = .ok l' ↔ List.Forall₂ (fun a b => f a = .ok b) l l' := by
  induction l generalizing l' with
  | nil =>
    rw [List.mapM_nil, List.forall₂_nil_left_iff]
    exact ⟨fun h => (Except.ok.inj h).symm, fun h => congrArg Except.ok h.symm⟩
  | cons a l ih =>
    rw [List.mapM_cons, bind_eq_ok_iff, List.forall₂_cons_left_iff]
    refine exists_congr fun b => ?_
    rw [bind_eq_ok_iff]
    constructor
    · rintro ⟨ha, rest, hrest, heq⟩
      exact ⟨rest, ha, ih.mp hrest, (Except.ok.inj heq).symm⟩
    · rintro ⟨rest, ha, hrest, rfl⟩
      exact ⟨ha, rest, ih.mpr hrest, rfl⟩

/-- The computation ends without a fault, in a result of which `P` holds. -/
def Returns {A : Type} (x : Except Fault A) (P : A → Prop) : Prop := ∃ a, x = .ok a ∧ P a

namespace Returns

variable {A B : Type} {x : Except Fault A} {f : A → Except Fault B} {P P' : A → Prop} {Q : B → Prop}

theorem ok {a : A} (h : P a) : Returns (.ok a) P := ⟨a, rfl, h⟩

theorem pure {a : A} (h : P a) : Returns (Pure.pure a) P := ⟨a, rfl, h⟩

theorem mono (h : Returns x P) (hP : ∀ a, P a → P' a) : Returns x P' := by
  obtain ⟨a, ha, hPa⟩ := h
  exact ⟨a, ha, hP a hPa⟩

theorem bind (h : Returns x P) (hf : ∀ a, P a → Returns (f a) Q) : Returns (x >>= f) Q := by
  obtain ⟨a, ha, hPa⟩ := h
  rw [ha]
  exact hf a hPa

theorem foldlM {S I : Type} {round : S → I → Except Fault S} {Inv : S → Prop}
    (hround : ∀ s i, Inv s → Returns (round s i) Inv) (l : List I) :
    ∀ s, Inv s → Returns (l.foldlM round s) Inv := by
  induction l with
  | nil => exact fun s hs => .pure hs
  | cons i l ih => exact fun s hs => (hround s i hs).bind ih

end Returns

/-- Whenever the computation ends without a fault, `P` holds of its result. -/
def Yields {A : Type} (x : Except Fault A) (P : A → Prop) : Prop := ∀ a, x = .ok a → P a

namespace Yields

variable {A B : Type} {x : Except Fault A} {f : A → Except Fault B} {P P' : A → Prop} {Q : B → Prop}

theorem ok {a : A} (h : P a) : Yields (.ok a) P := by
  rintro _ ⟨⟩
  exact h

theorem pure {a : A} (h : P a) : Yields (Pure.pure a) P := ok h

theorem error (fault : Fault) : Yields (.error fault) P := by
  rintro _ ⟨⟩

theorem mono (h : Yields x P) (hP : ∀ a, P a → P' a) : Yields x P' := fun a ha => hP a (h a ha)

theorem bind (h : Yields x P) (hf : ∀ a, P a → Yields (f a) Q) : Yields (x >>= f) Q := by
  intro b hb
  obtain ⟨a, ha, hfa⟩ := bind_eq_ok_iff.mp hb
  exact hf a (h a ha) b hfa

theorem ite [Decidable condition] {y : Except Fault A} (hx : Yields x P) (hy : Yields y P) :
    Yields (if condition then x else y) P := by
  split
  · exact hx
  · exact hy

theorem trivial (x : Except Fault A) : Yields x fun _ => True := fun _ _ => True.intro

theorem foldlM {S I : Type} {round : S → I → Except Fault S} {Inv : S → Prop} (l : List I)
    (hround : ∀ s, ∀ i ∈ l, Inv s → Yields (round s i) Inv) : ∀ s, Inv s → Yields (l.foldlM round s) Inv := by
  induction l with
  | nil => exact fun s hs => .pure hs
  | cons i l ih =>
    intro s hs
    rw [List.foldlM_cons]
    refine (hround s i (.head _) hs).bind ?_
    exact ih fun s j hj => hround s j (List.mem_cons_of_mem i hj)

end Yields

theorem Returns.yields {A : Type} {x : Except Fault A} {P Q : A → Prop} (h : Returns x P)
    (h' : Yields x Q) : Returns x fun a => P a ∧ Q a := by
  obtain ⟨a, ha, hP⟩ := h
  exact ⟨a, ha, hP, h' a ha⟩

theorem scheduleAt_returns {M : Type} {fes : FutureEventSet M} {t : SimTime} {message : M}
    (h : fes.simTime ≤ t) : Returns (fes.scheduleAt t message) fun fes' =>
      fes' = { fes with scheduled := fes.scheduled ++ [⟨t, message⟩] } :=
  ⟨_, FutureEventSet.scheduleAt_eq_ok.mpr ⟨h, rfl⟩, rfl⟩

namespace Avoids

variable {A B : Type} {checked : Prop} {fault f : Fault} {x : Except Fault A} {g : A → Except Fault B}
  {P P' : A → Prop} {Q : B → Prop} {a : A}

end Avoids

end omnetpp

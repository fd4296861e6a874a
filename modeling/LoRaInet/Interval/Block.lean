import Mathlib.Algebra.Order.BigOperators.Group.List
import Mathlib.Data.Int.Interval
import Mathlib.Data.Set.Card
import Mathlib.Order.Interval.Set.Basic
import Mathlib.Order.Interval.Set.LinearOrder
import Mathlib.Order.Bounds.Basic

namespace interval

/-- A half-open interval that is not empty. -/
structure Block (A : Type) [LT A] where
  low : A
  high : A
  low_lt_high : low < high

namespace Block

variable {A : Type} [LinearOrder A]

def toSet (b : Block A) : Set A := Set.Ico b.low b.high

/-- There is a gap after the first block, in which the second does not begin. -/
def Before (a b : Block A) : Prop := a.high < b.low
deriving Decidable

/-- The least block that holds both. -/
def hull (a b : Block A) : Block A where
  low := min a.low b.low
  high := max a.high b.high
  low_lt_high := lt_of_le_of_lt (min_le_left _ _) (a.low_lt_high.trans_le (le_max_left _ _))

theorem mem_toSet {b : Block A} {x : A} : x ∈ b.toSet ↔ b.low ≤ x ∧ x < b.high := Iff.rfl

theorem Before.trans {a b c : Block A} (hab : a.Before b) (hbc : b.Before c) : a.Before c :=
  lt_trans (lt_trans hab b.low_lt_high) hbc

theorem toSet_hull {a b : Block A} (hab : ¬a.Before b) (hba : ¬b.Before a) :
    (a.hull b).toSet = a.toSet ∪ b.toSet := by
  have htouch : b.low ≤ a.high := not_lt.mp hab
  have htouch' : a.low ≤ b.high := not_lt.mp hba
  exact (Set.Ico_union_Ico' htouch htouch').symm

theorem hull_before {a b c : Block A} (ha : a.Before c) (hb : b.Before c) : (a.hull b).Before c :=
  max_lt ha hb

end Block

section Separated

variable {A : Type} [LinearOrder A]

/-- The blocks are in order, with a gap between any two. -/
def Separated (blocks : List (Block A)) : Prop := blocks.Pairwise Block.Before

def cover (blocks : List (Block A)) : Set A := {x | ∃ b ∈ blocks, x ∈ b.toSet}

@[simp] theorem cover_nil : cover ([] : List (Block A)) = ∅ := by
  ext x
  simp [cover]

@[simp] theorem cover_cons (b : Block A) (blocks : List (Block A)) :
    cover (b :: blocks) = b.toSet ∪ cover blocks := by
  ext x
  simp [cover]

@[simp] theorem cover_append (l m : List (Block A)) : cover (l ++ m) = cover l ∪ cover m := by
  ext x
  simp only [cover, List.mem_append, Set.mem_union, Set.mem_ofPred_eq]
  grind

@[simp] theorem cover_reverse (blocks : List (Block A)) : cover blocks.reverse = cover blocks := by
  ext x
  simp [cover]

/-- The search goes from the last block to the first. What is in the way is
merged, and the rest keeps its place. -/
def insertInto (seg : Block A) : List (Block A) → List (Block A) → List (Block A)
  | [], after => seg :: after
  | b :: before, after =>
    if b.Before seg then before.reverse ++ b :: seg :: after
    else if seg.Before b then insertInto seg before (b :: after)
    else insertInto (seg.hull b) before after

def insert (seg : Block A) (blocks : List (Block A)) : List (Block A) :=
  insertInto seg blocks.reverse []

theorem separated_insertInto {seg : Block A} {before after : List (Block A)}
    (hseparated : Separated (before.reverse ++ after)) (hafter : ∀ b ∈ after, seg.Before b) :
    Separated (insertInto seg before after) := by
  induction before generalizing seg after with
  | nil => exact List.pairwise_cons.mpr ⟨hafter, hseparated⟩
  | cons b before ih =>
    rw [List.reverse_cons, List.append_assoc, List.singleton_append] at hseparated
    obtain ⟨hbefore, htail, hcross⟩ := List.pairwise_append.mp hseparated
    obtain ⟨hb, hrest⟩ := List.pairwise_cons.mp htail
    unfold insertInto
    split
    · next hseg =>
      refine List.pairwise_append.mpr ⟨hbefore, ?_, ?_⟩
      · refine List.pairwise_cons.mpr ⟨?_, List.pairwise_cons.mpr ⟨hafter, hrest⟩⟩
        intro c hc
        cases List.mem_cons.mp hc with
        | inl heq => exact heq ▸ hseg
        | inr hmem => exact hb c hmem
      · intro a ha c hc
        have hab := hcross a ha b (.head _)
        cases List.mem_cons.mp hc with
        | inl heq => exact heq ▸ hab
        | inr hmem =>
          cases List.mem_cons.mp hmem with
          | inl heq => exact heq ▸ hab.trans hseg
          | inr hlater => exact hcross a ha c (List.mem_cons_of_mem b hlater)
    · split
      · next hseg =>
        apply ih hseparated
        intro c hc
        cases List.mem_cons.mp hc with
        | inl heq => exact heq ▸ hseg
        | inr hmem => exact hafter c hmem
      · apply ih
        · refine List.pairwise_append.mpr ⟨hbefore, hrest, ?_⟩
          exact fun a ha c hc => hcross a ha c (List.mem_cons_of_mem b hc)
        · exact fun c hc => Block.hull_before (hafter c hc) (hb c hc)

theorem cover_insertInto (seg : Block A) (before after : List (Block A)) :
    cover (insertInto seg before after) = seg.toSet ∪ cover before ∪ cover after := by
  induction before generalizing seg after with
  | nil => simp [insertInto]
  | cons b before ih =>
    unfold insertInto
    split
    · ext x
      simp only [cover_append, cover_reverse, cover_cons, Set.mem_union]
      grind
    · next hbefore =>
      split
      · rw [ih]
        ext x
        simp only [cover_cons, Set.mem_union]
        grind
      · next hafter =>
        rw [ih, Block.toSet_hull hafter hbefore, cover_cons, Set.union_assoc seg.toSet]

theorem separated_insert {seg : Block A} {blocks : List (Block A)} (h : Separated blocks) :
    Separated (insert seg blocks) := by
  apply separated_insertInto
  · simpa using h
  · simp

@[simp] theorem cover_insert (seg : Block A) (blocks : List (Block A)) :
    cover (insert seg blocks) = seg.toSet ∪ cover blocks := by
  simp [insert, cover_insertInto]

variable {blocks : List (Block A)}

theorem Separated.before_or_before (h : Separated blocks) {a b : Block A}
    (ha : a ∈ blocks) (hb : b ∈ blocks) : a = b ∨ a.Before b ∨ b.Before a := by
  have hpair : blocks.Pairwise fun a b => a = b ∨ a.Before b ∨ b.Before a :=
    h.imp fun hab => .inr (.inl hab)
  have hflip : blocks.Pairwise (flip fun a b => a = b ∨ a.Before b ∨ b.Before a) :=
    h.imp fun hab => .inr (.inr hab)
  exact hpair.forall_of_forall_of_flip (fun a _ => .inl rfl) hflip ha hb

variable {b : Block A}

theorem Separated.high_notMem (h : Separated blocks) (hb : b ∈ blocks) : b.high ∉ cover blocks := by
  rintro ⟨c, hc, hlow, hhigh⟩
  obtain rfl | hbefore | hafter := h.before_or_before hb hc
  · exact lt_irrefl _ hhigh
  · exact absurd hlow (not_le_of_gt hbefore)
  · exact absurd (lt_trans hhigh (lt_trans hafter b.low_lt_high)) (lt_irrefl _)

theorem Separated.isLeast_low (h : Separated blocks) (hb : b ∈ blocks) {x : A} (hx : x ∈ b.toSet) :
    IsLeast {p | Set.Icc p x ⊆ cover blocks} b.low := by
  constructor
  · intro y hy
    exact ⟨b, hb, hy.1, lt_of_le_of_lt hy.2 hx.2⟩
  · intro p hp
    by_contra hlow
    have hpb : p < b.low := not_le.mp hlow
    obtain ⟨c, hc, hpc⟩ := hp ⟨le_refl p, (le_of_lt hpb).trans hx.1⟩
    obtain rfl | hbefore | hafter := h.before_or_before hc hb
    · exact absurd hpb (not_lt_of_ge hpc.1)
    · have hgap : c.high ∈ Set.Icc p x := ⟨le_of_lt hpc.2, (le_of_lt hbefore).trans hx.1⟩
      exact h.high_notMem hc (hp hgap)
    · have hlt := lt_trans (lt_of_lt_of_le hafter hpc.1) hpb
      exact absurd b.low_lt_high (not_lt_of_gt hlt)

theorem Separated.isGreatest_high (h : Separated blocks)
    (hb : b ∈ blocks) {x : A} (hx : x ∈ b.toSet) :
    IsGreatest {p | Set.Ico x p ⊆ cover blocks} b.high := by
  constructor
  · intro y hy
    exact ⟨b, hb, hx.1.trans hy.1, hy.2⟩
  · intro p hp
    by_contra hhigh
    have hgap : b.high ∈ Set.Ico x p := ⟨le_of_lt hx.2, not_le.mp hhigh⟩
    exact h.high_notMem hb (hp hgap)

theorem Separated.cover_tail {rest : List (Block A)} (h : Separated (b :: rest)) :
    cover rest = {x ∈ cover (b :: rest) | b.high ≤ x} := by
  obtain ⟨hbefore, -⟩ := List.pairwise_cons.mp h
  ext x
  constructor
  · intro hx
    obtain ⟨c, hc, hxc⟩ := hx
    exact ⟨⟨c, List.mem_cons_of_mem b hc, hxc⟩, (le_of_lt (hbefore c hc)).trans hxc.1⟩
  · rintro ⟨hx, hle⟩
    rw [cover_cons] at hx
    exact hx.resolve_left fun hxb => absurd hxb.2 (not_lt_of_ge hle)

theorem Separated.cover_cut {b c : Block A} {rest : List (Block A)} (h : Separated (b :: rest))
    (hlow : b.low ≤ c.low) (hhigh : c.high = b.high) :
    Separated (c :: rest) ∧ cover (c :: rest) = {x ∈ cover (b :: rest) | c.low ≤ x} := by
  obtain ⟨hbefore, hrest⟩ := List.pairwise_cons.mp h
  have hbefore' : ∀ d ∈ rest, c.Before d := fun d hd => by
    rw [Block.Before, hhigh]
    exact hbefore d hd
  refine ⟨List.pairwise_cons.mpr ⟨hbefore', hrest⟩, ?_⟩
  ext x
  rw [cover_cons]
  constructor
  · rintro (hx | hx)
    · exact ⟨⟨b, (.head _), hlow.trans hx.1, hhigh ▸ hx.2⟩, hx.1⟩
    · obtain ⟨d, hd, hxd⟩ := hx
      refine ⟨⟨d, List.mem_cons_of_mem b hd, hxd⟩, ?_⟩
      exact (le_of_lt (lt_trans c.low_lt_high (hbefore' d hd))).trans hxd.1
  · rintro ⟨hx, hle⟩
    rw [cover_cons] at hx
    exact hx.imp_left fun hxb => ⟨hle, hhigh.symm ▸ hxb.2⟩

end Separated

/-- Over the integers the blocks add up to the size of what they cover. -/
theorem Separated.ncard_cover {blocks : List (Block ℤ)} (h : Separated blocks) :
    (cover blocks).Finite ∧
      ((cover blocks).ncard : ℤ) = (blocks.map fun b => b.high - b.low).sum := by
  induction blocks with
  | nil => simp
  | cons b rest ih =>
    obtain ⟨hbefore, hrest⟩ := List.pairwise_cons.mp h
    obtain ⟨hfinite, hsum⟩ := ih hrest
    have hdisjoint : Disjoint b.toSet (cover rest) := by
      rw [Set.disjoint_left]
      rintro x hx ⟨c, hc, hxc⟩
      exact absurd (lt_trans hx.2 (hbefore c hc)) (not_lt_of_ge hxc.1)
    have hblock : (b.toSet.ncard : ℤ) = b.high - b.low := by
      rw [Block.toSet, ← Finset.coe_Ico, Set.ncard_coe_finset, Int.card_Ico,
        Int.toNat_of_nonneg (sub_nonneg.mpr (le_of_lt b.low_lt_high))]
    have hblockFinite : b.toSet.Finite := Set.finite_Ico _ _
    rw [cover_cons, Set.ncard_union_eq hdisjoint hblockFinite hfinite]
    refine ⟨hblockFinite.union hfinite, ?_⟩
    rw [Nat.cast_add, hblock, hsum, List.map_cons, List.sum_cons]

end interval

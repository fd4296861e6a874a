import Mathlib.Data.List.AList
import Mathlib.Data.List.Basic

namespace container

/-- `std::map`, in no particular order. -/
abbrev Map (K V : Type) := AList fun _ : K => V

namespace Map

variable {K V W : Type} [DecidableEq K] (m : Map K V)

/-- `operator[]`: an entry that is missing is default-constructed. -/
def subscript (k : K) (default : V) : Map K V :=
  match m.lookup k with
  | some _ => m
  | none => m.insert k default

/-- A loop that assigns to each value in place. -/
def mapValues (f : V → V) (m : Map K V) : Map K V :=
  ⟨m.entries.map (Sigma.map id fun _ => f), m.nodupKeys.map₂ fun _ => f⟩

/-- A loop that erases the entries for which the test fails. -/
def filter (p : K → V → Bool) (m : Map K V) : Map K V :=
  ⟨m.entries.filter fun e => p e.1 e.2, List.NodupKeys.sublist List.filter_sublist m.nodupKeys⟩

theorem lookup_subscript (k j : K) (default : V) : (subscript m k default).lookup j =
      if j = k then some ((m.lookup k).getD default) else m.lookup j := by
  unfold subscript
  by_cases hj : j = k
  · subst hj
    cases hlookup : m.lookup j with
    | none => simp
    | some v => simp [hlookup]
  · cases hlookup : m.lookup k with
    | none => simp [hj, AList.lookup_insert_ne hj]
    | some v => simp [hj]

theorem getD_lookup_subscript (k j : K) (default : V) :
    ((subscript m k default).lookup j).getD default = (m.lookup j).getD default := by
  rw [lookup_subscript]
  by_cases hj : j = k
  · rw [if_pos hj, Option.getD_some, hj]
  · rw [if_neg hj]

@[simp] theorem lookup_mapValues (f : V → V) (m : Map K V) (k : K) :
    (mapValues f m).lookup k = (m.lookup k).map f :=
  List.dlookup_map₂ k

theorem lookup_insert_eq (k j : K) (v : V) :
    (m.insert k v).lookup j = if j = k then some v else m.lookup j := by
  by_cases hj : j = k
  · simp [← hj]
  · simp [hj, AList.lookup_insert_ne hj]

theorem lookup_erase_eq (k j : K) : (m.erase k).lookup j = if j = k then none else m.lookup j := by
  by_cases hj : j = k
  · simp [← hj]
  · simp [hj, AList.lookup_erase_ne hj]

theorem mem_entries_iff {m : Map K V} {k : K} {v : V} :
    (⟨k, v⟩ : Sigma fun _ : K => V) ∈ m.entries ↔ m.lookup k = some v :=
  AList.mem_lookup_iff.symm

theorem lookup_filter (p : K → V → Bool) (m : Map K V) (k : K) :
    (filter p m).lookup k = (m.lookup k).filter (p k) := by
  ext v
  rw [← mem_entries_iff, filter, List.mem_filter, mem_entries_iff, Option.filter_eq_some_iff]

theorem erase_of_lookup_eq_none {m : Map K V} {k : K} (h : m.lookup k = none) : m.erase k = m :=
  AList.ext (List.kerase_of_notMem_keys (AList.lookup_eq_none.mp h))

section Flatten

variable {B : Type} {f : K → V → List B} {key : B → K}

theorem filter_flatMap_of_notMem (hkey : ∀ k v, ∀ b ∈ f k v, key b = k) {k : K} :
    ∀ {l : List (Sigma fun _ : K => V)}, k ∉ l.keys →
      (l.flatMap fun e => f e.1 e.2).filter (fun b => decide (key b = k)) = [] := by
  intro l hk
  rw [List.filter_eq_nil_iff]
  intro b hb
  obtain ⟨e, he, hbe⟩ := List.mem_flatMap.mp hb
  have hne : key b ≠ k := by
    rintro rfl
    rw [hkey _ _ b hbe] at hk
    exact hk (List.mem_keys_of_mem he)
  simpa using hne

/-- What a loop over all entries puts out for one key is what it does for its value. -/
theorem filter_flatMap_entries (hkey : ∀ k v, ∀ b ∈ f k v, key b = k) (m : Map K V) (k : K) :
    (m.entries.flatMap fun e => f e.1 e.2).filter (fun b => decide (key b = k)) =
      ((m.lookup k).map (f k)).getD [] := by
  obtain ⟨l, hnodup⟩ := m
  induction l with
  | nil => rfl
  | cons e rest ih =>
    obtain ⟨j, v⟩ := e
    obtain ⟨hj, hrest⟩ := List.nodupKeys_cons.mp hnodup
    rw [List.flatMap_cons, List.filter_append]
    by_cases hk : k = j
    · subst hk
      have hall : (f k v).filter (fun b => decide (key b = k)) = f k v :=
        List.filter_eq_self.mpr fun b hb => decide_eq_true (hkey k v b hb)
      rw [hall, filter_flatMap_of_notMem hkey hj, List.append_nil, AList.lookup,
        List.dlookup_cons_eq]
      rfl
    · have hnone : (f j v).filter (fun b => decide (key b = k)) = [] := by
        rw [List.filter_eq_nil_iff]
        intro b hb
        rw [hkey j v b hb]
        simpa using Ne.symm hk
      rw [hnone, List.nil_append, ih hrest, AList.lookup, AList.lookup, List.dlookup_cons_ne _ _ hk]

end Flatten

end Map


variable {A : Type} (l : List A)

/-- `vector::resize`: what is beyond the new size is lost, and new elements are
default-constructed. -/
def resize (n : Nat) (default : A) : List A :=
  l.take n ++ List.replicate (n - l.length) default

/-- Makes sure that an index exists. -/
def grow (i : Nat) (default : A) : List A :=
  if l.length ≤ i then resize l (i + 1) default else l

theorem length_resize (n : Nat) (default : A) : (resize l n default).length = n := by
  simp only [resize, List.length_append, List.length_take, List.length_replicate]
  omega

theorem getElem?_resize (n i : Nat) (default : A) :
    (resize l n default)[i]? = if i < n then some (l[i]?.getD default) else none := by
  by_cases hi : i < n
  · rw [if_pos hi, resize]
    by_cases hl : i < l.length
    · rw [List.getElem?_append_left (by simp; omega), List.getElem?_take_of_lt hi]
      simp [hl]
    · have hout : l[i]? = none := List.getElem?_eq_none (by omega)
      rw [List.getElem?_append_right (by simp; omega), hout, List.getElem?_replicate,
        List.length_take, if_pos (by omega)]
      rfl
  · rw [if_neg hi]
    exact List.getElem?_eq_none (by rw [length_resize]; omega)

theorem length_grow (i : Nat) (default : A) : (grow l i default).length = max l.length (i + 1) := by
  unfold grow
  split
  · rw [length_resize]
    omega
  · omega

/-- An index that did not exist reads as the default before and after. -/
theorem getD_grow (i j : Nat) (default : A) :
    (grow l i default)[j]?.getD default = l[j]?.getD default := by
  unfold grow
  split
  · next hle =>
    rw [getElem?_resize]
    by_cases hj : j < i + 1
    · simp [hj]
    · have hout : l[j]? = none := List.getElem?_eq_none (by omega)
      simp [hj, hout]
  · rfl

theorem getElem?_grow_self (i : Nat) (default : A) :
    (grow l i default)[i]? = some (l[i]?.getD default) := by
  unfold grow
  split
  · rw [getElem?_resize, if_pos (by omega)]
  · next hlt =>
    rw [List.getElem?_eq_getElem (by omega)]
    rfl

/-- An element of the grown vector was there before, or is the default. -/
theorem getElem?_grow_eq_some {l : List A} {i j : Nat} {default a : A}
    (h : (grow l i default)[j]? = some a) : l[j]? = some a ∨ a = default := by
  have hread := getD_grow l i j default
  rw [h, Option.getD_some] at hread
  cases hj : l[j]? with
  | none =>
    rw [hj] at hread
    exact Or.inr hread
  | some b =>
    rw [hj] at hread
    exact Or.inl (by rw [hread]; rfl)

theorem mem_grow {l : List A} {i : Nat} {default a : A} (h : a ∈ grow l i default) :
    a ∈ l ∨ a = default := by
  obtain ⟨j, hj⟩ := List.mem_iff_getElem?.mp h
  obtain hold | hnew := getElem?_grow_eq_some hj
  · exact Or.inl (List.mem_of_getElem? hold)
  · exact Or.inr hnew

theorem grow_of_lt {l : List A} {i : Nat} (h : i < l.length) (default : A) :
    grow l i default = l := by
  unfold grow
  rw [if_neg (by omega)]

theorem getElem?_grow_of_lt {l : List A} {i j : Nat} (h : j < l.length) (default : A) :
    (grow l i default)[j]? = l[j]? := by
  unfold grow
  split
  · rw [getElem?_resize, if_pos (by omega), List.getElem?_eq_getElem h]
    rfl
  · rfl

theorem modify_eq_set {l : List A} {i : Nat} {a : A} (h : l[i]? = some a) (f : A → A) :
    l.modify i f = l.set i (f a) := by
  apply List.ext_getElem?
  intro j
  rw [List.getElem?_modify]
  by_cases hj : i = j
  · subst hj
    have hlt : i < l.length := (List.getElem?_eq_some_iff.mp h).1
    rw [List.getElem?_set_self hlt, h]
    simp
  · rw [List.getElem?_set_ne hj]
    simp [hj]

/-- The loop that counts leading elements stops at one that does not count. -/
theorem length_takeWhile_le {p : A → Bool} :
    ∀ {l : List A} {i : Nat} {a : A}, l[i]? = some a → p a = false →
      (l.takeWhile p).length ≤ i := by
  intro l
  induction l with
  | nil => simp
  | cons b l ih =>
    intro i a ha hp
    rw [List.takeWhile_cons]
    by_cases hb : p b = true
    · rw [if_pos hb]
      cases i with
      | zero =>
        obtain rfl : b = a := by simpa using ha
        rw [hb] at hp
        cases hp
      | succ i =>
        have hle := ih (by simpa using ha) hp
        simp only [List.length_cons]
        omega
    · rw [if_neg hb]
      simp

theorem getElem?_of_lt_takeWhile {p : A → Bool} :
    ∀ {l : List A} {i : Nat}, i < (l.takeWhile p).length → ∃ a, l[i]? = some a ∧ p a = true := by
  intro l
  induction l with
  | nil => simp
  | cons b l ih =>
    intro i hi
    rw [List.takeWhile_cons] at hi
    by_cases hb : p b = true
    · rw [if_pos hb] at hi
      cases i with
      | zero => exact ⟨b, rfl, hb⟩
      | succ i => exact ih (by simpa using hi)
    · rw [if_neg hb] at hi
      simp at hi

/-- The elements in front are dropped, and the base index moves on. -/
theorem getElem?_drop_sub {base id n : Nat} (h : base + n ≤ id) :
    (l.drop n)[id - (base + n)]? = l[id - base]? := by
  rw [List.getElem?_drop]
  congr 1
  omega

end container

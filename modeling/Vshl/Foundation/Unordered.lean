/-
  Foundation/Unordered.lean --- sets and maps whose iteration order is not specified.

  The containers are lists in *one* iteration order.  An insertion keeps an
  element that is already there and a lookup does not depend on the order, so
  every fact stated through `Mem` and `find` survives a reordering
  (`UnorderedMap.find_reordered`).
-/
import Mathlib.Data.List.AList

set_option autoImplicit false

namespace Vshl.Foundation

/-! ## Sets -/

/-- A finite set, listed without repetition in its present iteration order. -/
structure UnorderedSet (α : Type) where
  toList : List α
  nodup : toList.Nodup
  deriving DecidableEq

namespace UnorderedSet

variable {α : Type}

instance : Membership α (UnorderedSet α) := ⟨fun s a => a ∈ s.toList⟩

instance : EmptyCollection (UnorderedSet α) := ⟨⟨[], List.nodup_nil⟩⟩

instance : Inhabited (UnorderedSet α) := ⟨∅⟩

theorem mem_def {a : α} {s : UnorderedSet α} : a ∈ s ↔ a ∈ s.toList := Iff.rfl

@[simp] theorem toList_empty : (∅ : UnorderedSet α).toList = [] := rfl

@[simp] theorem notMem_empty (a : α) : a ∉ (∅ : UnorderedSet α) := by
  simp [mem_def]

/-- Is the set empty? -/
def isEmpty (s : UnorderedSet α) : Bool := s.toList.isEmpty

section

variable [DecidableEq α]

instance (a : α) (s : UnorderedSet α) : Decidable (a ∈ s) :=
  inferInstanceAs (Decidable (a ∈ s.toList))

/-- Insert an element; a set that already has it stays as it is. -/
def insert (s : UnorderedSet α) (a : α) : UnorderedSet α :=
  ⟨s.toList.insert a, s.nodup.insert⟩

/-- Remove an element. -/
def erase (s : UnorderedSet α) (a : α) : UnorderedSet α :=
  ⟨s.toList.erase a, s.nodup.erase a⟩

@[simp] theorem mem_insert {s : UnorderedSet α} {a b : α} :
    b ∈ s.insert a ↔ b = a ∨ b ∈ s := by
  simp [mem_def, insert]

@[simp] theorem mem_erase {s : UnorderedSet α} {a b : α} :
    b ∈ s.erase a ↔ b ≠ a ∧ b ∈ s := by
  simp [mem_def, erase, s.nodup.mem_erase_iff]

/-- Insert the elements of a list from the left. -/
def insertAll (s : UnorderedSet α) (l : List α) : UnorderedSet α :=
  l.foldl insert s

@[simp] theorem mem_insertAll {l : List α} {s : UnorderedSet α} {b : α} :
    b ∈ s.insertAll l ↔ b ∈ s ∨ b ∈ l := by
  induction l generalizing s with
  | nil => simp [insertAll]
  | cons a rest ih =>
      have hstep : s.insertAll (a :: rest) = (s.insert a).insertAll rest := rfl
      rw [hstep, ih, mem_insert, List.mem_cons]
      tauto

end

end UnorderedSet

/-! ## Maps -/

/-- A finite map, listed with distinct keys in its present iteration order. -/
abbrev UnorderedMap (κ ν : Type) : Type := AList (fun _ : κ => ν)

namespace UnorderedMap

variable {κ ν : Type}

/-- The values, in iteration order. -/
def values (m : UnorderedMap κ ν) : List ν := m.entries.map Sigma.snd

/-- Is the map empty? -/
def isEmpty (m : UnorderedMap κ ν) : Bool := m.entries.isEmpty

@[simp] theorem values_empty : values (∅ : UnorderedMap κ ν) = [] := rfl

theorem isEmpty_iff {m : UnorderedMap κ ν} : isEmpty m = true ↔ m = ∅ := by
  constructor
  · intro h
    apply AList.ext
    simpa [isEmpty] using h
  · rintro rfl
    rfl

section

variable [DecidableEq κ]

/-- The value stored under a key. -/
def find (m : UnorderedMap κ ν) (k : κ) : Option ν := AList.lookup k m

/-- Insert a pair; a key that is already there keeps its value. -/
def emplace (m : UnorderedMap κ ν) (k : κ) (v : ν) : UnorderedMap κ ν :=
  if k ∈ m then m else AList.insert k v m

/-- Remove a key. -/
def remove (m : UnorderedMap κ ν) (k : κ) : UnorderedMap κ ν := AList.erase k m

@[simp] theorem find_empty (k : κ) : find (∅ : UnorderedMap κ ν) k = none :=
  AList.lookup_empty k

theorem find_eq_none {m : UnorderedMap κ ν} {k : κ} : find m k = none ↔ k ∉ m :=
  AList.lookup_eq_none

theorem mem_iff_find {m : UnorderedMap κ ν} {k : κ} :
    k ∈ m ↔ ∃ v, find m k = some v := by
  rw [← AList.lookup_isSome, Option.isSome_iff_exists]
  rfl

theorem mem_entries_iff {m : UnorderedMap κ ν} {k : κ} {v : ν} :
    (⟨k, v⟩ : Sigma fun _ : κ => ν) ∈ m.entries ↔ find m k = some v :=
  AList.mem_lookup_iff.symm

theorem mem_values_iff {m : UnorderedMap κ ν} {v : ν} :
    v ∈ values m ↔ ∃ k, find m k = some v := by
  simp only [values, List.mem_map]
  constructor
  · rintro ⟨⟨k, w⟩, hmem, rfl⟩
    exact ⟨k, mem_entries_iff.mp hmem⟩
  · rintro ⟨k, hk⟩
    exact ⟨⟨k, v⟩, mem_entries_iff.mpr hk, rfl⟩

theorem isEmpty_eq_false_of_find {m : UnorderedMap κ ν} {k : κ} {v : ν}
    (h : find m k = some v) : isEmpty m = false := by
  have hmem := mem_entries_iff.mpr h
  cases hentries : m.entries with
  | nil => simp [hentries] at hmem
  | cons _ _ => simp [isEmpty, hentries]

theorem find_emplace_of_none {m : UnorderedMap κ ν} {k : κ} (v : ν)
    (h : find m k = none) (k' : κ) :
    find (emplace m k v) k' = if k' = k then some v else find m k' := by
  unfold emplace
  rw [if_neg (find_eq_none.mp h)]
  split
  · rename_i heq
    subst heq
    exact AList.lookup_insert m
  · rename_i hne
    exact AList.lookup_insert_ne hne

theorem mem_emplace {m : UnorderedMap κ ν} {k : κ} {v : ν} {k' : κ} :
    k' ∈ emplace m k v ↔ k' = k ∨ k' ∈ m := by
  unfold emplace
  split
  · rename_i hmem
    constructor
    · exact Or.inr
    · rintro (rfl | h)
      · exact hmem
      · exact h
  · exact AList.mem_insert m

/-- A new key brings its value, one that is there brings nothing. -/
theorem values_emplace (m : UnorderedMap κ ν) (k : κ) (v : ν) :
    values (emplace m k v) = if k ∈ m then values m else v :: values m := by
  unfold emplace values
  split
  · rfl
  · rename_i habsent
    rw [AList.entries_insert_of_notMem habsent, List.map_cons]

theorem find_remove (m : UnorderedMap κ ν) (k k' : κ) :
    find (remove m k) k' = if k' = k then none else find m k' := by
  split
  · rename_i heq
    subst heq
    exact AList.lookup_erase k' m
  · rename_i hne
    exact AList.lookup_erase_ne hne

theorem emplace_empty_entries (k : κ) (v : ν) :
    (emplace (∅ : UnorderedMap κ ν) k v).entries = [⟨k, v⟩] := rfl

end

/-! ### Iteration order -/

/-- The same map in another iteration order. -/
def Reordered (m m' : UnorderedMap κ ν) : Prop := m'.entries.Perm m.entries

theorem Reordered.find [DecidableEq κ] {m m' : UnorderedMap κ ν}
    (h : Reordered m m') (k : κ) : UnorderedMap.find m' k = UnorderedMap.find m k :=
  AList.perm_lookup h

end UnorderedMap

/-! ## Loops that take each new key once -/

/-- A loop that yields a key which is not there, and adds no other key, yields all keys that
were not there before it, in order. -/
theorem foldl_yields {σ κ ν : Type} (step : σ → κ → σ) (Has : σ → κ → Prop)
    (yielded : σ → List ν) (name : κ → ν)
    (hstep : ∀ s k, ¬ Has s k → yielded (step s k) = yielded s ++ [name k])
    {keys : List κ} (hnodup : keys.Nodup)
    (hadds : ∀ s, ∀ k ∈ keys, ∀ k' ∈ keys, k' ≠ k → Has (step s k) k' → Has s k') {s : σ}
    (hfresh : ∀ k ∈ keys, ¬ Has s k) :
    yielded (keys.foldl step s) = yielded s ++ keys.map name := by
  induction keys generalizing s with
  | nil => simp
  | cons k rest ih =>
      obtain ⟨hnew, hrest⟩ := List.nodup_cons.mp hnodup
      have hadds' : ∀ s, ∀ k₁ ∈ rest, ∀ k₂ ∈ rest, k₂ ≠ k₁ → Has (step s k₁) k₂ → Has s k₂ :=
        fun s k₁ h₁ k₂ h₂ =>
          hadds s k₁ (List.mem_cons_of_mem k h₁) k₂ (List.mem_cons_of_mem k h₂)
      have hstill : ∀ k' ∈ rest, ¬ Has (step s k) k' := by
        intro k' hk' hhas
        have hmem := List.mem_cons_of_mem k hk'
        refine hfresh k' hmem (hadds s k List.mem_cons_self k' hmem ?_ hhas)
        rintro rfl
        exact hnew hk'
      rw [List.foldl_cons, ih hrest hadds' hstill, hstep s k (hfresh k List.mem_cons_self),
        List.append_assoc, List.map_cons, List.singleton_append]

end Vshl.Foundation

/-
  Foundation/TryEach.lean --- a loop over a list that ends at the first element that is
  not answered with `true`.

  Nothing is undone when the loop ends early, so the state it leaves is that after the
  elements before the one that ended it, and whatever that one did.
-/
import Mathlib.Data.List.Basic

set_option autoImplicit false

namespace Vshl.Foundation

section

variable {σ α ε : Type}

/-- Ask about each element in turn. -/
def tryEach (ask : σ → α → Except ε Bool × σ) : σ → List α → Except ε Bool × σ
  | s, [] => (.ok true, s)
  | s, a :: rest =>
      match ask s a with
      | (.ok true, s) => tryEach ask s rest
      | (answer, s) => (answer, s)

namespace TryEach

variable (ask : σ → α → Except ε Bool × σ)

/-- The state after some elements have been asked about. -/
def after : σ → List α → σ
  | s, [] => s
  | s, a :: rest => after (ask s a).2 rest

/-- All elements are answered with `true`. -/
def Accepted : σ → List α → Prop
  | _, [] => True
  | s, a :: rest => (ask s a).1 = .ok true ∧ Accepted (ask s a).2 rest

/-- The loop ends at this element. -/
structure StopsAt (s : σ) (l : List α) (front : List α) (a : α) (back : List α) : Prop where
  split : l = front ++ a :: back
  accepted : Accepted ask s front
  refused : (ask (after ask s front) a).1 ≠ .ok true

variable {ask}

theorem tryEach_cons_of_true {s : σ} {a : α} (h : (ask s a).1 = .ok true) (rest : List α) :
    tryEach ask s (a :: rest) = tryEach ask (ask s a).2 rest := by
  rcases hask : ask s a with ⟨answer, s'⟩
  rw [hask] at h
  obtain rfl : answer = .ok true := h
  rw [tryEach, hask]

theorem tryEach_cons_of_ne {s : σ} {a : α} (h : (ask s a).1 ≠ .ok true) (rest : List α) :
    tryEach ask s (a :: rest) = ask s a := by
  rcases hask : ask s a with ⟨fault | (_ | _), s'⟩
  · rw [tryEach, hask]
  · rw [tryEach, hask]
  · rw [hask] at h
    exact absurd rfl h

theorem tryEach_of_accepted {s : σ} {l : List α} (h : Accepted ask s l) :
    tryEach ask s l = (.ok true, after ask s l) := by
  induction l generalizing s with
  | nil => rfl
  | cons a rest ih => rw [tryEach_cons_of_true h.1, ih h.2, after]

theorem tryEach_of_stopsAt {s : σ} {l front back : List α} {a : α}
    (h : StopsAt ask s l front a back) : tryEach ask s l = ask (after ask s front) a := by
  obtain ⟨rfl, haccepted, hrefused⟩ := h
  induction front generalizing s with
  | nil => exact tryEach_cons_of_ne hrefused back
  | cons first rest ih =>
      rw [List.cons_append, tryEach_cons_of_true haccepted.1]
      exact ih haccepted.2 hrefused

/-- The loop comes to its end, or it ends at some element. -/
theorem accepted_or_stopsAt (ask : σ → α → Except ε Bool × σ) (s : σ) (l : List α) :
    Accepted ask s l ∨ ∃ front a back, StopsAt ask s l front a back := by
  induction l generalizing s with
  | nil => exact Or.inl trivial
  | cons a rest ih =>
      by_cases htrue : (ask s a).1 = .ok true
      · rcases ih (ask s a).2 with haccepted | ⟨front, b, back, hstops⟩
        · exact Or.inl ⟨htrue, haccepted⟩
        · refine Or.inr ⟨a :: front, b, back, ?_, ⟨htrue, hstops.accepted⟩, hstops.refused⟩
          rw [hstops.split, List.cons_append]
      · exact Or.inr ⟨[], a, rest, rfl, trivial, htrue⟩

/-- The loop yields `true` exactly if every element is answered so. -/
theorem tryEach_eq_true_iff {s : σ} {l : List α} :
    (tryEach ask s l).1 = .ok true ↔ Accepted ask s l := by
  constructor
  · intro htrue
    rcases accepted_or_stopsAt ask s l with haccepted | ⟨front, a, back, hstops⟩
    · exact haccepted
    · rw [tryEach_of_stopsAt hstops] at htrue
      exact absurd htrue hstops.refused
  · intro haccepted
    rw [tryEach_of_accepted haccepted]

/-- Any other answer of the loop is that of the element it ends at. -/
theorem tryEach_eq_iff {s : σ} {l : List α} {answer : Except ε Bool}
    (hanswer : answer ≠ .ok true) :
    (tryEach ask s l).1 = answer ↔
      ∃ front a back, StopsAt ask s l front a back ∧ (ask (after ask s front) a).1 = answer := by
  constructor
  · intro heq
    rcases accepted_or_stopsAt ask s l with haccepted | ⟨front, a, back, hstops⟩
    · rw [tryEach_of_accepted haccepted] at heq
      exact absurd heq.symm hanswer
    · rw [tryEach_of_stopsAt hstops] at heq
      exact ⟨front, a, back, hstops, heq⟩
  · rintro ⟨front, a, back, hstops, heq⟩
    rw [tryEach_of_stopsAt hstops]
    exact heq

/-- The loop faults exactly if it reaches an element that faults. -/
theorem tryEach_error_iff {s : σ} {l : List α} :
    (∃ fault, (tryEach ask s l).1 = .error fault) ↔
      ∃ front a back, l = front ++ a :: back ∧ Accepted ask s front ∧
        ∃ fault, (ask (after ask s front) a).1 = .error fault := by
  constructor
  · rintro ⟨fault, hfault⟩
    obtain ⟨front, a, back, hstops, heq⟩ := (tryEach_eq_iff (by simp)).mp hfault
    exact ⟨front, a, back, hstops.split, hstops.accepted, fault, heq⟩
  · rintro ⟨front, a, back, hsplit, haccepted, fault, hfault⟩
    refine ⟨fault, (tryEach_eq_iff (by simp)).mpr ⟨front, a, back, ⟨hsplit, haccepted, ?_⟩, hfault⟩⟩
    rw [hfault]
    simp

end TryEach

end

end Vshl.Foundation

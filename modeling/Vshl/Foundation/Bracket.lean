/-
  Foundation/Bracket.lean --- sequences in which something is opened and closed again
  before the next is opened.

  `Paired l outstanding` builds such a sequence from its end, because a run appends
  to its trace.  What it means for the positions in the sequence is read off by
  `Paired.closed_follows` and `Paired.between`.
-/
import Mathlib.Data.List.Infix

set_option autoImplicit false

namespace Vshl.Foundation

/-- Something tagged `t` is opened or closed. -/
inductive Bracket (τ : Type) where
  | opened (t : τ)
  | closed (t : τ)
  deriving DecidableEq, Repr

variable {τ : Type}

/-- Each opening is closed, with its own tag, before the next opening; only the last
may be outstanding. -/
inductive Paired : List (Bracket τ) → Option τ → Prop where
  | nil : Paired [] none
  | opened {l : List (Bracket τ)} (t : τ) (h : Paired l none) :
      Paired (l ++ [.opened t]) (some t)
  | closed {l : List (Bracket τ)} {t : τ} (h : Paired l (some t)) :
      Paired (l ++ [.closed t]) none

namespace Paired

/-- What is outstanding was opened last. -/
theorem last_of_some {l : List (Bracket τ)} {t : τ} (h : Paired l (some t)) :
    ∃ earlier, l = earlier ++ [.opened t] ∧ Paired earlier none := by
  cases h with
  | opened t h => exact ⟨_, rfl, h⟩

/-- When nothing is outstanding, the last bracket is a closing one. -/
theorem last_of_none {l : List (Bracket τ)} (h : Paired l none) :
    l = [] ∨ ∃ earlier t, l = earlier ++ [.closed t] ∧ Paired earlier (some t) := by
  cases h with
  | nil => exact Or.inl rfl
  | closed h => exact Or.inr ⟨_, _, rfl, h⟩

/-- Cut after any bracket, the front is paired too. -/
theorem front {l : List (Bracket τ)} {outstanding : Option τ} (h : Paired l outstanding) :
    ∀ front back, l = front ++ back → ∃ outstanding', Paired front outstanding' := by
  induction h with
  | nil =>
      intro front back hsplit
      obtain ⟨rfl, -⟩ := List.append_eq_nil_iff.mp hsplit.symm
      exact ⟨none, nil⟩
  | opened t h ih =>
      intro front back hsplit
      rcases List.eq_nil_or_concat' back with hnil | ⟨init, last, hconcat⟩
      · rw [hnil, List.append_nil] at hsplit
        exact ⟨some t, hsplit ▸ opened t h⟩
      · rw [hconcat, ← List.append_assoc] at hsplit
        exact ih front init (List.append_inj' hsplit rfl).1
  | @closed l t h ih =>
      intro front back hsplit
      rcases List.eq_nil_or_concat' back with hnil | ⟨init, last, hconcat⟩
      · rw [hnil, List.append_nil] at hsplit
        exact ⟨none, hsplit ▸ closed h⟩
      · rw [hconcat, ← List.append_assoc] at hsplit
        exact ih front init (List.append_inj' hsplit rfl).1

theorem of_concat_opened {l : List (Bracket τ)} {t : τ} {outstanding : Option τ}
    (h : Paired (l ++ [.opened t]) outstanding) : Paired l none ∧ outstanding = some t := by
  cases outstanding with
  | none =>
      rcases last_of_none h with hnil | ⟨earlier, t', heq, -⟩
      · exact absurd hnil (by simp)
      · exact absurd (List.append_inj' heq rfl).2 (by simp)
  | some t' =>
      obtain ⟨earlier, heq, hearlier⟩ := last_of_some h
      obtain ⟨rfl, hlast⟩ := List.append_inj' heq rfl
      obtain rfl : t = t' := by simpa using hlast
      exact ⟨hearlier, rfl⟩

theorem of_concat_closed {l : List (Bracket τ)} {t : τ} {outstanding : Option τ}
    (h : Paired (l ++ [.closed t]) outstanding) : Paired l (some t) ∧ outstanding = none := by
  cases outstanding with
  | none =>
      rcases last_of_none h with hnil | ⟨earlier, t', heq, hearlier⟩
      · exact absurd hnil (by simp)
      · obtain ⟨rfl, hlast⟩ := List.append_inj' heq rfl
        obtain rfl : t = t' := by simpa using hlast
        exact ⟨hearlier, rfl⟩
  | some t' =>
      obtain ⟨earlier, heq, -⟩ := last_of_some h
      exact absurd (List.append_inj' heq rfl).2 (by simp)

/-- A closing bracket comes directly after the opening one of its tag. -/
theorem closed_follows {l : List (Bracket τ)} {outstanding : Option τ}
    (h : Paired l outstanding) {front back : List (Bracket τ)} {t : τ}
    (hsplit : l = front ++ .closed t :: back) : ∃ earlier, front = earlier ++ [.opened t] := by
  have hcut : l = (front ++ [.closed t]) ++ back := by
    rw [hsplit, List.append_assoc]
    rfl
  obtain ⟨outstanding', hfront⟩ := h.front _ _ hcut
  obtain ⟨earlier, heq, -⟩ := last_of_some (of_concat_closed hfront).1
  exact ⟨earlier, heq⟩

/-- Between an opening and the next there is one closing and nothing else. -/
theorem between {l : List (Bracket τ)} {outstanding : Option τ} (h : Paired l outstanding)
    {front middle back : List (Bracket τ)} {t t' : τ}
    (hsplit : l = front ++ .opened t :: (middle ++ .opened t' :: back))
    (hnext : ∀ t'', .opened t'' ∉ middle) : middle = [.closed t] := by
  have hcut : l = ((front ++ .opened t :: middle) ++ [.opened t']) ++ back := by
    rw [hsplit]
    simp
  obtain ⟨outstanding', hfront⟩ := h.front _ _ hcut
  rcases last_of_none (of_concat_opened hfront).1 with hnil | ⟨earlier, u, heq, hearlier⟩
  · exact absurd hnil (by simp)
  · -- the sequence before the next opening ends in `opened u, closed u`
    obtain ⟨first, hfirst, -⟩ := last_of_some hearlier
    rw [hfirst] at heq
    rcases List.eq_nil_or_concat' middle with hmiddle | ⟨init, last, hmiddle⟩
    · rw [hmiddle] at heq
      exact absurd (List.append_inj' heq rfl).2 (by simp)
    · rw [hmiddle, ← List.cons_append, ← List.append_assoc] at heq
      obtain ⟨hinit, hlast⟩ := List.append_inj' heq rfl
      obtain rfl : last = .closed u := by simpa using hlast
      rcases List.eq_nil_or_concat' init with hnil | ⟨init', last', hinit'⟩
      · rw [hnil] at hinit
        obtain rfl : t = u := by simpa using (List.append_inj' hinit rfl).2
        rw [hmiddle, hnil]
        rfl
      · rw [hinit', ← List.cons_append, ← List.append_assoc] at hinit
        obtain rfl : last' = .opened u := by simpa using (List.append_inj' hinit rfl).2
        refine absurd ?_ (hnext u)
        rw [hmiddle, hinit']
        simp

end Paired

/-! ## Tags in a row -/

/-- These tags opened one after the other, each closed before the next. -/
def inTurn : List τ → List (Bracket τ)
  | [] => []
  | [t] => [.opened t]
  | t :: t' :: rest => .opened t :: .closed t :: inTurn (t' :: rest)

/-- One more tag: what is outstanding is closed first. -/
theorem inTurn_concat (l : List τ) (t : τ) :
    inTurn (l ++ [t]) = inTurn l ++ (l.getLast?.map .closed).toList ++ [.opened t] := by
  induction l using inTurn.induct with
  | case1 => rfl
  | case2 first => rfl
  | case3 first second rest ih =>
      rw [List.cons_append, List.cons_append, inTurn, ← List.cons_append, ih, inTurn,
        List.getLast?_cons_cons]
      rfl

end Vshl.Foundation

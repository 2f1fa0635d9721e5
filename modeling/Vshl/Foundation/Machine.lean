/-
  Foundation/Machine.lean --- deterministic machines, their runs, and the
  induction rules every "for all runs" statement goes through.

  A machine answers each input with an output.  Its runs are lists of inputs,
  so "for every run" is a quantifier over lists and "at every point of a run" a
  quantifier over splits of a list.
-/
import Mathlib.Data.List.Infix

set_option autoImplicit false

namespace Vshl.Foundation

/-- A list that is one element longer is split at that element or before it. -/
theorem concat_eq_append_cons_iff {α : Type} {l front back : List α} {x a : α} :
    l ++ [x] = front ++ a :: back ↔
      (l = front ∧ x = a ∧ back = []) ∨
        ∃ init, back = init ++ [x] ∧ l = front ++ a :: init := by
  constructor
  · intro hsplit
    rcases List.eq_nil_or_concat' back with rfl | ⟨init, last, rfl⟩
    · obtain ⟨hl, hx⟩ := List.append_inj' hsplit rfl
      exact Or.inl ⟨hl, (List.cons.inj hx).1, rfl⟩
    · rw [← List.cons_append, ← List.append_assoc] at hsplit
      obtain ⟨hl, hx⟩ := List.append_inj' hsplit rfl
      exact Or.inr ⟨init, by rw [(List.cons.inj hx).1], hl⟩
  · rintro (⟨rfl, rfl, rfl⟩ | ⟨init, rfl, rfl⟩)
    · rfl
    · rw [List.append_assoc, List.cons_append]

/-- A deterministic machine with states `σ`, inputs `ι` and outputs `ο`. -/
structure Machine (σ ι ο : Type) where
  step : σ → ι → σ × ο

namespace Machine

variable {σ ι ο α : Type}

/-- The state after one input. -/
def next (M : Machine σ ι ο) (s : σ) (i : ι) : σ := (M.step s i).1

/-- The output for one input. -/
def output (M : Machine σ ι ο) (s : σ) (i : ι) : ο := (M.step s i).2

/-- The state after a list of inputs. -/
def run (M : Machine σ ι ο) : σ → List ι → σ
  | s, [] => s
  | s, i :: rest => M.run (M.next s i) rest

@[simp] theorem run_nil (M : Machine σ ι ο) (s : σ) : M.run s [] = s := rfl

@[simp] theorem run_cons (M : Machine σ ι ο) (s : σ) (i : ι) (rest : List ι) :
    M.run s (i :: rest) = M.run (M.next s i) rest := rfl

theorem run_append (M : Machine σ ι ο) (s : σ) (before after : List ι) :
    M.run s (before ++ after) = M.run (M.run s before) after := by
  induction before generalizing s with
  | nil => rfl
  | cons i rest ih => exact ih (M.next s i)

theorem run_concat (M : Machine σ ι ο) (s : σ) (before : List ι) (i : ι) :
    M.run s (before ++ [i]) = M.next (M.run s before) i := by
  rw [run_append]
  rfl

/-! ## Invariants -/

/-- What every step preserves holds after every run. -/
theorem run_invariant (M : Machine σ ι ο) {I : σ → Prop}
    (hstep : ∀ s i, I s → I (M.next s i)) {s : σ} (hs : I s)
    (inputs : List ι) : I (M.run s inputs) := by
  induction inputs generalizing s with
  | nil => exact hs
  | cons i rest ih => exact ih (hstep s i hs)

/-- Every step of the run meets a condition on its input and the state it is
taken in. -/
def Guarded (M : Machine σ ι ο) (G : σ → ι → Prop) : σ → List ι → Prop
  | _, [] => True
  | s, i :: rest => G s i ∧ M.Guarded G (M.next s i) rest

theorem guarded_iff_split (M : Machine σ ι ο) {G : σ → ι → Prop} {s : σ}
    {inputs : List ι} :
    M.Guarded G s inputs ↔
      ∀ before i after, inputs = before ++ i :: after →
        G (M.run s before) i := by
  induction inputs generalizing s with
  | nil => simp [Guarded]
  | cons head rest ih =>
      constructor
      · rintro ⟨hhead, hrest⟩ before i after hsplit
        cases before with
        | nil =>
            obtain ⟨rfl, -⟩ := List.cons.inj hsplit
            exact hhead
        | cons first others =>
            obtain ⟨rfl, hothers⟩ := List.cons.inj hsplit
            exact ih.mp hrest others i after hothers
      · intro h
        refine ⟨h [] head rest rfl, ih.mpr ?_⟩
        intro before i after hsplit
        exact h (head :: before) i after (by rw [hsplit]; rfl)

/-- What every step that meets the guard preserves holds after every run whose
steps all meet it. -/
theorem run_invariant_of_guarded (M : Machine σ ι ο) {G : σ → ι → Prop}
    {I : σ → Prop} (hstep : ∀ s i, G s i → I s → I (M.next s i))
    {s : σ} (hs : I s) {inputs : List ι} (hguarded : M.Guarded G s inputs) :
    I (M.run s inputs) := by
  induction inputs generalizing s with
  | nil => exact hs
  | cons i rest ih => exact ih (hstep s i hguarded.1 hs) hguarded.2

/-! ## What has held since -/

/-- Some step of the run met `B`, and every state from the one after that step to
the last met `A`. -/
def Since (M : Machine σ ι ο) (A : σ → Prop) (B : σ → ι → Prop) (s : σ)
    (inputs : List ι) : Prop :=
  ∃ before i after, inputs = before ++ i :: after ∧ B (M.run s before) i ∧
    ∀ kept rest, after = kept ++ rest → A (M.run s (before ++ i :: kept))

theorem Since.now {M : Machine σ ι ο} {A : σ → Prop} {B : σ → ι → Prop} {s : σ}
    {inputs : List ι} (h : M.Since A B s inputs) : A (M.run s inputs) := by
  obtain ⟨before, i, after, hsplit, -, hA⟩ := h
  rw [hsplit]
  exact hA after [] (List.append_nil after).symm

/-- A run that is one step longer. -/
theorem since_concat (M : Machine σ ι ο) {A : σ → Prop} {B : σ → ι → Prop} {s : σ}
    {inputs : List ι} {i : ι} :
    M.Since A B s (inputs ++ [i]) ↔
      A (M.run s (inputs ++ [i])) ∧ (B (M.run s inputs) i ∨ M.Since A B s inputs) := by
  constructor
  · intro h
    obtain ⟨before, j, after, hsplit, hB, hA⟩ := h
    have hend : A (M.run s (inputs ++ [i])) := by
      rw [hsplit]
      exact hA after [] (List.append_nil after).symm
    refine ⟨hend, ?_⟩
    rcases concat_eq_append_cons_iff.mp hsplit with ⟨rfl, rfl, -⟩ | ⟨init, rfl, hinputs⟩
    · -- the step that met `B` is the last one
      exact Or.inl hB
    · refine Or.inr ⟨before, j, init, hinputs, hB, ?_⟩
      intro kept rest hinit
      refine hA kept (rest ++ [i]) ?_
      rw [hinit, List.append_assoc]
  · intro h
    obtain ⟨hend, hB | hsince⟩ := h
    · refine ⟨inputs, i, [], rfl, hB, ?_⟩
      intro kept rest hnil
      obtain ⟨rfl, -⟩ := List.append_eq_nil_iff.mp hnil.symm
      exact hend
    · obtain ⟨before, j, after, hsplit, hB, hA⟩ := hsince
      refine ⟨before, j, after ++ [i], by rw [hsplit, List.append_assoc]; rfl, hB, ?_⟩
      intro kept rest hkept
      rcases List.eq_nil_or_concat' rest with hnil | ⟨init, last, hconcat⟩
      · subst hnil
        rw [List.append_nil] at hkept
        rw [← hkept, ← List.cons_append, ← List.append_assoc, ← hsplit]
        exact hend
      · rw [hconcat, ← List.append_assoc] at hkept
        obtain ⟨hafter, -⟩ := List.append_inj' hkept rfl
        exact hA kept init hafter

/-! ## Following a run from outside -/

/-- The machine together with a value that an outsider keeps up to date from
the inputs and outputs it sees. -/
def tracked (M : Machine σ ι ο) (track : α → ι → ο → α) : Machine (σ × α) ι ο where
  step s i := ((M.next s.1 i, track s.2 i (M.output s.1 i)), M.output s.1 i)

/-- The outsider's value after a run. -/
def replay (M : Machine σ ι ο) (track : α → ι → ο → α) (s : σ) (a : α)
    (inputs : List ι) : α :=
  ((M.tracked track).run (s, a) inputs).2

@[simp] theorem tracked_run_fst (M : Machine σ ι ο) (track : α → ι → ο → α)
    (s : σ) (a : α) (inputs : List ι) :
    ((M.tracked track).run (s, a) inputs).1 = M.run s inputs := by
  induction inputs generalizing s a with
  | nil => rfl
  | cons i rest ih => exact ih (M.next s i) (track a i (M.output s i))

theorem replay_concat (M : Machine σ ι ο) (track : α → ι → ο → α) (s : σ) (a : α)
    (inputs : List ι) (i : ι) :
    M.replay track s a (inputs ++ [i]) =
      track (M.replay track s a inputs) i (M.output (M.run s inputs) i) := by
  unfold replay
  rw [run_concat, ← tracked_run_fst M track s a inputs]
  rfl

/-- A relation between the machine and the outsider that each step that meets the guard
keeps holds after every run whose steps all meet it. -/
theorem replay_simulation_of_guarded (M : Machine σ ι ο) {track : α → ι → ο → α}
    {G : σ → ι → Prop} {R : σ → α → Prop}
    (hstep : ∀ s a i, G s i → R s a → R (M.next s i) (track a i (M.output s i)))
    {s : σ} {a : α} (hs : R s a) {inputs : List ι} (hguarded : M.Guarded G s inputs) :
    R (M.run s inputs) (M.replay track s a inputs) := by
  induction inputs generalizing s a with
  | nil => exact hs
  | cons i rest ih => exact ih (hstep s a i hguarded.1 hs) hguarded.2

/-- A relation between the machine and the outsider that each step keeps holds
after every run. -/
theorem replay_simulation (M : Machine σ ι ο) {track : α → ι → ο → α}
    {R : σ → α → Prop}
    (hstep : ∀ s a i, R s a → R (M.next s i) (track a i (M.output s i)))
    {s : σ} {a : α} (hs : R s a) (inputs : List ι) :
    R (M.run s inputs) (M.replay track s a inputs) := by
  have hguarded : M.Guarded (fun _ _ => True) s inputs :=
    M.guarded_iff_split.mpr fun _ _ _ _ => trivial
  exact M.replay_simulation_of_guarded (fun s a i _ => hstep s a i) hs hguarded

/-! ## What the steps of a run add up to -/

/-- What the steps of a run yield, one after the other. -/
def collect (M : Machine σ ι ο) (f : σ → ι → List α) : σ → List ι → List α
  | _, [] => []
  | s, i :: rest => f s i ++ M.collect f (M.next s i) rest

@[simp] theorem collect_nil (M : Machine σ ι ο) (f : σ → ι → List α) (s : σ) :
    M.collect f s [] = [] := rfl

@[simp] theorem collect_cons (M : Machine σ ι ο) (f : σ → ι → List α) (s : σ) (i : ι)
    (rest : List ι) : M.collect f s (i :: rest) = f s i ++ M.collect f (M.next s i) rest := rfl

/-- A log that every step extends by what it yields. -/
theorem log_run (M : Machine σ ι ο) {f : σ → ι → List α} (log : σ → List α)
    (hstep : ∀ s i, log (M.next s i) = log s ++ f s i) (s : σ) (inputs : List ι) :
    log (M.run s inputs) = log s ++ M.collect f s inputs := by
  induction inputs generalizing s with
  | nil => simp
  | cons i rest ih => rw [run_cons, ih, hstep, collect_cons, List.append_assoc]

theorem collect_append (M : Machine σ ι ο) (f : σ → ι → List α) (s : σ)
    (before after : List ι) :
    M.collect f s (before ++ after) =
      M.collect f s before ++ M.collect f (M.run s before) after := by
  induction before generalizing s with
  | nil => rfl
  | cons i rest ih => rw [List.cons_append, collect_cons, ih, collect_cons, List.append_assoc,
      run_cons]

/-- Inputs that leave every state alone can be left out of a run. -/
theorem run_filter {κ : Type} (M : Machine σ ι ο) (read : κ → ι) {p : κ → Bool}
    (hstep : ∀ s k, p k = false → M.next s (read k) = s) (s : σ) (inputs : List κ) :
    M.run s ((inputs.filter p).map read) = M.run s (inputs.map read) := by
  induction inputs generalizing s with
  | nil => rfl
  | cons k rest ih =>
      cases hp : p k with
      | true =>
          rw [List.filter_cons_of_pos hp, List.map_cons, List.map_cons, run_cons, run_cons, ih]
      | false =>
          have hskip : ¬ p k = true := by simp [hp]
          rw [List.filter_cons_of_neg hskip, List.map_cons, run_cons, hstep s k hp, ih]

/-- A relation between the state and what has been yielded so far, if every step keeps it. -/
theorem collect_simulation (M : Machine σ ι ο) {f : σ → ι → List α} {R : σ → List α → Prop}
    (hstep : ∀ s l i, R s l → R (M.next s i) (l ++ f s i)) {s : σ} (hs : R s [])
    (inputs : List ι) : R (M.run s inputs) (M.collect f s inputs) := by
  induction inputs using List.reverseRecOn with
  | nil => exact hs
  | append_singleton before i ih =>
      rw [run_concat, collect_append, collect_cons, collect_nil, List.append_nil]
      exact hstep _ _ i ih

/-! ## Two runs with the same outputs -/

/-- The outputs of a run. -/
def outputs (M : Machine σ ι ο) (s : σ) (inputs : List ι) : List ο :=
  M.collect (fun s i => [M.output s i]) s inputs

@[simp] theorem outputs_nil (M : Machine σ ι ο) (s : σ) : M.outputs s [] = [] := rfl

@[simp] theorem outputs_cons (M : Machine σ ι ο) (s : σ) (i : ι) (rest : List ι) :
    M.outputs s (i :: rest) = M.output s i :: M.outputs (M.next s i) rest := rfl

/-- A relation that each step keeps, with the same output on both sides, gives the same
outputs over every run. -/
theorem outputs_simulation {τ : Type} (M : Machine σ ι ο) (N : Machine τ ι ο)
    {R : σ → τ → Prop}
    (hstep : ∀ s t i, R s t → M.output s i = N.output t i ∧ R (M.next s i) (N.next t i))
    {s : σ} {t : τ} (h : R s t) (inputs : List ι) :
    M.outputs s inputs = N.outputs t inputs ∧ R (M.run s inputs) (N.run t inputs) := by
  induction inputs generalizing s t with
  | nil => exact ⟨rfl, h⟩
  | cons i rest ih =>
      obtain ⟨hout, hnext⟩ := hstep s t i h
      obtain ⟨houts, hrun⟩ := ih hnext
      refine ⟨?_, hrun⟩
      rw [outputs_cons, outputs_cons, hout, houts]

/-! ## A machine that does what another one does -/

section

variable {τ κ ο' : Type} (M : Machine σ ι ο) (N : Machine τ κ ο') {I : σ → Prop} (abs : σ → τ)
  (read : ι → κ)

/-- If each step of a machine is, seen from outside, a step of another, so is each run. -/
theorem run_refines (hkeeps : ∀ s i, I s → I (M.next s i))
    (hstep : ∀ s i, I s → abs (M.next s i) = N.next (abs s) (read i)) {s : σ} (hs : I s)
    (inputs : List ι) : abs (M.run s inputs) = N.run (abs s) (inputs.map read) := by
  induction inputs generalizing s with
  | nil => rfl
  | cons i rest ih => rw [run_cons, ih (hkeeps s i hs), hstep s i hs, List.map_cons, run_cons]

/-- And if each output shows that of the other machine, the outputs of a run do. -/
theorem outputs_refine {Shows : ο → ο' → Prop} (hkeeps : ∀ s i, I s → I (M.next s i))
    (hstep : ∀ s i, I s → abs (M.next s i) = N.next (abs s) (read i))
    (hshows : ∀ s i, I s → Shows (M.output s i) (N.output (abs s) (read i))) {s : σ} (hs : I s)
    (inputs : List ι) :
    List.Forall₂ Shows (M.outputs s inputs) (N.outputs (abs s) (inputs.map read)) := by
  induction inputs generalizing s with
  | nil => exact .nil
  | cons i rest ih =>
      refine .cons (hshows s i hs) ?_
      rw [← hstep s i hs]
      exact ih (hkeeps s i hs)

end

end Machine

end Vshl.Foundation

/-
  Foundation/Blocks.lean --- logs that grow by whole blocks.

  A writer appends to a log in blocks.  A block spells itself out in some entries, which
  may depend on the position at which it is written, so that an entry can name an earlier
  one by its position.  What may be written can depend on the log so far.
-/
import Mathlib.Data.List.Infix

set_option autoImplicit false

namespace Vshl.Foundation

variable {α β γ : Type}

/-- The second log is the first with some blocks written behind it, each admitted after
the log that it was written behind. -/
inductive Blocks (spell : Nat → β → List α) (Admits : List α → β → Prop)
    (before : List α) : List α → Prop where
  | refl : Blocks spell Admits before before
  | write {log : List α} (h : Blocks spell Admits before log) (block : β)
      (hblock : Admits log block) :
      Blocks spell Admits before (log ++ spell log.length block)

namespace Blocks

variable {spell : Nat → β → List α} {Admits Admits' : List α → β → Prop}
  {before log after : List α}

theorem one (block : β) (hblock : Admits before block) :
    Blocks spell Admits before (before ++ spell before.length block) :=
  .write .refl block hblock

theorem trans (h : Blocks spell Admits before log) (h' : Blocks spell Admits log after) :
    Blocks spell Admits before after := by
  induction h' with
  | refl => exact h
  | write _ block hblock ih => exact .write ih block hblock

theorem extends_log (h : Blocks spell Admits before after) : before <+: after := by
  induction h with
  | refl => exact List.prefix_refl before
  | write _ block _ ih => exact ih.trans (List.prefix_append _ _)

/-- What is admitted may be said in another way, as far as the logs between the two are
concerned. -/
theorem mono (h : Blocks spell Admits before after)
    (hmono : ∀ log block, before <+: log → Admits log block → Admits' log block) :
    Blocks spell Admits' before after := by
  induction h with
  | refl => exact .refl
  | write hlog block hblock ih => exact .write ih block (hmono _ block hlog.extends_log hblock)

/-- Every entry that was written lies in an admitted block. -/
theorem block_of_entry (h : Blocks spell Admits before after) {i : Nat} {entry : α}
    (hle : before.length ≤ i) (hget : after[i]? = some entry) :
    ∃ log block k, before <+: log ∧ log ++ spell log.length block <+: after ∧
      Admits log block ∧ i = log.length + k ∧
      (spell log.length block)[k]? = some entry := by
  induction h with
  | refl =>
      rw [List.getElem?_eq_none hle] at hget
      exact absurd hget (by simp)
  | @write log hlog block hblock ih =>
      by_cases hi : i < log.length
      · rw [List.getElem?_append_left hi] at hget
        obtain ⟨log', block', k, hbefore, hafter, hadmits, hk, hentry⟩ := ih hget
        exact ⟨log', block', k, hbefore, hafter.trans (List.prefix_append _ _), hadmits, hk,
          hentry⟩
      · have hle' : log.length ≤ i := Nat.le_of_not_lt hi
        rw [List.getElem?_append_right hle'] at hget
        exact ⟨log, block, i - log.length, hlog.extends_log, List.prefix_refl _, hblock,
          by omega, hget⟩

/-- A projection that sees nothing of the blocks sees nothing new. -/
theorem filterMap_eq (h : Blocks spell Admits before after) {f : α → Option γ}
    (hblock : ∀ log block, Admits log block → (spell log.length block).filterMap f = []) :
    after.filterMap f = before.filterMap f := by
  induction h with
  | refl => rfl
  | @write log _ block hadmits ih =>
      rw [List.filterMap_append, hblock log block hadmits, List.append_nil]
      exact ih

end Blocks

end Vshl.Foundation

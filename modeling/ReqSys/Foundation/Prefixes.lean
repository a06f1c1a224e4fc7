import Mathlib.Data.List.Basic
import Mathlib.Data.List.Induction

/-!
# Runs over a list of inputs

A sequential component handles its inputs one after another, so a run is a left fold and the states
that it goes through are the folds over the prefixes of the input. A safety property is asked of all
of them.

`foldl_of_isPrefix` carries an invariant. `forall_prefix_iff` is for a property that steps may break:
all states have it if and only if every step meets a condition. There the invariant may say more
than the property, as long as a step that keeps the property meets the condition.
-/

namespace ReqSys

variable {σ γ : Type*} {step : σ → γ → σ} {s : σ}

/-- A run all of whose steps meet the condition keeps the invariant. -/
theorem foldl_of_isPrefix {I : σ → Prop} {C : σ → γ → Prop} (hinit : I s)
    (hstep : ∀ s c, I s → C s c → I (step s c)) {cs : List γ}
    (hcs : ∀ pre c, pre ++ [c] <+: cs → C (pre.foldl step s) c) : I (cs.foldl step s) := by
  induction cs using List.reverseRecOn with
  | nil => exact hinit
  | append_singleton cs c ih =>
    rw [List.foldl_concat]
    refine hstep _ c (ih fun pre d hpre ↦ ?_) (hcs cs c List.prefix_rfl)
    exact hcs pre d (hpre.trans (List.prefix_append cs [c]))

/-- **Safe runs.** All states of a run have the property if and only if every step meets the
condition. -/
theorem forall_prefix_iff {I P : σ → Prop} {C : σ → γ → Prop} (hinit : I s)
    (hsafe : ∀ s, I s → P s) (hstep : ∀ s c, I s → C s c → I (step s c))
    (hnec : ∀ s c, I s → P (step s c) → C s c) (cs : List γ) :
    (∀ pre, pre <+: cs → P (pre.foldl step s)) ↔
      ∀ pre c, pre ++ [c] <+: cs → C (pre.foldl step s) c := by
  constructor
  · intro hP
    -- the invariant holds after every prefix, and so the step after it meets the condition
    have hI : ∀ pre, pre <+: cs → I (pre.foldl step s) := by
      intro pre
      induction pre using List.reverseRecOn with
      | nil => exact fun _ ↦ hinit
      | append_singleton pre c ih =>
        intro hpre
        have hs := ih ((List.prefix_append pre [c]).trans hpre)
        have hc := hP _ hpre
        rw [List.foldl_concat] at hc ⊢
        exact hstep _ c hs (hnec _ c hs hc)
    intro pre c hpre
    have hc := hP _ hpre
    rw [List.foldl_concat] at hc
    exact hnec _ c (hI pre ((List.prefix_append pre [c]).trans hpre)) hc
  · intro hC pre hpre
    exact hsafe _ (foldl_of_isPrefix hinit hstep fun pre' c h ↦ hC pre' c (h.trans hpre))

end ReqSys

import Mathlib.Logic.Basic
import Mathlib.Data.List.Basic

/-!
# Labelled transition systems and the invariants of their runs

A system is a set of initial states together with a labelled step relation. A *path* is a finite
sequence of steps recorded by its trace of labels, and a *run* is a path from an initial state.

Every safety argument of this development has the same outline: a predicate holds initially, one
step keeps it, hence it holds after every run. The induction is done here once, in three forms:

* `Run.invariant` for predicates of the state alone;
* `Run.traceInvariant` for predicates tying the state to the history that produced it;
* `Path.preserves` for predicates that, once true, stay true whatever happens next.

## Restricted systems

A property that only holds when certain steps are avoided is stated over `T.restrict C`, the same
system with every step filtered through a condition `C` on the state before it and its label.
`Run.of_restrict` forgets the filter again, so facts proved for all runs remain available.

## Executable systems

When the steps are computed by a function, `ofExec` turns that function into a system whose labels
are the calls paired with their results. `runCalls` evaluates a whole list of calls, which is what
a concrete instance of a run theorem is checked with.
-/

namespace ReqSys

/-- A labelled transition system: the states it may start in and what one step may do. -/
structure TransitionSystem (σ : Type*) (ℓ : Type*) where
  /-- The states a run may start in. -/
  init : σ → Prop
  /-- The steps, with their labels. -/
  step : σ → ℓ → σ → Prop

namespace TransitionSystem

variable {σ ℓ : Type*} (T : TransitionSystem σ ℓ)

/-! ## Paths and runs -/

/-- A finite sequence of steps, with the trace of their labels in the order they were taken. -/
inductive Path : σ → List ℓ → σ → Prop
  | nil (s : σ) : Path s [] s
  | snoc {s s' s'' : σ} {tr : List ℓ} {a : ℓ} :
      Path s tr s' → T.step s' a s'' → Path s (tr ++ [a]) s''

/-- A path that starts in an initial state. -/
def Run (tr : List ℓ) (s : σ) : Prop := ∃ s₀, T.init s₀ ∧ T.Path s₀ tr s

variable {T}

theorem Path.single {s s' : σ} {a : ℓ} (h : T.step s a s') : T.Path s [a] s' :=
  Path.snoc (Path.nil s) h

theorem Path.append {s s' s'' : σ} {tr tr' : List ℓ} (h : T.Path s tr s')
    (h' : T.Path s' tr' s'') : T.Path s (tr ++ tr') s'' := by
  induction h' with
  | nil => rwa [List.append_nil]
  | snoc _ hstep ih =>
    rw [← List.append_assoc]
    exact Path.snoc ih hstep

/-- A path of a system with fewer steps. -/
theorem Path.mono {T' : TransitionSystem σ ℓ}
    (hstep : ∀ {s a s'}, T.step s a s' → T'.step s a s') {s s' : σ} {tr : List ℓ}
    (h : T.Path s tr s') : T'.Path s tr s' := by
  induction h with
  | nil => exact Path.nil _
  | snoc _ ha ih => exact Path.snoc ih (hstep ha)

/-- A path of one step is that step. -/
theorem Path.step_of_single {s s' : σ} {a : ℓ} (h : T.Path s [a] s') : T.step s a s' := by
  generalize htr : [a] = tr at h
  cases h with
  | nil => cases htr
  | @snoc _ _ tr b hpath hstep =>
    have hempty : [] ++ [a] = tr ++ [b] := htr
    obtain ⟨rfl, hb⟩ := List.append_inj' hempty rfl
    cases hb
    generalize hnil : ([] : List ℓ) = tr at hpath
    cases hpath with
    | nil => exact hstep
    | snoc => simp at hnil

theorem Run.start {s : σ} (h : T.init s) : T.Run [] s := ⟨s, h, Path.nil s⟩

theorem Run.extend {s s' : σ} {tr tr' : List ℓ} (h : T.Run tr s) (h' : T.Path s tr' s') :
    T.Run (tr ++ tr') s' := by
  obtain ⟨s₀, hinit, hpath⟩ := h
  exact ⟨s₀, hinit, hpath.append h'⟩

theorem Run.snoc {s s' : σ} {tr : List ℓ} {a : ℓ} (h : T.Run tr s) (h' : T.step s a s') :
    T.Run (tr ++ [a]) s' := h.extend (Path.single h')

/-! ## The induction rules -/

/-- Once true, true from then on. -/
theorem Path.preserves {P : σ → Prop} (hstep : ∀ {s a s'}, P s → T.step s a s' → P s')
    {s s' : σ} {tr : List ℓ} (h : T.Path s tr s') (hs : P s) : P s' := by
  induction h with
  | nil => exact hs
  | snoc _ ha ih => exact hstep ih ha

/-- **The invariant rule.** -/
theorem Run.invariant {I : σ → Prop} (hinit : ∀ {s}, T.init s → I s)
    (hstep : ∀ {s a s'}, I s → T.step s a s' → I s') {tr : List ℓ} {s : σ}
    (h : T.Run tr s) : I s := by
  obtain ⟨s₀, h₀, hpath⟩ := h
  exact hpath.preserves hstep (hinit h₀)

/-- **The invariant rule with history.** The step may use that the state was reached by `tr`. -/
theorem Run.traceInvariant {I : List ℓ → σ → Prop} (hinit : ∀ {s}, T.init s → I [] s)
    (hstep : ∀ {tr s a s'}, T.Run tr s → I tr s → T.step s a s' → I (tr ++ [a]) s')
    {tr : List ℓ} {s : σ} (h : T.Run tr s) : I tr s := by
  obtain ⟨s₀, h₀, hpath⟩ := h
  induction hpath with
  | nil => exact hinit h₀
  | snoc hp ha ih => exact hstep ⟨_, h₀, hp⟩ ih ha

/-! ## Restricted systems -/

/-- The system whose steps are those of `T` that meet `C` in the state before them. -/
def restrict (T : TransitionSystem σ ℓ) (C : σ → ℓ → Prop) : TransitionSystem σ ℓ where
  init := T.init
  step s a s' := C s a ∧ T.step s a s'

theorem Path.of_restrict {C : σ → ℓ → Prop} {s s' : σ} {tr : List ℓ}
    (h : (T.restrict C).Path s tr s') : T.Path s tr s' :=
  h.mono And.right

/-- A path whose labels meet the condition in every state is a path of the restricted system. -/
theorem Path.restrict_of_forall {C : σ → ℓ → Prop} {s s' : σ} {tr : List ℓ} (h : T.Path s tr s')
    (hC : ∀ a ∈ tr, ∀ s, C s a) : (T.restrict C).Path s tr s' := by
  induction h with
  | nil => exact Path.nil _
  | snoc _ ha ih =>
    refine Path.snoc (ih fun a h ↦ hC a (List.mem_append_left _ h)) ⟨hC _ ?_ _, ha⟩
    exact List.mem_append_right _ List.mem_cons_self

/-- A run of a restricted system, under a weaker condition. -/
theorem Run.restrict_mono {C C' : σ → ℓ → Prop} (hC : ∀ s a, C s a → C' s a) {s : σ}
    {tr : List ℓ} (h : (T.restrict C).Run tr s) : (T.restrict C').Run tr s := by
  obtain ⟨s₀, hinit, hpath⟩ := h
  refine ⟨s₀, hinit, hpath.mono ?_⟩
  exact fun ha ↦ ⟨hC _ _ ha.1, ha.2⟩

theorem Run.of_restrict {C : σ → ℓ → Prop} {s : σ} {tr : List ℓ}
    (h : (T.restrict C).Run tr s) : T.Run tr s := by
  obtain ⟨s₀, hinit, hpath⟩ := h
  exact ⟨s₀, hinit, hpath.of_restrict⟩

/-! ## Executable systems -/

section Exec

variable {κ ρ : Type*}

/-- The system of a function that computes, for each call, the next state and a result. The label
of a step is the call together with the result it returned. -/
def ofExec (s₀ : σ) (exec : κ → σ → σ × ρ) : TransitionSystem σ (κ × ρ) where
  init s := s = s₀
  step s a s' := exec a.1 s = (s', a.2)

/-- Evaluate a list of calls from a state: the trace they leave and the state they end in. -/
def runCalls (exec : κ → σ → σ × ρ) : List κ → σ → List (κ × ρ) × σ
  | [], s => ([], s)
  | c :: cs, s =>
    let rest := runCalls exec cs (exec c s).1
    ((c, (exec c s).2) :: rest.1, rest.2)

theorem path_runCalls (s₀ : σ) (exec : κ → σ → σ × ρ) (cs : List κ) (s : σ) :
    (ofExec s₀ exec).Path s (runCalls exec cs s).1 (runCalls exec cs s).2 := by
  induction cs generalizing s with
  | nil => exact Path.nil s
  | cons c cs ih =>
    have hstep : (ofExec s₀ exec).step s (c, (exec c s).2) (exec c s).1 := rfl
    exact (Path.single hstep).append (ih (exec c s).1)

/-- Every call of a list meets a condition in the state it finds. -/
def CallsMeet (exec : κ → σ → σ × ρ) (C : σ → κ × ρ → Prop) : List κ → σ → Prop
  | [], _ => True
  | c :: cs, s => C s (c, (exec c s).2) ∧ CallsMeet exec C cs (exec c s).1

instance decidableCallsMeet (exec : κ → σ → σ × ρ) (C : σ → κ × ρ → Prop)
    [∀ s a, Decidable (C s a)] : (cs : List κ) → (s : σ) → Decidable (CallsMeet exec C cs s)
  | [], _ => instDecidableTrue
  | c :: cs, s =>
    have := decidableCallsMeet exec C cs (exec c s).1
    inferInstanceAs (Decidable (_ ∧ _))

/-- Calls that meet the condition are a path of the restricted system. -/
theorem path_restrict_runCalls (s₀ : σ) {exec : κ → σ → σ × ρ} {C : σ → κ × ρ → Prop}
    {cs : List κ} {s : σ} (h : CallsMeet exec C cs s) :
    ((ofExec s₀ exec).restrict C).Path s (runCalls exec cs s).1 (runCalls exec cs s).2 := by
  induction cs generalizing s with
  | nil => exact Path.nil s
  | cons c cs ih =>
    have hstep : ((ofExec s₀ exec).restrict C).step s (c, (exec c s).2) (exec c s).1 := ⟨h.1, rfl⟩
    exact (Path.single hstep).append (ih h.2)

theorem run_restrict_runCalls (s₀ : σ) {exec : κ → σ → σ × ρ} {C : σ → κ × ρ → Prop}
    {cs : List κ} (h : CallsMeet exec C cs s₀) :
    ((ofExec s₀ exec).restrict C).Run (runCalls exec cs s₀).1 (runCalls exec cs s₀).2 :=
  ⟨s₀, rfl, path_restrict_runCalls s₀ h⟩

theorem run_runCalls (s₀ : σ) (exec : κ → σ → σ × ρ) (cs : List κ) :
    (ofExec s₀ exec).Run (runCalls exec cs s₀).1 (runCalls exec cs s₀).2 :=
  ⟨s₀, rfl, path_runCalls s₀ exec cs s₀⟩

end Exec

end TransitionSystem

end ReqSys

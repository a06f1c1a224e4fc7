import ReqSys.Foundation.Program

/-!
# Reasoning under interference

A program that reads, decides and then writes relies on the others not to disturb what it has read,
and must not disturb what the others rely on. A `Discipline` fixes both sides: an invariant of the
store, and for every process a relation `R i` between stores that bounds what the *other* processes
do between two calls of process `i`.

`Safe D i Q s p` says that process `i`, about to run `p` and last having seen the store `s`, keeps
the discipline to the end and finishes in `Q`. Its only interesting clause is the atomic call: it
has to be answered for every store that interference may have produced from `s`.

`Pool.safe_of_run` is the soundness of the method: if the programs are safe from every store that
satisfies the invariant, then the invariant holds along every schedule, crashes included. What one
process does, all others tolerate, so the bounds of the discipline also hold between any two points
of a run; `Pool.rel_of_path` says so for every relation that the bounds imply.
-/

namespace ReqSys

variable {Op : Type} {Ans : Op → Type} {ε α β κ σ η : Type}

/-- An invariant of the store, and what each process tolerates from the others. -/
structure Discipline (M : Machine Ans ε σ η) where
  I : σ → Prop
  R : ℕ → σ → σ → Prop
  refl : ∀ i s, R i s s
  trans : ∀ {i s s' s''}, R i s s' → R i s' s'' → R i s s''

namespace Discipline

variable {M : Machine Ans ε σ η} (D : Discipline M)

/-- Process `i` may turn the store `s` into `s'`. -/
structure Keeps (i : ℕ) (s s' : σ) : Prop where
  inv : D.I s'
  others : ∀ j, j ≠ i → D.R j s s'

theorem Keeps.same {D : Discipline M} {i : ℕ} {s : σ} (h : D.I s) : D.Keeps i s s :=
  ⟨h, fun j _ ↦ D.refl j s⟩

theorem Keeps.trans {D : Discipline M} {i : ℕ} {s s' s'' : σ} (h : D.Keeps i s s')
    (h' : D.Keeps i s' s'') : D.Keeps i s s'' :=
  ⟨h'.inv, fun j hj ↦ D.trans (h.others j hj) (h'.others j hj)⟩

/-- Process `i` runs the program under interference, keeps the discipline and ends in `Q`. -/
inductive Safe (i : ℕ) (Q : Except ε α → σ → Prop) : σ → Program Ans ε α → Prop
  | ret {s : σ} {a : α} : Q (.ok a) s → Safe i Q s (.ret a)
  | raise {s : σ} {x : ε} : Q (.error x) s → Safe i Q s (.raise x)
  | call {s : σ} {op : Op} {k : Except ε (Ans op) → Program Ans ε α} :
      (∀ s' e, D.I s' → D.R i s s' → D.Keeps i s' (M.exec i op e s').1) →
      (∀ s' e, D.I s' → D.R i s s' →
        Safe i Q (M.exec i op e s').1 (k (M.exec i op e s').2)) → Safe i Q s (.call op k)

namespace Safe

variable {D} {i : ℕ} {s : σ} {Q : Except ε α → σ → Prop} {Q' : Except ε β → σ → Prop}

theorem keeps {op : Op} {k : Except ε (Ans op) → Program Ans ε α} (h : D.Safe i Q s (.call op k))
    (hI : D.I s) (e : η) : D.Keeps i s (M.exec i op e s).1 := by
  cases h with
  | call hkeeps _ => exact hkeeps s e hI (D.refl i s)

theorem next {op : Op} {k : Except ε (Ans op) → Program Ans ε α} (h : D.Safe i Q s (.call op k))
    (hI : D.I s) (e : η) : D.Safe i Q (M.exec i op e s).1 (k (M.exec i op e s).2) := by
  cases h with
  | call _ hnext => exact hnext s e hI (D.refl i s)

theorem imp {p : Program Ans ε α} {T : Except ε α → σ → Prop} (h : D.Safe i Q s p)
    (hQ : ∀ {r s'}, Q r s' → T r s') : D.Safe i T s p := by
  induction h with
  | ret h => exact .ret (hQ h)
  | raise h => exact .raise (hQ h)
  | call hkeeps _ ih => exact .call hkeeps ih

/-- A program whose outcome interference does not spoil stays safe under interference. -/
theorem stable_of (hQ : ∀ r s s', D.R i s s' → Q r s → Q r s') {p : Program Ans ε α}
    (h : D.Safe i Q s p) {s' : σ} (hR : D.R i s s') : D.Safe i Q s' p := by
  cases h with
  | ret h => exact .ret (hQ _ _ _ hR h)
  | raise h => exact .raise (hQ _ _ _ hR h)
  | call hkeeps hnext =>
    exact .call (fun t e hI ht ↦ hkeeps t e hI (D.trans hR ht))
      fun t e hI ht ↦ hnext t e hI (D.trans hR ht)

/-- A program whose outcome does not depend on the store stays safe under interference. -/
theorem stable {p : Program Ans ε α} {T : Except ε α → Prop} (h : D.Safe i (fun r _ ↦ T r) s p)
    {s' : σ} (hR : D.R i s s') : D.Safe i (fun r _ ↦ T r) s' p :=
  h.stable_of (fun _ _ _ _ hT ↦ hT) hR

theorem ofExcept {x : Except ε α} (h : Q x s) : D.Safe i Q s (Program.ofExcept x) := by
  cases x with
  | ok a => exact .ret h
  | error e => exact .raise h

/-- **Sequencing.** -/
theorem bind {p : Program Ans ε α} {f : α → Program Ans ε β} (hp : D.Safe i Q s p)
    (hf : ∀ {a s'}, Q (.ok a) s' → D.Safe i Q' s' (f a))
    (he : ∀ {x s'}, Q (.error x) s' → Q' (.error x) s') : D.Safe i Q' s (p >>= f) := by
  change D.Safe i Q' s (p.bind f)
  induction hp with
  | ret h => exact hf h
  | raise h => exact .raise (he h)
  | call hkeeps _ ih => exact .call hkeeps ih

/-- **Catching.** -/
theorem attempt {p : Program Ans ε α} {Q' : Except ε (Except ε α) → σ → Prop}
    (hp : D.Safe i Q s p) (hQ : ∀ {r s'}, Q r s' → Q' (.ok r) s') :
    D.Safe i Q' s p.attempt := by
  induction hp with
  | ret h => exact .ret (hQ h)
  | raise h => exact .ret (hQ h)
  | call hkeeps _ ih => exact .call hkeeps ih

/-- An atomic call followed by the rest. -/
theorem perform_bind {op : Op} {f : Ans op → Program Ans ε β}
    (hkeeps : ∀ s' e, D.I s' → D.R i s s' → D.Keeps i s' (M.exec i op e s').1)
    (hok : ∀ s' e a, D.I s' → D.R i s s' → (M.exec i op e s').2 = .ok a →
      D.Safe i Q' (M.exec i op e s').1 (f a))
    (herror : ∀ s' e x, D.I s' → D.R i s s' → (M.exec i op e s').2 = .error x →
      Q' (.error x) (M.exec i op e s').1) : D.Safe i Q' s (Program.perform op >>= f) := by
  refine .call hkeeps fun s' e hI hR ↦ ?_
  rcases hans : (M.exec i op e s').2 with x | a
  · exact .raise (herror s' e x hI hR hans)
  · exact hok s' e a hI hR hans

/-- A call that leaves the store alone. -/
theorem read_bind {op : Op} {f : Ans op → Program Ans ε β}
    (hread : ∀ s' e, (M.exec i op e s').1 = s')
    (hok : ∀ s' e a, D.I s' → D.R i s s' → (M.exec i op e s').2 = .ok a → D.Safe i Q' s' (f a))
    (herror : ∀ s' e x, D.I s' → D.R i s s' → (M.exec i op e s').2 = .error x → Q' (.error x) s') :
    D.Safe i Q' s (Program.perform op >>= f) := by
  refine perform_bind (fun s' e hI _ ↦ ?_) (fun s' e a hI hR hans ↦ ?_)
    fun s' e x hI hR hans ↦ ?_
  · rw [hread]
    exact .same hI
  · rw [hread]
    exact hok s' e a hI hR hans
  · rw [hread]
    exact herror s' e x hI hR hans

/-- A program all of whose calls keep the discipline and a fact that others cannot disturb. -/
theorem of_calls {K : σ → Prop} {P : Op → Prop}
    (hK : ∀ {s s'}, D.I s' → D.R i s s' → K s → K s')
    (hP : ∀ {s op e}, P op → D.I s → K s →
      D.Keeps i s (M.exec i op e s).1 ∧ K (M.exec i op e s).1)
    {p : Program Ans ε α} (hp : p.AllCalls P) (hs : K s) :
    D.Safe i (fun _ s' ↦ K s') s p := by
  induction hp generalizing s with
  | ret a => exact .ret hs
  | raise x => exact .raise hs
  | call hop _ ih =>
    refine .call (fun s' e hI hR ↦ (hP hop hI (hK hI hR hs)).1) fun s' e hI hR ↦ ih _ ?_
    exact (hP hop hI (hK hI hR hs)).2

/-- A program all of whose calls keep the discipline by themselves. -/
theorem of_allCalls {P : Op → Prop}
    (hP : ∀ {s op e}, P op → D.I s → D.Keeps i s (M.exec i op e s).1) {p : Program Ans ε α}
    (hp : p.AllCalls P) : D.Safe i (fun _ _ ↦ True) s p :=
  of_calls (K := fun _ ↦ True) (fun _ _ h ↦ h) (fun hop hI _ ↦ ⟨hP hop hI, trivial⟩) hp trivial

/-- What others cannot disturb still holds after a program that only reads. -/
theorem of_reads {K : σ → Prop} (hK : ∀ {s s'}, D.I s' → D.R i s s' → K s → K s')
    {p : Program Ans ε α} (hp : p.AllCalls fun op ↦ ∀ e s, (M.exec i op e s).1 = s) (hs : K s) :
    D.Safe i (fun _ s' ↦ K s') s p := by
  refine of_calls hK (fun {s op e} hop hI hKs ↦ ?_) hp hs
  rw [hop]
  exact ⟨.same hI, hKs⟩

/-- **A program on a part of the store.** What is safe over the part is safe over the whole, when
the calls of the program act on the part alone and what keeps the discipline of the part keeps that
of the whole. -/
theorem embed {Op' : Type} {Ans' : Op' → Type} {σ' η' : Type} {M' : Machine Ans' ε σ' η'}
    {D' : Discipline M'} {f : Op → Op'} {g : ∀ op, Except ε (Ans' (f op)) → Except ε (Ans op)}
    (part : σ' → σ) (hI : ∀ {s}, D'.I s → D.I (part s))
    (hR : ∀ {s s'}, D'.R i s s' → D.R i (part s) (part s'))
    (hexec : ∀ op e s, ∃ e', part (M'.exec i (f op) e s).1 = (M.exec i op e' (part s)).1 ∧
      g op (M'.exec i (f op) e s).2 = (M.exec i op e' (part s)).2)
    (hkeeps : ∀ op e s, D'.I s → D.Keeps i (part s) (part (M'.exec i (f op) e s).1) →
      D'.Keeps i s (M'.exec i (f op) e s).1) {p : Program Ans ε α} {s : σ'}
    (h : D.Safe i Q (part s) p) : D'.Safe i (fun r s ↦ Q r (part s)) s (p.embed f g) := by
  generalize hs : part s = t at h
  induction h generalizing s with
  | ret h => exact .ret (hs ▸ h)
  | raise h => exact .raise (hs ▸ h)
  | call hcall hnext ih =>
    refine .call (fun s' e hI' hR' ↦ hkeeps _ e s' hI' ?_) fun s' e hI' hR' ↦ ?_
    · obtain ⟨e', hstore, -⟩ := hexec _ e s'
      rw [hstore]
      exact hcall _ e' (hI hI') (hs ▸ hR hR')
    · obtain ⟨e', hstore, hans⟩ := hexec _ e s'
      rw [hans]
      exact ih _ e' (hI hI') (hs ▸ hR hR') hstore

end Safe

end Discipline

/-! ## Soundness -/

namespace Pool

variable {M : Machine Ans ε σ η} {D : Discipline M} {code : κ → Program Ans ε α} {s₀ : σ}

/-- The invariant holds, and every running program is safe and finishes in what `Q` says for its
slot. -/
structure DisciplinedTo (D : Discipline M) (Q : ℕ → Except ε α → σ → Prop)
    (p : Pool σ (Program Ans ε α)) : Prop where
  inv : D.I p.store
  safe : ∀ i q, p.task i = some q → D.Safe i (Q i) p.store q

/-- One move of a disciplined pool. -/
theorem DisciplinedTo.step {Q : ℕ → Except ε α → σ → Prop} {p p' : Pool σ (Program Ans ε α)}
    {m : Move κ η × Option (Except ε α)}
    (hQ : ∀ i r s s', D.R i s s' → Q i r s → Q i r s')
    (hcode : ∀ i c s, D.I s → D.Safe i (Q i) s (code c))
    (hclose : ∀ i s, D.I s → D.Keeps i s (M.close i s)) (h : DisciplinedTo D Q p)
    (hstep : (interleaving s₀ code M).step p m p') :
    DisciplinedTo D Q p' ∧ ∃ i, D.Keeps i p.store p'.store := by
  -- the programs of the other slots tolerate what slot `i` did
  have hrest : ∀ {i : ℕ} {s' : σ} {t : Option (Program Ans ε α)}, D.Keeps i p.store s' →
      (∀ q, t = some q → D.Safe i (Q i) s' q) → DisciplinedTo D Q (setTask ⟨s', p.task⟩ i t) := by
    intro i s' t hkeeps hown
    refine ⟨hkeeps.inv, fun j q hq ↦ ?_⟩
    obtain ⟨hne, hold⟩ | ⟨rfl, hnew⟩ := setTask_eq_some hq
    · exact (h.safe j q hold).stable_of (hQ j) (hkeeps.others j hne)
    · exact hown q hnew
  rw [step_eq hstep]
  obtain ⟨-, hm⟩ | ⟨i, c, -, hm⟩ | ⟨i, op, e, k, -, htask, hm⟩ | ⟨i, -, hm⟩ :=
    move_cases code M m.1 p
  all_goals rw [hm]
  · exact ⟨h, 0, .same h.inv⟩
  · have hkeeps : D.Keeps i p.store p.store := .same h.inv
    refine ⟨hrest hkeeps fun q hq ↦ ?_, i, hkeeps⟩
    exact Option.some.inj hq ▸ hcode i c p.store h.inv
  · have hsafe := h.safe i _ htask
    refine ⟨hrest (hsafe.keeps h.inv e) fun q hq ↦ ?_, i, hsafe.keeps h.inv e⟩
    exact Option.some.inj hq ▸ hsafe.next h.inv e
  · exact ⟨hrest (hclose i p.store h.inv) fun q hq ↦ (nomatch hq), i, hclose i p.store h.inv⟩

/-- The outcome that a program delivers is one it may finish in. -/
theorem DisciplinedTo.outcome {Q : ℕ → Except ε α → σ → Prop} {p p' : Pool σ (Program Ans ε α)}
    {m : Move κ η} {r : Except ε α} (h : DisciplinedTo D Q p)
    (hstep : (interleaving s₀ code M).step p (m, some r) p') : Q m.slot r p.store := by
  have hsafe := h.safe m.slot _ (task_of_outcome hstep)
  cases r with
  | ok a =>
    cases hsafe with
    | ret h => exact h
  | error x =>
    cases hsafe with
    | raise h => exact h

/-- The invariant holds and every running program is safe. -/
structure Disciplined (D : Discipline M) (p : Pool σ (Program Ans ε α)) : Prop where
  inv : D.I p.store
  safe : ∀ i q, p.task i = some q → D.Safe i (fun _ _ ↦ True) p.store q

/-- One move of a disciplined pool. -/
theorem Disciplined.step {p p' : Pool σ (Program Ans ε α)} {m : Move κ η × Option (Except ε α)}
    (hcode : ∀ i c s, D.I s → D.Safe i (fun _ _ ↦ True) s (code c))
    (hclose : ∀ i s, D.I s → D.Keeps i s (M.close i s)) (h : Disciplined D p)
    (hstep : (interleaving s₀ code M).step p m p') :
    Disciplined D p' ∧ ∃ i, D.Keeps i p.store p'.store := by
  obtain ⟨hp', hkeeps⟩ := DisciplinedTo.step (Q := fun _ _ _ ↦ True) (fun _ _ _ _ _ h ↦ h) hcode hclose
    ⟨h.inv, h.safe⟩ hstep
  exact ⟨⟨hp'.inv, hp'.safe⟩, hkeeps⟩

/-- Slot `i` runs a program that ends in `Q`, whatever the others do. -/
def Towards (D : Discipline M) (i : ℕ) (Q : Except ε α → Prop) (p : Pool σ (Program Ans ε α)) :
    Prop :=
  ∃ q, p.task i = some q ∧ D.Safe i (fun r _ ↦ Q r) p.store q

/-- The slot keeps its program as long as no move ends it. -/
theorem Towards.step {i : ℕ} {Q : Except ε α → Prop} {p p' : Pool σ (Program Ans ε α)}
    {m : Move κ η × Option (Except ε α)} (h : Towards D i Q p) (hp : Disciplined D p)
    (hclose : ∀ i s, D.I s → D.Keeps i s (M.close i s))
    (hstep : (interleaving s₀ code M).step p m p')
    (hquiet : m.1.slot = i → m.2 = none ∧ m.1 ≠ .crash i) : Towards D i Q p' := by
  obtain ⟨q, hq, hsafe⟩ := h
  have hother : ∀ {j s'} {t : Option (Program Ans ε α)}, i ≠ j → D.Keeps j p.store s' →
      Towards D i Q (setTask ⟨s', p.task⟩ j t) := fun hij hkeeps ↦
    ⟨q, (task_setTask_of_ne hij).trans hq, hsafe.stable (hkeeps.others _ hij)⟩
  obtain rfl := step_eq hstep
  have hres : (move code M m.1 p).2 = m.2 := congrArg Prod.snd hstep
  obtain ⟨m, r⟩ := m
  cases m with
  | crash j =>
    by_cases hj : j = i
    · exact absurd (congrArg Move.crash hj) (hquiet hj).2
    · exact hother (Ne.symm hj) (hclose j p.store hp.inv)
  | start j c =>
    simp only [move]
    split
    next hidle =>
      refine hother (fun hij ↦ ?_) (.same hp.inv)
      rw [← hij, hq] at hidle
      cases hidle
    next => exact ⟨q, hq, hsafe⟩
  | advance j e =>
    by_cases hj : i = j
    · subst hj
      rw [(hquiet rfl).1] at hres
      cases q with
      | ret a =>
        simp only [move, hq] at hres
        cases hres
      | raise x =>
        simp only [move, hq] at hres
        cases hres
      | call op k =>
        simp only [move, hq]
        exact ⟨_, Function.update_self .., hsafe.next hp.inv e⟩
    · rcases htask : p.task j with _ | (a | x | ⟨op, k⟩)
      · simp only [move, htask]
        exact ⟨q, hq, hsafe⟩
      · simp only [move, htask]
        exact hother hj (hclose j p.store hp.inv)
      · simp only [move, htask]
        exact hother hj (hclose j p.store hp.inv)
      · simp only [move, htask]
        exact hother hj ((hp.safe j _ htask).keeps hp.inv e)

theorem Towards.outcome {i : ℕ} {Q : Except ε α → Prop} {p p' : Pool σ (Program Ans ε α)}
    {m : Move κ η} {r : Except ε α} (h : Towards D i Q p)
    (hstep : (interleaving s₀ code M).step p (m, some r) p') (hslot : m.slot = i) : Q r := by
  obtain ⟨q, hq, hsafe⟩ := h
  rw [← hslot, task_of_outcome hstep] at hq
  cases hq
  cases r with
  | ok a =>
    cases hsafe with
    | ret h => exact h
  | error x =>
    cases hsafe with
    | raise h => exact h

/-- **Soundness of the discipline**, with what the programs finish in. -/
theorem safeTo_of_run {Q : ℕ → Except ε α → σ → Prop}
    (hQ : ∀ i r s s', D.R i s s' → Q i r s → Q i r s') (hinit : D.I s₀)
    (hcode : ∀ i c s, D.I s → D.Safe i (Q i) s (code c))
    (hclose : ∀ i s, D.I s → D.Keeps i s (M.close i s))
    {tr : List (Move κ η × Option (Except ε α))} {p : Pool σ (Program Ans ε α)}
    (h : (interleaving s₀ code M).Run tr p) : DisciplinedTo D Q p := by
  refine h.invariant (fun hs ↦ ?_) fun hp hstep ↦ (hp.step hQ hcode hclose hstep).1
  rw [hs]
  exact ⟨hinit, fun i q hq ↦ nomatch hq⟩

/-- **Soundness of the discipline.** -/
theorem safe_of_run (hinit : D.I s₀)
    (hcode : ∀ i c s, D.I s → D.Safe i (fun _ _ ↦ True) s (code c))
    (hclose : ∀ i s, D.I s → D.Keeps i s (M.close i s))
    {tr : List (Move κ η × Option (Except ε α))} {p : Pool σ (Program Ans ε α)}
    (h : (interleaving s₀ code M).Run tr p) : Disciplined D p := by
  refine h.invariant (fun hs ↦ ?_) fun hp hstep ↦ (hp.step hcode hclose hstep).1
  rw [hs]
  exact ⟨hinit, fun i q hq ↦ nomatch hq⟩

/-- What every move of a process does to the store, a path does. -/
theorem rel_of_path {T : σ → σ → Prop} (hrefl : ∀ s, T s s)
    (htrans : ∀ {s s' s''}, T s s' → T s' s'' → T s s'')
    (hT : ∀ {i s s'}, D.I s → D.Keeps i s s' → T s s')
    (hcode : ∀ i c s, D.I s → D.Safe i (fun _ _ ↦ True) s (code c))
    (hclose : ∀ i s, D.I s → D.Keeps i s (M.close i s))
    {tr : List (Move κ η × Option (Except ε α))} {p p' : Pool σ (Program Ans ε α)}
    (hp : Disciplined D p) (h : (interleaving s₀ code M).Path p tr p') :
    Disciplined D p' ∧ T p.store p'.store := by
  induction h with
  | nil => exact ⟨hp, hrefl _⟩
  | snoc _ hstep ih =>
    obtain ⟨hdisc, hrel⟩ := ih
    obtain ⟨hdisc', i, hkeeps⟩ := hdisc.step hcode hclose hstep
    exact ⟨hdisc', htrans hrel (hT hdisc.inv hkeeps)⟩

/-- **An invariant under a discipline and a condition on the calls.** -/
theorem invariant_of_safe {I : σ → Prop} {C : σ → ℕ × Op × η → Prop} (hdisc : D.I s₀)
    (hcode : ∀ i c s, D.I s → D.Safe i (fun _ _ ↦ True) s (code c))
    (hkeeps : ∀ i s, D.I s → D.Keeps i s (M.close i s)) (hinit : I s₀)
    (hexec : ∀ {s i op e}, D.I s → I s → D.Keeps i s (M.exec i op e s).1 → C s (i, op, e) →
      I (M.exec i op e s).1)
    (hclose : ∀ {s i}, I s → I (M.close i s))
    {tr : List (Move κ η × Option (Except ε α))} {p : Pool σ (Program Ans ε α)}
    (h : ((interleaving s₀ code M).restrict
      fun p m ↦ ∀ x ∈ p.nextCall m.1, C p.store x).Run tr p) : I p.store := by
  refine TransitionSystem.Run.traceInvariant (I := fun _ p ↦ I p.store) (fun h ↦ ?_)
    (fun {tr p m p'} hrun hI hstep ↦ ?_) h
  · rw [h]
    exact hinit
  · have hsafe := safe_of_run hdisc hcode hkeeps hrun.of_restrict
    obtain ⟨hC, hstep⟩ := hstep
    rw [step_eq hstep]
    obtain ⟨-, hm⟩ | ⟨i, c, -, hm⟩ | ⟨i, op, e, k, hcall, htask, hm⟩ | ⟨i, -, hm⟩ :=
      move_cases code M m.1 p
    all_goals rw [hm]
    · exact hI
    · exact hI
    · exact hexec hsafe.inv hI ((hsafe.safe _ _ htask).keeps hsafe.inv e) (hC _ hcall)
    · exact hclose hI

/-- **The invariant rule under a discipline.** As `invariant_iff`, where the call may be assumed to
keep the discipline. -/
theorem invariant_iff_of_safe {I : σ → Prop} {P : Op → Prop} {C : σ → ℕ × Op × η → Prop}
    (hdisc : D.I s₀) (hcode : ∀ i c s, D.I s → D.Safe i (fun _ _ ↦ True) s (code c))
    (hkeeps : ∀ i s, D.I s → D.Keeps i s (M.close i s))
    (hinit : I s₀) (hcalls : ∀ c, (code c).AllCalls P)
    (hexec : ∀ {s i op e}, D.I s → I s → P op → D.Keeps i s (M.exec i op e s).1 →
      (I (M.exec i op e s).1 ↔ C s (i, op, e)))
    (hclose : ∀ {s i}, I s → I (M.close i s))
    {tr : List (Move κ η × Option (Except ε α))} {p : Pool σ (Program Ans ε α)}
    (h : ((interleaving s₀ code M).restrict
      fun p m ↦ ∀ x ∈ p.nextCall m.1, C p.store x).Run tr p) :
    I p.store ∧ ∀ m p', (interleaving s₀ code M).step p m p' →
      (I p'.store ↔ ∀ x ∈ p.nextCall m.1, C p.store x) := by
  refine invariant_iff_of_task hinit (fun hrun htask hI ↦ ?_) hclose h
  have hsafe := safe_of_run hdisc hcode hkeeps hrun
  exact hexec hsafe.inv hI (allCalls_of_run hcalls hrun _ _ htask).op
    ((hsafe.safe _ _ htask).keeps hsafe.inv _)

end Pool

end ReqSys

import ReqSys.Foundation.Program

/-!
# What a call may rely on

What a process has read may be out of date when it uses it. But where the others change the store in
certain ways only, what was read still says something about the store in which it is used: a clock
does not go back, rows are added and never removed, a mark that a process has set is its own.

`Program.CallsIn R ok Q p s` says so of a program: process `i`, about to run `p` and last having
seen the store `s`, makes each of its calls in a store where `ok` holds of the call, whatever the
others do within `R` in between, and it ends in `Q`. In a pool in which every call that is `ok`
moves the store within the bounds of the other processes, every call that is about to be made then
is `ok`.
-/

namespace ReqSys

variable {Op : Type} {Ans : Op → Type} {ε α β κ σ η : Type}

namespace Program

/-- Each call that the program comes to make is `ok` in the store in which it is made, and the
program ends in `Q`. -/
inductive CallsIn (M : Machine Ans ε σ η) (i : ℕ) (R : σ → σ → Prop) (ok : Op → σ → Prop)
    (Q : Except ε α → σ → Prop) : Program Ans ε α → σ → Prop
  | ret {a : α} {s : σ} : Q (.ok a) s → CallsIn M i R ok Q (ret a) s
  | raise {x : ε} {s : σ} : Q (.error x) s → CallsIn M i R ok Q (raise x) s
  | call {op : Op} {k : Except ε (Ans op) → Program Ans ε α} {s : σ} :
      (∀ s', R s s' → ok op s') →
      (∀ s' e, R s s' → CallsIn M i R ok Q (k (M.exec i op e s').2) (M.exec i op e s').1) →
      CallsIn M i R ok Q (call op k) s

namespace CallsIn

variable {M : Machine Ans ε σ η} {i : ℕ} {R : σ → σ → Prop} {ok : Op → σ → Prop} {s : σ}
  {Q : Except ε α → σ → Prop} {Q' : Except ε β → σ → Prop}

theorem op {op : Op} {k : Except ε (Ans op) → Program Ans ε α}
    (h : (Program.call op k).CallsIn M i R ok Q s) (hR : R s s) : ok op s := by
  cases h with
  | call hop _ => exact hop s hR

theorem next {op : Op} {k : Except ε (Ans op) → Program Ans ε α}
    (h : (Program.call op k).CallsIn M i R ok Q s) (hR : R s s) (e : η) :
    (k (M.exec i op e s).2).CallsIn M i R ok Q (M.exec i op e s).1 := by
  cases h with
  | call _ hk => exact hk s e hR

theorem outcome {r : Except ε α} (h : (Program.ofExcept r : Program Ans ε α).CallsIn M i R ok Q s) :
    Q r s := by
  cases r with
  | ok a =>
    cases h with
    | ret h => exact h
  | error x =>
    cases h with
    | raise h => exact h

theorem stable {p : Program Ans ε α} (h : p.CallsIn M i R ok Q s) {s' : σ} (hR : R s s')
    (htrans : ∀ {s s' s''}, R s s' → R s' s'' → R s s'')
    (hQ : ∀ {r s s'}, R s s' → Q r s → Q r s') : p.CallsIn M i R ok Q s' := by
  cases h with
  | ret h => exact .ret (hQ hR h)
  | raise h => exact .raise (hQ hR h)
  | call hop hk => exact .call (fun _ h ↦ hop _ (htrans hR h)) fun _ e h ↦ hk _ e (htrans hR h)

theorem ofExcept {x : Except ε α} (h : Q x s) :
    (Program.ofExcept x : Program Ans ε α).CallsIn M i R ok Q s := by
  cases x with
  | ok a => exact .ret h
  | error e => exact .raise h

/-- Where every call is `ok` in every store. -/
theorem of_allCalls {p : Program Ans ε α} (hp : p.AllCalls fun op ↦ ∀ s, ok op s)
    (hQ : ∀ r s, Q r s) : p.CallsIn M i R ok Q s := by
  induction hp generalizing s with
  | ret a => exact .ret (hQ _ _)
  | raise x => exact .raise (hQ _ _)
  | call hop _ ih => exact .call (fun _ _ ↦ hop _) fun _ _ _ ↦ ih _

theorem bind {p : Program Ans ε α} {f : α → Program Ans ε β} (hp : p.CallsIn M i R ok Q s)
    (hf : ∀ a s, Q (.ok a) s → (f a).CallsIn M i R ok Q' s)
    (he : ∀ x s, Q (.error x) s → Q' (.error x) s) : (p >>= f).CallsIn M i R ok Q' s := by
  change (p.bind f).CallsIn M i R ok Q' s
  induction hp with
  | ret h => exact hf _ _ h
  | raise h => exact .raise (he _ _ h)
  | call hop _ ih => exact .call hop ih

/-- What a program raises is caught and handed to the rest. -/
theorem attempt_bind {p : Program Ans ε α} {f : Except ε α → Program Ans ε β}
    (hp : p.CallsIn M i R ok Q s) (hf : ∀ r s, Q r s → (f r).CallsIn M i R ok Q' s) :
    (p.attempt >>= f).CallsIn M i R ok Q' s := by
  change (p.attempt.bind f).CallsIn M i R ok Q' s
  induction hp with
  | ret h => exact hf _ _ h
  | raise h => exact hf _ _ h
  | call hop _ ih => exact .call hop ih

/-- A single call. -/
theorem perform {op : Op} {Q : Except ε (Ans op) → σ → Prop}
    (h : ∀ s', R s s' → ok op s' ∧ ∀ e, Q (M.exec i op e s').2 (M.exec i op e s').1) :
    (Program.perform op : Program Ans ε (Ans op)).CallsIn M i R ok Q s :=
  .call (fun s' hR ↦ (h s' hR).1) fun s' e hR ↦ ofExcept ((h s' hR).2 e)

/-- A call followed by the rest. -/
theorem perform_bind {op : Op} {f : Ans op → Program Ans ε β}
    (h : ∀ s', R s s' → ok op s' ∧
      (∀ e a, (M.exec i op e s').2 = .ok a →
        (f a).CallsIn M i R ok Q' (M.exec i op e s').1) ∧
      ∀ e x, (M.exec i op e s').2 = .error x → Q' (.error x) (M.exec i op e s').1) :
    (Program.perform op >>= f).CallsIn M i R ok Q' s := by
  refine .call (fun s' hR ↦ (h s' hR).1) fun s' e hR ↦ ?_
  rcases hans : (M.exec i op e s').2 with x | a
  · exact .raise ((h s' hR).2.2 e x hans)
  · exact (h s' hR).2.1 e a hans

/-- The same, where all that matters is the calls. -/
theorem perform_bind' {op : Op} {f : Ans op → Program Ans ε β}
    (h : ∀ s', R s s' → ok op s' ∧ ∀ e a, (M.exec i op e s').2 = .ok a →
      (f a).CallsIn M i R ok (fun _ _ ↦ True) (M.exec i op e s').1) :
    (Program.perform op >>= f).CallsIn M i R ok (fun _ _ ↦ True) s :=
  perform_bind fun s' hR ↦ ⟨(h s' hR).1, (h s' hR).2, fun _ _ _ ↦ trivial⟩

end CallsIn

end Program

namespace Pool

variable {M : Machine Ans ε σ η} {R : ℕ → σ → σ → Prop} {ok : ℕ → Op → σ → Prop}
  {Q : ℕ → Except ε α → σ → Prop} {K : ℕ → σ → Prop} {code : κ → Program Ans ε α} {s₀ : σ}

/-- The running programs make the calls they may make, and the idle slots are as a program may
start in them. -/
structure Calling (M : Machine Ans ε σ η) (R : ℕ → σ → σ → Prop) (ok : ℕ → Op → σ → Prop)
    (Q : ℕ → Except ε α → σ → Prop) (K : ℕ → σ → Prop) (p : Pool σ (Program Ans ε α)) : Prop where
  running : ∀ i q, p.task i = some q → q.CallsIn M i (R i) (ok i) (Q i) p.store
  idle : ∀ i, p.task i = none → K i p.store

/-- How the processes bound each other. -/
structure Bounds (M : Machine Ans ε σ η) (R : ℕ → σ → σ → Prop) (ok : ℕ → Op → σ → Prop)
    (Q : ℕ → Except ε α → σ → Prop) (K : ℕ → σ → Prop) (code : κ → Program Ans ε α) : Prop where
  refl : ∀ i s, R i s s
  trans : ∀ {i s s' s''}, R i s s' → R i s' s'' → R i s s''
  exec : ∀ {i j op e s}, ok i op s → j ≠ i → R j s (M.exec i op e s).1
  close : ∀ {i j s}, j ≠ i → R j s (M.close i s)
  code : ∀ {i c s}, K i s → (code c).CallsIn M i (R i) (ok i) (Q i) s
  ended : ∀ {i r s s'}, R i s s' → Q i r s → Q i r s'
  idle : ∀ {i s s'}, R i s s' → K i s → K i s'
  closed : ∀ i s, K i (M.close i s)

/-- Another process has moved the store. -/
theorem Calling.move (hB : Bounds M R ok Q K code) {p : Pool σ (Program Ans ε α)}
    (h : Calling M R ok Q K p) {s : σ} {i : ℕ} {t : Option (Program Ans ε α)}
    (hR : ∀ j, j ≠ i → R j p.store s)
    (hrun : ∀ q, t = some q → q.CallsIn M i (R i) (ok i) (Q i) s) (hidle : t = none → K i s) :
    Calling M R ok Q K (setTask ⟨s, p.task⟩ i t) where
  running j q hq := by
    obtain ⟨hne, hold⟩ | ⟨rfl, hnew⟩ := setTask_eq_some hq
    · exact (h.running j q hold).stable (hR j hne) hB.trans hB.ended
    · exact hrun q hnew
  idle j hj := by
    by_cases hji : j = i
    · subst hji
      have hnone : (setTask ⟨s, p.task⟩ j t).task j = t := Function.update_self ..
      exact hidle (hnone.symm.trans hj)
    · rw [task_setTask_of_ne hji] at hj
      exact hB.idle (hR j hji) (h.idle j hj)

theorem Calling.step (hB : Bounds M R ok Q K code) {p p' : Pool σ (Program Ans ε α)}
    {m : Move κ η × Option (Except ε α)} (h : Calling M R ok Q K p)
    (hstep : (interleaving s₀ code M).step p m p') : Calling M R ok Q K p' := by
  rw [step_eq hstep]
  obtain ⟨-, hm⟩ | ⟨i, c, -, hidle, hm⟩ | ⟨i, op, e, k, -, htask, hm⟩ | ⟨-, hm⟩ :=
    move_forms code M m.1 p
  all_goals rw [hm]
  · exact h
  · refine h.move hB (fun j _ ↦ hB.refl j _) (fun q hq ↦ ?_) fun hq ↦ (by cases hq)
    exact Option.some.inj hq ▸ hB.code (h.idle i hidle)
  · have hrun := h.running i _ htask
    refine h.move hB (fun j hj ↦ hB.exec (hrun.op (hB.refl i _)) hj) (fun q hq ↦ ?_)
      fun hq ↦ (by cases hq)
    exact Option.some.inj hq ▸ hrun.next (hB.refl i _) e
  · exact h.move hB (fun j hj ↦ hB.close hj) (fun q hq ↦ (by cases hq)) fun _ ↦ hB.closed _ _

/-- **Every run makes the calls it may make.** -/
theorem calling_of_run (hB : Bounds M R ok Q K code) (hinit : ∀ i, K i s₀)
    {tr : List (Move κ η × Option (Except ε α))} {p : Pool σ (Program Ans ε α)}
    (h : (interleaving s₀ code M).Run tr p) : Calling M R ok Q K p := by
  refine h.invariant (fun hs ↦ ?_) fun hp hstep ↦ hp.step hB hstep
  rw [hs]
  exact ⟨fun i q hq ↦ (by cases hq), fun i _ ↦ hinit i⟩

/-- A move that neither kills a program nor delivers an outcome performs a call at most. -/
theorem store_of_quiet {p p' : Pool σ (Program Ans ε α)} {m : Move κ η}
    (h : (interleaving s₀ code M).step p (m, none) p') (hm : m ≠ .crash m.slot) :
    p'.store = p.store ∨ ∃ i op e, p'.store = (M.exec i op e p.store).1 := by
  have hr : (move code M m p).2 = none := congrArg Prod.snd h
  rw [step_eq h]
  cases m with
  | crash i => exact absurd rfl hm
  | start i c =>
    refine .inl ?_
    simp only [move]
    split <;> rfl
  | advance i e =>
    rcases htask : p.task i with _ | (a | x | ⟨op, k⟩)
    all_goals simp only [move, htask] at hr ⊢
    · exact .inl trivial
    · cases hr
    · cases hr
    · exact .inr ⟨i, op, e, rfl⟩

/-- A program that delivers its outcome has ended in `Q`. -/
theorem Calling.outcome {p p' : Pool σ (Program Ans ε α)} {m : Move κ η} {r : Except ε α}
    (h : Calling M R ok Q K p) (hstep : (interleaving s₀ code M).step p (m, some r) p') :
    Q m.slot r p.store :=
  (h.running _ _ (task_of_outcome hstep)).outcome

/-- **The exact invariant rule**, where the call that is about to be made may be assumed `ok`. -/
theorem invariant_iff_of_callsIn {I : σ → Prop} {C : σ → ℕ × Op × η → Prop}
    (hB : Bounds M R ok Q K code) (hK : ∀ i, K i s₀) (hinit : I s₀)
    (hexec : ∀ {s i op e}, I s → ok i op s → (I (M.exec i op e s).1 ↔ C s (i, op, e)))
    (hclose : ∀ {s i}, I s → I (M.close i s))
    {tr : List (Move κ η × Option (Except ε α))} {p : Pool σ (Program Ans ε α)}
    (h : ((interleaving s₀ code M).restrict
      fun p m ↦ ∀ x ∈ p.nextCall m.1, C p.store x).Run tr p) :
    I p.store ∧ ∀ m p', (interleaving s₀ code M).step p m p' →
      (I p'.store ↔ ∀ x ∈ p.nextCall m.1, C p.store x) :=
  invariant_iff_of_task hinit (fun hrun htask hI ↦ hexec hI
    (((calling_of_run hB hK hrun).running _ _ htask).op (hB.refl _ _))) hclose h

/-- The bounds, where every move of every process goes the same way. -/
theorem Bounds.of_monotone {R : σ → σ → Prop} {ok : Op → σ → Prop} (hrefl : ∀ s, R s s)
    (htrans : ∀ {s s' s''}, R s s' → R s' s'' → R s s'')
    (hexec : ∀ {i op e s}, ok op s → R s (M.exec i op e s).1) (hclose : ∀ i s, R s (M.close i s))
    (hcode : ∀ i c s, (code c).CallsIn M i R ok (fun _ _ ↦ True) s) :
    Bounds M (fun _ ↦ R) (fun _ ↦ ok) (fun _ _ _ ↦ True) (fun _ _ ↦ True) code where
  refl _ := hrefl
  trans := htrans
  exec hop _ := hexec hop
  close _ := hclose _ _
  code _ := hcode _ _ _
  ended _ _ := trivial
  idle _ _ := trivial
  closed _ _ := trivial

end Pool

end ReqSys

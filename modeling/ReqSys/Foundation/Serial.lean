import ReqSys.Foundation.Program

/-!
# One program after the other

Programs that do not overlap: each runs alone from the store the previous one left, and to its end.
`Program.serial` is the transition system of such runs, one step a program.

`Alone M i s Q p` says that process `i`, running `p` alone from `s`, ends in `Q`; it is `EndsIn`
without interference. Most of a program only looks at the store, and `Reads` is the rule for that
part: the store stays as it is, and what the program returns has a property. `Alone.step` turns
what the programs do into what a step of the system does.

Where a program may also be killed between two of its calls, what it ends in is not enough.
`Pool.serial` is the system of such runs, and `Program.Always` says what holds at every moment.
-/

namespace ReqSys

namespace Program

variable {Op : Type} {Ans : Op → Type} {ε α β κ σ η : Type}

/-- Process `i` runs the program alone from `s` and ends in `Q`. -/
abbrev Alone (M : Machine Ans ε σ η) (i : ℕ) (s : σ) (Q : Except ε α → σ → Prop)
    (p : Program Ans ε α) : Prop := p.EndsIn M i (fun _ ↦ True) Eq Q s

/-- The program leaves the store alone, and what it returns has the property. -/
def Reads (M : Machine Ans ε σ η) (i : ℕ) (s : σ) (P : α → Prop) (p : Program Ans ε α) : Prop :=
  Alone M i s (fun r s' ↦ s' = s ∧ ∀ a, r = .ok a → P a) p

variable {M : Machine Ans ε σ η} {i : ℕ} {s : σ}

/-! ## Looking at the store -/

namespace Reads

/-- An exception returns nothing. -/
theorem raise {P : α → Prop} (x : ε) : Reads M i s P (.raise x : Program Ans ε α) :=
  ⟨rfl, fun _ h ↦ (nomatch h)⟩

theorem ret {P : α → Prop} {a : α} (h : P a) : Reads M i s P (.ret a : Program Ans ε α) := by
  refine ⟨rfl, fun b hb ↦ ?_⟩
  cases hb
  exact h

theorem ofExcept (x : Except ε α) :
    Reads M i s (fun a ↦ x = .ok a) (.ofExcept x : Program Ans ε α) :=
  EndsIn.ofExcept ⟨rfl, fun _ ha ↦ ha⟩

theorem perform {op : Op} {P : Ans op → Prop}
    (h : ∀ e, ∃ a, M.exec i op e s = (s, .ok a) ∧ P a) : Reads M i s P (.perform op) := by
  rintro _ e rfl -
  obtain ⟨a, ha, hP⟩ := h e
  rw [ha]
  refine ⟨rfl, fun b hb ↦ ?_⟩
  cases hb
  exact hP

/-- A query of the store. -/
theorem query {op : Op} (a : Ans op) (h : ∀ e, M.exec i op e s = (s, .ok a)) :
    Reads M i s (· = a) (.perform op) := perform fun e ↦ ⟨a, h e, rfl⟩

/-- A question that is answered from outside. -/
theorem input {op : Op} (h : ∀ e, ∃ a, M.exec i op e s = (s, .ok a)) :
    Reads M i s (fun _ ↦ True) (.perform op) := by
  refine perform fun e ↦ ?_
  obtain ⟨a, ha⟩ := h e
  exact ⟨a, ha, trivial⟩

/-- What follows a program that leaves the store alone. -/
theorem bind {P : α → Prop} {Q : Except ε β → σ → Prop} {p : Program Ans ε α}
    {f : α → Program Ans ε β} (hp : Reads M i s P p) (herror : ∀ x, Q (.error x) s)
    (hf : ∀ a, P a → Alone M i s Q (f a)) : Alone M i s Q (p >>= f) := by
  refine EndsIn.bind hp ?_ ?_
  · rintro a _ ⟨rfl, ha⟩
    exact hf a (ha a rfl)
  · rintro x _ ⟨rfl, -⟩
    exact herror x

/-- Programs that leave the store alone, one after the other. -/
theorem seq {P : α → Prop} {P' : β → Prop} {p : Program Ans ε α} {f : α → Program Ans ε β}
    (hp : Reads M i s P p) (hf : ∀ a, P a → Reads M i s P' (f a)) : Reads M i s P' (p >>= f) :=
  hp.bind (fun _ ↦ ⟨rfl, fun _ h ↦ (nomatch h)⟩) hf

theorem mono {P P' : α → Prop} {p : Program Ans ε α} (h : Reads M i s P p)
    (hP : ∀ a, P a → P' a) : Reads M i s P' p :=
  EndsIn.imp h fun _ _ hr ↦ ⟨hr.1, fun a ha ↦ hP a (hr.2 a ha)⟩

theorem forM {f : β → Program Ans ε PUnit} {l : List β}
    (hf : ∀ b, Reads M i s (fun _ ↦ True) (f b)) : Reads M i s (fun _ ↦ True) (l.forM f) := by
  induction l with
  | nil => exact ret trivial
  | cons b l ih => exact (hf b).seq fun _ _ ↦ ih

end Reads

/-! ## Calls that answer -/

/-- A query that always answers. -/
theorem alone_perform (op : Op) (a : Ans op) (h : ∀ e, M.exec i op e s = (s, .ok a)) :
    Alone M i s (fun r s' ↦ s' = s ∧ r = .ok a) (.perform op) := by
  rintro _ e rfl -
  rw [h e]
  exact ⟨rfl, rfl⟩

/-- An atomic call and the rest, whatever the call answers to the inputs in `A`. -/
theorem endsIn_perform_bind {A : η → Prop} {op : Op} {Q : Except ε α → σ → Prop}
    {f : Ans op → Program Ans ε α}
    (hok : ∀ e, A e → ∀ s' a, M.exec i op e s = (s', .ok a) → (f a).EndsIn M i A Eq Q s')
    (herror : ∀ e, A e → ∀ s' x, M.exec i op e s = (s', .error x) → Q (.error x) s') :
    (Program.perform op >>= f).EndsIn M i A Eq Q s := by
  rintro _ e rfl he
  rcases hexec : M.exec i op e s with ⟨s', x | a⟩
  · exact herror e he s' x hexec
  · exact hok e he s' a hexec

/-- An atomic call and the rest, whatever the call answers. -/
theorem alone_perform_bind {op : Op} {Q : Except ε α → σ → Prop} {f : Ans op → Program Ans ε α}
    (hok : ∀ e s' a, M.exec i op e s = (s', .ok a) → Alone M i s' Q (f a))
    (herror : ∀ e s' x, M.exec i op e s = (s', .error x) → Q (.error x) s') :
    Alone M i s Q (.perform op >>= f) :=
  endsIn_perform_bind (fun e _ ↦ hok e) fun e _ ↦ herror e

/-- What a program ends in twice, it ends in at once. -/
theorem EndsIn.and {A : η → Prop} {R : σ → σ → Prop} {Q Q' : Except ε α → σ → Prop}
    {p : Program Ans ε α} (hp : p.EndsIn M i A R Q s) (hp' : p.EndsIn M i A R Q' s) :
    p.EndsIn M i A R (fun r s' ↦ Q r s' ∧ Q' r s') s := by
  induction p generalizing s with
  | ret a => exact ⟨hp, hp'⟩
  | raise x => exact ⟨hp, hp'⟩
  | call op k ih => exact fun s' e hR hA ↦ ih _ (hp s' e hR hA) (hp' s' e hR hA)

/-- With the same input again and again a program comes to its end. -/
theorem exists_runAlone (M : Machine Ans ε σ η) (i : ℕ) (e : η) (p : Program Ans ε α) (s : σ) :
    ∃ es, (∀ x ∈ es, x = e) ∧ ∃ s' r, p.runAlone M i es s = some (s', r) := by
  induction p generalizing s with
  | ret a => exact ⟨[], List.forall_mem_nil _, s, .ok a, rfl⟩
  | raise x => exact ⟨[], List.forall_mem_nil _, s, .error x, rfl⟩
  | call op k ih =>
    obtain ⟨es, hes, hrun⟩ := ih (M.exec i op e s).2 (M.exec i op e s).1
    exact ⟨e :: es, List.forall_mem_cons.mpr ⟨rfl, hes⟩, hrun⟩

/-- What the calls of a program preserve, the program preserves. -/
theorem endsIn_of_calls {A : η → Prop} {J : σ → Prop} {P : Op → Prop}
    (hexec : ∀ op e s, P op → J s → J (M.exec i op e s).1) {p : Program Ans ε α}
    (hp : p.AllCalls P) (h : J s) : p.EndsIn M i A Eq (fun _ s' ↦ J s') s := by
  induction hp generalizing s with
  | ret a => exact h
  | raise x => exact h
  | call hop _ ih =>
    rintro _ e rfl -
    exact ih _ (hexec _ e s hop h)

/-- What every call preserves, a program preserves. -/
theorem alone_of_exec {J : σ → Prop} (hexec : ∀ op e s, J s → J (M.exec i op e s).1)
    (p : Program Ans ε α) (h : J s) : Alone M i s (fun _ s' ↦ J s') p :=
  endsIn_of_calls (P := fun _ ↦ True) (fun op e s _ ↦ hexec op e s)
    (.of_forall (fun _ ↦ trivial) p) h

/-! ## The system -/

/-- The programs run one after the other, each of them alone and to its end. The label of a step is
the program with its result. -/
def serial (s₀ : σ) (code : κ → Program Ans ε α) (M : Machine Ans ε σ η) :
    TransitionSystem σ (κ × Except ε α) where
  init s := s = s₀
  step s l s' := ∃ i es s₁, (code l.1).runAlone M i es s = some (s₁, l.2) ∧ s' = M.close i s₁

/-- What a program ends in, a step of the system ends in. -/
theorem Alone.step {s₀ : σ} {code : κ → Program Ans ε α} {c : κ} {r : Except ε α} {s' : σ}
    {Q : Except ε α → σ → Prop} (h : ∀ i, Alone M i s Q (code c))
    (hstep : (serial s₀ code M).step s (c, r) s') : ∃ i s₁, Q r s₁ ∧ s' = M.close i s₁ := by
  obtain ⟨i, es, s₁, hrun, rfl⟩ := hstep
  exact ⟨i, s₁, EndsIn.runAlone (fun _ ↦ rfl) (h i) (fun _ _ ↦ trivial) hrun, rfl⟩

/-- Evaluate programs one after the other, each with the same inputs: the results and the store they
end in. A program for which the inputs do not suffice is left out. -/
def runSerial (M : Machine Ans ε σ η) (code : κ → Program Ans ε α) (es : List η) :
    List κ → σ → List (κ × Except ε α) × σ
  | [], s => ([], s)
  | c :: cs, s =>
    match (code c).runAlone M 0 es s with
    | none => runSerial M code es cs s
    | some (s', r) =>
      let rest := runSerial M code es cs (M.close 0 s')
      ((c, r) :: rest.1, rest.2)

theorem path_runSerial (s₀ : σ) (M : Machine Ans ε σ η) (code : κ → Program Ans ε α)
    (es : List η) (cs : List κ) (s : σ) :
    (serial s₀ code M).Path s (runSerial M code es cs s).1 (runSerial M code es cs s).2 := by
  induction cs generalizing s with
  | nil => exact .nil s
  | cons c cs ih =>
    rw [runSerial]
    split
    · exact ih s
    next s' r hrun =>
      have hstep : (serial s₀ code M).step s (c, r) (M.close 0 s') := ⟨0, es, s', hrun, rfl⟩
      exact (TransitionSystem.Path.single hstep).append (ih _)

theorem run_runSerial (s₀ : σ) (M : Machine Ans ε σ η) (code : κ → Program Ans ε α)
    (es : List η) (cs : List κ) :
    (serial s₀ code M).Run (runSerial M code es cs s₀).1 (runSerial M code es cs s₀).2 :=
  ⟨s₀, rfl, path_runSerial s₀ M code es cs s₀⟩

end Program

variable {Op : Type} {Ans : Op → Type} {ε α β κ σ η : Type}

namespace Program

/-! ## Programs that stop -/

/-- Process `i` runs the program alone, on inputs that meet `C`: after every call `I` holds, and at
the end `Q`. -/
def Always (M : Machine Ans ε σ η) (i : ℕ) (C : σ → ℕ × Op × η → Prop) (I : σ → Prop)
    (Q : Except ε α → σ → Prop) : Program Ans ε α → σ → Prop
  | ret a, s => Q (.ok a) s
  | raise x, s => Q (.error x) s
  | call op k, s => ∀ e, C s (i, op, e) → I (M.exec i op e s).1 ∧
      (k (M.exec i op e s).2).Always M i C I Q (M.exec i op e s).1

namespace Always

variable {M : Machine Ans ε σ η} {i : ℕ} {C : σ → ℕ × Op × η → Prop} {I : σ → Prop} {s : σ}
  {Q : Except ε α → σ → Prop} {Q' : Except ε β → σ → Prop}

theorem bind {p : Program Ans ε α} {f : α → Program Ans ε β} (hp : p.Always M i C I Q s)
    (hf : ∀ a s, Q (.ok a) s → (f a).Always M i C I Q' s)
    (he : ∀ x s, Q (.error x) s → Q' (.error x) s) : (p >>= f).Always M i C I Q' s := by
  change (p.bind f).Always M i C I Q' s
  induction p generalizing s with
  | ret a => exact hf a s hp
  | raise x => exact he x s hp
  | call op k ih => exact fun e hC ↦ ⟨(hp e hC).1, ih _ (hp e hC).2⟩

/-- What a program raises is caught and handed to the rest. -/
theorem attempt_bind {p : Program Ans ε α} {f : Except ε α → Program Ans ε β}
    (hp : p.Always M i C I Q s) (hf : ∀ r s, Q r s → (f r).Always M i C I Q' s) :
    (p.attempt >>= f).Always M i C I Q' s := by
  change (p.attempt.bind f).Always M i C I Q' s
  induction p generalizing s with
  | ret a => exact hf _ s hp
  | raise x => exact hf _ s hp
  | call op k ih => exact fun e hC ↦ ⟨(hp e hC).1, ih _ (hp e hC).2⟩

theorem ofExcept {x : Except ε α} (h : Q x s) :
    (Program.ofExcept x : Program Ans ε α).Always M i C I Q s := by
  cases x with
  | ok a => exact h
  | error e => exact h

/-- A single call. -/
theorem perform {op : Op} {Q : Except ε (Ans op) → σ → Prop}
    (h : ∀ e, C s (i, op, e) → I (M.exec i op e s).1 ∧ Q (M.exec i op e s).2 (M.exec i op e s).1) :
    (Program.perform op : Program Ans ε (Ans op)).Always M i C I Q s :=
  fun e hC ↦ ⟨(h e hC).1, ofExcept (h e hC).2⟩

theorem imp {Q₂ : Except ε α → σ → Prop} {p : Program Ans ε α} (hp : p.Always M i C I Q s)
    (hQ : ∀ r s, Q r s → Q₂ r s) : p.Always M i C I Q₂ s := by
  induction p generalizing s with
  | ret a => exact hQ _ s hp
  | raise x => exact hQ _ s hp
  | call op k ih => exact fun e hC ↦ ⟨(hp e hC).1, ih _ (hp e hC).2⟩

/-- What the calls of a program preserve, the program preserves at every moment. -/
theorem of_calls {J : σ → Prop} {P : Op → Prop}
    (hexec : ∀ op e s, P op → J s → J (M.exec i op e s).1) (hJ : ∀ s, J s → I s)
    {p : Program Ans ε α} (hp : p.AllCalls P) (h : J s) : p.Always M i C I (fun _ s' ↦ J s') s := by
  induction hp generalizing s with
  | ret a => exact h
  | raise x => exact h
  | call hop _ ih => exact fun e _ ↦ ⟨hJ _ (hexec _ e s hop h), ih _ (hexec _ e s hop h)⟩

/-- A loop keeps what its steps keep. -/
theorem foldlM {J : σ → Prop} {f : β → κ → Program Ans ε β} {l : List κ} {b : β}
    (hf : ∀ b a s, J s → (f b a).Always M i C I (fun _ s' ↦ J s') s) (h : J s) :
    (l.foldlM f b).Always M i C I (fun _ s' ↦ J s') s := by
  induction l generalizing b s with
  | nil => exact h
  | cons a l ih =>
    rw [List.foldlM_cons]
    exact (hf b a s h).bind (fun b s hs ↦ ih hs) fun _ _ hs ↦ hs

end Always

end Program

namespace Pool

variable {code : κ → Program Ans ε α} {M : Machine Ans ε σ η} {s₀ : σ}

/-- One program at a time, in slot 0. It may be killed between any two of its calls. -/
def serial (s₀ : σ) (code : κ → Program Ans ε α) (M : Machine Ans ε σ η) :
    TransitionSystem (Pool σ (Program Ans ε α)) (Move κ η × Option (Except ε α)) :=
  (interleaving s₀ code M).restrict fun _ m ↦ m.1.slot = 0

/-- A run in slot 0 that meets a condition. -/
theorem run_serial {C : Pool σ (Program Ans ε α) → Move κ η × Option (Except ε α) → Prop}
    {tr : List (Move κ η × Option (Except ε α))} {p : Pool σ (Program Ans ε α)}
    (h : ((interleaving s₀ code M).restrict fun p m ↦ m.1.slot = 0 ∧ C p m).Run tr p) :
    ((serial s₀ code M).restrict C).Run tr p := by
  obtain ⟨p₀, hinit, hpath⟩ := h
  refine ⟨p₀, hinit, hpath.mono ?_⟩
  rintro _ _ _ ⟨⟨hslot, hC⟩, hstep⟩
  exact ⟨hC, hslot, hstep⟩

/-- **One at a time.** What every program keeps at every moment, if it runs alone on inputs that
meet the condition, holds in every state of such runs. -/
theorem invariant_of_always {I : σ → Prop} {C : σ → ℕ × Op × η → Prop} (hinit : I s₀)
    (hclose : ∀ {s}, I s → I (M.close 0 s))
    (hcode : ∀ c s, I s → (code c).Always M 0 C I (fun _ _ ↦ True) s)
    {tr : List (Move κ η × Option (Except ε α))} {p : Pool σ (Program Ans ε α)}
    (h : ((serial s₀ code M).restrict fun p m ↦ ∀ x ∈ p.nextCall m.1, C p.store x).Run tr p) :
    I p.store := by
  suffices hinv : I p.store ∧
      ∀ q, p.task 0 = some q → q.Always M 0 C I (fun _ _ ↦ True) p.store from hinv.1
  refine h.invariant (I := fun p ↦ I p.store ∧
    ∀ q, p.task 0 = some q → q.Always M 0 C I (fun _ _ ↦ True) p.store) ?_ ?_
  · rintro _ rfl
    exact ⟨hinit, fun q hq ↦ (by cases hq)⟩
  · rintro p m p' ⟨hI, hrun⟩ ⟨hC, hslot, hstep⟩
    rw [step_eq hstep]
    have hnew {s : σ} {t : Option (Program Ans ε α)} {q : Program Ans ε α}
        (hq : (setTask ⟨s, p.task⟩ 0 t).task 0 = some q) : t = some q := by
      obtain ⟨hne, -⟩ | ⟨-, ht⟩ := setTask_eq_some hq
      · exact absurd rfl hne
      · exact ht
    obtain ⟨-, hm⟩ | ⟨i, c, hi, -, hm⟩ | ⟨i, op, e, k, hnext, htask, hm⟩ | ⟨-, hm⟩ :=
      move_forms code M m.1 p
    all_goals rw [hm]
    · exact ⟨hI, hrun⟩
    · obtain rfl : i = 0 := by rwa [hi] at hslot
      exact ⟨hI, fun q hq ↦ Option.some.inj (hnew hq) ▸ hcode c _ hI⟩
    · obtain rfl : i = 0 := by rwa [eq_advance_of_nextCall hnext] at hslot
      obtain ⟨hI', hk⟩ := hrun _ htask e (hC _ hnext)
      exact ⟨hI', fun q hq ↦ Option.some.inj (hnew hq) ▸ hk⟩
    · rw [hslot]
      exact ⟨hclose hI, fun q hq ↦ (by cases hnew hq)⟩

end Pool

end ReqSys

import TransferGateway.Lib.Prog

/-!
# Executions step by step

An execution need not come to its end: a process is killed, and a task is dropped while it waits. What
is left of a program then is a program again, and `Reaches` relates it to the whole.
-/

namespace Prog

variable {S T : Type → Type} {ε ε' α β C σ : Type}

section Reaches

variable (h : Handler S C σ) (E : Env C σ)

/-- Some execution that the environment admits comes from `p` in `s` to what is left, `p'` in `s'`. -/
inductive Reaches : Prog S ε α → σ → Prog S ε α → σ → Prop where
  | here (p : Prog S ε α) (s : σ) : Reaches p s p s
  | call {β : Type} {o : S β} {k : β → Prog S ε α} {s s₁ s' : σ} {c : C} {p' : Prog S ε α}
      (hs : E.interferes s s₁) (hc : E.admits c)
      (hrest : Reaches (k (h _ o c s₁).1) (h _ o c s₁).2 p' s') : Reaches (.call o k) s p' s'

variable {h E}

namespace Reaches

lemma trans {p p' p'' : Prog S ε α} {s s' s'' : σ} (h₁ : Reaches h E p s p' s')
    (h₂ : Reaches h E p' s' p'' s'') : Reaches h E p s p'' s'' := by
  induction h₁ with
  | here p s => exact h₂
  | call hs hc _ ih => exact .call hs hc (ih h₂)

lemma of_ret {a : α} {p' : Prog S ε α} {s s' : σ} (hr : Reaches h E (ret a) s p' s') :
    p' = ret a ∧ s' = s := by
  cases hr
  exact ⟨rfl, rfl⟩

lemma of_fail {e : ε} {p' : Prog S ε α} {s s' : σ} (hr : Reaches h E (fail e) s p' s') :
    p' = fail e ∧ s' = s := by
  cases hr
  exact ⟨rfl, rfl⟩

lemma returns {R : α → Prop} {p p' : Prog S ε α} {s s' : σ} (hr : Reaches h E p s p' s')
    (hp : p.Returns R) : p'.Returns R := by
  induction hr with
  | here p s => exact hp
  | call hs hc _ ih => exact ih (hp _)

/-- What holds of all outcomes holds of those of what is left. -/
lemma wp {p p' : Prog S ε α} {Q : Except ε α → σ → Prop} {s s' : σ}
    (hr : Reaches h E p s p' s') (hp : p.wp h E Q s) : p'.wp h E Q s' := by
  induction hr with
  | here p s => exact hp
  | call hs hc _ ih => exact ih (hp _ hs _ hc)

/-- A property that the operations of a program and the others keep holds all the way. -/
lemma invariant {P : (β : Type) → S β → Prop} {I : σ → Prop} {p p' : Prog S ε α} {s s' : σ}
    (hr : Reaches h E p s p' s') (hp : p.All P)
    (hrely : ∀ {s s'}, E.interferes s s' → I s → I s')
    (hop : ∀ {β} (o : S β), P β o → ∀ c, E.admits c → ∀ s, I s → I (h _ o c s).2) (hs : I s) :
    I s' ∧ p'.All P := by
  induction hr with
  | here p s => exact ⟨hs, hp⟩
  | call hi hc _ ih => exact ih (hp.2 _) (hop _ hp.1 _ hc _ (hrely hi hs))

end Reaches

/-- An outcome is what an execution comes to with nothing left. -/
theorem outcome_iff_reaches {p : Prog S ε α} {s s' : σ} {r : Except ε α} :
    p.Outcome h E s r s' ↔ Reaches h E p s (ofExcept r) s' := by
  constructor
  · intro hout
    induction p generalizing s with
    | ret a =>
      obtain ⟨rfl, rfl⟩ := hout
      exact .here _ _
    | fail e =>
      obtain ⟨rfl, rfl⟩ := hout
      exact .here _ _
    | call o k ih =>
      obtain ⟨s₁, hs, c, hc, hout⟩ := hout
      exact .call hs hc (ih _ hout)
  · intro hr
    generalize hq : (ofExcept r : Prog S ε α) = q at hr
    induction hr with
    | here p s =>
      subst hq
      cases r <;> exact ⟨rfl, rfl⟩
    | call hs hc _ ih => exact ⟨_, hs, _, hc, ih hq⟩

/-- Follow a script for `n` operations, or to the end. -/
def advance (h : Handler S C σ) : ℕ → Prog S ε α → (ℕ → Move C σ) → σ → Prog S ε α × σ
  | n + 1, call o k, m, s =>
    let r := h _ o (m 0).choice ((m 0).interfere s)
    advance h n (k r.1) (fun i => m (i + 1)) r.2
  | _, p, _, s => (p, s)

lemma reaches_advance (n : ℕ) (p : Prog S ε α) {m : ℕ → Move C σ}
    (hm : ∀ n, (∀ s, E.interferes s ((m n).interfere s)) ∧ E.admits (m n).choice) (s : σ) :
    Reaches h E p s (advance h n p m s).1 (advance h n p m s).2 := by
  induction n generalizing p m s with
  | zero => exact .here p s
  | succ n ih =>
    cases p with
    | ret a => exact .here _ s
    | fail e => exact .here _ s
    | call o k => exact .call ((hm 0).1 s) (hm 0).2 (ih _ (fun i => hm (i + 1)) _)

/-! ### Composition -/

/-- An execution of a sequence is still in its first part, or that has returned. -/
lemma Reaches.of_bind {p : Prog S ε α} {f : α → Prog S ε β} {q : Prog S ε β} {s s' : σ}
    (hr : Reaches h E (p >>= f) s q s') :
    (∃ p', Reaches h E p s p' s' ∧ q = p' >>= f) ∨
      ∃ a s₁, p.Outcome h E s (.ok a) s₁ ∧ Reaches h E (f a) s₁ q s' := by
  change Reaches h E (p.bind f) s q s' at hr
  induction p generalizing s with
  | ret a => exact .inr ⟨a, s, ⟨rfl, rfl⟩, hr⟩
  | fail e =>
    obtain ⟨rfl, rfl⟩ := hr.of_fail
    exact .inl ⟨fail e, .here _ _, rfl⟩
  | call o k ih =>
    cases hr with
    | here => exact .inl ⟨.call o k, .here _ _, rfl⟩
    | call hs hc hrest =>
      rcases ih _ hrest with ⟨p', hp', rfl⟩ | ⟨a, s₁, hout, hf⟩
      · exact .inl ⟨p', .call hs hc hp', rfl⟩
      · exact .inr ⟨a, s₁, ⟨_, hs, _, hc, hout⟩, hf⟩

/-- An execution is still before its first operation, or that has been carried out. -/
lemma Reaches.of_perform {o : S α} {f : α → Prog S ε β} {q : Prog S ε β} {s s' : σ}
    (hr : Reaches h E (perform o >>= f) s q s') :
    q = perform o >>= f ∧ s' = s ∨ ∃ s₁ c, E.interferes s s₁ ∧ E.admits c ∧
      Reaches h E (f (h _ o c s₁).1) (h _ o c s₁).2 q s' := by
  change Reaches h E (Prog.call o f) s q s' at hr
  cases hr with
  | here => exact .inl ⟨rfl, rfl⟩
  | call hs hc hrest => exact .inr ⟨_, _, hs, hc, hrest⟩

lemma Reaches.of_attempt {p : Prog S ε α} {q : Prog S ε' (Except ε α)} {s s' : σ}
    (hr : Reaches h E p.attempt s q s') : ∃ p', Reaches h E p s p' s' ∧ q = p'.attempt := by
  induction p generalizing s with
  | ret a =>
    obtain ⟨rfl, rfl⟩ := hr.of_ret
    exact ⟨ret a, .here _ _, rfl⟩
  | fail e =>
    obtain ⟨rfl, rfl⟩ := Reaches.of_ret hr
    exact ⟨fail e, .here _ _, rfl⟩
  | call o k ih =>
    cases hr with
    | here => exact ⟨_, .here _ _, rfl⟩
    | call hs hc hrest =>
      obtain ⟨p', hp', rfl⟩ := ih _ hrest
      exact ⟨p', .call hs hc hp', rfl⟩

lemma Reaches.bind {p p' : Prog S ε α} {s s' : σ} (hr : Reaches h E p s p' s')
    (f : α → Prog S ε β) : Reaches h E (p >>= f) s (p' >>= f) s' := by
  induction hr with
  | here p s => exact .here _ _
  | call hs hc _ ih => exact .call hs hc ih

end Reaches

/-! ### Where an execution may be dropped -/

section Dropped

variable (W : (β : Type) → S β → Prop)

/-- The next operation is one that may wait. -/
def Waits : Prog S ε α → Prop
  | ret _    => False
  | fail _   => False
  | call o _ => W _ o

/-- The program has ended, or it may be dropped while it waits. -/
def Stopped : Prog S ε α → Prop
  | ret _    => True
  | fail _   => True
  | call o _ => W _ o

instance [∀ β o, Decidable (W β o)] (p : Prog S ε α) : Decidable (p.Stopped W) :=
  match p with
  | ret _    => isTrue trivial
  | fail _   => isTrue trivial
  | call o _ => inferInstanceAs (Decidable (W _ o))

variable {W}

lemma Stopped.bind {p : Prog S ε α} {f : α → Prog S ε β} (h : (p >>= f).Stopped W) :
    p.Waits W ∨ (∃ e, p = fail e) ∨ ∃ a, p = ret a ∧ (f a).Stopped W := by
  cases p with
  | ret a => exact .inr (.inr ⟨a, rfl, h⟩)
  | fail e => exact .inr (.inl ⟨e, rfl⟩)
  | call o k => exact .inl h

end Dropped

/-! ### Properties that hold all the way -/

section Throughout

variable (h : Handler S C σ) (E : Env C σ)

/-- Every execution that starts with `I` has it wherever it is interrupted. -/
def KeepsThroughout (I : σ → Prop) (p : Prog S ε α) : Prop :=
  ∀ s, I s → ∀ p' s', Reaches h E p s p' s' → I s'

variable {h E} {I : σ → Prop}

namespace KeepsThroughout

lemma ret (a : α) : KeepsThroughout h E I (ret a : Prog S ε α) :=
  fun _ hs _ _ hr => hr.of_ret.2 ▸ hs

lemma fail (e : ε) : KeepsThroughout h E I (fail e : Prog S ε α) :=
  fun _ hs _ _ hr => hr.of_fail.2 ▸ hs

lemma ofExcept (x : Except ε α) : KeepsThroughout h E I (ofExcept x : Prog S ε α) := by
  cases x with
  | ok a => exact ret a
  | error e => exact fail e

lemma bind {p : Prog S ε α} {f : α → Prog S ε β} (hp : KeepsThroughout h E I p)
    (hf : ∀ a, KeepsThroughout h E I (f a)) : KeepsThroughout h E I (p >>= f) := by
  intro s hs q s' hr
  rcases hr.of_bind with ⟨p', hr, -⟩ | ⟨a, s₁, hout, hr⟩
  · exact hp s hs _ _ hr
  · exact hf a s₁ (hp s hs _ _ (outcome_iff_reaches.mp hout)) _ _ hr

lemma attempt {p : Prog S ε α} (hp : KeepsThroughout h E I p) :
    KeepsThroughout h E I (p.attempt : Prog S ε' (Except ε α)) := by
  intro s hs q s' hr
  obtain ⟨p', hr, -⟩ := hr.of_attempt
  exact hp s hs p' s' hr

/-- What the single operations of a program and the others keep, the program keeps. -/
lemma of_all {P : (β : Type) → S β → Prop} {p : Prog S ε α} (hp : p.All P)
    (hrely : ∀ {s s'}, E.interferes s s' → I s → I s')
    (hop : ∀ {β} (o : S β), P β o → ∀ c, E.admits c → ∀ s, I s → I (h _ o c s).2) :
    KeepsThroughout h E I p :=
  fun _ hs _ _ hr => (hr.invariant hp hrely hop hs).1

end KeepsThroughout

end Throughout

/-! ### Preconditions along the way -/

section Along

variable (h : Handler S C σ) (E : Env C σ) (I : σ → Prop)

/-- `I` holds wherever an execution is interrupted, and `Q` of its outcome. -/
def along : Prog S ε α → (Except ε α → σ → Prop) → σ → Prop
  | ret a, Q, s    => I s ∧ Q (.ok a) s
  | fail e, Q, s   => I s ∧ Q (.error e) s
  | call o k, Q, s =>
    I s ∧ ∀ s', E.interferes s s' → ∀ c, E.admits c → (k (h _ o c s').1).along Q (h _ o c s').2

variable {h E I}

lemma along_here {p : Prog S ε α} {Q : Except ε α → σ → Prop} {s : σ} (hp : p.along h E I Q s) :
    I s := by
  cases p with
  | ret a => exact hp.1
  | fail e => exact hp.1
  | call o k => exact hp.1

lemma along_ofExcept {x : Except ε α} {Q : Except ε α → σ → Prop} {s : σ} (hI : I s) (hQ : Q x s) :
    (ofExcept x : Prog S ε α).along h E I Q s := by
  cases x with
  | ok a => exact ⟨hI, hQ⟩
  | error e => exact ⟨hI, hQ⟩

lemma along_mono {I' : σ → Prop} {p : Prog S ε α} {Q Q' : Except ε α → σ → Prop} {s : σ}
    (hp : p.along h E I Q s) (hI : ∀ s', I s' → I' s') (hQ : ∀ r s', Q r s' → Q' r s') :
    p.along h E I' Q' s := by
  induction p generalizing s with
  | ret a => exact ⟨hI _ hp.1, hQ _ _ hp.2⟩
  | fail e => exact ⟨hI _ hp.1, hQ _ _ hp.2⟩
  | call o k ih => exact ⟨hI _ hp.1, fun s' hs' c hc => ih _ (hp.2 s' hs' c hc)⟩

/-- The rule of sequencing: `R` holds in between. -/
lemma along_seq {p : Prog S ε α} {f : α → Prog S ε β} {R : Except ε α → σ → Prop}
    {Q : Except ε β → σ → Prop} {s : σ} (hp : p.along h E I R s)
    (hok : ∀ a s', R (.ok a) s' → (f a).along h E I Q s')
    (herror : ∀ e s', R (.error e) s' → Q (.error e) s') : (p >>= f).along h E I Q s := by
  change (p.bind f).along h E I Q s
  induction p generalizing s with
  | ret a => exact hok a s hp.2
  | fail e => exact ⟨hp.1, herror e s hp.2⟩
  | call o k ih => exact ⟨hp.1, fun s' hs' c hc => ih _ (hp.2 s' hs' c hc)⟩

lemma along_mapError {f : ε → ε'} {p : Prog S ε α} {Q : Except ε' α → σ → Prop} {s : σ}
    (hp : p.along h E I (fun r s' => Q (r.mapError f) s') s) :
    (p.mapError f).along h E I Q s := by
  induction p generalizing s with
  | ret a => exact hp
  | fail e => exact hp
  | call o k ih => exact ⟨hp.1, fun s' hs' c hc => ih _ (hp.2 s' hs' c hc)⟩

lemma along_attempt {p : Prog S ε α} {Q : Except ε' (Except ε α) → σ → Prop} {s : σ}
    (hp : p.along h E I (fun r s' => Q (.ok r) s') s) : p.attempt.along h E I Q s := by
  induction p generalizing s with
  | ret a => exact hp
  | fail e => exact hp
  | call o k ih => exact ⟨hp.1, fun s' hs' c hc => ih _ (hp.2 s' hs' c hc)⟩

/-- What holds along a program holds along its lifting, over a state that carries the smaller one. -/
lemma along_lift {D τ : Type} {hT : Handler T D τ} {ET : Env D τ} (e : (β : Type) → S β → T β)
    (π : τ → σ) (κ : D → C)
    (hrely : ∀ {t t'}, ET.interferes t t' → E.interferes (π t) (π t'))
    (hadmits : ∀ {d}, ET.admits d → E.admits (κ d))
    (hop : ∀ {β} (o : S β) d t,
      h _ o (κ d) (π t) = ((hT _ (e _ o) d t).1, π (hT _ (e _ o) d t).2))
    {p : Prog S ε α} {Q : Except ε α → σ → Prop} {t : τ} (hp : p.along h E I Q (π t)) :
    (p.lift e).along hT ET (fun t' => I (π t')) (fun r t' => Q r (π t')) t := by
  induction p generalizing t with
  | ret a => exact hp
  | fail err => exact hp
  | call o k ih =>
    refine ⟨hp.1, fun t' ht' d hd => ?_⟩
    have := hp.2 (π t') (hrely ht') (κ d) (hadmits hd)
    rw [hop] at this
    exact ih _ this

/-- What the single operations of a program and the others keep holds along it. -/
lemma along_of_all {P : (β : Type) → S β → Prop} {p : Prog S ε α} (hp : p.All P)
    (hrely : ∀ {s s'}, E.interferes s s' → I s → I s')
    (hop : ∀ {β} (o : S β), P β o → ∀ c, E.admits c → ∀ s, I s → I (h _ o c s).2) {s : σ} (hs : I s) :
    p.along h E I (fun _ => I) s := by
  induction p generalizing s with
  | ret a => exact ⟨hs, hs⟩
  | fail e => exact ⟨hs, hs⟩
  | call o k ih =>
    exact ⟨hs, fun s' hs' c hc => ih _ (hp.2 _) (hop o hp.1 c hc s' (hrely hs' hs))⟩

/-- Two properties that hold along a program. -/
lemma along_and {I' : σ → Prop} {p : Prog S ε α} {Q Q' : Except ε α → σ → Prop} {s : σ}
    (hp : p.along h E I Q s) (hp' : p.along h E I' Q' s) :
    p.along h E (fun s' => I s' ∧ I' s') (fun r s' => Q r s' ∧ Q' r s') s := by
  induction p generalizing s with
  | ret a => exact ⟨⟨hp.1, hp'.1⟩, hp.2, hp'.2⟩
  | fail e => exact ⟨⟨hp.1, hp'.1⟩, hp.2, hp'.2⟩
  | call o k ih =>
    exact ⟨⟨hp.1, hp'.1⟩, fun s' hs' c hc => ih _ (hp.2 s' hs' c hc) (hp'.2 s' hs' c hc)⟩

/-- What holds along a program holds in the end. -/
lemma along_self {p : Prog S ε α} {Q : Except ε α → σ → Prop} {s : σ} (hp : p.along h E I Q s) :
    p.along h E I (fun r s' => I s' ∧ Q r s') s := by
  induction p generalizing s with
  | ret a => exact ⟨hp.1, hp⟩
  | fail e => exact ⟨hp.1, hp⟩
  | call o k ih => exact ⟨hp.1, fun s' hs' c hc => ih _ (hp.2 s' hs' c hc)⟩

lemma wp_of_along {p : Prog S ε α} {Q : Except ε α → σ → Prop} {s : σ} (hp : p.along h E I Q s) :
    p.wp h E Q s := by
  induction p generalizing s with
  | ret a => exact hp.2
  | fail e => exact hp.2
  | call o k ih => exact fun s' hs' c hc => ih _ (hp.2 s' hs' c hc)

/-- Of the outcomes alone, what holds along a program is what `wp` says. -/
lemma along_true {p : Prog S ε α} {Q : Except ε α → σ → Prop} {s : σ} (hp : p.wp h E Q s) :
    p.along h E (fun _ => True) Q s := by
  induction p generalizing s with
  | ret a => exact ⟨trivial, hp⟩
  | fail e => exact ⟨trivial, hp⟩
  | call o k ih => exact ⟨trivial, fun s' hs' c hc => ih _ (hp s' hs' c hc)⟩

/-- Wherever an execution is interrupted. -/
theorem Reaches.along {p p' : Prog S ε α} {Q : Except ε α → σ → Prop} {s s' : σ}
    (hr : Reaches h E p s p' s') (hp : p.along h E I Q s) : I s' := by
  induction hr with
  | here p s => exact along_here hp
  | call hs hc _ ih => exact ih (hp.2 _ hs _ hc)

end Along

/-! ### Operations along the way -/

section Issues

variable (h : Handler S C σ) (E : Env C σ) (P : (β : Type) → S β → σ → Prop)

/-- Every operation of an execution satisfies `P` in the state in which it is issued. -/
def issues : Prog S ε α → σ → Prop
  | ret _, _    => True
  | fail _, _   => True
  | call o k, s => ∀ s', E.interferes s s' → P _ o s' ∧
      ∀ c, E.admits c → (k (h _ o c s').1).issues (h _ o c s').2

variable {h E P}

/-- The rule of sequencing: `R` holds in between. -/
lemma issues_seq {p : Prog S ε α} {f : α → Prog S ε β} {R : α → σ → Prop} {s : σ}
    (hp : p.issues h E P s) (hR : p.wp h E (onOk R) s)
    (hf : ∀ a s', R a s' → (f a).issues h E P s') : (p >>= f).issues h E P s := by
  change (p.bind f).issues h E P s
  induction p generalizing s with
  | ret a => exact hf a s hR
  | fail e => trivial
  | call o k ih =>
    intro s' hs'
    obtain ⟨ho, hk⟩ := hp s' hs'
    exact ⟨ho, fun c hc => ih _ (hk c hc) (hR s' hs' c hc)⟩

lemma issues_mapError {f : ε → ε'} {p : Prog S ε α} {s : σ} (hp : p.issues h E P s) :
    (p.mapError f).issues h E P s := by
  induction p generalizing s with
  | ret a => trivial
  | fail e => trivial
  | call o k ih =>
    intro s' hs'
    obtain ⟨ho, hk⟩ := hp s' hs'
    exact ⟨ho, fun c hc => ih _ (hk c hc)⟩

/-- What is said of the operations of a program alone, where `I` holds all the way. -/
lemma issues_of_all {Q : (β : Type) → S β → Prop} {I : σ → Prop} {p : Prog S ε α} (hp : p.All Q)
    (hrely : ∀ {s s'}, E.interferes s s' → I s → I s')
    (hop : ∀ {β} (o : S β), Q β o → ∀ s, I s → P β o s ∧ ∀ c, E.admits c → I (h _ o c s).2)
    {s : σ} (hs : I s) : p.issues h E P s := by
  induction p generalizing s with
  | ret a => trivial
  | fail e => trivial
  | call o k ih =>
    intro s' hs'
    obtain ⟨ho, hI⟩ := hop o hp.1 s' (hrely hs' hs)
    exact ⟨ho, fun c hc => ih _ (hp.2 _) (hI c hc)⟩

/-- What the operations that are issued keep holds at the end. -/
lemma wp_of_issues {I : σ → Prop} {p : Prog S ε α} {s : σ} (hp : p.issues h E P s)
    (hrely : ∀ {s s'}, E.interferes s s' → I s → I s')
    (hop : ∀ {β} (o : S β) s, P β o s → I s → ∀ c, E.admits c → I (h _ o c s).2) (hs : I s) :
    p.wp h E (fun _ s' => I s') s := by
  induction p generalizing s with
  | ret a => exact hs
  | fail e => exact hs
  | call o k ih =>
    intro s' hs' c hc
    obtain ⟨ho, hk⟩ := hp s' hs'
    exact ih _ (hk c hc) (hop o s' ho (hrely hs' hs) c hc)

lemma issues_stable (htrans : ∀ {a b c}, E.interferes a b → E.interferes b c → E.interferes a c)
    {p : Prog S ε α} {s s' : σ} (hp : p.issues h E P s) (hs : E.interferes s s') :
    p.issues h E P s' := by
  cases p with
  | ret a => trivial
  | fail e => trivial
  | call o k => exact fun s'' hs'' => hp s'' (htrans hs hs'')

end Issues

end Prog

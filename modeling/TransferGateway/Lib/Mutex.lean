import TransferGateway.Lib.Pool
import TransferGateway.Lib.Steps

/-!
# Critical sections

Each party of a pool takes the lock, runs a program on the state behind it, and gives the lock back.
The steps of all parties are interleaved, and still each section is carried out as if it were alone, in
the order in which they give the lock back.
-/

/-- What has come of a program that is at its end. -/
def Prog.result? {S : Type → Type} {ε α : Type} : Prog S ε α → Option (Except ε α)
  | ret a    => some (.ok a)
  | fail e   => some (.error e)
  | call _ _ => none

lemma Prog.ofExcept_of_result? {S : Type → Type} {ε α : Type} {p : Prog S ε α} {r : Except ε α}
    (h : p.result? = some r) : p = ofExcept r := by
  cases p with
  | ret a => cases h; rfl
  | fail e => cases h; rfl
  | call o k => cases h

/-- A state, and whether its lock is taken. -/
structure Guarded (σ : Type) where
  taken : Bool
  state : σ

/-- A party that calls `K`, before, in and after its section. -/
inductive Critical (K : Type) (S : Type → Type) (ε α : Type) where
  | waits (k : K)
  | inside (k : K) (left : Prog S ε α)
  | done (k : K) (r : Except ε α)

namespace Critical

variable {K : Type} {S : Type → Type} {ε α C σ : Type}

/-- The party is in its section. -/
def IsInside : Critical K S ε α → Prop
  | inside _ _ => True
  | waits _ | done _ _ => False

/-- A section that is to be given back now, with the position of its party. -/
def finished : Pool (Critical K S ε α) (Guarded σ) × Pool.Event (Critical K S ε α) C →
    Option (ℕ × K × Except ε α)
  | (s, .move i _) => s.parties[i]?.bind fun p =>
    match p with
    | inside k left => left.result?.map fun r => (i, k, r)
    | waits _ | done _ _ => none
  | (_, .enter _) => none

section Step

variable (body : K → Prog S ε α) (h : Handler S C σ)

/-- A party takes the lock if it is free, or goes on in its section, or gives the lock back. -/
def step (c : C) (p : Critical K S ε α) (s : Guarded σ) :
    Option (Critical K S ε α × Guarded σ) :=
  match p with
  | waits k => if s.taken then none else some (inside k (body k), ⟨true, s.state⟩)
  | inside k (.call o rest) =>
    let r := h _ o c s.state
    some (inside k (rest r.1), ⟨s.taken, r.2⟩)
  | inside k (.ret a) => some (done k (.ok a), ⟨false, s.state⟩)
  | inside k (.fail e) => some (done k (.error e), ⟨false, s.state⟩)
  | done _ _ => none

/-- The sections were carried out one after the other. -/
inductive InTurn (start : σ) : List (ℕ × K × Except ε α) → σ → Prop where
  | start : InTurn start [] start
  | next {past : List (ℕ × K × Except ε α)} {s s' : σ} {k : K} {r : Except ε α} (i : ℕ)
      (hpast : InTurn start past s) (hout : (body k).Outcome h (Env.alone C σ) s r s') :
      InTurn start (past ++ [(i, k, r)]) s'

/-- The runs in which each party comes before its section. -/
abbrev Run (start : σ) : List (Pool (Critical K S ε α) (Guarded σ) ×
    Pool.Event (Critical K S ε α) C) → Pool (Critical K S ε α) (Guarded σ) → Prop :=
  Pool.Run (step body h) (fun p => ∃ k, p = waits k) ⟨false, start⟩

end Step

variable {body : K → Prog S ε α} {h : Handler S C σ}

/-- Who holds the lock: nobody, or the one party that is in its section. -/
def Holds (body : K → Prog S ε α) (h : Handler S C σ) (s : Pool (Critical K S ε α) (Guarded σ))
    (last : σ) : Prop :=
  s.shared = ⟨false, last⟩ ∧ (∀ p ∈ s.parties, ¬p.IsInside) ∨
  ∃ (i : ℕ) (k : K) (left : Prog S ε α), s.shared.taken = true ∧
    s.parties[i]? = some (inside k left) ∧
    Prog.Reaches h (Env.alone C σ) (body k) last left s.shared.state ∧
    ∀ j (p : Critical K S ε α), s.parties[j]? = some p → p.IsInside → j = i

/-- All that a step can do. -/
lemma step_cases {c : C} {p p' : Critical K S ε α} {s s' : Guarded σ}
    (hs : step body h c p s = some (p', s')) :
    (∃ k, p = waits k ∧ s.taken = false ∧ p' = inside k (body k) ∧ s' = ⟨true, s.state⟩) ∨
    (∃ k β, ∃ (o : S β) (rest : β → Prog S ε α), p = inside k (.call o rest) ∧
      p' = inside k (rest (h _ o c s.state).1) ∧ s' = ⟨s.taken, (h _ o c s.state).2⟩) ∨
    ∃ k left r, p = inside k left ∧ left.result? = some r ∧ p' = done k r ∧
      s' = ⟨false, s.state⟩ := by
  cases p with
  | waits k =>
    rw [step] at hs
    split at hs
    · cases hs
    · rename_i hfree
      cases hs
      exact .inl ⟨k, rfl, by simpa using hfree, rfl, rfl⟩
  | inside k left =>
    cases left with
    | ret a =>
      cases hs
      exact .inr (.inr ⟨k, _, _, rfl, rfl, rfl, rfl⟩)
    | fail e =>
      cases hs
      exact .inr (.inr ⟨k, _, _, rfl, rfl, rfl, rfl⟩)
    | call o rest =>
      cases hs
      exact .inr (.inl ⟨k, _, o, rest, rfl, rfl, rfl⟩)
  | done k r => cases hs

section Run

variable {parties : List (Critical K S ε α)} {s : Guarded σ} {start last : σ} {i : ℕ} {k : K}

lemma getElem?_set_of_some {p : Critical K S ε α} (hp : parties[i]? = some p)
    (p' : Critical K S ε α) (j : ℕ) :
    (parties.set i p')[j]? = if i = j then some p' else parties[j]? := by
  obtain ⟨hi, -⟩ := List.getElem?_eq_some_iff.mp hp
  rw [List.getElem?_set]
  simp [hi]

lemma Holds.free (hholds : Holds body h ⟨parties, s⟩ last) (hs : s.taken = false) :
    s = ⟨false, last⟩ ∧ ∀ p ∈ parties, ¬p.IsInside := by
  rcases hholds with hfree | ⟨i, k, left, htaken, -⟩
  · exact hfree
  · rw [hs] at htaken
    cases htaken

/-- Only the party in its section holds the lock. -/
lemma Holds.held {left : Prog S ε α} (hholds : Holds body h ⟨parties, s⟩ last)
    (hp : parties[i]? = some (inside k left)) : s.taken = true ∧
      Prog.Reaches h (Env.alone C σ) (body k) last left s.state ∧
      ∀ j (p : Critical K S ε α), parties[j]? = some p → p.IsInside → j = i := by
  rcases hholds with ⟨-, hnone⟩ | ⟨i', k', left', htaken, hp', hreach, honly⟩
  · exact absurd trivial (hnone _ (List.mem_of_getElem? hp))
  · obtain rfl := honly i _ hp trivial
    obtain ⟨rfl, rfl⟩ : k = k' ∧ left = left' := by simpa [hp] using hp'
    exact ⟨htaken, hreach, honly⟩

lemma Holds.enter (hholds : Holds body h ⟨parties, s⟩ last) :
    Holds body h ⟨parties ++ [waits k], s⟩ last := by
  rcases hholds with ⟨hs, hnone⟩ | ⟨i, k', left, htaken, hp, hreach, honly⟩
  · refine .inl ⟨hs, fun p hp => ?_⟩
    rcases List.mem_append.mp hp with hp | hp
    · exact hnone p hp
    · rw [List.mem_singleton.mp hp]
      exact id
  · refine .inr ⟨i, k', left, htaken, ?_, hreach, fun j p hj hinside => ?_⟩
    · exact List.getElem?_append_left (List.getElem?_eq_some_iff.mp hp).1 ▸ hp
    · by_cases hlt : j < parties.length
      · exact honly j p (List.getElem?_append_left hlt ▸ hj) hinside
      · rw [List.getElem?_append_right (Nat.le_of_not_lt hlt)] at hj
        rw [List.mem_singleton.mp (List.mem_of_getElem? hj)] at hinside
        cases hinside

lemma Holds.take (hholds : Holds body h ⟨parties, s⟩ last) (hs : s.taken = false)
    (hp : parties[i]? = some (waits k)) :
    Holds body h ⟨parties.set i (inside k (body k)), ⟨true, s.state⟩⟩ last := by
  obtain ⟨rfl, hnone⟩ := hholds.free hs
  refine .inr ⟨i, k, body k, rfl, ?_, .here _ _, fun j p hj hinside => ?_⟩
  · rw [getElem?_set_of_some hp, if_pos rfl]
  · rw [getElem?_set_of_some hp] at hj
    split at hj
    · rename_i heq
      exact heq.symm
    · exact absurd hinside (hnone p (List.mem_of_getElem? hj))

lemma Holds.move {β : Type} {o : S β} {rest : β → Prog S ε α}
    (hholds : Holds body h ⟨parties, s⟩ last) (hp : parties[i]? = some (inside k (.call o rest)))
    (c : C) : Holds body h ⟨parties.set i (inside k (rest (h _ o c s.state).1)),
      ⟨s.taken, (h _ o c s.state).2⟩⟩ last := by
  obtain ⟨htaken, hreach, honly⟩ := hholds.held hp
  refine .inr ⟨i, k, _, htaken, ?_, hreach.trans (.call rfl trivial (.here _ _)), ?_⟩
  · rw [getElem?_set_of_some hp, if_pos rfl]
  · intro j p hj hinside
    rw [getElem?_set_of_some hp] at hj
    split at hj
    · rename_i heq
      exact heq.symm
    · exact honly j p hj hinside

lemma Holds.give {left : Prog S ε α} {r : Except ε α} (hholds : Holds body h ⟨parties, s⟩ last)
    (hp : parties[i]? = some (inside k left)) (hr : left.result? = some r) :
    (body k).Outcome h (Env.alone C σ) last r s.state ∧
      Holds body h ⟨parties.set i (done k r), ⟨false, s.state⟩⟩ s.state := by
  obtain ⟨htaken, hreach, honly⟩ := hholds.held hp
  rw [Prog.ofExcept_of_result? hr] at hreach
  refine ⟨Prog.outcome_iff_reaches.mpr hreach, .inl ⟨rfl, fun p hp' hinside => ?_⟩⟩
  obtain ⟨j, hj⟩ := List.mem_iff_getElem?.mp hp'
  rw [getElem?_set_of_some hp] at hj
  split at hj
  · cases hj
    exact hinside
  · rename_i hne
    exact hne (honly j p hj hinside).symm

/-- The sections that have been given back are those of the parties that are done. -/
def Accounts (parties : List (Critical K S ε α)) (past : List (ℕ × K × Except ε α)) : Prop :=
  (past.map Prod.fst).Nodup ∧
    ∀ i k r, parties[i]? = some (done k r) ↔ (i, k, r) ∈ past

variable {past : List (ℕ × K × Except ε α)}

lemma Accounts.enter (haccounts : Accounts parties past) :
    Accounts (parties ++ [waits k]) past := by
  refine ⟨haccounts.1, fun i k' r => ?_⟩
  rw [← haccounts.2]
  by_cases hlt : i < parties.length
  · rw [List.getElem?_append_left hlt]
  · have hle := Nat.le_of_not_lt hlt
    rw [List.getElem?_append_right hle, List.getElem?_eq_none hle, List.getElem?_singleton]
    split <;> simp

/-- A party that goes on does not change the account. -/
lemma Accounts.move {p p' : Critical K S ε α} (haccounts : Accounts parties past)
    (hp : parties[i]? = some p) (hbefore : ∀ k r, p ≠ done k r) (hafter : ∀ k r, p' ≠ done k r) :
    Accounts (parties.set i p') past := by
  refine ⟨haccounts.1, fun j k r => ?_⟩
  rw [← haccounts.2, getElem?_set_of_some hp]
  split
  · rename_i heq
    rw [← heq, hp]
    simp [hbefore, hafter]
  · rfl

lemma Accounts.give {left : Prog S ε α} (haccounts : Accounts parties past)
    (hp : parties[i]? = some (inside k left)) (r : Except ε α) :
    Accounts (parties.set i (done k r)) (past ++ [(i, k, r)]) := by
  have hnew : ∀ k r, (i, k, r) ∉ past := by
    intro k' r' hmem
    rw [← haccounts.2, hp] at hmem
    cases hmem
  refine ⟨?_, fun j k' r' => ?_⟩
  · rw [List.map_append, List.nodup_append]
    refine ⟨haccounts.1, List.pairwise_singleton _ _, ?_⟩
    rintro j hj _ hi rfl
    obtain ⟨⟨j, k', r'⟩, hmem, rfl⟩ := List.mem_map.mp hj
    obtain rfl := List.mem_singleton.mp hi
    exact hnew k' r' hmem
  · rw [List.mem_append, List.mem_singleton, ← haccounts.2, getElem?_set_of_some hp]
    split
    · rename_i heq
      subst heq
      simp [hp, eq_comm]
    · rename_i hne
      simp [Ne.symm hne]

/-- However the steps are interleaved, the sections have been carried out one after the other, in the
order in which the lock was given back, each once, and the one that is under way has begun where the
last of them has ended. -/
theorem Run.inTurn {history : List (Pool (Critical K S ε α) (Guarded σ) ×
      Pool.Event (Critical K S ε α) C)} {s : Pool (Critical K S ε α) (Guarded σ)}
    (hrun : Run body h start history s) :
    ∃ last, InTurn body h start (history.filterMap finished) last ∧ Holds body h s last ∧
      Accounts s.parties (history.filterMap finished) := by
  induction hrun with
  | start => exact ⟨start, .start, .inl ⟨rfl, by simp⟩, List.nodup_nil, by simp⟩
  | @next history s s' e hrun he hs ih =>
    obtain ⟨last, hturn, hholds, haccounts⟩ := ih
    rw [List.filterMap_append]
    obtain ⟨p, rfl, rfl⟩ | ⟨i, c, p, p', shared', rfl, hp, hstep, rfl⟩ := Pool.next_cases hs
    · obtain ⟨k, rfl⟩ := he p rfl
      rw [show [(s, Pool.Event.enter (waits k))].filterMap (finished (C := C)) = [] from rfl,
        List.append_nil]
      exact ⟨last, hturn, hholds.enter, haccounts.enter⟩
    · obtain ⟨k, rfl, hfree, rfl, rfl⟩ | ⟨k, β, o, rest, rfl, rfl, rfl⟩ |
        ⟨k, left, r, rfl, hr, rfl, rfl⟩ := step_cases hstep
      · refine ⟨last, ?_, hholds.take hfree hp, ?_⟩
        · simpa [finished, hp] using hturn
        · simpa [finished, hp] using haccounts.move hp (by simp) (by simp)
      · refine ⟨last, ?_, hholds.move hp c, ?_⟩
        · simpa [finished, hp, Prog.result?] using hturn
        · simpa [finished, hp, Prog.result?] using haccounts.move hp (by simp) (by simp)
      · obtain ⟨hout, hholds⟩ := hholds.give hp hr
        have hfinished : [(s, (Pool.Event.move i c : Pool.Event (Critical K S ε α) C))].filterMap
            finished = [(i, k, r)] := by
          simp [finished, hp, hr]
        rw [hfinished]
        exact ⟨_, hturn.next i hout, hholds, haccounts.give hp r⟩

end Run

end Critical

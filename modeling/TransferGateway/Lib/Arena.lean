import Mathlib.Data.List.Induction
import Mathlib.Data.Set.Card
import Mathlib.Data.Set.Insert
import Mathlib.Logic.Function.Basic

/-!
# Trees in an arena

Nodes are natural numbers, allocated in order, and an edge is an entry of a partial table
`child : ℕ → α → Option ℕ`. A word over the labels is a walk from the root `0`. The table is a
tree on the first `n` numbers when edges point forward and every node but the root has exactly
one parent; walks are then injective, so marking a node marks exactly one word.
-/

namespace Arena

variable {α : Type*}

/-- The labelled edges of an arena. -/
abbrev Edges (α : Type*) := ℕ → α → Option ℕ

/-- Follow a word from a node. -/
def walk (child : Edges α) : ℕ → List α → Option ℕ
  | i, []     => some i
  | i, a :: w => (child i a).bind fun j => walk child j w

@[simp] lemma walk_nil (child : Edges α) (i : ℕ) : walk child i [] = some i := rfl

@[simp] lemma walk_cons (child : Edges α) (i : ℕ) (a : α) (w : List α) :
    walk child i (a :: w) = (child i a).bind fun j => walk child j w := rfl

lemma walk_append (child : Edges α) (i : ℕ) (u v : List α) :
    walk child i (u ++ v) = (walk child i u).bind fun j => walk child j v := by
  induction u generalizing i with
  | nil => rfl
  | cons a u ih => cases h : child i a <;> simp [h, ih]

lemma walk_snoc (child : Edges α) (i : ℕ) (u : List α) (a : α) :
    walk child i (u ++ [a]) = (walk child i u).bind fun j => child j a := by
  simp [walk_append]

/-- The table is a tree on the nodes `0, …, n - 1`, with root `0`. -/
structure IsTree (child : Edges α) (n : ℕ) : Prop where
  pos : 0 < n
  lt : ∀ {i a j}, child i a = some j → i < j
  bound : ∀ {i a j}, child i a = some j → j < n
  unique : ∀ {i j a b k}, child i a = some k → child j b = some k → i = j ∧ a = b
  parent : ∀ {k}, 0 < k → k < n → ∃ i a, child i a = some k

/-- The arena with only a root. -/
lemma isTree_root : IsTree (fun _ _ => none : Edges α) 1 where
  pos := Nat.one_pos
  lt h := by simp at h
  bound h := by simp at h
  unique h := by simp at h
  parent h h' := by omega

section Tree

variable {child : Edges α} {n : ℕ} (h : IsTree child n)
include h

lemma IsTree.walk_lt {i : ℕ} {w : List α} {k : ℕ} (hi : i < n) (hw : walk child i w = some k) :
    k < n := by
  induction w generalizing i with
  | nil => simp_all
  | cons a w ih =>
    obtain ⟨j, hj, hk⟩ := Option.bind_eq_some_iff.mp hw
    exact ih (h.bound hj) hk

/-- No edge leaves a node that is not allocated yet. -/
lemma IsTree.child_eq_none {i : ℕ} (hi : n ≤ i) (a : α) : child i a = none := by
  cases hc : child i a with
  | none => rfl
  | some j =>
    have := h.lt hc
    have := h.bound hc
    omega

/-- Two words that lead from the root to the same node are equal. -/
theorem IsTree.walk_injective {v w : List α} {k : ℕ} (hv : walk child 0 v = some k)
    (hw : walk child 0 w = some k) : v = w := by
  -- induction on the last letter: parents are unique and the root has none
  induction v using List.reverseRecOn generalizing w k with
  | nil =>
    cases w using List.reverseRecOn with
    | nil => rfl
    | append_singleton w b =>
      rw [walk_snoc] at hw
      obtain ⟨j, -, hj⟩ := Option.bind_eq_some_iff.mp hw
      have := h.lt hj
      simp only [walk_nil, Option.some.injEq] at hv
      omega
  | append_singleton v a ih =>
    rw [walk_snoc] at hv
    obtain ⟨i, hi, hik⟩ := Option.bind_eq_some_iff.mp hv
    cases w using List.reverseRecOn with
    | nil =>
      have := h.lt hik
      simp only [walk_nil, Option.some.injEq] at hw
      omega
    | append_singleton w b =>
      rw [walk_snoc] at hw
      obtain ⟨j, hj, hjk⟩ := Option.bind_eq_some_iff.mp hw
      obtain ⟨rfl, rfl⟩ := h.unique hik hjk
      rw [ih hi hj]

/-- A word leads to every node. -/
theorem IsTree.exists_walk {k : ℕ} (hk : k < n) : ∃ w, walk child 0 w = some k := by
  induction k using Nat.strongRecOn with
  | _ k ih =>
    rcases Nat.eq_zero_or_pos k with rfl | hpos
    · exact ⟨[], rfl⟩
    · obtain ⟨i, a, hi⟩ := h.parent hpos hk
      have hlt := h.lt hi
      obtain ⟨w, hw⟩ := ih i hlt (hlt.trans hk)
      exact ⟨w ++ [a], by rw [walk_snoc, hw]; exact hi⟩

end Tree

/-! ### Linking a fresh node -/

variable [DecidableEq α]

/-- Add the edge `i -a-> n`. -/
def link (child : Edges α) (i : ℕ) (a : α) (n : ℕ) : Edges α :=
  fun j b => if j = i ∧ b = a then some n else child j b

lemma link_self (child : Edges α) (i : ℕ) (a : α) (n : ℕ) : link child i a n i a = some n := by
  simp [link]

section Link

variable {child : Edges α} {n i : ℕ} {a : α}

lemma IsTree.link (h : IsTree child n) (hi : i < n) (ha : child i a = none) :
    IsTree (link child i a n) (n + 1) where
  pos := Nat.succ_pos n
  lt := by
    intro j b k hk
    simp only [Arena.link] at hk
    split_ifs at hk with hji
    · simp only [Option.some.injEq] at hk
      omega
    · exact h.lt hk
  bound := by
    intro j b k hk
    simp only [Arena.link] at hk
    split_ifs at hk with hji
    · simp only [Option.some.injEq] at hk
      omega
    · have := h.bound hk
      omega
  unique := by
    intro j j' b b' k hk hk'
    simp only [Arena.link] at hk hk'
    split_ifs at hk hk' with h₁ h₂ h₂
    · exact ⟨h₁.1.trans h₂.1.symm, h₁.2.trans h₂.2.symm⟩
    · simp only [Option.some.injEq] at hk
      have := h.bound hk'
      omega
    · simp only [Option.some.injEq] at hk'
      have := h.bound hk
      omega
    · exact h.unique hk hk'
  parent := by
    intro k hpos hk
    rcases Nat.lt_succ_iff_lt_or_eq.mp hk with hlt | rfl
    · obtain ⟨j, b, hj⟩ := h.parent hpos hlt
      refine ⟨j, b, ?_⟩
      have hne : ¬ (j = i ∧ b = a) := by
        rintro ⟨rfl, rfl⟩
        simp [ha] at hj
      simp [Arena.link, hne, hj]
    · exact ⟨i, a, link_self child i a k⟩

/-- Old walks survive. -/
lemma walk_link_of_walk (ha : child i a = none) {j : ℕ} {w : List α} {k : ℕ}
    (hw : walk child j w = some k) : walk (link child i a n) j w = some k := by
  induction w generalizing j with
  | nil => exact hw
  | cons b w ih =>
    obtain ⟨m, hm, hk⟩ := Option.bind_eq_some_iff.mp hw
    have hne : ¬ (j = i ∧ b = a) := by
      rintro ⟨rfl, rfl⟩
      simp [ha] at hm
    simp [link, hne, hm, ih hk]

/-- The only new walk from the root is the one that ends with the new edge. -/
lemma IsTree.walk_link_iff (h : IsTree child n) (hi : i < n) (ha : child i a = none)
    {w : List α} {k : ℕ} :
    walk (Arena.link child i a n) 0 w = some k ↔
      walk child 0 w = some k ∨ k = n ∧ ∃ u, walk child 0 u = some i ∧ w = u ++ [a] := by
  constructor
  · intro hw
    induction w using List.reverseRecOn generalizing k with
    | nil => exact Or.inl hw
    | append_singleton u b ih =>
      rw [walk_snoc] at hw
      obtain ⟨m, hm, hk⟩ := Option.bind_eq_some_iff.mp hw
      rcases ih hm with hold | ⟨rfl, -⟩
      · simp only [Arena.link] at hk
        split_ifs at hk with hmi
        · obtain ⟨rfl, rfl⟩ := hmi
          simp only [Option.some.injEq] at hk
          exact Or.inr ⟨hk.symm, u, hold, rfl⟩
        · exact Or.inl (by rw [walk_snoc, hold]; exact hk)
      · -- no edge leaves the fresh node
        have hmi : ¬ (m = i ∧ b = a) := by rintro ⟨rfl, -⟩; omega
        simp [Arena.link, hmi, h.child_eq_none le_rfl] at hk
  · rintro (hw | ⟨rfl, u, hu, rfl⟩)
    · exact walk_link_of_walk ha hw
    · rw [walk_snoc, walk_link_of_walk ha hu]
      exact link_self child i a k

end Link

/-! ### Marked words -/

/-- The words that lead from the root to a marked node. -/
def marked (child : Edges α) (mark : ℕ → Bool) : Set (List α) :=
  {w | ∃ k, walk child 0 w = some k ∧ mark k = true}

/-- Linking an unmarked node marks no word. -/
lemma marked_link {child : Edges α} {n i : ℕ} {a : α} {mark : ℕ → Bool} (h : IsTree child n)
    (hi : i < n) (ha : child i a = none) (hn : mark n = false) :
    marked (link child i a n) mark = marked child mark := by
  ext w
  constructor
  · rintro ⟨k, hk, hm⟩
    rcases (h.walk_link_iff hi ha).mp hk with hold | ⟨rfl, -⟩
    · exact ⟨k, hold, hm⟩
    · simp [hn] at hm
  · rintro ⟨k, hk, hm⟩
    exact ⟨k, walk_link_of_walk ha hk, hm⟩

omit [DecidableEq α] in
/-- Marking the node a word leads to marks that word and no other. -/
lemma marked_update {child : Edges α} {n k : ℕ} {w : List α} {mark : ℕ → Bool}
    (h : IsTree child n) (hw : walk child 0 w = some k) :
    marked child (Function.update mark k true) = insert w (marked child mark) := by
  ext v
  rw [Set.mem_insert_iff]
  constructor
  · rintro ⟨j, hj, hm⟩
    by_cases hjk : j = k
    · subst hjk
      exact Or.inl (h.walk_injective hj hw)
    · rw [Function.update_of_ne hjk] at hm
      exact Or.inr ⟨j, hj, hm⟩
  · rintro (rfl | ⟨j, hj, hm⟩)
    · exact ⟨k, hw, by simp⟩
    · refine ⟨j, hj, ?_⟩
      by_cases hjk : j = k
      · subst hjk; simp
      · rwa [Function.update_of_ne hjk]

omit [DecidableEq α] in
/-- As many words as nodes are marked. -/
lemma IsTree.ncard_marked {child : Edges α} {n : ℕ} (h : IsTree child n) (mark : ℕ → Bool) :
    (marked child mark).ncard = ((Finset.range n).filter fun k => mark k).card := by
  choose! path hpath using fun k (hk : k < n) => h.exists_walk hk
  have himage : marked child mark = path '' ((Finset.range n).filter fun k => mark k) := by
    ext w
    simp only [marked, Set.mem_ofPred_eq, Set.mem_image, Finset.mem_coe, Finset.mem_filter,
      Finset.mem_range]
    constructor
    · rintro ⟨k, hw, hk⟩
      have hlt := h.walk_lt h.pos hw
      exact ⟨k, ⟨hlt, hk⟩, h.walk_injective (hpath k hlt) hw⟩
    · rintro ⟨k, ⟨hlt, hk⟩, rfl⟩
      exact ⟨k, hpath k hlt, hk⟩
  have hinjective : Set.InjOn path ((Finset.range n).filter fun k => mark k) := by
    intro i hi j hj hij
    simp only [Finset.mem_coe, Finset.mem_filter, Finset.mem_range] at hi hj
    exact Option.some.inj ((hpath i hi.1).symm.trans (hij ▸ hpath j hj.1))
  rw [himage, hinjective.ncard_image, Set.ncard_coe_finset]

end Arena

import Mathlib.Data.List.MinMax
import Mathlib.Data.List.Infix

/-!
# The first of the greatest elements

`List.argmax` keeps the first of the elements with the greatest value. Elements that others stand
above may come and go, and elements of different values may change places.
-/

namespace Argmax

variable {α β : Type*} [LinearOrder β] {f : α → β} {l l' : List α} {m : α}

/-- The element is greater than those before it, and at least as great as those after it. -/
def IsFirst (f : α → β) (l : List α) (m : α) : Prop :=
  ∃ before after, l = before ++ m :: after ∧ (∀ a ∈ before, f a < f m) ∧ ∀ a ∈ after, f a ≤ f m

lemma IsFirst.le (h : IsFirst f l m) {a : α} (ha : a ∈ l) : f a ≤ f m := by
  obtain ⟨before, after, rfl, hbefore, hafter⟩ := h
  rcases List.mem_append.mp ha with ha | ha
  · exact (hbefore a ha).le
  · rcases List.mem_cons.mp ha with rfl | ha
    · exact le_refl _
    · exact hafter a ha

lemma isFirst_of_argmax (h : l.argmax f = some m) : IsFirst f l m := by
  induction l using List.reverseRecOn generalizing m with
  | nil => cases h
  | append_singleton l a ih =>
    rw [List.argmax_concat] at h
    cases hl : l.argmax f with
    | none =>
      obtain rfl := List.argmax_eq_none.mp hl
      rw [hl] at h
      cases h
      exact ⟨[], [], rfl, by simp, by simp⟩
    | some c =>
      rw [hl] at h
      dsimp only at h
      split at h
      · rename_i hlt
        cases h
        exact ⟨l, [], rfl, fun b hb => ((ih hl).le hb).trans_lt hlt, by simp⟩
      · rename_i hle
        cases h
        obtain ⟨before, after, hsplit, hbefore, hafter⟩ := ih hl
        refine ⟨before, after ++ [a], by simp [hsplit], hbefore, ?_⟩
        simpa [or_imp, forall_and] using And.intro hafter (not_lt.mp hle)

/-- The first elements of a value come in the same order as in the list of them. -/
lemma IsFirst.head?_filter (h : IsFirst f l m) :
    (l.filter fun a => f a = f m).head? = some m := by
  obtain ⟨before, after, rfl, hbefore, -⟩ := h
  have hnone : (before.filter fun a => f a = f m) = [] :=
    List.filter_eq_nil_iff.mpr fun a ha => by simpa using (hbefore a ha).ne
  simp [hnone]

/-- Lists with the same elements of each value, in the same order, have the same first. -/
lemma argmax_congr (h : ∀ b, (l.filter fun a => f a = b) = l'.filter fun a => f a = b) :
    l.argmax f = l'.argmax f := by
  have hmem : ∀ a, a ∈ l ↔ a ∈ l' := by
    intro a
    simpa using congrArg (a ∈ ·) (h (f a))
  cases hm : l.argmax f with
  | none =>
    obtain rfl := List.argmax_eq_none.mp hm
    refine (List.argmax_eq_none.mpr ?_).symm
    exact List.eq_nil_iff_forall_not_mem.mpr fun a ha => by simpa using (hmem a).mpr ha
  | some m =>
    cases hm' : l'.argmax f with
    | none =>
      obtain rfl := List.argmax_eq_none.mp hm'
      simpa using (hmem m).mp (List.argmax_mem hm)
    | some m' =>
      have hfirst := isFirst_of_argmax hm
      have hfirst' := isFirst_of_argmax hm'
      have heq : f m = f m' := le_antisymm (hfirst'.le ((hmem m).mp (List.argmax_mem hm)))
        (hfirst.le ((hmem m').mpr (List.argmax_mem hm')))
      rw [← hfirst.head?_filter, ← hfirst'.head?_filter, h, heq]

lemma argmax_eq_some_iff : l.argmax f = some m ↔ IsFirst f l m := by
  refine ⟨isFirst_of_argmax, fun h => ?_⟩
  cases hm : l.argmax f with
  | none =>
    obtain rfl := List.argmax_eq_none.mp hm
    obtain ⟨before, after, hnil, -⟩ := h
    simp at hnil
  | some m' =>
    have hfirst := isFirst_of_argmax hm
    obtain ⟨before, after, hsplit, -⟩ := id h
    have hmem : m ∈ l := by simp [hsplit]
    have heq : f m' = f m := le_antisymm (h.le (List.argmax_mem hm)) (hfirst.le hmem)
    rw [← h.head?_filter, ← hfirst.head?_filter, heq]

/-- Of the elements around a place, one stands above what is put there. -/
def Above (f : α → β) (front back : List α) (a : α) : Prop :=
  (∃ b ∈ front ++ back, f a < f b) ∨ ∃ b ∈ front, f a ≤ f b

lemma argmax_insert {front back : List α} {a : α} (h : Above f front back a) :
    (front ++ a :: back).argmax f = (front ++ back).argmax f := by
  cases hm : (front ++ back).argmax f with
  | none =>
    rw [List.argmax_eq_none, List.append_eq_nil_iff] at hm
    simp [Above, hm] at h
  | some m =>
    have hle : ∀ b ∈ front ++ back, f b ≤ f m := fun b hb => (isFirst_of_argmax hm).le hb
    have hale : f a ≤ f m := by
      rcases h with ⟨b, hb, hlt⟩ | ⟨b, hb, hab⟩
      · exact hlt.le.trans (hle b hb)
      · exact hab.trans (hle b (List.mem_append_left _ hb))
    obtain ⟨before, after, hsplit, hbefore, hafter⟩ := isFirst_of_argmax hm
    -- what stands before `m` is below it, and so is `a` if it comes there
    have hlt : (∀ b ∈ front, f b < f m) → f a < f m := by
      intro hfront
      rcases h with ⟨b, hb, hlt⟩ | ⟨b, hb, hab⟩
      · exact hlt.trans_le (hle b hb)
      · exact hab.trans_lt (hfront b hb)
    rw [argmax_eq_some_iff]
    rcases List.append_eq_append_iff.mp hsplit with ⟨rest, rfl, rfl⟩ | ⟨rest, rfl, hrest⟩
    · have hfront : ∀ b ∈ front, f b < f m := fun b hb => hbefore b (List.mem_append_left _ hb)
      refine ⟨front ++ a :: rest, after, by simp, ?_, hafter⟩
      intro b hb
      rcases List.mem_append.mp hb with hb | hb
      · exact hfront b hb
      · rcases List.mem_cons.mp hb with rfl | hb
        · exact hlt hfront
        · exact hbefore b (List.mem_append_right _ hb)
    · cases rest with
      | nil =>
        obtain rfl : back = m :: after := by simpa using hrest.symm
        refine ⟨before ++ [a], after, by simp, ?_, hafter⟩
        intro b hb
        rcases List.mem_append.mp hb with hb | hb
        · exact hbefore b hb
        · obtain rfl := List.mem_singleton.mp hb
          exact hlt (by simpa using hbefore)
      | cons c rest =>
        obtain ⟨rfl, rfl⟩ := List.cons.inj hrest
        refine ⟨before, rest ++ a :: back, by simp, hbefore, ?_⟩
        intro b hb
        rcases List.mem_append.mp hb with hb | hb
        · exact hafter b (List.mem_append_left _ hb)
        · rcases List.mem_cons.mp hb with rfl | hb
          · exact hale
          · exact hafter b (List.mem_append_right _ hb)

/-- Elements of different values may change places. -/
lemma argmax_permute {front middle middle' back : List α} (hperm : middle.Perm middle')
    (hdistinct : middle.Pairwise fun a b => f a ≠ f b) :
    (front ++ middle' ++ back).argmax f = (front ++ middle ++ back).argmax f := by
  apply argmax_congr
  intro b
  have hshort : ∀ {l : List α}, l.Pairwise (fun a b => f a ≠ f b) →
      (l.filter fun a => f a = b).length ≤ 1 := by
    intro l hl
    have hfilter := hl.filter fun a => decide (f a = b)
    by_contra hlong
    rw [List.pairwise_iff_getElem] at hfilter
    apply hfilter 0 1 (by omega) (by omega) Nat.one_pos
    have heq : ∀ a ∈ l.filter fun a => f a = b, f a = b := by simp
    rw [heq _ (List.getElem_mem _), heq _ (List.getElem_mem _)]
  have hfilter : (middle'.filter fun a => f a = b) = middle.filter fun a => f a = b := by
    have hperm' := hperm.filter fun a => decide (f a = b)
    have hlen := hshort hdistinct
    generalize (middle.filter fun a => f a = b) = kept at hperm' hlen
    cases kept with
    | nil => exact List.nil_perm.mp hperm'
    | cons a rest =>
      obtain rfl : rest = [] := by simpa using hlen
      exact (List.singleton_perm.mp hperm').symm
  simp only [List.filter_append, hfilter]

/-! ### Among the elements that pass a test -/

section Filter

variable {p : α → Bool}

lemma isFirst_filter_iff : IsFirst f (l.filter p) m ↔
    ∃ before after, l = before ++ m :: after ∧ p m = true ∧
      (∀ a ∈ before, p a = true → f a < f m) ∧ ∀ a ∈ after, p a = true → f a ≤ f m := by
  constructor
  · rintro ⟨before, after, hsplit, hbefore, hafter⟩
    obtain ⟨front, back, rfl, rfl, hback⟩ := List.filter_eq_append_iff.mp hsplit
    obtain ⟨skipped, rest, rfl, hskipped, hm, rfl⟩ := List.filter_eq_cons_iff.mp hback
    refine ⟨front ++ skipped, rest, by simp, hm, ?_, ?_⟩
    · intro a ha hp
      rcases List.mem_append.mp ha with ha | ha
      · exact hbefore a (List.mem_filter.mpr ⟨ha, hp⟩)
      · exact absurd hp (hskipped a ha)
    · exact fun a ha hp => hafter a (List.mem_filter.mpr ⟨ha, hp⟩)
  · rintro ⟨before, after, rfl, hm, hbefore, hafter⟩
    refine ⟨before.filter p, after.filter p, by simp [hm], ?_, ?_⟩
    · intro a ha
      exact hbefore a (List.mem_of_mem_filter ha) (List.of_mem_filter ha)
    · intro a ha
      exact hafter a (List.mem_of_mem_filter ha) (List.of_mem_filter ha)

/-- The first of the greatest among the elements that pass the test. -/
def best (f : α → β) (p : α → Bool) (l : List α) : Option α :=
  (l.filter p).argmax f

lemma best_eq_none : best f p l = none ↔ ∀ a ∈ l, p a = false := by
  simp [best, List.filter_eq_nil_iff]

lemma best_eq_some_iff : best f p l = some m ↔
    ∃ before after, l = before ++ m :: after ∧ p m = true ∧
      (∀ a ∈ before, p a = true → f a < f m) ∧ ∀ a ∈ after, p a = true → f a ≤ f m :=
  argmax_eq_some_iff.trans isFirst_filter_iff

/-- A stricter test makes no difference as long as the first of the greatest passes it. -/
lemma best_eq_of_imp {q : α → Bool} (himp : ∀ a ∈ l, q a = true → p a = true)
    (h : ∀ a, best f p l = some a → q a = true) : best f q l = best f p l := by
  cases hbest : best f p l with
  | none =>
    rw [best_eq_none] at hbest ⊢
    intro a ha
    by_contra hq
    have hp := himp a ha (by simpa using hq)
    rw [hbest a ha] at hp
    cases hp
  | some m =>
    obtain ⟨before, after, rfl, -, hbefore, hafter⟩ := best_eq_some_iff.mp hbest
    refine best_eq_some_iff.mpr ⟨before, after, rfl, h m hbest, ?_, ?_⟩
    · intro a ha hq
      exact hbefore a ha (himp a (by simp [ha]) hq)
    · intro a ha hq
      exact hafter a ha (himp a (by simp [ha]) hq)

/-- The element fails the test, or one that passes it stands above it. -/
def Idle (f : α → β) (p : α → Bool) (front back : List α) (a : α) : Prop :=
  p a = false ∨ (∃ b ∈ front ++ back, p b = true ∧ f a < f b) ∨
    ∃ b ∈ front, p b = true ∧ f a ≤ f b

lemma best_insert {front back : List α} {a : α} (h : Idle f p front back a) :
    best f p (front ++ a :: back) = best f p (front ++ back) := by
  rw [best, best, List.filter_append, List.filter_append, List.filter_cons]
  split
  · rename_i hp
    apply argmax_insert
    rcases h with hfalse | ⟨b, hb, hpb, hlt⟩ | ⟨b, hb, hpb, hle⟩
    · rw [hp] at hfalse
      cases hfalse
    · refine .inl ⟨b, ?_, hlt⟩
      rw [← List.filter_append]
      exact List.mem_filter.mpr ⟨hb, hpb⟩
    · exact .inr ⟨b, List.mem_filter.mpr ⟨hb, hpb⟩, hle⟩
  · rfl

/-- Idle elements come and go, and elements of different values change places. -/
inductive Edited (f : α → β) (p : α → Bool) (l : List α) : List α → Prop
  | refl : Edited f p l l
  | insert (front back : List α) {a : α} (h : Edited f p l (front ++ back))
      (idle : Idle f p front back a) : Edited f p l (front ++ a :: back)
  | remove (front back : List α) {a : α} (h : Edited f p l (front ++ a :: back))
      (idle : Idle f p front back a) : Edited f p l (front ++ back)
  | permute (front : List α) {middle middle' : List α} (back : List α)
      (h : Edited f p l (front ++ middle ++ back))
      (perm : middle.Perm middle') (distinct : middle.Pairwise fun a b => f a ≠ f b) :
      Edited f p l (front ++ middle' ++ back)

/-- The first of the greatest stays the same. -/
theorem Edited.best_eq (h : Edited f p l l') : best f p l' = best f p l := by
  induction h with
  | refl => rfl
  | insert _ _ _ idle ih => exact (best_insert idle).trans ih
  | remove _ _ _ idle ih => exact (best_insert idle).symm.trans ih
  | permute _ _ _ perm distinct ih =>
    rw [← ih]
    simp only [best, List.filter_append]
    exact argmax_permute (perm.filter p) (distinct.filter p)

end Filter

end Argmax

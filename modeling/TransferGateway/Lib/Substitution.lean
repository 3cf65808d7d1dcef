import Mathlib.Data.List.Infix
import Mathlib.Data.List.Flatten
import Mathlib.Data.List.Nodup
import Mathlib.Tactic.Common

/-!
# Substitution in texts

Patterns are substituted by values, all at once or one after the other. In a marked text one sees
what comes from the template and where a value was inserted. The two substitutions agree when each
pattern is found in the template's own letters only.
-/

namespace Substitution

variable {α : Type*}

structure Rule (α : Type*) where
  pattern : List α
  value : List α

section AtOnce

/-! ### At once -/

variable [DecidableEq α]

/-- The first rule whose pattern comes next. -/
def next (σ : List (Rule α)) (text : List α) : Option (Rule α) :=
  σ.find? fun r => r.pattern.isPrefixOf text

/-- The substitution after so many letters that still belong to a pattern. -/
def substituteAfter (σ : List (Rule α)) : ℕ → List α → List α
  | _, [] => []
  | n + 1, _ :: text => substituteAfter σ n text
  | 0, a :: text =>
    match next σ (a :: text) with
    | some r => r.value ++ substituteAfter σ (r.pattern.length - 1) text
    | none => a :: substituteAfter σ 0 text

/-- From left to right, a pattern that comes next is substituted by its value. -/
def substitute (σ : List (Rule α)) (text : List α) : List α := substituteAfter σ 0 text

variable {σ : List (Rule α)} {p v : List α} {r : Rule α}

lemma substituteAfter_eq (n : ℕ) (text : List α) :
    substituteAfter σ n text = substitute σ (text.drop n) := by
  induction text generalizing n with
  | nil => simp [substitute, substituteAfter]
  | cons a text ih =>
    cases n with
    | zero => rfl
    | succ n => rw [substituteAfter, ih, List.drop_succ_cons]

lemma next_eq_none {text : List α} : next σ text = none ↔ ∀ r ∈ σ, ¬r.pattern <+: text := by
  simp [next]

lemma next_eq_some {text : List α} (h : next σ text = some r) : r ∈ σ ∧ r.pattern <+: text := by
  refine ⟨List.mem_of_find?_eq_some h, ?_⟩
  simpa using List.find?_some h

@[simp] lemma substitute_nil (σ : List (Rule α)) : substitute σ [] = [] := rfl

lemma substitute_cons {a : α} {text : List α} (h : next σ (a :: text) = none) :
    substitute σ (a :: text) = a :: substitute σ text := by
  rw [substitute, substituteAfter, h]
  rfl

lemma substitute_append {rest : List α} (hr : r.pattern ≠ [])
    (h : next σ (r.pattern ++ rest) = some r) :
    substitute σ (r.pattern ++ rest) = r.value ++ substitute σ rest := by
  obtain ⟨a, q, hq⟩ := List.exists_cons_of_ne_nil hr
  rw [hq, List.cons_append] at h ⊢
  rw [substitute, substituteAfter, h]
  simp [substituteAfter_eq, hq]

/-- Induction along the substitution: a pattern that comes next, or a letter that is copied. -/
theorem substitute_induction (hσ : ∀ r ∈ σ, r.pattern ≠ []) {motive : List α → Prop}
    (nil : motive [])
    (found : ∀ r rest, next σ (r.pattern ++ rest) = some r → motive rest →
      motive (r.pattern ++ rest))
    (copied : ∀ a rest, next σ (a :: rest) = none → motive rest → motive (a :: rest))
    (text : List α) : motive text := by
  induction hn : text.length using Nat.strong_induction_on generalizing text with
  | _ n ih =>
    subst hn
    cases text with
    | nil => exact nil
    | cons a rest =>
      cases hnext : next σ (a :: rest) with
      | none => exact copied a rest hnext (ih _ (by simp) _ rfl)
      | some r =>
        obtain ⟨hr, tail, htail⟩ := next_eq_some hnext
        rw [← htail] at hnext ih ⊢
        have hpos := List.length_pos_iff.mpr (hσ r hr)
        exact found r tail hnext (ih _ (by simp; omega) _ rfl)

/-- A part in which no pattern begins is copied. -/
lemma substitute_copied {w rest : List α}
    (h : ∀ s, s ≠ [] → s <:+ w → next σ (s ++ rest) = none) :
    substitute σ (w ++ rest) = w ++ substitute σ rest := by
  induction w with
  | nil => rfl
  | cons a w ih =>
    have hhead : next σ (a :: (w ++ rest)) = none := h (a :: w) (by simp) List.suffix_rfl
    rw [List.cons_append, substitute_cons hhead, List.cons_append]
    rw [ih fun s hs hw => h s hs (hw.trans (List.suffix_cons a w))]

@[simp] lemma substitute_no_rule (text : List α) : substitute [] text = text := by
  induction text with
  | nil => rfl
  | cons a text ih => rw [substitute_cons rfl, ih]

lemma next_single (rest : List α) : next [⟨p, v⟩] (p ++ rest) = some ⟨p, v⟩ := by
  simp [next]

lemma substitute_single_append (hp : p ≠ []) (rest : List α) :
    substitute [⟨p, v⟩] (p ++ rest) = v ++ substitute [⟨p, v⟩] rest :=
  substitute_append (r := ⟨p, v⟩) hp (next_single rest)

end AtOnce

/-! ### One pattern more -/

/-- Where a pattern ends, or a part of it, no other one begins, nor the same one again. -/
def Separate (P : List (List α)) : Prop :=
  ∀ p ∈ P, p ≠ [] ∧ ∀ q ∈ P, ∀ s, s ≠ [] → s <:+ p → (s <+: q ∨ q <+: s) → s = p ∧ q = p

lemma Separate.mono {P Q : List (List α)} (h : Separate Q) (hPQ : P ⊆ Q) : Separate P :=
  fun p hp => ⟨(h p (hPQ hp)).1, fun q hq => (h p (hPQ hp)).2 q (hPQ hq)⟩

lemma Separate.map {β : Type*} {f : α → β} (hf : Function.Injective f) {P : List (List α)}
    (h : Separate P) : Separate (P.map (List.map f)) := by
  rintro _ hmem
  obtain ⟨p, hp, rfl⟩ := List.mem_map.mp hmem
  refine ⟨by simpa using (h p hp).1, ?_⟩
  rintro _ hq' _ hs hsuffix hor
  obtain ⟨q, hq, rfl⟩ := List.mem_map.mp hq'
  obtain ⟨s, hs', rfl⟩ := List.suffix_map_iff.mp hsuffix
  rw [List.prefix_map_iff_of_injective hf, List.prefix_map_iff_of_injective hf] at hor
  obtain ⟨rfl, rfl⟩ := (h p hp).2 q hq s (by simpa using hs) hs' hor
  exact ⟨rfl, rfl⟩

section Extend

variable [DecidableEq α] {σ : List (Rule α)} {p v : List α} {r : Rule α}

/-- A pattern that no rule is about is copied. -/
lemma substitute_pattern_append (hσ : Separate (p :: σ.map Rule.pattern))
    (hp : p ∉ σ.map Rule.pattern) (rest : List α) :
    substitute σ (p ++ rest) = p ++ substitute σ rest := by
  apply substitute_copied
  intro s hs hsuffix
  rw [next_eq_none]
  intro r hr hcomes
  have hmem : r.pattern ∈ σ.map Rule.pattern := List.mem_map_of_mem hr
  have hor := List.prefix_or_prefix_of_prefix hcomes (List.prefix_append s rest)
  have heq := (hσ p (by simp)).2 r.pattern (by simp [hmem]) s hs hsuffix hor.symm
  exact hp (heq.2 ▸ hmem)

/-- Letters that are not in the pattern are copied. -/
lemma substitute_single_foreign {w : List α} (hp : p ≠ []) (hw : ∀ a ∈ w, a ∉ p) (rest : List α) :
    substitute [⟨p, v⟩] (w ++ rest) = w ++ substitute [⟨p, v⟩] rest := by
  apply substitute_copied
  intro s hs hsuffix
  rw [next_eq_none]
  intro r hr hcomes
  obtain rfl := List.mem_singleton.mp hr
  obtain ⟨a, q, rfl⟩ := List.exists_cons_of_ne_nil hp
  obtain ⟨b, s, rfl⟩ := List.exists_cons_of_ne_nil hs
  have hab := (List.cons_prefix_cons.mp hcomes).1
  exact hw b (hsuffix.subset (by simp)) (by simp [hab])

/-- What no value has letters of was there before the substitution. -/
lemma prefix_of_prefix_substitute (hσ : ∀ r ∈ σ, r.pattern ≠ []) {w : List α}
    (hw : ∀ r ∈ σ, r.value ≠ [] ∧ ∀ a ∈ r.value, a ∉ w) {text : List α}
    (h : w <+: substitute σ text) : w <+: text := by
  induction text using substitute_induction hσ generalizing w with
  | nil => exact h
  | found r rest hnext ih =>
    rw [substitute_append (hσ r (next_eq_some hnext).1) hnext] at h
    obtain ⟨hvalue, hforeign⟩ := hw r (next_eq_some hnext).1
    cases w with
    | nil => exact List.nil_prefix
    | cons a w =>
      obtain ⟨b, u, hu⟩ := List.exists_cons_of_ne_nil hvalue
      rw [hu, List.cons_append, List.cons_prefix_cons] at h
      have hnot := hforeign b (by simp [hu])
      simp [h.1] at hnot
  | copied a rest hnext ih =>
    rw [substitute_cons hnext] at h
    cases w with
    | nil => exact List.nil_prefix
    | cons b w =>
      rw [List.cons_prefix_cons] at h ⊢
      refine ⟨h.1, ih ?_ h.2⟩
      intro r hr
      refine ⟨(hw r hr).1, fun c hc hcw => (hw r hr).2 c hc (by simp [hcw])⟩

/-- Where no value has letters of the last pattern, its rule may as well come afterwards. -/
theorem substitute_concat (hσ : Separate ((σ ++ [r]).map Rule.pattern))
    (hr : r.pattern ∉ σ.map Rule.pattern)
    (hvalues : ∀ q ∈ σ, q.value ≠ [] ∧ ∀ a ∈ q.value, a ∉ r.pattern) (text : List α) :
    substitute (σ ++ [r]) text = substitute [r] (substitute σ text) := by
  have hne : ∀ q ∈ σ ++ [r], q.pattern ≠ [] := fun q hq =>
    (hσ q.pattern (List.mem_map_of_mem hq)).1
  have hlast : r.pattern ≠ [] := hne r (by simp)
  induction text using substitute_induction hne with
  | nil => rfl
  | found q rest hnext ih =>
    rw [substitute_append (hne q (next_eq_some hnext).1) hnext, ih]
    rw [next, List.find?_append, Option.or_eq_some_iff] at hnext
    obtain hfirst | ⟨hnone, hfirst⟩ := hnext
    · -- an earlier rule: what it inserts is copied by the last one
      have hq : q ∈ σ := (next_eq_some hfirst).1
      rw [substitute_append (hne q (by simp [hq])) hfirst]
      exact (substitute_single_foreign hlast (hvalues q hq).2 _).symm
    · -- the last rule: its pattern is left as it was by the earlier ones
      obtain rfl := List.mem_singleton.mp (next_eq_some hfirst).1
      have hsep : Separate (q.pattern :: σ.map Rule.pattern) := by
        apply hσ.mono
        simp
      rw [substitute_pattern_append hsep hr, substitute_single_append hlast]
  | copied a rest hnext ih =>
    rw [substitute_cons hnext, ih]
    rw [next_eq_none] at hnext
    have hearlier : next σ (a :: rest) = none :=
      next_eq_none.mpr fun q hq => hnext q (by simp [hq])
    rw [substitute_cons hearlier, substitute_cons]
    rw [next_eq_none]
    intro q hq hcomes
    obtain rfl := List.mem_singleton.mp hq
    rw [← substitute_cons hearlier] at hcomes
    apply hnext q (by simp)
    exact prefix_of_prefix_substitute (fun q hq => hne q (by simp [hq])) hvalues hcomes

end Extend

section Order

variable [DecidableEq α] {σ τ : List (Rule α)} {p v : List α} {r : Rule α}

/-- At most one pattern comes next. -/
lemma next_eq_some_iff (hσ : Separate (σ.map Rule.pattern)) (hnodup : (σ.map Rule.pattern).Nodup)
    {text : List α} : next σ text = some r ↔ r ∈ σ ∧ r.pattern <+: text := by
  refine ⟨next_eq_some, fun ⟨hr, hcomes⟩ => ?_⟩
  cases hnext : next σ text with
  | none => exact absurd hcomes (next_eq_none.mp hnext r hr)
  | some q =>
    obtain ⟨hq, hcomes'⟩ := next_eq_some hnext
    have hmem {q : Rule α} (hq : q ∈ σ) : q.pattern ∈ σ.map Rule.pattern := List.mem_map_of_mem hq
    have hor := List.prefix_or_prefix_of_prefix hcomes hcomes'
    have heq := ((hσ _ (hmem hr)).2 _ (hmem hq) _ (hσ _ (hmem hr)).1 List.suffix_rfl hor).2
    rw [List.inj_on_of_nodup_map hnodup hq hr heq]

/-- At once, the order of the rules does not matter. -/
theorem substitute_perm (hσ : Separate (σ.map Rule.pattern)) (hnodup : (σ.map Rule.pattern).Nodup)
    (h : τ.Perm σ) (text : List α) : substitute τ text = substitute σ text := by
  have hτ : Separate (τ.map Rule.pattern) := hσ.mono (h.map _).subset
  have hnodup' : (τ.map Rule.pattern).Nodup := (h.map _).nodup_iff.mpr hnodup
  have hnext (text : List α) : next τ text = next σ text := by
    apply Option.ext
    intro r
    rw [next_eq_some_iff hτ hnodup', next_eq_some_iff hσ hnodup, h.mem_iff]
  have hafter (n : ℕ) (text : List α) : substituteAfter τ n text = substituteAfter σ n text := by
    induction text generalizing n with
    | nil => simp [substituteAfter]
    | cons a text ih =>
      cases n with
      | zero =>
        rw [substituteAfter, substituteAfter, hnext]
        simp only [ih]
      | succ n => rw [substituteAfter, substituteAfter, ih]
  exact hafter 0 text

end Order

/-! ### Marked texts -/

/-- A letter of the template, one of an inserted value, or the place where a value was inserted. -/
inductive Letter (α : Type*) where
  | own (a : α)
  | seam
  | inserted (a : α)
deriving DecidableEq

namespace Letter

def text : Letter α → List α
  | own a => [a]
  | seam => []
  | inserted a => [a]

lemma own_injective : Function.Injective (own : α → Letter α) := fun _ _ h => own.inj h

end Letter

open Letter

/-- The text without its marks. -/
def erase (M : List (Letter α)) : List α := M.flatMap Letter.text

/-- The rule for marked texts: the pattern is sought in the template's letters. -/
def Rule.mark (r : Rule α) : Rule (Letter α) :=
  ⟨r.pattern.map own, seam :: r.value.map inserted⟩

@[simp] lemma erase_nil : erase ([] : List (Letter α)) = [] := rfl

@[simp] lemma erase_cons (l : Letter α) (M : List (Letter α)) :
    erase (l :: M) = l.text ++ erase M := rfl

@[simp] lemma erase_append (M N : List (Letter α)) : erase (M ++ N) = erase M ++ erase N :=
  List.flatMap_append

@[simp] lemma erase_map_own (t : List α) : erase (t.map own) = t := by
  induction t with
  | nil => rfl
  | cons a t ih => simp [ih, Letter.text]

@[simp] lemma erase_map_inserted (t : List α) : erase (t.map inserted) = t := by
  induction t with
  | nil => rfl
  | cons a t ih => simp [ih, Letter.text]

@[simp] lemma erase_mark_value (r : Rule α) : erase r.mark.value = r.value := by
  simp [Rule.mark, Letter.text]

section Marked

variable [DecidableEq α] {σ : List (Rule α)} {p v : List α} {r : Rule α}

/-- The template with the values inserted, marked. -/
def filled (σ : List (Rule α)) (t : List α) : List (Letter α) :=
  substitute (σ.map Rule.mark) (t.map own)

/-- In the marked text the pattern comes nowhere but in the template's own letters: what reads like
it is it, or starts at a seam, and so has its first letter after it. -/
def OnlyInTemplate (p : List α) (M : List (Letter α)) : Prop :=
  ∀ w, w <:+ M → p <+: erase w → p.map own <+: w ∨ w.head? = some seam

lemma next_mark (t : List α) :
    next (σ.map Rule.mark) (t.map own) = (next σ t).map Rule.mark := by
  rw [next, next, List.find?_map]
  congr 2
  funext r
  rw [Bool.eq_iff_iff]
  simp [Rule.mark, List.prefix_map_iff_of_injective own_injective]

/-- Without its marks it is the substitution at once. -/
lemma erase_filled (hσ : ∀ r ∈ σ, r.pattern ≠ []) (t : List α) :
    erase (filled σ t) = substitute σ t := by
  induction t using substitute_induction hσ with
  | nil => rfl
  | found r rest hnext ih =>
    have hmark : next (σ.map Rule.mark) (r.mark.pattern ++ rest.map own) = some r.mark := by
      rw [Rule.mark, ← List.map_append, next_mark, hnext]
      rfl
    have hne : r.mark.pattern ≠ [] := by
      simpa [Rule.mark] using hσ r (next_eq_some hnext).1
    rw [substitute_append (hσ r (next_eq_some hnext).1) hnext, ← ih]
    rw [filled, List.map_append]
    rw [show r.pattern.map own = r.mark.pattern from rfl, substitute_append hne hmark]
    simp [filled]
  | copied a rest hnext ih =>
    have hmark : next (σ.map Rule.mark) (own a :: rest.map own) = none := by
      rw [← List.map_cons, next_mark, hnext]
      rfl
    rw [substitute_cons hnext, ← ih, filled, List.map_cons, substitute_cons hmark]
    rfl

/-- The marked text is filled by one rule after the other. -/
lemma filled_concat (hσ : Separate ((σ ++ [r]).map Rule.pattern))
    (hr : r.pattern ∉ σ.map Rule.pattern) (t : List α) :
    filled (σ ++ [r]) t = substitute [r.mark] (filled σ t) := by
  have hpatterns (τ : List (Rule α)) :
      (τ.map Rule.mark).map Rule.pattern = (τ.map Rule.pattern).map (List.map own) := by
    simp [Rule.mark]
  rw [filled, List.map_append, List.map_singleton]
  apply substitute_concat
  · rw [← List.map_singleton, ← List.map_append, hpatterns]
    exact hσ.map own_injective
  · rw [hpatterns, Rule.mark]
    rwa [List.mem_map_of_injective (List.map_injective_iff.mpr own_injective)]
  · intro q hq
    obtain ⟨q, -, rfl⟩ := List.mem_map.mp hq
    simp [Rule.mark]

/-! ### What the next rule does -/

/-- A text with gaps, and what is put into each of them. -/
def expand (x : List α) (K : List (Option α)) : List α := K.flatMap (·.elim x ([·]))

omit [DecidableEq α] in
lemma length_expand (x : List α) (K : List (Option α)) :
    (expand x K).length = K.countP Option.isSome + K.countP Option.isNone * x.length := by
  induction K with
  | nil => simp [expand]
  | cons k K ih =>
    rw [expand, List.flatMap_cons, List.length_append, ← expand, ih]
    cases k with
    | none => simp [Nat.add_one_mul]; omega
    | some a => simp; omega

omit [DecidableEq α] in
@[simp] lemma expand_append (x : List α) (K L : List (Option α)) :
    expand x (K ++ L) = expand x K ++ expand x L := List.flatMap_append

omit [DecidableEq α] in
@[simp] lemma expand_none_cons (x : List α) (K : List (Option α)) :
    expand x (none :: K) = x ++ expand x K := rfl

omit [DecidableEq α] in
@[simp] lemma expand_map_some (x t : List α) : expand x (t.map some) = t := by
  simp [expand, List.flatMap_map]

omit [DecidableEq α] in
lemma expand_eq_of_notMem {K : List (Option α)} (h : none ∉ K) (x y : List α) :
    expand x K = expand y K := by
  apply List.flatMap_congr
  intro k hk
  cases k with
  | none => exact absurd hk h
  | some a => rfl

omit [DecidableEq α] in
/-- A text with a gap tells what was put into it. -/
lemma expand_inj {x y : List α} {K : List (Option α)} (hgap : none ∈ K) :
    expand x K = expand y K ↔ x = y := by
  refine ⟨fun h => ?_, fun h => h ▸ rfl⟩
  have hlength : x.length = y.length := by
    have hpos : 0 < K.countP Option.isNone := List.countP_pos_iff.mpr ⟨none, hgap, rfl⟩
    have heq := congrArg List.length h
    rw [length_expand, length_expand, Nat.add_left_cancel_iff] at heq
    exact Nat.eq_of_mul_eq_mul_left hpos heq
  induction K with
  | nil => simp at hgap
  | cons k K ih =>
    rw [expand, expand, List.flatMap_cons, List.flatMap_cons] at h
    cases k with
    | none => exact (List.append_inj h hlength).1
    | some a =>
      apply ih
      · simpa using hgap
      · simpa [expand] using h

omit [DecidableEq α] in
/-- What a text without its marks begins with is the text of a part of it. -/
lemma exists_erase_eq {p : List α} {M : List (Letter α)} (h : p <+: erase M) :
    ∃ N R, M = N ++ R ∧ erase N = p := by
  induction M generalizing p with
  | nil => exact ⟨[], [], rfl, (List.prefix_nil.mp h).symm⟩
  | cons l M ih =>
    cases p with
    | nil => exact ⟨[], l :: M, rfl, rfl⟩
    | cons a p =>
      have hletter {b : α} (hl : l.text = [b]) :
          ∃ N R, l :: M = N ++ R ∧ erase N = a :: p := by
        rw [erase_cons, hl, List.singleton_append, List.cons_prefix_cons] at h
        obtain ⟨N, R, rfl, rfl⟩ := ih h.2
        exact ⟨l :: N, R, rfl, by simp [hl, h.1]⟩
      cases l with
      | own b => exact hletter rfl
      | inserted b => exact hletter rfl
      | seam =>
        obtain ⟨N, R, rfl, hN⟩ := ih h
        exact ⟨seam :: N, R, rfl, hN⟩

omit [DecidableEq α] in
lemma onlyInTemplate_cons {l : Letter α} {M : List (Letter α)}
    (h : p <+: erase (l :: M) → l = seam) :
    OnlyInTemplate p (l :: M) ↔ OnlyInTemplate p M := by
  constructor
  · intro hM w hw
    exact hM w (hw.trans (List.suffix_cons l M))
  · intro hM w hw hcomes
    obtain rfl | hw := List.suffix_cons_iff.mp hw
    · right
      simp [h hcomes]
    · exact hM w hw hcomes

omit [DecidableEq α] in
lemma onlyInTemplate_append (hp : Separate [p]) (M : List (Letter α)) :
    OnlyInTemplate p (p.map own ++ M) ↔ OnlyInTemplate p M := by
  have hcopied : ∀ s, s <:+ p → (OnlyInTemplate p (s.map own ++ M) ↔ OnlyInTemplate p M) := by
    intro s hs
    induction s with
    | nil => simp
    | cons a s ih =>
      rw [← ih ((List.suffix_cons a s).trans hs), List.map_cons, List.cons_append]
      constructor
      · intro hM w hw
        exact hM w (hw.trans (List.suffix_cons _ _))
      · intro hM w hw hcomes
        obtain rfl | hw := List.suffix_cons_iff.mp hw
        · -- here begins a part of the pattern, so the pattern
          left
          rw [← List.cons_append, ← List.map_cons] at hcomes ⊢
          rw [erase_append, erase_map_own] at hcomes
          have hor := List.prefix_or_prefix_of_prefix hcomes (List.prefix_append _ (erase M))
          rw [((hp p (by simp)).2 p (by simp) (a :: s) (by simp) hs hor.symm).1]
          exact List.prefix_append _ _
        · exact hM w hw hcomes
  exact hcopied p List.suffix_rfl

/-- What reads like the pattern, and is not, is copied in the marked text. -/
lemma substitute_mark_append (hp : Separate [p]) {N R : List (Letter α)} (hN : erase N = p)
    (hhead : N.head? ≠ some seam) (hnot : ¬p.map own <+: N ++ R) :
    substitute [Rule.mark ⟨p, v⟩] (N ++ R) = N ++ substitute [Rule.mark ⟨p, v⟩] R := by
  apply substitute_copied
  intro s hs hsuffix
  rw [next_eq_none]
  rintro r hr hcomes
  obtain rfl := List.mem_singleton.mp hr
  obtain ⟨k, rfl⟩ := hsuffix
  have hread : p <+: erase s ++ erase R := by
    obtain ⟨T, hT⟩ := hcomes
    have hread := congrArg erase hT
    rw [erase_append, erase_append, Rule.mark, erase_map_own] at hread
    exact ⟨_, hread⟩
  have hpart : erase s <:+ p := ⟨erase k, by rw [← erase_append, hN]⟩
  have hne : erase s ≠ [] := by
    obtain ⟨a, q, rfl⟩ := List.exists_cons_of_ne_nil (hp p (by simp)).1
    obtain ⟨l, s, rfl⟩ := List.exists_cons_of_ne_nil hs
    obtain rfl := (List.cons_prefix_cons.mp hcomes).1
    simp [Letter.text]
  have hor := List.prefix_or_prefix_of_prefix hread (List.prefix_append _ (erase R))
  have heq := ((hp p (by simp)).2 p (by simp) (erase s) hne hpart hor.symm).1
  cases k with
  | nil => exact hnot hcomes
  | cons l k =>
    have hl : l.text = [] := by
      rw [erase_append, heq, List.append_left_eq_self, erase_cons] at hN
      exact (List.append_eq_nil_iff.mp hN).1
    cases l with
    | own a => simp [Letter.text] at hl
    | inserted a => simp [Letter.text] at hl
    | seam => exact hhead rfl

/-- Both rules leave the same text, up to gaps where what reads like the pattern is not. -/
lemma exists_expand (hp : Separate [p]) (M : List (Letter α)) :
    ∃ K, erase (substitute [Rule.mark ⟨p, v⟩] M) = expand p K ∧
      substitute [⟨p, v⟩] (erase M) = expand v K ∧ (none ∈ K ↔ ¬OnlyInTemplate p M) := by
  have hne : p ≠ [] := (hp p (by simp)).1
  induction hn : M.length using Nat.strong_induction_on generalizing M with
  | _ n ih =>
    subst hn
    by_cases hown : p.map own <+: M
    · -- the pattern, in the template's letters
      obtain ⟨M, rfl⟩ := hown
      have hlt : M.length < (p.map own ++ M).length := by
        have hpos := List.length_pos_iff.mpr hne
        simp only [List.length_append, List.length_map]
        omega
      obtain ⟨K, hmarked, herased, hgap⟩ := ih _ hlt M rfl
      refine ⟨v.map some ++ K, ?_, ?_, ?_⟩
      · rw [Rule.mark, substitute_single_append (by simpa using hne)]
        simpa [Letter.text, Rule.mark] using hmarked
      · simp [substitute_single_append hne, herased]
      · rw [onlyInTemplate_append hp, ← hgap]
        simp
    by_cases hread : p <+: erase M ∧ M.head? ≠ some seam
    · -- what only reads like the pattern: one rule copies it, and the other one does not
      obtain ⟨hcomes, hhead⟩ := hread
      obtain ⟨N, R, rfl, hN⟩ := exists_erase_eq hcomes
      have hN' : N ≠ [] := by
        rintro rfl
        exact hne hN.symm
      have hlt : R.length < (N ++ R).length := by
        have hpos := List.length_pos_iff.mpr hN'
        simp only [List.length_append]
        omega
      obtain ⟨K, hmarked, herased, -⟩ := ih _ hlt R rfl
      refine ⟨none :: K, ?_, ?_, ?_⟩
      · rw [substitute_mark_append hp hN ?_ hown, erase_append, hN, hmarked, expand_none_cons]
        rwa [List.head?_append_of_ne_nil _ hN'] at hhead
      · rw [erase_append, hN, substitute_single_append hne, herased, expand_none_cons]
      · refine ⟨fun _ hM => ?_, fun _ => by simp⟩
        exact (hM _ List.suffix_rfl hcomes).elim hown hhead
    -- a letter, or a seam
    cases M with
    | nil =>
      refine ⟨[], rfl, rfl, ?_⟩
      simp [OnlyInTemplate, hne]
    | cons l M =>
      obtain ⟨K, hmarked, herased, hgap⟩ := ih _ (by simp) M rfl
      have hseam : p <+: erase (l :: M) → l = seam := by
        intro hcomes
        simpa using not_and_not_right.mp hread hcomes
      have hnext : next [Rule.mark ⟨p, v⟩] (l :: M) = none := by
        rw [next_eq_none]
        simpa [Rule.mark] using hown
      refine ⟨l.text.map some ++ K, ?_, ?_, ?_⟩
      · rw [substitute_cons hnext, erase_cons, hmarked]
        simp
      · rw [erase_cons, substitute_copied ?_, herased]
        · simp
        intro s hs hsuffix
        have heq : s = l.text := by
          cases l <;> simp_all [Letter.text, List.suffix_cons_iff]
        subst heq
        rw [next_eq_none]
        rintro r hr hcomes
        obtain rfl := List.mem_singleton.mp hr
        obtain rfl := hseam hcomes
        exact hs rfl
      · rw [onlyInTemplate_cons hseam, ← hgap]
        simp

/-- The next rule does the same in both texts when its pattern is in the template's letters only, or
when it changes nothing. -/
theorem erase_substitute_mark (hp : Separate [p]) (M : List (Letter α)) :
    erase (substitute [Rule.mark ⟨p, v⟩] M) = substitute [⟨p, v⟩] (erase M) ↔
      v = p ∨ OnlyInTemplate p M := by
  obtain ⟨K, hmarked, herased, hgap⟩ := exists_expand (v := v) hp M
  rw [hmarked, herased]
  by_cases hK : none ∈ K
  · rw [expand_inj hK, or_iff_left (hgap.mp hK), eq_comm]
  · have honly : OnlyInTemplate p M := not_not.mp (mt hgap.mpr hK)
    simp [honly, expand_eq_of_notMem hK p v]

/-! ### One after the other -/

/-- Each pattern in turn is substituted in the whole text. -/
def substituteInTurn (σ : List (Rule α)) (text : List α) : List α :=
  σ.foldl (fun text r => substitute [r] text) text

@[simp] lemma substituteInTurn_concat (σ : List (Rule α)) (r : Rule α) (text : List α) :
    substituteInTurn (σ ++ [r]) text = substitute [r] (substituteInTurn σ text) := by
  simp [substituteInTurn]

/-- One after the other does what all at once does, up to each rule, when each rule finds its
pattern in the template's letters only, or changes nothing. -/
theorem substituteInTurn_eq_iff (hσ : Separate (σ.map Rule.pattern))
    (hnodup : (σ.map Rule.pattern).Nodup) (t : List α) :
    (∀ τ, τ <+: σ → substituteInTurn τ t = substitute τ t) ↔
      ∀ τ r, τ ++ [r] <+: σ → r.value = r.pattern ∨ OnlyInTemplate r.pattern (filled τ t) := by
  have hstep : ∀ τ r, τ ++ [r] <+: σ → substituteInTurn τ t = substitute τ t →
      (substituteInTurn (τ ++ [r]) t = substitute (τ ++ [r]) t ↔
        r.value = r.pattern ∨ OnlyInTemplate r.pattern (filled τ t)) := by
    intro τ r hinitial heq
    have hpatterns := hinitial.map Rule.pattern
    have hsep : Separate ((τ ++ [r]).map Rule.pattern) := hσ.mono hpatterns.subset
    have hnew : r.pattern ∉ τ.map Rule.pattern := by
      have hdistinct := hpatterns.sublist.nodup hnodup
      rw [List.map_append, List.map_singleton, List.nodup_append_comm] at hdistinct
      exact (List.nodup_cons.mp hdistinct).1
    have hne : ∀ q ∈ τ ++ [r], q.pattern ≠ [] := fun q hq =>
      (hsep q.pattern (List.mem_map_of_mem hq)).1
    have hone : Separate [r.pattern] := hsep.mono (by simp)
    rw [substituteInTurn_concat, heq, ← erase_filled hne t, filled_concat hsep hnew]
    rw [← erase_filled (σ := τ) (fun q hq => hne q (by simp [hq])) t, eq_comm]
    exact erase_substitute_mark hone _
  constructor
  · intro h τ r hinitial
    have hearlier := h τ ((List.prefix_append τ [r]).trans hinitial)
    exact (hstep τ r hinitial hearlier).mp (h _ hinitial)
  · intro h τ
    induction τ using List.reverseRecOn with
    | nil => simp [substituteInTurn]
    | append_singleton τ r ih =>
      intro hinitial
      have hearlier := ih ((List.prefix_append τ [r]).trans hinitial)
      exact (hstep τ r hinitial hearlier).mpr (h τ r hinitial)

end Marked

end Substitution

import TransferGateway.Lib.Arena
import Mathlib.Data.List.Infix
import Mathlib.Data.Finset.Card
import Mathlib.Data.Finset.Range

/-!
# The address trie

`IpTrie` keeps its nodes in one vector and links them by index. The invariant it carries says that
the indices form a tree, so no access leaves the vector, and that `entries` counts the terminal
nodes. Up to that, a trie is the set of bit strings `paths` that were inserted: insertion adds
one and a lookup asks for one that the address starts with.
-/

namespace TransferGateway

open Arena

/-- A node, with one child for each bit. -/
structure TrieNode where
  children : Bool → Option ℕ
  terminal : Bool

/-- `TrieNode::default()`. -/
def TrieNode.default : TrieNode := ⟨fun _ => none, false⟩

@[simp] lemma TrieNode.default_children (bit : Bool) : TrieNode.default.children bit = none := rfl

@[simp] lemma TrieNode.default_terminal : TrieNode.default.terminal = false := rfl

/-- `self.nodes[i].children[bit]`. -/
def child (nodes : List TrieNode) : Edges Bool :=
  fun i bit => nodes[i]?.bind fun node => node.children bit

/-- `self.nodes[i].terminal`. -/
def terminal (nodes : List TrieNode) (i : ℕ) : Bool :=
  nodes[i]?.any (·.terminal)

def TrieNode.setChild (bit : Bool) (next : ℕ) (node : TrieNode) : TrieNode :=
  { node with children := Function.update node.children bit (some next) }

def TrieNode.setTerminal (node : TrieNode) : TrieNode :=
  { node with terminal := true }

/-- The indices form a tree rooted at `0`, and `entries` is the number of terminal nodes. -/
structure WellFormed (nodes : List TrieNode) (entries : ℕ) : Prop where
  tree : IsTree (child nodes) nodes.length
  count : entries = ((Finset.range nodes.length).filter fun i => terminal nodes i).card

/-- `IpTrie<BITS>`. -/
structure IpTrie (BITS : ℕ) where
  nodes : List TrieNode
  entries : ℕ
  wf : WellFormed nodes entries

/-! ### Access after an update -/

section Access

variable (nodes : List TrieNode)

lemma getElem?_push_of_length_lt {j : ℕ} (hj : nodes.length < j) (node : TrieNode) :
    (nodes ++ [node])[j]? = none := by
  rw [List.getElem?_eq_none_iff, List.length_append, List.length_singleton]
  exact hj

lemma child_push_setChild {i : ℕ} (hi : i < nodes.length) (bit : Bool) :
    child ((nodes ++ [TrieNode.default]).modify i (TrieNode.setChild bit nodes.length)) =
      link (child nodes) i bit nodes.length := by
  funext j b
  simp only [child, link, List.getElem?_modify]
  rcases Nat.lt_trichotomy j nodes.length with hj | rfl | hj
  · rw [List.getElem?_append_left hj, List.getElem?_eq_getElem hj]
    by_cases hij : i = j
    · subst hij
      by_cases hb : b = bit <;> simp [TrieNode.setChild, hb]
    · simp [hij, Ne.symm hij]
  · simp [show i ≠ nodes.length by omega, show nodes.length ≠ i by omega]
  · rw [getElem?_push_of_length_lt nodes hj, List.getElem?_eq_none hj.le]
    simp [show ¬ i = j by omega, show ¬ j = i by omega]

lemma terminal_push_setChild (i : ℕ) (bit : Bool) (next : ℕ) :
    terminal ((nodes ++ [TrieNode.default]).modify i (TrieNode.setChild bit next)) = terminal nodes := by
  funext j
  simp only [terminal, List.getElem?_modify]
  rcases Nat.lt_trichotomy j nodes.length with hj | rfl | hj
  · rw [List.getElem?_append_left hj, List.getElem?_eq_getElem hj]
    by_cases hij : i = j <;> simp [hij, TrieNode.setChild]
  · by_cases hij : i = nodes.length <;> simp [hij, TrieNode.setChild]
  · rw [getElem?_push_of_length_lt nodes hj, List.getElem?_eq_none hj.le]
    rfl

lemma child_setTerminal (i : ℕ) :
    child (nodes.modify i TrieNode.setTerminal) = child nodes := by
  funext j b
  simp only [child, List.getElem?_modify]
  by_cases hij : i = j
  · subst hij
    cases nodes[i]? <;> simp [TrieNode.setTerminal]
  · simp [hij]

lemma terminal_setTerminal {i : ℕ} (hi : i < nodes.length) :
    terminal (nodes.modify i TrieNode.setTerminal) =
      Function.update (terminal nodes) i true := by
  funext j
  simp only [terminal, List.getElem?_modify]
  by_cases hij : i = j
  · subst hij
    simp [hi, TrieNode.setTerminal]
  · simp [hij, Function.update_of_ne (Ne.symm hij), terminal]

lemma terminal_of_length_le {i : ℕ} (hi : nodes.length ≤ i) : terminal nodes i = false := by
  simp [terminal, List.getElem?_eq_none hi]

end Access

/-! ### Insertion -/

/-- One turn of the loop of `insert`: follow the bit at `depth`, or link a fresh node. -/
def descend (BITS value : ℕ) (s : List TrieNode × ℕ) (depth : ℕ) : List TrieNode × ℕ :=
  let bit := value.testBit (BITS - 1 - depth)
  match child s.1 s.2 bit with
  | some next => (s.1, next)
  | none => ((s.1 ++ [TrieNode.default]).modify s.2 (TrieNode.setChild bit s.1.length), s.1.length)

/-- The first `p` bits of a value of width `BITS`. -/
def topBits (BITS value p : ℕ) : List Bool :=
  (List.range p).map fun depth => value.testBit (BITS - 1 - depth)

/-- What the loop keeps: a tree with the same terminal words, and a node reached by the bits
read so far. -/
structure Descent (nodes₀ : List TrieNode) (s : List TrieNode × ℕ) (w : List Bool) : Prop where
  tree : IsTree (child s.1) s.1.length
  terminal_eq : terminal s.1 = terminal nodes₀
  marked_eq : marked (child s.1) (terminal s.1) = marked (child nodes₀) (terminal nodes₀)
  length_le : nodes₀.length ≤ s.1.length
  walk_eq : walk (child s.1) 0 w = some s.2
  kept : ∀ {v k}, walk (child nodes₀) 0 v = some k → walk (child s.1) 0 v = some k

lemma Descent.start {nodes : List TrieNode} (h : IsTree (child nodes) nodes.length) :
    Descent nodes (nodes, 0) [] :=
  ⟨h, rfl, rfl, le_rfl, rfl, id⟩

lemma Descent.step {nodes₀ : List TrieNode} {s : List TrieNode × ℕ} {w : List Bool}
    (h : Descent nodes₀ s w) (BITS value depth : ℕ) :
    Descent nodes₀ (descend BITS value s depth)
      (w ++ [value.testBit (BITS - 1 - depth)]) := by
  obtain ⟨nodes, i⟩ := s
  have hi : i < nodes.length := h.tree.walk_lt h.tree.pos h.walk_eq
  simp only [descend]
  cases hc : child nodes i (value.testBit (BITS - 1 - depth)) with
  | some next =>
    refine ⟨h.tree, h.terminal_eq, h.marked_eq, h.length_le, ?_, h.kept⟩
    rw [walk_snoc, h.walk_eq]
    exact hc
  | none =>
    have hlen : ((nodes ++ [TrieNode.default]).modify i
        (TrieNode.setChild (value.testBit (BITS - 1 - depth)) nodes.length)).length
          = nodes.length + 1 := by simp
    refine ⟨?_, ?_, ?_, ?_, ?_, ?_⟩
    · rw [child_push_setChild nodes hi, hlen]
      exact h.tree.link hi hc
    · rw [terminal_push_setChild]
      exact h.terminal_eq
    · rw [child_push_setChild nodes hi, terminal_push_setChild,
        marked_link h.tree hi hc (terminal_of_length_le nodes le_rfl)]
      exact h.marked_eq
    · rw [hlen]
      exact h.length_le.trans (Nat.le_succ _)
    · rw [child_push_setChild nodes hi, walk_snoc, walk_link_of_walk hc h.walk_eq]
      exact link_self _ _ _ _
    · intro v k hv
      rw [child_push_setChild nodes hi]
      exact walk_link_of_walk hc (h.kept hv)

/-- The whole loop. -/
lemma Descent.run {nodes : List TrieNode} (h : IsTree (child nodes) nodes.length)
    (BITS value p : ℕ) :
    Descent nodes ((List.range p).foldl (descend BITS value) (nodes, 0))
      (topBits BITS value p) := by
  induction p with
  | zero => exact Descent.start h
  | succ p ih =>
    simp only [topBits, List.range_succ, List.foldl_append, List.foldl_cons, List.foldl_nil,
      List.map_append, List.map_cons, List.map_nil]
    exact ih.step BITS value p

/-- The node vector and the entry count after `insert`. -/
def insertNodes (BITS : ℕ) (nodes : List TrieNode) (entries value p : ℕ) :
    List TrieNode × ℕ :=
  let s := (List.range p).foldl (descend BITS value) (nodes, 0)
  if terminal s.1 s.2 then (s.1, entries)
  else (s.1.modify s.2 TrieNode.setTerminal, entries + 1)

/-- The terminal nodes after a descent are those before it. -/
lemma Descent.count_eq {nodes₀ : List TrieNode} {s : List TrieNode × ℕ} {w : List Bool}
    (h : Descent nodes₀ s w) :
    (Finset.range s.1.length).filter (fun i => terminal s.1 i) =
      (Finset.range nodes₀.length).filter fun i => terminal nodes₀ i := by
  ext i
  simp only [Finset.mem_filter, Finset.mem_range, h.terminal_eq]
  constructor
  · rintro ⟨-, ht⟩
    refine ⟨?_, ht⟩
    by_contra hi
    simp [terminal_of_length_le nodes₀ (Nat.le_of_not_lt hi)] at ht
  · rintro ⟨hi, ht⟩
    exact ⟨hi.trans_le h.length_le, ht⟩

lemma insertNodes_wellFormed (BITS : ℕ) {nodes : List TrieNode} {entries : ℕ}
    (h : WellFormed nodes entries) (value p : ℕ) :
    WellFormed (insertNodes BITS nodes entries value p).1
      (insertNodes BITS nodes entries value p).2 := by
  have hd := Descent.run h.tree BITS value p
  simp only [insertNodes]
  generalize (List.range p).foldl (descend BITS value) (nodes, 0) = s at hd
  have hlt : s.2 < s.1.length := hd.tree.walk_lt hd.tree.pos hd.walk_eq
  by_cases ht : terminal s.1 s.2 = true
  · rw [if_pos ht]
    exact ⟨hd.tree, by rw [h.count, hd.count_eq]⟩
  · rw [if_neg ht]
    refine ⟨?_, ?_⟩
    · rw [child_setTerminal, List.length_modify]
      exact hd.tree
    · rw [List.length_modify, terminal_setTerminal _ hlt]
      have hins : (Finset.range s.1.length).filter
            (fun i => Function.update (terminal s.1) s.2 true i = true) =
          insert s.2 ((Finset.range s.1.length).filter fun i => terminal s.1 i) := by
        ext i
        by_cases hi : i = s.2
        · subst hi; simp [hlt]
        · simp [hi]
      rw [hins, Finset.card_insert_of_notMem (by simp [ht]), hd.count_eq, ← h.count]

namespace IpTrie

variable {BITS : ℕ}

/-- `IpTrie::default`: a root that is not terminal. -/
def default : IpTrie BITS where
  nodes := [TrieNode.default]
  entries := 0
  wf := by
    refine ⟨?_, by decide⟩
    have hc : child [TrieNode.default] = fun _ _ => none := by
      funext i b
      cases i <;> simp [child]
    rw [hc]
    exact isTree_root

/-- `IpTrie::insert`. -/
def insert (t : IpTrie BITS) (value p : ℕ) : IpTrie BITS where
  nodes := (insertNodes BITS t.nodes t.entries value p).1
  entries := (insertNodes BITS t.nodes t.entries value p).2
  wf := insertNodes_wellFormed BITS t.wf value p

/-- The loop of `contains`, from a node that is not terminal. -/
def containsFrom (nodes : List TrieNode) (value : ℕ) : ℕ → List ℕ → Bool
  | _, [] => false
  | i, depth :: rest =>
    match child nodes i (value.testBit (BITS - 1 - depth)) with
    | none => false
    | some next => if terminal nodes next then true else containsFrom nodes value next rest

/-- `IpTrie::contains`. -/
def contains (t : IpTrie BITS) (value : ℕ) : Bool :=
  if terminal t.nodes 0 then true
  else @containsFrom BITS t.nodes value 0 (List.range BITS)

def isEmpty (t : IpTrie BITS) : Bool := t.entries == 0

def len (t : IpTrie BITS) : ℕ := t.entries

/-- The bit strings that end in a terminal node. -/
def paths (t : IpTrie BITS) : Set (List Bool) :=
  marked (child t.nodes) (terminal t.nodes)

@[simp] lemma paths_default : (default : IpTrie BITS).paths = ∅ := by
  ext w
  simp only [paths, default, marked, Set.mem_empty_iff_false, iff_false]
  rintro ⟨k, -, hk⟩
  cases k <;> simp [terminal] at hk

/-- A trie with a bit string is not empty. -/
lemma isEmpty_eq_false {t : IpTrie BITS} {w : List Bool} (h : w ∈ t.paths) :
    t.isEmpty = false := by
  obtain ⟨k, hk, hterminal⟩ := h
  have hmem : k ∈ (Finset.range t.nodes.length).filter fun i => terminal t.nodes i :=
    Finset.mem_filter.mpr ⟨Finset.mem_range.mpr (t.wf.tree.walk_lt t.wf.tree.pos hk), hterminal⟩
  have hpos : t.entries ≠ 0 := by
    rw [t.wf.count]
    exact Finset.card_ne_zero_of_mem hmem
  simpa [isEmpty] using hpos

/-- Insertion adds one bit string. -/
theorem paths_insert (t : IpTrie BITS) (value p : ℕ) :
    (t.insert value p).paths = Insert.insert (topBits BITS value p) t.paths := by
  have hd := Descent.run t.wf.tree BITS value p
  simp only [paths, insert, insertNodes]
  generalize (List.range p).foldl (descend BITS value) (t.nodes, 0) = s at hd
  have hlt : s.2 < s.1.length := hd.tree.walk_lt hd.tree.pos hd.walk_eq
  by_cases ht : terminal s.1 s.2 = true
  · rw [if_pos ht, hd.marked_eq, Set.insert_eq_of_mem]
    rw [← hd.marked_eq]
    exact ⟨s.2, hd.walk_eq, ht⟩
  · rw [if_neg ht, child_setTerminal, terminal_setTerminal _ hlt,
      marked_update hd.tree hd.walk_eq, hd.marked_eq]

lemma containsFrom_iff (nodes : List TrieNode) (value : ℕ) (depths : List ℕ) (i : ℕ) :
    @containsFrom BITS nodes value i depths = true ↔
      ∃ w k, w ≠ [] ∧ w <+: depths.map (fun depth => value.testBit (BITS - 1 - depth)) ∧
        walk (child nodes) i w = some k ∧ terminal nodes k = true := by
  induction depths generalizing i with
  | nil => simp [containsFrom]
  | cons depth rest ih =>
    simp only [containsFrom, List.map_cons]
    generalize hb : value.testBit (BITS - 1 - depth) = b
    cases hc : child nodes i b with
    | none =>
      simp only [Bool.false_eq_true, false_iff]
      rintro ⟨w, k, hne, hpre, hw, -⟩
      obtain ⟨w', rfl, -⟩ := (List.prefix_cons_iff.mp hpre).resolve_left hne
      simp [hc] at hw
    | some next =>
      dsimp only
      split_ifs with ht
      · simp only [true_iff]
        exact ⟨[b], next, by simp, by simp, by simp [hc], ht⟩
      · rw [ih]
        constructor
        · rintro ⟨w, k, -, hpre, hw, hk⟩
          exact ⟨b :: w, k, by simp, by simpa using hpre, by simpa [hc] using hw, hk⟩
        · rintro ⟨w, k, hne, hpre, hw, hk⟩
          obtain ⟨w', rfl, hpre'⟩ := (List.prefix_cons_iff.mp hpre).resolve_left hne
          simp only [walk_cons, hc, Option.bind_some] at hw
          refine ⟨w', k, ?_, hpre', hw, hk⟩
          rintro rfl
          simp only [walk_nil, Option.some.injEq] at hw
          exact ht (hw ▸ hk)

/-- A lookup asks for an inserted bit string that the value starts with. -/
theorem contains_iff (t : IpTrie BITS) (value : ℕ) :
    t.contains value = true ↔ ∃ w ∈ t.paths, w <+: topBits BITS value BITS := by
  simp only [contains]
  split_ifs with h
  · simp only [true_iff]
    exact ⟨[], ⟨0, rfl, h⟩, List.nil_prefix⟩
  · rw [containsFrom_iff]
    constructor
    · rintro ⟨w, k, -, hpre, hw, hk⟩
      exact ⟨w, ⟨k, hw, hk⟩, hpre⟩
    · rintro ⟨w, ⟨k, hw, hk⟩, hpre⟩
      refine ⟨w, k, ?_, hpre, hw, hk⟩
      rintro rfl
      simp only [walk_nil, Option.some.injEq] at hw
      exact h (hw ▸ hk)

end IpTrie

/-- Two bit strings of leading bits, one no longer than the other. -/
lemma topBits_prefix_iff {BITS a b p q : ℕ} (h : p ≤ q) :
    topBits BITS a p <+: topBits BITS b q ↔
      ∀ i < p, a.testBit (BITS - 1 - i) = b.testBit (BITS - 1 - i) := by
  rw [List.prefix_iff_eq_take]
  have htake : (topBits BITS b q).take (topBits BITS a p).length = topBits BITS b p := by
    simp [topBits, ← List.map_take, List.take_range, Nat.min_eq_left h]
  rw [htake]
  simp [topBits, List.map_inj_left]

end TransferGateway

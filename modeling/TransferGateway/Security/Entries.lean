import TransferGateway.Security.Lists

/-!
# The entries of a set

Networks are inserted one after the other. The node table only grows, and it has one terminal node
for each network, whatever the order and however often one comes.
-/

namespace TransferGateway

open Arena

/-! ### Tries -/

/-- The first node table lives on in the second: no node lost its path or its mark. -/
structure Extends (nodes nodes' : List TrieNode) : Prop where
  length_le : nodes.length ≤ nodes'.length
  walk {w : List Bool} {k : ℕ} (h : walk (child nodes) 0 w = some k) :
    walk (child nodes') 0 w = some k
  terminal {k : ℕ} (h : terminal nodes k = true) : terminal nodes' k = true

lemma Extends.refl (nodes : List TrieNode) : Extends nodes nodes :=
  ⟨le_rfl, id, id⟩

lemma Extends.trans {nodes₁ nodes₂ nodes₃ : List TrieNode} (h : Extends nodes₁ nodes₂)
    (h' : Extends nodes₂ nodes₃) : Extends nodes₁ nodes₃ :=
  ⟨h.length_le.trans h'.length_le, fun hw => h'.walk (h.walk hw),
    fun hk => h'.terminal (h.terminal hk)⟩

lemma Descent.extends {nodes : List TrieNode} {s : List TrieNode × ℕ} {w : List Bool}
    (h : Descent nodes s w) : Extends nodes s.1 where
  length_le := h.length_le
  walk hw := h.kept hw
  terminal hk := by rwa [h.terminal_eq]

/-- A mark more. -/
lemma extends_setTerminal {nodes : List TrieNode} {i : ℕ} (hi : i < nodes.length) :
    Extends nodes (nodes.modify i TrieNode.setTerminal) where
  length_le := (List.length_modify ..).ge
  walk hw := by rwa [child_setTerminal]
  terminal {k} hk := by
    rw [terminal_setTerminal _ hi]
    by_cases hki : k = i
    · simp [hki]
    · rwa [Function.update_of_ne hki]

namespace IpTrie

variable {BITS : ℕ}

lemma extends_insert (t : IpTrie BITS) (value p : ℕ) :
    Extends t.nodes (t.insert value p).nodes := by
  have hd := Descent.run t.wf.tree BITS value p
  simp only [insert, insertNodes]
  generalize (List.range p).foldl (descend BITS value) (t.nodes, 0) = s at hd
  by_cases ht : terminal s.1 s.2 = true
  · rw [if_pos ht]
    exact hd.extends
  · rw [if_neg ht]
    exact hd.extends.trans (extends_setTerminal (hd.tree.walk_lt hd.tree.pos hd.walk_eq))

/-- `insert` after `insert`, each of the top bits of a value. -/
def insertAll (t : IpTrie BITS) (insertions : List (ℕ × ℕ)) : IpTrie BITS :=
  insertions.foldl (fun t i => t.insert i.1 i.2) t

lemma extends_insertAll (t : IpTrie BITS) (insertions : List (ℕ × ℕ)) :
    Extends t.nodes (t.insertAll insertions).nodes := by
  induction insertions generalizing t with
  | nil => exact .refl _
  | cons i insertions ih => exact (t.extends_insert i.1 i.2).trans (ih _)

lemma paths_insertAll (t : IpTrie BITS) (insertions : List (ℕ × ℕ)) :
    (t.insertAll insertions).paths =
      {w | ∃ i ∈ insertions, w = topBits BITS i.1 i.2} ∪ t.paths := by
  induction insertions generalizing t with
  | nil => simp [insertAll]
  | cons i insertions ih =>
    rw [insertAll, List.foldl_cons]
    change ((t.insert i.1 i.2).insertAll insertions).paths = _
    rw [ih, paths_insert]
    ext w
    simp only [Set.mem_union, Set.mem_insert_iff, Set.mem_ofPred_eq, List.exists_mem_cons_iff]
    exact or_left_comm.trans or_assoc.symm

/-- There are as many entries as bit strings. -/
lemma entries_eq (t : IpTrie BITS) : t.entries = t.paths.ncard := by
  rw [paths, t.wf.tree.ncard_marked, t.wf.count]

@[simp] lemma length_topBits (BITS value p : ℕ) : (topBits BITS value p).length = p := by
  simp [topBits]

/-- The entries are the different pairs of top bits and a prefix length that were inserted. -/
lemma entries_insertAll (insertions : List (ℕ × ℕ)) :
    (default.insertAll insertions : IpTrie BITS).entries =
      (insertions.map fun i => (topBits BITS i.1 i.2, i.2)).toFinset.card := by
  have hpairs : (insertions.map fun i => (topBits BITS i.1 i.2, i.2)).toFinset =
      (insertions.map fun i => topBits BITS i.1 i.2).toFinset.image fun w => (w, w.length) := by
    ext pair
    simp
  have hpaths : (default.insertAll insertions : IpTrie BITS).paths =
      (insertions.map fun i => topBits BITS i.1 i.2).toFinset := by
    rw [paths_insertAll, paths_default, Set.union_empty]
    ext w
    simp [eq_comm]
  rw [entries_eq, hpaths, Set.ncard_coe_finset, hpairs, Finset.card_image_of_injective]
  exact fun w w' h => congrArg Prod.fst h

end IpTrie

/-! ### Sets of addresses -/

/-- The network without the bits behind its prefix. -/
def Network.masked {w : ℕ} (n : Network w) : Network w :=
  { n with network := n.network &&& mask w n.prefixLen }

def IpNetwork.masked : IpNetwork → IpNetwork
  | .v4 n => .v4 n.masked
  | .v6 n => .v6 n.masked

/-- The bits that a network inserts in the trie of its family. -/
def Network.bits {w : ℕ} (n : Network w) : List Bool :=
  topBits w n.network.toNat n.prefixLen

def IpNetwork.bits : IpNetwork → List Bool ⊕ List Bool
  | .v4 n => .inl n.bits
  | .v6 n => .inr n.bits

lemma getMsbD_mask_of_le {w p i : ℕ} (hi : p ≤ i) : (mask w p).getMsbD i = false := by
  by_cases hp : p = 0
  · simp [mask, hp]
  · simp [mask, hp, BitVec.getMsbD_shiftLeft]
    omega

/-- Masked addresses are the same when the bits of the prefix agree. -/
lemma and_mask_eq_iff {w p : ℕ} (hp : p ≤ w) {a b : BitVec w} :
    a &&& mask w p = b &&& mask w p ↔ BitsAgree a b p := by
  constructor
  · intro h
    have hb : BitsAgree (b &&& mask w p) b p := (bitsAgree_and_mask hp b b).mpr fun _ _ => rfl
    rw [← h] at hb
    exact (bitsAgree_and_mask hp a b).mp hb
  · intro h
    apply BitVec.eq_of_getMsbD_eq
    intro i hi
    rw [BitVec.getMsbD_and, BitVec.getMsbD_and]
    by_cases hip : i < p
    · rw [h i hip]
    · rw [getMsbD_mask_of_le (Nat.le_of_not_lt hip), Bool.and_false, Bool.and_false]

lemma topBits_eq_iff {w p : ℕ} (hp : p ≤ w) {a b : BitVec w} :
    topBits w a.toNat p = topBits w b.toNat p ↔ BitsAgree a b p := by
  simp only [topBits, List.map_inj_left, List.mem_range]
  apply forall₂_congr
  intro i hi
  simp [BitVec.getMsbD, BitVec.getLsbD, show i < w by omega]

lemma Network.bits_eq_iff {w : ℕ} {n n' : Network w} :
    n.bits = n'.bits ↔ n.masked = n'.masked := by
  obtain ⟨a, p, hp⟩ := n
  obtain ⟨b, q, hq⟩ := n'
  by_cases hpq : p = q
  · subst hpq
    simp [bits, masked, topBits_eq_iff hp, and_mask_eq_iff hp]
  · have hbits : topBits w a.toNat p ≠ topBits w b.toNat q := by
      intro h
      exact hpq (by simpa using congrArg List.length h)
    simp [bits, masked, hbits, hpq]

lemma IpNetwork.bits_eq_iff {n n' : IpNetwork} : n.bits = n'.bits ↔ n.masked = n'.masked := by
  cases n <;> cases n' <;> simp [bits, masked, Network.bits_eq_iff]

lemma IpNetwork.bits_masked (n : IpNetwork) : n.masked.bits = n.bits := by
  cases n with
  | v4 n =>
    exact congrArg Sum.inl ((topBits_eq_iff n.le).mpr
      ((bitsAgree_and_mask n.le _ _).mpr fun _ _ => rfl))
  | v6 n =>
    exact congrArg Sum.inr ((topBits_eq_iff n.le).mpr
      ((bitsAgree_and_mask n.le _ _).mpr fun _ _ => rfl))

lemma IpNetwork.masked_masked (n : IpNetwork) : n.masked.masked = n.masked :=
  bits_eq_iff.mp n.bits_masked

namespace IpSet

/-- The length counts the networks that differ behind the mask. -/
lemma len_fromNetworks (networks : List IpNetwork) :
    (fromNetworks networks).len = (networks.map IpNetwork.masked).toFinset.card := by
  obtain ⟨h4, h6⟩ := paths_foldl_insert networks default
  let words := (networks.map IpNetwork.bits).toFinset
  have hleft : (fromNetworks networks).v4.paths = words.toLeft := by
    rw [fromNetworks, h4]
    ext w
    simp only [Set.mem_union, Set.mem_ofPred_eq, Finset.mem_coe, Finset.mem_toLeft, words,
      List.mem_toFinset, List.mem_map]
    constructor
    · rintro (⟨n, hn, rfl⟩ | hw)
      · exact ⟨.v4 n, hn, rfl⟩
      · simp [default] at hw
    · rintro ⟨n | n, hn, hbits⟩
      · exact Or.inl ⟨n, hn, (Sum.inl.inj hbits).symm⟩
      · cases hbits
  have hright : (fromNetworks networks).v6.paths = words.toRight := by
    rw [fromNetworks, h6]
    ext w
    simp only [Set.mem_union, Set.mem_ofPred_eq, Finset.mem_coe, Finset.mem_toRight, words,
      List.mem_toFinset, List.mem_map]
    constructor
    · rintro (⟨n, hn, rfl⟩ | hw)
      · exact ⟨.v6 n, hn, rfl⟩
      · simp [default] at hw
    · rintro ⟨n | n, hn, hbits⟩
      · cases hbits
      · exact Or.inl ⟨n, hn, (Sum.inr.inj hbits).symm⟩
  have hwords : words = (networks.map IpNetwork.masked).toFinset.image IpNetwork.bits := by
    ext w
    simp [words, IpNetwork.bits_masked]
  rw [len, IpTrie.len, IpTrie.len, IpTrie.entries_eq, IpTrie.entries_eq, hleft, hright,
    Set.ncard_coe_finset, Set.ncard_coe_finset, Finset.card_toLeft_add_card_toRight, hwords,
    Finset.card_image_of_injOn]
  intro n hn n' hn' h
  simp only [List.coe_toFinset, List.mem_map, Set.mem_ofPred_eq] at hn hn'
  obtain ⟨m, -, rfl⟩ := hn
  obtain ⟨m', -, rfl⟩ := hn'
  simpa [IpNetwork.masked_masked] using IpNetwork.bits_eq_iff.mp h

lemma isEmpty_iff (networks : List IpNetwork) :
    (fromNetworks networks).isEmpty = true ↔ ∀ ip, (fromNetworks networks).contains ip = false := by
  by_cases hnetworks : networks = []
  · rw [hnetworks]
    refine iff_of_true rfl fun ip => ?_
    simpa using (contains_fromNetworks_iff [] ip).not.mpr (by simp)
  · rw [isEmpty_fromNetworks hnetworks]
    refine iff_of_false (by simp) fun h => ?_
    obtain ⟨network, hmem⟩ := List.exists_mem_of_ne_nil networks hnetworks
    -- a network covers its own address
    obtain ⟨ip, hcovers⟩ : ∃ ip, network.Covers ip := by
      cases network with
      | v4 n => exact ⟨.v4 n.network, fun _ _ => rfl⟩
      | v6 n => exact ⟨.v6 n.network, fun _ _ => rfl⟩
    have hcontains := (contains_fromNetworks_iff networks ip).mpr ⟨network, hmem, hcovers⟩
    simp [h ip] at hcontains

end IpSet

/-! ### All insertions -/

/-- An address has no bits behind its prefix. -/
lemma masked_fromIp (ip : IpAddr) : (IpNetwork.fromIp ip).masked = .fromIp ip := by
  have hmask : ∀ {w : ℕ} (a : BitVec w), 0 < w → a &&& mask w w = a := by
    intro w a hw
    rw [mask, if_neg hw.ne', Nat.sub_self, BitVec.shiftLeft_zero, BitVec.and_allOnes]
  cases ip <;> simp [IpNetwork.fromIp, IpNetwork.masked, Network.masked, hmask]

lemma masked_of_parseNetwork [StdParse] {value : String} {n : IpNetwork}
    (h : parseNetwork value = .ok n) : n.masked = n := by
  obtain ⟨a, p, -, hmask⟩ := reads_of_parseNetwork h
  cases a with
  | v4 a =>
    simp only [maskNetwork] at hmask
    split_ifs at hmask
    cases hmask
    simp [IpNetwork.masked, Network.masked, BitVec.and_assoc]
  | v6 a =>
    simp only [maskNetwork] at hmask
    split_ifs at hmask
    cases hmask
    simp [IpNetwork.masked, Network.masked, BitVec.and_assoc]

/-- Whatever is inserted, the node tables stay trees that lose nothing, and the entries are the
terminal nodes, one for each different prefix. So the length of a set counts its networks, and a set
is empty when it contains no address. -/
theorem entries_counted [StdParse] :
    (∀ (BITS : ℕ) (insertions : List (ℕ × ℕ)), (∀ i ∈ insertions, i.2 ≤ BITS) →
      let t : IpTrie BITS := IpTrie.default.insertAll insertions
      IsTree (child t.nodes) t.nodes.length ∧
      (∀ k < t.nodes.length, ∃! w, walk (child t.nodes) 0 w = some k) ∧
      (∀ earlier later, insertions = earlier ++ later →
        Extends (IpTrie.default.insertAll earlier : IpTrie BITS).nodes t.nodes) ∧
      t.entries = ((Finset.range t.nodes.length).filter fun k => terminal t.nodes k).card ∧
      t.entries = (insertions.map fun i => (topBits BITS i.1 i.2, i.2)).toFinset.card) ∧
    (∀ networks, (IpSet.fromNetworks networks).len =
      (networks.map IpNetwork.masked).toFinset.card) ∧
    (∀ ip, (IpNetwork.fromIp ip).masked = .fromIp ip) ∧
    (∀ value n, parseNetwork value = .ok n → n.masked = n) ∧
    ∀ networks, (IpSet.fromNetworks networks).isEmpty = true ↔
      ∀ ip, (IpSet.fromNetworks networks).contains ip = false := by
  refine ⟨?_, IpSet.len_fromNetworks, masked_fromIp, fun _ _ => masked_of_parseNetwork,
    IpSet.isEmpty_iff⟩
  intro BITS insertions _
  let t : IpTrie BITS := IpTrie.default.insertAll insertions
  refine ⟨t.wf.tree, ?_, ?_, t.wf.count, IpTrie.entries_insertAll insertions⟩
  · intro k hk
    obtain ⟨w, hw⟩ := t.wf.tree.exists_walk hk
    exact ⟨w, hw, fun w' hw' => t.wf.tree.walk_injective hw' hw⟩
  · rintro earlier later rfl
    rw [IpTrie.insertAll, IpTrie.insertAll, List.foldl_append]
    exact IpTrie.extends_insertAll _ later

section Loopback

attribute [local instance] dottedParse

/-- The loopback network twice, once with bits behind its prefix, and everything. -/
def loopback : List IpNetwork :=
  [.v4 ⟨0x7f000000#32, 8, by decide⟩, .v4 ⟨0x7f000001#32, 8, by decide⟩, .v4 ⟨0, 0, by decide⟩]

theorem entries_counted_loopback :
    (IpTrie.default.insertAll [(0x7f000000, 8), (0x7f000001, 8), (0, 0)] : IpTrie 32).entries =
      ([(0x7f000000, 8), (0x7f000001, 8), (0, 0)].map fun i =>
        (topBits 32 i.1 i.2, i.2)).toFinset.card ∧
    (IpSet.fromNetworks loopback).len = 2 := by
  obtain ⟨htries, hlen, -⟩ := entries_counted
  obtain ⟨-, -, -, -, hentries⟩ :=
    htries 32 [(0x7f000000, 8), (0x7f000001, 8), (0, 0)] (by decide)
  exact ⟨hentries, (hlen loopback).trans (by decide)⟩

end Loopback

end TransferGateway

import TransferGateway.Config.Selection
import TransferGateway.Lib.Mixing

/-!
# Groups in random mode

The index is drawn from the counter of the group by mixing it. The mixing permutes the words, so all
words together draw every host equally often, but for one.
-/

namespace TransferGateway

open Mixing

/-! ### The mixing -/

/-- The steps of `pseudoRandomIndex` before the modulus. -/
def mixSequence (sequence : UInt64) : UInt64 :=
  let value := sequence * 6364136223846793005 + 1442695040888963407
  let value := value ^^^ (value >>> 33)
  let value := value * 1099511628211
  value ^^^ (value >>> 29)

lemma pseudoRandomIndex_eq (sequence : UInt64) (length : ℕ) :
    pseudoRandomIndex sequence length = remainder (mixSequence sequence) length := rfl

lemma toBitVec_mixSequence (sequence : UInt64) :
    (mixSequence sequence).toBitVec =
      xorShift 29 (multiplyAdd 1099511628211 0
        (xorShift 33 (multiplyAdd 6364136223846793005 1442695040888963407 sequence.toBitVec))) := by
  simp [mixSequence, xorShift, multiplyAdd]

lemma mixSequence_injective : Function.Injective mixSequence := by
  intro sequence sequence' h
  apply UInt64.toBitVec_inj.mp
  have hsteps := congrArg UInt64.toBitVec h
  rw [toBitVec_mixSequence, toBitVec_mixSequence] at hsteps
  exact multiplyAdd_injective (by decide) (xorShift_injective (by decide)
    (multiplyAdd_injective (by decide) (xorShift_injective (by decide) hsteps)))

/-- The values of a counter. -/
def sequenceEquiv : UInt64 ≃ Fin (2 ^ 64) where
  toFun sequence := sequence.toBitVec.toFin
  invFun k := ⟨⟨k⟩⟩

lemma mixSequence_bijective : Function.Bijective mixSequence :=
  have : Finite UInt64 := .of_equiv _ sequenceEquiv.symm
  Finite.injective_iff_bijective.mp mixSequence_injective

/-! ### The draws -/

lemma pseudoRandomIndex_of_pos {length : ℕ} (h : 1 ≤ length) (sequence : UInt64) :
    pseudoRandomIndex sequence length = .ok ((mixSequence sequence).toNat % length) := by
  rw [pseudoRandomIndex_eq, remainder_of_pos h]

/-- How many values of the counter draw an index. -/
lemma card_pseudoRandomIndex {length index : ℕ} (h : index < length) :
    Nat.card {sequence // pseudoRandomIndex sequence length = .ok index} =
      2 ^ 64 / length + if index < 2 ^ 64 % length then 1 else 0 := by
  have hdraw : ∀ sequence, pseudoRandomIndex sequence length = .ok index ↔
      (sequenceEquiv (mixSequence sequence) : ℕ) % length = index := by
    intro sequence
    rw [pseudoRandomIndex_of_pos (Nat.zero_lt_of_lt h), Except.ok.injEq]
    rfl
  simp only [hdraw]
  exact card_place (sequenceEquiv.bijective.comp mixSequence_bijective) h

/-! ### Selections one after the other -/

namespace RoutingGroup

/-- The index the group draws `k` selections on. -/
def drawnIndex (group : RoutingGroup) (counters : Counters) (k : ℕ) : ℕ :=
  (mixSequence (counters group.counter + UInt64.ofNat k)).toNat % group.hosts.length

variable {group : RoutingGroup}

/-- Over a full round of the counter every index has its share. -/
lemma count_drawnIndex (counters : Counters) {index : ℕ} (h : index < group.hosts.length) :
    ((List.range (2 ^ 64)).map (group.drawnIndex counters)).count index =
      2 ^ 64 / group.hosts.length + if index < 2 ^ 64 % group.hosts.length then 1 else 0 := by
  have hround : Function.Bijective fun k : Fin (2 ^ 64) =>
      sequenceEquiv (mixSequence (counters group.counter + UInt64.ofNat k)) := by
    apply Finite.injective_iff_bijective.mp
    intro k k' heq
    have hsum := mixSequence_injective (sequenceEquiv.injective heq)
    have hmod := congrArg UInt64.toNat (UInt64.add_right_inj _ |>.mp hsum)
    simpa [UInt64.toNat_ofNat', Nat.mod_eq_of_lt k.isLt, Nat.mod_eq_of_lt k'.isLt, Fin.ext_iff]
      using hmod
  exact count_place hround h

variable [StdCase] [StdHash]

/-- The selections of clients that come one after the other, by their balance keys. -/
def selectTargets (group : RoutingGroup) :
    List String → Counters → Except Panic (List LineTarget × Counters)
  | [], counters => pure ([], counters)
  | balanceKey :: balanceKeys, counters => do
    let (target, counters) ← group.selectTarget balanceKey counters
    let (targets, counters) ← group.selectTargets balanceKeys counters
    return (target :: targets, counters)

lemma selectTarget_random (hmode : parseGroupMode group.mode = some .random)
    (hhosts : 1 ≤ group.hosts.length) (balanceKey : String) (counters : Counters) :
    group.selectTarget balanceKey counters =
      .ok (group.targetAt (group.drawnIndex counters 0),
        Function.update counters group.counter (counters group.counter + 1)) := by
  refine selectTarget_of_selectIndex ?_ (Nat.mod_lt _ hhosts)
  simp [selectIndex, hmode, pseudoRandomIndex_of_pos hhosts, drawnIndex, bind, Except.bind, pure,
    Except.pure]

lemma selectTargets_random (hmode : parseGroupMode group.mode = some .random)
    (hhosts : 1 ≤ group.hosts.length) (balanceKeys : List String) (counters : Counters) :
    ∃ counters', group.selectTargets balanceKeys counters =
      .ok (((List.range balanceKeys.length).map (group.drawnIndex counters)).map group.targetAt,
        counters') := by
  induction balanceKeys generalizing counters with
  | nil => exact ⟨counters, rfl⟩
  | cons balanceKey balanceKeys ih =>
    let next := Function.update counters group.counter (counters group.counter + 1)
    obtain ⟨counters', hrest⟩ := ih next
    -- the later selections draw from the counter behind this one
    have hdrawn : group.drawnIndex next = fun k => group.drawnIndex counters (k + 1) := by
      funext k
      simp [drawnIndex, next, UInt64.ofNat_add, UInt64.add_assoc, UInt64.add_comm 1]
    refine ⟨counters', ?_⟩
    rw [selectTargets, selectTarget_random hmode hhosts]
    simp only [bind, Except.bind]
    rw [show Function.update counters group.counter (counters group.counter + 1) = next from rfl,
      hrest, hdrawn, List.length_cons, List.range_succ_eq_map]
    simp [pure, Except.pure, Function.comp_def]

end RoutingGroup

/-- For every length the index is below it, the mixing is a permutation, and the indices are drawn
equally often; so a group in random mode selects each of its hosts, whatever its counter holds. -/
theorem pseudoRandomIndex_draws_all [StdCase] [StdHash] :
    Function.Bijective mixSequence ∧
    (∀ sequence length, pseudoRandomIndex sequence length =
      remainder (mixSequence sequence) length) ∧
    (∀ length, 1 ≤ length →
      (∀ sequence, ∃ index < length, pseudoRandomIndex sequence length = .ok index) ∧
      ∀ index < length,
        let draws := Nat.card {sequence // pseudoRandomIndex sequence length = .ok index}
        draws = 2 ^ 64 / length ∨ draws = 2 ^ 64 ⌈/⌉ length) ∧
    ∀ group : RoutingGroup, parseGroupMode group.mode = some .random → 1 ≤ group.hosts.length →
      ∀ balanceKeys counters, ∃ (indices : List ℕ) (counters' : Counters),
        group.selectTargets balanceKeys counters = .ok (indices.map group.targetAt, counters') ∧
        (balanceKeys.length = 2 ^ 64 → ∀ index < group.hosts.length,
          (indices.count index = 2 ^ 64 / group.hosts.length ∨
            indices.count index = 2 ^ 64 ⌈/⌉ group.hosts.length) ∧
          (group.hosts.length < 2 ^ 64 → index ∈ indices)) := by
  refine ⟨mixSequence_bijective, pseudoRandomIndex_eq, ?_, ?_⟩
  · intro length hlength
    constructor
    · intro sequence
      exact ⟨_, Nat.mod_lt _ hlength, pseudoRandomIndex_of_pos hlength sequence⟩
    · intro index hindex
      simp only [card_pseudoRandomIndex hindex]
      exact share_eq (2 ^ 64) hlength
  · intro group hmode hhosts balanceKeys counters
    obtain ⟨counters', htargets⟩ :=
      group.selectTargets_random hmode hhosts balanceKeys counters
    refine ⟨_, counters', htargets, fun hround index hindex => ?_⟩
    have hcount := group.count_drawnIndex counters hindex
    rw [hround, hcount]
    refine ⟨share_eq (2 ^ 64) hhosts, fun hlt => ?_⟩
    -- no more hosts than counter values, so the share is not zero
    apply List.count_pos_iff.mp
    rw [hcount]
    exact Nat.add_pos_left (Nat.div_pos hlt.le hhosts) _

section Lobbies

attribute [local instance] asciiCase noHash

def lobbies : RoutingGroup where
  priority := 0
  groupName := "lobbies"
  mode := "random"
  port := 25565
  resolveSrv := false
  hosts := ["a.example", "b.example", "c.example"]
  counter := 0

theorem pseudoRandomIndex_draws_all_lobbies :
    (∃ index < 3, pseudoRandomIndex 11 3 = .ok index) ∧
    ∃ (indices : List ℕ) (counters' : Counters),
      lobbies.selectTargets (List.replicate (2 ^ 64) "Steve") (fun _ => 7) =
        .ok (indices.map lobbies.targetAt, counters') ∧ 2 ∈ indices := by
  obtain ⟨-, -, hlengths, hgroups⟩ := pseudoRandomIndex_draws_all
  obtain ⟨hbelow, -⟩ := hlengths 3 (by decide)
  obtain ⟨indices, counters', htargets, hround⟩ :=
    hgroups lobbies (by decide) (by decide) (List.replicate (2 ^ 64) "Steve") fun _ => 7
  have hlast := (hround List.length_replicate 2 (by decide)).2 (by decide)
  exact ⟨hbelow 11, indices, counters', htargets, hlast⟩

end Lobbies

end TransferGateway

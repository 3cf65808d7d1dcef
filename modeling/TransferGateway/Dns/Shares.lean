import TransferGateway.Dns
import TransferGateway.Lib.Rotation
import TransferGateway.Lib.Weighted

/-!
# The shares of SRV records

Among the records of the lowest priority value, the sequence numbers go round the slots of the
weights. The slots give the records their shares, and they leave out what they do not reach.
-/

namespace TransferGateway

namespace SrvTarget

/-! ### The candidates -/

/-- The records of the lowest priority value, in the order of the answer. -/
def lowest (records : List SrvTarget) : List SrvTarget :=
  records.filter fun record => records.all fun other => record.priority ≤ other.priority

/-- The records without weight come first. -/
def candidates (records : List SrvTarget) : List SrvTarget :=
  (lowest records).filter (·.weight == 0) ++ (lowest records).filter (·.weight != 0)

abbrev totalWeight (records : List SrvTarget) : ℕ :=
  Weighted.total (fun record => record.weight.toNat) (candidates records)

/-- The number of sequence numbers after which the selection comes round. -/
def period (records : List SrvTarget) : ℕ :=
  if totalWeight records = 0 then (candidates records).length else totalWeight records + 1

variable {records : List SrvTarget}

lemma mem_lowest {record : SrvTarget} : record ∈ lowest records ↔
    record ∈ records ∧ ∀ other ∈ records, record.priority ≤ other.priority := by
  simp [lowest]

lemma candidates_perm (records : List SrvTarget) : (candidates records).Perm (lowest records) :=
  List.filter_append_perm ..

lemma mem_candidates {record : SrvTarget} :
    record ∈ candidates records ↔ record ∈ lowest records :=
  (candidates_perm records).mem_iff

lemma totalWeight_eq (records : List SrvTarget) :
    totalWeight records = Weighted.total (·.weight.toNat) (lowest records) :=
  ((candidates_perm records).map _).sum_eq

lemma weight_eq_zero_of_totalWeight (h : totalWeight records = 0) {record : SrvTarget}
    (hrecord : record ∈ lowest records) : record.weight = 0 := by
  rw [totalWeight_eq, Weighted.total, List.sum_eq_zero_iff] at h
  exact UInt16.toNat_inj.mp (h _ (List.mem_map_of_mem hrecord))

/-- The smallest priority value, and the records that have it. -/
lemma min?_priority (h : records ≠ []) :
    ∃ priority, (records.map (·.priority)).min? = some priority ∧
      records.filter (·.priority == priority) = lowest records ∧ lowest records ≠ [] := by
  cases hmin : (records.map (·.priority)).min? with
  | none =>
    rw [List.min?_eq_none_iff, List.map_eq_nil_iff] at hmin
    exact absurd hmin h
  | some priority =>
    rw [List.min?_eq_some_iff] at hmin
    obtain ⟨hmem, hle⟩ := hmin
    obtain ⟨least, hleast, rfl⟩ := List.mem_map.mp hmem
    have hle' : ∀ other ∈ records, least.priority ≤ other.priority :=
      fun other hother => hle _ (List.mem_map_of_mem hother)
    refine ⟨least.priority, rfl, ?_, List.ne_nil_of_mem (mem_lowest.mpr ⟨hleast, hle'⟩)⟩
    apply List.filter_congr
    intro record hrecord
    rw [Bool.eq_iff_iff, beq_iff_eq, List.all_eq_true]
    simp only [decide_eq_true_eq]
    constructor
    · intro heq other hother
      rw [heq]
      exact hle' other hother
    · exact fun hrest => UInt16.le_antisymm (hrest least hleast) (hle' record hrecord)

lemma candidates_ne_nil (h : records ≠ []) : candidates records ≠ [] := by
  obtain ⟨-, -, -, hlowest⟩ := min?_priority h
  intro hnil
  exact hlowest (List.nil_perm.mp (hnil ▸ candidates_perm records))

lemma period_pos (h : records ≠ []) : 0 < period records := by
  rw [period]
  split
  · exact List.length_pos_iff.mpr (candidates_ne_nil h)
  · exact Nat.succ_pos _

/-! ### The slots -/

/-- What a slot of the period picks. -/
def choose (records : List SrvTarget) (slot : ℕ) : Option SrvTarget :=
  if totalWeight records = 0 then (candidates records)[slot]?
  else Weighted.pick (·.weight.toNat) slot (candidates records)

lemma selectByWeight_eq (slot : ℕ) (l : List SrvTarget) (running : ℕ) :
    selectByWeight slot l running = Weighted.pick (·.weight.toNat) (slot - running) l := by
  induction l generalizing running with
  | nil => rfl
  | cons record l ih =>
    rw [selectByWeight, Weighted.pick]
    by_cases hslot : slot ≤ running + record.weight.toNat
    · rw [if_pos (by omega), if_pos (by omega)]
    · rw [if_neg (by omega), if_neg (by omega), ih]
      congr 1
      omega

/-- The scan ends at a candidate, before its fallback to the last one. -/
lemma selectByWeight_isSome (h : records ≠ []) {slot : ℕ} (hslot : slot ≤ totalWeight records) :
    (selectByWeight slot (candidates records) 0).isSome = true := by
  rw [selectByWeight_eq]
  exact Weighted.pick_isSome (candidates_ne_nil h) hslot

/-- The fallback to the last candidate is not reached. -/
lemma selectSrvTarget_scan (h : records ≠ []) (sequence : UInt64) :
    selectSrvTarget records sequence =
      if totalWeight records = 0 then
        (candidates records)[sequence.toNat % (candidates records).length]?
      else selectByWeight (sequence.toNat % (totalWeight records + 1)) (candidates records) 0 := by
  obtain ⟨priority, hmin, hlowest, -⟩ := min?_priority h
  have hcandidates : (lowest records).filter (·.weight == 0) ++
      (lowest records).filter (·.weight != 0) = candidates records := rfl
  have htotal : ((candidates records).map (·.weight.toNat)).sum = totalWeight records := rfl
  have hsome := selectByWeight_isSome h (Nat.le_of_lt_succ (Nat.mod_lt sequence.toNat
    (Nat.succ_pos (totalWeight records))))
  simp only [selectSrvTarget, hmin, hlowest, hcandidates, htotal, Option.bind_eq_bind,
    Option.bind_some]
  rw [Option.or_of_isSome hsome]

lemma selectSrvTarget_eq (h : records ≠ []) (sequence : UInt64) :
    selectSrvTarget records sequence = choose records (sequence.toNat % period records) := by
  rw [selectSrvTarget_scan h, choose, period]
  split
  · rfl
  · rw [selectByWeight_eq]
    rfl

lemma choose_isSome {slot : ℕ} (h : slot < period records) :
    (choose records slot).isSome = true := by
  rw [period] at h
  rw [choose]
  split
  · rename_i hzero
    rw [if_pos hzero] at h
    simpa using h
  · rename_i htotal
    rw [if_neg htotal] at h
    refine Weighted.pick_isSome ?_ (Nat.le_of_lt_succ h)
    intro hnil
    simp [totalWeight, hnil] at htotal

lemma mem_lowest_of_choose {slot : ℕ} {record : SrvTarget} (h : choose records slot = some record) :
    record ∈ lowest records := by
  rw [choose] at h
  rw [← mem_candidates]
  split at h
  · exact List.mem_of_getElem? h
  · exact Weighted.mem_of_pick h

/-- A record of the lowest class, whatever the sequence number. -/
lemma selectSrvTarget_mem (h : records ≠ []) (sequence : UInt64) :
    ∃ record ∈ lowest records, selectSrvTarget records sequence = some record := by
  rw [selectSrvTarget_eq h]
  obtain ⟨record, hrecord⟩ := Option.isSome_iff_exists.mp
    (choose_isSome (Nat.mod_lt sequence.toNat (period_pos h)))
  exact ⟨record, mem_lowest_of_choose hrecord, hrecord⟩

/-- Which records a period picks: all of them when none has a weight, and otherwise those with a
weight and the first candidate. -/
lemma exists_choose_iff {record : SrvTarget} (hrecord : record ∈ lowest records) :
    (∃ slot < period records, choose records slot = some record) ↔
      totalWeight records = 0 ∨ record.weight ≠ 0 ∨ (candidates records).head? = some record := by
  simp only [period, choose]
  split
  · rename_i hzero
    obtain ⟨i, hi, hget⟩ := List.mem_iff_getElem.mp (mem_candidates.mpr hrecord)
    exact iff_of_true ⟨i, hi, by rw [List.getElem?_eq_getElem hi, hget]⟩ (.inl hzero)
  · rename_i htotal
    have hcount := @Weighted.count_pick _ (·.weight.toNat) _ (candidates records) record
    have hpos : 0 < (candidates records).count record :=
      List.count_pos_iff.mpr (mem_candidates.mpr hrecord)
    rw [← Nat.count_ne_iff_exists, hcount]
    simp only [htotal, false_or, ne_eq, Nat.add_eq_zero_iff, Nat.mul_eq_zero, hpos.ne',
      ite_eq_right_iff, one_ne_zero, imp_false, not_and_or, not_not, ← UInt16.toNat_inj,
      UInt16.toNat_zero]

/-! ### The sequence numbers -/

section Sequence

/-- How often a record is selected by so many sequence numbers, one after the other. -/
def timesSelected (records : List SrvTarget) (start turns : ℕ) (record : SrvTarget) : ℕ :=
  Nat.count (fun i => selectSrvTarget records (.ofNat (start + i)) = some record) turns

lemma selectSrvTarget_ofNat (h : records ≠ []) {n : ℕ} (hn : n < 2 ^ 64) :
    selectSrvTarget records (.ofNat n) = choose records (n % period records) := by
  rw [selectSrvTarget_eq h, UInt64.toNat_ofNat_of_lt' hn]

lemma periodic_choose (records : List SrvTarget) (record : SrvTarget) : Function.Periodic
    (fun n => choose records (n % period records) = some record) (period records) := by
  intro n
  simp only [Nat.add_mod_right]

/-- Over whole periods every record has its share. -/
lemma timesSelected_eq (h : records ≠ []) {start periods : ℕ}
    (hwrap : start + periods * period records ≤ 2 ^ 64) (record : SrvTarget) :
    timesSelected records start (periods * period records) record =
      periods * Nat.count (fun slot => choose records slot = some record) (period records) := by
  have hslots : Nat.count (fun n => choose records (n % period records) = some record)
      (period records) = Nat.count (fun slot => choose records slot = some record)
      (period records) := by
    apply Rotation.count_congr
    intro n hn
    rw [Nat.mod_eq_of_lt hn]
  rw [timesSelected, ← hslots, ← Rotation.count_periods (periodic_choose records record) start]
  apply Rotation.count_congr
  intro i hi
  rw [selectSrvTarget_ofNat h (by omega)]

lemma exists_selected_iff (h : records ≠ []) {start : ℕ} (hwrap : start + period records ≤ 2 ^ 64)
    (record : SrvTarget) :
    (∃ i < period records, selectSrvTarget records (.ofNat (start + i)) = some record) ↔
      ∃ slot < period records, choose records slot = some record := by
  have hslots : (∃ n < period records, choose records (n % period records) = some record) ↔
      ∃ slot < period records, choose records slot = some record :=
    exists_congr fun n => and_congr_right fun hn => by rw [Nat.mod_eq_of_lt hn]
  rw [← hslots, ← Rotation.exists_in_period (periodic_choose records record) start]
  refine exists_congr fun i => and_congr_right fun hi => ?_
  rw [selectSrvTarget_ofNat h (by omega)]

end Sequence

/-! ### Shares -/

lemma candidates_eq_lowest (h : ∀ record ∈ lowest records, record.weight ≠ 0) :
    candidates records = lowest records := by
  have hzero : (lowest records).filter (·.weight == 0) = [] :=
    List.filter_eq_nil_iff.mpr fun record hrecord => by simpa using h record hrecord
  have hweight : (lowest records).filter (·.weight != 0) = lowest records :=
    List.filter_eq_self.mpr fun record hrecord => by simpa using h record hrecord
  rw [candidates, hzero, hweight, List.nil_append]

/-- When every record of the lowest class has a weight, each is selected as often as it weighs in
every period, and the first one once more. -/
theorem selectSrvTarget_shares (hpos : ∀ record ∈ lowest records, record.weight ≠ 0)
    {start periods : ℕ}
    (hwrap : start + periods * (((lowest records).map (·.weight.toNat)).sum + 1) ≤ 2 ^ 64) :
    let times := timesSelected records start
      (periods * (((lowest records).map (·.weight.toNat)).sum + 1))
    (∀ record, times record = periods * ((lowest records).count record * record.weight.toNat +
      if (lowest records).head? = some record then 1 else 0)) ∧
    ∀ i ∈ lowest records, ∀ j ∈ lowest records,
      (lowest records).head? ≠ some i → (lowest records).head? ≠ some j →
      times i * ((lowest records).count j * j.weight.toNat) =
        times j * ((lowest records).count i * i.weight.toNat) := by
  intro times
  have htimes : ∀ record, times record = periods * ((lowest records).count record *
      record.weight.toNat + if (lowest records).head? = some record then 1 else 0) := by
    intro record
    rcases eq_or_ne records [] with rfl | hne
    · have hnone : timesSelected [] start (periods * (0 + 1)) record = 0 :=
        Nat.count_iff_forall_not.mpr fun i _ => by simp [selectSrvTarget]
      exact hnone.trans (by simp [lowest])
    · have hcandidates := candidates_eq_lowest hpos
      have htotal : totalWeight records ≠ 0 := by
        obtain ⟨-, -, -, hlowest⟩ := min?_priority hne
        obtain ⟨record, hrecord⟩ := List.exists_mem_of_ne_nil _ hlowest
        exact fun hzero => hpos record hrecord (weight_eq_zero_of_totalWeight hzero hrecord)
      have hperiod : ((lowest records).map (·.weight.toNat)).sum + 1 = period records := by
        rw [period, if_neg htotal, totalWeight_eq]
        rfl
      have hchoose : ∀ slot, choose records slot =
          Weighted.pick (·.weight.toNat) slot (lowest records) := by
        intro slot
        rw [choose, if_neg htotal, hcandidates]
      dsimp only [times]
      rw [hperiod] at hwrap ⊢
      rw [timesSelected_eq hne hwrap, ← hperiod]
      simp only [hchoose]
      exact congrArg _ (Weighted.count_pick ..)
  refine ⟨htimes, fun i _ j _ hi hj => ?_⟩
  rw [htimes i, htimes j, if_neg hi, if_neg hj]
  ring

/-- Weights of one and three, over two periods. -/
theorem selectSrvTarget_shares_two :
    let light : SrvTarget := ⟨10, 1, "a.example.com", 25565⟩
    let heavy : SrvTarget := ⟨10, 3, "b.example.com", 25565⟩
    timesSelected [light, heavy] 7 10 light = 4 ∧ timesSelected [light, heavy] 7 10 heavy = 6 := by
  intro light heavy
  have hweights : ∀ record ∈ lowest [light, heavy], record.weight ≠ 0 := by decide
  have hwrap : 7 + 2 * (((lowest [light, heavy]).map (·.weight.toNat)).sum + 1) ≤ 2 ^ 64 := by
    decide
  have hshares := (selectSrvTarget_shares hweights hwrap).1
  exact ⟨hshares light, hshares heavy⟩

/-- Of two records of the same weight, the first is selected twice as often as the second. -/
theorem selectSrvTarget_shares_differ :
    let first : SrvTarget := ⟨10, 1, "a.example.com", 25565⟩
    let second : SrvTarget := ⟨10, 1, "b.example.com", 25565⟩
    lowest [first, second] = [first, second] ∧
    timesSelected [first, second] 0 (1 * (1 + 1 + 1)) first * second.weight.toNat ≠
      timesSelected [first, second] 0 (1 * (1 + 1 + 1)) second * first.weight.toNat := by
  decide

/-! ### Starvation -/

/-- Every record of the lowest class is selected in each period. -/
def Unstarved (records : List SrvTarget) : Prop :=
  ∀ record ∈ lowest records, ∀ start, start + period records ≤ 2 ^ 64 →
    ∃ i < period records, selectSrvTarget records (.ofNat (start + i)) = some record

/-- No record of the lowest class has a weight, or only one of them has none. -/
def OneWeightless (records : List SrvTarget) : Prop :=
  (∀ record ∈ lowest records, record.weight = 0) ∨
    ∀ a ∈ lowest records, ∀ b ∈ lowest records, a.weight = 0 → b.weight = 0 → a = b

lemma totalWeight_eq_zero_iff :
    totalWeight records = 0 ↔ ∀ record ∈ lowest records, record.weight = 0 := by
  refine ⟨fun h record => weight_eq_zero_of_totalWeight h, fun h => ?_⟩
  rw [totalWeight_eq, Weighted.total, List.sum_eq_zero_iff]
  intro n hn
  obtain ⟨record, hrecord, rfl⟩ := List.mem_map.mp hn
  rw [h record hrecord]
  rfl

/-- The first candidate is a record without weight, if there is one. -/
lemma head?_candidates {record : SrvTarget} (hrecord : record ∈ lowest records)
    (hweight : record.weight = 0) :
    ∃ first ∈ lowest records, first.weight = 0 ∧ (candidates records).head? = some first := by
  have hmem : record ∈ (lowest records).filter (·.weight == 0) :=
    List.mem_filter.mpr ⟨hrecord, by simpa using hweight⟩
  rw [candidates]
  cases hzero : (lowest records).filter (·.weight == 0) with
  | nil =>
    rw [hzero] at hmem
    cases hmem
  | cons first rest =>
    have hfirst : first ∈ (lowest records).filter (·.weight == 0) := hzero ▸ List.mem_cons_self
    obtain ⟨hfirst, hfirst0⟩ := List.mem_filter.mp hfirst
    exact ⟨first, hfirst, by simpa using hfirst0, rfl⟩

/-- Every record has a slot exactly when no two records without weight compete for the first. -/
lemma forall_exists_choose_iff : (∀ record ∈ lowest records, ∃ slot < period records,
    choose records slot = some record) ↔ OneWeightless records := by
  rw [OneWeightless, ← totalWeight_eq_zero_iff]
  constructor
  · intro h
    apply or_iff_not_imp_left.mpr
    intro htotal a ha b hb hwa hwb
    have hfirst : ∀ record ∈ lowest records, record.weight = 0 →
        (candidates records).head? = some record := by
      intro record hrecord hweight
      rcases (exists_choose_iff hrecord).mp (h record hrecord) with hzero | hne | hhead
      · exact absurd hzero htotal
      · exact absurd hweight hne
      · exact hhead
    exact Option.some.inj ((hfirst a ha hwa).symm.trans (hfirst b hb hwb))
  · intro h record hrecord
    rw [exists_choose_iff hrecord]
    rcases h with htotal | hone
    · exact .inl htotal
    · by_cases hweight : record.weight = 0
      · obtain ⟨first, hfirst, hfirst0, hhead⟩ := head?_candidates hrecord hweight
        rw [hone record hrecord first hfirst hweight hfirst0]
        exact .inr (.inr hhead)
      · exact .inr (.inl hweight)

/-- Every record of the lowest class is selected in each period exactly when none of them has a
weight or at most one has none; otherwise there is one that no sequence number selects. -/
theorem unstarved_iff (records : List SrvTarget) :
    (period records ≤ 2 ^ 64 → (Unstarved records ↔ OneWeightless records)) ∧
    (¬OneWeightless records → ∃ record ∈ lowest records,
      ∀ sequence, selectSrvTarget records sequence ≠ some record) := by
  rcases eq_or_ne records [] with rfl | hne
  · exact ⟨fun _ => iff_of_true (by simp [Unstarved, lowest]) (.inl (by simp [lowest])),
      fun h => absurd (.inl (by simp [lowest])) h⟩
  constructor
  · intro hperiod
    rw [← forall_exists_choose_iff]
    constructor
    · intro h record hrecord
      have hwrap : 0 + period records ≤ 2 ^ 64 := by omega
      exact (exists_selected_iff hne hwrap record).mp (h record hrecord 0 hwrap)
    · intro h record hrecord start hwrap
      exact (exists_selected_iff hne hwrap record).mpr (h record hrecord)
  · intro h
    rw [← forall_exists_choose_iff] at h
    push Not at h
    obtain ⟨record, hrecord, hnone⟩ := h
    refine ⟨record, hrecord, fun sequence => ?_⟩
    rw [selectSrvTarget_eq hne]
    exact hnone _ (Nat.mod_lt _ (period_pos hne))

/-- The second of two records without weight is never selected. -/
theorem unstarved_of_weightless :
    let weighted : SrvTarget := ⟨10, 10, "a.example.com", 25565⟩
    let first : SrvTarget := ⟨10, 0, "b.example.com", 25565⟩
    let second : SrvTarget := ⟨10, 0, "c.example.com", 25565⟩
    second ∈ lowest [weighted, first, second] ∧
    ∀ sequence, selectSrvTarget [weighted, first, second] sequence ≠ some second := by
  intro weighted first second
  have hmem : second ∈ lowest [weighted, first, second] := by decide
  refine ⟨hmem, fun sequence hselected => ?_⟩
  rw [selectSrvTarget_eq (by simp)] at hselected
  have hslot := (exists_choose_iff hmem).mp ⟨_, Nat.mod_lt _ (period_pos (by simp)), hselected⟩
  revert hslot
  decide

end SrvTarget

end TransferGateway

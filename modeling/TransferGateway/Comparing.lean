import TransferGateway.Downloads

/-!
# Comparing files

`files_equal` takes the next read of each file by turns and compares what the two returned. A read
may return less than was asked for, so the files are compared in the pieces they happen to come in.
-/

namespace TransferGateway

/-! ### Pieces -/

/-- The pieces an opened file is read in, none of them empty or larger than the buffer. -/
structure IsReadAs (bytes : List UInt8) (chunks : List (List UInt8)) : Prop where
  flatten : chunks.flatten = bytes
  size : ∀ chunk ∈ chunks, 1 ≤ chunk.length ∧ chunk.length ≤ BUFFER_SIZE

lemma isReadAs_pieces {n : ℕ} (sizes : List ℕ) {bytes : List UInt8} (h : bytes.length ≤ n) :
    IsReadAs bytes (pieces n sizes bytes) := by
  refine ⟨pieces_flatten n sizes bytes h, ?_⟩
  induction n generalizing sizes bytes with
  | zero => simp [pieces]
  | succ n ih =>
    cases bytes with
    | nil => simp [pieces]
    | cons byte bytes =>
      rw [pieces, List.forall_mem_cons]
      rw [List.length_cons] at h
      constructor
      · have hbuffer : 1 ≤ BUFFER_SIZE := by decide
        rw [List.length_take, List.length_cons]
        omega
      · apply ih
        rw [List.length_drop, List.length_cons]
        omega

lemma exists_sizes {n : ℕ} {bytes : List UInt8} {chunks : List (List UInt8)}
    (h : IsReadAs bytes chunks) (hn : bytes.length ≤ n) :
    ∃ sizes, pieces n sizes bytes = chunks := by
  induction chunks generalizing n bytes with
  | nil =>
    obtain rfl : [] = bytes := h.flatten
    exact ⟨[], by cases n <;> rfl⟩
  | cons chunk chunks ih =>
    obtain ⟨⟨hpos, hle⟩, hsize⟩ := List.forall_mem_cons.mp h.size
    obtain ⟨byte, rest, rfl⟩ := List.exists_cons_of_length_pos hpos
    obtain rfl := h.flatten
    rw [List.flatten_cons, List.length_append] at hn
    obtain ⟨n, rfl⟩ := Nat.exists_eq_add_of_lt (hpos.trans (Nat.le_of_add_right_le hn))
    obtain ⟨sizes, hsizes⟩ := @ih (0 + n) chunks.flatten ⟨rfl, hsize⟩ (by omega)
    -- the first read is asked for the length of the first piece
    refine ⟨(byte :: rest).length :: sizes, ?_⟩
    have hfirst : max 1 (min (byte :: rest).length BUFFER_SIZE) = (byte :: rest).length := by
      omega
    rw [List.flatten_cons, List.cons_append, pieces, List.headD_cons, List.tail_cons, hfirst,
      ← List.cons_append, List.take_left, List.drop_left, hsizes]

/-- A file is read in the pieces of some sizes, and in no others. -/
lemma isReadAs_iff {bytes : List UInt8} {chunks : List (List UInt8)} :
    IsReadAs bytes chunks ↔ ∃ sizes, pieces bytes.length sizes bytes = chunks := by
  constructor
  · intro h
    exact exists_sizes h le_rfl
  · rintro ⟨sizes, rfl⟩
    exact isReadAs_pieces sizes le_rfl

/-- Pieces of the same sizes are the same when the contents are. -/
lemma IsReadAs.eq_iff {bytes bytes' : List UInt8} {chunks chunks' : List (List UInt8)}
    (h : IsReadAs bytes chunks) (h' : IsReadAs bytes' chunks') :
    chunks = chunks' ↔ bytes = bytes' ∧ chunks.map List.length = chunks'.map List.length := by
  rw [List.eq_iff_flatten_eq, h.flatten, h'.flatten]

/-- Without failures the loop compares the pieces. -/
lemma compareReads_eq (chunks chunks' : List (List UInt8)) :
    compareReads none none chunks chunks' = .ok (decide (chunks = chunks')) := by
  induction chunks generalizing chunks' with
  | nil => cases chunks' <;> simp [compareReads]
  | cons chunk chunks ih =>
    cases chunks' with
    | nil => simp [compareReads]
    | cons chunk' chunks' =>
      rw [compareReads, ih]
      by_cases hchunk : chunk = chunk'
      · simp [hchunk]
      · by_cases hlength : chunk.length = chunk'.length <;> simp [hchunk, hlength]

/-! ### Whole comparisons -/

/-- Nobody else changes the two files, and no operation on them fails. -/
structure Undisturbed (m : ℕ → Prog.Move Choice Sys) (p q : Path) : Prop where
  first : ∀ n s, ((m n).interfere s).files p = s.files p
  second : ∀ n s, ((m n).interfere s).files q = s.files q
  succeeds : ∀ n, (m n).choice.fault = none
  whole : ∀ n, (m n).choice.broken = none

/-- `files_equal` reads the files in these pieces; they are the third and the fourth operation. -/
structure Delivers (m : ℕ → Prog.Move Choice Sys) (p q : Path) (bytes bytes' : List UInt8)
    (chunks chunks' : List (List UInt8)) : Prop extends Undisturbed m p q where
  firstPieces : pieces bytes.length (m 2).choice.sizes bytes = chunks
  secondPieces : pieces bytes'.length (m 3).choice.sizes bytes' = chunks'

lemma exists_delivers {bytes bytes' : List UInt8} {chunks chunks' : List (List UInt8)}
    (h : IsReadAs bytes chunks) (h' : IsReadAs bytes' chunks') (p q : Path) :
    ∃ m, Delivers m p q bytes bytes' chunks chunks' := by
  obtain ⟨sizes, hsizes⟩ := isReadAs_iff.mp h
  obtain ⟨sizes', hsizes'⟩ := isReadAs_iff.mp h'
  exact ⟨fun n => ⟨id, { Choice.calm with sizes := if n = 2 then sizes else sizes' }⟩,
    ⟨fun _ _ => rfl, fun _ _ => rfl, fun _ => rfl, fun _ => rfl⟩, hsizes, hsizes'⟩

/-- The length of an undisturbed file. -/
lemma run_fileLen {m : ℕ → Prog.Move Choice Sys} {p : Path} {s : Sys} {bytes : List UInt8}
    (hfault : (m 0).choice.fault = none) (hp : ((m 0).interfere s).files p = some bytes)
    (f : ℕ → SysProg Bool) :
    (ask (.fileLen p) >>= fun r => propagate r >>= f).run Sys.handle m s =
      (f bytes.length).run Sys.handle (fun n => m (n + 1)) ((m 0).interfere s) := by
  change Prog.run _ (propagate (Sys.step (.fileLen p) (m 0).choice ((m 0).interfere s)).1 >>= f) _
    (Sys.step (.fileLen p) (m 0).choice ((m 0).interfere s)).2 = _
  simp only [Sys.step, hfault, hp]
  rfl

/-- The pieces of an undisturbed file. -/
lemma run_openRead {m : ℕ → Prog.Move Choice Sys} {p : Path} {s : Sys} {bytes : List UInt8}
    (hfault : (m 0).choice.fault = none) (hbroken : (m 0).choice.broken = none)
    (hp : ((m 0).interfere s).files p = some bytes) (f : Delivery → SysProg Bool) :
    (ask (.openRead p) >>= fun r => propagate r >>= f).run Sys.handle m s =
      (f ⟨pieces bytes.length (m 0).choice.sizes bytes, none⟩).run Sys.handle
        (fun n => m (n + 1)) ((m 0).interfere s) := by
  change Prog.run _ (propagate (Sys.step (.openRead p) (m 0).choice ((m 0).interfere s)).1 >>= f) _
    (Sys.step (.openRead p) (m 0).choice ((m 0).interfere s)).2 = _
  simp only [Sys.step, hfault, hbroken, hp]
  rfl

lemma run_filesEqual {m : ℕ → Prog.Move Choice Sys} {p q : Path} {bytes bytes' : List UInt8}
    {chunks chunks' : List (List UInt8)} (hm : Delivers m p q bytes bytes' chunks chunks') {s : Sys}
    (hp : s.files p = some bytes) (hq : s.files q = some bytes') :
    ((filesEqual p q).run Sys.handle m s).1 =
      .ok (decide (bytes.length = bytes'.length ∧ chunks = chunks')) := by
  have hfirst : ∀ n (t : Sys), t.files p = some bytes →
      ((m n).interfere t).files p = some bytes := fun n t ht => (hm.first n t).trans ht
  have hsecond : ∀ n (t : Sys), t.files q = some bytes' →
      ((m n).interfere t).files q = some bytes' := fun n t ht => (hm.second n t).trans ht
  have hq₁ := hsecond 1 _ (hsecond 0 _ hq)
  rw [filesEqual, run_fileLen (hm.succeeds 0) (hfirst 0 _ hp), run_fileLen (hm.succeeds 1) hq₁]
  by_cases hlength : bytes.length = bytes'.length
  · have hp₂ := hfirst 2 _ (hfirst 1 _ (hfirst 0 _ hp))
    rw [if_neg (not_not.mpr hlength), run_openRead (hm.succeeds 2) (hm.whole 2) hp₂,
      run_openRead (hm.succeeds 3) (hm.whole 3) (hsecond 3 _ (hsecond 2 _ hq₁))]
    dsimp only
    rw [compareReads_eq]
    simp [propagate, hlength, ← hm.firstPieces, ← hm.secondPieces, Except.mapError]
    rfl
  · rw [if_pos hlength]
    simp [hlength]
    rfl

/-- However two files are read, they are found equal when they hold the same and come in pieces of the
same sizes. -/
theorem filesEqual_iff_read_alike {s : Sys} {p q : Path} {bytes bytes' : List UInt8}
    (hp : s.files p = some bytes) (hq : s.files q = some bytes') {chunks chunks' : List (List UInt8)}
    (h : IsReadAs bytes chunks) (h' : IsReadAs bytes' chunks') :
    (∃ m, Delivers m p q bytes bytes' chunks chunks') ∧
    ∀ m, Delivers m p q bytes bytes' chunks chunks' →
      let r := ((filesEqual p q).run Sys.handle m s).1
      (r = .ok true ∨ r = .ok false) ∧
      (r = .ok true → bytes = bytes') ∧
      ((r = .ok true ↔ bytes = bytes') ↔
        (bytes ≠ bytes' ∨ chunks.map List.length = chunks'.map List.length)) := by
  refine ⟨exists_delivers h h' p q, fun m hm => ?_⟩
  have hrun := run_filesEqual hm hp hq
  simp only [h.eq_iff h'] at hrun
  by_cases hbytes : bytes = bytes'
  · by_cases hsizes : chunks.map List.length = chunks'.map List.length
    · simp [hrun, hbytes, hsizes]
    · simp [hrun, hbytes, hsizes]
  · simp [hrun, hbytes]

/-! ### A list that did not change -/

def torList : List UInt8 := asBytes "203.0.113.8\n"

/-- Two copies of the list on one disk. -/
def torCopies : Sys where
  files p := if p ∈ [⟨false, ["tor.txt"]⟩, ⟨false, [".tor.txt.download"]⟩] then some torList else none
  sink := none
  log := []
  watcher := none
  queue := []
  edits := 0
  seen := []

/-- One operation reads a file five bytes first. -/
def shortRead (operation : ℕ) (n : ℕ) : Prog.Move Choice Sys where
  interfere := id
  choice := { Choice.calm with
    sizes := if n = operation then [5] else []
    response := .ok torResponse }

theorem filesEqual_iff_read_alike_copies :
    ∃ m, Delivers m ⟨false, ["tor.txt"]⟩ ⟨false, [".tor.txt.download"]⟩ torList torList
        [torList] [torList] ∧
      ((filesEqual ⟨false, ["tor.txt"]⟩ ⟨false, [".tor.txt.download"]⟩).run Sys.handle m
        torCopies).1 = .ok true := by
  have h : IsReadAs torList [torList] := ⟨by simp, by decide⟩
  obtain ⟨⟨m, hm⟩, hruns⟩ := filesEqual_iff_read_alike (s := torCopies)
    (p := ⟨false, ["tor.txt"]⟩) (q := ⟨false, [".tor.txt.download"]⟩) rfl rfl h h
  obtain ⟨-, -, hequal⟩ := hruns m hm
  exact ⟨m, hm, (hequal.mpr (Or.inr rfl)).mpr rfl⟩

/-- A short read of one of two equal files, and they are found different; so an update replaces the
list by itself and reports the change. -/
theorem equal_files_found_different :
    IsReadAs torList [torList.take 5, torList.drop 5] ∧ IsReadAs torList [torList] ∧
    Delivers (shortRead 2) ⟨false, ["tor.txt"]⟩ ⟨false, [".tor.txt.download"]⟩ torList torList
      [torList.take 5, torList.drop 5] [torList] ∧
    ((filesEqual ⟨false, ["tor.txt"]⟩ ⟨false, [".tor.txt.download"]⟩).run Sys.handle (shortRead 2)
      torCopies).1 = .ok false ∧
    letI := dottedParse
    ((Security.updateOne torItem).run Sys.handle (shortRead 10) (torListDisk (some torList))).1 =
      .ok true := by
  refine ⟨⟨by decide, by decide⟩, ⟨by simp, by decide⟩, ?_, by decide +kernel, by decide +kernel⟩
  exact ⟨⟨fun _ _ => rfl, fun _ _ => rfl, fun _ => rfl, fun _ => rfl⟩, by decide, by decide⟩

end TransferGateway

import TransferGateway.Lib.Mutex
import Mathlib.Data.List.Forall2

/-!
# Lines in the log

All tasks write to the log through a `DynamicWriter`, and a reload puts another file in its place. The
mutex of the log controller keeps these apart. A line comes out in one piece on the standard output and
in the file that is in place then.
-/

namespace TransferGateway

/-! ### Writers -/

/-- What is done under the mutex, with files `F` that are open. -/
inductive LogOp (F : Type) : Type → Type where
  | writeStdout (buffer : List UInt8) : LogOp F (Except String ℕ)
  | flushStdout : LogOp F (Except String Unit)
  | getFile : LogOp F (Option F)
  | setFile (file : Option F) : LogOp F Unit
  | writeFile (file : F) (buffer : List UInt8) : LogOp F (Except String ℕ)
  | flushFile (file : F) : LogOp F (Except String Unit)

/-- `file` is the one of the `LogState`. -/
structure LogOutput (F : Type) where
  file : Option F
  stdout : List UInt8
  files : F → List UInt8

/-- How many bytes a write accepts at most, and whether it fails then. -/
structure LogChoice where
  fault : Option String
  accepted : ℕ

abbrev LogProg (F : Type) := Prog (LogOp F) String

variable {F : Type}

/-- The loop of `write_all`; as many rounds as there are bytes are enough. -/
def writeAllWithin (write : List UInt8 → LogOp F (Except String ℕ)) :
    ℕ → List UInt8 → LogProg F Unit
  | 0, _ => pure ()
  | fuel + 1, buffer =>
    if buffer = [] then pure ()
    else do
      match ← .perform (write buffer) with
      | .error e => .fail e
      | .ok 0 => .fail "failed to write whole buffer"
      | .ok count => writeAllWithin write fuel (buffer.drop count)

def writeAll (write : List UInt8 → LogOp F (Except String ℕ)) (buffer : List UInt8) :
    LogProg F Unit :=
  writeAllWithin write buffer.length buffer

/-- `?` on the result of an operation. -/
def tryLog {α : Type} (o : LogOp F (Except String α)) : LogProg F α := do
  .ofExcept (← .perform o)

namespace DynamicWriter

def write (buffer : List UInt8) : LogProg F ℕ := do
  writeAll .writeStdout buffer
  match ← .perform .getFile with
  | some file => writeAll (.writeFile file) buffer
  | none => pure ()
  return buffer.length

def flush : LogProg F Unit := do
  tryLog .flushStdout
  match ← .perform .getFile with
  | some file => tryLog (.flushFile file)
  | none => pure ()

end DynamicWriter

/-- What a task calls. `apply` is given the file that it has opened. -/
inductive LogCall (F : Type) where
  | write (buffer : List UInt8)
  | flush
  | apply (file : Option F)

inductive LogReturn where
  | wrote (count : ℕ)
  | done
  deriving DecidableEq

/-- What is done with the mutex locked. -/
def LogCall.body : LogCall F → LogProg F LogReturn
  | .write buffer => do
    let count ← DynamicWriter.write buffer
    return .wrote count
  | .flush => do
    DynamicWriter.flush
    return .done
  | .apply file => do
    .perform (.setFile file)
    return .done

/-- The result of a write. -/
def accepted (buffer : List UInt8) (c : LogChoice) : Except String ℕ :=
  match c.fault with
  | some e => .error e
  | none => .ok (min c.accepted buffer.length)

namespace LogOutput

/-- The bytes are behind what is on the standard output. -/
def print (s : LogOutput F) (bytes : List UInt8) : LogOutput F :=
  { s with stdout := s.stdout ++ bytes }

@[simp] lemma file_print (s : LogOutput F) (bytes : List UInt8) : (s.print bytes).file = s.file :=
  rfl

@[simp] lemma print_nil (s : LogOutput F) : s.print [] = s := by
  simp [print]

@[simp] lemma print_print (s : LogOutput F) (bytes bytes' : List UInt8) :
    (s.print bytes).print bytes' = s.print (bytes ++ bytes') := by
  simp [print]

variable [DecidableEq F]

/-- The bytes are behind what is in the file. -/
def append (s : LogOutput F) (file : F) (bytes : List UInt8) : LogOutput F :=
  { s with files := Function.update s.files file (s.files file ++ bytes) }

@[simp] lemma append_nil (s : LogOutput F) (file : F) : s.append file [] = s := by
  simp [append]

@[simp] lemma append_append (s : LogOutput F) (file : F) (bytes bytes' : List UInt8) :
    (s.append file bytes).append file bytes' = s.append file (bytes ++ bytes') := by
  simp [append]

def handle : Handler (LogOp F) LogChoice (LogOutput F)
  | _, .writeStdout buffer, c, s => (accepted buffer c, s.print (buffer.take c.accepted))
  | _, .writeFile file buffer, c, s => (accepted buffer c, s.append file (buffer.take c.accepted))
  | _, .flushStdout, c, s => (c.fault.elim (.ok ()) .error, s)
  | _, .flushFile _, c, s => (c.fault.elim (.ok ()) .error, s)
  | _, .getFile, _, s => (s.file, s)
  | _, .setFile file, _, s => ((), { s with file })

end LogOutput

/-! ### What a call does -/

section Calls

variable [DecidableEq F]

/-- Writing goes on where it has stopped, so a prefix of the buffer is there all the way. -/
lemma along_writeAllWithin {write : List UInt8 → LogOp F (Except String ℕ)}
    (put : LogOutput F → List UInt8 → LogOutput F) (hnil : ∀ s, put s [] = s)
    (hput : ∀ s bytes bytes', put (put s bytes) bytes' = put s (bytes ++ bytes'))
    (hwrite : ∀ buffer c s, LogOutput.handle _ (write buffer) c s =
      (accepted buffer c, put s (buffer.take c.accepted)))
    {fuel : ℕ} {buffer : List UInt8} (hfuel : buffer.length ≤ fuel) (s : LogOutput F) :
    (writeAllWithin write fuel buffer).along LogOutput.handle (Env.alone _ _)
      (fun s' => ∃ piece, piece <+: buffer ∧ s' = put s piece)
      (fun r s' => r = .ok () → s' = put s buffer) s := by
  induction fuel generalizing buffer s with
  | zero =>
    obtain rfl := List.eq_nil_of_length_eq_zero (Nat.le_zero.mp hfuel)
    exact ⟨⟨[], List.nil_prefix, (hnil s).symm⟩, fun _ => (hnil s).symm⟩
  | succ fuel ih =>
    rw [writeAllWithin]
    by_cases hempty : buffer = []
    · subst hempty
      rw [if_pos rfl]
      exact ⟨⟨[], List.nil_prefix, (hnil s).symm⟩, fun _ => (hnil s).symm⟩
    rw [if_neg hempty]
    refine ⟨⟨[], List.nil_prefix, (hnil s).symm⟩, ?_⟩
    rintro _ rfl c -
    rw [hwrite]
    have htake : buffer.take c.accepted <+: buffer := List.take_prefix _ _
    cases hfault : c.fault with
    | some e =>
      simp only [accepted, hfault]
      exact ⟨⟨_, htake, rfl⟩, by simp⟩
    | none =>
      simp only [accepted, hfault]
      cases hcount : min c.accepted buffer.length with
      | zero => exact ⟨⟨_, htake, rfl⟩, by simp⟩
      | succ count =>
        have hsplit : buffer.take c.accepted ++ buffer.drop (count + 1) = buffer := by
          rw [← hcount, ← List.drop_eq_drop_min, List.take_append_drop]
        refine Prog.along_mono (ih (by grind) _) ?_ ?_
        · rintro _ ⟨piece, hpiece, rfl⟩
          refine ⟨buffer.take c.accepted ++ piece, ?_, hput ..⟩
          have hprefix := (List.prefix_append_right_inj (buffer.take c.accepted)).mpr hpiece
          rwa [hsplit] at hprefix
        · intro r s' hr hok
          rw [hr hok, hput, hsplit]

/-- What a call of `write` has left behind, also of one that has failed or is under way. -/
structure Piece (F : Type) where
  buffer : List UInt8
  sink : Option F
  printed : List UInt8
  filed : List UInt8
  printed_prefix : printed <+: buffer
  filed_prefix : filed <+: buffer
  /-- The file comes after the standard output. -/
  filed_after : filed ≠ [] → printed = buffer ∧ sink ≠ none

/-- All of the buffer is there. -/
def Piece.IsWhole (piece : Piece F) : Prop :=
  piece.printed = piece.buffer ∧ (piece.sink ≠ none → piece.filed = piece.buffer)

/-- The output with a piece more. -/
def LogOutput.leave (s : LogOutput F) (piece : Piece F) : LogOutput F :=
  match piece.sink with
  | some file => (s.print piece.printed).append file piece.filed
  | none => s.print piece.printed

/-- The piece of a call that goes on to the file, if there is one. -/
def Piece.ofFile (buffer : List UInt8) (sink : Option F) {filed : List UInt8}
    (hfiled : filed <+: buffer) (hsink : sink = none → filed = []) : Piece F where
  buffer
  sink
  printed := buffer
  filed
  printed_prefix := List.prefix_refl _
  filed_prefix := hfiled
  filed_after := fun hne => ⟨rfl, fun hnone => hne (hsink hnone)⟩

@[simp] lemma LogOutput.file_leave (s : LogOutput F) (piece : Piece F) :
    (s.leave piece).file = s.file := by
  rw [leave]
  cases piece.sink <;> rfl

lemma along_write (buffer : List UInt8) (s : LogOutput F) :
    (DynamicWriter.write buffer).along LogOutput.handle (Env.alone _ _)
      (fun s' => ∃ piece : Piece F, piece.buffer = buffer ∧ piece.sink = s.file ∧
        s' = s.leave piece)
      (fun r s' => ∀ count, r = .ok count → count = buffer.length ∧ ∃ piece : Piece F,
        piece.buffer = buffer ∧ piece.sink = s.file ∧ piece.IsWhole ∧ s' = s.leave piece) s := by
  have hprinted : ∀ printed : List UInt8, printed <+: buffer → ∃ piece : Piece F,
      piece.buffer = buffer ∧ piece.sink = s.file ∧ s.print printed = s.leave piece := by
    intro printed hbuffer
    refine ⟨⟨buffer, s.file, printed, [], hbuffer, List.nil_prefix, by simp⟩, rfl, rfl, ?_⟩
    rw [LogOutput.leave]
    cases s.file <;> simp
  rw [DynamicWriter.write]
  refine Prog.along_seq (Prog.along_mono (along_writeAllWithin LogOutput.print
    LogOutput.print_nil LogOutput.print_print (fun _ _ _ => rfl) (Nat.le_refl _) s) ?_
    fun _ _ h => h) ?_ ?_
  · rintro _ ⟨printed, hprefix, rfl⟩
    exact hprinted printed hprefix
  · -- the buffer is on the standard output
    intro _ s' hs'
    obtain rfl := hs' rfl
    refine ⟨hprinted buffer (List.prefix_refl _), ?_⟩
    rintro _ rfl c -
    change (Prog.along _ _ _ (match s.file with | some file => _ | none => _) _ _)
    cases hfile : s.file with
    | none =>
      have hpiece : ∃ piece : Piece F, piece.buffer = buffer ∧ piece.sink = none ∧
          piece.IsWhole ∧ s.print buffer = s.leave piece :=
        ⟨.ofFile buffer none List.nil_prefix fun _ => rfl, rfl, rfl, ⟨rfl, by simp [Piece.ofFile]⟩,
          rfl⟩
      refine ⟨hpiece.imp fun _ h => ⟨h.1, h.2.1, h.2.2.2⟩, fun count hcount => ?_⟩
      cases hcount
      exact ⟨rfl, hpiece⟩
    | some file =>
      refine Prog.along_seq (Prog.along_mono (along_writeAllWithin
        (fun s bytes => s.append file bytes) (fun s => s.append_nil file)
        (fun s => s.append_append file) (fun _ _ _ => rfl) (Nat.le_refl _) _) ?_ fun _ _ h => h)
        ?_ ?_
      · rintro _ ⟨filed, hprefix, rfl⟩
        exact ⟨.ofFile buffer (some file) hprefix (by simp), rfl, rfl, rfl⟩
      · intro _ s' hs'
        obtain rfl := hs' rfl
        have hpiece : ∃ piece : Piece F, piece.buffer = buffer ∧ piece.sink = some file ∧
            piece.IsWhole ∧ (s.print buffer).append file buffer = s.leave piece :=
          ⟨.ofFile buffer (some file) (List.prefix_refl _) (by simp), rfl, rfl,
            ⟨rfl, fun _ => rfl⟩, rfl⟩
        refine ⟨hpiece.imp fun _ h => ⟨h.1, h.2.1, h.2.2.2⟩, fun count hcount => ?_⟩
        cases hcount
        exact ⟨rfl, hpiece⟩
      · intro e s' _ count hcount
        cases hcount
  · intro e s' _ count hcount
    cases hcount

lemma along_flush (s : LogOutput F) :
    DynamicWriter.flush.along LogOutput.handle (Env.alone _ _) (· = s) (fun _ => (· = s)) s := by
  have htry : ∀ o : LogOp F (Except String Unit), (∀ c, (LogOutput.handle _ o c s).2 = s) →
      (tryLog o).along LogOutput.handle (Env.alone _ _) (· = s) (fun _ => (· = s)) s := by
    intro o ho
    refine ⟨rfl, ?_⟩
    rintro _ rfl c -
    exact Prog.along_ofExcept (ho c) (ho c)
  rw [DynamicWriter.flush]
  refine Prog.along_seq (htry _ fun _ => rfl) ?_ fun _ _ h => h
  rintro _ _ rfl
  refine ⟨rfl, ?_⟩
  rintro t rfl c -
  change (Prog.along _ _ _ (match t.file with | some file => _ | none => _) _ _)
  cases t.file with
  | none => exact ⟨rfl, rfl⟩
  | some file => exact htry _ fun _ => rfl

namespace LogCall

/-- What may be there while the call holds the mutex, from `s` on. -/
def Under (s : LogOutput F) : LogCall F → LogOutput F → Prop
  | write buffer, s' =>
    ∃ piece : Piece F, piece.buffer = buffer ∧ piece.sink = s.file ∧ s' = s.leave piece
  | flush, s' => s' = s
  | apply file, s' => s' = s ∨ s' = { s with file }

/-- What the call has done when it gives the mutex back. -/
def After (s : LogOutput F) : LogCall F → Except String LogReturn → LogOutput F → Prop
  | write buffer, r, s' => ∃ piece : Piece F, piece.buffer = buffer ∧ piece.sink = s.file ∧
      (∀ returned, r = .ok returned → returned = .wrote buffer.length ∧ piece.IsWhole) ∧
      s' = s.leave piece
  | flush, _, s' => s' = s
  | apply file, _, s' => s' = { s with file }

lemma along_body (call : LogCall F) (s : LogOutput F) :
    call.body.along LogOutput.handle (Env.alone _ _) (call.Under s) (call.After s) s := by
  cases call with
  | write buffer =>
    refine Prog.along_seq (Prog.along_self (along_write buffer s)) ?_ ?_
    · rintro count s' ⟨hunder, hdone⟩
      refine ⟨hunder, ?_⟩
      obtain ⟨rfl, piece, hbuffer, hsink, hwhole, rfl⟩ := hdone count rfl
      refine ⟨piece, hbuffer, hsink, fun returned hreturned => ?_, rfl⟩
      cases hreturned
      exact ⟨rfl, hwhole⟩
    · rintro e s' ⟨⟨piece, hbuffer, hsink, rfl⟩, -⟩
      refine ⟨piece, hbuffer, hsink, fun returned hreturned => ?_, rfl⟩
      cases hreturned
  | flush =>
    refine Prog.along_seq (along_flush s) ?_ fun _ _ h => h
    rintro _ _ rfl
    exact ⟨rfl, rfl⟩
  | apply file =>
    refine ⟨.inl rfl, ?_⟩
    rintro _ rfl c -
    exact ⟨.inr rfl, rfl⟩

end LogCall

end Calls

/-! ### All calls -/

/-- A call that held the mutex, with the position of its task and its result. -/
abbrev LogPast (F : Type) := List (ℕ × LogCall F × Except String LogReturn)

/-- The file that is in place after some calls. -/
def sinkAfter (sink : Option F) : LogPast F → Option F
  | [] => sink
  | (_, .apply file, _) :: past => sinkAfter file past
  | (_, .write _, _) :: past | (_, .flush, _) :: past => sinkAfter sink past

/-- A call of `write`, with the file that was in place. -/
structure Written (F : Type) where
  buffer : List UInt8
  sink : Option F
  result : Except String LogReturn

/-- The calls of `write` among some calls. -/
def writtenIn (sink : Option F) : LogPast F → List (Written F)
  | [] => []
  | (_, .apply file, _) :: past => writtenIn file past
  | (_, .flush, _) :: past => writtenIn sink past
  | (_, .write buffer, result) :: past => ⟨buffer, sink, result⟩ :: writtenIn sink past

lemma sinkAfter_append (sink : Option F) (past later : LogPast F) :
    sinkAfter sink (past ++ later) = sinkAfter (sinkAfter sink past) later := by
  induction past generalizing sink with
  | nil => rfl
  | cons call past ih =>
    obtain ⟨i, call, r⟩ := call
    cases call <;> exact ih _

lemma writtenIn_append (sink : Option F) (past later : LogPast F) :
    writtenIn sink (past ++ later) =
      writtenIn sink past ++ writtenIn (sinkAfter sink past) later := by
  induction past generalizing sink with
  | nil => rfl
  | cons call past ih =>
    obtain ⟨i, call, r⟩ := call
    cases call with
    | write buffer => exact congrArg (List.cons _) (ih _)
    | flush => exact ih _
    | apply file => exact ih _

/-- The piece is what the call has left behind, all of its buffer if it has returned. -/
def Written.Left (w : Written F) (piece : Piece F) : Prop :=
  piece.buffer = w.buffer ∧ piece.sink = w.sink ∧ ∀ returned, w.result = .ok returned →
    returned = .wrote w.buffer.length ∧ piece.IsWhole

abbrev LogTask (F : Type) := Critical (LogCall F) (LogOp F) String LogReturn

abbrev LogTasks (F : Type) := Pool (LogTask F) (Guarded (LogOutput F))

abbrev LogEvent (F : Type) := Pool.Event (LogTask F) LogChoice

section Runs

variable [DecidableEq F]

/-- The runs of all tasks that write, flush or switch. -/
abbrev LogTasks.Run (start : LogOutput F) : List (LogTasks F × LogEvent F) → LogTasks F → Prop :=
  Critical.Run LogCall.body LogOutput.handle start

/-- What has been put out since are the pieces, one behind the other. -/
structure LogOutput.Holds (start s : LogOutput F) (pieces : List (Piece F)) : Prop where
  stdout : s.stdout = start.stdout ++ pieces.flatMap (·.printed)
  files : ∀ file, s.files file =
    start.files file ++ (pieces.filter (·.sink = some file)).flatMap (·.filed)

lemma LogOutput.Holds.leave {start s : LogOutput F} {pieces : List (Piece F)}
    (h : LogOutput.Holds start s pieces) (piece : Piece F) :
    LogOutput.Holds start (s.leave piece) (pieces ++ [piece]) := by
  rw [LogOutput.leave]
  cases hsink : piece.sink with
  | none =>
    refine ⟨?_, fun file => ?_⟩
    · simp [LogOutput.print, h.stdout]
    · simp [LogOutput.print, h.files, hsink]
  | some sink =>
    refine ⟨?_, fun file => ?_⟩
    · simp [LogOutput.print, LogOutput.append, h.stdout]
    · by_cases heq : sink = file
      · subst heq
        simp [LogOutput.print, LogOutput.append, h.files, hsink]
      · simp [LogOutput.print, LogOutput.append, h.files, hsink, heq, Ne.symm heq]

variable {start : LogOutput F}

/-- The calls so far, carried out one after the other, have left these pieces. -/
lemma holds_of_inTurn {past : LogPast F} {s : LogOutput F}
    (h : Critical.InTurn LogCall.body LogOutput.handle start past s) :
    s.file = sinkAfter start.file past ∧ ∃ pieces, LogOutput.Holds start s pieces ∧
      List.Forall₂ Written.Left (writtenIn start.file past) pieces := by
  induction h with
  | start => exact ⟨rfl, [], ⟨by simp, by simp⟩, .nil⟩
  | @next past s s' call r i hpast hout ih =>
    obtain ⟨hfile, pieces, hholds, hleft⟩ := ih
    have hafter : call.After s r s' :=
      Prog.wp_iff_outcome.mp (Prog.wp_of_along (call.along_body s)) r s' hout
    rw [sinkAfter_append, writtenIn_append, ← hfile]
    cases call with
    | write buffer =>
      obtain ⟨piece, hbuffer, hsink, hwhole, rfl⟩ := hafter
      refine ⟨?_, pieces ++ [piece], hholds.leave piece, ?_⟩
      · rw [LogOutput.file_leave]
        rfl
      · exact List.rel_append hleft (.cons ⟨hbuffer, hsink, hwhole⟩ .nil)
    | flush =>
      obtain rfl := hafter
      exact ⟨rfl, pieces, hholds, by simpa [writtenIn] using hleft⟩
    | apply file =>
      obtain rfl := hafter
      exact ⟨rfl, pieces, ⟨hholds.stdout, hholds.files⟩, by simpa [writtenIn] using hleft⟩

/-- Whatever the tasks write, flush and switch at once, the standard output is made of one piece for each
call of `write`, in the order of the calls, and each file of the pieces of the calls that have met it. The
piece is all of the buffer if the call returns, and that is its length; else it is a part from the front of
it. No two calls are mixed, and only that of the task that has the mutex may be under way. -/
theorem log_in_turn {history : List (LogTasks F × LogEvent F)} {s : LogTasks F}
    (hrun : LogTasks.Run start history s) :
    let past := history.filterMap Critical.finished
    ∃ (pieces : List (Piece F)) (last : Option (Piece F)),
      LogOutput.Holds start s.shared.state (pieces ++ last.toList) ∧
      List.Forall₂ Written.Left (writtenIn start.file past) pieces ∧
      (∀ piece ∈ last, piece.sink = sinkAfter start.file past ∧
        ∃ (i : ℕ) (left : LogProg F LogReturn),
          s.parties[i]? = some (.inside (.write piece.buffer) left)) ∧
      (s.shared.taken = false → last = none) ∧ Critical.Accounts s.parties past := by
  intro past
  obtain ⟨settled, hturn, hholds, haccounts⟩ := hrun.inTurn
  obtain ⟨hfile, pieces, hpieces, hleft⟩ := holds_of_inTurn hturn
  rcases hholds with ⟨hshared, -⟩ | ⟨i, call, left, htaken, hp, hreach, -⟩
  · refine ⟨pieces, none, ?_, hleft, by simp, fun _ => rfl, haccounts⟩
    simpa [hshared] using hpieces
  · have hunder := hreach.along (call.along_body settled)
    cases call with
    | write buffer =>
      obtain ⟨piece, rfl, hsink, hstate⟩ := hunder
      refine ⟨pieces, some piece, ?_, hleft, ?_, by simp [htaken], haccounts⟩
      · rw [hstate]
        exact hpieces.leave piece
      · intro _ hpiece
        cases hpiece
        exact ⟨hsink.trans hfile, i, left, hp⟩
    | flush =>
      refine ⟨pieces, none, ?_, hleft, by simp, fun _ => rfl, haccounts⟩
      rw [show s.shared.state = settled from hunder]
      simpa using hpieces
    | apply file =>
      refine ⟨pieces, none, ?_, hleft, by simp, fun _ => rfl, haccounts⟩
      rcases hunder with hstate | hstate
      · rw [hstate]
        simpa using hpieces
      · rw [hstate]
        exact ⟨by simpa using hpieces.stdout, by simpa using hpieces.files⟩

end Runs

section Switch

/-- Some steps of a task, a byte at a time. -/
def goesOn (i n : ℕ) : List (LogEvent ℕ) :=
  List.replicate n (.move i ⟨none, 1⟩)

/-- Two tasks write, and a reload switches from file 0 to file 1 in between. -/
def switchEvents : List (LogEvent ℕ) :=
  [.enter (.waits (.write [1, 2])), .enter (.waits (.apply (some 1)))] ++ goesOn 0 3 ++
    [.enter (.waits (.write [3]))] ++ goesOn 0 4 ++ goesOn 1 3 ++ goesOn 2 5

/-- The first line is in file 0 and the second in file 1, though they wrote byte by byte. -/
theorem log_in_turn_switch : ∃ history s pieces,
    LogTasks.Run ⟨some 0, [], fun _ => []⟩ history s ∧ history.map Prod.snd = switchEvents ∧
    List.Forall₂ Written.Left (writtenIn (some 0) (history.filterMap Critical.finished)) pieces ∧
    pieces.flatMap (·.printed) = [1, 2, 3] ∧
    (pieces.filter (·.sink = some 0)).flatMap (·.filed) = [1, 2] ∧
    (pieces.filter (·.sink = some 1)).flatMap (·.filed) = [3] := by
  have hend : (Pool.follow (Critical.step LogCall.body LogOutput.handle)
      ⟨[], ⟨false, ⟨some 0, [], fun _ => []⟩⟩⟩ switchEvents).map (fun s =>
        (s.shared.taken, s.shared.state.stdout, s.shared.state.files 0, s.shared.state.files 1)) =
      some (false, [1, 2, 3], [1, 2], [3]) := by
    decide
  obtain ⟨s, hs, hsummary⟩ := Option.map_eq_some_iff.mp hend
  have henters : ∀ p, .enter p ∈ switchEvents → ∃ k, p = .waits k := by
    simp [switchEvents, goesOn]
  obtain ⟨history, hrun, hevents⟩ := Pool.Run.follow .start henters hs
  simp only [Prod.mk.injEq] at hsummary
  obtain ⟨hfree, hstdout, hfirst, hsecond⟩ := hsummary
  obtain ⟨pieces, last, hholds, hleft, -, hlast, -⟩ := log_in_turn hrun
  rw [hlast hfree, Option.toList_none, List.append_nil] at hholds
  refine ⟨history, s, pieces, hrun, hevents, hleft, ?_, ?_, ?_⟩
  · rw [← hstdout, hholds.stdout]
    rfl
  · rw [← hfirst, hholds.files]
    rfl
  · rw [← hsecond, hholds.files]
    rfl

end Switch

end TransferGateway

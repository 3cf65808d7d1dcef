import TransferGateway.Lib.Prog
import TransferGateway.Std
import Mathlib.Logic.Function.Basic
import Mathlib.Logic.Relation
import Mathlib.Data.Set.Insert

/-!
# The system around the gateway

Everything the gateway asks of the operating system, the network and the file watcher is an
operation of `SysOp`. A choice decides whether it fails and what the outside answers. Distinct paths
are distinct files, which hold their bytes, and whoever changes a watched file puts an event into the
watcher's queue.
-/

namespace TransferGateway

/-! ### The watched files -/

/-- `config::config_directory`; `ConfigWatcher::new` watches the same directory. -/
def configDirectory (path : Path) : Path :=
  (path.parent.filter fun parent => !parent.isEmpty).getD ⟨false, ["."]⟩

/-- `notify::EventKind`. -/
inductive EventKind where
  | any
  | access
  | create
  | modify
  | remove
  | other
  deriving DecidableEq

/-- `notify::Event`. -/
structure Event where
  kind : EventKind
  paths : List Path

def isConfigEvent (event : Event) (fileName : Option String) : Bool :=
  match event.kind with
  | .any | .create | .modify | .remove =>
    event.paths.any fun path =>
      (path.fileName.isSome && path.fileName == fileName) ||
        path.extension.any (eqIgnoreAsciiCase · "toml")
  | .access | .other => false

/-- The components that name something; only a leading `.` does not. -/
def Path.names (p : Path) : List String :=
  p.components.filter (· != ".")

/-- The path lies below the directory, both taken from one working directory. -/
def Path.isBelow (p directory : Path) : Bool :=
  p.absolute == directory.absolute && directory.names.isPrefixOf p.names &&
    !(p.names.drop directory.names.length).contains ".."

/-- What a change to a file looks like. -/
def changeKind {α : Type} : Option α → Option α → EventKind
  | none, _ => .create
  | some _, some _ => .modify
  | some _, none => .remove

/-- A change to the file reaches the queue of the watcher of this configuration file. -/
def watched (configPath p : Path) : Bool :=
  p.isBelow (configDirectory configPath) &&
    isConfigEvent ⟨.modify, [p]⟩ configPath.fileName

/-- The kind of a change makes no difference to the filter. -/
lemma isConfigEvent_changeKind {α : Type} (before after : Option α) (paths : List Path)
    (fileName : Option String) :
    isConfigEvent ⟨changeKind before after, paths⟩ fileName =
      isConfigEvent ⟨.modify, paths⟩ fileName := by
  cases before <;> cases after <;> rfl

/-- A configuration file is among the files its watcher watches. -/
lemma watched_self {configPath : Path} (h : configPath.fileName.isSome = true) :
    watched configPath configPath = true := by
  obtain ⟨absolute, components⟩ := configPath
  rcases List.eq_nil_or_concat components with rfl | ⟨names, name, rfl⟩
  · simp [Path.fileName] at h
  have hname : name ≠ "." ∧ name ≠ ".." := by
    simpa [Path.fileName, Option.isSome_filter] using h
  have hfile : (⟨absolute, names ++ [name]⟩ : Path).fileName = some name := by
    simp [Path.fileName, hname]
  have hdirectory : (configDirectory ⟨absolute, names ++ [name]⟩).absolute = absolute ∧
      (configDirectory ⟨absolute, names ++ [name]⟩).names = names.filter (· != ".") := by
    have hparent : (⟨absolute, names ++ [name]⟩ : Path).parent = some ⟨absolute, names⟩ := by
      simp [Path.parent]
    rw [configDirectory, hparent]
    cases absolute <;> cases names <;> simp [Option.filter, Path.isEmpty, Path.names]
  have hnames : (⟨absolute, names ++ [name]⟩ : Path).names = names.filter (· != ".") ++ [name] := by
    simp [Path.names, hname.1]
  simp [watched, Path.isBelow, hdirectory, hnames, isConfigEvent, hfile, Ne.symm hname.2]

/-! ### State -/

inductive WatchMessage where
  | configChanged
  | error (message : String)
  deriving DecidableEq

inductive Level where
  | debug
  | info
  | warn
  | error
  deriving DecidableEq

/-- The state outside the program. `edits` and `seen` are bookkeeping for statements: how often
a watched file changed, and what the files read so far held. -/
structure Sys where
  files : Path → Option (List UInt8)
  /-- The file the log controller writes to. -/
  sink : Option Path
  log : List (Level × String)
  /-- The configuration path of a registered watcher. -/
  watcher : Option Path
  queue : List WatchMessage
  edits : ℕ
  seen : List (Path × List UInt8)

namespace Sys

def isWatched (s : Sys) (p : Path) : Bool :=
  s.watcher.any (watched · p)

/-- Change one file; the watcher hears of it. -/
def set (s : Sys) (p : Path) (content : Option (List UInt8)) : Sys :=
  { s with
    files := Function.update s.files p content
    queue := s.queue ++ if s.isWatched p then [.configChanged] else []
    edits := s.edits + if s.isWatched p then 1 else 0 }

/-- Change a file that exists. -/
def modify (s : Sys) (p : Path) (f : List UInt8 → List UInt8) : Sys :=
  match s.files p with
  | some content => s.set p (some (f content))
  | none => s

/-- An event waits in the queue. -/
def Pending (s : Sys) : Prop := .configChanged ∈ s.queue

@[simp] lemma set_files (s : Sys) (p : Path) (content : Option (List UInt8)) :
    (s.set p content).files = Function.update s.files p content := rfl

@[simp] lemma set_sink (s : Sys) (p : Path) (content : Option (List UInt8)) :
    (s.set p content).sink = s.sink := rfl

@[simp] lemma set_log (s : Sys) (p : Path) (content : Option (List UInt8)) :
    (s.set p content).log = s.log := rfl

@[simp] lemma set_watcher (s : Sys) (p : Path) (content : Option (List UInt8)) :
    (s.set p content).watcher = s.watcher := rfl

@[simp] lemma set_seen (s : Sys) (p : Path) (content : Option (List UInt8)) :
    (s.set p content).seen = s.seen := rfl

lemma pending_set_of_pending {s : Sys} (h : s.Pending) (p : Path)
    (content : Option (List UInt8)) : (s.set p content).Pending :=
  List.mem_append_left _ h

lemma pending_set_of_isWatched {s : Sys} {p : Path} (h : s.isWatched p = true)
    (content : Option (List UInt8)) : (s.set p content).Pending := by
  simp [Pending, set, h]

end Sys

/-! ### Operations -/

/-- An HTTP response and how its body arrives. -/
structure Response where
  status : String
  isSuccess : Bool
  contentLength : Option ℕ
  chunks : List (List UInt8)
  failure : Option IoError

/-- What the reads of an open file return, one after the other, until the end or a failure. -/
structure Delivery where
  chunks : List (List UInt8)
  failure : Option IoError

/-- A resolver built from the system's configuration. -/
structure Resolver where
  id : ℕ
  deriving DecidableEq

/-- The operations, by the type of their results. -/
inductive SysOp : Type → Type where
  | pathExists (path : Path) : SysOp Bool
  | createDirAll (path : Path) : SysOp (Except IoError Unit)
  | createNew (path : Path) : SysOp (Except IoError Unit)
  | writeAll (path : Path) (bytes : List UInt8) : SysOp (Except IoError Unit)
  | flush (path : Path) : SysOp (Except IoError Unit)
  | syncAll (path : Path) : SysOp (Except IoError Unit)
  | readToString (path : Path) : SysOp (Except IoError String)
  | readFile (path : Path) : SysOp (Except IoError (List UInt8))
  | openRead (path : Path) : SysOp (Except IoError Delivery)
  | fileLen (path : Path) : SysOp (Except IoError ℕ)
  | removeFile (path : Path) : SysOp (Except IoError Unit)
  | rename (source destination : Path) : SysOp (Except IoError Unit)
  | openAppend (path : Path) : SysOp (Except IoError Unit)
  | buildClient : SysOp (Except IoError Unit)
  | get (url : String) : SysOp (Except IoError Response)
  | newUuid : SysOp Uuid
  | systemResolver : SysOp (Except String Resolver)
  | createWatcher : SysOp (Except IoError Unit)
  | watch (configPath : Path) : SysOp (Except IoError Unit)
  | setSink (file : Option Path) : SysOp (Except IoError Unit)
  | log (level : Level) (message : String) : SysOp Unit

/-- What the environment decides at one operation. -/
structure Choice where
  /-- The operation fails. -/
  fault : Option IoError
  /-- The metadata of an existing file cannot be read. -/
  hidden : Bool
  /-- How much of a file a failing write or flush leaves. -/
  stored : ℕ
  /-- The sizes of the reads of an opened file, and the read that fails. -/
  sizes : List ℕ
  broken : Option (ℕ × IoError)
  response : Except IoError Response
  uuid : Uuid
  resolver : Except String Resolver

/-- Nothing fails, and the network does not answer. -/
def Choice.calm : Choice where
  fault := none
  hidden := false
  stored := 0
  sizes := []
  broken := none
  response := .error ⟨.other, "connection refused"⟩
  uuid := Vector.replicate 16 0
  resolver := .ok ⟨0⟩

/-- The size of the buffers a file is read into. -/
def BUFFER_SIZE : ℕ := 64 * 1024

/-- The contents in pieces of the given sizes, each at least one byte and at most a buffer. -/
def pieces : ℕ → List ℕ → List UInt8 → List (List UInt8)
  | 0, _, _ => []
  | _ + 1, _, [] => []
  | n + 1, sizes, byte :: bytes =>
    let size := max 1 (min (sizes.headD BUFFER_SIZE) BUFFER_SIZE)
    (byte :: bytes).take size :: pieces n sizes.tail ((byte :: bytes).drop size)

lemma pieces_flatten (n : ℕ) (sizes : List ℕ) (bytes : List UInt8) (h : bytes.length ≤ n) :
    (pieces n sizes bytes).flatten = bytes := by
  induction n generalizing sizes bytes with
  | zero => simp [pieces, List.length_eq_zero_iff.mp (Nat.le_zero.mp h)]
  | succ n ih =>
    cases bytes with
    | nil => rfl
    | cons byte bytes =>
      rw [pieces, List.flatten_cons, ih _ _ ?_, List.take_append_drop]
      simp only [List.length_drop, List.length_cons] at h ⊢
      omega

def notFound : IoError := ⟨.other, "No such file or directory (os error 2)"⟩

def alreadyExists : IoError := ⟨.alreadyExists, "File exists (os error 17)"⟩

def invalidData : IoError := ⟨.other, "stream did not contain valid UTF-8"⟩

/-- What an operation returns and does, under a choice. -/
def Sys.step {β : Type} (o : SysOp β) (c : Choice) (s : Sys) : β × Sys :=
  match o with
  | .pathExists p => ((s.files p).isSome && !c.hidden, s)
  | .createDirAll _ | .buildClient | .createWatcher =>
    match c.fault with
    | some e => (.error e, s)
    | none => (.ok (), s)
  | .createNew p =>
    match c.fault, s.files p with
    | some e, _ => (.error e, s)
    | none, some _ => (.error alreadyExists, s)
    | none, none => (.ok (), s.set p (some []))
  | .writeAll p bytes =>
    match c.fault with
    | some e => (.error e, s.modify p (· ++ bytes.take c.stored))
    | none => (.ok (), s.modify p (· ++ bytes))
  | .flush p | .syncAll p =>
    match c.fault with
    | some e => (.error e, s.modify p (·.take c.stored))
    | none => (.ok (), s)
  | .readToString p =>
    match c.fault, s.files p with
    | some e, _ => (.error e, s)
    | none, none => (.error notFound, s)
    | none, some bytes =>
      match fromUtf8 bytes with
      | some text => (.ok text, { s with seen := (p, bytes) :: s.seen })
      | none => (.error invalidData, s)
  | .readFile p =>
    match c.fault, s.files p with
    | some e, _ => (.error e, s)
    | none, none => (.error notFound, s)
    | none, some bytes => (.ok bytes, { s with seen := (p, bytes) :: s.seen })
  | .openRead p =>
    match c.fault, s.files p with
    | some e, _ => (.error e, s)
    | none, none => (.error notFound, s)
    | none, some bytes =>
      let chunks := pieces bytes.length c.sizes bytes
      match c.broken with
      | some (n, e) => (.ok ⟨chunks.take n, some e⟩, s)
      | none => (.ok ⟨chunks, none⟩, s)
  | .fileLen p =>
    match c.fault, s.files p with
    | some e, _ => (.error e, s)
    | none, none => (.error notFound, s)
    | none, some bytes => (.ok bytes.length, s)
  | .removeFile p =>
    match c.fault, s.files p with
    | some e, _ => (.error e, s)
    | none, none => (.error notFound, s)
    | none, some _ => (.ok (), s.set p none)
  | .rename p q =>
    match c.fault, s.files p with
    | some e, _ => (.error e, s)
    | none, none => (.error notFound, s)
    | none, some bytes => (.ok (), if p = q then s else (s.set p none).set q (some bytes))
  | .openAppend p =>
    match c.fault, s.files p with
    | some e, _ => (.error e, s)
    | none, none => (.ok (), s.set p (some []))
    | none, some _ => (.ok (), s)
  | .get _ => (c.response, s)
  | .newUuid => (c.uuid, s)
  | .systemResolver => (c.resolver, s)
  | .watch configPath =>
    match c.fault with
    | some e => (.error e, s)
    | none => (.ok (), { s with watcher := some configPath })
  | .setSink file =>
    match c.fault with
    | some e => (.error e, s)
    | none => (.ok (), { s with sink := file })
  | .log level message => ((), { s with log := (level, message) :: s.log })

abbrev Sys.handle : Handler SysOp Choice Sys := fun _ o c s => s.step o c

/-- Programs over the system; an error is the text `anyhow` displays. -/
abbrev SysProg := Prog SysOp String

/-- Issue an operation. -/
abbrev ask {ε β : Type} (o : SysOp β) : Prog SysOp ε β := Prog.perform o

/-- `result.with_context(|| message)?`. -/
def context {α : Type} (result : Except IoError α) (message : String) : SysProg α :=
  .ofExcept (result.mapError fun _ => message)

/-- `if condition { bail!(message) }`. -/
def failIf (condition : Prop) [Decidable condition] (message : String) : SysProg Unit :=
  .ofExcept (bailIf condition message)

/-- A log line, under a condition. -/
def logIf (condition : Bool) (level : Level) (message : String) : SysProg Unit :=
  if condition then ask (.log level message) else pure ()

/-- `result?`, without a context. -/
def propagate {α : Type} (result : Except IoError α) : SysProg α :=
  .ofExcept (result.mapError IoError.message)

/-! ### What an operation leaves alone -/

/-- The files an operation may change. -/
@[simp] def SysOp.writes {β : Type} : SysOp β → Path → Prop
  | .createNew p, q | .writeAll p _, q | .flush p, q | .syncAll p, q | .removeFile p, q
  | .openAppend p, q => q = p
  | .rename p p', q => q = p ∨ q = p'
  | _, _ => False

/-- The operation switches the log sink. -/
@[simp] def SysOp.switchesSink {β : Type} : SysOp β → Prop
  | .setSink _ => True
  | _ => False

/-- The operation registers the watcher. -/
@[simp] def SysOp.registers {β : Type} : SysOp β → Prop
  | .watch _ => True
  | _ => False

namespace Sys

/-- A property that the changes to the single parts of the state keep survives an operation. -/
lemma step_of_set {β : Type} {I : Sys → Prop} {o : SysOp β} {c : Choice} {s : Sys}
    (hset : ∀ s p content, o.writes p → I s → I (s.set p content))
    (hseen : ∀ s p bytes, s.files p = some bytes → I s → I { s with seen := (p, bytes) :: s.seen })
    (hlog : ∀ s entry, I s → I { s with log := entry :: s.log })
    (hsink : ∀ s file, o.switchesSink → I s → I { s with sink := file })
    (hwatcher : ∀ s path, o.registers → I s → I { s with watcher := some path })
    (hs : I s) : I (s.step o c).2 := by
  have hmodify : ∀ p f, o.writes p → I (s.modify p f) := by
    intro p f hp
    rw [modify]
    split
    · exact hset _ _ _ hp hs
    · exact hs
  cases o <;> simp only [step] <;> (repeat' split) <;>
    first
    | exact hs
    | exact hset _ _ _ rfl hs
    | exact hmodify _ _ rfl
    | exact hseen _ _ _ (by assumption) hs
    | exact hlog _ _ hs
    | exact hsink _ _ trivial hs
    | exact hwatcher _ _ trivial hs
    | exact hset _ _ _ (Or.inr rfl) (hset _ _ _ (Or.inl rfl) hs)

/-- Files that an operation does not write stay as they are. -/
lemma step_files {β : Type} {o : SysOp β} {q : Path} (h : ¬o.writes q) (c : Choice) (s : Sys) :
    (s.step o c).2.files q = s.files q := by
  refine step_of_set (I := fun t => t.files q = s.files q) ?_ ?_ ?_ ?_ ?_ rfl
  · intro t p content hp ht
    have hne : q ≠ p := fun heq => h (heq ▸ hp)
    rw [set_files, Function.update_of_ne hne, ht]
  all_goals intros; assumption

/-- A rename that fails changes nothing. -/
lemma step_rename_error {p q : Path} {c : Choice} {s : Sys} {e : IoError}
    (h : (s.step (.rename p q) c).1 = .error e) : (s.step (.rename p q) c).2 = s := by
  revert h
  simp only [step]
  split <;> simp

/-- The sink stays unless an operation switches it. -/
lemma step_sink {β : Type} {o : SysOp β} (h : ¬o.switchesSink) (c : Choice) (s : Sys) :
    (s.step o c).2.sink = s.sink := by
  refine step_of_set (I := fun t => t.sink = s.sink) ?_ ?_ ?_ (fun _ _ ho => absurd ho h) ?_ rfl
  all_goals intros; assumption

/-- The watcher stays unless an operation registers one. -/
lemma step_watcher {β : Type} {o : SysOp β} (h : ¬o.registers) (c : Choice) (s : Sys) :
    (s.step o c).2.watcher = s.watcher := by
  refine step_of_set (I := fun t => t.watcher = s.watcher) ?_ ?_ ?_ ?_
    (fun _ _ ho => absurd ho h) rfl
  all_goals intros; assumption

/-- The others leave the file alone, and its presence is seen. -/
structure Steady (E : Env Choice Sys) (q : Path) : Prop where
  files : ∀ {s s'}, E.interferes s s' → s'.files q = s.files q
  visible : ∀ {c}, E.admits c → c.hidden = false

/-- A steady file that is not seen is not there. -/
lemma Steady.absent {E : Env Choice Sys} {q : Path} (h : Steady E q) {c : Choice}
    (hc : E.admits c) {s : Sys} (hpresent : ((s.files q).isSome && !c.hidden) = false) :
    s.files q = none := by
  simpa [h.visible hc] using hpresent

end Sys

/-- The program changes no file outside `F`, and neither the sink nor the watcher. -/
def WritesIn {ε α : Type} (F : Set Path) (p : Prog SysOp ε α) : Prop :=
  p.All fun _ o => (∀ q, o.writes q → q ∈ F) ∧ ¬o.switchesSink ∧ ¬o.registers

@[simp] lemma writesIn_logIf {F : Set Path} (condition : Bool) (level : Level)
    (message : String) : WritesIn F (logIf condition level message) := by
  cases condition <;> simp [logIf, WritesIn]

lemma WritesIn.mono {ε α : Type} {F G : Set Path} {p : Prog SysOp ε α} (hp : WritesIn F p)
    (h : F ⊆ G) : WritesIn G p :=
  Prog.All.mono hp fun _ ho => ⟨fun q hq => h (ho.1 q hq), ho.2⟩

/-- Steady files that a program does not write are at its end what they were. -/
lemma wp_frame {E : Env Choice Sys} {ε α : Type} {F : Set Path} {p : Prog SysOp ε α}
    (hp : WritesIn F p) (s : Sys) :
    p.wp Sys.handle E
      (fun _ s' => ∀ q, q ∉ F → Sys.Steady E q → s'.files q = s.files q) s := by
  refine Prog.wp_invariant
    (I := fun t : Sys => ∀ q, q ∉ F → Sys.Steady E q → t.files q = s.files q) ?_ ?_ hp ?_
  · intro t t' ht hI q hqF hq
    rw [hq.files ht, hI q hqF hq]
  · intro β o ho c _ t hI q hqF hq
    rw [Sys.step_files (fun h => hqF (ho.1 q h)), hI q hqF hq]
  · exact fun _ _ _ => rfl

lemma WritesIn.keeps {E : Env Choice Sys} {ε α : Type} {F : Set Path} {p : Prog SysOp ε α}
    (hp : WritesIn F p) {q : Path} (hq : q ∉ F) (hsteady : Sys.Steady E q)
    (content : Option (List UInt8)) :
    Prog.Keeps Sys.handle E (fun s => s.files q = content) p :=
  fun s hs => Prog.wp_mono (wp_frame hp s) fun _ _ h => (h q hq hsteady).trans hs

/-- The others do not reach the log controller of the process, nor the record of its reads. -/
structure Sys.Private (E : Env Choice Sys) : Prop where
  sink : ∀ {s s'}, E.interferes s s' → s'.sink = s.sink
  seen : ∀ {s s'}, E.interferes s s' → s'.seen = s.seen

/-- The sink is what it was, too. -/
lemma WritesIn.keeps_sink {E : Env Choice Sys} (hE : Sys.Private E) {ε α : Type} {F : Set Path}
    {p : Prog SysOp ε α} (hp : WritesIn F p) (sink : Option Path) :
    Prog.Keeps Sys.handle E (fun s => s.sink = sink) p :=
  .of_all hp (fun ht hI => (hE.sink ht).trans hI)
    fun _ ho c _ t hI => (Sys.step_sink ho.2.1 c t).trans hI

/-- What was read stays on record. -/
lemma keeps_seen {E : Env Choice Sys} (hE : Sys.Private E) {ε α : Type} (p : Prog SysOp ε α)
    (entry : Path × List UInt8) :
    Prog.Keeps Sys.handle E (fun s => entry ∈ s.seen) p := by
  refine .of_all p.all_true (fun ht hI => hE.seen ht ▸ hI) fun o _ c _ t hI => ?_
  refine Sys.step_of_set (I := fun t : Sys => entry ∈ t.seen) ?_ ?_ ?_ ?_ ?_ hI
  · exact fun _ _ _ _ h => h
  · exact fun _ _ _ _ h => List.mem_cons_of_mem _ h
  · exact fun _ _ h => h
  · exact fun _ _ _ h => h
  · exact fun _ _ _ h => h

/-- The content was read from this path. -/
def ReadAt (seen : List (Path × List UInt8)) (path : Option Path)
    (content : Option (List UInt8)) : Prop :=
  ∀ bytes ∈ content, ∃ q ∈ path, (q, bytes) ∈ seen

lemma keeps_readAt {E : Env Choice Sys} {ε α : Type} (p : Prog SysOp ε α) (path : Option Path)
    (content : Option (List UInt8)) :
    Prog.Keeps Sys.handle E (fun s => Sys.Private E → ReadAt s.seen path content) p := by
  by_cases hE : Sys.Private E
  · cases content with
    | none => exact fun s _ => Prog.wp_always (fun _ _ _ => nofun) p s
    | some bytes =>
      intro s hs
      obtain ⟨q, hq, hmem⟩ := hs hE bytes rfl
      apply Prog.wp_mono (keeps_seen hE p _ s hmem)
      intro _ s' h _
      rintro _ ⟨⟩
      exact ⟨q, hq, h⟩
  · exact fun s _ => Prog.wp_always (fun _ _ h => absurd h hE) p s

section Context

variable {C σ α : Type} {h : Handler SysOp C σ} {E : Env C σ}

@[simp] lemma wp_context (x : Except IoError α) (message : String)
    (Q : Except String α → σ → Prop) (s : σ) :
    (context x message).wp h E Q s ↔ Q (x.mapError fun _ => message) s := by
  simp [context]

@[simp] lemma wp_propagate (x : Except IoError α) (Q : Except String α → σ → Prop) (s : σ) :
    (propagate x).wp h E Q s ↔ Q (x.mapError IoError.message) s := by
  simp [propagate]

variable {P : (β : Type) → SysOp β → Prop}

@[simp] lemma all_context (x : Except IoError α) (message : String) :
    (context x message).All P ↔ True := by
  simp [context]

@[simp] lemma all_propagate (x : Except IoError α) : (propagate x).All P ↔ True := by
  simp [propagate]

end Context

end TransferGateway

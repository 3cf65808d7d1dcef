import TransferGateway.Config.Sections
import TransferGateway.Files

/-!
# Messages and the log

The texts the gateway sends and logs come from a language file, over the built-in English ones.
The log controller holds the file the log goes to.
-/

namespace TransferGateway

/-- The files that are compiled into the program. -/
class Builtin where
  zhCN : String
  enUS : String
  configTemplate : String
  vhostTemplates : List (String × String)

structure Language where
  locale : String
  messages : BTreeMap String

namespace Language

/-- `meta` is only checked. -/
def decodeMeta : Toml.Decoder Unit := fun v => do
  let t ← Toml.asTable v
  let _ ← t.field ["locale"] Toml.string ""
  let _ ← t.field ["name"] Toml.string ""
  let _ ← t.field ["version"] Toml.u32 0
  return ()

/-- The messages of a `LanguageDocument`. -/
def decode (t : Toml.Table) : Option (BTreeMap String) := do
  t.field ["meta"] decodeMeta ()
  t.field ["messages"] (Toml.map Toml.string) .empty

def render (language : Language) (key : String) (replacements : List (String × String)) :
    String :=
  replacements.foldl (fun message (name, value) =>
    replaceText message ("\x7b" ++ name ++ "\x7d") value) ((language.messages.get key).getD key)

variable [Builtin]

def builtinTemplate (locale : String) : String :=
  if locale = "zh-CN" then Builtin.zhCN else Builtin.enUS

def ensureFile (path : Path) (locale : String) : SysProg Bool := do
  createParent path "language"
  createFile path (asBytes (builtinTemplate locale)) "language file"

variable [Toml.Parse]

/-- The built-in fallback is a file of the program, and valid. -/
def fromSource (locale source : String) : Option Language := do
  let selected ← (Toml.Parse.fromStr source).bind decode
  let fallback := ((Toml.Parse.fromStr Builtin.enUS).bind decode).getD .empty
  return { locale, messages := fallback.extend selected }

def builtin (locale : String) : Option Language := fromSource locale (builtinTemplate locale)

def load (path : Path) (locale : String) : SysProg Language := do
  let source ← context (← ask (.readToString path))
    s!"unable to read language file {path.display}"
  match fromSource locale source with
  | some language => return language
  | none => .fail s!"invalid language file {path.display}"

omit [Toml.Parse] in
lemma writesIn_ensureFile (path : Path) (locale : String) :
    WritesIn {path} (ensureFile path locale) :=
  .bind ((writesIn_createParent ..).mono (by simp)) fun _ => writesIn_createFile ..

lemma writesIn_load (path : Path) (locale : String) : WritesIn ∅ (load path locale) := by
  rw [load]
  refine .bind (by simp) fun _ => .bind (by simp) fun source => ?_
  split <;> trivial

omit [Toml.Parse] in
lemma keeps_ensureFile {E : Env Choice Sys} {q : Path} {bytes : List UInt8}
    (hq : Sys.Steady E q) (path : Path) (locale : String) :
    Prog.Keeps Sys.handle E (fun s => s.files q = some bytes) (ensureFile path locale) :=
  .bind ((writesIn_createParent ..).keeps (by simp) hq _) fun _ => keeps_createFile hq _ _ _

end Language

/-! ### The log controller -/

namespace LogController

def openLogFile (path : Path) : SysProg Unit := do
  createParent path "log"
  context (← ask (.openAppend path)) s!"unable to open log file {path.display}"

/-- `file.map(open_log_file).transpose()?`. -/
def openConfigured (file : Option Path) : SysProg Unit :=
  match file with
  | some path => openLogFile path
  | none => pure ()

/-- Opens the configured file, and only then switches to it. -/
def apply (configPath : Path) (logging : LoggingConfig) : SysProg Unit := do
  openConfigured (logging.filePath configPath)
  context (← ask (.setSink (logging.filePath configPath))) "log controller mutex is poisoned"

variable {E : Env Choice Sys}

lemma writesIn_openLogFile (path : Path) : WritesIn {path} (openLogFile path) :=
  .bind ((writesIn_createParent ..).mono (by simp)) fun _ => .bind (by simp) fun _ => by simp

lemma keeps_openLogFile {q : Path} {bytes : List UInt8} (hq : Sys.Steady E q) (path : Path) :
    Prog.Keeps Sys.handle E (fun s => s.files q = some bytes) (openLogFile path) := by
  by_cases hpath : q = path
  · subst hpath
    refine .bind ((writesIn_createParent ..).keeps (by simp) hq _) fun _ => .bind ?_ fun _ =>
      .ofExcept _
    intro s hs s₁ hs₁ c hc
    have hpresent : s₁.files q = some bytes := (hq.files hs₁).trans hs
    cases hfault : c.fault <;> simp only [Prog.wp_ret, Sys.step, hfault, hpresent]
  · exact (writesIn_openLogFile ..).keeps hpath hq _

lemma writesIn_openConfigured (file : Option Path) :
    WritesIn {q | q ∈ file} (openConfigured file) := by
  cases file with
  | none => trivial
  | some path => exact (writesIn_openLogFile path).mono (by simp)

lemma keeps_openConfigured {q : Path} {bytes : List UInt8} (hq : Sys.Steady E q)
    (file : Option Path) :
    Prog.Keeps Sys.handle E (fun s => s.files q = some bytes) (openConfigured file) := by
  cases file with
  | none => exact .ret _
  | some path => exact keeps_openLogFile hq path

/-- The sink is switched as the last step or not at all. -/
lemma wp_apply_sink (hE : Sys.Private E) (configPath : Path) (logging : LoggingConfig) (s : Sys) :
    (apply configPath logging).wp Sys.handle E (fun r s' => match r with
      | .ok () => s'.sink = logging.filePath configPath
      | .error _ => s'.sink = s.sink) s := by
  refine Prog.wp_seq ((writesIn_openConfigured _).keeps_sink hE s.sink s rfl) (fun _ s₁ h₁ => ?_)
    fun _ _ h => h
  simp only [Prog.wp_bind, Prog.wp_perform, wp_context]
  intro s₂ hs₂ c hc
  cases hfault : c.fault <;> simp [Sys.step, hfault, Except.mapError]
  exact (hE.sink hs₂).trans h₁

/-- A switch changes at most the log file, and creates it only. -/
lemma apply_files {I : Sys → Prop} (hI : ∀ {s s'}, E.interferes s s' → I s → I s')
    (hset : ∀ s file, I s → I { s with sink := file }) (configPath : Path)
    (logging : LoggingConfig)
    (hopen : Prog.Keeps Sys.handle E I (openConfigured (logging.filePath configPath))) :
    Prog.Keeps Sys.handle E I (apply configPath logging) := by
  refine .bind hopen fun _ => .bind ?_ fun _ => .ofExcept _
  intro s hs s₁ hs₁ c hc
  cases hfault : c.fault <;> simp only [Prog.wp_ret, Sys.step, hfault]
  · exact hset _ _ (hI hs₁ hs)
  · exact hI hs₁ hs

end LogController

end TransferGateway

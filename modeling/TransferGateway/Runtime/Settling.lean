import TransferGateway.Runtime.Footprint
import TransferGateway.Runtime.Freshness

/-!
# Coming to rest

A change to a watched file leads to a reload, and a reload may write files itself. Left alone, the
gateway comes to rest: its data and its log are not watched, and the language file is written once.
-/

namespace TransferGateway

/-! ### Temporary files -/

lemma split_append_last {s e : String} {c : Char} (h : c ∉ e.toList) :
    split (s ++ String.singleton c ++ e) c = split s c ++ [e] := by
  simp [split, List.splitOn_append_cons_self, List.splitOn_eq_singleton h]

/-- What follows the last dot. -/
lemma extension_of_fileName {p : Path} {name ending : String}
    (h : p.fileName = some (name ++ "." ++ ending)) (hending : '.' ∉ ending.toList) {e : String}
    (he : e ∈ p.extension) : e = ending := by
  rw [Path.extension, h, show "." = String.singleton '.' from rfl] at he
  simp only [Option.bind_eq_bind, Option.bind_some, split_append_last hending] at he
  split at he
  · cases he
  · simpa using he.symm

lemma fileName_withFileName (p : Path) {name : String} (h : 2 < name.length) :
    (p.withFileName name).fileName = some name := by
  have hne : ∀ other : String, other.length ≤ 2 → name ≠ other := by
    rintro other hother rfl
    exact absurd h (Nat.not_lt.mpr hother)
  rw [Path.fileName, getLast?_withFileName p (hne "." (by decide))]
  simp [hne "." (by decide), hne ".." (by decide)]


/-- A temporary file's name goes on behind its last dot with one of these. -/
lemma fileName_temporaries {q : Path}
    (hq : q ∈ temporaries Security.temporaryPath ∪ temporaries Ip2Region.temporaryPath) :
    ∃ name, q.fileName = some (name ++ "." ++ "download") ∨
      q.fileName = some (name ++ "." ++ "part") := by
  have hname : ∀ (p : Path) (name ending : String), 2 < ending.length →
      (p.withFileName (name ++ "." ++ ending)).fileName = some (name ++ "." ++ ending) := by
    intro p name ending hlength
    apply fileName_withFileName
    simp only [String.length_append]
    omega
  rcases hq with ⟨p, uuid, rfl⟩ | ⟨p, uuid, rfl⟩
  · refine ⟨"." ++ p.fileName.getD "security-list" ++ "." ++ uuid.simple, .inl ?_⟩
    rw [← hname p _ _ (by decide), String.append_assoc]
    rfl
  · refine ⟨"." ++ p.fileName.getD "ip2region.xdb" ++ "." ++ uuid.toString, .inr ?_⟩
    rw [← hname p _ _ (by decide), String.append_assoc]
    rfl

/-- A temporary file is not watched, unless the configuration is hidden. -/
lemma watched_temporary {configPath q : Path} (hhidden : configPath.isHidden = false)
    (hq : q ∈ temporaries Security.temporaryPath ∪ temporaries Ip2Region.temporaryPath) :
    watched configPath q = false := by
  have hextension : ∀ e ∈ q.extension, eqIgnoreAsciiCase e "toml" = false := by
    intro e he
    obtain ⟨name, hname | hname⟩ := fileName_temporaries hq
    · rw [extension_of_fileName hname (by decide) he]
      decide
    · rw [extension_of_fileName hname (by decide) he]
      decide
  have hname : q.fileName.isSome = true → q.fileName ≠ configPath.fileName := by
    intro hsome heq
    have hq := isHidden_of_mem_temporaries hq
    obtain ⟨name, hname⟩ := Option.isSome_iff_exists.mp hsome
    have hlast : ∀ p : Path, p.fileName = some name → p.components.getLast? = some name :=
      fun _ h => (Option.filter_eq_some_iff.mp h).1
    rw [Path.isHidden, hlast q hname] at hq
    rw [Path.isHidden, hlast configPath (heq ▸ hname), hq] at hhidden
    cases hhidden
  rw [watched, Bool.and_eq_false_iff]
  right
  simp only [isConfigEvent, List.any_cons, List.any_nil, Bool.or_false, Bool.or_eq_false_iff,
    Bool.and_eq_false_imp, beq_eq_false_iff_ne, ne_eq]
  refine ⟨hname, Bool.eq_false_iff.mpr fun hany => ?_⟩
  obtain ⟨e, he, htoml⟩ := (Option.any_eq_true _ _).mp hany
  rw [hextension e he] at htoml
  cases htoml


/-! ### Files nobody hears of -/

/-- The watcher of this configuration hears of no change to the data and to the log. -/
structure AppConfig.Unheard (config : AppConfig) (configPath : Path) : Prop where
  data : ∀ q ∈ config.dataPaths, watched configPath q = false
  log : ∀ q ∈ config.logging.filePath configPath, watched configPath q = false

namespace AppConfig

/-- A check of what is not heard of. -/
def isUnheard (config : AppConfig) (configPath : Path) : Bool :=
  (config.ip2region.databaseFiles ++ config.security.listFiles ++
    (config.logging.filePath configPath).toList).all fun q => !watched configPath q

lemma Unheard.of_isUnheard {config : AppConfig} {configPath : Path}
    (h : config.isUnheard configPath = true) : config.Unheard configPath := by
  simp only [isUnheard, List.all_append, Bool.and_eq_true, List.all_eq_true, Bool.not_eq_true'] at h
  obtain ⟨⟨hdatabases, hlists⟩, hlog⟩ := h
  refine ⟨?_, fun q hq => hlog q (Option.mem_toList.mpr hq)⟩
  rintro q (hq | hq)
  · apply hdatabases q
    rcases hq with hq | hq
    · exact List.mem_filterMap.mpr ⟨_, by simp, hq⟩
    · exact List.mem_filterMap.mpr ⟨_, by simp, hq⟩
  · apply hlists q
    rcases hq with hq | hq | hq | hq
    · exact List.mem_filterMap.mpr ⟨_, by simp, hq⟩
    · exact List.mem_filterMap.mpr ⟨_, by simp, hq⟩
    · exact List.mem_filterMap.mpr ⟨_, by simp, hq⟩
    · exact List.mem_filterMap.mpr ⟨_, by simp, hq⟩

end AppConfig

/-- It hears of nothing that the permit allows, and no other watcher is registered. -/
structure Permit.Unheard (g : Permit) (configPath : Path) : Prop where
  files : ∀ q ∈ g.files, watched configPath q = false
  watches : ∀ path, path ∉ g.watches

namespace Permit.Unheard

variable {configPath : Path} {g g' : Permit}

lemma union (h : g.Unheard configPath) (h' : g'.Unheard configPath) :
    (g ∪ g').Unheard configPath where
  files := by
    rintro q (hq | hq)
    · exact h.files q hq
    · exact h'.files q hq
  watches := by
    rintro path (hpath | hpath)
    · exact h.watches path hpath
    · exact h'.watches path hpath

lemma none : Permit.none.Unheard configPath :=
  ⟨fun _ hq => hq.elim, fun _ hpath => hpath.elim⟩

lemma when (flag : Bool) (h : g.Unheard configPath) : (Permit.when flag g).Unheard configPath := by
  cases flag with
  | false => exact none
  | true => exact h

end Permit.Unheard

namespace AppConfig.Unheard

variable {config : AppConfig} {configPath : Path} (h : config.Unheard configPath)
  (hhidden : configPath.isHidden = false)

include h hhidden

lemma databases : (Ip2Region.permit config.ip2region).Unheard configPath := by
  refine ⟨?_, fun _ hpath => hpath.elim⟩
  rintro q ⟨database, hdatabase, rfl | ⟨uuid, rfl⟩⟩
  · exact h.data _ (.inl (Ip2Region.path_mem_databasePaths hdatabase))
  · exact watched_temporary hhidden (.inr ⟨_, uuid, rfl⟩)

lemma lists : (Security.permit config.security).Unheard configPath := by
  refine ⟨?_, fun _ hpath => hpath.elim⟩
  rintro q ⟨item, hitem, rfl | ⟨uuid, rfl⟩⟩
  · exact h.data _ (.inr (Security.path_mem_listPaths hitem))
  · exact watched_temporary hhidden (.inl ⟨_, uuid, rfl⟩)

lemma downloadPermit : config.downloadPermit.Unheard configPath :=
  .union (.when _ (h.databases hhidden)) (.when _ (h.lists hhidden))

lemma updatePermit : config.updatePermit.Unheard configPath :=
  .union (.when _ (h.databases hhidden)) (.when _ (h.lists hhidden))

omit hhidden in
lemma logFile : (LogController.permit (config.logging.filePath configPath)).Unheard configPath :=
  ⟨h.log, fun _ hpath => hpath.elim⟩

end AppConfig.Unheard

/-! ### Reloads that are due -/

section Due

variable [Toml.Parse]

/-- The configuration in the file, before its virtual hosts are read. -/
def configured (configPath : Path) (content : Option (List UInt8)) : Option AppConfig := do
  let bytes ← content
  let source ← fromUtf8 bytes
  let table ← Toml.Parse.fromStr source
  let config ← AppConfig.decode table
  return config.resolvePaths configPath

namespace Sys

variable {configPath : Path} {s s' s'' : Sys}

/-- The configuration names a language file that is watched and missing. -/
def lacksLanguage (configPath : Path) (s : Sys) : Bool :=
  (configured configPath (s.files configPath)).any fun config =>
    watched configPath (config.language.filePath configPath) &&
      (s.files (config.language.filePath configPath)).isNone

lemma lacksLanguage_iff : s.lacksLanguage configPath = true ↔
    ∃ config, configured configPath (s.files configPath) = some config ∧
      watched configPath (config.language.filePath configPath) = true ∧
      s.files (config.language.filePath configPath) = none := by
  simp [lacksLanguage, Option.any_eq_true, Option.isNone_iff_eq_none]

/-- At most so many reloads are still to come. -/
def reloadsDue (configPath : Path) (s : Sys) : ℕ :=
  (if .configChanged ∈ s.queue then 1 else 0) + if s.lacksLanguage configPath then 1 else 0

lemma reloadsDue_le_of_imp (hqueue : s'.Pending → s.Pending)
    (hlacks : s'.lacksLanguage configPath = true → s.lacksLanguage configPath = true) :
    s'.reloadsDue configPath ≤ s.reloadsDue configPath := by
  have hite : ∀ {p q : Prop} [Decidable p] [Decidable q], (p → q) →
      (if p then 1 else 0) ≤ if q then 1 else 0 := by
    intro p q _ _ hpq
    by_cases hp : p
    · rw [if_pos hp, if_pos (hpq hp)]
    · rw [if_neg hp]
      exact Nat.zero_le _
  exact Nat.add_le_add (hite hqueue) (hite hlacks)

/-- The configuration stays, and no further reload becomes due. -/
structure Calm (configPath : Path) (s s' : Sys) : Prop where
  watcher : s'.watcher = s.watcher
  content : s'.files configPath = s.files configPath
  due : s'.reloadsDue configPath ≤ s.reloadsDue configPath

lemma Calm.refl (s : Sys) : Calm configPath s s := ⟨rfl, rfl, le_rfl⟩

lemma Calm.trans (h : Calm configPath s s') (h' : Calm configPath s' s'') :
    Calm configPath s s'' :=
  ⟨h'.watcher.trans h.watcher, h'.content.trans h.content, h'.due.trans h.due⟩

/-- The watcher of this configuration runs, and the file has this content. -/
structure Watches (configPath : Path) (content : Option (List UInt8)) (s : Sys) : Prop where
  named : configPath.fileName.isSome = true
  watcher : s.watcher = some configPath
  content : s.files configPath = content

variable {content : Option (List UInt8)}

lemma Watches.calm (h : s.Watches configPath content) (hs : Calm configPath s s') :
    s'.Watches configPath content :=
  ⟨h.named, hs.watcher.trans h.watcher, hs.content.trans h.content⟩

/-- A change to a file that is not watched. -/
lemma Watches.calm_set (h : s.Watches configPath content) {p : Path}
    (hp : watched configPath p = false) (bytes : Option (List UInt8)) :
    Calm configPath s (s.set p bytes) := by
  have hfiles : ∀ q, watched configPath q = true → (s.set p bytes).files q = s.files q := by
    intro q hq
    apply Function.update_of_ne
    rintro rfl
    rw [hp] at hq
    cases hq
  have hcontent := hfiles configPath (watched_self h.named)
  refine ⟨rfl, hcontent, reloadsDue_le_of_imp ?_ ?_⟩
  · simp [Pending, set, isWatched, h.watcher, hp]
  · rw [lacksLanguage_iff, lacksLanguage_iff, hcontent]
    rintro ⟨config, hconfig, hwatched, hnone⟩
    exact ⟨config, hconfig, hwatched, (hfiles _ hwatched).symm.trans hnone⟩

/-- A file is written where a reload is due already. -/
lemma calm_set_of_pending (hs : s.Pending) {p : Path} (hp : p ≠ configPath) (bytes : List UInt8) :
    Calm configPath s (s.set p (some bytes)) := by
  have hcontent : (s.set p (some bytes)).files configPath = s.files configPath :=
    Function.update_of_ne hp.symm ..
  refine ⟨rfl, hcontent, reloadsDue_le_of_imp (fun _ => hs) ?_⟩
  rw [lacksLanguage_iff, lacksLanguage_iff, hcontent]
  rintro ⟨config, hconfig, hwatched, hnone⟩
  refine ⟨config, hconfig, hwatched, ?_⟩
  by_cases heq : config.language.filePath configPath = p
  · rw [set_files, heq, Function.update_self] at hnone
    cases hnone
  · rwa [set_files, Function.update_of_ne heq] at hnone

/-- The language file is created: the reload that becomes due was to come. -/
lemma calm_set_language {config : AppConfig}
    (hconfig : configured configPath (s.files configPath) = some config)
    (hwatched : watched configPath (config.language.filePath configPath) = true)
    (hnone : s.files (config.language.filePath configPath) = none)
    (hp : config.language.filePath configPath ≠ configPath) (bytes : List UInt8) :
    Calm configPath s (s.set (config.language.filePath configPath) (some bytes)) := by
  have hcontent : (s.set (config.language.filePath configPath) (some bytes)).files configPath =
      s.files configPath := Function.update_of_ne hp.symm ..
  have hlacks : s.lacksLanguage configPath = true :=
    lacksLanguage_iff.mpr ⟨config, hconfig, hwatched, hnone⟩
  have hthere : (s.set (config.language.filePath configPath) (some bytes)).lacksLanguage configPath =
      false := by
    rw [Bool.eq_false_iff, ne_eq, lacksLanguage_iff, hcontent]
    rintro ⟨config', hconfig', -, hnone'⟩
    obtain rfl := Option.some.inj (hconfig.symm.trans hconfig')
    rw [set_files, Function.update_self] at hnone'
    cases hnone'
  refine ⟨rfl, hcontent, ?_⟩
  rw [reloadsDue, reloadsDue, hlacks, hthere, if_neg Bool.false_ne_true, if_pos rfl, Nat.add_zero]
  apply le_trans _ (Nat.le_add_left 1 _)
  split_ifs
  · exact le_rfl
  · exact Nat.zero_le 1

/-- An operation that changes no watched file. -/
lemma Watches.calm_step (h : s.Watches configPath content) {β : Type} {o : SysOp β}
    (ho : ∀ q, o.writes q → watched configPath q = false) (hregisters : ¬o.registers) (c : Choice) :
    Calm configPath s (s.step o c).2 := by
  refine step_of_set (I := Calm configPath s) (fun t p bytes hp ht => ?_) ?_ ?_ ?_ ?_ (.refl s)
  · exact ht.trans ((h.calm ht).calm_set (ho p hp) bytes)
  · exact fun t _ _ _ ht => ⟨ht.watcher, ht.content, ht.due⟩
  · exact fun t _ ht => ⟨ht.watcher, ht.content, ht.due⟩
  · exact fun t _ _ ht => ⟨ht.watcher, ht.content, ht.due⟩
  · exact fun t _ ho => absurd ho hregisters

end Sys

/-! ### Programs that run alone -/

/-- Whatever fails, every operation is calm. -/
def StaysCalm (configPath : Path) {ε α : Type} (p : Prog SysOp ε α) (s : Sys) : Prop :=
  p.issues Sys.handle (Env.alone Choice Sys)
    (fun _ o s => ∀ c, Sys.Calm configPath s (s.step o c).2) s

variable {configPath : Path} {content : Option (List UInt8)} {ε α : Type} {p : Prog SysOp ε α}
  {s : Sys}

lemma Permit.Allows.calm {g : Permit} {β : Type} {o : SysOp β} (ho : g.Allows o)
    (hg : g.Unheard configPath) (hs : s.Watches configPath content) (c : Choice) :
    Sys.Calm configPath s (s.step o c).2 := by
  refine hs.calm_step (fun q hq => hg.files q (ho.files q hq)) (fun hregisters => ?_) c
  cases o with
  | watch path => exact hg.watches path (ho.watches path rfl)
  | _ => exact hregisters.elim

lemma Within.staysCalm {g : Permit} (hp : Within g p) (hg : g.Unheard configPath)
    (hs : s.Watches configPath content) : StaysCalm configPath p s := by
  refine Prog.issues_of_all (I := Sys.Watches configPath content) hp ?_ (fun o ho t ht => ?_) hs
  · rintro s s' rfl hs
    exact hs
  · have hcalm := ho.calm hg ht
    exact ⟨hcalm, fun c _ => ht.calm (hcalm c)⟩

lemma StaysCalm.watches (hp : StaysCalm configPath p s) (hs : s.Watches configPath content) :
    p.wp Sys.handle (Env.alone Choice Sys) (fun _ s' => s'.Watches configPath content) s := by
  refine Prog.wp_of_issues hp ?_ (fun o t ho ht c _ => ht.calm (ho c)) hs
  rintro s s' rfl hs
  exact hs

lemma StaysCalm.bind {β : Type} {f : α → Prog SysOp ε β} (hp : StaysCalm configPath p s)
    (hs : s.Watches configPath content)
    (hf : ∀ a s', s'.Watches configPath content → StaysCalm configPath (f a) s') :
    StaysCalm configPath (p >>= f) s := by
  refine Prog.issues_seq hp (R := fun _ s' => s'.Watches configPath content) ?_ hf
  apply Prog.wp_mono (hp.watches hs)
  intro r s' hs'
  cases r with
  | ok a => exact hs'
  | error e => trivial

/-- The operation goes on with a file that was created. -/
@[simp] def SysOp.goesOn (path : Path) {β : Type} : SysOp β → Prop
  | .writeAll p _ | .flush p | .syncAll p => p = path
  | _ => False

omit [Toml.Parse] in
lemma Sys.step_goesOn {path : Path} {β : Type} {o : SysOp β} (ho : o.goesOn path) (c : Choice)
    (s : Sys) : (s.step o c).2 = s ∨ ∃ f, (s.step o c).2 = s.modify path f := by
  cases o with
  | writeAll p bytes =>
    obtain rfl : p = path := ho
    cases hfault : c.fault <;> simp only [Sys.step, hfault] <;> exact .inr ⟨_, rfl⟩
  | flush p | syncAll p =>
    obtain rfl : p = path := ho
    cases hfault : c.fault with
    | none => simp [Sys.step, hfault]
    | some e =>
      simp only [Sys.step, hfault]
      exact .inr ⟨_, rfl⟩
  | _ => exact ho.elim

/-- What follows the creation of a file is calm, if its changes are not heard of or a reload is due
since it was created. -/
lemma Prog.All.staysCalm {path : Path} (hp : p.All fun _ o => o.goesOn path)
    (hs : s.Watches configPath content) (hpath : path ≠ configPath)
    (hheard : watched configPath path = false ∨ s.Pending) : StaysCalm configPath p s := by
  have hmodify : ∀ t : Sys, t.Watches configPath content →
      (watched configPath path = false ∨ t.Pending) → ∀ f,
      Sys.Calm configPath t (t.modify path f) ∧
        (watched configPath path = false ∨ (t.modify path f).Pending) := by
    intro t ht hheard f
    rw [Sys.modify]
    split
    · rcases hheard with hunheard | hpending
      · exact ⟨ht.calm_set hunheard _, .inl hunheard⟩
      · exact ⟨Sys.calm_set_of_pending hpending hpath _,
          .inr (Sys.pending_set_of_pending hpending _ _)⟩
    · exact ⟨.refl t, hheard⟩
  refine Prog.issues_of_all (I := fun t => t.Watches configPath content ∧
    (watched configPath path = false ∨ t.Pending)) hp ?_ (fun o ho t ht => ?_) ⟨hs, hheard⟩
  · rintro s s' rfl hs
    exact hs
  · have hstep : ∀ c, Sys.Calm configPath t (t.step o c).2 ∧
        (watched configPath path = false ∨ (t.step o c).2.Pending) := by
      intro c
      rcases Sys.step_goesOn ho c t with heq | ⟨f, heq⟩
      · rw [heq]
        exact ⟨.refl t, ht.2⟩
      · rw [heq]
        exact hmodify t ht.1 ht.2 f
    exact ⟨fun c => (hstep c).1, fun c _ => ⟨ht.1.calm (hstep c).1, (hstep c).2⟩⟩

/-- The language file is created where it is missing. -/
lemma staysCalm_createFile {config : AppConfig} (hconfig : configured configPath content = some config)
    (hs : s.Watches configPath content) (bytes : List UInt8) (noun : String) :
    StaysCalm configPath (createFile (config.language.filePath configPath) bytes noun) s := by
  have hne : s.files (config.language.filePath configPath) = none →
      config.language.filePath configPath ≠ configPath := by
    intro hnone heq
    rw [heq, hs.content] at hnone
    rw [hnone] at hconfig
    cases hconfig
  have hcreated : s.files (config.language.filePath configPath) = none → Sys.Calm configPath s
      (s.set (config.language.filePath configPath) (some [])) := by
    intro hnone
    by_cases hwatched : watched configPath (config.language.filePath configPath) = true
    · exact Sys.calm_set_language (hs.content ▸ hconfig) hwatched hnone (hne hnone) []
    · exact hs.calm_set (by simpa using hwatched) _
  have hcases : ∀ c, (∃ e, s.step (.createNew (config.language.filePath configPath)) c =
      (.error e, s)) ∨ s.files (config.language.filePath configPath) = none ∧
        s.step (.createNew (config.language.filePath configPath)) c =
          (.ok (), s.set (config.language.filePath configPath) (some [])) := by
    intro c
    cases hfault : c.fault <;> cases hfile : s.files (config.language.filePath configPath) <;>
      simp [Sys.step, hfault, hfile]
  rintro s' rfl
  refine ⟨fun c => ?_, fun c _ => ?_⟩
  · rcases hcases c with ⟨e, heq⟩ | ⟨hnone, heq⟩
    · rw [heq]
      exact .refl s'
    · rw [heq]
      exact hcreated hnone
  · rcases hcases c with ⟨e, heq⟩ | ⟨hnone, heq⟩
    · simp only [heq, Prog.bind]
      split <;> trivial
    · simp only [heq, Prog.bind]
      have hheard : watched configPath (config.language.filePath configPath) = false ∨
          (s'.set (config.language.filePath configPath) (some [])).Pending := by
        by_cases hwatched : watched configPath (config.language.filePath configPath) = true
        · refine .inr (Sys.pending_set_of_isWatched ?_ _)
          rw [Sys.isWatched, hs.watcher]
          exact hwatched
        · exact .inl (by simpa using hwatched)
      refine Prog.All.staysCalm ?_ (hs.calm (hcreated hnone)) (hne hnone) hheard
      exact .bind (by simp) fun _ => .bind (by simp) fun _ => .bind (by simp) fun _ =>
        .bind (by simp) fun _ => .bind (by simp) fun _ => .bind (by simp) fun _ => trivial

namespace AppConfig

/-- Up to its virtual hosts, this is the configuration in the file. -/
def IsConfigured (config : AppConfig) (configPath : Path) (content : Option (List UInt8)) : Prop :=
  ∃ c, configured configPath content = some c ∧
    { config.resolvePaths configPath with vhosts := c.vhosts } = c

variable [UrlParse] [StdCase]

/-- A load returns what the file holds. -/
lemma wp_load_configured {s : Sys} (hs : s.files configPath = content) :
    (load configPath).wp Sys.handle (Env.alone Choice Sys)
      (Prog.onOk fun config _ => config.IsConfigured configPath content) s := by
  have hvhosts : ∀ c : AppConfig, (c.loadVhosts configPath).Returns fun config =>
      { config with vhosts := c.vhosts } = c := by
    intro c
    rw [loadVhosts]
    split
    · exact Prog.returns_bind fun _ => rfl
    · exact rfl
  rw [load, Prog.wp_bind, Prog.wp_perform]
  rintro s₁ rfl c -
  cases hfault : c.fault with
  | some e => simp [Sys.step, hfault, Except.mapError]
  | none =>
    cases hcontent : content with
    | none => simp [Sys.step, hfault, hs, hcontent, Except.mapError]
    | some bytes =>
      cases hsource : fromUtf8 bytes with
      | none => simp [Sys.step, hfault, hs, hcontent, hsource, Except.mapError]
      | some source =>
        simp only [Sys.step, hfault, hs, hcontent, hsource, Prog.wp_bind, wp_context, Except.mapError]
        cases hconfig : (Toml.Parse.fromStr source).bind decode with
        | none => trivial
        | some config₀ =>
          have hconfigured : configured configPath (some bytes) =
              some (config₀.resolvePaths configPath) := by
            obtain ⟨table, htable, hdecode⟩ := Option.bind_eq_some_iff.mp hconfig
            simp [configured, hsource, htable, hdecode]
          refine Prog.Returns.wp (R := fun config : AppConfig => config.IsConfigured configPath (some bytes))
            ((hvhosts config₀).bind fun config h => ?_) _
          exact Prog.returns_bind fun _ => ⟨_, hconfigured, by rw [← h]; rfl⟩

end AppConfig

/-! ### The jobs -/

section Rt

variable [Xdb] {α β : Type} {t : Rt}

/-- What the operation does to the system is calm, and what it publishes is not heard of. -/
@[simp] def RtOp.IsCalm (configPath : Path) {β : Type} : RtOp β → Rt → Prop
  | .inl o, t => ∀ c, Sys.Calm configPath t.sys (t.sys.step o c).2
  | .inr .borrow, _ => True
  | .inr (.sendReplace state), _ => state.config.Unheard configPath

def RtStaysCalm (configPath : Path) {α : Type} (p : RtProg α) (t : Rt) : Prop :=
  p.issues Rt.handle (Rt.env (Env.alone Choice Sys)) (fun _ o => RtOp.IsCalm configPath o) t

lemma StaysCalm.onSys {p : SysProg α} {s : Sys} {published : RuntimeState}
    (hp : StaysCalm configPath p s) : RtStaysCalm configPath (onSys p) ⟨s, published⟩ := by
  rw [TransferGateway.onSys]
  induction p generalizing s with
  | ret a => trivial
  | fail e => trivial
  | call o k ih =>
    rintro ⟨s', _⟩ ⟨hs, rfl⟩
    obtain ⟨ho, hk⟩ := hp s' hs
    exact ⟨ho, fun c hc => ih _ (hk c hc)⟩

/-- The `match` on the result of a program over the system. -/
lemma rtStaysCalm_match {p : SysProg α} {f : Except String α → RtProg β}
    {R : Except String α → Prop} (hp : StaysCalm configPath p t.sys)
    (ht : t.sys.Watches configPath content)
    (hR : p.wp Sys.handle (Env.alone Choice Sys) (fun r _ => R r) t.sys)
    (hf : ∀ r s', R r → s'.Watches configPath content →
      RtStaysCalm configPath (f r) ⟨s', t.published⟩) :
    RtStaysCalm configPath (onSys p >>= f) t := by
  refine Prog.issues_seq hp.onSys (R := fun r t' => t'.published = t.published ∧ R r ∧
    t'.sys.Watches configPath content) ?_ ?_
  · rw [wp_onSys]
    exact Prog.wp_mono (Prog.wp_and hR (hp.watches ht)) fun r s' h => ⟨rfl, h⟩
  · rintro r ⟨s', _⟩ ⟨rfl, hr, hs'⟩
    exact hf r s' hr hs'

lemma RtStaysCalm.step {o : RtOp β} {k : β → RtProg α} (h : RtStaysCalm configPath (.call o k) t)
    (hpublished : t.published.config.Unheard configPath) (c : Choice) :
    Sys.Calm configPath t.sys (t.step o c).2.sys ∧
      (t.step o c).2.published.config.Unheard configPath ∧
      RtStaysCalm configPath (k (t.step o c).1) (t.step o c).2 := by
  obtain ⟨ho, hk⟩ := h t ⟨rfl, rfl⟩
  refine ⟨?_, ?_, hk c trivial⟩
  · rcases o with o | o
    · exact ho c
    · cases o <;> exact .refl _
  · rcases o with o | o
    · exact hpublished
    · cases o with
      | borrow => exact hpublished
      | sendReplace state => exact ho

/-- An operation that the permit allows. -/
lemma RtOp.Within.isCalm {o : RtOp β} {g : Permit} {K : RuntimeState → Prop}
    (ho : RtOp.Within g K o) (hg : g.Unheard configPath)
    (hK : ∀ state, K state → state.config.Unheard configPath)
    (ht : t.sys.Watches configPath content) :
    RtOp.IsCalm configPath o t ∧ ∀ c, (t.step o c).2.sys.Watches configPath content := by
  rcases o with o | o
  · have hcalm := Permit.Allows.calm ho hg ht
    exact ⟨hcalm, fun c => ht.calm (hcalm c)⟩
  · cases o with
    | borrow => exact ⟨trivial, fun _ => ht⟩
    | sendReplace state => exact ⟨hK state ho, fun _ => ht⟩

lemma RtWithin.staysCalm {p : RtProg α} {g : Permit} {K : RuntimeState → Prop}
    (hp : RtWithin g K p) (hg : g.Unheard configPath)
    (hK : ∀ state, K state → state.config.Unheard configPath)
    (ht : t.sys.Watches configPath content) : RtStaysCalm configPath p t := by
  refine Prog.issues_of_all (I := fun t => t.sys.Watches configPath content) hp ?_
    (fun o ho t ht => ?_) ht
  · rintro ⟨s, _⟩ ⟨s', _⟩ ⟨rfl, -⟩ hs
    exact hs
  · obtain ⟨hcalm, hstep⟩ := RtOp.Within.isCalm ho hg hK ht
    exact ⟨hcalm, fun c _ => hstep c⟩

/-- An update cycle is calm, if what is published is not heard of. -/
lemma KeepsToPublished.staysCalm {p : RtProg α} (hp : KeepsToPublished p)
    (hhidden : configPath.isHidden = false) (ht : t.sys.Watches configPath content)
    (hpublished : t.published.config.Unheard configPath) : RtStaysCalm configPath p t := by
  refine hp.issues (I := fun t => t.sys.Watches configPath content ∧
    t.published.config.Unheard configPath) ?_ (fun o t ho ht => ?_) ⟨ht, hpublished⟩
  · rintro ⟨s, _⟩ ⟨s', _⟩ ⟨rfl, rfl⟩ h
    exact h
  · obtain ⟨hcalm, hstep⟩ := RtOp.Within.isCalm ho (ht.2.updatePermit hhidden)
      (fun state hstate => hstate ▸ ht.2) ht.1
    refine ⟨hcalm, fun c => ⟨hstep c, ?_⟩⟩
    rcases o with o | o
    · exact ht.2
    · cases o with
      | borrow => exact ht.2
      | sendReplace state => exact hcalm

end Rt

section Jobs

/-- What is published from the configuration in the file is not heard of. -/
lemma AppConfig.IsConfigured.unheard {config : AppConfig}
    (h : config.IsConfigured configPath content)
    (hunheard : ∀ c, configured configPath content = some c → c.Unheard configPath) :
    (config.resolvePaths configPath).Unheard configPath := by
  obtain ⟨c, hc, heq⟩ := h
  have hc := hunheard c hc
  rw [← heq] at hc
  exact ⟨hc.data, hc.log⟩

variable [Xdb] [StdParse] [StdCase] [Builtin] [UrlParse]

omit [UrlParse] in
lemma staysCalm_load {config : AppConfig} (hconfig : config.IsConfigured configPath content)
    (hunheard : (config.resolvePaths configPath).Unheard configPath)
    (hhidden : configPath.isHidden = false) {s : Sys} (hs : s.Watches configPath content) :
    StaysCalm configPath (RuntimeState.load config configPath) s := by
  obtain ⟨c, hc, heq⟩ := hconfig
  have hlanguage : (config.resolvePaths configPath).language.filePath configPath =
      c.language.filePath configPath := by
    rw [← heq]
  obtain ⟨f, hload, hf⟩ := RuntimeState.exists_within_load config configPath
  rw [hload]
  refine StaysCalm.bind ?_ hs fun language s₁ hs₁ =>
    (hf language).staysCalm (hunheard.downloadPermit hhidden) hs₁
  rw [RuntimeState.loadLanguage, Language.ensureFile, hlanguage]
  simp only [bind_assoc]
  refine ((within_createParent ..).staysCalm .none hs).bind hs fun _ s₁ hs₁ =>
    (staysCalm_createFile hc hs₁ _ _).bind hs₁ fun created s₂ hs₂ => ?_
  refine Within.staysCalm (g := Permit.none) ?_ .none hs₂
  exact .bind (Language.within_load ..) fun _ => .bind (within_logIf ..) fun _ => trivial

/-- A reload is calm, if what the configuration file names is not heard of. -/
lemma staysCalm_reloadConfig {t : Rt} (ht : t.sys.Watches configPath content)
    (hunheard : ∀ c, configured configPath content = some c → c.Unheard configPath)
    (hhidden : configPath.isHidden = false) :
    RtStaysCalm configPath (reloadConfig configPath) t := by
  have hfailed : ∀ {s : Sys} previous error (result : ReloadEnd), s.Watches configPath content →
      RtStaysCalm configPath (do
        logReloadFailure previous error
        return result : RtProg ReloadEnd) ⟨s, t.published⟩ := by
    intro s previous error result hs
    refine RtWithin.staysCalm (g := Permit.none) (K := fun _ => False) ?_ .none (fun _ => False.elim) hs
    exact .bind (rtWithin_logLine ..) fun _ => trivial
  rw [reloadConfig]
  refine Prog.issues_seq (R := fun _ t' => t' = t) (fun _ _ => ⟨trivial, fun _ _ => trivial⟩) ?_ ?_
  · rintro ⟨s, _⟩ ⟨rfl, rfl⟩ c -
    rfl
  rintro previous _ rfl
  refine rtStaysCalm_match (R := fun r => ∀ config, r = .ok config →
    config.IsConfigured configPath content) ((AppConfig.within_load _).staysCalm .none ht) ht ?_
    fun r s₁ hr hs₁ => ?_
  · apply Prog.wp_mono (AppConfig.wp_load_configured ht.content)
    rintro r s' h config rfl
    exact h
  cases r with
  | error error => exact hfailed _ _ _ hs₁
  | ok config =>
    have hconfig := hr config rfl
    have hconfigUnheard := hconfig.unheard hunheard
    refine rtStaysCalm_match (R := fun r => ∀ next, r = .ok next →
      next.config = config.resolvePaths configPath) (staysCalm_load hconfig hconfigUnheard hhidden hs₁)
      hs₁ ?_ fun r s₂ hr hs₂ => ?_
    · apply Prog.wp_mono ((RuntimeState.returns_load config configPath).wp _)
      rintro r s' h next rfl
      exact h
    cases r with
    | error error => exact hfailed _ _ _ hs₂
    | ok next =>
      have hnext := hr next rfl
      refine RtWithin.staysCalm (K := fun state => state.config = config.resolvePaths configPath)
        (.bind (LogController.within_apply ..).onSys fun r => ?_) ?_ (fun state hstate => ?_) hs₂
      · cases r with
        | error error => exact .bind (rtWithin_logLine ..) fun _ => trivial
        | ok _ =>
          exact .bind (rtWithin_sendReplace hnext) fun _ =>
            .bind (rtWithin_logLine ..) fun _ => trivial
      · rw [hnext]
        exact hconfigUnheard.logFile
      · rw [hstate]
        exact hconfigUnheard

/-! ### Left alone -/

/-- How many reloads begin between these phases. -/
def Phase.begins : Phase → Phase → ℕ
  | .draining, .reloading _ => 1
  | _, _                    => 0

namespace Watcher

/-- In these phases a reload is to come, whatever is in the queue. -/
def reloadsDue (configPath : Path) (w : Watcher) : ℕ :=
  match w.phase with
  | .debouncing | .draining => 1 + if w.rt.sys.lacksLanguage configPath then 1 else 0
  | _                       => w.rt.sys.reloadsDue configPath

/-- What the task comes to while nobody else changes a file, and how many reloads begin. The notifier
reports nothing more than the changes of the task itself, each once and at once. -/
inductive LeftAlone (configPath : Path) (w : Watcher) : ℕ → Watcher → Prop where
  | refl : LeftAlone configPath w 0 w
  | step {n : ℕ} {w' w'' : Watcher} (h : LeftAlone configPath w n w')
      (hstep : w'.Step configPath w'') :
      LeftAlone configPath w (n + w'.phase.begins w''.phase) w''

/-- What is left of a job is calm, and what is published is not heard of. -/
structure Rests (configPath : Path) (content : Option (List UInt8)) (w : Watcher) : Prop where
  sys : w.rt.sys.Watches configPath content
  published : w.rt.published.config.Unheard configPath
  calm : match w.phase with
    | .reloading rest => RtStaysCalm configPath rest w.rt
    | .updating rest  => RtStaysCalm configPath rest w.rt
    | _               => True

variable {w w' : Watcher}

/-- A step that begins a reload uses one up, and no step makes a further one due. -/
lemma Step.rests (hstep : w.Step configPath w') (h : w.Rests configPath content)
    (hunheard : ∀ c, configured configPath content = some c → c.Unheard configPath)
    (hhidden : configPath.isHidden = false) :
    w'.Rests configPath content ∧
      w.phase.begins w'.phase + w'.reloadsDue configPath ≤ w.reloadsDue configPath := by
  obtain ⟨⟨sys, published⟩, phase, started, succeeded, valid⟩ := w
  obtain ⟨hsys, hpublished, hcalm⟩ := h
  -- most steps begin no reload
  have hnone : ∀ {a b : ℕ}, a ≤ b → 0 + a ≤ b := by
    intro a b hab
    rwa [Nat.zero_add]
  cases hstep with
  | @change rest hphase hqueue =>
    cases hphase
    refine ⟨⟨⟨hsys.named, hsys.watcher, hsys.content⟩, hpublished, trivial⟩, hnone ?_⟩
    have hpending : .configChanged ∈ sys.queue := hqueue ▸ List.mem_cons_self
    change 1 + _ ≤ (if _ then 1 else 0) + _
    rw [if_pos hpending]
    exact le_rfl
  | @error message rest hphase hqueue =>
    cases hphase
    refine ⟨⟨⟨hsys.named, hsys.watcher, hsys.content⟩, hpublished, trivial⟩, hnone ?_⟩
    refine Sys.reloadsDue_le_of_imp (fun hpending => ?_) id
    have hpending : .configChanged ∈ rest := hpending
    exact (congrArg (_ ∈ ·) hqueue).mpr (List.mem_cons_of_mem _ hpending)
  | ip2regionTimer hphase =>
    cases hphase
    refine ⟨⟨hsys, hpublished, ?_⟩, hnone le_rfl⟩
    exact keepsToPublished_updateIp2region.staysCalm hhidden hsys hpublished
  | securityTimer hphase =>
    cases hphase
    refine ⟨⟨hsys, hpublished, ?_⟩, hnone le_rfl⟩
    exact keepsToPublished_updateSecurity.staysCalm hhidden hsys hpublished
  | debounced hphase =>
    cases hphase
    exact ⟨⟨hsys, hpublished, trivial⟩, hnone le_rfl⟩
  | @drain message rest hphase hqueue =>
    cases hphase
    cases message with
    | _ => exact ⟨⟨⟨hsys.named, hsys.watcher, hsys.content⟩, hpublished, trivial⟩, hnone le_rfl⟩
  | drained hphase hqueue =>
    cases hphase
    have hsys' : Sys.Watches configPath content { sys with seen := [] } :=
      ⟨hsys.named, hsys.watcher, hsys.content⟩
    refine ⟨⟨hsys', hpublished, staysCalm_reloadConfig hsys' hunheard hhidden⟩, ?_⟩
    have hempty : .configChanged ∉ sys.queue := hqueue ▸ List.not_mem_nil
    change 1 + ((if .configChanged ∈ sys.queue then 1 else 0) + _) ≤ 1 + _
    rw [if_neg hempty, Nat.zero_add]
    exact le_rfl
  | reloadOp c hphase =>
    cases hphase
    obtain ⟨hstep, hpublished', hrest⟩ := RtStaysCalm.step hcalm hpublished c
    exact ⟨⟨hsys.calm hstep, hpublished', hrest⟩, hnone hstep.due⟩
  | @reloadEnd result hphase =>
    cases hphase
    cases result with
    | _ => exact ⟨⟨hsys, hpublished, trivial⟩, hnone le_rfl⟩
  | updateOp c hphase =>
    cases hphase
    obtain ⟨hstep, hpublished', hrest⟩ := RtStaysCalm.step hcalm hpublished c
    exact ⟨⟨hsys.calm hstep, hpublished', hrest⟩, hnone hstep.due⟩
  | updateEnd hphase =>
    cases hphase
    exact ⟨⟨hsys, hpublished, trivial⟩, hnone le_rfl⟩

/-- No job is under way. -/
def IsIdle (w : Watcher) : Prop :=
  match w.phase with
  | .reloading _ | .updating _ => False
  | _                          => True

omit [StdParse] [StdCase] [Builtin] [UrlParse] in
lemma reloadsDue_le_two (w : Watcher) : w.reloadsDue configPath ≤ 2 := by
  have hite : ∀ (p : Prop) [Decidable p], (if p then 1 else 0) ≤ 1 := by
    intro p _
    split_ifs
    · exact le_rfl
    · exact Nat.zero_le 1
  rw [reloadsDue]
  split
  · exact Nat.add_le_add_left (hite _) 1
  · exact Nat.add_le_add_left (hite _) 1
  · exact Nat.add_le_add (hite _) (hite _)

/-- While nobody else changes a file, as many reloads begin as are due, and these are at most two:
one for the events that wait, and one for a language file that is missing. The notifier reports each
change once and at once. No event is sent for a directory that is created, though `is_config_event`
hears of one that is named like a TOML file. -/
theorem LeftAlone.settles {n : ℕ} (h : w.LeftAlone configPath n w')
    (hreach : Gateway.Reach configPath (fun _ _ => True) (.running w)) (hidle : w.IsIdle)
    (hhidden : configPath.isHidden = false) (hpublished : w.rt.published.config.Unheard configPath)
    (hunheard : ∀ c, configured configPath (w.rt.sys.files configPath) = some c →
      c.Unheard configPath) :
    n + w'.reloadsDue configPath ≤ w.reloadsDue configPath ∧ w.reloadsDue configPath ≤ 2 := by
  have hinv : w.Inv False configPath := Gateway.Reach.inv (hreach.mono fun _ _ _ => nofun)
  have hrests : w.Rests configPath (w.rt.sys.files configPath) := by
    refine ⟨⟨hinv.named, hinv.watcher, rfl⟩, hpublished, ?_⟩
    obtain ⟨rt, phase, started, succeeded, valid⟩ := w
    cases phase with
    | reloading rest => exact hidle.elim
    | updating rest => exact hidle.elim
    | _ => trivial
  suffices w'.Rests configPath (w.rt.sys.files configPath) ∧
      n + w'.reloadsDue configPath ≤ w.reloadsDue configPath from ⟨this.2, reloadsDue_le_two w⟩
  induction h with
  | refl => exact ⟨hrests, by rw [Nat.zero_add]⟩
  | step _ hstep ih =>
    obtain ⟨hrests, hdue⟩ := ih
    obtain ⟨hrests', hdue'⟩ := hstep.rests hrests hunheard hhidden
    rw [Nat.add_assoc]
    exact ⟨hrests', (Nat.add_le_add_left hdue' _).trans hdue⟩

end Watcher

end Jobs

end Due

section Tor

attribute [local instance] noXdb dottedParse asciiCase torParse noBuiltin httpsUrl

/-- The language file of the small gateway. -/
def torLanguagePath : Path := ⟨false, [".", "lang", "zh-CN.toml"]⟩

private lemma torServing_unheard : (torServing.any fun t =>
    t.published.config.isUnheard torPath && t.sys.queue.isEmpty &&
      t.sys.isWatched torLanguagePath &&
      (configured torPath (t.sys.files torPath)).all (·.isUnheard torPath)) = true := by
  decide +kernel

/-- The language file of the small gateway is removed, and a first reload begins. -/
theorem Watcher.LeftAlone.settles_tor :
    ∃ w w' : Watcher, w.LeftAlone torPath 1 w' ∧
      1 + w'.reloadsDue torPath ≤ w.reloadsDue torPath ∧ w.reloadsDue torPath ≤ 2 := by
  obtain ⟨t, ht, hunheard⟩ := (Option.any_eq_true _ _).mp torServing_unheard
  simp only [Bool.and_eq_true, List.isEmpty_iff] at hunheard
  obtain ⟨⟨⟨hpublished, hqueue⟩, hwatched⟩, hconfigured⟩ := hunheard
  have hspawned := reach_torServing ht
  let w := (Watcher.spawned t.sys t.published).withSys (t.sys.set torLanguagePath none)
  have hreach : Gateway.Reach torPath (fun _ _ => True) (.running w) :=
    hspawned.step (.change (.edit _ _ _)) trivial
  have hevent : w.rt.sys.queue = .configChanged :: [] := by
    change t.sys.queue ++ (if t.sys.isWatched torLanguagePath = true then [_] else []) = _
    rw [hqueue, if_pos hwatched]
    rfl
  have hleft : w.LeftAlone torPath 1 _ :=
    ((Watcher.LeftAlone.refl.step (.change rfl hevent)).step (.debounced rfl)).step (.drained rfl rfl)
  refine ⟨w, _, hleft, hleft.settles hreach trivial (by decide) (.of_isUnheard hpublished)
    fun c hc => .of_isUnheard ?_⟩
  have hfile : w.rt.sys.files torPath = t.sys.files torPath := by
    change Function.update t.sys.files torLanguagePath none torPath = _
    exact Function.update_of_ne (by decide) ..
  rw [hfile] at hc
  exact (Option.all_eq_true _ _).mp hconfigured c hc

end Tor

end TransferGateway

import TransferGateway.Ip2region.Update
import TransferGateway.Messages
import TransferGateway.Security.Update

/-!
# Permits

What a program may do to the world outside: the files it changes, what it fetches, the files it logs
to and the configurations it watches. A permit is read off the configuration, and the programs that
bring the databases and lists up to date keep to it.
-/

namespace TransferGateway

/-! ### Permits -/

/-- What a program may reach out for: the files it changes, what it fetches, the files it logs to and
the configuration paths it watches. -/
structure Permit where
  files : Set Path
  urls : Set String
  sinks : Set (Option Path)
  watches : Set Path

namespace SysOp

variable {β : Type}

/-- The operation fetches this. -/
@[simp] def fetches : SysOp β → String → Prop
  | .get url, url' => url' = url
  | _, _ => False

/-- The operation makes this the file of the log. -/
@[simp] def sinksTo : SysOp β → Option Path → Prop
  | .setSink file, file' => file' = file
  | _, _ => False

/-- The operation reads a file, which goes on record. -/
@[simp] def reads : SysOp β → Prop
  | .readToString _ | .readFile _ => True
  | _ => False

/-- The operation registers the watcher of this configuration. -/
@[simp] def watches : SysOp β → Path → Prop
  | .watch path, path' => path' = path
  | _, _ => False

end SysOp

/-- Nothing else goes on record. -/
lemma Sys.step_seen {β : Type} {o : SysOp β} (h : ¬o.reads) (c : Choice) (s : Sys) :
    (s.step o c).2.seen = s.seen := by
  have hmodify : ∀ p f, (s.modify p f).seen = s.seen := by
    intro p f
    rw [modify]
    split <;> rfl
  cases o with
  | readToString path => exact absurd trivial h
  | readFile path => exact absurd trivial h
  | writeAll path bytes => simp only [step]; split <;> exact hmodify ..
  | flush path => simp only [step]; split <;> first | exact hmodify .. | rfl
  | syncAll path => simp only [step]; split <;> first | exact hmodify .. | rfl
  | _ => simp only [step] <;> (repeat' split) <;> rfl

namespace Permit

/-- The permit covers all that an operation does to the outside. -/
@[mk_iff] structure Allows (g : Permit) {β : Type} (o : SysOp β) : Prop where
  files : ∀ q, o.writes q → q ∈ g.files
  urls : ∀ url, o.fetches url → url ∈ g.urls
  sinks : ∀ file, o.sinksTo file → file ∈ g.sinks
  watches : ∀ path, o.watches path → path ∈ g.watches

attribute [simp] allows_iff

/-- A permit that covers another one. -/
structure Covers (g' g : Permit) : Prop where
  files : g.files ⊆ g'.files
  urls : g.urls ⊆ g'.urls
  sinks : g.sinks ⊆ g'.sinks
  watches : g.watches ⊆ g'.watches

lemma Allows.mono {g g' : Permit} {β : Type} {o : SysOp β} (h : g.Allows o) (hg : g'.Covers g) :
    g'.Allows o where
  files q hq := hg.files (h.files q hq)
  urls url hurl := hg.urls (h.urls url hurl)
  sinks file hfile := hg.sinks (h.sinks file hfile)
  watches path hpath := hg.watches (h.watches path hpath)

def none : Permit := ⟨∅, ∅, ∅, ∅⟩

/-- To change one file. -/
def file (path : Path) : Permit := ⟨{path}, ∅, ∅, ∅⟩

protected def union (g g' : Permit) : Permit :=
  ⟨g.files ∪ g'.files, g.urls ∪ g'.urls, g.sinks ∪ g'.sinks, g.watches ∪ g'.watches⟩

instance : Union Permit := ⟨Permit.union⟩

lemma covers_none (g : Permit) : g.Covers none :=
  ⟨Set.empty_subset _, Set.empty_subset _, Set.empty_subset _, Set.empty_subset _⟩

lemma covers_file {g : Permit} {path : Path} (h : path ∈ g.files) : g.Covers (file path) :=
  ⟨Set.singleton_subset_iff.mpr h, Set.empty_subset _, Set.empty_subset _, Set.empty_subset _⟩

lemma covers_left (g g' : Permit) : (g ∪ g').Covers g :=
  ⟨Set.subset_union_left, Set.subset_union_left, Set.subset_union_left, Set.subset_union_left⟩

lemma covers_right (g g' : Permit) : (g ∪ g').Covers g' :=
  ⟨Set.subset_union_right, Set.subset_union_right, Set.subset_union_right,
    Set.subset_union_right⟩

lemma Covers.trans {g g' g'' : Permit} (h : g''.Covers g') (h' : g'.Covers g) : g''.Covers g :=
  ⟨h'.files.trans h.files, h'.urls.trans h.urls, h'.sinks.trans h.sinks,
    h'.watches.trans h.watches⟩

lemma Covers.union {g g' h : Permit} (hg : h.Covers g) (hg' : h.Covers g') : h.Covers (g ∪ g') :=
  ⟨Set.union_subset hg.files hg'.files, Set.union_subset hg.urls hg'.urls,
    Set.union_subset hg.sinks hg'.sinks, Set.union_subset hg.watches hg'.watches⟩

/-- The permit, if the flag is set. -/
def when (flag : Bool) (g : Permit) : Permit :=
  if flag then g else none

end Permit

/-- All operations of the program are within the permit. -/
def Within {ε α : Type} (g : Permit) (p : Prog SysOp ε α) : Prop :=
  p.All fun _ o => g.Allows o

lemma Within.mono {ε α : Type} {g g' : Permit} {p : Prog SysOp ε α} (hp : Within g p)
    (hg : g'.Covers g) : Within g' p :=
  Prog.All.mono hp fun _ ho => ho.mono hg

/-- They are, and none of them reads a file. -/
def WritesBlind {ε α : Type} (g : Permit) (p : Prog SysOp ε α) : Prop :=
  p.All fun _ o => g.Allows o ∧ ¬o.reads

section WritesBlind

variable {ε α : Type} {g g' : Permit} {p : Prog SysOp ε α}

lemma WritesBlind.mono (hp : WritesBlind g p) (hg : g'.Covers g) : WritesBlind g' p :=
  Prog.All.mono hp fun _ ho => ⟨ho.1.mono hg, ho.2⟩

lemma WritesBlind.within (hp : WritesBlind g p) : Within g p :=
  Prog.All.mono hp fun _ ho => ho.1

end WritesBlind

/-! ### Files -/

section Files

open Permit

lemma writesBlind_createParent (path : Path) (noun : String) :
    WritesBlind none (createParent path noun) := by
  rw [createParent]
  split
  · exact .bind (by simp) fun _ => by simp
  · trivial

lemma within_createParent (path : Path) (noun : String) : Within none (createParent path noun) :=
  (writesBlind_createParent ..).within

lemma writesBlind_createFile (path : Path) (content : List UInt8) (noun : String) :
    WritesBlind (file path) (createFile path content noun) := by
  rw [createFile]
  refine .bind (by simp [file]) fun r => ?_
  split
  · split <;> trivial
  · exact .bind (by simp [file]) fun _ => .bind (by simp) fun _ => .bind (by simp [file]) fun _ =>
      .bind (by simp) fun _ => .bind (by simp [file]) fun _ => .bind (by simp) fun _ => trivial

lemma within_removeAndFail {α : Type} (path : Path) (error : String) :
    Within (file path) (removeAndFail path error : SysProg α) :=
  .bind (by simp [file]) fun _ => trivial

lemma within_copy (source : Delivery) (destination : Path) :
    Within (file destination) (copy source destination) := by
  have hchunks : ∀ chunks, Within (file destination) (copyChunks destination chunks) := by
    intro chunks
    induction chunks with
    | nil => trivial
    | cons chunk chunks ih => exact .bind (by simp [file]) fun _ => .bind (by simp) fun _ => ih
  refine .bind (hchunks _) fun _ => ?_
  split
  · trivial
  · exact .bind (by simp [file]) fun _ => by simp

/-- To download from `url` to this path. -/
def Permit.download (url : String) (path : Path) : Permit := ⟨{path}, {url}, ∅, ∅⟩

lemma within_downloadToTemp (kind : DownloadKind) (url : String) (path : Path) :
    Within (download url path) (downloadToTemp kind url path) := by
  have hchunks : ∀ chunks downloaded,
      Within (file path) (writeChunks kind url path chunks downloaded) := by
    intro chunks
    induction chunks with
    | nil => exact fun _ => trivial
    | cons chunk chunks ih =>
      exact fun _ => .bind (by simp [failIf]) fun _ => .bind (by simp [failIf]) fun _ =>
        .bind (by simp [file]) fun _ => .bind (by simp) fun _ => ih _
  rw [downloadToTemp]
  exact .bind (by simp [download]) fun _ => .bind (by simp) fun _ =>
    .bind (by simp [failIf]) fun _ => .bind (by simp [failIf]) fun _ =>
    .bind (by simp [download]) fun _ => .bind (by simp) fun _ =>
    .bind (Within.mono (hchunks _ _) (covers_file rfl)) fun _ => .bind (by simp [failIf]) fun _ =>
    .bind (by simp [download]) fun _ => .bind (by simp) fun _ =>
    .bind (by simp [download]) fun _ => by simp

lemma within_fetch (kind : DownloadKind) {check : Path → SysProg Unit}
    (hcheck : ∀ p, Within none (check p)) (url : String) (temporaryPath : Path) :
    Within (download url temporaryPath) (fetch kind check url temporaryPath) := by
  have hremove : ∀ error, Within (download url temporaryPath)
      (removeAndFail temporaryPath error : SysProg Unit) :=
    fun error => (within_removeAndFail ..).mono (covers_file rfl)
  refine .bind ((Prog.all_attempt _).mpr (within_downloadToTemp ..)) fun r => ?_
  cases r with
  | error error => exact hremove error
  | ok _ =>
    refine .bind ((Prog.all_attempt _).mpr ((hcheck _).mono (covers_none _))) fun r => ?_
    cases r with
    | error error => exact hremove error
    | ok _ => trivial

/-- To bring a file up to date, by way of a temporary one. -/
def Permit.item (temporaryPath : Path → Uuid → Path) (url : String) (path : Path) : Permit :=
  ⟨{path} ∪ {q | ∃ uuid, q = temporaryPath path uuid}, {url}, ∅, ∅⟩

/-- The same for several ones. -/
def Permit.items {ι : Type} (temporaryPath : Path → Uuid → Path) (url : ι → String)
    (path : ι → Path) (l : List ι) : Permit where
  files := {q | ∃ i ∈ l, q = path i ∨ ∃ uuid, q = temporaryPath (path i) uuid}
  urls := {u | ∃ i ∈ l, u = url i}
  sinks := ∅
  watches := ∅

lemma Permit.items_covers_item {ι : Type} {temporaryPath : Path → Uuid → Path} {url : ι → String}
    {path : ι → Path} {l : List ι} {i : ι} (h : i ∈ l) :
    (items temporaryPath url path l).Covers (item temporaryPath (url i) (path i)) where
  files := by
    rintro q (hq | hq)
    · exact ⟨i, h, .inl hq⟩
    · exact ⟨i, h, .inr hq⟩
  urls := Set.singleton_subset_iff.mpr ⟨i, h, rfl⟩
  sinks := Set.empty_subset _
  watches := Set.empty_subset _

section Items

variable {kind : DownloadKind} {check : Path → SysProg Unit}
  {publish : Path → Path → SysProg Bool} {temporaryPath : Path → Uuid → Path}
  {url : String} {path : Path}

lemma Permit.item_covers_download (uuid : Uuid) :
    (item temporaryPath url path).Covers (download url (temporaryPath path uuid)) where
  files := Set.singleton_subset_iff.mpr (.inr ⟨uuid, rfl⟩)
  urls := Set.Subset.rfl
  sinks := Set.empty_subset _
  watches := Set.empty_subset _

lemma within_downloadOne (hcheck : ∀ p, Within none (check p))
    (hpublish : ∀ p q, Within (file p ∪ file q) (publish p q)) :
    Within (item temporaryPath url path)
      (downloadOne kind check publish temporaryPath url path) := by
  refine .bind (by simp) fun present => ?_
  cases present with
  | true => trivial
  | false =>
    refine .bind ((within_createParent ..).mono (covers_none _)) fun _ =>
      .bind (by simp) fun uuid => ?_
    have htemporary : temporaryPath path uuid ∈ (item temporaryPath url path).files :=
      .inr ⟨uuid, rfl⟩
    have hpath : path ∈ (item temporaryPath url path).files := .inl rfl
    have hboth := (covers_file htemporary).union (covers_file hpath)
    refine .bind ((within_fetch kind hcheck ..).mono (item_covers_download uuid)) fun _ =>
      .bind ((Prog.all_attempt _).mpr ((hpublish ..).mono hboth)) fun r => ?_
    cases r with
    | error error => exact (within_removeAndFail ..).mono (covers_file htemporary)
    | ok published => trivial

lemma within_filesEqual (first second : Path) : Within none (filesEqual first second) := by
  rw [filesEqual]
  refine .bind (by simp) fun _ => .bind (by simp) fun _ => .bind (by simp) fun _ =>
    .bind (by simp) fun _ => ?_
  split
  · trivial
  · exact .bind (by simp) fun _ => .bind (by simp) fun _ => .bind (by simp) fun _ =>
      .bind (by simp) fun _ => by simp

lemma within_updateOne (hcheck : ∀ p, Within none (check p)) :
    Within (item temporaryPath url path) (updateOne kind check temporaryPath url path) := by
  refine .bind ((within_createParent ..).mono (covers_none _)) fun _ =>
    .bind (by simp) fun uuid => ?_
  have htemporary : temporaryPath path uuid ∈ (item temporaryPath url path).files :=
    .inr ⟨uuid, rfl⟩
  have hunchanged : Within none (isUnchanged (temporaryPath path uuid) path) := by
    refine .bind (by simp) fun present => ?_
    cases present with
    | true => exact within_filesEqual ..
    | false => trivial
  refine .bind ((within_fetch kind hcheck ..).mono (item_covers_download uuid)) fun _ =>
    .bind (hunchanged.mono (covers_none _)) fun unchanged => ?_
  cases unchanged with
  | true => exact .bind (by simpa using htemporary) fun _ => .bind (by simp) fun _ => trivial
  | false =>
    refine .bind (.bind ?_ fun _ => by simp) fun _ => trivial
    simpa using ⟨htemporary, Set.mem_union_left _ rfl⟩

lemma within_missing {ι : Type} (path : ι → Path) (items : List ι) :
    Within none (missing path items) := by
  induction items with
  | nil => trivial
  | cons item items ih => exact .bind (by simp) fun _ => .bind ih fun _ => trivial

lemma within_runItems {ι : Type} {name : ι → String} {one : ι → SysProg Bool} {items : List ι}
    {g : Permit} (h : ∀ item ∈ items, Within g (one item)) : Within g (runItems name one items) := by
  induction items with
  | nil => trivial
  | cons item items ih =>
    refine .bind ((Prog.all_attempt _).mpr (h _ List.mem_cons_self)) fun r =>
      .bind (ih fun i hi => h i (List.mem_cons_of_mem _ hi)) fun _ => ?_
    split <;> trivial

end Items

end Files

/-! ### Databases and lists -/

namespace Ip2Region

open Permit

/-- To bring the configured databases up to date. -/
def permit (config : Ip2RegionConfig) : Permit :=
  items temporaryPath (fun database : Database =>
    downloadUrl config.downloadBaseUrl database.version.databaseName) (·.path) (databases config)

lemma within_publishDownload (p q : Path) :
    Within (file p ∪ file q) (publishDownload p q) := by
  have hp : (file p ∪ file q).Covers (file p) := covers_left ..
  have hq : ∀ {α : Type} (error : String),
      Within (file p ∪ file q) (removeAndFail q error : SysProg α) :=
    fun error => (within_removeAndFail ..).mono (covers_right ..)
  have hremove : Within (file p ∪ file q) (ask (.removeFile p) : SysProg _) :=
    Within.mono (g := file p) (by simp [Within, file]) hp
  have hcopy : ∀ source, Within (file p ∪ file q) (copy source q) :=
    fun source => (within_copy ..).mono (covers_right ..)
  rw [publishDownload]
  refine .bind (Within.mono (g := file q) (by simp [Within, file]) (covers_right ..)) fun r => ?_
  cases r with
  | error error =>
    dsimp only
    split
    · exact .bind hremove fun _ => trivial
    · trivial
  | ok _ =>
    refine .bind (by simp) fun r => ?_
    cases r with
    | error error => exact hq _
    | ok source =>
      refine .bind ((Prog.all_attempt _).mpr (hcopy source)) fun r => ?_
      cases r with
      | error error => exact hq _
      | ok _ =>
        refine .bind (Within.mono (g := file q) (by simp [Within, file]) (covers_right ..))
          fun r => ?_
        cases r with
        | error error => exact hq _
        | ok _ => exact .bind hremove fun _ => .bind (by simp) fun _ => trivial

variable [Xdb]

lemma within_validateDownloadedXdb (path : Path) (version : Version) :
    Within none (validateDownloadedXdb path version) := by
  rw [validateDownloadedXdb]
  refine .bind (by simp) fun _ => .bind (by simp) fun bytes => ?_
  split
  · trivial
  · split <;> trivial

lemma within_downloadOne (baseUrl : String) (database : Database) :
    Within (item temporaryPath (downloadUrl baseUrl database.version.databaseName) database.path)
      (downloadOne baseUrl database) :=
  TransferGateway.within_downloadOne (fun _ => within_validateDownloadedXdb ..)
    within_publishDownload

lemma within_updateOne (baseUrl : String) (database : Database) :
    Within (item temporaryPath (downloadUrl baseUrl database.version.databaseName) database.path)
      (updateOne baseUrl database) :=
  TransferGateway.within_updateOne fun _ => within_validateDownloadedXdb ..

lemma within_downloadMissing (config : Ip2RegionConfig) :
    Within (when config.autoDownload (permit config)) (downloadMissing config) := by
  have hall : ∀ pending, pending ⊆ databases config →
      Within (permit config) (downloadAll config.downloadBaseUrl pending) := by
    intro pending hpending
    induction pending with
    | nil => trivial
    | cons database pending ih =>
      obtain ⟨hdatabase, hrest⟩ := List.cons_subset.mp hpending
      exact .bind ((within_downloadOne config.downloadBaseUrl database).mono
        (items_covers_item hdatabase)) fun _ => .bind (ih hrest) fun _ => trivial
  rw [downloadMissing]
  cases config.autoDownload with
  | false => trivial
  | true =>
    refine .bind_of_returns ((within_missing ..).mono (covers_none _)) (returns_missing ..)
      fun pending hpending => ?_
    split
    · trivial
    · exact .bind (by simp) fun _ => .bind (by simp) fun _ => hall pending hpending

lemma within_update (config : Ip2RegionConfig) :
    Within (when config.autoUpdate (permit config)) (update config) := by
  rw [update]
  cases config.autoUpdate with
  | false => trivial
  | true =>
    rw [if_neg (by simp)]
    dsimp only
    split
    · trivial
    · refine .bind (by simp) fun _ => .bind (by simp) fun _ => within_runItems ?_
      exact fun database h => (within_updateOne ..).mono (items_covers_item h)

lemma within_open (config : Ip2RegionConfig) : Within none (Ip2Region.open config) := by
  have hsearcher : ∀ path version, Within none (openSearcher path version) := by
    intro path version
    rw [openSearcher]
    split
    · trivial
    · refine .bind (by simp) fun present => ?_
      split
      · trivial
      · refine .bind (by simp) fun _ => .bind (by simp) fun bytes => ?_
        split <;> trivial
  exact .bind (hsearcher ..) fun _ => .bind (hsearcher ..) fun _ => trivial

end Ip2Region

namespace Security

open Permit

/-- To bring the configured lists up to date. -/
def permit (config : SecurityConfig) : Permit :=
  items temporaryPath (·.url) (·.path) (automaticListItems config)

lemma within_publishDownload (p q : Path) :
    Within (file p ∪ file q) (publishDownload p q) := by
  have hq : ∀ {ε α : Type} {program : Prog SysOp ε α}, Within (file q) program →
      Within (file p ∪ file q) program :=
    fun h => h.mono (covers_right ..)
  rw [publishDownload]
  refine .bind (by simp) fun _ => .bind (by simp) fun source =>
    .bind (hq (by simp [Within, file])) fun r => ?_
  cases r with
  | error error =>
    dsimp only
    split <;> trivial
  | ok _ =>
    refine .bind ((Prog.all_attempt _).mpr (hq ?_)) fun r => ?_
    · exact .bind (within_copy ..) fun _ => .bind (by simp [file]) fun _ => .bind (by simp) fun _ =>
        .bind (by simp [file]) fun _ => by simp
    · cases r with
      | error error => exact hq (within_removeAndFail ..)
      | ok _ => trivial

section Programs

variable [StdParse]

lemma within_validateListFile (path : Path) (kind : String) (format : ListFormat) :
    Within none (validateListFile path kind format) := by
  rw [validateListFile]
  exact .bind (by simp) fun _ => .bind (by simp) fun source => .bind (by simp) fun _ =>
    by simp [failIf]

lemma within_downloadOne (i : DownloadItem) :
    Within (item temporaryPath i.url i.path) (downloadOne i) :=
  TransferGateway.within_downloadOne (fun _ => within_validateListFile ..) within_publishDownload

lemma within_updateOne (i : DownloadItem) :
    Within (item temporaryPath i.url i.path) (updateOne i) :=
  TransferGateway.within_updateOne fun _ => within_validateListFile ..

lemma within_downloadMissing (config : SecurityConfig) :
    Within (when (config.enabled && config.autoDownload) (permit config))
      (downloadMissing config) := by
  rw [downloadMissing, ← Bool.not_and]
  cases config.enabled && config.autoDownload with
  | false => trivial
  | true =>
    refine .bind_of_returns ((within_missing ..).mono (covers_none _)) (returns_missing ..)
      fun pending hpending => ?_
    split
    · trivial
    · refine .bind (by simp) fun _ => .bind (by simp) fun _ => .bind (within_runItems ?_)
        fun report => .bind (by simp [failIf]) fun _ => trivial
      exact fun i hi => (within_downloadOne i).mono (items_covers_item (hpending hi))

lemma within_update (config : SecurityConfig) :
    Within (when (config.enabled && config.autoUpdate) (permit config)) (update config) := by
  rw [update, ← Bool.not_and]
  cases config.enabled && config.autoUpdate with
  | false => trivial
  | true =>
    rw [if_neg (by simp)]
    dsimp only
    split
    · trivial
    · refine .bind (by simp) fun _ => .bind (by simp) fun _ => within_runItems ?_
      exact fun i hi => (within_updateOne i).mono (items_covers_item hi)

lemma within_loadList (path : Option Path) (kind : String) : Within none (loadList path kind) := by
  rw [loadList]
  split
  · trivial
  · refine .bind (by simp) fun present => ?_
    split
    · trivial
    · exact .bind (by simp) fun _ => .bind (by simp) fun _ => by simp

lemma within_open [StdCase] (config : SecurityConfig) : Within none (Security.open config) := by
  rw [Security.open, loadNetworkFiles, loadIpFile]
  refine .bind (by simp) fun _ => .bind (.bind ?_ fun _ => trivial) fun _ =>
    .bind (.bind (within_loadList _ _) fun _ => trivial) fun _ =>
    .bind (.bind (within_loadList _ _) fun _ => trivial) fun _ => trivial
  simp only [List.mapM_cons, List.mapM_nil]
  exact .bind (within_loadList _ _) fun _ =>
    .bind (.bind (within_loadList _ _) fun _ => trivial) fun _ => trivial

end Programs

end Security

/-! ### Files of a configuration -/

lemma Language.writesBlind_ensureFile [Builtin] (path : Path) (locale : String) :
    WritesBlind (.file path) (Language.ensureFile path locale) :=
  .bind ((writesBlind_createParent ..).mono (Permit.covers_none _)) fun _ =>
    writesBlind_createFile ..

namespace LogController

/-- To log to this file. -/
def permit (file : Option Path) : Permit :=
  ⟨{q | q ∈ file}, ∅, {file}, ∅⟩

lemma within_apply (configPath : Path) (logging : LoggingConfig) :
    Within (permit (logging.filePath configPath)) (apply configPath logging) := by
  refine .bind ?_ fun _ => .bind (by simp [permit]) fun _ => by simp
  cases logging.filePath configPath with
  | none => trivial
  | some path =>
    exact .bind ((within_createParent ..).mono (Permit.covers_none _)) fun _ =>
      .bind (by simp [permit]) fun _ => by simp

end LogController

end TransferGateway

import TransferGateway.Files
import TransferGateway.Ip2region.Location

/-!
# Downloading and updating the address databases
-/

namespace TransferGateway

namespace Ip2Region

/-- The texts and the limit of the databases' downloads. -/
def downloadKind : DownloadKind where
  what := "ip2region database"
  download := "ip2region download"
  temporaryFile := "temporary download file"
  directory := "ip2region"
  maxSize := 512 * 1024 * 1024

inductive Version where
  | ipv4
  | ipv6
  deriving DecidableEq

namespace Version

def name : Version → String
  | ipv4 => "IPv4"
  | ipv6 => "IPv6"

/-- The name of the published database. -/
def databaseName : Version → String
  | ipv4 => "ip2region_v4.xdb"
  | ipv6 => "ip2region_v6.xdb"

/-- `UNSPECIFIED`. -/
def unspecified : Version → IpAddr
  | ipv4 => .v4 0
  | ipv6 => .v6 0

end Version

structure Database where
  version : Version
  path : Path

/-- The databases with a path. -/
def databases (config : Ip2RegionConfig) : List Database :=
  ((configuredPath config.v4Db).map (Database.mk .ipv4)).toList ++
    ((configuredPath config.v6Db).map (Database.mk .ipv6)).toList

def temporaryPath (path : Path) (uuid : Uuid) : Path :=
  let filename := path.fileName.getD "ip2region.xdb"
  path.withFileName s!".{filename}.{uuid.toString}.part"

def downloadUrl (baseUrl filename : String) : String :=
  let base := trimEndMatches baseUrl '/'
  s!"{base}/{filename}"

def publishDownload (temporaryPath destination : Path) : SysProg Bool := do
  match ← ask (.createNew destination) with
  | .error error =>
    if error.kind = .alreadyExists then do
      let _ ← ask (.removeFile temporaryPath)
      pure false
    else .fail s!"unable to create ip2region database {destination.display}"
  | .ok () => do
    match ← ask (.openRead temporaryPath) with
    | .error _ =>
      removeAndFail destination
        s!"unable to open temporary download file {temporaryPath.display}"
    | .ok source => do
      match ← (copy source destination).attempt with
      | .error _ =>
        removeAndFail destination s!"unable to publish ip2region database {destination.display}"
      | .ok () => do
        match ← ask (.syncAll destination) with
        | .error _ =>
          removeAndFail destination s!"unable to sync ip2region database {destination.display}"
        | .ok () => do
          context (← ask (.removeFile temporaryPath))
            s!"unable to remove temporary download file {temporaryPath.display}"
          pure true

section Programs

variable [Xdb]

def validateDownloadedXdb (path : Path) (version : Version) : SysProg Unit := do
  let invalid := s!"downloaded ip2region {version.name} database is invalid"
  let bytes ← context (← ask (.readFile path)) invalid
  match Xdb.new bytes with
  | none => .fail invalid
  | some searcher =>
    match Xdb.search searcher version.unspecified with
    | .ok _ => pure ()
    | .error error =>
      .fail s!"downloaded ip2region {version.name} database has the wrong IP version: {error}"

def downloadOne (baseUrl : String) (database : Database) : SysProg Bool :=
  TransferGateway.downloadOne downloadKind (validateDownloadedXdb · database.version)
    publishDownload temporaryPath (downloadUrl baseUrl database.version.databaseName)
    database.path

def updateOne (baseUrl : String) (database : Database) : SysProg Bool :=
  TransferGateway.updateOne downloadKind (validateDownloadedXdb · database.version)
    temporaryPath (downloadUrl baseUrl database.version.databaseName) database.path

/-- The loop of `download_missing`; the first error ends it. -/
def downloadAll (baseUrl : String) : List Database → SysProg (List Database)
  | [] => pure []
  | database :: databases => do
    let downloaded ← downloadOne baseUrl database
    let rest ← downloadAll baseUrl databases
    return if downloaded then database :: rest else rest

def downloadMissing (config : Ip2RegionConfig) : SysProg (List Database) :=
  if !config.autoDownload then pure []
  else do
    let pending ← missing (·.path) (databases config)
    if pending.isEmpty then pure []
    else do
      context (← ask .buildClient) "unable to create HTTP client for ip2region download"
      downloadAll config.downloadBaseUrl pending

def update (config : Ip2RegionConfig) : SysProg (Report Database) :=
  if !config.autoUpdate then pure ⟨[], []⟩
  else
    let pending := databases config
    if pending.isEmpty then pure ⟨[], []⟩
    else do
      context (← ask .buildClient) "unable to create HTTP client for ip2region update"
      runItems (·.version.name) (updateOne config.downloadBaseUrl) pending

end Programs

/-! ### The files they change -/

lemma path_mem_databasePaths {config : Ip2RegionConfig} {database : Database}
    (h : database ∈ databases config) : database.path ∈ config.databasePaths := by
  simp only [databases, List.mem_append, Option.mem_toList, Option.map_eq_some_iff] at h
  rcases h with ⟨q, hq, rfl⟩ | ⟨q, hq, rfl⟩
  · exact .inl hq
  · exact .inr hq

lemma writesIn_publishDownload (p q : Path) : WritesIn {p, q} (publishDownload p q) := by
  rw [publishDownload]
  have hq : ∀ {α : Type} (error : String), WritesIn {p, q} (removeAndFail q error : SysProg α) :=
    fun error => (writesIn_removeAndFail ..).mono (by simp)
  refine .bind (by simp) fun r => ?_
  split
  · split
    · exact .bind (by simp) fun _ => trivial
    · trivial
  · refine .bind (by simp) fun r => ?_
    split
    · exact hq _
    · refine .bind ((Prog.all_attempt _).mpr ((writesIn_copy ..).mono (by simp))) fun r => ?_
      split
      · exact hq _
      · refine .bind (by simp) fun r => ?_
        split
        · exact hq _
        · exact .bind (by simp) fun _ => .bind (by simp) fun _ => trivial

variable {E : Env Choice Sys} {q : Path} {bytes : List UInt8}

lemma keeps_publishDownload (hq : Sys.Steady E q) {p : Path} (hp : q ≠ p) (path : Path) :
    Prog.Keeps Sys.handle E (fun s => s.files q = some bytes) (publishDownload p path) := by
  by_cases hpath : q = path
  · subst hpath
    intro s hs
    rw [publishDownload]
    rw [Prog.wp_bind, Prog.wp_perform]
    intro s₁ hs₁ c hc
    -- the destination is there, so it is not opened
    have hpresent : s₁.files q = some bytes := (hq.files hs₁).trans hs
    have hremove : WritesIn {p} (do
        let _ ← ask (.removeFile p)
        pure false : SysProg Bool) := .bind (by simp) fun _ => trivial
    cases hfault : c.fault <;> simp only [Sys.step, hfault, hpresent] <;> split <;>
      first
      | exact hremove.keeps hp hq _ _ hpresent
      | exact hpresent
  · exact (writesIn_publishDownload ..).keeps (by simp [hp, hpath]) hq _

/-- The files downloads and updates may change: the databases and temporary ones. -/
def writable (config : Ip2RegionConfig) : Set Path :=
  config.databasePaths ∪ temporaries temporaryPath

lemma database_subset_writable {config : Ip2RegionConfig} {database : Database}
    (h : database ∈ databases config) :
    {database.path} ∪ temporaries temporaryPath ⊆ writable config :=
  Set.union_subset_union_left _ (Set.singleton_subset_iff.mpr (path_mem_databasePaths h))

variable [Xdb]

lemma writesIn_validateDownloadedXdb (path : Path) (version : Version) :
    WritesIn ∅ (validateDownloadedXdb path version) := by
  rw [validateDownloadedXdb]
  refine .bind (by simp) fun _ => .bind (by simp) fun bytes => ?_
  split
  · trivial
  · split <;> trivial

lemma writesIn_downloadOne (baseUrl : String) (database : Database) :
    WritesIn ({database.path} ∪ temporaries temporaryPath) (downloadOne baseUrl database) :=
  TransferGateway.writesIn_downloadOne (fun _ => writesIn_validateDownloadedXdb ..)
    fun _ _ => writesIn_publishDownload ..

lemma writesIn_updateOne (baseUrl : String) (database : Database) :
    WritesIn ({database.path} ∪ temporaries temporaryPath) (updateOne baseUrl database) :=
  TransferGateway.writesIn_updateOne fun _ => writesIn_validateDownloadedXdb ..

lemma writesIn_downloadMissing (config : Ip2RegionConfig) :
    WritesIn (writable config) (downloadMissing config) := by
  have hall : ∀ pending, pending ⊆ databases config →
      WritesIn (writable config) (downloadAll config.downloadBaseUrl pending) := by
    intro pending hpending
    induction pending with
    | nil => trivial
    | cons database pending ih =>
      refine .bind ((writesIn_downloadOne ..).mono (database_subset_writable
        (hpending List.mem_cons_self))) fun _ => .bind (ih fun d hd => hpending
        (List.mem_cons_of_mem _ hd)) fun _ => trivial
  rw [downloadMissing]
  split
  · trivial
  · refine .bind_of_returns ((writesIn_missing ..).mono (by simp)) (returns_missing ..)
      fun pending hpending => ?_
    split
    · trivial
    · exact .bind (by simp) fun _ => .bind (by simp) fun _ => hall pending hpending

lemma writesIn_update (config : Ip2RegionConfig) :
    WritesIn (writable config) (update config) := by
  rw [update]
  split
  · trivial
  · dsimp only
    split
    · trivial
    · refine .bind (by simp) fun _ => .bind (by simp) fun _ => writesIn_runItems ?_
      exact fun database h => (writesIn_updateOne ..).mono (database_subset_writable h)

/-- Downloads leave the databases that are there alone. -/
lemma keeps_downloadMissing {config : Ip2RegionConfig} (hq : Sys.Steady E q)
    (htemporary : ∀ path ∈ config.databasePaths, ∀ uuid, q ≠ temporaryPath path uuid) :
    Prog.Keeps Sys.handle E (fun s => s.files q = some bytes) (downloadMissing config) := by
  have hnone : ∀ {α : Type} {p : SysProg α}, WritesIn ∅ p →
      Prog.Keeps Sys.handle E (fun s => s.files q = some bytes) p :=
    fun hp => hp.keeps (by simp) hq _
  have hall : ∀ pending ⊆ databases config, Prog.Keeps Sys.handle E
      (fun s => s.files q = some bytes) (downloadAll config.downloadBaseUrl pending) := by
    intro pending hpending
    induction pending with
    | nil => exact .ret _
    | cons database pending ih =>
      obtain ⟨hdatabase, hrest⟩ := List.cons_subset.mp hpending
      exact .bind (keeps_downloadOne (fun _ => writesIn_validateDownloadedXdb ..) hq
        (htemporary _ (path_mem_databasePaths hdatabase)) fun p hp => keeps_publishDownload hq hp _)
        fun _ => .bind (ih hrest) fun _ => .ret _
  rw [downloadMissing]
  split
  · exact .ret _
  · refine .bind_of_returns (hnone (writesIn_missing ..)) (returns_missing ..)
      fun pending hpending => ?_
    split
    · exact .ret _
    · exact .bind (hnone (by simp [WritesIn])) fun _ => .bind (.ofExcept _) fun _ =>
        hall pending hpending

/-- An update that fails or reports no written database leaves the files as they are. -/
lemma wp_update (config : Ip2RegionConfig) (s : Sys) :
    (update config).wp Sys.handle E (fun r s' =>
      (∀ report, r = .ok report → report.done = []) →
        ∀ q, q ∉ temporaries temporaryPath → Sys.Steady E q → s'.files q = s.files q) s := by
  rw [update]
  split
  · exact fun _ _ _ _ => rfl
  · dsimp only
    split
    · exact fun _ _ _ _ => rfl
    · exact wp_client_runItems (fun database s => Prog.wp_mono
        (wp_updateOne (fun _ => writesIn_validateDownloadedXdb ..) s)
        fun _ _ h q hq hs => (h q hq hs).imp_right And.left) s

end Ip2Region

end TransferGateway

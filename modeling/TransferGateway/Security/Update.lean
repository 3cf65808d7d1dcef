import TransferGateway.Files
import TransferGateway.Security.Blocklists

/-!
# Downloading and updating the block lists
-/

namespace TransferGateway

namespace Security

/-- The texts and the limit of the block lists' downloads. -/
def downloadKind : DownloadKind where
  what := "security list"
  download := "security list download"
  temporaryFile := "temporary security list file"
  directory := "security list"
  maxSize := 64 * 1024 * 1024

inductive ListFormat where
  | ip
  | network
  deriving DecidableEq

structure DownloadItem where
  kind : String
  format : ListFormat
  path : Path
  url : String

/-- The item of one list, if it is used for blocking and has a path. -/
def automaticListItem (enabled : Bool) (path : Option Path) (kind : String)
    (format : ListFormat) (url : String) : List DownloadItem :=
  if enabled then ((configuredPath path).map fun path => ⟨kind, format, path, url⟩).toList
  else []

def automaticListItems (config : SecurityConfig) : List DownloadItem :=
  automaticListItem config.blockTor config.torExitList "Tor exit" .ip config.torExitListUrl ++
    automaticListItem config.blockSpam config.spamList "Spam IP" .network config.spamListUrl ++
    automaticListItem config.blockVpn config.vpnIpv4List "VPN IPv4" .network
      config.vpnIpv4ListUrl ++
    automaticListItem config.blockVpn config.vpnIpv6List "VPN IPv6" .network
      config.vpnIpv6ListUrl

def temporaryPath (path : Path) (uuid : Uuid) : Path :=
  let name := path.fileName.getD "security-list"
  path.withFileName s!".{name}.{uuid.simple}.download"

def publishDownload (temporaryPath destination : Path) : SysProg Bool := do
  let source ← context (← ask (.openRead temporaryPath))
    s!"unable to open temporary security list {temporaryPath.display}"
  match ← ask (.createNew destination) with
  | .error error =>
    if error.kind = .alreadyExists then pure false
    else .fail s!"unable to publish security list to {destination.display}"
  | .ok () => do
    let result ← Prog.attempt do
      copy source destination
      .ofExcept (← ask (.flush destination))
      .ofExcept (← ask (.syncAll destination))
    match result with
    | .error _ =>
      removeAndFail destination
        s!"unable to finish publishing security list to {destination.display}"
    | .ok () => pure true

section Programs

variable [StdParse]

/-- The parser for a format. -/
def ListFormat.parse (format : ListFormat) (source : String) (path : Path) (kind : String) :
    Except String (List IpNetwork) :=
  match format with
  | .ip      => parseIpLines source path kind
  | .network => parseNetworkLines source path kind

def validateListFile (path : Path) (kind : String) (format : ListFormat) : SysProg Unit := do
  let source ← context (← ask (.readToString path))
    s!"unable to read downloaded {kind} list {path.display}"
  let entries ← .ofExcept (format.parse source path kind)
  failIf entries.isEmpty s!"downloaded {kind} list {path.display} is empty"

def downloadOne (item : DownloadItem) : SysProg Bool :=
  TransferGateway.downloadOne downloadKind (validateListFile · item.kind item.format)
    publishDownload temporaryPath item.url item.path

def updateOne (item : DownloadItem) : SysProg Bool :=
  TransferGateway.updateOne downloadKind (validateListFile · item.kind item.format)
    temporaryPath item.url item.path

def downloadMissing (config : SecurityConfig) : SysProg (List DownloadItem) :=
  if !config.enabled || !config.autoDownload then pure []
  else do
    let pending ← missing (·.path) (automaticListItems config)
    if pending.isEmpty then pure []
    else do
      context (← ask .buildClient) "unable to create HTTP client for security list download"
      let report ← runItems (·.kind) downloadOne pending
      let errors := "; ".intercalate report.errors
      failIf (!report.errors.isEmpty) s!"one or more security list downloads failed: {errors}"
      return report.done

def update (config : SecurityConfig) : SysProg (Report DownloadItem) :=
  if !config.enabled || !config.autoUpdate then pure ⟨[], []⟩
  else
    let pending := automaticListItems config
    if pending.isEmpty then pure ⟨[], []⟩
    else do
      context (← ask .buildClient) "unable to create HTTP client for security list update"
      runItems (·.kind) updateOne pending

end Programs

/-! ### The files they change -/

lemma path_mem_listPaths {config : SecurityConfig} {item : DownloadItem}
    (h : item ∈ automaticListItems config) : item.path ∈ config.listPaths := by
  have hitem : ∀ {enabled path kind format url},
      item ∈ automaticListItem enabled path kind format url → item.path ∈ configuredPath path := by
    intro enabled path kind format url hmem
    cases enabled with
    | false => simp [automaticListItem] at hmem
    | true =>
      obtain ⟨q, hq, rfl⟩ : ∃ q, configuredPath path = some q ∧ _ = item := by
        simpa [automaticListItem] using hmem
      exact hq
  simp only [automaticListItems, List.mem_append] at h
  simp only [SecurityConfig.listPaths, Set.mem_ofPred_eq]
  rcases h with ((h | h) | h) | h <;> simp only [hitem h, true_or, or_true]

lemma writesIn_publishDownload (p q : Path) : WritesIn {q} (publishDownload p q) := by
  rw [publishDownload]
  refine .bind (by simp) fun _ => .bind (by simp) fun source => .bind (by simp) fun r => ?_
  split
  · split <;> trivial
  · refine .bind ((Prog.all_attempt _).mpr ?_) fun r => ?_
    · exact .bind (writesIn_copy ..) fun _ => .bind (by simp) fun _ => .bind (by simp) fun _ =>
        .bind (by simp) fun _ => by simp
    · split
      · exact writesIn_removeAndFail ..
      · trivial

variable {E : Env Choice Sys} {q : Path} {bytes : List UInt8}

lemma keeps_publishDownload (hq : Sys.Steady E q) (p path : Path) :
    Prog.Keeps Sys.handle E (fun s => s.files q = some bytes) (publishDownload p path) := by
  by_cases hpath : q = path
  · subst hpath
    refine .bind (WritesIn.keeps (F := ∅) (by simp [WritesIn]) (by simp) hq _) fun _ =>
      .bind (.ofExcept _) fun source s hs => ?_
    rw [Prog.wp_bind, Prog.wp_perform]
    intro s₁ hs₁ c hc
    -- the destination is there, so it is not opened
    have hpresent : s₁.files q = some bytes := (hq.files hs₁).trans hs
    cases hfault : c.fault <;> simp only [Sys.step, hfault, hpresent] <;> split <;> exact hpresent
  · exact (writesIn_publishDownload ..).keeps hpath hq _

/-- The files downloads and updates may change: the lists and temporary ones. -/
def writable (config : SecurityConfig) : Set Path :=
  config.listPaths ∪ temporaries temporaryPath

lemma item_subset_writable {config : SecurityConfig} {item : DownloadItem}
    (h : item ∈ automaticListItems config) :
    {item.path} ∪ temporaries temporaryPath ⊆ writable config :=
  Set.union_subset_union_left _ (Set.singleton_subset_iff.mpr (path_mem_listPaths h))

variable [StdParse]

lemma writesIn_validateListFile (path : Path) (kind : String) (format : ListFormat) :
    WritesIn ∅ (validateListFile path kind format) := by
  rw [validateListFile]
  exact .bind (by simp) fun _ => .bind (by simp) fun source => .bind (by simp) fun _ =>
    by simp [failIf]

lemma writesIn_downloadOne (item : DownloadItem) :
    WritesIn ({item.path} ∪ temporaries temporaryPath) (downloadOne item) :=
  TransferGateway.writesIn_downloadOne (fun _ => writesIn_validateListFile ..)
    fun _ _ => (writesIn_publishDownload ..).mono (by simp)

lemma writesIn_updateOne (item : DownloadItem) :
    WritesIn ({item.path} ∪ temporaries temporaryPath) (updateOne item) :=
  TransferGateway.writesIn_updateOne fun _ => writesIn_validateListFile ..

lemma writesIn_downloadMissing (config : SecurityConfig) :
    WritesIn (writable config) (downloadMissing config) := by
  rw [downloadMissing]
  split
  · trivial
  · refine .bind_of_returns ((writesIn_missing ..).mono (by simp)) (returns_missing ..)
      fun pending hpending => ?_
    split
    · trivial
    · refine .bind (by simp) fun _ => .bind (by simp) fun _ => .bind (writesIn_runItems ?_)
        fun report => .bind (by simp [failIf]) fun _ => trivial
      exact fun item hitem =>
        (writesIn_downloadOne item).mono (item_subset_writable (hpending hitem))

lemma writesIn_update (config : SecurityConfig) :
    WritesIn (writable config) (update config) := by
  rw [update]
  split
  · trivial
  · dsimp only
    split
    · trivial
    · refine .bind (by simp) fun _ => .bind (by simp) fun _ => writesIn_runItems ?_
      exact fun item hitem => (writesIn_updateOne item).mono (item_subset_writable hitem)

/-- Downloads leave the lists that are there alone. -/
lemma keeps_downloadMissing {config : SecurityConfig} (hq : Sys.Steady E q)
    (htemporary : ∀ path ∈ config.listPaths, ∀ uuid, q ≠ temporaryPath path uuid) :
    Prog.Keeps Sys.handle E (fun s => s.files q = some bytes) (downloadMissing config) := by
  have hnone : ∀ {α : Type} {p : SysProg α}, WritesIn ∅ p →
      Prog.Keeps Sys.handle E (fun s => s.files q = some bytes) p :=
    fun hp => hp.keeps (by simp) hq _
  rw [downloadMissing]
  split
  · exact .ret _
  · refine .bind_of_returns (hnone (writesIn_missing ..)) (returns_missing ..)
      fun pending hpending => ?_
    split
    · exact .ret _
    · refine .bind (hnone (by simp [WritesIn])) fun _ => .bind (.ofExcept _) fun _ =>
        .bind (keeps_runItems fun item hitem => ?_) fun report => .bind (.ofExcept _) fun _ =>
        .ret _
      exact keeps_downloadOne (fun _ => writesIn_validateListFile ..) hq
        (htemporary _ (path_mem_listPaths (hpending hitem)))
        fun p _ => keeps_publishDownload hq p item.path

/-- An update that fails or reports no written list leaves the files as they are. -/
lemma wp_update (config : SecurityConfig) (s : Sys) :
    (update config).wp Sys.handle E (fun r s' =>
      (∀ report, r = .ok report → report.done = []) →
        ∀ q, q ∉ temporaries temporaryPath → Sys.Steady E q → s'.files q = s.files q) s := by
  rw [update]
  split
  · exact fun _ _ _ _ => rfl
  · dsimp only
    split
    · exact fun _ _ _ _ => rfl
    · exact wp_client_runItems (fun item s => Prog.wp_mono
        (wp_updateOne (fun _ => writesIn_validateListFile ..) s)
        fun _ _ h q hq hs => (h q hq hs).imp_right And.left) s

end Security

end TransferGateway

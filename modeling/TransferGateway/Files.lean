import TransferGateway.System

/-!
# Creating, downloading and replacing files

A download goes to a temporary file beside its destination, is checked there, and then either
published under the destination's name, if that is still free, or renamed over it. The databases
and the block lists do this with the same steps and their own texts and limits.
-/

namespace TransferGateway

/-! ### Creating -/

/-- The creation of a file with its first content, unless it is there; `noun` names it. -/
def createFile (path : Path) (content : List UInt8) (noun : String) : SysProg Bool := do
  match ← ask (.createNew path) with
  | .error error =>
    if error.kind = .alreadyExists then return false
    else .fail s!"unable to create {noun} {path.display}"
  | .ok () => do
    context (← ask (.writeAll path content)) s!"unable to write {noun} {path.display}"
    context (← ask (.flush path)) s!"unable to flush {noun} {path.display}"
    context (← ask (.syncAll path)) s!"unable to sync {noun} {path.display}"
    return true

/-- The creation of the directory of a file; `noun` names the directory. -/
def createParent (path : Path) (noun : String) : SysProg Unit :=
  match path.parent.filter fun parent => !parent.isEmpty with
  | some parent => do
    context (← ask (.createDirAll parent)) s!"unable to create {noun} directory {parent.display}"
  | none => pure ()

/-! ### Downloading -/

/-- The names a downloader gives things in its messages, and its size limit. -/
structure DownloadKind where
  what : String
  download : String
  temporaryFile : String
  directory : String
  maxSize : ℕ

/-- The loop over the chunks of a response; `downloaded` bytes came before. -/
def writeChunks (kind : DownloadKind) (url : String) (path : Path) :
    List (List UInt8) → ℕ → SysProg Unit
  | [], _ => pure ()
  | chunk :: chunks, downloaded => do
    let downloaded := downloaded + chunk.length
    failIf (downloaded ≥ 2 ^ 64) s!"{kind.download} size overflow"
    failIf (downloaded > kind.maxSize)
      s!"{kind.what} download from {url} is larger than {kind.maxSize} bytes"
    context (← ask (.writeAll path chunk)) s!"unable to write {kind.temporaryFile} {path.display}"
    writeChunks kind url path chunks downloaded

def downloadToTemp (kind : DownloadKind) (url : String) (path : Path) : SysProg Unit := do
  let response ← context (← ask (.get url)) s!"unable to download {kind.what} from {url}"
  failIf (!response.isSuccess)
    s!"{kind.what} download from {url} returned HTTP {response.status}"
  failIf (response.contentLength.any (· > kind.maxSize))
    s!"{kind.what} download from {url} is larger than {kind.maxSize} bytes"
  context (← ask (.createNew path)) s!"unable to create {kind.temporaryFile} {path.display}"
  writeChunks kind url path response.chunks 0
  failIf response.failure.isSome s!"unable to read {kind.download} response"
  context (← ask (.flush path)) s!"unable to flush {kind.temporaryFile} {path.display}"
  context (← ask (.syncAll path)) s!"unable to sync {kind.temporaryFile} {path.display}"

/-- `let _ = remove_file(path)`, and then the error. -/
def removeAndFail {α : Type} (path : Path) (error : String) : SysProg α := do
  let _ ← ask (.removeFile path)
  .fail error

/-- `tokio::io::copy` from an opened file to a new one. -/
def copyChunks (destination : Path) : List (List UInt8) → Prog SysOp IoError Unit
  | [] => pure ()
  | chunk :: chunks => do
    .ofExcept (← ask (.writeAll destination chunk))
    copyChunks destination chunks

def copy (source : Delivery) (destination : Path) : Prog SysOp IoError Unit := do
  copyChunks destination source.chunks
  match source.failure with
  | some error => .fail error
  | none => .ofExcept (← ask (.flush destination))

/-- The steps both downloads share: the temporary file is there and passed the check, or the
download failed and the file was removed. -/
def fetch (kind : DownloadKind) (check : Path → SysProg Unit) (url : String)
    (temporaryPath : Path) : SysProg Unit := do
  match ← (downloadToTemp kind url temporaryPath).attempt with
  | .error error => removeAndFail temporaryPath error
  | .ok () => do
    match ← (check temporaryPath).attempt with
    | .error error => removeAndFail temporaryPath error
    | .ok () => pure ()

/-- `download_one`, with the check and the publication of its downloader. -/
def downloadOne (kind : DownloadKind) (check : Path → SysProg Unit)
    (publish : Path → Path → SysProg Bool) (temporaryPath : Path → Uuid → Path) (url : String)
    (path : Path) : SysProg Bool := do
  if ← ask (.pathExists path) then pure false
  else do
    createParent path kind.directory
    let temporary := temporaryPath path (← ask .newUuid)
    fetch kind check url temporary
    match ← (publish temporary path).attempt with
    | .error error => removeAndFail temporary error
    | .ok published => pure published

/-! ### Updating -/

/-- The loop of `files_equal` over what the reads of the two files return. -/
def compareReads (failure failure' : Option IoError) :
    List (List UInt8) → List (List UInt8) → Except IoError Bool
  | first :: rest, second :: rest' =>
    if first.length ≠ second.length then .ok false
    else if first ≠ second then .ok false
    else compareReads failure failure' rest rest'
  | _ :: _, [] =>
    match failure' with
    | some error => .error error
    | none => .ok false
  | [], second =>
    match failure, second, failure' with
    | some error, _, _ => .error error
    | none, _ :: _, _ => .ok false
    | none, [], some error => .error error
    | none, [], none => .ok true

def filesEqual (first second : Path) : SysProg Bool := do
  let firstLength ← propagate (← ask (.fileLen first))
  let secondLength ← propagate (← ask (.fileLen second))
  if firstLength ≠ secondLength then pure false
  else do
    let first ← propagate (← ask (.openRead first))
    let second ← propagate (← ask (.openRead second))
    propagate (compareReads first.failure second.failure first.chunks second.chunks)

def replaceDownload (kind : DownloadKind) (temporaryPath destination : Path) : SysProg Unit := do
  context (← ask (.rename temporaryPath destination))
    s!"unable to atomically replace {kind.what} {destination.display}"

/-- The destination is there and holds what was downloaded. -/
def isUnchanged (temporaryPath path : Path) : SysProg Bool := do
  if ← ask (.pathExists path) then filesEqual temporaryPath path else pure false

/-- `update_one`, with the check of its downloader. -/
def updateOne (kind : DownloadKind) (check : Path → SysProg Unit)
    (temporaryPath : Path → Uuid → Path) (url : String) (path : Path) : SysProg Bool := do
  createParent path kind.directory
  let temporary := temporaryPath path (← ask .newUuid)
  fetch kind check url temporary
  if ← isUnchanged temporary path then do
    context (← ask (.removeFile temporary))
      s!"unable to remove unchanged temporary {kind.what} {temporary.display}"
    pure false
  else do
    replaceDownload kind temporary path
    pure true

/-! ### Several files -/

/-- What a cycle over several files did: the items that were written, and the errors. -/
structure Report (ι : Type) where
  done : List ι
  errors : List String

/-- The loop of an update cycle: an item's error does not stop the others. -/
def runItems {ι : Type} (name : ι → String) (one : ι → SysProg Bool) :
    List ι → SysProg (Report ι)
  | [] => pure ⟨[], []⟩
  | item :: items => do
    let outcome ← (one item).attempt
    let report ← runItems name one items
    match outcome with
    | .ok true => return { report with done := item :: report.done }
    | .ok false => return report
    | .error error => return { report with errors := s!"{name item}: {error}" :: report.errors }

/-- The items whose file is missing. -/
def missing {ι : Type} (path : ι → Path) : List ι → SysProg (List ι)
  | [] => pure []
  | item :: items => do
    let present ← ask (.pathExists (path item))
    let rest ← missing path items
    return if present then rest else item :: rest

/-! ### The files the steps change -/

section WritesIn

lemma writesIn_createParent (path : Path) (noun : String) : WritesIn ∅ (createParent path noun) := by
  rw [createParent]
  split
  · exact .bind (by simp) fun _ => by simp
  · trivial

lemma writesIn_createFile (path : Path) (content : List UInt8) (noun : String) :
    WritesIn {path} (createFile path content noun) := by
  rw [createFile]
  refine .bind (by simp) fun r => ?_
  split
  · split <;> trivial
  · exact .bind (by simp) fun _ => .bind (by simp) fun _ => .bind (by simp) fun _ =>
      .bind (by simp) fun _ => .bind (by simp) fun _ => .bind (by simp) fun _ => trivial

lemma writesIn_writeChunks (kind : DownloadKind) (url : String) (path : Path)
    (chunks : List (List UInt8)) (downloaded : ℕ) :
    WritesIn {path} (writeChunks kind url path chunks downloaded) := by
  induction chunks generalizing downloaded with
  | nil => trivial
  | cons chunk chunks ih =>
    exact .bind (by simp [failIf]) fun _ => .bind (by simp [failIf]) fun _ =>
      .bind (by simp) fun _ => .bind (by simp) fun _ => ih _

lemma writesIn_downloadToTemp (kind : DownloadKind) (url : String) (path : Path) :
    WritesIn {path} (downloadToTemp kind url path) := by
  rw [downloadToTemp]
  exact .bind (by simp) fun _ => .bind (by simp) fun _ => .bind (by simp [failIf]) fun _ =>
    .bind (by simp [failIf]) fun _ => .bind (by simp) fun _ => .bind (by simp) fun _ =>
    .bind (writesIn_writeChunks ..) fun _ => .bind (by simp [failIf]) fun _ =>
    .bind (by simp) fun _ => .bind (by simp) fun _ => .bind (by simp) fun _ => by simp

lemma writesIn_removeAndFail {α : Type} (path : Path) (error : String) :
    WritesIn {path} (removeAndFail path error : SysProg α) :=
  .bind (by simp) fun _ => trivial

lemma writesIn_copy (source : Delivery) (destination : Path) :
    WritesIn {destination} (copy source destination) := by
  have hchunks : ∀ chunks, WritesIn {destination} (copyChunks destination chunks) := by
    intro chunks
    induction chunks with
    | nil => trivial
    | cons chunk chunks ih => exact .bind (by simp) fun _ => .bind (by simp) fun _ => ih
  refine .bind (hchunks _) fun _ => ?_
  split
  · trivial
  · exact .bind (by simp) fun _ => by simp

lemma writesIn_fetch (kind : DownloadKind) {check : Path → SysProg Unit}
    (hcheck : ∀ p, WritesIn ∅ (check p)) (url : String) (temporaryPath : Path) :
    WritesIn {temporaryPath} (fetch kind check url temporaryPath) := by
  rw [fetch]
  refine .bind ((Prog.all_attempt _).mpr (writesIn_downloadToTemp ..)) fun r => ?_
  split
  · exact writesIn_removeAndFail ..
  · refine .bind ((Prog.all_attempt _).mpr ((hcheck _).mono (by simp))) fun r => ?_
    split
    · exact writesIn_removeAndFail ..
    · trivial

lemma writesIn_filesEqual (first second : Path) : WritesIn ∅ (filesEqual first second) := by
  rw [filesEqual]
  refine .bind (by simp) fun _ => .bind (by simp) fun _ => .bind (by simp) fun _ =>
    .bind (by simp) fun _ => ?_
  split
  · trivial
  · exact .bind (by simp) fun _ => .bind (by simp) fun _ => .bind (by simp) fun _ =>
      .bind (by simp) fun _ => by simp

lemma writesIn_isUnchanged (temporaryPath path : Path) :
    WritesIn ∅ (isUnchanged temporaryPath path) := by
  refine .bind (by simp) fun present => ?_
  split
  · exact writesIn_filesEqual ..
  · trivial

lemma writesIn_missing {ι : Type} (path : ι → Path) (items : List ι) :
    WritesIn ∅ (missing path items) := by
  induction items with
  | nil => trivial
  | cons item items ih => exact .bind (by simp) fun _ => .bind ih fun _ => trivial

lemma returns_missing {ι : Type} (path : ι → Path) (items : List ι) :
    (missing path items).Returns fun pending => pending ⊆ items := by
  induction items with
  | nil => exact fun _ h => h
  | cons item items ih =>
    refine .bind (R := fun _ => True) (fun _ => trivial) fun present _ =>
      .bind ih fun rest hrest => ?_
    cases present with
    | true => exact fun i hi => List.mem_cons_of_mem _ (hrest hi)
    | false => exact List.cons_subset_cons _ hrest

end WritesIn

/-- The names of the temporary files of a downloader. -/
def temporaries (temporaryPath : Path → Uuid → Path) : Set Path :=
  {q | ∃ path uuid, q = temporaryPath path uuid}

/-- Temporary files are hidden ones, when their names are given so. -/
lemma getLast?_withFileName (p : Path) {name : String} (h : name ≠ ".") :
    (p.withFileName name).components.getLast? = some name := by
  rw [Path.withFileName]
  split
  · simp
  · rw [Path.join]
    split
    · rfl
    · simp [h]

section Items

variable {kind : DownloadKind} {check : Path → SysProg Unit}
  {publish : Path → Path → SysProg Bool} {temporaryPath : Path → Uuid → Path}
  {url : String} {path : Path}

lemma writesIn_downloadOne (hcheck : ∀ p, WritesIn ∅ (check p))
    (hpublish : ∀ p q, WritesIn {p, q} (publish p q)) :
    WritesIn ({path} ∪ temporaries temporaryPath)
      (downloadOne kind check publish temporaryPath url path) := by
  rw [downloadOne]
  refine .bind (by simp) fun present => ?_
  split
  · trivial
  · refine .bind ((writesIn_createParent ..).mono (by simp)) fun _ => .bind (by simp) fun uuid => ?_
    have htemporary : {temporaryPath path uuid} ⊆ {path} ∪ temporaries temporaryPath :=
      Set.singleton_subset_iff.mpr (Or.inr ⟨path, uuid, rfl⟩)
    refine .bind ((writesIn_fetch kind hcheck ..).mono htemporary) fun _ =>
      .bind ((Prog.all_attempt _).mpr ((hpublish _ _).mono ?_)) fun r => ?_
    · exact Set.insert_subset (Or.inr ⟨path, uuid, rfl⟩)
        (Set.singleton_subset_iff.mpr (Or.inl rfl))
    · split
      · exact (writesIn_removeAndFail ..).mono htemporary
      · trivial

lemma writesIn_updateOne (hcheck : ∀ p, WritesIn ∅ (check p)) :
    WritesIn ({path} ∪ temporaries temporaryPath)
      (updateOne kind check temporaryPath url path) := by
  rw [updateOne]
  refine .bind ((writesIn_createParent ..).mono (by simp)) fun _ => .bind (by simp) fun uuid => ?_
  have htemporary : temporaryPath path uuid ∈ temporaries temporaryPath := ⟨path, uuid, rfl⟩
  refine .bind ((writesIn_fetch kind hcheck ..).mono (by simp [htemporary])) fun _ =>
    .bind ((writesIn_isUnchanged ..).mono (by simp)) fun unchanged => ?_
  split
  · exact .bind (by simp [htemporary]) fun _ => .bind (by simp) fun _ => trivial
  · refine .bind (.bind ?_ fun _ => by simp) fun _ => trivial
    simp [htemporary]

variable {E : Env Choice Sys}

/-- An update replaces the file only when it says so. -/
lemma wp_updateOne (hcheck : ∀ p, WritesIn ∅ (check p)) (s : Sys) :
    (updateOne kind check temporaryPath url path).wp Sys.handle E (fun r s' =>
      ∀ q, q ∉ temporaries temporaryPath → Sys.Steady E q →
        s'.files q = s.files q ∨ r = .ok true ∧ q = path) s := by
  -- up to the replacement only the temporary file changes
  let Q := fun t : Sys => ∀ q, q ∉ temporaries temporaryPath → Sys.Steady E q →
    t.files q = s.files q
  have hframe : ∀ {α : Type} {p : SysProg α}, WritesIn (temporaries temporaryPath) p →
      Prog.Keeps Sys.handle E Q p := by
    intro α p hp t ht
    exact Prog.wp_mono (wp_frame hp t) fun _ t' h q hq hsteady =>
      (h q hq hsteady).trans (ht q hq hsteady)
  have hQ : ∀ e t, Q t → ∀ q, q ∉ temporaries temporaryPath → Sys.Steady E q →
      t.files q = s.files q ∨ (.error e : Except String Bool) = .ok true ∧ q = path :=
    fun _ _ h q hq hs => .inl (h q hq hs)
  rw [updateOne]
  refine (hframe ((writesIn_createParent ..).mono (by simp))).seq (fun _ _ _ => rfl) hQ
    fun _ s₁ h₁ => (hframe (by simp [WritesIn])).seq h₁ hQ fun uuid s₂ h₂ => ?_
  have htemporary : temporaryPath path uuid ∈ temporaries temporaryPath := ⟨path, uuid, rfl⟩
  refine (hframe ((writesIn_fetch kind hcheck ..).mono (by simp [htemporary]))).seq h₂ hQ
    fun _ s₃ h₃ => (hframe ((writesIn_isUnchanged ..).mono (by simp))).seq h₃ hQ
    fun unchanged s₄ h₄ => ?_
  split
  · refine Prog.wp_mono (hframe ?_ s₄ h₄) fun _ _ h q hq hs => .inl (h q hq hs)
    exact .bind (by simp [htemporary]) fun _ => .bind (by simp) fun _ => trivial
  · simp only [replaceDownload, Prog.wp_bind, Prog.wp_perform, wp_context]
    intro s₅ hs₅ c hc
    have h₅ : Q s₅ := fun q hq hs => (hs.files hs₅).trans (h₄ q hq hs)
    cases hr : (s₅.step (.rename (temporaryPath path uuid) path) c).1 with
    | error e =>
      rw [Sys.step_rename_error hr]
      exact fun q hq hs => .inl (h₅ q hq hs)
    | ok u =>
      intro q hq hs
      by_cases hqp : q = path
      · exact .inr ⟨rfl, hqp⟩
      · refine .inl ((Sys.step_files ?_ _ _).trans (h₅ q hq hs))
        rintro (rfl | rfl)
        · exact hq htemporary
        · exact hqp rfl

variable {q : Path} {bytes : List UInt8}

/-- Creating a file leaves it alone when it is there. -/
lemma keeps_createFile (hq : Sys.Steady E q) (path : Path) (content : List UInt8)
    (noun : String) :
    Prog.Keeps Sys.handle E (fun s => s.files q = some bytes) (createFile path content noun) := by
  by_cases hpath : q = path
  · subst hpath
    intro s hs
    simp only [createFile, Prog.wp_bind, Prog.wp_perform]
    intro s₁ hs₁ c hc
    have hpresent : s₁.files q = some bytes := (hq.files hs₁).trans hs
    cases hfault : c.fault <;> simp only [Sys.step, hfault, hpresent] <;> split <;> exact hpresent
  · exact (writesIn_createFile ..).keeps hpath hq _

/-- Downloading a file leaves it alone when it is there. -/
lemma keeps_downloadOne (hcheck : ∀ p, WritesIn ∅ (check p)) (hq : Sys.Steady E q)
    (htemporary : ∀ uuid, q ≠ temporaryPath path uuid)
    (hpublish : ∀ p, q ≠ p →
      Prog.Keeps Sys.handle E (fun s => s.files q = some bytes) (publish p path)) :
    Prog.Keeps Sys.handle E (fun s => s.files q = some bytes)
      (downloadOne kind check publish temporaryPath url path) := by
  rw [downloadOne]
  refine .bind (WritesIn.keeps (F := ∅) (by simp [WritesIn]) (by simp) hq _) fun present => ?_
  split
  · exact .ret _
  · refine .bind ((writesIn_createParent ..).keeps (by simp) hq _) fun _ =>
      .bind (WritesIn.keeps (F := ∅) (by simp [WritesIn]) (by simp) hq _) fun uuid => ?_
    have hne := htemporary uuid
    refine .bind ((writesIn_fetch kind hcheck ..).keeps hne hq _) fun _ =>
      .bind (.attempt (hpublish _ hne)) fun r => ?_
    split
    · exact (writesIn_removeAndFail ..).keeps hne hq _
    · exact .ret _

end Items

section Lists

variable {ι : Type} {name : ι → String} {one : ι → SysProg Bool} {items : List ι}
  {E : Env Choice Sys}

lemma writesIn_runItems {F : Set Path} (h : ∀ item ∈ items, WritesIn F (one item)) :
    WritesIn F (runItems name one items) := by
  induction items with
  | nil => trivial
  | cons item items ih =>
    refine .bind ((Prog.all_attempt _).mpr (h _ List.mem_cons_self)) fun r =>
      .bind (ih fun i hi => h i (List.mem_cons_of_mem _ hi)) fun _ => ?_
    split <;> trivial

lemma keeps_runItems {I : Sys → Prop}
    (h : ∀ item ∈ items, Prog.Keeps Sys.handle E I (one item)) :
    Prog.Keeps Sys.handle E I (runItems name one items) := by
  induction items with
  | nil => exact .ret _
  | cons item items ih =>
    obtain ⟨hitem, hitems⟩ := List.forall_mem_cons.mp h
    refine .bind (.attempt hitem) fun r => .bind (ih hitems) fun _ => ?_
    split <;> exact .ret _

/-- A cycle does not fail, and when it did nothing it changed no file, provided an item's step
changes none unless it says so. -/
lemma wp_runItems {F : Set Path} (h : ∀ item s, (one item).wp Sys.handle E (fun r s' =>
      ∀ q, q ∉ F → Sys.Steady E q → s'.files q = s.files q ∨ r = .ok true) s) (s : Sys) :
    (runItems name one items).wp Sys.handle E (fun r s' => match r with
      | .ok report => report.done = [] →
          ∀ q, q ∉ F → Sys.Steady E q → s'.files q = s.files q
      | .error _ => False) s := by
  induction items generalizing s with
  | nil => exact fun _ _ _ _ => rfl
  | cons item items ih =>
    rw [runItems, Prog.wp_bind, Prog.wp_attempt]
    refine Prog.wp_mono (h item s) fun r s₁ h₁ => Prog.wp_seq (ih s₁) (fun report s₂ h₂ => ?_)
      fun _ _ => False.elim
    cases r with
    | error e =>
      exact fun hdone q hq hs => (h₂ hdone q hq hs).trans ((h₁ q hq hs).resolve_right (by simp))
    | ok done =>
      cases done with
      | false =>
        exact fun hdone q hq hs => (h₂ hdone q hq hs).trans ((h₁ q hq hs).resolve_right (by simp))
      | true => exact fun hdone => absurd hdone (by simp)

/-- The cycle with the client it needs, which may fail before it starts. -/
lemma wp_client_runItems {F : Set Path} {message : String}
    (h : ∀ item s, (one item).wp Sys.handle E (fun r s' =>
      ∀ q, q ∉ F → Sys.Steady E q → s'.files q = s.files q ∨ r = .ok true) s) (s : Sys) :
    (do
      context (← ask .buildClient) message
      runItems name one items : SysProg (Report ι)).wp Sys.handle E
      (fun r s' => (∀ report, r = .ok report → report.done = []) →
        ∀ q, q ∉ F → Sys.Steady E q → s'.files q = s.files q) s := by
  simp only [Prog.wp_bind, Prog.wp_perform, wp_context]
  intro s₁ hs₁ c hc
  cases hfault : c.fault with
  | some e =>
    simp only [Sys.step, hfault, Except.mapError]
    exact fun _ q _ hs => hs.files hs₁
  | none =>
    simp only [Sys.step, hfault, Except.mapError]
    apply Prog.wp_mono (wp_runItems h s₁)
    intro r s' h' hdone q hq hs
    cases r with
    | error e => exact h'.elim
    | ok report => exact (h' (hdone _ rfl) q hq hs).trans (hs.files hs₁)

end Lists

end TransferGateway

import TransferGateway.Downloads
import TransferGateway.Lib.Steps
import TransferGateway.Security.Families

/-!
# How much a server can put on the disk

However long a response is, and whatever it says of its length, no file that a cycle of downloads or
updates writes ever holds more than the limit of its downloader, wherever the cycle is interrupted.
-/

namespace TransferGateway

/-- No other process touches these files; anything may fail, and a server may answer anything. -/
def Sys.sparing (F : Set Path) : Env Choice Sys where
  interferes s s' := ∀ q ∈ F, s'.files q = s.files q
  admits _ := True

/-- These files are no longer than the limit. -/
def Sys.Bounded (limit : ℕ) (F : Set Path) (s : Sys) : Prop :=
  ∀ q ∈ F, ∀ content, s.files q = some content → content.length ≤ limit

/-- The operation leaves these files no longer than the longest of them was. -/
@[simp] def SysOp.AddsNothing {β : Type} (F : Set Path) : SysOp β → Prop
  | .writeAll p _ => p ∉ F
  | .rename p q   => q ∈ F → p ∈ F
  | _             => True

/-! ### Operations -/

section Operations

variable {limit : ℕ} {F : Set Path} {s s' : Sys} {p : Path} {c : Choice}

namespace Sys.Bounded

lemma of_files (hs : s.Bounded limit F) (h : ∀ q ∈ F, s'.files q = s.files q) :
    s'.Bounded limit F := by
  intro q hq content hcontent
  exact hs q hq content ((h q hq).symm.trans hcontent)

lemma set (hs : s.Bounded limit F) {content : Option (List UInt8)}
    (h : p ∈ F → ∀ bytes, content = some bytes → bytes.length ≤ limit) :
    (s.set p content).Bounded limit F := by
  intro q hq bytes hbytes
  rw [set_files] at hbytes
  by_cases hqp : q = p
  · subst hqp
    rw [Function.update_self] at hbytes
    exact h hq bytes hbytes
  · rw [Function.update_of_ne hqp] at hbytes
    exact hs q hq bytes hbytes

lemma modify (hs : s.Bounded limit F) {f : List UInt8 → List UInt8}
    (h : ∀ bytes, (f bytes).length ≤ bytes.length) : (s.modify p f).Bounded limit F := by
  rw [Sys.modify]
  cases hfile : s.files p with
  | none => exact hs
  | some content =>
    refine hs.set fun hp bytes hbytes => ?_
    rw [← Option.some.inj hbytes]
    exact (h content).trans (hs p hp content hfile)

/-- What is moved was in one of the files. -/
lemma step {β : Type} {o : SysOp β} (hs : s.Bounded limit F) (ho : o.AddsNothing F) (c : Choice) :
    (s.step o c).2.Bounded limit F := by
  have hshorter : ∀ bytes : List UInt8, (bytes.take c.stored).length ≤ bytes.length := by
    intro bytes
    exact List.length_take_le' ..
  cases o with
  | createNew p =>
    simp only [Sys.step]
    split
    · exact hs
    · exact hs
    · exact hs.set (by simp)
  | writeAll p bytes =>
    refine hs.of_files fun q hq => Sys.step_files ?_ c s
    rintro rfl
    exact ho hq
  | flush p | syncAll p =>
    simp only [Sys.step]
    split
    · exact hs.modify hshorter
    · exact hs
  | removeFile p =>
    simp only [Sys.step]
    split
    · exact hs
    · exact hs
    · exact hs.set (by simp)
  | rename p q =>
    simp only [Sys.step]
    split
    · exact hs
    · exact hs
    · rename_i content _ hfile
      split
      · exact hs
      · refine (hs.set (by simp)).set fun hq bytes hbytes => ?_
        rw [← Option.some.inj hbytes]
        exact hs p (ho hq) content hfile
  | openAppend p =>
    simp only [Sys.step]
    split
    · exact hs
    · exact hs.set (by simp)
    · exact hs
  | _ => exact hs.of_files fun q _ => Sys.step_files (by simp) c s

/-- A write to a file that leaves room for it. -/
lemma writeAll (hs : s.Bounded limit F) {bytes : List UInt8}
    (h : p ∈ F → ∃ u, s.files p = some u ∧ u.length + bytes.length ≤ limit) (c : Choice) :
    (s.step (.writeAll p bytes) c).2.Bounded limit F := by
  intro q hq content hcontent
  by_cases hqp : q = p
  · subst hqp
    obtain ⟨u, hu, hroom⟩ := h hq
    obtain ⟨v, hv, hprefix, -⟩ := appends_writeAll q bytes c s u hu
    obtain rfl := Option.some.inj (hv.symm.trans hcontent)
    exact hprefix.length_le.trans (List.length_append.trans_le hroom)
  · rw [Sys.step_files (o := .writeAll p bytes) hqp] at hcontent
    exact hs q hq content hcontent

end Sys.Bounded

end Operations

/-! ### Downloads -/

section Programs

variable {limit : ℕ} {F : Set Path} {ε α β : Type} {s : Sys}

/-- The files stay within the limit wherever the program is interrupted. -/
abbrev StaysBounded (limit : ℕ) (F : Set Path) (p : Prog SysOp ε α) : Prop :=
  Prog.KeepsThroughout Sys.handle (Sys.sparing F) (Sys.Bounded limit F) p

/-- The same from one state on. -/
abbrev BoundedFrom (limit : ℕ) (F : Set Path) (p : Prog SysOp ε α) (s : Sys) : Prop :=
  p.along Sys.handle (Sys.sparing F) (Sys.Bounded limit F) (fun _ => Sys.Bounded limit F) s

lemma staysBounded_of_from {p : Prog SysOp ε α}
    (hp : ∀ s : Sys, s.Bounded limit F → BoundedFrom limit F p s) : StaysBounded limit F p :=
  fun s hs _ _ hr => hr.along (hp s hs)

lemma boundedFrom_of_addsNothing {p : Prog SysOp ε α} (hp : p.All fun _ o => o.AddsNothing F)
    (hs : s.Bounded limit F) : BoundedFrom limit F p s :=
  Prog.along_of_all hp (fun h hs => hs.of_files h) (fun _ ho c _ _ hs => hs.step ho c) hs

lemma staysBounded_of_addsNothing {p : Prog SysOp ε α} (hp : p.All fun _ o => o.AddsNothing F) :
    StaysBounded limit F p :=
  staysBounded_of_from fun _ hs => boundedFrom_of_addsNothing hp hs

/-- Programs that change no file. -/
lemma WritesIn.addsNothing {p : Prog SysOp ε α} (hp : WritesIn ∅ p) :
    p.All fun _ o => o.AddsNothing F := by
  refine Prog.All.mono hp fun o ho => ?_
  cases o with
  | writeAll p bytes => exact absurd rfl (ho.1 p)
  | rename p q => exact absurd (.inl rfl) (ho.1 p)
  | _ => trivial

lemma boundedFrom_ask {o : SysOp β} {f : β → Prog SysOp ε α} (hs : s.Bounded limit F)
    (hop : ∀ s' : Sys, (∀ q ∈ F, s'.files q = s.files q) → ∀ c,
      BoundedFrom limit F (f (s'.step o c).1) (s'.step o c).2) :
    BoundedFrom limit F (ask o >>= f) s :=
  ⟨hs, fun s' hs' c _ => hop s' hs' c⟩

/-- One operation, and an error with a context. -/
lemma boundedFrom_ask_context {o : SysOp (Except IoError β)} {message : String}
    {f : β → SysProg α} (hs : s.Bounded limit F)
    (hop : ∀ s' : Sys, (∀ q ∈ F, s'.files q = s.files q) → ∀ c,
      (s'.step o c).2.Bounded limit F ∧
        ∀ b, (s'.step o c).1 = .ok b → BoundedFrom limit F (f b) (s'.step o c).2) :
    BoundedFrom limit F (ask o >>= fun r => context r message >>= f) s := by
  refine boundedFrom_ask hs fun s' hs' c => ?_
  obtain ⟨hstep, hok⟩ := hop s' hs' c
  cases hr : (s'.step o c).1 with
  | error e => exact ⟨hstep, hstep⟩
  | ok b => exact hok b hr

lemma boundedFrom_failIf {condition : Prop} [Decidable condition] {message : String}
    {f : Unit → SysProg α} (hs : s.Bounded limit F)
    (hok : ¬condition → BoundedFrom limit F (f ()) s) :
    BoundedFrom limit F (failIf condition message >>= f) s := by
  rw [failIf]
  cases h : bailIf condition message with
  | error e => exact ⟨hs, hs⟩
  | ok u => exact hok (bailIf_eq_ok.mp h)

/-- The loop checks the limit before it writes: the count is the length of the file. -/
lemma boundedFrom_writeChunks (kind : DownloadKind) (url : String) {temporary : Path}
    (ht : temporary ∈ F) (chunks : List (List UInt8)) {u : List UInt8}
    (hs : s.Bounded kind.maxSize F) (hu : s.files temporary = some u) :
    BoundedFrom kind.maxSize F (writeChunks kind url temporary chunks u.length) s := by
  induction chunks generalizing u s with
  | nil => exact ⟨hs, hs⟩
  | cons chunk chunks ih =>
    rw [writeChunks]
    refine boundedFrom_failIf hs fun _ => boundedFrom_failIf hs fun hsize =>
      boundedFrom_ask_context hs fun s' hs' c => ?_
    have hfile := (hs' _ ht).trans hu
    have hwritten := (hs.of_files hs').writeAll (fun _ => ⟨u, hfile, not_lt.mp hsize⟩) c
    refine ⟨hwritten, fun _ hr => ?_⟩
    obtain ⟨v, hv, -, hall⟩ := appends_writeAll temporary chunk c s' u hfile
    have hnext := ih hwritten (hv.trans (congrArg some (hall hr)))
    rwa [List.length_append] at hnext

lemma staysBounded_downloadToTemp (kind : DownloadKind) (url : String) {temporary : Path}
    (ht : temporary ∈ F) :
    StaysBounded kind.maxSize F (downloadToTemp kind url temporary) := by
  refine staysBounded_of_from fun s hs => boundedFrom_ask_context hs fun s₁ hs₁ c₁ => ?_
  have h₁ := (hs.of_files hs₁).step (o := .get url) trivial c₁
  refine ⟨h₁, fun response _ => ?_⟩
  refine boundedFrom_failIf h₁ fun _ => boundedFrom_failIf h₁ fun _ =>
    boundedFrom_ask_context h₁ fun s₂ hs₂ c₂ => ?_
  have h₂ := (h₁.of_files hs₂).step (o := .createNew temporary) trivial c₂
  refine ⟨h₂, fun _ hr => ?_⟩
  have hcreated := (step_createNew_ok hr).2.2
  refine Prog.along_seq (boundedFrom_writeChunks kind url ht _ h₂ hcreated) (fun _ s₃ h₃ => ?_)
    fun _ _ h₃ => h₃
  exact boundedFrom_of_addsNothing (.bind (by simp [failIf]) fun _ => .bind (by simp) fun _ =>
    .bind (by simp) fun _ => .bind (by simp) fun _ => by simp) h₃

lemma boundedFrom_removeAndFail (path : Path) (error : String) (hs : s.Bounded limit F) :
    BoundedFrom limit F (removeAndFail path error : SysProg α) s :=
  boundedFrom_of_addsNothing (.bind (by simp) fun _ => trivial) hs

lemma staysBounded_removeAndFail (path : Path) (error : String) :
    StaysBounded limit F (removeAndFail path error : SysProg α) :=
  staysBounded_of_from fun _ hs => boundedFrom_removeAndFail path error hs

lemma staysBounded_fetch {kind : DownloadKind} {check : Path → SysProg Unit}
    (hcheck : ∀ p, WritesIn ∅ (check p)) (url : String) {temporary : Path} (ht : temporary ∈ F) :
    StaysBounded kind.maxSize F (fetch kind check url temporary) := by
  rw [fetch]
  refine .bind (.attempt (staysBounded_downloadToTemp kind url ht)) fun r => ?_
  cases r with
  | error e => exact staysBounded_removeAndFail _ _
  | ok u =>
    refine .bind (.attempt (staysBounded_of_addsNothing (hcheck _).addsNothing)) fun r => ?_
    cases r with
    | error e => exact staysBounded_removeAndFail _ _
    | ok u => exact .ret _

/-- A copy fits, where its destination has room for the source. -/
lemma boundedFrom_copy {source : Delivery} {destination : Path} (hs : s.Bounded limit F)
    (hroom : destination ∈ F → ∃ u, s.files destination = some u ∧
      u.length + source.chunks.flatten.length ≤ limit) :
    BoundedFrom limit F (copy source destination) s := by
  have hchunks : ∀ (chunks : List (List UInt8)) (s : Sys), s.Bounded limit F →
      (destination ∈ F → ∃ u, s.files destination = some u ∧
        u.length + chunks.flatten.length ≤ limit) →
      BoundedFrom limit F (copyChunks destination chunks) s := by
    intro chunks
    induction chunks with
    | nil => exact fun s hs _ => ⟨hs, hs⟩
    | cons chunk chunks ih =>
      intro s hs hroom
      refine boundedFrom_ask hs fun s' hs' c => ?_
      have hwritten : (s'.step (.writeAll destination chunk) c).2.Bounded limit F := by
        refine (hs.of_files hs').writeAll (fun hd => ?_) c
        obtain ⟨u, hu, hle⟩ := hroom hd
        rw [List.flatten_cons, List.length_append, ← Nat.add_assoc] at hle
        exact ⟨u, (hs' _ hd).trans hu, (Nat.le_add_right ..).trans hle⟩
      cases hr : (s'.step (.writeAll destination chunk) c).1 with
      | error e => exact ⟨hwritten, hwritten⟩
      | ok _ =>
        refine ih _ hwritten fun hd => ?_
        obtain ⟨u, hu, hle⟩ := hroom hd
        obtain ⟨v, hv, -, hall⟩ := appends_writeAll destination chunk c s' u ((hs' _ hd).trans hu)
        refine ⟨v, hv, ?_⟩
        rwa [hall hr, List.length_append, Nat.add_assoc, ← List.length_append,
          ← List.flatten_cons]
  refine Prog.along_seq (hchunks _ s hs hroom) (fun _ s' hs' => ?_) fun _ _ hs' => hs'
  split
  · exact ⟨hs', hs'⟩
  · exact boundedFrom_of_addsNothing (.bind (by simp) fun _ => by simp) hs'

/-- The list is copied from the temporary file, which is within the limit. -/
lemma Security.staysBounded_publishDownload {temporary : Path} (ht : temporary ∈ F) (path : Path) :
    StaysBounded limit F (Security.publishDownload temporary path) := by
  refine staysBounded_of_from fun s hs => boundedFrom_ask_context hs fun s₁ hs₁ c₁ => ?_
  have h₁ := (hs.of_files hs₁).step (o := .openRead temporary) trivial c₁
  refine ⟨h₁, fun source hsource => boundedFrom_ask h₁ fun s₂ hs₂ c₂ => ?_⟩
  have h₂ := (h₁.of_files hs₂).step (o := .createNew path) trivial c₂
  obtain ⟨bytes, hbytes, hprefix, -⟩ := step_openRead_ok hsource
  have hsize := hprefix.length_le.trans (hs.of_files hs₁ _ ht _ hbytes)
  cases hr : (s₂.step (.createNew path) c₂).1 with
  | error e =>
    dsimp only
    split <;> exact ⟨h₂, h₂⟩
  | ok _ =>
    have hcopy := boundedFrom_copy h₂ fun _ =>
      ⟨[], (step_createNew_ok hr).2.2, (Nat.zero_add _).trans_le hsize⟩
    refine Prog.along_seq (R := fun _ => Sys.Bounded limit F) (Prog.along_attempt
      (Prog.along_seq hcopy (fun _ s₃ h₃ => ?_) fun _ _ h => h)) (fun r s₃ h₃ => ?_) fun _ _ h => h
    · exact boundedFrom_of_addsNothing (.bind (by simp) fun _ => .bind (by simp) fun _ =>
        .bind (by simp) fun _ => by simp) h₃
    · cases r with
      | error e => exact boundedFrom_removeAndFail _ _ h₃
      | ok _ => exact ⟨h₃, h₃⟩

/-- The database is created first; it is still empty when the copy starts. -/
lemma Ip2Region.staysBounded_publishDownload {temporary : Path} (ht : temporary ∈ F)
    (path : Path) : StaysBounded limit F (Ip2Region.publishDownload temporary path) := by
  refine staysBounded_of_from fun s hs => boundedFrom_ask hs fun s₁ hs₁ c₁ => ?_
  have h₁ := (hs.of_files hs₁).step (o := .createNew path) trivial c₁
  cases hcreated : (s₁.step (.createNew path) c₁).1 with
  | error e =>
    dsimp only
    split
    · exact boundedFrom_of_addsNothing (.bind (by simp) fun _ => trivial) h₁
    · exact ⟨h₁, h₁⟩
  | ok _ =>
    refine boundedFrom_ask h₁ fun s₂ hs₂ c₂ => ?_
    have h₂ := (h₁.of_files hs₂).step (o := .openRead temporary) trivial c₂
    cases hsource : (s₂.step (.openRead temporary) c₂).1 with
    | error e => exact boundedFrom_removeAndFail _ _ h₂
    | ok source =>
      obtain ⟨bytes, hbytes, hprefix, -⟩ := step_openRead_ok hsource
      have hsize := hprefix.length_le.trans (h₁.of_files hs₂ _ ht _ hbytes)
      have hempty : path ∈ F → (s₂.step (.openRead temporary) c₂).2.files path = some [] := by
        intro hpath
        rw [Sys.step_files (by simp), hs₂ _ hpath]
        exact (step_createNew_ok hcreated).2.2
      have hcopy := boundedFrom_copy h₂ fun hpath =>
        ⟨[], hempty hpath, (Nat.zero_add _).trans_le hsize⟩
      refine Prog.along_seq (R := fun _ => Sys.Bounded limit F) (Prog.along_attempt hcopy)
        (fun r s₃ h₃ => ?_) fun _ _ h => h
      cases r with
      | error e => exact boundedFrom_removeAndFail _ _ h₃
      | ok _ =>
        refine boundedFrom_ask h₃ fun s₄ hs₄ c₄ => ?_
        have h₄ := (h₃.of_files hs₄).step (o := .syncAll path) trivial c₄
        cases (s₄.step (.syncAll path) c₄).1 with
        | error e => exact boundedFrom_removeAndFail _ _ h₄
        | ok _ =>
          exact boundedFrom_of_addsNothing (.bind (by simp) fun _ => .bind (by simp) fun _ =>
            trivial) h₄

end Programs

/-! ### Several files -/

section Items

variable {F : Set Path} {check : Path → SysProg Unit}
  {publish : Path → Path → SysProg Bool} {temporaryPath : Path → Uuid → Path}

lemma staysBounded_downloadOne (kind : DownloadKind) (hF : temporaries temporaryPath ⊆ F)
    (hcheck : ∀ p, WritesIn ∅ (check p))
    (hpublish : ∀ p ∈ F, ∀ q, StaysBounded kind.maxSize F (publish p q)) (url : String)
    (path : Path) :
    StaysBounded kind.maxSize F (downloadOne kind check publish temporaryPath url path) := by
  rw [downloadOne]
  refine .bind (staysBounded_of_addsNothing (by simp)) fun present => ?_
  split
  · exact .ret _
  · refine .bind (staysBounded_of_addsNothing (writesIn_createParent ..).addsNothing) fun _ =>
      .bind (staysBounded_of_addsNothing (by simp)) fun uuid => ?_
    have ht : temporaryPath path uuid ∈ F := hF ⟨path, uuid, rfl⟩
    refine .bind (staysBounded_fetch hcheck url ht) fun _ =>
      .bind (.attempt (hpublish _ ht path)) fun r => ?_
    cases r with
    | error e => exact staysBounded_removeAndFail _ _
    | ok published => exact .ret _

lemma staysBounded_updateOne (kind : DownloadKind) (hF : temporaries temporaryPath ⊆ F)
    (hcheck : ∀ p, WritesIn ∅ (check p)) (url : String) (path : Path) :
    StaysBounded kind.maxSize F (updateOne kind check temporaryPath url path) := by
  rw [updateOne]
  refine .bind (staysBounded_of_addsNothing (writesIn_createParent ..).addsNothing) fun _ =>
    .bind (staysBounded_of_addsNothing (by simp)) fun uuid => ?_
  have ht : temporaryPath path uuid ∈ F := hF ⟨path, uuid, rfl⟩
  refine .bind (staysBounded_fetch hcheck url ht) fun _ =>
    .bind (staysBounded_of_addsNothing (writesIn_isUnchanged ..).addsNothing) fun unchanged => ?_
  split
  · exact staysBounded_of_addsNothing (.bind (by simp) fun _ =>
      .bind (by simp) fun _ => trivial)
  · -- a rename moves the temporary file
    exact staysBounded_of_addsNothing (.bind (.bind (by simp [ht]) fun _ =>
      by simp) fun _ => trivial)

lemma staysBounded_runItems {ι : Type} {name : ι → String} {one : ι → SysProg Bool} {limit : ℕ}
    (h : ∀ item, StaysBounded limit F (one item)) (items : List ι) :
    StaysBounded limit F (runItems name one items) := by
  induction items with
  | nil => exact .ret _
  | cons item items ih =>
    refine .bind (.attempt (h item)) fun outcome => .bind ih fun report => ?_
    split <;> exact .ret _

lemma staysBounded_buildClient {limit : ℕ} {α : Type} {message : String} {p : SysProg α}
    (hp : StaysBounded limit F p) : StaysBounded limit F (do
      context (← ask .buildClient) message
      p) :=
  .bind (staysBounded_of_addsNothing (by simp)) fun _ =>
    .bind (.ofExcept _) fun _ => hp

end Items

/-! ### Cycles -/

/-- Whichever files nobody else touches, the temporary ones among them: if they are no longer than
the limit, they stay so wherever the program is interrupted. -/
def WithinLimit {α : Type} (limit : ℕ) (temporaryPath : Path → Uuid → Path) (p : SysProg α) :
    Prop :=
  ∀ F, temporaries temporaryPath ⊆ F → ∀ s : Sys, s.Bounded limit F → ∀ rest s',
    Prog.Reaches Sys.handle (Sys.sparing F) p s rest s' → s'.Bounded limit F

namespace Security

variable [StdParse]

lemma withinLimit_downloadMissing (config : SecurityConfig) :
    WithinLimit downloadKind.maxSize temporaryPath (downloadMissing config) := by
  intro F hF
  have hone : ∀ item, StaysBounded downloadKind.maxSize F (downloadOne item) := by
    intro item
    have hcheck : ∀ p, WritesIn ∅ (validateListFile p item.kind item.format) :=
      fun _ => writesIn_validateListFile ..
    exact TransferGateway.staysBounded_downloadOne downloadKind hF hcheck
      (fun _ ht => staysBounded_publishDownload ht) item.url item.path
  change StaysBounded downloadKind.maxSize F (downloadMissing config)
  rw [downloadMissing]
  split
  · exact .ret _
  · refine .bind (staysBounded_of_addsNothing (writesIn_missing ..).addsNothing) fun pending => ?_
    split
    · exact .ret _
    · apply staysBounded_buildClient
      exact .bind (staysBounded_runItems hone pending) fun report =>
        .bind (.ofExcept _) fun _ => .ret _

lemma withinLimit_update (config : SecurityConfig) :
    WithinLimit downloadKind.maxSize temporaryPath (update config) := by
  intro F hF
  have hone : ∀ item, StaysBounded downloadKind.maxSize F (updateOne item) := by
    intro item
    have hcheck : ∀ p, WritesIn ∅ (validateListFile p item.kind item.format) :=
      fun _ => writesIn_validateListFile ..
    exact TransferGateway.staysBounded_updateOne downloadKind hF hcheck item.url item.path
  change StaysBounded downloadKind.maxSize F (update config)
  rw [update]
  split
  · exact .ret _
  · dsimp only
    split
    · exact .ret _
    · exact staysBounded_buildClient (staysBounded_runItems hone _)

end Security

namespace Ip2Region

variable [Xdb]

lemma withinLimit_downloadMissing (config : Ip2RegionConfig) :
    WithinLimit downloadKind.maxSize temporaryPath (downloadMissing config) := by
  intro F hF
  have hall : ∀ pending, StaysBounded downloadKind.maxSize F
      (downloadAll config.downloadBaseUrl pending) := by
    intro pending
    induction pending with
    | nil => exact .ret _
    | cons database pending ih =>
      have hcheck : ∀ p, WritesIn ∅ (validateDownloadedXdb p database.version) :=
        fun _ => writesIn_validateDownloadedXdb ..
      have hone := TransferGateway.staysBounded_downloadOne downloadKind hF hcheck
        (fun _ ht => staysBounded_publishDownload ht)
        (downloadUrl config.downloadBaseUrl database.version.databaseName) database.path
      exact .bind hone fun _ => .bind ih fun _ => .ret _
  change StaysBounded downloadKind.maxSize F (downloadMissing config)
  rw [downloadMissing]
  split
  · exact .ret _
  · refine .bind (staysBounded_of_addsNothing (writesIn_missing ..).addsNothing) fun pending => ?_
    split
    · exact .ret _
    · exact staysBounded_buildClient (hall pending)

lemma withinLimit_update (config : Ip2RegionConfig) :
    WithinLimit downloadKind.maxSize temporaryPath (update config) := by
  intro F hF
  have hone : ∀ database, StaysBounded downloadKind.maxSize F
      (updateOne config.downloadBaseUrl database) := by
    intro database
    have hcheck : ∀ p, WritesIn ∅ (validateDownloadedXdb p database.version) :=
      fun _ => writesIn_validateDownloadedXdb ..
    exact TransferGateway.staysBounded_updateOne downloadKind hF hcheck _ database.path
  change StaysBounded downloadKind.maxSize F (update config)
  rw [update]
  split
  · exact .ret _
  · dsimp only
    split
    · exact .ret _
    · exact staysBounded_buildClient (staysBounded_runItems hone _)

end Ip2Region

/-- Whatever the servers send, however the disk fails and wherever a cycle is interrupted: the lists
and their temporary files are never made longer than 64 MiB, nor the databases and theirs than
512 MiB. -/
theorem cycles_within_limit [StdParse] [Xdb] :
    (∀ config : SecurityConfig,
      WithinLimit (64 * 1024 * 1024) Security.temporaryPath (Security.downloadMissing config) ∧
      WithinLimit (64 * 1024 * 1024) Security.temporaryPath (Security.update config)) ∧
    ∀ config : Ip2RegionConfig,
      WithinLimit (512 * 1024 * 1024) Ip2Region.temporaryPath
        (Ip2Region.downloadMissing config) ∧
      WithinLimit (512 * 1024 * 1024) Ip2Region.temporaryPath (Ip2Region.update config) := by
  constructor
  · intro config
    exact ⟨Security.withinLimit_downloadMissing config, Security.withinLimit_update config⟩
  · intro config
    exact ⟨Ip2Region.withinLimit_downloadMissing config, Ip2Region.withinLimit_update config⟩

/-- A first download of the Tor list dies behind its seventh operation: the list has arrived in the
temporary file, and nothing was flushed. -/
theorem cycles_within_limit_tor :
    letI := dottedParse
    let calm : Choice := { Choice.calm with response := .ok torResponse }
    let died := Prog.advance Sys.handle 7 (Security.downloadMissing torConfig)
      (fun _ => ⟨id, calm⟩) (torListDisk none)
    died.2.files (Security.temporaryPath torItem.path calm.uuid) =
        some (asBytes "203.0.113.8\n") ∧
      died.2.Bounded (64 * 1024 * 1024) Set.univ := by
  let _ := dottedParse
  let _ : Xdb := ⟨Unit, fun _ => none, fun _ _ => .ok ""⟩
  have hempty : (torListDisk none).Bounded (64 * 1024 * 1024) Set.univ := by
    intro q _ content hcontent
    simp [torListDisk] at hcontent
  refine ⟨by decide +kernel, ?_⟩
  exact (cycles_within_limit.1 torConfig).1 Set.univ (Set.subset_univ _) _ hempty _ _
    (Prog.reaches_advance 7 _ (fun _ => ⟨fun _ _ _ => rfl, trivial⟩) _)

end TransferGateway

import TransferGateway.Downloads

/-!
# What a download leaves beside its destination

A download has a temporary file of its own. Every procedure removes it on most of its exits, where
the removal of a file does not fail. A journal of the operations tells the exits that leave it
behind: an update whose comparison or replacement fails, and each publication of a list that does
not fail.
-/

namespace TransferGateway

/-! ### The journal of a temporary file -/

/-- The operations, where the removal of a file does not fail. -/
def Sys.removing : Handler SysOp Choice Sys := fun _ o c s =>
  match o with
  | .removeFile p => s.step (.removeFile p) { c with fault := none }
  | o             => s.step o c

/-- No other process touches the file, whose name has this number; anything else may happen. -/
def Sys.owning (temporary : Path) (uuid : Uuid) : Env Choice Sys where
  interferes s s' := s'.files temporary = s.files temporary
  admits c := c.uuid = uuid

/-- How an operation went that a destination depends on. -/
inductive Note where
  | other
  | failed
  | delivered (source : Delivery)
  | present
  | created

/-- An operation failed, or there is nothing to be said about it. -/
def Note.ofResult {α : Type} : Except IoError α → Note
  | .ok _    => .other
  | .error _ => .failed

def Note.ofRead : Except IoError Delivery → Note
  | .ok source => .delivered source
  | .error _   => .failed

def Note.ofCreation : Except IoError Unit → Note
  | .ok _        => .created
  | .error error => if error.kind = .alreadyExists then .present else .failed

/-- What is noted about an operation: on the destination, or on both files of an update. -/
def Note.about (destination : Path) (β : Type) (o : SysOp β) (c : Choice) (s : Sys) : Note :=
  match o with
  | .fileLen p => .ofResult (s.step (.fileLen p) c).1
  | .rename p q => .ofResult (s.step (.rename p q) c).1
  | .openRead p => .ofRead (s.step (.openRead p) c).1
  | .createNew p =>
    if p = destination then .ofCreation (s.step (.createNew p) c).1 else .other
  | .writeAll p bytes =>
    if p = destination then .ofResult (s.step (.writeAll p bytes) c).1 else .other
  | .flush p => if p = destination then .ofResult (s.step (.flush p) c).1 else .other
  | .syncAll p => if p = destination then .ofResult (s.step (.syncAll p) c).1 else .other
  | _ => .other

/-- The operations with the journal. -/
abbrev Sys.witnessing (destination : Path) : Handler SysOp Choice (Prog.Journal Sys Note) :=
  Prog.noting Sys.removing (Note.about destination)

/-- The others, who do not reach the journal. -/
abbrev Sys.owner (temporary : Path) (uuid : Uuid) : Env Choice (Prog.Journal Sys Note) :=
  Prog.unnoted (Sys.owning temporary uuid)

/-- A list was found at its destination, or copied to it. -/
def Published (notes : List Note) : Prop :=
  .present ∈ notes ∨ .created ∈ notes ∧ .failed ∉ notes ∧
    ∀ source, .delivered source ∈ notes → source.failure = none

/-- The deliveries of the opened files. -/
def deliveries (notes : List Note) : List Delivery :=
  notes.filterMap fun
    | .delivered source => some source
    | _ => none

/-- The two files could not be compared, or the new one did not take the place of the old one. -/
def Stuck (notes : List Note) : Prop :=
  .failed ∈ notes ∨ ∃ first second error, deliveries notes = [first, second] ∧
    compareReads first.failure second.failure first.chunks second.chunks = .error error

/-- No journal. -/
def Never (_ : List Note) : Prop := False

/-- The operations that fill a temporary file; the others are on no file, or only read it. -/
def SysOp.Fills {β : Type} (temporary : Path) : SysOp β → Prop
  | .createNew p | .writeAll p _ | .flush p | .syncAll p => p = temporary
  | .openRead _ | .fileLen _ | .removeFile _ | .rename _ _ | .openAppend _ => False
  | _ => True

/-- So far nothing has happened to the destination. -/
def Quiet (notes : List Note) : Prop := ∀ n ∈ notes, n = .other

section Steps

variable {temporary path : Path} {uuid : Uuid} {notes : List Note}

lemma Quiet.concat (h : Quiet notes) : Quiet (notes ++ [.other]) := by
  intro n hn
  obtain hn | hn := List.mem_append.mp hn
  · exact h n hn
  · exact List.mem_singleton.mp hn

lemma Quiet.notMem (h : Quiet notes) {n : Note} (hn : n ≠ .other) : n ∉ notes :=
  fun hmem => hn (h n hmem)

lemma Quiet.deliveries_eq (h : Quiet notes) : deliveries notes = [] := by
  rw [deliveries, List.filterMap_eq_nil_iff]
  intro n hn
  rw [h n hn]

lemma mem_deliveries {source : Delivery} :
    source ∈ deliveries notes ↔ .delivered source ∈ notes := by
  rw [deliveries, List.mem_filterMap]
  constructor
  · rintro ⟨n, hn, heq⟩
    cases n with
    | delivered source' =>
      cases heq
      exact hn
    | _ => cases heq
  · intro h
    exact ⟨_, h, rfl⟩

lemma note_of_fills {β : Type} {o : SysOp β} (h : o.Fills temporary) (hne : temporary ≠ path)
    (c : Choice) (s : Sys) : Note.about path β o c s = .other := by
  cases o <;> simp_all [SysOp.Fills, Note.about]

/-- Files that an operation does not write stay as they are. -/
lemma removing_files {β : Type} {o : SysOp β} {q : Path} (h : ¬o.writes q) (c : Choice) (s : Sys) :
    (Sys.removing β o c s).2.files q = s.files q := by
  cases o with
  | removeFile p => exact Sys.step_files h _ s
  | _ => exact Sys.step_files h c s

/-- An operation that fills the file does not remove it. -/
lemma present_of_fills {β : Type} {o : SysOp β} (h : o.Fills temporary) (c : Choice) {s : Sys}
    (hs : s.files temporary ≠ none) : (Sys.removing β o c s).2.files temporary ≠ none := by
  have hmodify : ∀ f : List UInt8 → List UInt8, (s.modify temporary f).files temporary ≠ none := by
    intro f
    rw [Sys.modify]
    split
    · simp
    · exact hs
  cases o with
  | createNew p | writeAll p bytes | flush p | syncAll p =>
    obtain rfl : p = temporary := h
    simp only [Sys.removing, Sys.step]
    split <;> first | exact hmodify _ | exact hs | simp
  | openRead _ | fileLen _ | removeFile _ | rename _ _ | openAppend _ => exact h.elim
  | _ =>
    rw [removing_files (by simp)]
    exact hs

/-- A file whose removal does not fail is not there afterwards. -/
lemma removing_removeFile (c : Choice) (s : Sys) :
    (Sys.removing _ (.removeFile temporary) c s).2.files temporary = none := by
  cases hfile : s.files temporary <;> simp [Sys.removing, Sys.step, hfile]

end Steps

/-! ### Filling the temporary file -/

section Fetch

variable {kind : DownloadKind} {check : Path → SysProg Unit} {temporary path : Path} {uuid : Uuid}
  {url : String} {ε α : Type} {t : Prog.Journal Sys Note}

/-- The program does nothing but fill the file. -/
def FillsOnly (temporary : Path) (p : Prog SysOp ε α) : Prop := p.All fun _ o => o.Fills temporary

lemma fillsOnly_createParent (noun : String) : FillsOnly temporary (createParent path noun) := by
  rw [createParent]
  split
  · exact .bind (by simp [SysOp.Fills]) fun _ => by simp
  · trivial

lemma fillsOnly_writeChunks (chunks : List (List UInt8)) (downloaded : ℕ) :
    FillsOnly temporary (writeChunks kind url temporary chunks downloaded) := by
  induction chunks generalizing downloaded with
  | nil => trivial
  | cons chunk chunks ih =>
    exact .bind (by simp [failIf]) fun _ => .bind (by simp [failIf]) fun _ =>
      .bind (by simp [SysOp.Fills]) fun _ => .bind (by simp) fun _ => ih _

/-- What the program does to a file that is there. -/
lemma FillsOnly.keeps {p : Prog SysOp ε α} (hp : FillsOnly temporary p) (hne : temporary ≠ path) :
    Prog.Keeps (Sys.witnessing path) (Sys.owner temporary uuid)
      (fun t => Quiet t.notes ∧ t.state.files temporary ≠ none) p := by
  refine .of_all hp (fun ht hI => ?_) fun o ho c _ t hI => ?_
  · exact ⟨ht.2 ▸ hI.1, fun h => hI.2 (ht.1.symm.trans h)⟩
  · refine ⟨?_, present_of_fills ho c hI.2⟩
    simp only [Prog.noting, note_of_fills ho hne]
    exact hI.1.concat

lemma FillsOnly.keeps_quiet {p : Prog SysOp ε α} (hp : FillsOnly temporary p)
    (hne : temporary ≠ path) :
    Prog.Keeps (Sys.witnessing path) (Sys.owner temporary uuid)
      (fun t => Quiet t.notes) p := by
  refine .of_all hp (fun ht hI => ht.2 ▸ hI) fun o ho c _ t hI => ?_
  simp only [Prog.noting, note_of_fills ho hne]
  exact hI.concat

/-- A program that does not write the file leaves it as it is. -/
lemma keeps_own {p : Prog SysOp ε α} {F : Set Path} (hp : WritesIn F p) (hF : temporary ∉ F)
    (content : Option (List UInt8)) :
    Prog.Keeps (Sys.witnessing path) (Sys.owner temporary uuid)
      (fun t => t.state.files temporary = content) p :=
  .of_all hp (fun ht hI => ht.1.trans hI)
    fun _ ho c _ t hI => (removing_files (fun h => hF (ho.1 _ h)) c t.state).trans hI

/-- One operation: what is noted about it, and what becomes of the file. -/
lemma wp_ask_witnessing {β : Type} {o : SysOp β} {f : β → Prog SysOp ε α}
    {Q : Except ε α → Prog.Journal Sys Note → Prop}
    (h : ∀ (s : Sys) (c : Choice), s.files temporary = t.state.files temporary → c.uuid = uuid →
      (f (Sys.removing β o c s).1).wp (Sys.witnessing path) (Sys.owner temporary uuid) Q
        ⟨(Sys.removing β o c s).2, t.notes ++ [Note.about path β o c s]⟩) :
    (ask o >>= f).wp (Sys.witnessing path) (Sys.owner temporary uuid) Q t := by
  rw [Prog.wp_bind, Prog.wp_perform]
  rintro ⟨s, notes⟩ ⟨hs, rfl⟩ c hc
  exact h s c hs hc

/-- A download that succeeds leaves a file, and none is noted. -/
lemma filled_downloadToTemp (hne : temporary ≠ path) (hquiet : Quiet t.notes) :
    (downloadToTemp kind url temporary).wp (Sys.witnessing path) (Sys.owner temporary uuid)
      (fun r t' => Quiet t'.notes ∧ ∀ u, r = .ok u → t'.state.files temporary ≠ none) t := by
  have herror : ∀ (e : String) (t' : Prog.Journal Sys Note), Quiet t'.notes →
      Quiet t'.notes ∧ ∀ u, (.error e : Except String Unit) = .ok u →
        t'.state.files temporary ≠ none := fun _ _ h => ⟨h, by simp⟩
  have hrest : ∀ (response : Response), FillsOnly temporary (do
      writeChunks kind url temporary response.chunks 0
      failIf response.failure.isSome s!"unable to read {kind.download} response"
      context (← ask (.flush temporary))
        s!"unable to flush {kind.temporaryFile} {temporary.display}"
      context (← ask (.syncAll temporary))
        s!"unable to sync {kind.temporaryFile} {temporary.display}" : SysProg Unit) := by
    intro response
    exact .bind (fillsOnly_writeChunks ..) fun _ => .bind (by simp [failIf]) fun _ =>
      .bind (by simp [SysOp.Fills]) fun _ => .bind (by simp) fun _ =>
      .bind (by simp [SysOp.Fills]) fun _ => by simp
  rw [downloadToTemp]
  refine (FillsOnly.keeps_quiet (by simp [FillsOnly, SysOp.Fills]) hne).seq hquiet herror
    fun r t₁ h₁ => (FillsOnly.keeps_quiet (by simp [FillsOnly]) hne).seq h₁ herror
    fun response t₂ h₂ => (FillsOnly.keeps_quiet (by simp [FillsOnly, failIf]) hne).seq h₂ herror
    fun _ t₃ h₃ => (FillsOnly.keeps_quiet (by simp [FillsOnly, failIf]) hne).seq h₃ herror
    fun _ t₄ h₄ => ?_
  apply wp_ask_witnessing
  intro s c hs _
  have hnote : Note.about path _ (.createNew temporary) c s = .other := by
    simp [Note.about, hne]
  rw [hnote, Prog.wp_bind, wp_context]
  cases hcreated : (Sys.removing _ (.createNew temporary) c s).1 with
  | error e => exact herror _ _ h₄.concat
  | ok u =>
    have hpresent := (step_createNew_ok hcreated).2.2
    apply Prog.wp_mono ((hrest response).keeps hne _ ⟨h₄.concat, ?_⟩)
    · intro r t' h'
      exact ⟨h'.1, fun _ _ => h'.2⟩
    · simp [Sys.removing, hpresent]

/-- The removal of the file, and the error. -/
lemma wp_removeAndFail_own {error : String} {Q : Except String α → Prog.Journal Sys Note → Prop}
    (h : ∀ t', t'.notes = t.notes ++ [.other] → t'.state.files temporary = none →
      Q (.error error) t') :
    (removeAndFail temporary error : SysProg α).wp (Sys.witnessing path)
      (Sys.owner temporary uuid) Q t := by
  apply wp_ask_witnessing
  intro s c _ _
  exact h _ rfl (removing_removeFile c s)

/-- A fetch leaves a file if and only if it succeeds. -/
lemma filled_fetch (hcheck : FillsOnly temporary (check temporary)) (hne : temporary ≠ path)
    (hquiet : Quiet t.notes) :
    (fetch kind check url temporary).wp (Sys.witnessing path) (Sys.owner temporary uuid)
      (fun r t' => Quiet t'.notes ∧ match r with
        | .ok _ => t'.state.files temporary ≠ none
        | .error _ => t'.state.files temporary = none) t := by
  have hfail : ∀ (error : String) (t' : Prog.Journal Sys Note), Quiet t'.notes →
      (removeAndFail temporary error : SysProg Unit).wp (Sys.witnessing path)
        (Sys.owner temporary uuid) (fun r t' => Quiet t'.notes ∧ match r with
          | .ok _ => t'.state.files temporary ≠ none
          | .error _ => t'.state.files temporary = none) t' := by
    intro error t' ht'
    apply wp_removeAndFail_own
    intro t'' hnotes hnone
    exact ⟨hnotes ▸ ht'.concat, hnone⟩
  rw [fetch, Prog.wp_bind, Prog.wp_attempt]
  apply Prog.wp_mono (filled_downloadToTemp hne hquiet)
  intro r t₁ h₁
  cases r with
  | error e => exact hfail e t₁ h₁.1
  | ok u =>
    dsimp only
    rw [Prog.wp_bind, Prog.wp_attempt]
    apply Prog.wp_mono (hcheck.keeps hne t₁ ⟨h₁.1, h₁.2 u rfl⟩)
    intro r t₂ h₂
    cases r with
    | error e => exact hfail e t₂ h₂.1
    | ok u => exact h₂

/-- The steps a download and an update start with: they end without a file, or what comes after
them finds it. -/
lemma wp_filled {temporaryPath : Path → Uuid → Path} {f : Uuid → SysProg Bool}
    {Q : Except String Bool → Prog.Journal Sys Note → Prop}
    (htemporary : temporary = temporaryPath path uuid)
    (hcheck : FillsOnly temporary (check temporary)) (hne : temporary ≠ path)
    (hquiet : Quiet t.notes) (hnone : t.state.files temporary = none)
    (herror : ∀ e t', Quiet t'.notes → t'.state.files temporary = none → Q (.error e) t')
    (hok : ∀ t', Quiet t'.notes → t'.state.files temporary ≠ none →
      (f uuid).wp (Sys.witnessing path) (Sys.owner temporary uuid) Q t') :
    (do
      createParent path kind.directory
      let uuid ← ask .newUuid
      fetch kind check url (temporaryPath path uuid)
      f uuid : SysProg Bool).wp (Sys.witnessing path) (Sys.owner temporary uuid) Q t := by
  have hparent : (createParent path kind.directory).wp (Sys.witnessing path)
      (Sys.owner temporary uuid)
      (fun _ t' => Quiet t'.notes ∧ t'.state.files temporary = none) t := by
    apply Prog.wp_and ((fillsOnly_createParent kind.directory).keeps_quiet hne t hquiet)
    exact keeps_own (writesIn_createParent ..) (by simp) none t hnone
  refine Prog.wp_seq hparent (fun _ t₁ h₁ => ?_) fun e t₁ h₁ => herror e t₁ h₁.1 h₁.2
  apply wp_ask_witnessing
  intro s c hs huuid
  have hdrawn : (Sys.removing _ .newUuid c s).1 = uuid := huuid
  rw [hdrawn, ← htemporary]
  apply Prog.wp_seq (filled_fetch hcheck hne h₁.1.concat)
  · intro _ t₂ h₂
    exact hok t₂ h₂.1 h₂.2
  · intro e t₂ h₂
    exact herror e t₂ h₂.1 h₂.2

end Fetch

/-! ### Updates -/

lemma not_stuck_of_quiet {notes : List Note} (h : Quiet notes) : ¬Stuck notes := by
  simp [Stuck, h.deliveries_eq, h.notMem]

lemma stuck_concat_other {notes : List Note} : Stuck (notes ++ [.other]) ↔ Stuck notes := by
  simp [Stuck, deliveries]

lemma stuck_concat_failed (notes : List Note) : Stuck (notes ++ [.failed]) := by
  simp [Stuck]

/-- A file that was renamed is not there any more. -/
lemma step_rename_source {p q : Path} {c : Choice} {s : Sys} (hne : p ≠ q)
    (h : (s.step (.rename p q) c).1 = .ok ()) : (s.step (.rename p q) c).2.files p = none := by
  revert h
  simp only [Sys.step]
  split <;> simp_all

section Update

variable {kind : DownloadKind} {check : Path → SysProg Unit} {temporary path : Path} {uuid : Uuid}
  {url : String} {α : Type} {t : Prog.Journal Sys Note}

/-- One operation and its `?`. -/
lemma wp_ask_propagate {β : Type} {o : SysOp (Except IoError β)} {f : β → SysProg α}
    {Q : Except String α → Prog.Journal Sys Note → Prop} (note : Except IoError β → Note)
    (hnote : ∀ c s, Note.about path _ o c s = note (Sys.removing _ o c s).1)
    (ho : ¬o.writes temporary)
    (herror : ∀ e t', t'.notes = t.notes ++ [note (.error e)] →
      t'.state.files temporary = t.state.files temporary → Q (.error e.message) t')
    (hok : ∀ b t', t'.notes = t.notes ++ [note (.ok b)] →
      t'.state.files temporary = t.state.files temporary →
      (f b).wp (Sys.witnessing path) (Sys.owner temporary uuid) Q t') :
    (ask o >>= fun r => propagate r >>= f).wp (Sys.witnessing path)
      (Sys.owner temporary uuid) Q t := by
  apply wp_ask_witnessing
  intro s c hs _
  have hfile := (removing_files ho c s).trans hs
  rw [Prog.wp_bind, wp_propagate, hnote]
  cases hr : (Sys.removing _ o c s).1 with
  | error e => exact herror e _ rfl hfile
  | ok b => exact hok b _ rfl hfile

/-- The comparison tells whether it fails, and leaves the file. -/
lemma filled_isUnchanged (hquiet : Quiet t.notes) (hpresent : t.state.files temporary ≠ none) :
    (isUnchanged temporary path).wp (Sys.witnessing path) (Sys.owner temporary uuid)
      (fun r t' => t'.state.files temporary ≠ none ∧ match r with
        | .ok _ => ¬Stuck t'.notes
        | .error _ => Stuck t'.notes) t := by
  have hfailed : ∀ {notes : List Note} {t' : Prog.Journal Sys Note},
      t'.notes = notes ++ [.failed] → Stuck t'.notes := fun h => h ▸ stuck_concat_failed _
  apply wp_ask_witnessing
  intro s c hs _
  have h₀ : Quiet (t.notes ++ [.other]) := hquiet.concat
  have hpresent₀ : (Sys.removing _ (.pathExists path) c s).2.files temporary ≠ none := by
    rw [removing_files (by simp), hs]
    exact hpresent
  split
  · rw [filesEqual]
    apply wp_ask_propagate .ofResult (fun _ _ => rfl) (by simp)
    · exact fun e t₁ hnotes hfile => ⟨hfile ▸ hpresent₀, hfailed hnotes⟩
    intro firstLength t₁ hnotes₁ hfile₁
    have h₁ : Quiet t₁.notes := hnotes₁ ▸ h₀.concat
    apply wp_ask_propagate .ofResult (fun _ _ => rfl) (by simp)
    · exact fun e t₂ hnotes hfile => ⟨hfile ▸ hfile₁ ▸ hpresent₀, hfailed hnotes⟩
    intro secondLength t₂ hnotes₂ hfile₂
    have h₂ : Quiet t₂.notes := hnotes₂ ▸ h₁.concat
    have hpresent₂ : t₂.state.files temporary ≠ none := by
      rw [hfile₂, hfile₁]
      exact hpresent₀
    split
    · exact ⟨hpresent₂, not_stuck_of_quiet h₂⟩
    apply wp_ask_propagate .ofRead (fun _ _ => rfl) (by simp)
    · exact fun e t₃ hnotes hfile => ⟨hfile ▸ hpresent₂, hfailed hnotes⟩
    intro first t₃ hnotes₃ hfile₃
    apply wp_ask_propagate .ofRead (fun _ _ => rfl) (by simp)
    · exact fun e t₄ hnotes hfile => ⟨hfile ▸ hfile₃ ▸ hpresent₂, hfailed hnotes⟩
    intro second t₄ hnotes₄ hfile₄
    rw [wp_propagate]
    refine ⟨hfile₄ ▸ hfile₃ ▸ hpresent₂, ?_⟩
    -- both files were read
    have hnotes : t₄.notes = t₂.notes ++ [.delivered first, .delivered second] := by
      simp [hnotes₄, hnotes₃, Note.ofRead]
    have hdeliveries : deliveries t₄.notes = [first, second] := by
      rw [hnotes, deliveries, List.filterMap_append, ← deliveries, h₂.deliveries_eq]
      rfl
    have hfailed : .failed ∉ t₄.notes := by
      simp [hnotes, h₂.notMem]
    cases hcompare : compareReads first.failure second.failure first.chunks second.chunks with
    | error e => exact .inr ⟨first, second, e, hdeliveries, hcompare⟩
    | ok equal =>
      rintro (hmem | ⟨first', second', e, heq, hcompare'⟩)
      · exact hfailed hmem
      · rw [hdeliveries] at heq
        cases heq
        rw [hcompare] at hcompare'
        cases hcompare'
  · exact ⟨hpresent₀, not_stuck_of_quiet h₀⟩

/-- An update leaves its temporary file if and only if the comparison or the replacement fails. -/
lemma leftover_updateOne {temporaryPath : Path → Uuid → Path}
    (htemporary : temporary = temporaryPath path uuid)
    (hcheck : FillsOnly temporary (check temporary)) (hne : temporary ≠ path)
    (hquiet : Quiet t.notes) (hnone : t.state.files temporary = none) :
    (updateOne kind check temporaryPath url path).wp (Sys.witnessing path)
      (Sys.owner temporary uuid)
      (fun _ t' => t'.state.files temporary = none ↔ ¬Stuck t'.notes) t := by
  rw [updateOne]
  apply wp_filled htemporary hcheck hne hquiet hnone
  · intro e t₁ h₁ hnone₁
    exact iff_of_true hnone₁ (not_stuck_of_quiet h₁)
  intro t₁ h₁ hpresent₁
  rw [← htemporary]
  apply Prog.wp_seq (filled_isUnchanged h₁ hpresent₁)
  · intro unchanged t₂ h₂
    split
    · apply wp_ask_witnessing
      intro s c hs _
      have hnotStuck : ¬Stuck (t₂.notes ++ [.other]) := by
        rw [stuck_concat_other]
        exact h₂.2
      rw [Prog.wp_bind, wp_context]
      have hremoved : (Sys.removing _ (.removeFile temporary) c s).2.files temporary = none :=
        removing_removeFile c s
      split <;> exact iff_of_true hremoved hnotStuck
    · rw [replaceDownload, bind_assoc]
      apply wp_ask_witnessing
      intro s c hs _
      rw [Prog.wp_bind, wp_context]
      have hnote : Note.about path _ (.rename temporary path) c s =
          .ofResult (Sys.removing _ (.rename temporary path) c s).1 := rfl
      cases hr : (Sys.removing _ (.rename temporary path) c s).1 with
      | error e =>
        rw [hnote, hr]
        have hstate : (Sys.removing _ (.rename temporary path) c s).2 = s :=
          Sys.step_rename_error hr
        refine iff_of_false ?_ (not_not.mpr (stuck_concat_failed _))
        rw [hstate]
        exact fun h => h₂.1 (hs.symm.trans h)
      | ok u =>
        rw [hnote, hr]
        refine iff_of_true (step_rename_source hne hr) ?_
        rw [Note.ofResult, stuck_concat_other]
        exact h₂.2
  · intro e t₂ h₂
    exact iff_of_false h₂.1 (not_not.mpr h₂.2)

end Update

/-! ### Downloads -/

section Download

variable {kind : DownloadKind} {check : Path → SysProg Unit} {publish : Path → Path → SysProg Bool}
  {temporary path : Path} {uuid : Uuid} {url : String} {t : Prog.Journal Sys Note}

/-- A download leaves its file if and only if its publication does and does not fail. -/
lemma leftover_downloadOne {temporaryPath : Path → Uuid → Path} {Leaks : List Note → Prop}
    (htemporary : temporary = temporaryPath path uuid)
    (hcheck : FillsOnly temporary (check temporary)) (hne : temporary ≠ path)
    (hleaks : ∀ notes, Quiet notes → ¬Leaks notes)
    (hconcat : ∀ notes, Leaks (notes ++ [.other]) ↔ Leaks notes)
    (hpublish : ∀ t', Quiet t'.notes → t'.state.files temporary ≠ none →
      (publish temporary path).wp (Sys.witnessing path) (Sys.owner temporary uuid)
        (fun r t'' => match r with
          | .ok _ => t''.state.files temporary = none ↔ ¬Leaks t''.notes
          | .error _ => ¬Leaks t''.notes) t')
    (hquiet : Quiet t.notes) (hnone : t.state.files temporary = none) :
    (downloadOne kind check publish temporaryPath url path).wp (Sys.witnessing path)
      (Sys.owner temporary uuid)
      (fun _ t' => t'.state.files temporary = none ↔ ¬Leaks t'.notes) t := by
  apply wp_ask_witnessing
  intro s c hs _
  have h₀ : Quiet (t.notes ++ [.other]) := hquiet.concat
  have hnone₀ : (Sys.removing _ (.pathExists path) c s).2.files temporary = none := by
    rw [removing_files (by simp), hs, hnone]
  split
  · exact iff_of_true hnone₀ (hleaks _ h₀)
  · apply wp_filled htemporary hcheck hne h₀ hnone₀
    · intro e t₁ h₁ hnone₁
      exact iff_of_true hnone₁ (hleaks _ h₁)
    intro t₁ h₁ hpresent₁
    rw [← htemporary, Prog.wp_bind, Prog.wp_attempt]
    apply Prog.wp_mono (hpublish t₁ h₁ hpresent₁)
    intro r t₂ h₂
    cases r with
    | ok published => exact h₂
    | error e =>
      apply wp_removeAndFail_own
      intro t₃ hnotes hnone₃
      refine iff_of_true hnone₃ ?_
      rw [hnotes, hconcat]
      exact h₂

/-- A database's publication removes the file, unless it fails. -/
lemma Ip2Region.published_removes :
    (Ip2Region.publishDownload temporary path).wp (Sys.witnessing path)
      (Sys.owner temporary uuid)
      (Prog.onOk fun _ t' => t'.state.files temporary = none) t := by
  apply wp_ask_witnessing
  intro s c _ _
  split
  · split
    · apply wp_ask_witnessing
      intro s₁ c₁ _ _
      exact removing_removeFile c₁ s₁
    · trivial
  · have hfail : ∀ (error : String) (t' : Prog.Journal Sys Note),
        (removeAndFail path error : SysProg Bool).wp (Sys.witnessing path)
          (Sys.owner temporary uuid)
          (Prog.onOk fun _ t' => t'.state.files temporary = none) t' :=
      fun _ t' => Prog.wp_seq_onOk (Prog.wp_onOk_true _ t') fun _ _ _ => trivial
    apply Prog.wp_seq_onOk (Prog.wp_onOk_true _ _)
    intro source t₁ _
    split
    · exact hfail _ t₁
    apply Prog.wp_seq_onOk (Prog.wp_onOk_true _ _)
    intro copied t₂ _
    split
    · exact hfail _ t₂
    apply Prog.wp_seq_onOk (Prog.wp_onOk_true _ _)
    intro synced t₃ _
    split
    · exact hfail _ t₃
    apply wp_ask_witnessing
    intro s₄ c₄ _ _
    rw [Prog.wp_bind, wp_context]
    cases hr : (Sys.removing _ (.removeFile temporary) c₄ s₄).1 with
    | error e => trivial
    | ok u => exact removing_removeFile c₄ s₄

/-- A copy to the destination is under way. -/
structure Copying (temporary : Path) (source : Delivery) (t : Prog.Journal Sys Note) : Prop where
  file : t.state.files temporary ≠ none
  present : .present ∉ t.notes
  created : .created ∈ t.notes
  delivered : deliveries t.notes = [source]

/-- The copy has ended: well, or with an operation or a read that failed. -/
def CopyEnds (temporary : Path) (source : Delivery) (r : Except IoError Unit)
    (t : Prog.Journal Sys Note) : Prop :=
  Copying temporary source t ∧ match r with
    | .ok _ => .failed ∉ t.notes ∧ source.failure = none
    | .error _ => .failed ∈ t.notes ∨ source.failure ≠ none

section Copy

variable {source : Delivery} {f : Unit → Prog SysOp IoError Unit}

lemma Copying.concat {notes : List Note} {s : Sys} {n : Note}
    (h : Copying temporary source t) (hfile : s.files temporary = t.state.files temporary)
    (hnotes : notes = t.notes ++ [n]) (hn : n = .other ∨ n = .failed) :
    Copying temporary source ⟨s, notes⟩ := by
  subst hnotes
  refine ⟨fun hnone => h.file (hfile.symm.trans hnone), ?_, by simp [h.created], ?_⟩
  · obtain rfl | rfl := hn <;> simp [h.present]
  · have hdelivered := h.delivered
    rw [deliveries] at hdelivered ⊢
    obtain rfl | rfl := hn <;> simp [hdelivered]

/-- One operation of a copy. -/
lemma wp_ask_copying {o : SysOp (Except IoError Unit)} (ho : ¬o.writes temporary)
    (hnote : ∀ c s, Note.about path _ o c s = .ofResult (Sys.removing _ o c s).1)
    (h : Copying temporary source t) (hgood : .failed ∉ t.notes)
    (hnext : ∀ t', Copying temporary source t' → .failed ∉ t'.notes →
      (f ()).wp (Sys.witnessing path) (Sys.owner temporary uuid) (CopyEnds temporary source) t') :
    (ask o >>= fun r => Prog.ofExcept r >>= f).wp (Sys.witnessing path)
      (Sys.owner temporary uuid) (CopyEnds temporary source) t := by
  apply wp_ask_witnessing
  intro s c hs _
  have hfile := (removing_files ho c s).trans hs
  rw [Prog.wp_bind, Prog.wp_ofExcept, hnote]
  cases hr : (Sys.removing _ o c s).1 with
  | error e => exact ⟨h.concat hfile rfl (.inr rfl), .inl (by simp [Note.ofResult])⟩
  | ok u =>
    apply hnext _ (h.concat hfile rfl (.inl rfl))
    simpa [Note.ofResult] using hgood

lemma wp_copyChunks_copying (hne : temporary ≠ path) (chunks : List (List UInt8))
    (h : Copying temporary source t) (hgood : .failed ∉ t.notes)
    (hnext : ∀ t', Copying temporary source t' → .failed ∉ t'.notes →
      (f ()).wp (Sys.witnessing path) (Sys.owner temporary uuid) (CopyEnds temporary source) t') :
    (copyChunks path chunks >>= f).wp (Sys.witnessing path) (Sys.owner temporary uuid)
      (CopyEnds temporary source) t := by
  induction chunks generalizing t with
  | nil => exact hnext t h hgood
  | cons chunk chunks ih =>
    simp only [copyChunks, bind_assoc]
    apply wp_ask_copying (by simpa using hne) (fun _ _ => by simp [Note.about, Sys.removing])
      h hgood
    intro t₁ h₁ hgood₁
    exact ih h₁ hgood₁

/-- The copy of a list, written out to the disk. -/
lemma wp_copy_copying (hne : temporary ≠ path) (h : Copying temporary source t)
    (hgood : .failed ∉ t.notes) :
    (do
      copy source path
      .ofExcept (← ask (.flush path))
      .ofExcept (← ask (.syncAll path)) : Prog SysOp IoError Unit).wp (Sys.witnessing path)
      (Sys.owner temporary uuid) (CopyEnds temporary source) t := by
  simp only [copy, bind_assoc]
  apply wp_copyChunks_copying hne _ h hgood
  intro t₁ h₁ hgood₁
  cases hfailure : source.failure with
  | some e => exact ⟨h₁, .inr (by simp [hfailure])⟩
  | none =>
    simp only [bind_assoc]
    apply wp_ask_copying (by simpa using hne) (fun _ _ => by simp [Note.about, Sys.removing])
      h₁ hgood₁
    intro t₂ h₂ hgood₂
    apply wp_ask_copying (by simpa using hne) (fun _ _ => by simp [Note.about, Sys.removing])
      h₂ hgood₂
    intro t₃ h₃ hgood₃
    rw [← bind_pure (ask (.syncAll path) >>= fun r => Prog.ofExcept r)]
    simp only [bind_assoc]
    apply wp_ask_copying (by simpa using hne) (fun _ _ => by simp [Note.about, Sys.removing])
      h₃ hgood₃
    exact fun t₄ h₄ hgood₄ => ⟨h₄, hgood₄, hfailure⟩

end Copy

lemma not_published {notes : List Note} (hpresent : .present ∉ notes)
    (hcreated : .created ∉ notes) : ¬Published notes := by
  rintro (h | h)
  · exact hpresent h
  · exact hcreated h.1

lemma published_concat_other {notes : List Note} :
    Published (notes ++ [.other]) ↔ Published notes := by
  simp [Published]

/-- A list's publication leaves the file unless it fails, and the journal tells. -/
lemma Security.published_leaves (hne : temporary ≠ path) (hquiet : Quiet t.notes)
    (hfile : t.state.files temporary ≠ none) :
    (Security.publishDownload temporary path).wp (Sys.witnessing path)
      (Sys.owner temporary uuid)
      (fun r t' => match r with
        | .ok _ => t'.state.files temporary = none ↔ ¬Published t'.notes
        | .error _ => ¬Published t'.notes) t := by
  have hpresent : .present ∉ t.notes := hquiet.notMem (by simp)
  have hcreated : .created ∉ t.notes := hquiet.notMem (by simp)
  apply wp_ask_witnessing
  intro s c hs _
  have hfile₁ : (Sys.removing _ (.openRead temporary) c s).2.files temporary ≠ none := by
    rw [removing_files (by simp), hs]
    exact hfile
  have hnote : Note.about path _ (.openRead temporary) c s =
      .ofRead (Sys.removing _ (.openRead temporary) c s).1 := rfl
  rw [Prog.wp_bind, wp_context, hnote]
  cases (Sys.removing _ (.openRead temporary) c s).1 with
  | error e =>
    apply not_published
    · simp [hpresent, Note.ofRead]
    · simp [hcreated, Note.ofRead]
  | ok source =>
    apply wp_ask_witnessing
    intro s₂ c₂ hs₂ _
    have hfile₂ : (Sys.removing _ (.createNew path) c₂ s₂).2.files temporary ≠ none := by
      rw [removing_files (by simpa using hne), hs₂]
      exact hfile₁
    have hnote₂ : Note.about path _ (.createNew path) c₂ s₂ =
        .ofCreation (Sys.removing _ (.createNew path) c₂ s₂).1 := by
      simp [Note.about, Sys.removing]
    rw [hnote₂]
    cases (Sys.removing _ (.createNew path) c₂ s₂).1 with
    | error e =>
      dsimp only
      split
      next hkind =>
        refine iff_of_false hfile₂ (not_not.mpr (.inl ?_))
        simp [Note.ofCreation, hkind]
      next hkind =>
        apply not_published
        · simp [hpresent, Note.ofRead, Note.ofCreation, hkind]
        · simp [hcreated, Note.ofRead, Note.ofCreation, hkind]
    | ok u =>
      dsimp only
      rw [Prog.wp_bind, Prog.wp_attempt]
      have hcopying : Copying temporary source ⟨(Sys.removing _ (.createNew path) c₂ s₂).2,
          t.notes ++ [.delivered source] ++ [.created]⟩ := by
        refine ⟨hfile₂, by simp [hpresent], by simp, ?_⟩
        have hnone := hquiet.deliveries_eq
        rw [deliveries] at hnone ⊢
        simp [hnone]
      apply Prog.wp_mono (wp_copy_copying hne hcopying (by simp [hquiet.notMem]))
      intro r t₃ h₃
      obtain ⟨hcopying₃, hend⟩ := h₃
      have hdelivered : ∀ d, .delivered d ∈ t₃.notes ↔ d = source := by
        intro d
        rw [← mem_deliveries, hcopying₃.delivered, List.mem_singleton]
      cases r with
      | ok u =>
        refine iff_of_false hcopying₃.file (not_not.mpr (.inr ⟨hcopying₃.created, hend.1, ?_⟩))
        intro d hd
        rw [(hdelivered d).mp hd]
        exact hend.2
      | error e =>
        apply wp_ask_witnessing
        intro s₄ c₄ _ _
        change ¬Published (t₃.notes ++ [.other])
        rw [published_concat_other]
        rintro (h | ⟨-, hgood, hwhole⟩)
        · exact hcopying₃.present h
        · obtain hfailed | hbroken := hend
          · exact hgood hfailed
          · exact hbroken (hwhole source ((hdelivered source).mpr rfl))

end Download

/-! ### The lists and the databases -/

lemma Security.fillsOnly_validateListFile [StdParse] (temporary path : Path) (kind : String)
    (format : ListFormat) : FillsOnly temporary (validateListFile path kind format) := by
  rw [validateListFile]
  exact .bind (by simp [SysOp.Fills]) fun _ => .bind (by simp) fun _ => .bind (by simp) fun _ => by
    simp [failIf]

lemma Ip2Region.fillsOnly_validateDownloadedXdb [Xdb] (temporary path : Path) (version : Version) :
    FillsOnly temporary (validateDownloadedXdb path version) := by
  rw [validateDownloadedXdb]
  refine .bind (by simp [SysOp.Fills]) fun _ => .bind (by simp) fun bytes => ?_
  split
  · trivial
  · split <;> trivial

/-- The temporary file, which was not there and which nobody else touches, is gone at the end unless
the journal tells that it leaks. -/
def RemovedUnless (Leaks : List Note → Prop) (temporaryPath : Path → Uuid → Path) (path : Path)
    (one : SysProg Bool) : Prop :=
  ∀ (uuid : Uuid) (s : Sys), s.files (temporaryPath path uuid) = none →
    one.wp (Sys.witnessing path) (Sys.owner (temporaryPath path uuid) uuid)
      (fun _ t => t.state.files (temporaryPath path uuid) = none ↔ ¬Leaks t.notes) ⟨s, []⟩

lemma removedUnless_downloadOne {kind : DownloadKind} {check : Path → SysProg Unit}
    {publish : Path → Path → SysProg Bool} {temporaryPath : Path → Uuid → Path} {url : String}
    {path : Path} {Leaks : List Note → Prop} (hcheck : ∀ p, FillsOnly p (check p))
    (hne : ∀ uuid, temporaryPath path uuid ≠ path) (hleaks : ∀ notes, Quiet notes → ¬Leaks notes)
    (hconcat : ∀ notes, Leaks (notes ++ [.other]) ↔ Leaks notes)
    (hpublish : ∀ uuid t, Quiet t.notes → t.state.files (temporaryPath path uuid) ≠ none →
      (publish (temporaryPath path uuid) path).wp (Sys.witnessing path)
        (Sys.owner (temporaryPath path uuid) uuid)
        (fun r t' => match r with
          | .ok _ => t'.state.files (temporaryPath path uuid) = none ↔ ¬Leaks t'.notes
          | .error _ => ¬Leaks t'.notes) t) :
    RemovedUnless Leaks temporaryPath path
      (downloadOne kind check publish temporaryPath url path) :=
  fun uuid _ hnone => leftover_downloadOne rfl (hcheck _) (hne uuid) hleaks hconcat (hpublish uuid)
    (by simp [Quiet]) hnone

lemma removedUnless_updateOne {kind : DownloadKind} {check : Path → SysProg Unit}
    {temporaryPath : Path → Uuid → Path} {url : String} {path : Path}
    (hcheck : ∀ p, FillsOnly p (check p)) (hne : ∀ uuid, temporaryPath path uuid ≠ path) :
    RemovedUnless Stuck temporaryPath path (updateOne kind check temporaryPath url path) :=
  fun uuid _ hnone => leftover_updateOne rfl (hcheck _) (hne uuid) (by simp [Quiet]) hnone

/-- Whatever the server sends and whatever fails, where the removal of a file does not, an update
leaves its temporary file if and only if the comparison or the replacement fails, the download of a
list when its publication does not fail, and the one of a database never. -/
theorem temporary_removed_iff [StdParse] [Xdb] :
    (∀ item : Security.DownloadItem,
      RemovedUnless Published Security.temporaryPath item.path (Security.downloadOne item) ∧
      RemovedUnless Stuck Security.temporaryPath item.path (Security.updateOne item)) ∧
    ∀ (baseUrl : String) (database : Ip2Region.Database),
      RemovedUnless Never Ip2Region.temporaryPath database.path
        (Ip2Region.downloadOne baseUrl database) ∧
      RemovedUnless Stuck Ip2Region.temporaryPath database.path
        (Ip2Region.updateOne baseUrl database) := by
  refine ⟨fun item => ⟨?_, ?_⟩, fun baseUrl database => ⟨?_, ?_⟩⟩
  · apply removedUnless_downloadOne (fun _ => Security.fillsOnly_validateListFile ..)
      (Security.temporaryPath_ne _)
    · intro notes hquiet
      exact not_published (hquiet.notMem (by simp)) (hquiet.notMem (by simp))
    · intro notes
      exact published_concat_other
    · intro uuid t hquiet hfile
      exact Security.published_leaves (Security.temporaryPath_ne _ uuid) hquiet hfile
  · exact removedUnless_updateOne (fun _ => Security.fillsOnly_validateListFile ..)
      (Security.temporaryPath_ne _)
  · apply removedUnless_downloadOne (fun _ => Ip2Region.fillsOnly_validateDownloadedXdb ..)
      (Ip2Region.temporaryPath_ne _)
    · exact fun _ _ => id
    · exact fun _ => Iff.rfl
    · intro uuid t _ _
      apply Prog.wp_mono Ip2Region.published_removes
      intro r t' hr
      cases r with
      | ok _ => exact iff_of_true hr id
      | error e => exact id
  · exact removedUnless_updateOne (fun _ => Ip2Region.fillsOnly_validateDownloadedXdb ..)
      (Ip2Region.temporaryPath_ne _)

/-- The list of one Tor exit is downloaded, and nothing fails. Then it is updated, and only the
replacement fails: the ninth operation. -/
theorem temporary_list_left :
    letI := dottedParse
    let calm : Choice := { Choice.calm with response := .ok torResponse }
    let temporary := Security.temporaryPath torItem.path calm.uuid
    let downloaded := (Security.downloadOne torItem).run Sys.handle (fun _ => ⟨id, calm⟩)
      (torListDisk none)
    let updated := (Security.updateOne torItem).run Sys.handle
      (fun n => ⟨id, { calm with fault := if n = 8 then some notFound else none }⟩)
      (torListDisk none)
    downloaded.1 = .ok true ∧
      downloaded.2.files temporary = some (asBytes "203.0.113.8\n") ∧
      updated.1.isOk = false ∧ updated.2.files temporary = some (asBytes "203.0.113.8\n") := by
  decide +kernel

end TransferGateway

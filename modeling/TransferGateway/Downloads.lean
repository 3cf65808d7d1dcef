import TransferGateway.Ip2region.Update
import TransferGateway.Security.Update

/-!
# What a download leaves at its destination

A journal of the operations shows what is at the destination at every moment, so also what is left
when the process dies in between. An update replaces the destination at once. The first download
creates it, copies into it, and removes it again when that fails.
-/

namespace TransferGateway

/-! ### The journal of a destination -/

/-- The destination after an operation. -/
structure Mark where
  content : Option (List UInt8)
  /-- The operation has created it. -/
  creates : Bool
  /-- The operation should have removed it and failed. -/
  failsToRemove : Bool

/-- What is noted about an operation. -/
def mark (destination : Path) (β : Type) (o : SysOp β) (c : Choice) (s : Sys) : Mark where
  content := (s.step o c).2.files destination
  creates := match o with
    | .createNew p => decide (p = destination) && c.fault.isNone && (s.files p).isNone
    | _ => false
  failsToRemove := match o with
    | .removeFile p => decide (p = destination) && c.fault.isSome
    | _ => false

/-- The operations, with the journal of a destination. -/
abbrev Sys.marking (destination : Path) : Handler SysOp Choice (Prog.Journal Sys Mark) :=
  Prog.noting Sys.handle (mark destination)

/-- No other process touches the files of `F`, the server answers with `response`, and any step
may fail. -/
def Sys.quiet (F : Set Path) (response : Except IoError Response) : Env Choice Sys where
  interferes s s' := ∀ q ∈ F, s'.files q = s.files q
  admits c := c.response = response

/-- A mark of an operation that has nothing to do with the destination. -/
lemma mark_of_not_writes {destination : Path} {β : Type} {o : SysOp β}
    (h : ¬o.writes destination) (c : Choice) (s : Sys) :
    mark destination β o c s = ⟨s.files destination, false, false⟩ := by
  have hcontent := Sys.step_files h c s
  cases o <;> simp_all [mark, eq_comm]

section Quiet

variable {F : Set Path} {response : Except IoError Response} {q : Path} {ε α : Type}
  {p : Prog SysOp ε α}

/-- Files that a program does not write stay as they are. -/
lemma WritesIn.keeps_quiet {G : Set Path} (hp : WritesIn G p) (hq : q ∈ F) (hG : q ∉ G)
    (content : Option (List UInt8)) :
    Prog.Keeps Sys.handle (Sys.quiet F response) (fun s => s.files q = content) p :=
  .of_all hp (fun ht hI => (ht q hq).trans hI)
    fun _ ho c _ t hI => (Sys.step_files (fun h => hG (ho.1 q h)) c t).trans hI

/-- A program that does not write the destination does nothing to it. -/
lemma WritesIn.keeps_marks {G : Set Path} {N : Mark → Prop} (hp : WritesIn G p) (hq : q ∈ F)
    (hG : q ∉ G) {content : Option (List UInt8)} (hN : N ⟨content, false, false⟩) :
    Prog.Keeps (Sys.marking q) (Prog.unnoted (Sys.quiet F response))
      (fun t => t.state.files q = content ∧ ∀ m ∈ t.notes, N m) p := by
  refine Prog.keeps_noting (I := fun s : Sys => s.files q = content) hp
    (fun ht hI => (ht q hq).trans hI) fun o ho c _ s hI => ?_
  have hwrites : ¬o.writes q := fun h => hG (ho.1 q h)
  refine ⟨(Sys.step_files hwrites c s).trans hI, ?_⟩
  rw [mark_of_not_writes hwrites, hI]
  exact hN

end Quiet

/-! ### The temporary file -/

/-- The bytes of a response that came to its end, within the limit, and passed the check. -/
def IsDownload (kind : DownloadKind) (Valid : List UInt8 → Prop)
    (response : Except IoError Response) (body : List UInt8) : Prop :=
  ∃ r, response = .ok r ∧ r.isSuccess = true ∧ r.failure = none ∧ r.chunks.flatten = body ∧
    body.length ≤ kind.maxSize ∧ Valid body

section Steps

variable {q : Path} {c : Choice} {s : Sys} {u : List UInt8}

lemma step_createNew_ok (h : (s.step (.createNew q) c).1 = .ok ()) :
    c.fault = none ∧ s.files q = none ∧ (s.step (.createNew q) c).2.files q = some [] := by
  revert h
  simp only [Sys.step]
  split <;> simp_all

lemma step_createNew_error {e : IoError} (h : (s.step (.createNew q) c).1 = .error e) :
    (c.fault = none → s.files q ≠ none) ∧ (s.step (.createNew q) c).2 = s := by
  revert h
  simp only [Sys.step]
  split <;> simp_all

lemma step_rename_ok {p : Path} (hne : p ≠ q) (h : (s.step (.rename p q) c).1 = .ok ())
    (hp : s.files p = some u) : (s.step (.rename p q) c).2.files q = some u := by
  revert h
  simp only [Sys.step, hp]
  split <;> simp_all

/-- An operation that appends to an opened file; a failing one may leave less. -/
def Appends (o : SysOp (Except IoError Unit)) (q : Path) (bytes : List UInt8) : Prop :=
  ∀ (c : Choice) (s : Sys) (u : List UInt8), s.files q = some u →
    ∃ v, (s.step o c).2.files q = some v ∧ v <+: u ++ bytes ∧
      ((s.step o c).1 = .ok () → v = u ++ bytes)

lemma appends_writeAll (q : Path) (bytes : List UInt8) : Appends (.writeAll q bytes) q bytes := by
  intro c s u hu
  cases hfault : c.fault with
  | some e =>
    exact ⟨u ++ bytes.take c.stored, by simp [Sys.step, Sys.modify, hfault, hu],
      (List.prefix_append_right_inj u).mpr (List.take_prefix ..), by simp [Sys.step, hfault]⟩
  | none => exact ⟨u ++ bytes, by simp [Sys.step, Sys.modify, hfault, hu], List.prefix_rfl,
      fun _ => rfl⟩

lemma appends_flush (q : Path) : Appends (.flush q) q [] := by
  intro c s u hu
  rw [List.append_nil]
  cases hfault : c.fault with
  | some e => exact ⟨u.take c.stored, by simp [Sys.step, Sys.modify, hfault, hu],
      List.take_prefix .., by simp [Sys.step, hfault]⟩
  | none => exact ⟨u, by simp [Sys.step, hfault, hu], List.prefix_rfl, fun _ => rfl⟩

lemma appends_syncAll (q : Path) : Appends (.syncAll q) q [] := by
  intro c s u hu
  obtain ⟨v, hv, hpre, hok⟩ := appends_flush q c s u hu
  exact ⟨v, hv, hpre, hok⟩

/-- An opened file delivers its bytes, and all of them unless a read fails. -/
lemma step_openRead_ok {d : Delivery} (h : (s.step (.openRead q) c).1 = .ok d) :
    ∃ bytes, s.files q = some bytes ∧ d.chunks.flatten <+: bytes ∧
      (d.failure = none → d.chunks.flatten = bytes) := by
  revert h
  cases hfault : c.fault with
  | some e => simp [Sys.step, hfault]
  | none =>
    cases hfile : s.files q with
    | none => simp [Sys.step, hfault, hfile]
    | some bytes =>
      have hall := pieces_flatten bytes.length c.sizes bytes le_rfl
      cases hbroken : c.broken with
      | none =>
        simp only [Sys.step, hfault, hfile, hbroken]
        rintro ⟨⟩
        exact ⟨bytes, rfl, by rw [hall], fun _ => hall⟩
      | some broken =>
        simp only [Sys.step, hfault, hfile, hbroken]
        rintro ⟨⟩
        refine ⟨bytes, rfl, ?_, by simp⟩
        conv_rhs => rw [← hall]
        exact ((List.take_prefix ..).flatten)

end Steps

section Fetch

variable {F : Set Path} {response : Except IoError Response} {temporary : Path}

/-- One step of a download: an operation, and an error with a context. -/
lemma wp_ask_context {α β : Type} {o : SysOp (Except IoError β)} {message : String}
    {f : β → SysProg α} {Q : α → Sys → Prop} {s : Sys}
    (hok : ∀ s' : Sys, (∀ q ∈ F, s'.files q = s.files q) → ∀ c : Choice, c.response = response →
      ∀ b, (s'.step o c).1 = .ok b →
        (f b).wp Sys.handle (Sys.quiet F response) (Prog.onOk Q) (s'.step o c).2) :
    (ask o >>= fun r => context r message >>= f).wp Sys.handle (Sys.quiet F response)
      (Prog.onOk Q) s := by
  simp only [Prog.wp_bind, Prog.wp_perform, wp_context]
  intro s' hs' c hc
  cases hr : (s'.step o c).1 with
  | error e => trivial
  | ok b => exact hok s' hs' c hc b hr

lemma wp_failIf {α : Type} {E : Env Choice Sys} {condition : Prop} [Decidable condition]
    {message : String} {f : Unit → SysProg α} {Q : α → Sys → Prop} {s : Sys}
    (hok : ¬condition → (f ()).wp Sys.handle E (Prog.onOk Q) s) :
    (failIf condition message >>= f).wp Sys.handle E (Prog.onOk Q) s := by
  rw [failIf, Prog.wp_bind, Prog.wp_ofExcept]
  cases h : bailIf condition message with
  | error e => trivial
  | ok u => exact hok (bailIf_eq_ok.mp h)

/-- The chunks end up in the temporary file, within the limit. -/
lemma wp_writeChunks (kind : DownloadKind) (url : String) (ht : temporary ∈ F)
    (chunks : List (List UInt8)) {u : List UInt8} {s : Sys} (hs : s.files temporary = some u)
    (hu : u.length ≤ kind.maxSize) :
    (writeChunks kind url temporary chunks u.length).wp Sys.handle (Sys.quiet F response)
      (Prog.onOk fun _ s' => s'.files temporary = some (u ++ chunks.flatten) ∧
        (u ++ chunks.flatten).length ≤ kind.maxSize) s := by
  induction chunks generalizing u s with
  | nil => simpa [writeChunks] using ⟨hs, hu⟩
  | cons chunk chunks ih =>
    rw [writeChunks]
    refine wp_failIf fun _ => wp_failIf fun hsize => wp_ask_context fun s' hs' c _ _ hr => ?_
    obtain ⟨v, hv, -, hall⟩ := appends_writeAll temporary chunk c s' u
      ((hs' _ ht).trans hs)
    rw [hall hr] at hv
    have hlength : (u ++ chunk).length ≤ kind.maxSize := by
      rw [List.length_append]
      exact not_lt.mp hsize
    have h := ih hv hlength
    rwa [List.length_append, List.append_assoc, ← List.flatten_cons] at h

/-- A download to a temporary file that succeeds leaves the whole body there. -/
lemma wp_downloadToTemp (kind : DownloadKind) (url : String) (ht : temporary ∈ F) (s : Sys) :
    (downloadToTemp kind url temporary).wp Sys.handle (Sys.quiet F response)
      (Prog.onOk fun _ s' => ∃ body, s'.files temporary = some body ∧
        IsDownload kind (fun _ => True) response body) s := by
  refine wp_ask_context fun s₁ hs₁ c hc r hr => wp_failIf fun hstatus => wp_failIf fun _ =>
    wp_ask_context fun s₂ hs₂ c₂ _ _ hr₂ => ?_
  have hcreated := (step_createNew_ok hr₂).2.2
  refine Prog.wp_seq_onOk (wp_writeChunks kind url ht _ hcreated (Nat.zero_le _))
    fun _ s₃ ⟨hfile, hsize⟩ => wp_failIf fun hfailure => ?_
  rw [List.nil_append] at hfile hsize
  apply wp_ask_context
  intro s₄ hs₄ c₄ _ _ hr₄
  obtain ⟨v, hv, -, hall⟩ := appends_flush temporary c₄ s₄ _ ((hs₄ _ ht).trans hfile)
  rw [hall hr₄, List.append_nil] at hv
  simp only [Prog.wp_bind, Prog.wp_perform, wp_context]
  intro s₅ hs₅ c₅ _
  obtain ⟨w, hw, -, hall⟩ := appends_syncAll temporary c₅ s₅ _ ((hs₅ _ ht).trans hv)
  cases hr₅ : (s₅.step (.syncAll temporary) c₅).1 with
  | error e => trivial
  | ok u =>
    rw [hall hr₅, List.append_nil] at hw
    exact ⟨_, hw, r, hc.symm.trans hr, by simpa using hstatus, by simpa using hfailure, rfl,
      hsize, trivial⟩

/-- A fetch that succeeds leaves a download in the temporary file. -/
lemma wp_fetch {kind : DownloadKind} {check : Path → SysProg Unit} {Valid : List UInt8 → Prop}
    (hwrites : WritesIn ∅ (check temporary))
    (hcheck : ∀ body s, s.files temporary = some body →
      (check temporary).wp Sys.handle (Sys.quiet F response) (Prog.onOk fun _ _ => Valid body) s)
    (url : String) (ht : temporary ∈ F) (s : Sys) :
    (fetch kind check url temporary).wp Sys.handle (Sys.quiet F response)
      (Prog.onOk fun _ s' => ∃ body, s'.files temporary = some body ∧
        IsDownload kind Valid response body) s := by
  have hfail : ∀ error s, (removeAndFail temporary error : SysProg Unit).wp Sys.handle
      (Sys.quiet F response) (Prog.onOk fun _ s' => ∃ body, s'.files temporary = some body ∧
        IsDownload kind Valid response body) s := fun _ _ _ _ _ _ => trivial
  rw [fetch, Prog.wp_bind, Prog.wp_attempt]
  apply Prog.wp_mono (wp_downloadToTemp kind url ht s)
  intro r s₁ h₁
  cases r with
  | error e => exact hfail e s₁
  | ok u =>
    obtain ⟨body, hbody, r, hr, hstatus, hfailure, hchunks, hsize, -⟩ := h₁
    dsimp only
    rw [Prog.wp_bind, Prog.wp_attempt]
    refine Prog.wp_mono (Prog.wp_and (hcheck body s₁ hbody)
      (hwrites.keeps_quiet ht (by simp) _ s₁ hbody)) fun r' s₂ h₂ => ?_
    cases r' with
    | error e => exact hfail e s₂
    | ok u => exact ⟨body, h₂.2, r, hr, hstatus, hfailure, hchunks, hsize, h₂.1⟩

end Fetch

/-! ### Publication -/

/-- The destination was missing and has been created: what is there now, and the marks. -/
structure Created (body : List UInt8) (content : Option (List UInt8)) (notes : List Mark) :
    Prop where
  created : ∃ m ∈ notes, m.creates = true
  first : ∀ m ∈ notes, m.creates = true → m.content = some []
  growing : ∀ m ∈ notes, m.content = none ∨ ∃ u, u <+: body ∧ m.content = some u
  now : content = none ∨ ∃ u, u <+: body ∧ content = some u

lemma Created.note {body : List UInt8} {content : Option (List UInt8)} {notes : List Mark}
    {m : Mark} (h : Created body content notes) (hcreates : m.creates = false)
    (hm : m.content = none ∨ ∃ u, u <+: body ∧ m.content = some u) :
    Created body m.content (notes ++ [m]) where
  created :=
    let ⟨m', hm', hcreated⟩ := h.created
    ⟨m', List.mem_append_left _ hm', hcreated⟩
  first := by
    intro m' hm' hcreated
    rcases List.mem_append.mp hm' with hm' | hm'
    · exact h.first m' hm' hcreated
    · rw [List.mem_singleton.mp hm', hcreates] at hcreated
      exact absurd hcreated Bool.false_ne_true
  growing := by
    intro m' hm'
    rcases List.mem_append.mp hm' with hm' | hm'
    · exact h.growing m' hm'
    · exact List.mem_singleton.mp hm' ▸ hm
  now := hm

/-- What leaves the destination alone adds a mark that says so. -/
lemma Created.unchanged {body : List UInt8} {content : Option (List UInt8)} {notes : List Mark}
    (h : Created body content notes) :
    Created body content (notes ++ [⟨content, false, false⟩]) :=
  h.note (m := ⟨content, false, false⟩) rfl h.now

/-- Nothing was done to the destination. -/
def Untouched (before content : Option (List UInt8)) (notes : List Mark) : Prop :=
  content = before ∧ ∀ m ∈ notes, m = ⟨before, false, false⟩

/-- The journal after a first download, where `before` was; `Body` says what counts as a body. -/
def Attempted (before : Option (List UInt8)) (Body : List UInt8 → Prop) (r : Except String Bool)
    (content : Option (List UInt8)) (notes : List Mark) : Prop :=
  Untouched before content notes ∧ r ≠ .ok true ∨
  before = none ∧ ∃ body, Body body ∧ Created body content notes ∧ (content = some body ∨
    r ≠ .ok true ∧ (content = none ∨ ∃ m ∈ notes, m.failsToRemove = true))

section Publication

variable {F : Set Path} {response : Except IoError Response} {q : Path} {body u : List UInt8}
  {before content : Option (List UInt8)} {Body : List UInt8 → Prop} {notes : List Mark} {m : Mark}
  {t : Prog.Journal Sys Mark}

lemma Untouched.note (h : Untouched before content notes) :
    Untouched before content (notes ++ [⟨content, false, false⟩]) := by
  refine ⟨h.1, fun m hm => ?_⟩
  rcases List.mem_append.mp hm with hm | hm
  · exact h.2 m hm
  · rw [List.mem_singleton.mp hm, h.1]

lemma Attempted.note {r : Except String Bool} (h : Attempted before Body r content notes) :
    Attempted before Body r content (notes ++ [⟨content, false, false⟩]) := by
  rcases h with ⟨huntouched, hr⟩ | ⟨hbefore, body, hbody, hcreated, hend⟩
  · exact .inl ⟨huntouched.note, hr⟩
  · refine .inr ⟨hbefore, body, hbody, hcreated.unchanged,
      hend.imp_right fun ⟨hr, h⟩ => ⟨hr, ?_⟩⟩
    exact h.imp_right fun ⟨m, hm, hfails⟩ => ⟨m, List.mem_append_left _ hm, hfails⟩

lemma Attempted.error {e e' : String} (h : Attempted before Body (.error e) content notes) :
    Attempted before Body (.error e') content notes := by
  rcases h with ⟨huntouched, -⟩ | ⟨hbefore, body, hbody, hcreated, hend⟩
  · exact .inl ⟨huntouched, by simp⟩
  · exact .inr ⟨hbefore, body, hbody, hcreated, hend.imp_right fun h => ⟨by simp, h.2⟩⟩

lemma Attempted.of_done (h : Attempted before Body (.ok true) content notes)
    (r : Except String Bool) : Attempted before Body r content notes := by
  rcases h with ⟨-, hr⟩ | ⟨hbefore, body, hbody, hcreated, hend⟩
  · exact absurd rfl hr
  · exact .inr ⟨hbefore, body, hbody, hcreated, .inl (hend.resolve_right fun h => h.1 rfl)⟩

lemma Untouched.keeps {ε α : Type} {G : Set Path} {p : Prog SysOp ε α} (hp : WritesIn G p)
    (hq : q ∈ F) (hG : q ∉ G) :
    Prog.Keeps (Sys.marking q) (Prog.unnoted (Sys.quiet F response))
      (fun t => Untouched before (t.state.files q) t.notes) p :=
  WritesIn.keeps_marks (N := (· = ⟨before, false, false⟩)) hp hq hG rfl

lemma Attempted.keeps {ε α : Type} {G : Set Path} {p : Prog SysOp ε α} (hp : WritesIn G p)
    (hq : q ∈ F) (hG : q ∉ G) (r : Except String Bool) :
    Prog.Keeps (Sys.marking q) (Prog.unnoted (Sys.quiet F response))
      (fun t => Attempted before Body r (t.state.files q) t.notes) p := by
  refine .of_all hp (fun ht hI => ?_) fun o ho c _ t hI => ?_
  · rw [ht.1 q hq, ht.2]
    exact hI
  · have hwrites : ¬o.writes q := fun h => hG (ho.1 q h)
    simp only [Prog.noting]
    rw [mark_of_not_writes hwrites, Sys.step_files hwrites]
    exact hI.note

/-- The outcome of copying up to `whole`. -/
def Copied (q : Path) (body whole : List UInt8) (r : Except IoError Unit)
    (t : Prog.Journal Sys Mark) : Prop :=
  ∃ v, t.state.files q = some v ∧ Created body (some v) t.notes ∧ (r = .ok () → v = whole)

/-- A copy that fails says nothing about what was to be copied. -/
lemma Copied.error {whole whole' : List UInt8} {r : Except IoError Unit} {e : IoError}
    (h : Copied q body whole r t) : Copied q body whole' (.error e) t := by
  obtain ⟨v, hv, hcreated, _⟩ := h
  exact ⟨v, hv, hcreated, by simp⟩

/-- One step of copying. -/
lemma wp_ask_appends {ε : Type} {o : SysOp (Except IoError Unit)} {bytes : List UInt8}
    (ho : Appends o q bytes) (hcreates : ∀ c s, (mark q _ o c s).creates = false) (hq : q ∈ F)
    (hcreated : Created body (some u) t.notes) (ht : t.state.files q = some u)
    (hbytes : u ++ bytes <+: body) :
    (ask o : Prog SysOp ε _).wp (Sys.marking q) (Prog.unnoted (Sys.quiet F response))
      (fun r t' => ∃ result, r = .ok result ∧ Copied q body (u ++ bytes) result t') t := by
  intro t' ht' c _
  obtain ⟨v, hv, hpre, hall⟩ := ho c t'.state u ((ht'.1 q hq).trans ht)
  have hmark : (mark q _ o c t'.state).content = some v := hv
  refine ⟨_, rfl, v, hv, ?_, hall⟩
  rw [← hmark]
  exact (ht'.2 ▸ hcreated).note (hcreates c t'.state) (.inr ⟨v, hpre.trans hbytes, hmark⟩)

lemma wp_appends {o : SysOp (Except IoError Unit)} {bytes : List UInt8} (ho : Appends o q bytes)
    (hcreates : ∀ c s, (mark q _ o c s).creates = false) (hq : q ∈ F)
    (hcreated : Created body (some u) t.notes) (ht : t.state.files q = some u)
    (hbytes : u ++ bytes <+: body) :
    (ask o >>= fun r => .ofExcept r : Prog SysOp IoError Unit).wp (Sys.marking q)
      (Prog.unnoted (Sys.quiet F response)) (Copied q body (u ++ bytes)) t := by
  rw [Prog.wp_bind]
  apply Prog.wp_mono (wp_ask_appends ho hcreates hq hcreated ht hbytes)
  intro r t' h
  obtain ⟨result, rfl, hcopied⟩ := h
  dsimp only
  rwa [Prog.wp_ofExcept]

lemma wp_copyChunks (hq : q ∈ F) (chunks : List (List UInt8))
    (hcreated : Created body (some u) t.notes) (ht : t.state.files q = some u)
    (hchunks : u ++ chunks.flatten <+: body) :
    (copyChunks q chunks).wp (Sys.marking q) (Prog.unnoted (Sys.quiet F response))
      (Copied q body (u ++ chunks.flatten)) t := by
  induction chunks generalizing u t with
  | nil => exact ⟨u, ht, hcreated, fun _ => by simp⟩
  | cons chunk chunks ih =>
    rw [List.flatten_cons, ← List.append_assoc] at hchunks ⊢
    have hchunk := (List.prefix_append (u ++ chunk) chunks.flatten).trans hchunks
    rw [copyChunks, ← bind_assoc]
    refine Prog.wp_seq
      (wp_appends (appends_writeAll q chunk) (fun _ _ => rfl) hq hcreated ht hchunk)
      (fun _ t' hcopied => ?_) fun _ t' hcopied => hcopied.error
    obtain ⟨v, hv, hcreated', hall⟩ := hcopied
    obtain rfl := hall rfl
    exact ih hcreated' hv hchunks

/-- A step after a whole copy. -/
lemma wp_copied_seq {p : Prog SysOp IoError Unit} {o : SysOp (Except IoError Unit)}
    (hp : p.wp (Sys.marking q) (Prog.unnoted (Sys.quiet F response)) (Copied q body body) t)
    (ho : Appends o q []) (hcreates : ∀ c s, (mark q _ o c s).creates = false) (hq : q ∈ F) :
    (p >>= fun _ => ask o >>= fun r => .ofExcept r).wp (Sys.marking q)
      (Prog.unnoted (Sys.quiet F response)) (Copied q body body) t := by
  refine Prog.wp_seq hp (fun _ t' hcopied => ?_) fun _ t' hcopied => hcopied.error
  obtain ⟨v, hv, hcreated, hall⟩ := hcopied
  obtain rfl := hall rfl
  simpa using wp_appends ho hcreates hq hcreated hv (by simp)

/-- A copy that succeeds is whole, and one that fails is partial. -/
lemma wp_copy (hq : q ∈ F) {source : Delivery} (hsource : source.chunks.flatten <+: body)
    (hwhole : source.failure = none → source.chunks.flatten = body)
    (hcreated : Created body (some []) t.notes) (ht : t.state.files q = some []) :
    (copy source q).wp (Sys.marking q) (Prog.unnoted (Sys.quiet F response))
      (Copied q body body) t := by
  have hchunks : (copyChunks q source.chunks).wp (Sys.marking q)
      (Prog.unnoted (Sys.quiet F response)) (Copied q body source.chunks.flatten) t :=
    wp_copyChunks hq source.chunks hcreated ht hsource
  rw [copy]
  cases hfailure : source.failure with
  | none =>
    rw [hwhole hfailure] at hchunks
    exact wp_copied_seq hchunks (appends_flush q) (fun _ _ => rfl) hq
  | some e =>
    exact Prog.wp_seq hchunks (fun _ t' hcopied => hcopied.error) fun _ t' hcopied => hcopied.error

/-- The removal of what was created, and the error. -/
lemma wp_removeAndFail (hq : q ∈ F) (error : String) (hbefore : before = none) (hbody : Body body)
    (hcreated : Created body (t.state.files q) t.notes) :
    (removeAndFail q error : SysProg Bool).wp (Sys.marking q)
      (Prog.unnoted (Sys.quiet F response))
      (fun r t' => Attempted before Body r (t'.state.files q) t'.notes) t := by
  rw [removeAndFail, Prog.wp_bind, Prog.wp_perform]
  intro t' ht' c _
  rw [← ht'.1 q hq, ← ht'.2] at hcreated
  simp only [Prog.noting, Prog.wp_fail]
  have hmark : (mark q _ (.removeFile q) c t'.state).creates = false := rfl
  cases hfault : c.fault with
  | some e =>
    have hnow := hcreated.now
    have hcontent : (t'.state.step (.removeFile q) c).2.files q = t'.state.files q := by
      simp [Sys.step, hfault]
    rw [← hcontent] at hnow
    refine .inr ⟨hbefore, body, hbody, hcreated.note hmark hnow, .inr ⟨by simp, .inr ?_⟩⟩
    exact ⟨_, List.mem_append_right _ (List.mem_singleton_self _), by simp [mark, hfault]⟩
  | none =>
    have hcontent : (t'.state.step (.removeFile q) c).2.files q = none := by
      cases hfile : t'.state.files q <;> simp [Sys.step, hfault, hfile]
    exact .inr ⟨hbefore, body, hbody, hcreated.note hmark (.inl hcontent),
      .inr ⟨by simp, .inl hcontent⟩⟩

/-- A destination is created when it was missing, and left alone otherwise. -/
lemma wp_createNew {ε : Type} (hq : q ∈ F) (body : List UInt8)
    (h : Untouched before (t.state.files q) t.notes) :
    (ask (.createNew q) : Prog SysOp ε _).wp (Sys.marking q) (Prog.unnoted (Sys.quiet F response))
      (fun r t' => match r with
        | .ok (.ok _) => before = none ∧ t'.state.files q = some [] ∧
            Created body (some []) t'.notes
        | .ok (.error _) => Untouched before (t'.state.files q) t'.notes
        | .error _ => False) t := by
  intro t' ht' c _
  rw [← ht'.1 q hq, ← ht'.2] at h
  simp only [Prog.noting, Prog.wp_ret]
  cases hr : (t'.state.step (.createNew q) c).1 with
  | error e =>
    obtain ⟨hpresent, hstate⟩ := step_createNew_error hr
    have hmark : mark q _ (.createNew q) c t'.state = ⟨t'.state.files q, false, false⟩ := by
      cases hfault : c.fault with
      | none => simp [mark, hstate, hfault, Option.ne_none_iff_isSome.mp (hpresent hfault)]
      | some e => simp [mark, hstate, hfault]
    rw [hmark, hstate]
    exact h.note
  | ok _ =>
    obtain ⟨hfault, hmissing, hcreated⟩ := step_createNew_ok hr
    have hmark : mark q _ (.createNew q) c t'.state = ⟨some [], true, false⟩ := by
      simp [mark, hfault, hmissing, hcreated]
    rw [hmark]
    have hbefore : before = none := h.1.symm.trans hmissing
    refine ⟨hbefore, hcreated, ⟨_, List.mem_append_right _ (List.mem_singleton_self _), rfl⟩,
      fun m hm hcreates => ?_, fun m hm => ?_, .inr ⟨[], List.nil_prefix, rfl⟩⟩
    · rcases List.mem_append.mp hm with hm | hm
      · rw [h.2 m hm] at hcreates
        exact absurd hcreates Bool.false_ne_true
      · rw [List.mem_singleton.mp hm]
    · rcases List.mem_append.mp hm with hm | hm
      · exact .inl (by rw [h.2 m hm, hbefore])
      · exact .inr ⟨[], List.nil_prefix, by rw [List.mem_singleton.mp hm]⟩

/-- What the temporary file delivers; the destination does not change. -/
lemma wp_openRead {ε : Type} {temporary : Path} (hq : q ∈ F) (htemporary : temporary ∈ F)
    (hfile : t.state.files temporary = some body) :
    (ask (.openRead temporary) : Prog SysOp ε _).wp (Sys.marking q)
      (Prog.unnoted (Sys.quiet F response))
      (fun r t' => t'.state.files q = t.state.files q ∧
        t'.notes = t.notes ++ [⟨t.state.files q, false, false⟩] ∧ match r with
          | .ok (.ok source) => source.chunks.flatten <+: body ∧
              (source.failure = none → source.chunks.flatten = body)
          | .ok (.error _) => True
          | .error _ => False) t := by
  intro t' ht' c _
  have hwrites : ¬(SysOp.openRead temporary).writes q := id
  simp only [Prog.noting, Prog.wp_ret]
  rw [mark_of_not_writes hwrites, Sys.step_files hwrites, ht'.1 q hq, ht'.2]
  refine ⟨rfl, rfl, ?_⟩
  cases hr : (t'.state.step (.openRead temporary) c).1 with
  | error e => trivial
  | ok source =>
    obtain ⟨bytes, hbytes, hpre, hwhole⟩ := step_openRead_ok hr
    obtain rfl := Option.some.inj (hbytes.symm.trans ((ht'.1 _ htemporary).trans hfile))
    exact ⟨hpre, hwhole⟩

/-- The publication of a list. -/
lemma Security.wp_publishDownload {temporary : Path} (hq : q ∈ F) (htemporary : temporary ∈ F)
    (hbody : Body body) (hfile : t.state.files temporary = some body)
    (h : Untouched before (t.state.files q) t.notes) :
    (Security.publishDownload temporary q).wp (Sys.marking q)
      (Prog.unnoted (Sys.quiet F response))
      (fun r t' => Attempted before Body r (t'.state.files q) t'.notes) t := by
  rw [Security.publishDownload, Prog.wp_bind]
  apply Prog.wp_mono (wp_openRead hq htemporary hfile)
  intro r t₁ hr
  obtain ⟨hcontent, hnotes, hr⟩ := hr
  have huntouched : Untouched before (t₁.state.files q) t₁.notes := by
    rw [hcontent, hnotes]
    exact h.note
  cases r with
  | error e => exact hr.elim
  | ok r =>
    dsimp only
    rw [Prog.wp_bind, context, Prog.wp_ofExcept]
    cases r with
    | error e => exact .inl ⟨huntouched, by simp⟩
    | ok source =>
      simp only [Except.mapError]
      rw [Prog.wp_bind]
      apply Prog.wp_mono (wp_createNew hq body huntouched)
      intro r t₂ h₂
      cases r with
      | error e => exact h₂.elim
      | ok r =>
        cases r with
        | error e =>
          dsimp only
          split
          · exact .inl ⟨h₂, by simp⟩
          · exact .inl ⟨h₂, by simp⟩
        | ok _ =>
          obtain ⟨hbefore, hempty, hcreated⟩ := h₂
          dsimp only
          have hcopy : (copy _ q).wp (Sys.marking q) (Prog.unnoted (Sys.quiet F response))
              (Copied q body body) t₂ := wp_copy hq hr.1 hr.2 hcreated hempty
          have hsynced := wp_copied_seq (wp_copied_seq hcopy (appends_flush q) (fun _ _ => rfl) hq)
            (appends_syncAll q) (fun _ _ => rfl) hq
          simp only [bind_assoc] at hsynced
          rw [Prog.wp_bind, Prog.wp_attempt]
          apply Prog.wp_mono hsynced
          intro r t₃ h₃
          obtain ⟨v, hv, hcreated', hall⟩ := h₃
          cases r with
          | error e => exact wp_removeAndFail hq _ hbefore hbody (hv ▸ hcreated')
          | ok _ => exact .inr ⟨hbefore, body, hbody, hv ▸ hcreated', .inl (hall rfl ▸ hv)⟩

/-- The publication of a database. -/
lemma Ip2Region.wp_publishDownload {temporary : Path} (hq : q ∈ F) (htemporary : temporary ∈ F)
    (hne : temporary ≠ q) (hbody : Body body) (hfile : t.state.files temporary = some body)
    (h : Untouched before (t.state.files q) t.notes) :
    (Ip2Region.publishDownload temporary q).wp (Sys.marking q)
      (Prog.unnoted (Sys.quiet F response))
      (fun r t' => Attempted before Body r (t'.state.files q) t'.notes) t := by
  have hremove : WritesIn {temporary} (ask (.removeFile temporary) : SysProg _) := by simp [WritesIn]
  have hq' : q ∉ ({temporary} : Set Path) := hne.symm
  -- the temporary file is not the one that is created
  have hcreate : WritesIn {q} (ask (.createNew q) : SysProg _) := by simp [WritesIn]
  have hkeep : (ask (.createNew q) : SysProg _).wp (Sys.marking q)
      (Prog.unnoted (Sys.quiet F response)) (fun _ t' => t'.state.files temporary = some body) t :=
    Prog.wp_noting (hcreate.keeps_quiet htemporary (by simpa using hne) _ _ hfile)
  rw [Ip2Region.publishDownload, Prog.wp_bind]
  apply Prog.wp_mono (Prog.wp_and (wp_createNew hq body h) hkeep)
  intro r t₁ h₁
  obtain ⟨h₁, hfile₁⟩ := h₁
  cases r with
  | error e => exact h₁.elim
  | ok r =>
    cases r with
    | error e =>
      dsimp only
      split
      · exact (Untouched.keeps hremove hq hq').seq h₁ (fun _ _ h' => .inl ⟨h', by simp⟩)
          fun _ _ h' => .inl ⟨h', by simp⟩
      · exact .inl ⟨h₁, by simp⟩
    | ok _ =>
      obtain ⟨hbefore, hempty, hcreated⟩ := h₁
      have hfail : ∀ error (t' : Prog.Journal Sys Mark), Created body (t'.state.files q) t'.notes →
          (removeAndFail q error : SysProg Bool).wp (Sys.marking q)
            (Prog.unnoted (Sys.quiet F response))
            (fun r t' => Attempted before Body r (t'.state.files q) t'.notes) t' :=
        fun error _ h' => wp_removeAndFail hq error hbefore hbody h'
      dsimp only
      rw [Prog.wp_bind]
      apply Prog.wp_mono (wp_openRead hq htemporary hfile₁)
      intro r t₂ hr
      obtain ⟨hcontent, hnotes, hr⟩ := hr
      have hcreated₂ : Created body (some []) t₂.notes := by
        rw [hnotes, hempty]
        exact hcreated.unchanged
      rw [hempty] at hcontent
      cases r with
      | error e => exact hr.elim
      | ok r =>
        cases r with
        | error e => exact hfail _ _ (hcontent ▸ hcreated₂)
        | ok source =>
          dsimp only
          rw [Prog.wp_bind, Prog.wp_attempt]
          refine Prog.wp_mono (wp_copy hq hr.1 hr.2 hcreated₂ hcontent)
            fun r t₃ h₃ => ?_
          obtain ⟨v, hv, hcreated₃, hall⟩ := h₃
          cases r with
          | error e => exact hfail _ _ (hv ▸ hcreated₃)
          | ok _ =>
            obtain rfl := hall rfl
            dsimp only
            rw [Prog.wp_bind]
            refine Prog.wp_mono (wp_ask_appends (appends_syncAll q) (fun _ _ => rfl) hq hcreated₃ hv
              (by simp)) fun r t₄ h₄ => ?_
            obtain ⟨result, rfl, w, hw, hcreated₄, hall₄⟩ := h₄
            cases result with
            | error e => exact hfail _ _ (hw ▸ hcreated₄)
            | ok _ =>
              obtain rfl := hall₄ rfl
              rw [List.append_nil] at hw hcreated₄
              dsimp only
              rw [← bind_assoc]
              exact (Attempted.keeps (.bind hremove fun _ => by simp) hq hq' (.ok true)).seq
                (.inr ⟨hbefore, _, hbody, hw ▸ hcreated₄, .inl hw⟩) (fun _ _ h => h.of_done _)
                fun _ _ h => h

end Publication

/-! ### Whole downloads and updates -/

section Items

variable {kind : DownloadKind} {check : Path → SysProg Unit} {Valid : List UInt8 → Prop}
  {publish : Path → Path → SysProg Bool} {temporaryPath : Path → Uuid → Path}
  {url : String} {path : Path} {response : Except IoError Response}
  {before : Option (List UInt8)} {t : Prog.Journal Sys Mark}

/-- What the check of a downloader says about a file that nobody touches. -/
def Checks (F : Set Path) (response : Except IoError Response) (check : Path → SysProg Unit)
    (Valid : List UInt8 → Prop) : Prop :=
  ∀ p body s, p ∈ F → s.files p = some body →
    (check p).wp Sys.handle (Sys.quiet F response) (Prog.onOk fun _ _ => Valid body) s

/-- The steps a download and an update start with leave the destination alone, and what comes
after them finds a download in the temporary file. -/
lemma wp_fetched {f : Uuid → SysProg Bool}
    {Q : Except String Bool → Prog.Journal Sys Mark → Prop}
    (hwrites : ∀ p, WritesIn ∅ (check p))
    (hcheck : Checks ({path} ∪ temporaries temporaryPath) response check Valid)
    (hne : ∀ uuid, temporaryPath path uuid ≠ path)
    (h : Untouched before (t.state.files path) t.notes)
    (herror : ∀ e t', Untouched before (t'.state.files path) t'.notes → Q (.error e) t')
    (hok : ∀ uuid body t', t'.state.files (temporaryPath path uuid) = some body →
      IsDownload kind Valid response body → Untouched before (t'.state.files path) t'.notes →
      (f uuid).wp (Sys.marking path)
        (Prog.unnoted (Sys.quiet ({path} ∪ temporaries temporaryPath) response)) Q t') :
    (do
      createParent path kind.directory
      let uuid ← ask .newUuid
      fetch kind check url (temporaryPath path uuid)
      f uuid : SysProg Bool).wp (Sys.marking path)
      (Prog.unnoted (Sys.quiet ({path} ∪ temporaries temporaryPath) response)) Q t := by
  have hpath : path ∈ ({path} : Set Path) ∪ temporaries temporaryPath := .inl rfl
  refine (Untouched.keeps (writesIn_createParent ..) hpath (by simp)).seq h herror
    fun _ t₁ h₁ => (Untouched.keeps (G := ∅) (by simp [WritesIn]) hpath (by simp)).seq h₁ herror
    fun uuid t₂ h₂ => ?_
  have htemporary : temporaryPath path uuid ∈ ({path} : Set Path) ∪ temporaries temporaryPath :=
    .inr ⟨path, uuid, rfl⟩
  have huntouched : (fetch kind check url (temporaryPath path uuid)).wp (Sys.marking path)
      (Prog.unnoted (Sys.quiet ({path} ∪ temporaries temporaryPath) response))
      (fun _ t' => Untouched before (t'.state.files path) t'.notes) t₂ :=
    Untouched.keeps (writesIn_fetch kind hwrites url _) hpath (by simpa using (hne uuid).symm) t₂ h₂
  have hfetch : (fetch kind check url (temporaryPath path uuid)).wp (Sys.marking path)
      (Prog.unnoted (Sys.quiet ({path} ∪ temporaries temporaryPath) response))
      (fun r t' => Prog.onOk (fun _ s' => ∃ body,
        s'.files (temporaryPath path uuid) = some body ∧ IsDownload kind Valid response body)
        r t'.state) t₂ :=
    Prog.wp_noting (wp_fetch (hwrites _)
      (fun body s hs => hcheck _ body s htemporary hs) url htemporary t₂.state)
  refine Prog.wp_seq (Prog.wp_and huntouched hfetch) (fun _ t₃ h₃ => ?_) fun e t₃ h₃ => herror e t₃ h₃.1
  obtain ⟨h₃, body, hfile, hbody⟩ := h₃
  exact hok uuid body t₃ hfile hbody h₃

/-- The journal of a first download. -/
lemma attempted_downloadOne (hwrites : ∀ p, WritesIn ∅ (check p))
    (hcheck : Checks ({path} ∪ temporaries temporaryPath) response check Valid)
    (hne : ∀ uuid, temporaryPath path uuid ≠ path)
    (hpublish : ∀ uuid body t', t'.state.files (temporaryPath path uuid) = some body →
      IsDownload kind Valid response body → Untouched before (t'.state.files path) t'.notes →
      (publish (temporaryPath path uuid) path).wp (Sys.marking path)
        (Prog.unnoted (Sys.quiet ({path} ∪ temporaries temporaryPath) response))
        (fun r t' => Attempted before (IsDownload kind Valid response) r (t'.state.files path)
          t'.notes) t')
    (h : Untouched before (t.state.files path) t.notes) :
    (downloadOne kind check publish temporaryPath url path).wp (Sys.marking path)
      (Prog.unnoted (Sys.quiet ({path} ∪ temporaries temporaryPath) response))
      (fun r t' => Attempted before (IsDownload kind Valid response) r (t'.state.files path)
        t'.notes) t := by
  have hpath : path ∈ ({path} : Set Path) ∪ temporaries temporaryPath := .inl rfl
  rw [downloadOne]
  refine (Untouched.keeps (G := ∅) (by simp [WritesIn]) hpath (by simp)).seq h
    (fun _ _ h' => .inl ⟨h', by simp⟩) fun present t₁ h₁ => ?_
  split
  · exact .inl ⟨h₁, by simp⟩
  · refine wp_fetched hwrites hcheck hne h₁ (fun _ _ h' => .inl ⟨h', by simp⟩)
      fun uuid body t₂ hfile hbody h₂ => ?_
    rw [Prog.wp_bind, Prog.wp_attempt]
    apply Prog.wp_mono (hpublish uuid body t₂ hfile hbody h₂)
    intro r t₃ h₃
    cases r with
    | ok published => exact h₃
    | error e =>
      have hremove : WritesIn {temporaryPath path uuid}
          (ask (.removeFile (temporaryPath path uuid)) : SysProg _) := by simp [WritesIn]
      exact (Attempted.keeps hremove hpath (by simpa using (hne uuid).symm) _).seq h₃
        (fun _ _ h' => h'.error) fun _ _ h' => h'.error

/-- The journal of an update. -/
structure Replaced (before : Option (List UInt8)) (Body : List UInt8 → Prop)
    (r : Except String Bool) (content : Option (List UInt8)) (notes : List Mark) : Prop where
  marks : ∀ m ∈ notes, m.failsToRemove = false ∧
    (m.content = before ∨ ∃ body, Body body ∧ m.content = some body)
  now : content = before ∨ ∃ body, Body body ∧ content = some body
  done : r = .ok true → ∃ body, Body body ∧ content = some body

lemma Untouched.replaced {Body : List UInt8 → Prop} {r : Except String Bool}
    {content : Option (List UInt8)} {notes : List Mark} (h : Untouched before content notes)
    (hr : r ≠ .ok true) : Replaced before Body r content notes where
  marks m hm := by rw [h.2 m hm]; exact ⟨rfl, .inl rfl⟩
  now := .inl h.1
  done h' := absurd h' hr

lemma replaced_updateOne (hwrites : ∀ p, WritesIn ∅ (check p))
    (hcheck : Checks ({path} ∪ temporaries temporaryPath) response check Valid)
    (hne : ∀ uuid, temporaryPath path uuid ≠ path)
    (h : Untouched before (t.state.files path) t.notes) :
    (updateOne kind check temporaryPath url path).wp (Sys.marking path)
      (Prog.unnoted (Sys.quiet ({path} ∪ temporaries temporaryPath) response))
      (fun r t' => Replaced before (IsDownload kind Valid response) r (t'.state.files path)
        t'.notes) t := by
  have hpath : path ∈ ({path} : Set Path) ∪ temporaries temporaryPath := .inl rfl
  have herror : ∀ (e : String) (t' : Prog.Journal Sys Mark),
      Untouched before (t'.state.files path) t'.notes →
      Replaced before (IsDownload kind Valid response) (.error e) (t'.state.files path) t'.notes :=
    fun _ _ h' => h'.replaced (by simp)
  rw [updateOne]
  apply wp_fetched hwrites hcheck hne h herror
  intro uuid body t₁ hfile hbody h₁
  have htemporary : temporaryPath path uuid ∈ ({path} : Set Path) ∪ temporaries temporaryPath :=
    .inr ⟨path, uuid, rfl⟩
  have huntouched : (isUnchanged (temporaryPath path uuid) path).wp (Sys.marking path)
      (Prog.unnoted (Sys.quiet ({path} ∪ temporaries temporaryPath) response))
      (fun _ t' => Untouched before (t'.state.files path) t'.notes) t₁ :=
    Untouched.keeps (writesIn_isUnchanged ..) hpath (by simp) t₁ h₁
  have hkept : (isUnchanged (temporaryPath path uuid) path).wp (Sys.marking path)
      (Prog.unnoted (Sys.quiet ({path} ∪ temporaries temporaryPath) response))
      (fun _ t' => t'.state.files (temporaryPath path uuid) = some body) t₁ :=
    Prog.wp_noting ((writesIn_isUnchanged ..).keeps_quiet htemporary (by simp) _ _ hfile)
  refine Prog.wp_seq (Prog.wp_and huntouched hkept) (fun unchanged t₂ h₂ => ?_)
    fun e t₂ h₂ => herror e t₂ h₂.1
  obtain ⟨h₂, hfile₂⟩ := h₂
  split
  · have hremove : ∀ message, WritesIn {temporaryPath path uuid} (do
        context (← ask (.removeFile (temporaryPath path uuid))) message : SysProg Unit) :=
      fun _ => .bind (by simp) fun _ => by simp
    rw [← bind_assoc]
    exact (Untouched.keeps (hremove _) hpath (by simpa using (hne uuid).symm)).seq h₂ herror
      fun _ _ h' => h'.replaced (by simp)
  · simp only [replaceDownload, Prog.wp_bind, Prog.wp_perform, wp_context]
    intro t₃ ht₃ c _
    replace h₂ : Untouched before (t₃.state.files path) t₃.notes := by
      rw [ht₃.1 _ hpath, ht₃.2]
      exact h₂
    simp only [Prog.noting]
    cases hr : (t₃.state.step (.rename (temporaryPath path uuid) path) c).1 with
    | error e =>
      have hmark : mark path _ (.rename (temporaryPath path uuid) path) c t₃.state =
          ⟨t₃.state.files path, false, false⟩ := by
        simp [mark, Sys.step_rename_error hr]
      rw [hmark, Sys.step_rename_error hr]
      exact herror _ ⟨t₃.state, t₃.notes ++ [_]⟩ h₂.note
    | ok _ =>
      have hrenamed := step_rename_ok (hne uuid) hr ((ht₃.1 _ htemporary).trans hfile₂)
      refine ⟨fun m hm => ?_, .inr ⟨body, hbody, hrenamed⟩, fun _ => ⟨body, hbody, hrenamed⟩⟩
      rcases List.mem_append.mp hm with hm | hm
      · rw [h₂.2 m hm]
        exact ⟨rfl, .inl rfl⟩
      · rw [List.mem_singleton.mp hm]
        exact ⟨rfl, .inr ⟨body, hbody, hrenamed⟩⟩

end Items

/-! ### The lists and the databases -/

/-- A temporary file is not the file it stands in for, when its name is the longer one. -/
lemma withFileName_ne {path : Path} {name : String} (h : ∀ old, path.fileName = some old →
    old.length < name.length) (hname : 2 < name.length) : path.withFileName name ≠ path := by
  have hdot : ".".length = 1 ∧ "..".length = 2 := by decide
  intro heq
  have hname' : name ≠ "." := by
    rintro rfl
    omega
  have hlast := getLast?_withFileName path hname'
  rw [heq] at hlast
  have hfile : path.fileName = some name := by
    simp only [Path.fileName, hlast, Option.filter_some, bne_iff_ne, Bool.and_eq_true, ne_eq,
      ite_eq_left_iff, not_and_or, not_not, reduceCtorEq, imp_false, not_or]
    refine ⟨?_, ?_⟩ <;> rintro rfl <;> omega
  exact absurd (h name hfile) (lt_irrefl _)

/-- So is the old name between a dot and two more parts. -/
lemma withFileName_dotted_ne (path : Path) (default middle : String) {ending : String}
    (hending : 0 < ending.length) :
    path.withFileName s!".{path.fileName.getD default}.{middle}{ending}" ≠ path := by
  have hlength : ∀ name : String, (s!".{name}.{middle}{ending}").length =
      name.length + middle.length + ending.length + 2 := by
    intro name
    have hdot : (toString ".").length = 1 ∧ ".".length = 1 := by decide
    simp only [String.length_append, hdot, toString]
    omega
  apply withFileName_ne
  · intro old hold
    rw [hlength, hold, Option.getD_some]
    omega
  · rw [hlength]
    omega

lemma Security.temporaryPath_ne (path : Path) (uuid : Uuid) :
    Security.temporaryPath path uuid ≠ path :=
  withFileName_dotted_ne path "security-list" uuid.simple (by decide)

lemma Ip2Region.temporaryPath_ne (path : Path) (uuid : Uuid) :
    Ip2Region.temporaryPath path uuid ≠ path :=
  withFileName_dotted_ne path "ip2region.xdb" uuid.toString (by decide)

/-- The bytes pass `validate_list_file`, which parses these entries. -/
def Security.ListFormat.Accepts [StdParse] (format : Security.ListFormat) (kind : String)
    (body : List UInt8) (entries : List IpNetwork) : Prop :=
  ∃ path source, fromUtf8 body = some source ∧ format.parse source path kind = .ok entries ∧
    entries ≠ []

def Security.DownloadItem.IsValid [StdParse] (item : Security.DownloadItem)
    (body : List UInt8) : Prop :=
  ∃ entries, item.format.Accepts item.kind body entries

/-- The bytes pass `validate_downloaded_xdb`. -/
def Ip2Region.Version.IsValid [Xdb] (version : Ip2Region.Version) (body : List UInt8) : Prop :=
  ∃ searcher region, Xdb.new body = some searcher ∧
    Xdb.search searcher version.unspecified = .ok region

lemma Security.checks [StdParse] (item : Security.DownloadItem) (F : Set Path)
    (response : Except IoError Response) :
    Checks F response (Security.validateListFile · item.kind item.format) item.IsValid := by
  intro p body s hp hfile
  unfold Security.validateListFile
  apply wp_ask_context
  intro s' hs' c _ source hr
  have hfile' : s'.files p = some body := (hs' p hp).trans hfile
  have hread : fromUtf8 body = some source := by
    cases hfault : c.fault with
    | some e => simp [Sys.step, hfault] at hr
    | none =>
      cases htext : fromUtf8 body with
      | none => simp [Sys.step, hfault, hfile', htext] at hr
      | some text => simpa [Sys.step, hfault, hfile', htext] using hr
  rw [Prog.wp_bind, Prog.wp_ofExcept]
  cases hparse : item.format.parse source p item.kind with
  | error e => trivial
  | ok entries =>
    dsimp only
    rw [failIf, Prog.wp_ofExcept]
    cases h : bailIf (entries.isEmpty = true)
        s!"downloaded {item.kind} list {p.display} is empty" with
    | error e => trivial
    | ok _ => exact ⟨entries, p, source, hread, hparse, by simpa using bailIf_eq_ok.mp h⟩

lemma Ip2Region.checks [Xdb] (version : Ip2Region.Version) (F : Set Path)
    (response : Except IoError Response) :
    Checks F response (Ip2Region.validateDownloadedXdb · version) version.IsValid := by
  intro p body s hp hfile
  unfold Ip2Region.validateDownloadedXdb
  apply wp_ask_context
  intro s' hs' c _ bytes hr
  have hfile' : s'.files p = some body := (hs' p hp).trans hfile
  obtain rfl : body = bytes := by
    cases hfault : c.fault with
    | some e => simp [Sys.step, hfault] at hr
    | none => simpa [Sys.step, hfault, hfile'] using hr
  cases hnew : Xdb.new body with
  | none => trivial
  | some searcher =>
    dsimp only
    cases hsearch : Xdb.search searcher version.unspecified with
    | error e => trivial
    | ok region => exact ⟨searcher, region, hnew, hsearch⟩

/-! ### At the end, and in between -/

/-- The destination holds what it held before, or a whole body. -/
def OldOrWhole (before : Option (List UInt8)) (Body : List UInt8 → Prop)
    (content : Option (List UInt8)) : Prop :=
  content = before ∨ ∃ body, Body body ∧ content = some body

/-- Only the downloader touches its destination and its temporary files. -/
abbrev Sys.undisturbed (temporaryPath : Path → Uuid → Path) (path : Path)
    (response : Except IoError Response) : Env Choice (Prog.Journal Sys Mark) :=
  Prog.unnoted (Sys.quiet ({path} ∪ temporaries temporaryPath) response)

section Journals

variable {before content : Option (List UInt8)} {Body : List UInt8 → Prop}
  {r : Except String Bool} {notes : List Mark}

lemma Attempted.oldOrWhole (h : Attempted before Body r content notes)
    (hremove : ∀ m ∈ notes, m.failsToRemove = false) : OldOrWhole before Body content := by
  rcases h with ⟨huntouched, -⟩ | ⟨hbefore, body, hbody, -, hwhole | ⟨-, hnone | ⟨m, hm, hfails⟩⟩⟩
  · exact .inl huntouched.1
  · exact .inr ⟨body, hbody, hwhole⟩
  · exact .inl (hnone.trans hbefore.symm)
  · rw [hremove m hm] at hfails
    exact absurd hfails Bool.false_ne_true

lemma Attempted.whole (h : Attempted before Body (.ok true) content notes) :
    ∃ body, Body body ∧ content = some body := by
  rcases h with ⟨-, hr⟩ | ⟨-, body, hbody, -, hwhole | ⟨hr, -⟩⟩
  · exact absurd rfl hr
  · exact ⟨body, hbody, hwhole⟩
  · exact absurd rfl hr

/-- Between the creation and the end of the copy the destination is a truncated download. -/
lemma Attempted.intact_iff (h : Attempted before Body r content notes)
    (hunique : ∀ b b', Body b → Body b' → b = b') :
    (∀ m ∈ notes, OldOrWhole before Body m.content) ↔
      (∀ m ∈ notes, m.creates = false) ∨ Body [] := by
  rcases h with ⟨huntouched, -⟩ | ⟨rfl, body, hbody, hcreated, -⟩
  · have hmark := huntouched.2
    refine iff_of_true (fun m hm => ?_) (.inl fun m hm => ?_)
    · exact .inl (by rw [hmark m hm])
    · rw [hmark m hm]
  · constructor
    · intro hintact
      obtain ⟨m, hm, hcreates⟩ := hcreated.created
      rcases hintact m hm with hold | ⟨b, hb, hwhole⟩
      · rw [hcreated.first m hm hcreates] at hold
        cases hold
      · rw [hcreated.first m hm hcreates] at hwhole
        exact .inr (Option.some.inj hwhole ▸ hb)
    · rintro (hnone | hempty) m hm
      · obtain ⟨m', hm', hcreates⟩ := hcreated.created
        rw [hnone m' hm'] at hcreates
        exact absurd hcreates Bool.false_ne_true
      · obtain rfl := hunique _ _ hbody hempty
        rcases hcreated.growing m hm with hnone | ⟨u, hu, hsome⟩
        · exact .inl hnone
        · exact .inr ⟨[], hempty, by rw [hsome, List.prefix_nil.mp hu]⟩

lemma IsDownload.unique {kind : DownloadKind} {Valid : List UInt8 → Prop}
    {response : Except IoError Response} (b b' : List UInt8)
    (h : IsDownload kind Valid response b) (h' : IsDownload kind Valid response b') : b = b' := by
  obtain ⟨r, rfl, -, -, rfl, -⟩ := h
  obtain ⟨r', hr', -, -, rfl, -⟩ := h'
  rw [Except.ok.inj hr']

end Journals

section Downloaders

variable (response : Except IoError Response)

lemma Security.attempted_downloadOne [StdParse] (item : Security.DownloadItem) (s : Sys) :
    (Security.downloadOne item).wp (Sys.marking item.path)
      (Sys.undisturbed Security.temporaryPath item.path response)
      (fun r t => Attempted (s.files item.path)
        (IsDownload Security.downloadKind item.IsValid response) r (t.state.files item.path)
        t.notes) ⟨s, []⟩ :=
  TransferGateway.attempted_downloadOne (fun _ => writesIn_validateListFile ..)
    (checks item _ response) (temporaryPath_ne _)
    (fun uuid _ _ hfile hbody h => wp_publishDownload (.inl rfl) (.inr ⟨_, uuid, rfl⟩) hbody hfile h)
    ⟨rfl, by simp⟩

lemma Ip2Region.attempted_downloadOne [Xdb] (baseUrl : String)
    (database : Ip2Region.Database) (s : Sys) :
    (Ip2Region.downloadOne baseUrl database).wp (Sys.marking database.path)
      (Sys.undisturbed Ip2Region.temporaryPath database.path response)
      (fun r t => Attempted (s.files database.path)
        (IsDownload Ip2Region.downloadKind database.version.IsValid response) r
        (t.state.files database.path) t.notes) ⟨s, []⟩ :=
  TransferGateway.attempted_downloadOne (fun _ => writesIn_validateDownloadedXdb ..)
    (checks database.version _ response) (temporaryPath_ne _)
    (fun uuid _ _ hfile hbody h => wp_publishDownload (.inl rfl) (.inr ⟨_, uuid, rfl⟩)
      (temporaryPath_ne _ uuid) hbody hfile h)
    ⟨rfl, by simp⟩

lemma Security.replaced_updateOne [StdParse] (item : Security.DownloadItem) (s : Sys) :
    (Security.updateOne item).wp (Sys.marking item.path)
      (Sys.undisturbed Security.temporaryPath item.path response)
      (fun r t => Replaced (s.files item.path)
        (IsDownload Security.downloadKind item.IsValid response) r (t.state.files item.path)
        t.notes) ⟨s, []⟩ :=
  TransferGateway.replaced_updateOne (fun _ => writesIn_validateListFile ..)
    (checks item _ response) (temporaryPath_ne _) ⟨rfl, by simp⟩

lemma Ip2Region.replaced_updateOne [Xdb] (baseUrl : String) (database : Ip2Region.Database)
    (s : Sys) :
    (Ip2Region.updateOne baseUrl database).wp (Sys.marking database.path)
      (Sys.undisturbed Ip2Region.temporaryPath database.path response)
      (fun r t => Replaced (s.files database.path)
        (IsDownload Ip2Region.downloadKind database.version.IsValid response) r
        (t.state.files database.path) t.notes) ⟨s, []⟩ :=
  TransferGateway.replaced_updateOne (fun _ => writesIn_validateDownloadedXdb ..)
    (checks database.version _ response) (temporaryPath_ne _) ⟨rfl, by simp⟩

end Downloaders

/-- Unless the removal of the destination fails, a download or an update that returns leaves what
was there or the whole checked body, and `true` means the body. -/
def EndsOldOrWhole (kind : DownloadKind) (Valid : List UInt8 → Prop)
    (temporaryPath : Path → Uuid → Path) (path : Path) (one : SysProg Bool) : Prop :=
  ∀ (response : Except IoError Response) (s : Sys),
    one.wp (Sys.marking path) (Sys.undisturbed temporaryPath path response) (fun r t =>
      ((∀ m ∈ t.notes, m.failsToRemove = false) →
        OldOrWhole (s.files path) (IsDownload kind Valid response) (t.state.files path)) ∧
      (r = .ok true →
        ∃ body, IsDownload kind Valid response body ∧ t.state.files path = some body)) ⟨s, []⟩

/-- Wherever the run is cut off, the destination holds what was there or the whole body. -/
def IntactThroughout (kind : DownloadKind) (Valid : List UInt8 → Prop)
    (temporaryPath : Path → Uuid → Path) (path : Path) (one : SysProg Bool) : Prop :=
  ∀ (response : Except IoError Response) (s : Sys),
    one.wp (Sys.marking path) (Sys.undisturbed temporaryPath path response) (fun _ t =>
      ∀ m ∈ t.notes, OldOrWhole (s.files path) (IsDownload kind Valid response) m.content) ⟨s, []⟩

/-- The runs in which the destination is intact throughout: it is not created, or there is nothing
to copy into it. -/
def IntactUnlessCreated (kind : DownloadKind) (Valid : List UInt8 → Prop)
    (temporaryPath : Path → Uuid → Path) (path : Path) (one : SysProg Bool) : Prop :=
  ∀ (response : Except IoError Response) (s : Sys),
    one.wp (Sys.marking path) (Sys.undisturbed temporaryPath path response) (fun _ t =>
      (∀ m ∈ t.notes, OldOrWhole (s.files path) (IsDownload kind Valid response) m.content) ↔
        (∀ m ∈ t.notes, m.creates = false) ∨ IsDownload kind Valid response []) ⟨s, []⟩

/-- Whatever the server sends and whatever fails, the four procedures leave the old file or a
whole and checked one. -/
theorem downloads_end_old_or_whole [StdParse] [Xdb] :
    (∀ item : Security.DownloadItem,
      EndsOldOrWhole Security.downloadKind item.IsValid Security.temporaryPath item.path
        (Security.downloadOne item) ∧
      EndsOldOrWhole Security.downloadKind item.IsValid Security.temporaryPath item.path
        (Security.updateOne item)) ∧
    ∀ (baseUrl : String) (database : Ip2Region.Database),
      EndsOldOrWhole Ip2Region.downloadKind database.version.IsValid Ip2Region.temporaryPath
        database.path (Ip2Region.downloadOne baseUrl database) ∧
      EndsOldOrWhole Ip2Region.downloadKind database.version.IsValid Ip2Region.temporaryPath
        database.path (Ip2Region.updateOne baseUrl database) := by
  refine ⟨fun item => ⟨fun response s => ?_, fun response s => ?_⟩,
    fun baseUrl database => ⟨fun response s => ?_, fun response s => ?_⟩⟩
  · refine Prog.wp_mono (Security.attempted_downloadOne response item s) fun r t h =>
      ⟨h.oldOrWhole, ?_⟩
    rintro rfl
    exact h.whole
  · exact Prog.wp_mono (Security.replaced_updateOne response item s) fun r t h =>
      ⟨fun _ => h.now, h.done⟩
  · refine Prog.wp_mono (Ip2Region.attempted_downloadOne response baseUrl database s) fun r t h =>
      ⟨h.oldOrWhole, ?_⟩
    rintro rfl
    exact h.whole
  · exact Prog.wp_mono (Ip2Region.replaced_updateOne response baseUrl database s) fun r t h =>
      ⟨fun _ => h.now, h.done⟩

/-- An update is never caught half done; a first download is exactly when it creates its
destination before it has the bytes. -/
theorem downloads_cut_off_old_or_whole [StdParse] [Xdb] :
    (∀ item : Security.DownloadItem,
      IntactUnlessCreated Security.downloadKind item.IsValid Security.temporaryPath item.path
        (Security.downloadOne item) ∧
      IntactThroughout Security.downloadKind item.IsValid Security.temporaryPath item.path
        (Security.updateOne item)) ∧
    ∀ (baseUrl : String) (database : Ip2Region.Database),
      IntactUnlessCreated Ip2Region.downloadKind database.version.IsValid Ip2Region.temporaryPath
        database.path (Ip2Region.downloadOne baseUrl database) ∧
      IntactThroughout Ip2Region.downloadKind database.version.IsValid Ip2Region.temporaryPath
        database.path (Ip2Region.updateOne baseUrl database) := by
  refine ⟨fun item => ⟨fun response s => ?_, fun response s => ?_⟩,
    fun baseUrl database => ⟨fun response s => ?_, fun response s => ?_⟩⟩
  · exact Prog.wp_mono (Security.attempted_downloadOne response item s) fun r t h =>
      h.intact_iff IsDownload.unique
  · exact Prog.wp_mono (Security.replaced_updateOne response item s) fun r t h m hm =>
      (h.marks m hm).2
  · exact Prog.wp_mono (Ip2Region.attempted_downloadOne response baseUrl database s) fun r t h =>
      h.intact_iff IsDownload.unique
  · exact Prog.wp_mono (Ip2Region.replaced_updateOne response baseUrl database s) fun r t h m hm =>
      (h.marks m hm).2

/-- A list of one Tor exit that is not on the disk yet, and the server that has it. -/
def torItem : Security.DownloadItem :=
  ⟨"Tor exit", .ip, ⟨false, ["tor.txt"]⟩, "http://lists/tor.txt"⟩

def torResponse : Response := ⟨"200 OK", true, none, [asBytes "203.0.113.8\n"], none⟩

/-- A disk with this content for the list, and nothing else. -/
def torListDisk (content : Option (List UInt8)) : Sys where
  files p := if p = torItem.path then content else none
  sink := none
  log := []
  watcher := none
  queue := []
  edits := 0
  seen := []

/-- A download that dies after the creation leaves an empty list, and the next start keeps it. -/
theorem first_download_cut_off_is_kept :
    letI := dottedParse
    ¬(∀ item : Security.DownloadItem,
      IntactThroughout Security.downloadKind item.IsValid Security.temporaryPath item.path
        (Security.downloadOne item)) ∧
    let later := (Security.downloadOne torItem).run Sys.handle (fun _ => ⟨id, .calm⟩)
      (torListDisk (some []))
    later.1 = .ok false ∧ later.2.files torItem.path = some [] := by
  let _ := dottedParse
  refine ⟨fun hintact => ?_, by decide +kernel, by decide +kernel⟩
  let moves : ℕ → Prog.Move Choice (Prog.Journal Sys Mark) := fun _ =>
    ⟨id, { Choice.calm with response := .ok torResponse }⟩
  have hrun := Prog.outcome_run (h := Sys.marking torItem.path)
    (E := Sys.undisturbed Security.temporaryPath torItem.path (.ok torResponse))
    (Security.downloadOne torItem) (m := moves)
    (fun _ => ⟨fun _ => ⟨fun _ _ => rfl, rfl⟩, rfl⟩) ⟨torListDisk none, []⟩
  have hempty : (((Security.downloadOne torItem).run (Sys.marking torItem.path) moves
      ⟨torListDisk none, []⟩).2.notes.any (·.content == some [])) = true := by decide +kernel
  obtain ⟨m, hm, hcontent⟩ := List.any_eq_true.mp hempty
  have hold := Prog.wp_iff_outcome.mp (hintact torItem (.ok torResponse) (torListDisk none))
    _ _ hrun m hm
  rw [beq_iff_eq.mp hcontent] at hold
  rcases hold with hold | ⟨body, ⟨r, hr, -, -, hchunks, -⟩, hwhole⟩
  · cases hold
  · obtain rfl := Except.ok.inj hr
    rw [← Option.some.inj hwhole] at hchunks
    exact absurd hchunks (by decide)

end TransferGateway

import TransferGateway.Addresses
import TransferGateway.Downloads
import TransferGateway.Security.Families

/-!
# An accepted list opens

A download is checked with the parser of its format, and a later start reads it with the parser of
networks. What the first accepts the second reads with the same entries.
-/

namespace TransferGateway

namespace Security

/-! ### The two parsers -/

/-- Items that one parser accepts are accepted by another one that agrees where it succeeds. -/
lemma mapM_ok_mono {ι ε ε' β : Type} {f : ι → Except ε β} {g : ι → Except ε' β} {items : List ι}
    {results : List β} (h : ∀ i b, f i = .ok b → g i = .ok b) (hf : items.mapM f = .ok results) :
    items.mapM g = .ok results := by
  rw [mapM_eq_ok] at hf ⊢
  exact hf.imp h

lemma and_mask_width {w : ℕ} (a : BitVec w) : a &&& mask w w = a := by
  have hmask : mask w w = BitVec.allOnes w := by
    rw [mask]
    split_ifs with hw
    · subst hw
      rfl
    · simp
  rw [hmask, BitVec.and_allOnes]

section Parsers

variable [StdParse]

/-- An address without a prefix is its own network. -/
lemma parseNetwork_of_ipAddr {value : String} {ip : IpAddr} (hslash : '/' ∉ value.toList)
    (h : StdParse.ipAddr value = some ip) : parseNetwork value = .ok (.fromIp ip) := by
  rw [parseNetwork, split_of_notMem hslash]
  cases ip with
  | v4 bits => simp [h, IpAddr.width, maskNetwork, and_mask_width, IpNetwork.fromIp, pure, Except.pure]
  | v6 bits => simp [h, IpAddr.width, maskNetwork, and_mask_width, IpNetwork.fromIp, pure, Except.pure]

/-- Paths and kinds occur in errors only. -/
lemma parseNetworkLines_congr {source kind kind' : String} {path path' : Path}
    {entries : List IpNetwork} (h : parseNetworkLines source path kind = .ok entries) :
    parseNetworkLines source path' kind' = .ok entries := by
  refine mapM_ok_mono (fun line entry hentry => ?_) h
  rw [mapError_eq_ok] at hentry ⊢
  exact hentry

/-- A list of addresses is a list of networks. -/
lemma parseNetworkLines_of_parseIpLines
    (hslash : ∀ text : String, '/' ∈ text.toList → StdParse.ipAddr text = none)
    {source kind kind' : String} {path path' : Path} {entries : List IpNetwork}
    (h : parseIpLines source path kind = .ok entries) :
    parseNetworkLines source path' kind' = .ok entries := by
  refine mapM_ok_mono (fun line entry hentry => ?_) h
  obtain ⟨lineNumber, value⟩ := line
  dsimp only at hentry ⊢
  rw [mapError_eq_ok]
  cases hip : StdParse.ipAddr value with
  | none => simp [hip] at hentry
  | some ip =>
    simp only [hip, Except.ok.injEq] at hentry
    rw [← hentry]
    refine parseNetwork_of_ipAddr (fun hmem => ?_) hip
    rw [hslash value hmem] at hip
    cases hip

/-- What a format accepts is read as networks, with the same entries. -/
lemma ListFormat.Accepts.parseNetworkLines {format : ListFormat} {kind : String}
    {body : List UInt8} {entries : List IpNetwork} (h : format.Accepts kind body entries)
    (hslash : ∀ text : String, '/' ∈ text.toList → StdParse.ipAddr text = none) (path : Path)
    (kind' : String) :
    ∃ source, fromUtf8 body = some source ∧
      TransferGateway.parseNetworkLines source path kind' = .ok entries := by
  obtain ⟨path', source, hsource, hparse, -⟩ := h
  refine ⟨source, hsource, ?_⟩
  cases format with
  | ip => exact parseNetworkLines_of_parseIpLines hslash hparse
  | network => exact parseNetworkLines_congr hparse

end Parsers

end Security

/-! ### The loaders -/

/-- Nothing fails, the files are seen, and nobody changes those of `F`. -/
def Sys.readable (F : Set Path) : Env Choice Sys where
  interferes s s' := ∀ q ∈ F, s'.files q = s.files q
  admits c := c.fault = none ∧ c.hidden = false

section Load

variable [StdParse] {F : Set Path}

/-- A list whose content has entries is loaded with them. -/
lemma wp_loadList_readable {path : Option Path} {kind : String} {networks : List IpNetwork}
    {s : Sys} (hF : ∀ q ∈ configuredPath path, q ∈ F)
    (h : contentEntries ((configuredPath path).bind s.files) path kind = .ok networks) :
    (loadList path kind).wp Sys.handle (Sys.readable F) (fun r s' =>
      r = .ok networks ∧ ∀ q ∈ F, s'.files q = s.files q) s := by
  rw [loadList]
  cases hpath : configuredPath path with
  | none =>
    simp only [contentEntries, hpath, Option.bind_none, Except.ok.injEq] at h
    exact ⟨by rw [h], fun _ _ => rfl⟩
  | some q =>
    have hq : q ∈ F := hF q hpath
    simp only [contentEntries, hpath, Option.bind_some, Option.getD_some] at h
    rw [Prog.wp_bind, Prog.wp_perform]
    intro s₁ hs₁ c hc
    cases hfile : s.files q with
    | none =>
      simp only [hfile, Except.ok.injEq] at h
      simp only [Sys.step, hs₁ q hq, hfile, Option.isSome_none, Bool.false_and, Bool.not_false,
        if_true]
      exact ⟨by rw [h], hs₁⟩
    | some bytes =>
      simp only [Sys.step, hs₁ q hq, hfile, hc.2, Option.isSome_some, Bool.not_false,
        Bool.and_true, Bool.not_true, Bool.false_eq_true, if_false]
      rw [Prog.wp_bind, Prog.wp_perform]
      intro s₂ hs₂ c₂ hc₂
      cases htext : fromUtf8 bytes with
      | none => simp [hfile, htext] at h
      | some source =>
        simp only [hfile, htext] at h
        simp only [Sys.step, hc₂.1, hs₂ q hq, hs₁ q hq, hfile, htext, Prog.wp_bind, wp_context,
          Except.mapError, Prog.wp_ofExcept, h]
        exact ⟨trivial, fun p hp => (hs₂ p hp).trans (hs₁ p hp)⟩

/-- Going on with the entries of a list. -/
lemma wp_loadList_seq {path : Option Path} {kind : String} {networks : List IpNetwork}
    {α : Type} {f : List IpNetwork → SysProg α} {Q : Except String α → Sys → Prop} {s t : Sys}
    (hF : ∀ q ∈ configuredPath path, q ∈ F)
    (h : contentEntries ((configuredPath path).bind s.files) path kind = .ok networks)
    (ht : ∀ q ∈ F, t.files q = s.files q)
    (hf : ∀ t' : Sys, (∀ q ∈ F, t'.files q = s.files q) →
      (f networks).wp Sys.handle (Sys.readable F) Q t') :
    (loadList path kind >>= f).wp Sys.handle (Sys.readable F) Q t := by
  rw [← Option.bind_congr fun q hq => ht q (hF q hq)] at h
  refine Prog.wp_seq (wp_loadList_readable hF h) (fun loaded t' h' => ?_) fun e t' h' => ?_
  · cases h'.1
    exact hf t' fun q hq => (h'.2 q hq).trans (ht q hq)
  · cases h'.1

/-- Both loaders of a single list. -/
lemma wp_loaders_readable {path : Option Path} {kind : String} {networks : List IpNetwork}
    {s : Sys} (hF : ∀ q ∈ configuredPath path, q ∈ F)
    (h : contentEntries ((configuredPath path).bind s.files) path kind = .ok networks) :
    (loadIpFile path kind).wp Sys.handle (Sys.readable F)
        (fun r _ => r = .ok (.fromNetworks networks)) s ∧
      (loadNetworkFiles [(path, kind)]).wp Sys.handle (Sys.readable F)
        (fun r _ => r = .ok (.fromNetworks networks)) s := by
  constructor
  · exact wp_loadList_seq hF h (fun _ _ => rfl) fun _ _ => rfl
  · simp only [loadNetworkFiles, List.mapM_cons, List.mapM_nil, bind_assoc, pure_bind]
    refine wp_loadList_seq hF h (fun _ _ => rfl) fun _ _ => ?_
    simp

variable [StdCase]

/-- What assembles from the contents on the disk is opened. -/
lemma Security.wp_open_readable {config : SecurityConfig} {security : Security} {s : Sys}
    (hF : config.listPaths ⊆ F)
    (h : Security.assemble config (.on s.files config) = .ok security) :
    (Security.open config).wp Sys.handle (Sys.readable F) (fun r _ => r = .ok security) s := by
  simp only [Security.assemble, except_bind_eq_ok, ListContents.on] at h
  obtain ⟨allowlist, hallowlist, vpn4, hvpn4, vpn6, hvpn6, tor, htor, spam, hspam, hsecurity⟩ := h
  cases hsecurity
  have h₁ : ∀ q ∈ configuredPath config.vpnIpv4List, q ∈ F := fun q hq => hF (.inl hq)
  have h₂ : ∀ q ∈ configuredPath config.vpnIpv6List, q ∈ F := fun q hq => hF (.inr (.inl hq))
  have h₃ : ∀ q ∈ configuredPath config.torExitList, q ∈ F :=
    fun q hq => hF (.inr (.inr (.inl hq)))
  have h₄ : ∀ q ∈ configuredPath config.spamList, q ∈ F :=
    fun q hq => hF (.inr (.inr (.inr hq)))
  simp only [Security.open, loadNetworkFiles, loadIpFile, hallowlist, Prog.ofExcept_ok,
    List.mapM_cons, List.mapM_nil, bind_assoc, pure_bind]
  refine wp_loadList_seq h₁ hvpn4 (fun _ _ => rfl) fun t₁ ht₁ => wp_loadList_seq h₂ hvpn6 ht₁
    fun t₂ ht₂ => wp_loadList_seq h₃ htor ht₂ fun t₃ ht₃ => wp_loadList_seq h₄ hspam ht₃
    fun t₄ _ => ?_
  simp

end Load

/-! ### A published download -/

namespace Security

lemma configuredPath_item {config : SecurityConfig} {item : DownloadItem}
    (h : item ∈ automaticListItems config) : configuredPath (some item.path) = some item.path := by
  have hself : ∀ {path : Option Path}, item.path ∈ configuredPath path →
      configuredPath (some item.path) = some item.path := by
    intro path hpath
    rw [Option.mem_def, configuredPath, Option.filter_eq_some_iff] at hpath
    simp [configuredPath, hpath.2]
  rcases path_mem_listPaths h with hpath | hpath | hpath | hpath <;> exact hself hpath

section Published

variable [StdParse]

/-- The content of an accepted list. -/
lemma ListFormat.Accepts.contentEntries {format : ListFormat} {kind : String}
    {body : List UInt8} {entries : List IpNetwork} (h : format.Accepts kind body entries)
    (hslash : ∀ text : String, '/' ∈ text.toList → StdParse.ipAddr text = none)
    (path : Option Path) (kind' : String) :
    TransferGateway.contentEntries (some body) path kind' = .ok entries := by
  obtain ⟨source, hsource, hparse⟩ := h.parseNetworkLines hslash ((configuredPath path).getD ⟨false, []⟩)
    kind'
  simp only [TransferGateway.contentEntries, hsource, hparse]

/-- Putting accepted lists in the place of some that opened leaves a configuration that opens. -/
lemma assemble_of_accepted [StdCase]
    (hslash : ∀ text : String, '/' ∈ text.toList → StdParse.ipAddr text = none)
    {config : SecurityConfig} {files files' : Path → Option (List UInt8)} {security : Security}
    (h : assemble config (.on files config) = .ok security)
    (hfiles : ∀ q ∈ config.listPaths, files' q = files q ∨
      ∃ (format : ListFormat) (kind : String) (bytes : List UInt8) (entries : List IpNetwork),
        files' q = some bytes ∧ format.Accepts kind bytes entries) :
    ∃ security', assemble config (.on files' config) = .ok security' := by
  have hlist : ∀ {path : Option Path} {kind : String} {networks : List IpNetwork},
      (∀ q ∈ configuredPath path, q ∈ config.listPaths) →
      TransferGateway.contentEntries ((configuredPath path).bind files) path kind = .ok networks →
      ∃ networks',
        TransferGateway.contentEntries ((configuredPath path).bind files') path kind =
          .ok networks' := by
    intro path kind networks hF hnetworks
    cases hpath : configuredPath path with
    | none =>
      rw [hpath] at hnetworks
      exact ⟨networks, hnetworks⟩
    | some q =>
      rw [hpath] at hnetworks
      rw [Option.bind_some] at hnetworks ⊢
      rcases hfiles q (hF q hpath) with hsame | ⟨format, kind', bytes, entries, hbytes, haccepts⟩
      · exact ⟨networks, hsame ▸ hnetworks⟩
      · exact ⟨entries, hbytes ▸ haccepts.contentEntries hslash path kind⟩
  simp only [assemble, except_bind_eq_ok, ListContents.on] at h ⊢
  obtain ⟨allowlist, hallowlist, vpn4, hvpn4, vpn6, hvpn6, tor, htor, spam, hspam, -⟩ := h
  obtain ⟨vpn4', hvpn4'⟩ := hlist (fun q hq => .inl hq) hvpn4
  obtain ⟨vpn6', hvpn6'⟩ := hlist (fun q hq => .inr (.inl hq)) hvpn6
  obtain ⟨tor', htor'⟩ := hlist (fun q hq => .inr (.inr (.inl hq))) htor
  obtain ⟨spam', hspam'⟩ := hlist (fun q hq => .inr (.inr (.inr hq))) hspam
  exact ⟨_, allowlist, hallowlist, vpn4', hvpn4', vpn6', hvpn6', tor', htor', spam', hspam', rfl⟩

end Published

section Std

attribute [local instance] stdParse

/-- A list that the check of its download accepts is loaded with the entries that were checked, of
which there is at least one, and no accepted list keeps a configuration from opening. -/
theorem accepted_list_opens [StdCase] (config : SecurityConfig) :
    (∀ item ∈ automaticListItems config, ∀ (temporary : Path) (bytes : List UInt8)
        (response : Except IoError Response) (s s' : Sys), s.files temporary = some bytes →
      (validateListFile temporary item.kind item.format).Outcome Sys.handle
        (Sys.quiet {temporary} response) s (.ok ()) s' →
      ∃ entries, item.format.Accepts item.kind bytes entries ∧
        (IpSet.fromNetworks entries).isEmpty = false ∧
        (∀ ip, (IpSet.fromNetworks entries).contains ip = true ↔
          ∃ network ∈ entries, network.Covers ip) ∧
        ∀ t : Sys, t.files item.path = some bytes →
          (loadIpFile (some item.path) item.kind).wp Sys.handle (Sys.readable {item.path})
            (fun r _ => r = .ok (.fromNetworks entries)) t ∧
          (loadNetworkFiles [(some item.path, item.kind)]).wp Sys.handle
            (Sys.readable {item.path}) (fun r _ => r = .ok (.fromNetworks entries)) t) ∧
    ∀ (files : Path → Option (List UInt8)) (security : Security) (s : Sys),
      assemble config (.on files config) = .ok security →
      (∀ q ∈ config.listPaths, s.files q = files q ∨
        ∃ (format : ListFormat) (kind : String) (bytes : List UInt8) (entries : List IpNetwork),
          s.files q = some bytes ∧ format.Accepts kind bytes entries) →
      (Security.open config).wp Sys.handle (Sys.readable config.listPaths)
        (fun r _ => ∃ security', r = .ok security') s := by
  have hslash : ∀ text : String, '/' ∈ text.toList → StdParse.ipAddr text = none :=
    fun _ => AddrReader.parseIpAddr_of_slash
  refine ⟨fun item hitem temporary bytes response s s' hfile hout => ?_,
    fun files security s h hfiles => ?_⟩
  · obtain ⟨entries, haccepts⟩ : item.IsValid bytes := Prog.wp_iff_outcome.mp
      (checks item {temporary} response temporary bytes s rfl hfile) _ _ hout
    have ⟨_, _, _, _, hne⟩ := haccepts
    have hpath := configuredPath_item hitem
    refine ⟨entries, haccepts, IpSet.isEmpty_fromNetworks hne,
      IpSet.contains_fromNetworks_iff entries, fun t ht => wp_loaders_readable ?_ ?_⟩
    · rw [hpath]
      rintro q ⟨⟩
      rfl
    · rw [hpath, Option.bind_some, ht]
      exact haccepts.contentEntries hslash _ _
  · obtain ⟨security', h'⟩ := assemble_of_accepted hslash h hfiles
    exact Prog.wp_mono (wp_open_readable subset_rfl h') fun _ _ hr => ⟨security', hr⟩

end Std

end Security

/-- One exit with an IPv6 address, and a comment. -/
def exitList : List UInt8 := asBytes "# exits\n2001:db8::1 # relay\n"

def torListPart : Path := ⟨false, [".tor.txt.download"]⟩

/-- The list passes the check of the Tor exits, and the networks are loaded from it. -/
theorem Security.accepted_list_opens_exit :
    letI := stdParse
    ∃ entries, Security.ListFormat.ip.Accepts "Tor exit" exitList entries ∧
      (IpSet.fromNetworks entries).isEmpty = false ∧
      ∀ t : Sys, t.files ⟨false, ["tor.txt"]⟩ = some exitList →
        (loadIpFile (some ⟨false, ["tor.txt"]⟩) "Tor exit").wp Sys.handle
          (Sys.readable {⟨false, ["tor.txt"]⟩}) (fun r _ => r = .ok (.fromNetworks entries)) t := by
  let _ := stdParse
  let _ := asciiCase
  let item : Security.DownloadItem :=
    ⟨"Tor exit", .ip, ⟨false, ["tor.txt"]⟩, torConfig.torExitListUrl⟩
  have hitem : item ∈ Security.automaticListItems torConfig := .head _
  let disk : Sys := ⟨fun _ => some exitList, none, [], none, [], 0, []⟩
  have hrun := Prog.outcome_run (h := Sys.handle) (E := Sys.quiet {torListPart} Choice.calm.response)
    (Security.validateListFile torListPart item.kind item.format) (m := fun _ => ⟨id, .calm⟩)
    (fun _ => ⟨fun _ _ _ => rfl, rfl⟩) disk
  have hok : ((Security.validateListFile torListPart item.kind item.format).run Sys.handle
      (fun _ => ⟨id, .calm⟩) disk).1 = .ok () := by
    decide +kernel
  rw [hok] at hrun
  obtain ⟨entries, haccepts, hne, -, hload⟩ :=
    (Security.accepted_list_opens torConfig).1 item hitem torListPart exitList _ disk _ rfl hrun
  exact ⟨entries, haccepts, hne, fun t ht => (hload t ht).1⟩

end TransferGateway

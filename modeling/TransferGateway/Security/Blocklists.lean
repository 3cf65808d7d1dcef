import TransferGateway.Security.Lists
import TransferGateway.Ip2region.Location

/-!
# Block lists

`Security` holds the allowlist, the three block lists and the flags of one configuration, and
decides whether a client at a location is refused.
-/

namespace TransferGateway

inductive BlockReason where
  | vpn
  | tor
  | spam
  deriving DecidableEq

namespace BlockReason

def label : BlockReason → String
  | vpn => "VPN/Proxy"
  | tor => "Tor"
  | spam => "Spam IP"

def disconnectKey : BlockReason → String
  | vpn => "disconnect.vpn_blocked"
  | tor => "disconnect.tor_blocked"
  | spam => "disconnect.spam_blocked"

end BlockReason

structure Security where
  enabled : Bool
  blockVpn : Bool
  blockTor : Bool
  blockSpam : Bool
  allowlist : IpSet
  vpn : IpSet
  tor : IpSet
  spam : IpSet
  vpnIspContains : List String

namespace Security

def isEnabled (s : Security) : Bool :=
  s.enabled && (s.blockVpn || s.blockTor || s.blockSpam)

def hasData (s : Security) : Bool :=
  !s.vpn.isEmpty || !s.tor.isEmpty || !s.spam.isEmpty || !s.vpnIspContains.isEmpty

variable [StdCase]

def matchesVpnIsp (s : Security) : Option String → Bool
  | none => false
  | some isp => s.vpnIspContains.any (containsText (StdCase.toLowercase isp))

def matchesVpn (s : Security) (location : IpLocation) : Bool :=
  !s.allowlist.contains location.ip &&
    (s.vpn.contains location.ip || s.matchesVpnIsp location.isp)

def matchesTor (s : Security) (location : IpLocation) : Bool :=
  !s.allowlist.contains location.ip && s.tor.contains location.ip

def matchesSpam (s : Security) (location : IpLocation) : Bool :=
  !s.allowlist.contains location.ip && s.spam.contains location.ip

def check (s : Security) (location : IpLocation) : Option BlockReason :=
  if !s.isEnabled then none
  else if s.blockTor && s.matchesTor location then some .tor
  else if s.blockVpn && s.matchesVpn location then some .vpn
  else if s.blockSpam && s.matchesSpam location then some .spam
  else none

end Security

/-! ### Opening -/

section Open

variable [StdParse]

/-- `text.trim()`. -/
def trim (text : String) : String :=
  String.ofList (((text.toList.dropWhile isWhitespace).reverse.dropWhile isWhitespace).reverse)

/-- The entries of the list at `path`; a list that is not configured or not there has none. -/
def loadList (path : Option Path) (kind : String) : SysProg (List IpNetwork) :=
  match configuredPath path with
  | none => pure []
  | some path => do
    if !(← ask (.pathExists path)) then return []
    let source ← context (← ask (.readToString path)) s!"unable to read {kind} list {path.display}"
    .ofExcept (parseNetworkLines source path kind)

def loadNetworkFiles (files : List (Option Path × String)) : SysProg IpSet := do
  let networks ← files.mapM fun (path, kind) => loadList path kind
  return IpSet.fromNetworks networks.flatten

def loadIpFile (path : Option Path) (kind : String) : SysProg IpSet := do
  return IpSet.fromNetworks (← loadList path kind)

/-- The entries of `security.allowlist`. -/
def parseAllowlist (allowlist : List String) : Except String (List IpNetwork) :=
  allowlist.zipIdx.mapM fun (value, index) =>
    (parseNetwork value).mapError fun _ =>
      s!"security.allowlist[{index}] is not a valid IP/CIDR: {value}"

variable [StdCase]

/-- The flags of a configuration with sets that are already there. -/
def Security.ofSets (config : SecurityConfig) (allowlist vpn tor spam : IpSet) : Security where
  enabled := config.enabled
  blockVpn := config.blockVpn
  blockTor := config.blockTor
  blockSpam := config.blockSpam
  allowlist := allowlist
  vpn := vpn
  tor := tor
  spam := spam
  vpnIspContains :=
    (config.vpnIspContains.map fun value => StdCase.toLowercase (trim value)).filter (· ≠ "")

def Security.open (config : SecurityConfig) : SysProg Security := do
  let allowlist ← .ofExcept (parseAllowlist config.allowlist)
  let vpn ← loadNetworkFiles [(config.vpnIpv4List, "VPN IPv4"), (config.vpnIpv6List, "VPN IPv6")]
  let tor ← loadIpFile config.torExitList "Tor exit"
  let spam ← loadIpFile config.spamList "Spam IP"
  return .ofSets config (.fromNetworks allowlist) vpn tor spam

end Open

/-! ### What was opened -/

section Opened

variable [StdParse]

/-- What the files of a configuration's lists held; nothing for a list that was not there. -/
structure ListContents where
  vpnIpv4 : Option (List UInt8)
  vpnIpv6 : Option (List UInt8)
  tor : Option (List UInt8)
  spam : Option (List UInt8)

/-- The files of a configuration's lists on a disk. -/
def ListContents.on (files : Path → Option (List UInt8)) (config : SecurityConfig) :
    ListContents where
  vpnIpv4 := (configuredPath config.vpnIpv4List).bind files
  vpnIpv6 := (configuredPath config.vpnIpv6List).bind files
  tor := (configuredPath config.torExitList).bind files
  spam := (configuredPath config.spamList).bind files

/-- The contents were read from the configured files. -/
structure ListContents.ReadIn (contents : ListContents) (seen : List (Path × List UInt8))
    (config : SecurityConfig) : Prop where
  vpnIpv4 : ReadAt seen (configuredPath config.vpnIpv4List) contents.vpnIpv4
  vpnIpv6 : ReadAt seen (configuredPath config.vpnIpv6List) contents.vpnIpv6
  tor : ReadAt seen (configuredPath config.torExitList) contents.tor
  spam : ReadAt seen (configuredPath config.spamList) contents.spam

/-- The entries in the content of a list. -/
def contentEntries (content : Option (List UInt8)) (path : Option Path) (kind : String) :
    Except String (List IpNetwork) :=
  let path := (configuredPath path).getD ⟨false, []⟩
  match content with
  | none => .ok []
  | some bytes =>
    match fromUtf8 bytes with
    | some source => parseNetworkLines source path kind
    | none => .error s!"unable to read {kind} list {path.display}"

variable {E : Env Choice Sys}

lemma writesIn_loadList (path : Option Path) (kind : String) :
    WritesIn ∅ (loadList path kind) := by
  rw [loadList]
  split
  · trivial
  · refine .bind (by simp) fun present => ?_
    split
    · trivial
    · exact .bind (by simp) fun _ => .bind (by simp) fun _ => by simp

/-- What `loadList` returns are the entries of a content, that of the file if it is steady. -/
lemma wp_loadList (path : Option Path) (kind : String) (s : Sys) :
    (loadList path kind).wp Sys.handle E (Prog.onOk fun networks s' =>
      ∃ content, contentEntries content path kind = .ok networks ∧
        ReadAt s'.seen (configuredPath path) content ∧
        ((∀ q ∈ configuredPath path, Sys.Steady E q) →
          content = (configuredPath path).bind s'.files)) s := by
  rw [loadList]
  cases hpath : configuredPath path with
  | none => exact ⟨none, rfl, nofun, fun _ => rfl⟩
  | some q =>
    simp only [Prog.wp_bind, Prog.wp_perform]
    intro s₁ hs₁ c hc
    cases hpresent : (s₁.files q).isSome && !c.hidden with
    | false =>
      -- the list counts as absent
      simp only [Sys.step, hpresent, Bool.not_false, if_true, Prog.wp_pure, Prog.onOk]
      refine ⟨none, rfl, nofun, fun hsteady => ?_⟩
      simp [(hsteady q rfl).absent hc hpresent]
    | true =>
      simp only [Sys.step, hpresent, Bool.not_true, Bool.false_eq_true, if_false, Prog.wp_bind,
        Prog.wp_perform, wp_context]
      intro s₂ hs₂ c₂ hc₂
      cases c₂.fault with
      | some e => trivial
      | none =>
        cases hq : s₂.files q with
        | none => trivial
        | some bytes =>
          cases htext : fromUtf8 bytes with
          | none => simp [htext, Except.mapError]
          | some source =>
            cases hparse : parseNetworkLines source q kind with
            | error e => simp [htext, Except.mapError, hparse]
            | ok networks =>
              simp only [htext, Except.mapError, hparse, Prog.wp_ofExcept, Prog.onOk]
              refine ⟨some bytes, by simp [contentEntries, hpath, htext, hparse], ?_,
                fun _ => by simp [hq]⟩
              rintro _ ⟨⟩
              exact ⟨q, rfl, List.mem_cons_self⟩

/-- Opening a list leaves steady files as they are. -/
lemma wp_loadList_frame (path : Option Path) (kind : String) (s : Sys) :
    (loadList path kind).wp Sys.handle E (Prog.onOk fun networks s' =>
      (∃ content, contentEntries content path kind = .ok networks ∧
        ReadAt s'.seen (configuredPath path) content ∧
        ((∀ q ∈ configuredPath path, Sys.Steady E q) →
          content = (configuredPath path).bind s'.files)) ∧
      ∀ q, Sys.Steady E q → s'.files q = s.files q) s := by
  apply Prog.wp_onOk_and (wp_loadList path kind s)
  exact Prog.wp_mono (wp_frame (writesIn_loadList path kind) s) fun _ _ h q => h q (by simp)

/-- The paths of a configuration's lists. -/
def SecurityConfig.listPaths (config : SecurityConfig) : Set Path :=
  {q | q ∈ configuredPath config.vpnIpv4List ∨ q ∈ configuredPath config.vpnIpv6List ∨
    q ∈ configuredPath config.torExitList ∨ q ∈ configuredPath config.spamList}

variable [StdCase]

/-- What these contents open to. -/
def Security.assemble (config : SecurityConfig) (contents : ListContents) :
    Except String Security := do
  let allowlist ← parseAllowlist config.allowlist
  let vpn4 ← contentEntries contents.vpnIpv4 config.vpnIpv4List "VPN IPv4"
  let vpn6 ← contentEntries contents.vpnIpv6 config.vpnIpv6List "VPN IPv6"
  let tor ← contentEntries contents.tor config.torExitList "Tor exit"
  let spam ← contentEntries contents.spam config.spamList "Spam IP"
  return .ofSets config (.fromNetworks allowlist) (.fromNetworks (vpn4 ++ vpn6))
    (.fromNetworks tor) (.fromNetworks spam)

lemma Security.writesIn_open (config : SecurityConfig) : WritesIn ∅ (Security.open config) := by
  rw [Security.open, loadNetworkFiles, loadIpFile]
  refine .bind (by simp) fun _ => .bind (.bind ?_ fun _ => trivial) fun _ =>
    .bind (.bind (writesIn_loadList _ _) fun _ => trivial) fun _ =>
    .bind (.bind (writesIn_loadList _ _) fun _ => trivial) fun _ => trivial
  simp only [List.mapM_cons, List.mapM_nil]
  exact .bind (writesIn_loadList _ _) fun _ =>
    .bind (.bind (writesIn_loadList _ _) fun _ => trivial) fun _ => trivial

/-- An opened `Security` is assembled from contents that were read, and that are still on the disk
if the lists are steady. -/
lemma Security.wp_open (config : SecurityConfig) (s : Sys) :
    (Security.open config).wp Sys.handle E (Prog.onOk fun security s' =>
      ∃ contents, Security.assemble config contents = .ok security ∧
        (Sys.Private E → contents.ReadIn s'.seen config) ∧
        ((∀ q ∈ config.listPaths, Sys.Steady E q) → contents = .on s'.files config)) s := by
  unfold Security.open loadNetworkFiles loadIpFile
  cases hallow : parseAllowlist config.allowlist with
  | error e => trivial
  | ok allowlist =>
    simp only [Prog.ofExcept_ok, List.mapM_cons, List.mapM_nil, bind_assoc, pure_bind]
    refine Prog.wp_seq_onOk (wp_loadList_frame _ _ s) fun vpn4 s₁ ⟨⟨c₁, hc₁, hr₁, hd₁⟩, hf₁⟩ => ?_
    refine Prog.wp_seq_onOk (Prog.wp_onOk_and (wp_loadList_frame _ _ s₁)
      (keeps_readAt _ _ c₁ s₁ fun _ => hr₁)) fun vpn6 s₂ ⟨⟨⟨c₂, hc₂, hr₂, hd₂⟩, hf₂⟩, hr₁⟩ => ?_
    refine Prog.wp_seq_onOk (Prog.wp_onOk_and (Prog.wp_onOk_and (wp_loadList_frame _ _ s₂)
      (keeps_readAt _ _ c₁ s₂ hr₁)) (keeps_readAt _ _ c₂ s₂ fun _ => hr₂))
      fun tor s₃ ⟨⟨⟨⟨c₃, hc₃, hr₃, hd₃⟩, hf₃⟩, hr₁⟩, hr₂⟩ => ?_
    refine Prog.wp_seq_onOk (Prog.wp_onOk_and (Prog.wp_onOk_and (Prog.wp_onOk_and
      (wp_loadList_frame _ _ s₃) (keeps_readAt _ _ c₁ s₃ hr₁))
      (keeps_readAt _ _ c₂ s₃ hr₂)) (keeps_readAt _ _ c₃ s₃ fun _ => hr₃))
      fun spam s₄ ⟨⟨⟨⟨⟨c₄, hc₄, hr₄, hd₄⟩, hf₄⟩, hr₁⟩, hr₂⟩, hr₃⟩ => ?_
    refine ⟨⟨c₁, c₂, c₃, c₄⟩, ?_, fun hE => ⟨hr₁ hE, hr₂ hE, hr₃ hE, hr₄⟩, fun hsteady => ?_⟩
    · simp [Security.assemble, hallow, hc₁, hc₂, hc₃, hc₄, pure, Except.pure]
    · -- each list still holds what was read
      have h₁ : ∀ q ∈ configuredPath config.vpnIpv4List, Sys.Steady E q :=
        fun q hq => hsteady q (.inl hq)
      have h₂ : ∀ q ∈ configuredPath config.vpnIpv6List, Sys.Steady E q :=
        fun q hq => hsteady q (.inr (.inl hq))
      have h₃ : ∀ q ∈ configuredPath config.torExitList, Sys.Steady E q :=
        fun q hq => hsteady q (.inr (.inr (.inl hq)))
      have h₄ : ∀ q ∈ configuredPath config.spamList, Sys.Steady E q :=
        fun q hq => hsteady q (.inr (.inr (.inr hq)))
      rw [hd₁ h₁, hd₂ h₂, hd₃ h₃, hd₄ h₄, ListContents.on]
      congr 1
      · exact Option.bind_congr fun q hq => by rw [hf₄ q (h₁ q hq), hf₃ q (h₁ q hq), hf₂ q (h₁ q hq)]
      · exact Option.bind_congr fun q hq => by rw [hf₄ q (h₂ q hq), hf₃ q (h₂ q hq)]
      · exact Option.bind_congr fun q hq => by rw [hf₄ q (h₃ q hq)]

end Opened

end TransferGateway

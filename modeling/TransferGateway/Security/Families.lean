import TransferGateway.Security.Blocklists

/-!
# The two forms of an IPv4 address

A socket bound to an IPv6 wildcard reports an IPv4 peer `a` as `::ffff:a`. Every set of addresses
keeps the families apart, so the two forms are looked up among different entries: what a
`Security` says about them agrees exactly when its lists cover both forms alike.
-/

namespace TransferGateway

section Coverage

variable [StdParse]

/-- Some token in the content of a list covers `ip`. -/
def ContentCovers (content : Option (List UInt8)) (ip : IpAddr) : Prop :=
  ∃ source ∈ content.bind fromUtf8, TokensCover (listTokens source) ip

lemma contains_contentEntries_iff {content : Option (List UInt8)} {path : Option Path}
    {kind : String} {networks : List IpNetwork}
    (h : contentEntries content path kind = .ok networks) (ip : IpAddr) :
    (IpSet.fromNetworks networks).contains ip = true ↔ ContentCovers content ip := by
  cases content with
  | none =>
    cases h
    simp [IpSet.contains_fromNetworks_iff, ContentCovers]
  | some bytes =>
    cases htext : fromUtf8 bytes with
    | none => simp [contentEntries, htext] at h
    | some source =>
      simp only [contentEntries, htext] at h
      rw [IpSet.contains_fromNetworks_iff, exists_covers_iff_of_parseNetworkLines h]
      simp [ContentCovers, htext, TokensCover]

lemma contains_parseAllowlist_iff {allowlist : List String} {networks : List IpNetwork}
    (h : parseAllowlist allowlist = .ok networks) (ip : IpAddr) :
    (IpSet.fromNetworks networks).contains ip = true ↔ TokensCover allowlist ip := by
  rw [IpSet.contains_fromNetworks_iff, exists_covers_iff_of_mapM h, List.zipIdx_map_fst]

end Coverage

/-! ### Verdicts -/

section Verdict

variable [StdParse] [StdCase]

/-- The same location under another address. -/
def IpLocation.withIp (location : IpLocation) (ip : IpAddr) : IpLocation :=
  { location with ip := ip }

namespace Security

variable {config : SecurityConfig} {contents : ListContents} {security : Security}

/-- The lists of an assembled `Security`, by the tokens of their contents. -/
lemma contains_assemble (h : assemble config contents = .ok security) (ip : IpAddr) :
    (security.allowlist.contains ip = true ↔ TokensCover config.allowlist ip) ∧
    (security.vpn.contains ip = true ↔
      ContentCovers contents.vpnIpv4 ip ∨ ContentCovers contents.vpnIpv6 ip) ∧
    (security.tor.contains ip = true ↔ ContentCovers contents.tor ip) ∧
    (security.spam.contains ip = true ↔ ContentCovers contents.spam ip) := by
  simp only [assemble, except_bind_eq_ok] at h
  obtain ⟨allowlist, hallow, vpn4, hvpn4, vpn6, hvpn6, tor, htor, spam, hspam, h⟩ := h
  cases h
  refine ⟨contains_parseAllowlist_iff hallow ip, ?_, contains_contentEntries_iff htor ip,
    contains_contentEntries_iff hspam ip⟩
  rw [← contains_contentEntries_iff hvpn4, ← contains_contentEntries_iff hvpn6]
  simp only [ofSets, IpSet.contains_fromNetworks_iff, List.mem_append, or_and_right, exists_or]

variable (config contents) in
/-- The address is on a Tor list and not on the allowlist. -/
def TorHit (ip : IpAddr) : Prop :=
  ¬TokensCover config.allowlist ip ∧ ContentCovers contents.tor ip

variable (config contents) in
def SpamHit (ip : IpAddr) : Prop :=
  ¬TokensCover config.allowlist ip ∧ ContentCovers contents.spam ip

variable (config contents security) in
/-- The address is on a VPN list, or the provider's name tells, and it is not on the allowlist. -/
def VpnHit (isp : Option String) (ip : IpAddr) : Prop :=
  ¬TokensCover config.allowlist ip ∧
    (ContentCovers contents.vpnIpv4 ip ∨ ContentCovers contents.vpnIpv6 ip ∨
      security.matchesVpnIsp isp = true)

lemma matches_iff (h : assemble config contents = .ok security) (location : IpLocation) :
    (security.matchesVpn location = true ↔
      VpnHit config contents security location.isp location.ip) ∧
    (security.matchesTor location = true ↔ TorHit config contents location.ip) ∧
    (security.matchesSpam location = true ↔ SpamHit config contents location.ip) := by
  obtain ⟨hallow, hvpn, htor, hspam⟩ := contains_assemble h location.ip
  simp only [matchesVpn, matchesTor, matchesSpam, Bool.and_eq_true, Bool.or_eq_true,
    Bool.not_eq_true', ← Bool.not_eq_true, hallow, hvpn, htor, hspam, VpnHit, TorHit, SpamHit,
    or_assoc, and_self]

omit [StdParse] [StdCase] in
private lemma eq_iff_of_iff {x y : Bool} {p q : Prop} (hx : x = true ↔ p) (hy : y = true ↔ q) :
    x = y ↔ (p ↔ q) := by
  rw [Bool.eq_iff_iff, hx, hy]

/-- An opened `Security` treats the two forms of an address alike exactly when its lists do. -/
theorem verdicts_agree_iff {E : Env Choice Sys} {s s' : Sys}
    (h : (Security.open config).Outcome Sys.handle E s (.ok security) s') :
    ∃ contents, assemble config contents = .ok security ∧
      ∀ (a : BitVec 32) (location : IpLocation),
        (security.check (location.withIp (.v4 a)) =
            security.check (location.withIp (.mapped a)) ∧
          security.matchesVpn (location.withIp (.v4 a)) =
            security.matchesVpn (location.withIp (.mapped a)) ∧
          security.matchesTor (location.withIp (.v4 a)) =
            security.matchesTor (location.withIp (.mapped a)) ∧
          security.matchesSpam (location.withIp (.v4 a)) =
            security.matchesSpam (location.withIp (.mapped a))) ↔
        (VpnHit config contents security location.isp (.v4 a) ↔
            VpnHit config contents security location.isp (.mapped a)) ∧
          (TorHit config contents (.v4 a) ↔ TorHit config contents (.mapped a)) ∧
          (SpamHit config contents (.v4 a) ↔ SpamHit config contents (.mapped a)) := by
  obtain ⟨contents, hcontents, -⟩ := Prog.wp_iff_outcome.mp (wp_open config s) _ _ h
  refine ⟨contents, hcontents, fun a location => ?_⟩
  obtain ⟨hv4, ht4, hs4⟩ := matches_iff hcontents (location.withIp (.v4 a))
  obtain ⟨hv6, ht6, hs6⟩ := matches_iff hcontents (location.withIp (.mapped a))
  rw [eq_iff_of_iff hv4 hv6, eq_iff_of_iff ht4 ht6, eq_iff_of_iff hs4 hs6]
  refine ⟨fun hall => hall.2, fun hall => ⟨?_, hall⟩⟩
  -- the verdict is a function of the three matches
  have hvpn := (eq_iff_of_iff hv4 hv6).mpr hall.1
  have htor := (eq_iff_of_iff ht4 ht6).mpr hall.2.1
  have hspam := (eq_iff_of_iff hs4 hs6).mpr hall.2.2
  rw [check, check, hvpn, htor, hspam]

end Security

end Verdict

/-! ### A listed address in its mapped form -/

/-- One Tor exit address on the list, and nothing else on the disk. -/
def torDisk : Sys where
  files p := if p = ⟨false, ["tor.txt"]⟩ then some (asBytes "203.0.113.8") else none
  sink := none
  log := []
  watcher := none
  queue := []
  edits := 0
  seen := []

/-- The configuration of that list. -/
def torConfig : SecurityConfig :=
  { SecurityConfig.default with
    torExitList := some ⟨false, ["tor.txt"]⟩
    spamList := none
    vpnIpv4List := none
    vpnIpv6List := none }

/-- Opened with one exit address listed: the address is refused, its mapped form is not. -/
private lemma open_torConfig :
    letI := dottedParse
    letI := asciiCase
    ∃ security s', (Security.open torConfig).Outcome Sys.handle (Env.alone Choice Sys) torDisk
        (.ok security) s' ∧
      security.check ((IpLocation.empty (.v4 0)).withIp (.v4 0xcb007108#32)) =
        some BlockReason.tor ∧
      security.check ((IpLocation.empty (.v4 0)).withIp (.mapped 0xcb007108#32)) = none := by
  let _ := dottedParse
  let _ := asciiCase
  have hrun := Prog.outcome_run_alone (h := Sys.handle) (Security.open torConfig)
    (fun _ => Choice.calm) torDisk
  obtain ⟨security, hok, hlisted, hmapped⟩ : ∃ security,
      ((Security.open torConfig).run Sys.handle (fun _ => ⟨id, .calm⟩) torDisk).1 =
        .ok security ∧
      security.check ((IpLocation.empty (.v4 0)).withIp (.v4 0xcb007108#32)) =
        some BlockReason.tor ∧
      security.check ((IpLocation.empty (.v4 0)).withIp (.mapped 0xcb007108#32)) = none :=
    ⟨_, rfl, by decide +kernel, by decide +kernel⟩
  rw [hok] at hrun
  exact ⟨security, _, hrun, hlisted, hmapped⟩

/-- A client from a listed address is refused, and behind a dual-stack socket it is not. -/
theorem mapped_verdict_differs :
    letI := dottedParse
    letI := asciiCase
    ¬∀ (config : SecurityConfig) (E : Env Choice Sys) (s s' : Sys) (security : Security),
      (Security.open config).Outcome Sys.handle E s (.ok security) s' →
      ∀ (a : BitVec 32) (location : IpLocation),
        security.check (location.withIp (.v4 a)) =
            security.check (location.withIp (.mapped a)) ∧
          security.matchesVpn (location.withIp (.v4 a)) =
            security.matchesVpn (location.withIp (.mapped a)) ∧
          security.matchesTor (location.withIp (.v4 a)) =
            security.matchesTor (location.withIp (.mapped a)) ∧
          security.matchesSpam (location.withIp (.v4 a)) =
            security.matchesSpam (location.withIp (.mapped a)) := by
  intro hall
  obtain ⟨security, s', hrun, hlisted, hmapped⟩ := open_torConfig
  have := (hall _ _ _ _ _ hrun 0xcb007108#32 (.empty (.v4 0))).1
  rw [hlisted, hmapped] at this
  cases this

/-- The theorem at that `Security`: its verdicts agree only where its lists do. -/
theorem verdicts_agree_iff_torConfig :
    letI := dottedParse
    letI := asciiCase
    ∃ security contents, Security.assemble torConfig contents = .ok security ∧
      ∀ (a : BitVec 32) (location : IpLocation),
        (security.check (location.withIp (.v4 a)) =
            security.check (location.withIp (.mapped a)) ∧
          security.matchesVpn (location.withIp (.v4 a)) =
            security.matchesVpn (location.withIp (.mapped a)) ∧
          security.matchesTor (location.withIp (.v4 a)) =
            security.matchesTor (location.withIp (.mapped a)) ∧
          security.matchesSpam (location.withIp (.v4 a)) =
            security.matchesSpam (location.withIp (.mapped a))) ↔
        (Security.VpnHit torConfig contents security location.isp (.v4 a) ↔
            Security.VpnHit torConfig contents security location.isp (.mapped a)) ∧
          (Security.TorHit torConfig contents (.v4 a) ↔
            Security.TorHit torConfig contents (.mapped a)) ∧
          (Security.SpamHit torConfig contents (.v4 a) ↔
            Security.SpamHit torConfig contents (.mapped a)) := by
  let _ := dottedParse
  let _ := asciiCase
  obtain ⟨security, s', hrun, -⟩ := open_torConfig
  exact ⟨security, Security.verdicts_agree_iff hrun⟩

end TransferGateway

import TransferGateway.Protocol
import TransferGateway.Toml
import TransferGateway.System

/-!
# The sections of the configuration

Every section but the routing, with its defaults, its reading from a table, its checks, and the
paths it resolves against the directory of the configuration file.
-/

namespace TransferGateway

/-- `reqwest::Url::parse(text).scheme()`. -/
class UrlParse where
  scheme : String → Option String

/-! ### Paths -/

def resolveRelativePath (configPath path : Path) : Path :=
  if path.absolute then path else (configDirectory configPath).join path

def resolveIp2regionPath (configPath path : Path) : Path :=
  if path.isEmpty then path else resolveRelativePath configPath path

def resolveSecurityPath (configPath path : Path) : Path :=
  resolveIp2regionPath configPath path

/-- A path that is given and not empty. -/
def configuredPath (path : Option Path) : Option Path :=
  path.filter fun path => !path.isEmpty

def validateHttpUrl [UrlParse] (field value : String) : Except String Unit :=
  match UrlParse.scheme value with
  | none => throw s!"{field} is not a valid URL: {value}"
  | some scheme =>
    if scheme = "http" ∨ scheme = "https" then pure ()
    else throw s!"{field} must use http or https, got {scheme}"

/-! ### Server -/

structure ServerConfig where
  bind : String
  maxConnections : ℕ
  loginTimeoutMs : ℕ
  maxFrameLength : ℕ
  supportedProtocols : List Int32
  statusVersionName : String
  statusProtocol : Int32
  maxPlayers : ℕ
  motd : String
  strictErrorHandling : Bool
  deriving DecidableEq

namespace ServerConfig

/-- A section that gives no field. -/
def default : ServerConfig where
  bind := "0.0.0.0:25565"
  maxConnections := 4096
  loginTimeoutMs := 10000
  maxFrameLength := 2 * 1024 * 1024
  supportedProtocols := []
  statusVersionName := Protocol.SUPPORTED_VERSION_RANGE
  statusProtocol := Protocol.RELEASE_26_3_PROTOCOL
  maxPlayers := 100
  motd := "Transfer Gateway"
  strictErrorHandling := false

def decode : Toml.Decoder ServerConfig := fun v => do
  let t ← Toml.asTable v
  let bind ← t.field ["bind"] Toml.string default.bind
  let maxConnections ← t.field ["max_connections"] Toml.u64 default.maxConnections
  let loginTimeoutMs ← t.field ["login_timeout_ms"] Toml.u64 default.loginTimeoutMs
  let maxFrameLength ← t.field ["max_frame_length"] Toml.u64 default.maxFrameLength
  let supportedProtocols ←
    t.field ["supported_protocols"] (Toml.list Toml.protocolVersion) default.supportedProtocols
  let statusVersionName ← t.field ["status_version_name"] Toml.string default.statusVersionName
  let statusProtocol ← t.field ["status_protocol"] Toml.protocolVersion default.statusProtocol
  let maxPlayers ← t.field ["max_players"] Toml.u32 default.maxPlayers
  let motd ← t.field ["motd"] Toml.string default.motd
  let strictErrorHandling ←
    t.field ["strict_error_handling"] Toml.bool default.strictErrorHandling
  return { bind, maxConnections, loginTimeoutMs, maxFrameLength, supportedProtocols,
           statusVersionName, statusProtocol, maxPlayers, motd, strictErrorHandling }

def validate (c : ServerConfig) : Except String Unit := do
  bailIf (isBlank c.bind) "server.bind must not be empty"
  bailIf (c.maxConnections = 0) "server.max_connections must be greater than zero"
  bailIf (c.loginTimeoutMs = 0) "server.login_timeout_ms must be greater than zero"
  bailIf (¬(1024 ≤ c.maxFrameLength ∧ c.maxFrameLength ≤ 16 * 1024 * 1024))
    "server.max_frame_length must be between 1024 and 16777216"
  forM c.supportedProtocols fun version =>
    bailIf (!Protocol.isSupportedProtocol version)
      (s!"server.supported_protocols contains unsupported protocol {version.toInt}; " ++
       s!"supported range is {Protocol.SUPPORTED_VERSION_RANGE}")
  bailIf (c.statusProtocol < 0) "server.status_protocol must not be negative"

end ServerConfig

/-! ### Address databases -/

structure Ip2RegionConfig where
  v4Db : Option Path
  v6Db : Option Path
  autoDownload : Bool
  autoUpdate : Bool
  updateIntervalSecs : ℕ
  downloadBaseUrl : String
  deriving DecidableEq

/-- The names under which an update interval is read. -/
def updateIntervalNames : List String :=
  ["update_interval_secs", "update_delay_secs", "update_delay", "delay_secs", "delay"]

namespace Ip2RegionConfig

def default : Ip2RegionConfig where
  v4Db := some (Path.ofString "./data/ip2region_v4.xdb")
  v6Db := some (Path.ofString "./data/ip2region_v6.xdb")
  autoDownload := true
  autoUpdate := false
  updateIntervalSecs := 24 * 60 * 60
  downloadBaseUrl := "https://raw.githubusercontent.com/lionsoul2014/ip2region/master/data"

def decode : Toml.Decoder Ip2RegionConfig := fun v => do
  let t ← Toml.asTable v
  let v4Db ← t.optional ["v4_db"] Toml.path default.v4Db
  let v6Db ← t.optional ["v6_db"] Toml.path default.v6Db
  let autoDownload ← t.field ["auto_download"] Toml.bool default.autoDownload
  let autoUpdate ← t.field ["auto_update"] Toml.bool default.autoUpdate
  let updateIntervalSecs ← t.field updateIntervalNames Toml.u64 default.updateIntervalSecs
  let downloadBaseUrl ← t.field ["download_base_url"] Toml.string default.downloadBaseUrl
  return { v4Db, v6Db, autoDownload, autoUpdate, updateIntervalSecs, downloadBaseUrl }

def validate [UrlParse] (c : Ip2RegionConfig) : Except String Unit := do
  checkIf (c.autoDownload ∨ c.autoUpdate)
    (validateHttpUrl "ip2region.download_base_url" c.downloadBaseUrl)
  bailIf (c.autoUpdate ∧ c.updateIntervalSecs = 0)
    "ip2region.update_interval_secs must be greater than zero"

def resolvePaths (c : Ip2RegionConfig) (configPath : Path) : Ip2RegionConfig :=
  { c with
    v4Db := c.v4Db.map (resolveIp2regionPath configPath)
    v6Db := c.v6Db.map (resolveIp2regionPath configPath) }

end Ip2RegionConfig

/-! ### Block lists -/

structure SecurityConfig where
  enabled : Bool
  blockVpn : Bool
  blockTor : Bool
  blockSpam : Bool
  autoDownload : Bool
  autoUpdate : Bool
  updateIntervalSecs : ℕ
  torExitList : Option Path
  torExitListUrl : String
  spamList : Option Path
  spamListUrl : String
  vpnIpv4List : Option Path
  vpnIpv4ListUrl : String
  vpnIpv6List : Option Path
  vpnIpv6ListUrl : String
  allowlist : List String
  vpnIspContains : List String
  deriving DecidableEq

namespace SecurityConfig

def default : SecurityConfig where
  enabled := true
  blockVpn := true
  blockTor := true
  blockSpam := true
  autoDownload := true
  autoUpdate := false
  updateIntervalSecs := 24 * 60 * 60
  torExitList := some (Path.ofString "./data/tor-exit-list.txt")
  torExitListUrl := "https://check.torproject.org/torbulkexitlist"
  spamList := some (Path.ofString "./data/spam-ip-list.txt")
  spamListUrl := "https://blackip.ustc.edu.cn/list.php?txt"
  vpnIpv4List := some (Path.ofString "./data/vpn-ipv4.txt")
  vpnIpv4ListUrl :=
    "https://raw.githubusercontent.com/X4BNet/lists_vpn/main/output/vpn/ipv4.txt"
  vpnIpv6List := some (Path.ofString "./data/vpn-ipv6.txt")
  vpnIpv6ListUrl :=
    "https://raw.githubusercontent.com/X4BNet/lists_vpn/main/output/vpn/ipv6.txt"
  allowlist := []
  vpnIspContains := []

def decode : Toml.Decoder SecurityConfig := fun v => do
  let t ← Toml.asTable v
  let enabled ← t.field ["enabled"] Toml.bool default.enabled
  let blockVpn ← t.field ["block_vpn"] Toml.bool default.blockVpn
  let blockTor ← t.field ["block_tor"] Toml.bool default.blockTor
  let blockSpam ← t.field ["block_spam"] Toml.bool default.blockSpam
  let autoDownload ← t.field ["auto_download"] Toml.bool default.autoDownload
  let autoUpdate ← t.field ["auto_update"] Toml.bool default.autoUpdate
  let updateIntervalSecs ← t.field updateIntervalNames Toml.u64 default.updateIntervalSecs
  let torExitList ← t.optional ["tor_exit_list"] Toml.path default.torExitList
  let torExitListUrl ← t.field ["tor_exit_list_url"] Toml.string default.torExitListUrl
  let spamList ← t.optional ["spam_list"] Toml.path default.spamList
  let spamListUrl ← t.field ["spam_list_url"] Toml.string default.spamListUrl
  let vpnIpv4List ← t.optional ["vpn_ipv4_list"] Toml.path default.vpnIpv4List
  let vpnIpv4ListUrl ← t.field ["vpn_ipv4_list_url"] Toml.string default.vpnIpv4ListUrl
  let vpnIpv6List ← t.optional ["vpn_ipv6_list"] Toml.path default.vpnIpv6List
  let vpnIpv6ListUrl ← t.field ["vpn_ipv6_list_url"] Toml.string default.vpnIpv6ListUrl
  let allowlist ← t.field ["allowlist"] (Toml.list Toml.string) default.allowlist
  let vpnIspContains ←
    t.field ["vpn_isp_contains"] (Toml.list Toml.string) default.vpnIspContains
  return { enabled, blockVpn, blockTor, blockSpam, autoDownload, autoUpdate, updateIntervalSecs,
           torExitList, torExitListUrl, spamList, spamListUrl, vpnIpv4List, vpnIpv4ListUrl,
           vpnIpv6List, vpnIpv6ListUrl, allowlist, vpnIspContains }

def validate [UrlParse] (c : SecurityConfig) : Except String Unit := do
  checkIf ((c.autoDownload ∨ c.autoUpdate) ∧ c.enabled) do
    checkIf (c.blockTor ∧ (configuredPath c.torExitList).isSome)
      (validateHttpUrl "security.tor_exit_list_url" c.torExitListUrl)
    checkIf (c.blockSpam ∧ (configuredPath c.spamList).isSome)
      (validateHttpUrl "security.spam_list_url" c.spamListUrl)
    checkIf c.blockVpn do
      checkIf (configuredPath c.vpnIpv4List).isSome
        (validateHttpUrl "security.vpn_ipv4_list_url" c.vpnIpv4ListUrl)
      checkIf (configuredPath c.vpnIpv6List).isSome
        (validateHttpUrl "security.vpn_ipv6_list_url" c.vpnIpv6ListUrl)
  bailIf (c.autoUpdate ∧ c.updateIntervalSecs = 0)
    "security.update_interval_secs must be greater than zero"

def resolvePaths (c : SecurityConfig) (configPath : Path) : SecurityConfig :=
  { c with
    torExitList := c.torExitList.map (resolveSecurityPath configPath)
    spamList := c.spamList.map (resolveSecurityPath configPath)
    vpnIpv4List := c.vpnIpv4List.map (resolveSecurityPath configPath)
    vpnIpv6List := c.vpnIpv6List.map (resolveSecurityPath configPath) }

end SecurityConfig

/-! ### Language and logging -/

def DEFAULT_LOCALE : String := "zh-CN"
def DEFAULT_LANGUAGE_DIRECTORY : String := "./lang"

structure LanguageConfig where
  locale : String
  directory : Path
  deriving DecidableEq

namespace LanguageConfig

def default : LanguageConfig where
  locale := DEFAULT_LOCALE
  directory := Path.ofString DEFAULT_LANGUAGE_DIRECTORY

def decode : Toml.Decoder LanguageConfig := fun v => do
  let t ← Toml.asTable v
  let locale ← t.field ["locale"] Toml.string default.locale
  let directory ← t.field ["directory"] Toml.path default.directory
  return { locale, directory }

def validate (c : LanguageConfig) : Except String Unit := do
  let allowed := fun character : Char => character.isAlphanum || character ∈ ['.', '-', '_']
  bailIf (c.locale = "" ∨ !c.locale.toList.all allowed)
    "language.locale must contain only ASCII letters, digits, '.', '-' or '_'"
  bailIf c.directory.isEmpty "language.directory must not be empty"

def filePath (c : LanguageConfig) (configPath : Path) : Path :=
  (resolveRelativePath configPath c.directory).join ⟨false, [s!"{c.locale}.toml"]⟩

end LanguageConfig

structure LoggingConfig where
  file : Option Path
  deriving DecidableEq

namespace LoggingConfig

def default : LoggingConfig where
  file := some (Path.ofString "./logs/gateway.log")

def decode : Toml.Decoder LoggingConfig := fun v => do
  let t ← Toml.asTable v
  let file ← t.optional ["file"] Toml.path default.file
  return { file }

def filePath (c : LoggingConfig) (configPath : Path) : Option Path :=
  (configuredPath c.file).map (resolveRelativePath configPath)

end LoggingConfig

/-! ### The defaults pass the checks -/

/-- A configuration that gives no field of a section has a valid section, as far as the base
URLs of the program are accepted. -/
theorem validate_defaults [UrlParse]
    (hurl : ∀ url ∈ [Ip2RegionConfig.default.downloadBaseUrl, SecurityConfig.default.torExitListUrl,
      SecurityConfig.default.spamListUrl, SecurityConfig.default.vpnIpv4ListUrl,
      SecurityConfig.default.vpnIpv6ListUrl], UrlParse.scheme url = some "https") :
    ServerConfig.default.validate = .ok () ∧ Ip2RegionConfig.default.validate = .ok () ∧
      SecurityConfig.default.validate = .ok () ∧ LanguageConfig.default.validate = .ok () := by
  simp only [List.forall_mem_cons] at hurl
  obtain ⟨h₁, h₂, h₃, h₄, h₅, -⟩ := hurl
  have hok : ∀ {field url}, UrlParse.scheme url = some "https" →
      validateHttpUrl field url = .ok () := by
    intro field url h
    simp [validateHttpUrl, h, pure, Except.pure]
  refine ⟨by decide, ?_, ?_, by decide⟩
  · simp only [Ip2RegionConfig.validate, hok h₁]
    decide
  · simp only [SecurityConfig.validate, hok h₂, hok h₃, hok h₄, hok h₅]
    decide

end TransferGateway

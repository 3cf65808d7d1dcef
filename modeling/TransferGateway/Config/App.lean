import TransferGateway.Config.Routing

/-!
# The configuration

A configuration is read from its file and, with virtual hosts, from one file for each of them.
-/

namespace TransferGateway

/-! ### Virtual hosts -/

structure VhostsConfig where
  default : String
  files : BTreeMap Path
  routes : BTreeMap RoutingConfig

namespace VhostsConfig

/-- Every key but `default` names a host and its file. -/
def decode : Toml.Decoder VhostsConfig := fun v => do
  let t ← Toml.asTable v
  let default ← t.field ["default"] Toml.string ""
  let files ← Toml.map Toml.path (.table (t.filter fun e => e.1 != "default"))
  return { default, files, routes := .empty }

end VhostsConfig

/-- What a host's file holds: its `routing` table, or all of it. -/
def vhostDocument (t : Toml.Table) : Toml.Value :=
  match t.remove "routing" with
  | some (v, _) => v
  | none => .table t

/-- The document is a target and not a routing configuration. -/
def isSingleTarget : Toml.Value → Bool
  | .table t =>
    Toml.Table.containsKey t "host" && !Toml.Table.containsKey t "default_line" &&
      !Toml.Table.containsKey t "lines" && !Toml.Table.containsKey t "rules" &&
      !Toml.Table.containsKey t "group" && !Toml.Table.containsKey t "groups"
  | _ => false

def vhostRouting (base : ℕ) (document : Toml.Value) : Except String RoutingConfig :=
  if isSingleTarget document then
    match LineTarget.decode document with
    | some target => .ok (.fromSingleTarget target)
    | none => .error "invalid single-target vhost configuration"
  else
    match RoutingConfig.decode base document with
    | some routing => .ok routing
    | none => .error "invalid routing configuration in vhost file"

section Load

variable [Toml.Parse]

def loadVhostRouting (path : Path) (base : ℕ) : SysProg RoutingConfig := do
  let source ← context (← ask (.readToString path))
    s!"unable to read vhost configuration file {path.display}"
  match Toml.Parse.fromStr source with
  | none => .fail s!"invalid TOML in vhost configuration file {path.display}"
  | some table => .ofExcept (vhostRouting base (vhostDocument table))

/-- The loop of `VhostsConfig::load`; `base` is the address of the next group's counter. -/
def loadRoutes (configPath : Path) :
    List (String × Path) → ℕ → BTreeMap RoutingConfig → SysProg (BTreeMap RoutingConfig)
  | [], _, routes => pure routes
  | (name, configured) :: files, base, routes => do
    failIf configured.isEmpty s!"vhosts.{name} must contain a configuration file path"
    let path := resolveRelativePath configPath configured
    let routing ← (loadVhostRouting path base).mapError fun _ =>
      s!"unable to load vhost '{name}' from {path.display}"
    loadRoutes configPath files (base + routing.group.length) (routes.insert name routing)

def VhostsConfig.load (vhosts : VhostsConfig) (configPath : Path) : SysProg VhostsConfig := do
  let routes ← loadRoutes configPath vhosts.files.entries 0 .empty
  return { vhosts with routes }

lemma writesIn_loadVhostRouting (path : Path) (base : ℕ) :
    WritesIn ∅ (loadVhostRouting path base) := by
  rw [loadVhostRouting]
  refine .bind (by simp) fun _ => .bind (by simp) fun source => ?_
  split
  · trivial
  · simp

lemma writesIn_loadRoutes (configPath : Path) (files : List (String × Path)) (base : ℕ)
    (routes : BTreeMap RoutingConfig) : WritesIn ∅ (loadRoutes configPath files base routes) := by
  induction files generalizing base routes with
  | nil => trivial
  | cons file files ih =>
    exact .bind (by simp [failIf]) fun _ =>
      .bind ((Prog.all_mapError ..).mpr (writesIn_loadVhostRouting ..)) fun _ => ih _ _

end Load

namespace VhostsConfig

variable [StdCase]

/-- The check of the host at `index`. -/
def validateHost (vhosts : VhostsConfig) (name : String) (index : ℕ) : Except String Unit := do
  let normalizedName := normalizeHost name
  let previous := (vhosts.files.keys.take index).map normalizeHost
  bailIf (normalizedName = "") "vhosts contains an empty host name"
  bailIf (byteLen normalizedName > 255) s!"vhosts host name '{name}' must be at most 255 bytes"
  bailIf (previous.any fun previous => eqIgnoreAsciiCase previous normalizedName)
    s!"vhosts host name '{name}' is duplicated"
  match vhosts.routes.get name with
  | none => .error s!"vhosts.{name} has not been loaded from its configuration file"
  | some routing =>
    routing.validate.mapError fun _ => s!"invalid routing configuration for vhost '{name}'"

def validate (vhosts : VhostsConfig) : Except String Unit := do
  bailIf vhosts.files.isEmpty "vhosts must contain at least one host mapping"
  bailIf (isBlank vhosts.default) "vhosts.default must not be empty"
  let defaultExists := vhosts.files.keys.any fun name =>
    eqIgnoreAsciiCase (normalizeHost name) (normalizeHost vhosts.default)
  bailIf (!defaultExists) s!"vhosts.default '{vhosts.default}' is not present in vhosts"
  forM vhosts.files.keys.zipIdx fun (name, index) => vhosts.validateHost name index

/-- The entry whose name is this host, up to case and trailing dots. -/
def findRouting (vhosts : VhostsConfig) (host : String) : Option (String × RoutingConfig) :=
  vhosts.routes.entries.find? fun (name, _) =>
    eqIgnoreAsciiCase (normalizeHost name) (normalizeHost host)

def selectRouting (vhosts : VhostsConfig) (requestHost : Option String) :
    Option (String × RoutingConfig) :=
  (requestHost.bind vhosts.findRouting).or (vhosts.findRouting vhosts.default)

variable [StdHash]

def selectRouteWithContext (vhosts : VhostsConfig) (location : IpLocation)
    (player requestHost : Option String) (security : Security) (balanceKey : String)
    (counters : Counters) : Except Panic (Option (String × LineTarget) × Counters) :=
  match vhosts.selectRouting requestHost with
  | none => pure (none, counters)
  | some (vhostName, routing) => do
    let (selected, counters) ← routing.selectRouteWithHostContext location player requestHost
      security balanceKey counters
    return (selected.map fun (lineName, target) => (s!"{vhostName}/{lineName}", target), counters)

end VhostsConfig

/-! ### The whole configuration -/

structure AppConfig where
  server : ServerConfig
  ip2region : Ip2RegionConfig
  security : SecurityConfig
  routing : Option RoutingConfig
  vhosts : Option VhostsConfig
  language : LanguageConfig
  logging : LoggingConfig

namespace AppConfig

def decode (t : Toml.Table) : Option AppConfig := do
  let server ← t.required ["server"] ServerConfig.decode
  let ip2region ← t.field ["ip2region"] Ip2RegionConfig.decode .default
  let security ← t.field ["security"] SecurityConfig.decode .default
  let routing ← t.optional ["routing"] (RoutingConfig.decode 0) none
  let vhosts ← t.optional ["vhosts"] VhostsConfig.decode none
  let language ← t.field ["language"] LanguageConfig.decode .default
  let logging ← t.field ["logging"] LoggingConfig.decode .default
  return { server, ip2region, security, routing, vhosts, language, logging }

def resolvePaths (c : AppConfig) (configPath : Path) : AppConfig :=
  { c with
    ip2region := c.ip2region.resolvePaths configPath
    security := c.security.resolvePaths configPath }

/-- `if let Some(vhosts) = config.vhosts.as_mut() { vhosts.load(path)?; }`. -/
def loadVhosts [Toml.Parse] (c : AppConfig) (path : Path) : SysProg AppConfig :=
  match c.vhosts with
  | some vhosts => do
    let vhosts ← vhosts.load path
    return { c with vhosts := some vhosts }
  | none => return c

lemma writesIn_loadVhosts [Toml.Parse] (c : AppConfig) (path : Path) :
    WritesIn ∅ (c.loadVhosts path) := by
  rw [loadVhosts]
  split
  · exact .bind (.bind (writesIn_loadRoutes ..) fun _ => trivial) fun _ => trivial
  · trivial

variable [UrlParse] [StdCase]

def validate (c : AppConfig) : Except String Unit := do
  c.server.validate
  c.ip2region.validate
  c.security.validate
  match c.routing, c.vhosts with
  | some _, some _ => .error "configure either routing or vhosts, not both"
  | some routing, none => routing.validate
  | none, some vhosts => vhosts.validate
  | none, none => .error "routing or vhosts must be configured"
  c.language.validate

def load [Toml.Parse] (path : Path) : SysProg AppConfig := do
  let source ← context (← ask (.readToString path))
    s!"unable to read configuration file {path.display}"
  match (Toml.Parse.fromStr source).bind decode with
  | none => .fail s!"invalid TOML in {path.display}"
  | some config => do
    let config ← config.loadVhosts path
    .ofExcept config.validate
    return config

lemma writesIn_load [Toml.Parse] (path : Path) : WritesIn ∅ (load path) := by
  rw [load]
  refine .bind (by simp) fun _ => .bind (by simp) fun source => ?_
  split
  · trivial
  · exact .bind (writesIn_loadVhosts ..) fun _ => .bind (by simp) fun _ => trivial

variable [StdHash]

def selectRouteWithHostContext (c : AppConfig) (location : IpLocation)
    (player requestHost : Option String) (security : Security) (balanceKey : String)
    (counters : Counters) : Except Panic (Option (String × LineTarget) × Counters) :=
  match c.vhosts, c.routing with
  | some vhosts, _ =>
    vhosts.selectRouteWithContext location player requestHost security balanceKey counters
  | none, some routing =>
    routing.selectRouteWithHostContext location player requestHost security balanceKey counters
  | none, none => pure (none, counters)

end AppConfig

end TransferGateway

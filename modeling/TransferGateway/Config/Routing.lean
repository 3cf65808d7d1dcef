import TransferGateway.Security.Blocklists

/-!
# Routing

Rules send a client to a line or to a group of hosts, by its location, its name and the host it
asked for. `validate` checks that every name a rule or the default line gives is there, and the
selection relies on it.
-/

namespace TransferGateway

/-- `DefaultHasher` on a text. -/
class StdHash where
  hash : String → UInt64

@[reducible] def noHash : StdHash := ⟨fun _ => 0⟩

/-! ### Lines -/

structure LineTarget where
  host : String
  port : UInt16
  resolveSrv : Bool
  deriving DecidableEq

def resolveSrvNames : List String := ["resolve_srv", "minecraft_srv", "srv"]

namespace LineTarget

def decodeTable (t : Toml.Table) : Option LineTarget := do
  let host ← t.required ["host"] Toml.string
  let port ← t.field ["port"] Toml.u16 25565
  let resolveSrv ← t.field resolveSrvNames Toml.bool false
  return { host, port, resolveSrv }

def decode : Toml.Decoder LineTarget := fun v => do decodeTable (← Toml.asTable v)

def validate (target : LineTarget) (name : String) : Except String Unit := do
  bailIf (isBlank target.host) s!"routing.lines.{name}.host must not be empty"
  bailIf (byteLen target.host > 255) s!"routing.lines.{name}.host must be at most 255 bytes"
  bailIf (target.port = 0) s!"routing.lines.{name}.port must be greater than zero"

end LineTarget

/-! ### Groups -/

/-- The counters of the groups of one loaded configuration, by their addresses. -/
abbrev Counters := ℕ → UInt64

inductive GroupMode where
  | roundRobin
  | random
  | ipHash
  deriving DecidableEq

def parseGroupMode [StdCase] (mode : String) : Option GroupMode :=
  let kept := mode.toList.filter fun character =>
    !isWhitespace character && character ≠ '_' && character ≠ '-'
  match String.ofList (kept.flatMap StdCase.charToLowercase) with
  | "roundrobin" | "loadbalance" | "loadblance" => some .roundRobin
  | "random" => some .random
  | "iphash" | "hash" | "consistenthash" => some .ipHash
  | _ => none

/-- `value % length`. -/
def remainder (value : UInt64) (length : ℕ) : Except Panic ℕ :=
  if length = 0 then throw .divisionByZero else pure (value.toNat % length)

def pseudoRandomIndex (sequence : UInt64) (length : ℕ) : Except Panic ℕ :=
  let value := sequence * 6364136223846793005 + 1442695040888963407
  let value := value ^^^ (value >>> 33)
  let value := value * 1099511628211
  let value := value ^^^ (value >>> 29)
  remainder value length

structure RoutingGroup where
  priority : Int
  groupName : String
  mode : String
  port : UInt16
  resolveSrv : Bool
  hosts : List String
  /-- The address of the group's counter. -/
  counter : ℕ
  deriving DecidableEq

namespace RoutingGroup

/-- `counter` is the address of the new counter. -/
def decode (counter : ℕ) : Toml.Decoder RoutingGroup := fun v => do
  let t ← Toml.asTable v
  let priority ← t.field ["priority"] Toml.i32 0
  let groupName ← t.required ["group_name"] Toml.string
  let mode ← t.field ["mode"] Toml.string "round_robin"
  let port ← t.field ["port"] Toml.u16 25565
  let resolveSrv ← t.field resolveSrvNames Toml.bool false
  let hosts ← t.required ["hosts"] (Toml.list Toml.string)
  return { priority, groupName, mode, port, resolveSrv, hosts, counter }

variable [StdCase]

def validate (group : RoutingGroup) (index : ℕ) : Except String Unit := do
  bailIf (isBlank group.groupName) s!"routing.group[{index}].group_name must not be empty"
  bailIf group.hosts.isEmpty s!"routing.group[{index}].hosts must contain at least one host"
  bailIf (group.port = 0) s!"routing.group[{index}].port must be greater than zero"
  bailIf (parseGroupMode group.mode = none)
    (s!"routing.group[{index}].mode '{group.mode}' is unsupported; " ++
     "use round_robin, random or ip_hash")
  forM group.hosts.zipIdx fun (host, hostIndex) => do
    bailIf (isBlank host) s!"routing.group[{index}].hosts[{hostIndex}] must not be empty"
    bailIf (byteLen host > 255)
      s!"routing.group[{index}].hosts[{hostIndex}] must be at most 255 bytes"

variable [StdHash]

/-- `fetch_add` on the group's counter, and the index its mode takes from it. -/
def selectIndex (group : RoutingGroup) (balanceKey : String) (counters : Counters) :
    Except Panic (ℕ × Counters) := do
  let sequence := counters group.counter
  let counters' := Function.update counters group.counter (sequence + 1)
  match (parseGroupMode group.mode).getD .roundRobin with
  | .roundRobin => return (← remainder sequence group.hosts.length, counters')
  | .random => return (← pseudoRandomIndex sequence group.hosts.length, counters')
  | .ipHash => return (← remainder (StdHash.hash balanceKey) group.hosts.length, counters)

def selectTarget (group : RoutingGroup) (balanceKey : String) (counters : Counters) :
    Except Panic (LineTarget × Counters) := do
  let (index, counters) ← group.selectIndex balanceKey counters
  match group.hosts[index]? with
  | some host => return ({ host, port := group.port, resolveSrv := group.resolveSrv }, counters)
  | none => throw .indexOutOfBounds

end RoutingGroup

/-! ### Conditions -/

def bangNegation (value : String) : Option String :=
  (stripFirst value '!').filter (· ≠ "")

def matcherValue (value : String) : String :=
  (bangNegation value).getD value

def normalizeHost (host : String) : String :=
  trimEndMatches host '.'

/-- The conditions on lists: some plain value of `positive` matches, if it has one, and neither a
value of `negative` nor a `!value` of `positive` does. -/
def matchesList (accepts : String → String → Bool) (positive negative : List String)
    (actual : Option String) : Bool :=
  let hasPositive := positive.any fun expected => (bangNegation expected).isNone
  let positiveMatches := !hasPositive || actual.any fun actual =>
    positive.any fun expected => (bangNegation expected).isNone && accepts expected actual
  let negativeMatches := actual.any fun actual =>
    (negative.any fun expected => accepts (matcherValue expected) actual) ||
      (positive.filterMap bangNegation).any fun expected => accepts expected actual
  positiveMatches && !negativeMatches

def matchesTextList (positive negative : List String) (actual : Option String) : Bool :=
  matchesList eqIgnoreAsciiCase positive negative actual

def matchesHostList (positive negative : List String) (actual : Option String) : Bool :=
  matchesList (fun expected actual => eqIgnoreAsciiCase (normalizeHost expected) actual)
    positive negative (actual.map normalizeHost)

def matchesContainsList [StdCase] (positive negative : List String) (actual : Option String) :
    Bool :=
  matchesList (fun expected actual => containsText actual (StdCase.toLowercase expected))
    positive negative (actual.map StdCase.toLowercase)

def matchesBool (expected : Option Bool) (negated actual : Bool) : Bool :=
  expected.all (· == actual) && (!negated || !actual)

/-! ### Rules -/

structure RouteRule where
  priority : Int
  line : String
  group : Option String
  hosts : List String
  notHosts : List String
  countries : List String
  provinces : List String
  notProvinces : List String
  cities : List String
  notCountries : List String
  notCities : List String
  ispContains : List String
  notIspContains : List String
  players : List String
  notPlayers : List String
  vpn : Option Bool
  notVpn : Bool
  spam : Option Bool
  notSpam : Bool
  tor : Option Bool
  notTor : Bool
  deriving DecidableEq

namespace RouteRule

def decode : Toml.Decoder RouteRule := fun v => do
  let t ← Toml.asTable v
  let strings := fun names => t.field names (Toml.list Toml.string) []
  let priority ← t.field ["priority"] Toml.i32 0
  let line ← t.field ["line"] Toml.string ""
  let group ← t.optional ["group", "group_name"] Toml.string none
  let hosts ← strings ["hosts", "hostnames", "domains"]
  let notHosts ← strings ["not_hosts", "not_hostnames", "not_domains"]
  let countries ← strings ["countries"]
  let provinces ← strings ["provinces", "subdivisions"]
  let notProvinces ← strings ["not_provinces", "not_subdivisions"]
  let cities ← strings ["cities"]
  let notCountries ← strings ["not_countries"]
  let notCities ← strings ["not_cities"]
  let ispContains ← strings ["isp_contains", "operator_contains"]
  let notIspContains ← strings ["not_isp_contains", "not_operator_contains"]
  let players ← strings ["players"]
  let notPlayers ← strings ["not_players"]
  let vpn ← t.optional ["vpn"] Toml.bool none
  let notVpn ← t.field ["not_vpn"] Toml.bool false
  let spam ← t.optional ["spam"] Toml.bool none
  let notSpam ← t.field ["not_spam"] Toml.bool false
  let tor ← t.optional ["tor"] Toml.bool none
  let notTor ← t.field ["not_tor"] Toml.bool false
  return { priority, line, group, hosts, notHosts, countries, provinces, notProvinces, cities,
           notCountries, notCities, ispContains, notIspContains, players, notPlayers, vpn, notVpn,
           spam, notSpam, tor, notTor }

def matchesPlayer (rule : RouteRule) (player : Option String) : Bool :=
  if rule.players.isEmpty && rule.notPlayers.isEmpty then true
  else player.any fun player => matchesTextList rule.players rule.notPlayers (some player)

variable [StdCase]

def matchesSecurity (rule : RouteRule) (location : IpLocation) (security : Option Security) :
    Bool :=
  if rule.vpn.isNone && !rule.notVpn && rule.spam.isNone && !rule.notSpam && rule.tor.isNone &&
      !rule.notTor then true
  else security.any fun security =>
    matchesBool rule.vpn rule.notVpn (security.matchesVpn location) &&
      matchesBool rule.spam rule.notSpam (security.matchesSpam location) &&
      matchesBool rule.tor rule.notTor (security.matchesTor location)

def «matches» (rule : RouteRule) (location : IpLocation) (player requestHost : Option String)
    (security : Option Security) : Bool :=
  matchesHostList rule.hosts rule.notHosts requestHost &&
    matchesTextList rule.countries rule.notCountries location.countryCode &&
    matchesTextList rule.provinces rule.notProvinces location.province &&
    matchesTextList rule.cities rule.notCities location.city &&
    matchesContainsList rule.ispContains rule.notIspContains location.isp &&
    rule.matchesPlayer player && rule.matchesSecurity location security

end RouteRule

/-! ### Configurations -/

structure RoutingConfig where
  defaultLine : String
  lines : BTreeMap LineTarget
  rules : List RouteRule
  group : List RoutingGroup

namespace RoutingConfig

/-- `base` is the address of the first group's counter. -/
def decodeTable (base : ℕ) (t : Toml.Table) : Option RoutingConfig := do
  let defaultLine ← t.field ["default_line"] Toml.string "default"
  let lines ← t.field ["lines"] (Toml.map LineTarget.decode) .empty
  let rules ← t.field ["rules"] (Toml.list RouteRule.decode) []
  let groups ← t.field ["group", "groups"] (Toml.list some) []
  let group ← groups.zipIdx.mapM fun (v, index) => RoutingGroup.decode (base + index) v
  return { defaultLine, lines, rules, group }

def decode (base : ℕ) : Toml.Decoder RoutingConfig := fun v => do
  decodeTable base (← Toml.asTable v)

def fromSingleTarget (target : LineTarget) : RoutingConfig where
  defaultLine := "default"
  lines := .single "default" target
  rules := []
  group := []

def findGroup (c : RoutingConfig) (name : String) : Option RoutingGroup :=
  c.group.find? fun group => group.groupName == name

def hasTarget (c : RoutingConfig) (name : String) : Bool :=
  c.lines.containsKey name || c.group.any fun group => group.groupName == name

/-- The check of the group at `index`. -/
def validateGroup [StdCase] (c : RoutingConfig) (group : RoutingGroup) (index : ℕ) :
    Except String Unit := do
  group.validate index
  let duplicated := c.lines.containsKey group.groupName ||
    c.group.zipIdx.any fun (other, otherIndex) =>
      otherIndex < index && other.groupName == group.groupName
  bailIf duplicated
    s!"routing.group[{index}].group_name '{group.groupName}' is duplicated"

/-- The check of the rule at `index`. -/
def validateRule (c : RoutingConfig) (rule : RouteRule) (index : ℕ) : Except String Unit := do
  let hasLine := !isBlank rule.line
  let hasGroup := rule.group.any fun group => !isBlank group
  let groupName := rule.group.getD ""
  bailIf (hasLine = hasGroup) s!"routing.rules[{index}] must define exactly one of line or group"
  bailIf (hasLine ∧ !c.hasTarget rule.line)
    (s!"routing.rules[{index}].line '{rule.line}' is not present in " ++
     "routing.lines or routing.group")
  bailIf (hasGroup ∧ !c.group.any (fun group => some group.groupName == rule.group))
    s!"routing.rules[{index}].group '{groupName}' is not present in routing.group"

def validate [StdCase] (c : RoutingConfig) : Except String Unit := do
  bailIf (c.lines.isEmpty ∧ c.group.isEmpty)
    "routing.lines or routing.group must contain at least one target"
  bailIf (c.defaultLine ≠ "" ∧ !c.hasTarget c.defaultLine)
    (s!"routing.default_line '{c.defaultLine}' is not present in " ++
     "routing.lines or routing.group")
  bailIf (c.defaultLine = "" ∧ c.rules.isEmpty)
    "routing.default_line must not be empty when routing.rules is empty"
  forM c.lines.entries fun (name, target) => target.validate name
  forM c.group.zipIdx fun (group, index) => c.validateGroup group index
  forM c.rules.zipIdx fun (rule, index) => c.validateRule rule index

end RoutingConfig

/-! ### Selection -/

namespace RouteRule

def lineTargetName (rule : RouteRule) (routing : RoutingConfig) : Option String :=
  if !isBlank rule.line && routing.lines.containsKey rule.line then some rule.line else none

def groupTargetName (rule : RouteRule) : Option String :=
  (rule.group.filter fun group => !isBlank group).or
    (if isBlank rule.line then none else some rule.line)

def effectivePriority (rule : RouteRule) (routing : RoutingConfig) : Int :=
  if rule.priority ≠ 0 then rule.priority
  else ((rule.groupTargetName.bind routing.findGroup).map (·.priority)).getD rule.priority

end RouteRule

namespace RoutingConfig

variable [StdCase]

/-- One turn of the loop over the rules: a matching rule replaces one of lower priority. -/
def considerRule (c : RoutingConfig) (location : IpLocation) (player requestHost : Option String)
    (security : Option Security) (selected : Option (Int × RouteRule)) (rule : RouteRule) :
    Option (Int × RouteRule) :=
  if !rule.matches location player requestHost security then selected
  else
    let priority := rule.effectivePriority c
    if selected.all fun (selectedPriority, _) => priority > selectedPriority then
      some (priority, rule)
    else selected

def selectMatchingRule (c : RoutingConfig) (location : IpLocation)
    (player requestHost : Option String) (security : Option Security) : Option RouteRule :=
  (c.rules.foldl (c.considerRule location player requestHost security) none).map Prod.snd

def selectRouteForHost (c : RoutingConfig) (location : IpLocation) (requestHost : Option String) :
    Option (String × LineTarget) :=
  let lineName := ((c.selectMatchingRule location none requestHost none).bind
    fun rule => rule.lineTargetName c).getD c.defaultLine
  (c.lines.get lineName).map (lineName, ·)

def selectRoute (c : RoutingConfig) (location : IpLocation) : Option (String × LineTarget) :=
  c.selectRouteForHost location none

variable [StdHash]

def selectTarget (c : RoutingConfig) (name balanceKey : String) (counters : Counters) :
    Except Panic (Option (String × LineTarget) × Counters) :=
  match c.lines.get name with
  | some target => pure (some (name, target), counters)
  | none =>
    match c.findGroup name with
    | some group => do
      let (target, counters) ← group.selectTarget balanceKey counters
      return (some (name, target), counters)
    | none => pure (none, counters)

/-- The target of the winning rule, if it names one that is there. -/
def ruleTarget (c : RoutingConfig) (rule : RouteRule) (balanceKey : String)
    (counters : Counters) : Except Panic (Option (String × LineTarget) × Counters) :=
  match (rule.lineTargetName c).bind fun name => (c.lines.get name).map (name, ·) with
  | some (name, target) => pure (some (name, target), counters)
  | none =>
    match rule.groupTargetName.bind fun name => (c.findGroup name).map (name, ·) with
    | some (name, group) => do
      let (target, counters) ← group.selectTarget balanceKey counters
      return (some (name, target), counters)
    | none => pure (none, counters)

def selectRouteWithHostContext (c : RoutingConfig) (location : IpLocation)
    (player requestHost : Option String) (security : Security) (balanceKey : String)
    (counters : Counters) : Except Panic (Option (String × LineTarget) × Counters) :=
  match c.selectMatchingRule location player requestHost (some security) with
  | none => c.selectTarget c.defaultLine balanceKey counters
  | some rule => do
    let (selected, counters) ← c.ruleTarget rule balanceKey counters
    match selected with
    | some route => return (some route, counters)
    | none => c.selectTarget c.defaultLine balanceKey counters

def selectRouteWithContext (c : RoutingConfig) (location : IpLocation) (player : Option String)
    (security : Security) (balanceKey : String) (counters : Counters) :
    Except Panic (Option (String × LineTarget) × Counters) :=
  c.selectRouteWithHostContext location player none security balanceKey counters

end RoutingConfig

end TransferGateway

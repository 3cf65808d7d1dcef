import TransferGateway.Config.Sections

/-!
# Where a client is

An `IpLocation` is what the address databases say about an address. The database reader is a
parameter: it opens the bytes of a database and answers a search with a line of fields.
-/

namespace TransferGateway

structure IpLocation where
  ip : IpAddr
  countryCode : Option String
  countryName : Option String
  province : Option String
  city : Option String
  isp : Option String
  deriving DecidableEq

def IpLocation.empty (ip : IpAddr) : IpLocation :=
  ⟨ip, none, none, none, none, none⟩

/-! ### Regions -/

def nonzero (value : String) : Option String :=
  if value ≠ "" ∧ value ≠ "0" then some value else none

def isCountryCode (value : String) : Bool :=
  byteLen value == 2 && value.toList.all Char.isAlpha

def parseRegion (location : IpLocation) (region : String) : IpLocation :=
  let fields := split region '|'
  { location with
    countryName := nonzero (fields.getD 0 "")
    province := nonzero (fields.getD 1 "")
    city := nonzero (fields.getD 2 "")
    isp := nonzero (fields.getD 3 "")
    countryCode := (fields[4]?.filter isCountryCode).bind nonzero }

/-! ### Databases -/

/-- `ip2region::Searcher`. -/
class Xdb where
  Searcher : Type
  new : List UInt8 → Option Searcher
  search : Searcher → IpAddr → Except String String

variable [Xdb]

structure Ip2Region where
  v4 : Option Xdb.Searcher
  v6 : Option Xdb.Searcher

namespace Ip2Region

def isConfigured (db : Ip2Region) : Bool := db.v4.isSome || db.v6.isSome

/-- The searcher for the family of an address, and the name of the family. -/
def searcher (db : Ip2Region) : IpAddr → Option Xdb.Searcher × String
  | .v4 _ => (db.v4, "IPv4")
  | .v6 _ => (db.v6, "IPv6")

/-- `ip` is the text of the address in the message. -/
def lookup (db : Ip2Region) (ip : IpAddr) (display : IpAddr → String) :
    Except String IpLocation := do
  let (searcher, version) := db.searcher ip
  let region ← match searcher with
    | none => pure none
    | some searcher =>
      match Xdb.search searcher ip with
      | .ok region => pure (some region)
      | .error _ => throw s!"ip2region {version} lookup failed for {display ip}"
  let location := IpLocation.empty ip
  return match region.filter (· ≠ "") with
    | some region => parseRegion location region
    | none => location

end Ip2Region

/-- Opening one database, unless it is not configured or not there. -/
def openSearcher (path : Option Path) (version : String) : SysProg (Option Xdb.Searcher) :=
  match configuredPath path with
  | none => pure none
  | some path => do
    if !(← ask (.pathExists path)) then return none
    let error := s!"unable to open ip2region {version} database {path.display}"
    let bytes ← context (← ask (.readFile path)) error
    match Xdb.new bytes with
    | some searcher => return some searcher
    | none => .fail error

def Ip2Region.open (config : Ip2RegionConfig) : SysProg Ip2Region := do
  let v4 ← openSearcher config.v4Db "IPv4"
  let v6 ← openSearcher config.v6Db "IPv6"
  return { v4, v6 }

/-! ### What was opened -/

/-- What the files of a configuration's databases held; nothing for one that was not there. -/
structure DatabaseContents where
  v4 : Option (List UInt8)
  v6 : Option (List UInt8)

/-- The files of a configuration's databases on a disk. -/
def DatabaseContents.on (files : Path → Option (List UInt8)) (config : Ip2RegionConfig) :
    DatabaseContents where
  v4 := (configuredPath config.v4Db).bind files
  v6 := (configuredPath config.v6Db).bind files

/-- The contents were read from the configured files. -/
structure DatabaseContents.ReadIn (contents : DatabaseContents) (seen : List (Path × List UInt8))
    (config : Ip2RegionConfig) : Prop where
  v4 : ReadAt seen (configuredPath config.v4Db) contents.v4
  v6 : ReadAt seen (configuredPath config.v6Db) contents.v6

/-- The searcher for the content of a database, if that is valid. -/
def contentSearcher : Option (List UInt8) → Option (Option Xdb.Searcher)
  | none => some none
  | some bytes => (Xdb.new bytes).map some

/-- What these contents open to. -/
def Ip2Region.assemble (contents : DatabaseContents) : Option Ip2Region := do
  let v4 ← contentSearcher contents.v4
  let v6 ← contentSearcher contents.v6
  return { v4, v6 }

/-- The paths of a configuration's databases. -/
def Ip2RegionConfig.databasePaths (config : Ip2RegionConfig) : Set Path :=
  {q | q ∈ configuredPath config.v4Db ∨ q ∈ configuredPath config.v6Db}

variable {E : Env Choice Sys}

lemma writesIn_openSearcher (path : Option Path) (version : String) :
    WritesIn ∅ (openSearcher path version) := by
  rw [openSearcher]
  split
  · trivial
  · refine .bind (by simp) fun present => ?_
    split
    · trivial
    · refine .bind (by simp) fun _ => .bind (by simp) fun bytes => ?_
      split <;> trivial

lemma Ip2Region.writesIn_open (config : Ip2RegionConfig) :
    WritesIn ∅ (Ip2Region.open config) :=
  .bind (writesIn_openSearcher ..) fun _ => .bind (writesIn_openSearcher ..) fun _ => trivial

/-- A searcher is that of a content, of the file's if it is steady. -/
lemma wp_openSearcher (path : Option Path) (version : String) (s : Sys) :
    (openSearcher path version).wp Sys.handle E (Prog.onOk fun searcher s' =>
      ∃ content, contentSearcher content = some searcher ∧
        ReadAt s'.seen (configuredPath path) content ∧
        ((∀ q ∈ configuredPath path, Sys.Steady E q) →
          content = (configuredPath path).bind s'.files)) s := by
  rw [openSearcher]
  cases hpath : configuredPath path with
  | none => exact ⟨none, rfl, nofun, fun _ => rfl⟩
  | some q =>
    simp only [Prog.wp_bind, Prog.wp_perform]
    intro s₁ hs₁ c hc
    cases hpresent : (s₁.files q).isSome && !c.hidden with
    | false =>
      -- the database counts as absent
      simp only [Sys.step, hpresent, Bool.not_false, if_true, Prog.wp_pure, Prog.onOk]
      refine ⟨none, rfl, nofun, fun hsteady => ?_⟩
      simp [(hsteady q rfl).absent hc hpresent]
    | true =>
      simp only [Sys.step, hpresent, Bool.not_true, Bool.false_eq_true, if_false, Prog.wp_bind,
        Prog.wp_perform, wp_context]
      intro s₂ hs₂ c₂ hc₂
      cases c₂.fault with
      | some e => trivial
      | none =>
        cases hq : s₂.files q with
        | none => trivial
        | some bytes =>
          cases hnew : Xdb.new bytes with
          | none => simp [Except.mapError, hnew]
          | some searcher =>
            simp only [Except.mapError, hnew, Prog.wp_pure, Prog.onOk]
            refine ⟨some bytes, by simp [contentSearcher, hnew], ?_, fun _ => by simp [hq]⟩
            rintro _ ⟨⟩
            exact ⟨q, rfl, List.mem_cons_self⟩

/-- Opened databases are assembled from contents that were read, and that are still on the disk if
the files are steady. -/
lemma Ip2Region.wp_open (config : Ip2RegionConfig) (s : Sys) :
    (Ip2Region.open config).wp Sys.handle E (Prog.onOk fun databases s' =>
      ∃ contents, Ip2Region.assemble contents = some databases ∧
        (Sys.Private E → contents.ReadIn s'.seen config) ∧
        ((∀ q ∈ config.databasePaths, Sys.Steady E q) → contents = .on s'.files config)) s := by
  rw [Ip2Region.open]
  refine Prog.wp_seq_onOk (wp_openSearcher _ _ s) fun v4 s₁ ⟨c₁, hc₁, hr₁, hd₁⟩ => ?_
  refine Prog.wp_seq_onOk (Prog.wp_onOk_and (Prog.wp_onOk_and (wp_openSearcher _ _ s₁)
    (wp_frame (writesIn_openSearcher ..) s₁)) (keeps_readAt _ _ c₁ s₁ fun _ => hr₁))
    fun v6 s₂ ⟨⟨⟨c₂, hc₂, hr₂, hd₂⟩, hframe⟩, hr₁⟩ => ?_
  refine ⟨⟨c₁, c₂⟩, by simp [Ip2Region.assemble, hc₁, hc₂], fun hE => ⟨hr₁ hE, hr₂⟩, fun hsteady => ?_⟩
  rw [hd₁ fun q hq => hsteady q (.inl hq), hd₂ fun q hq => hsteady q (.inr hq),
    DatabaseContents.on]
  congr 1
  exact Option.bind_congr fun q hq => (hframe q (by simp) (hsteady q (.inl hq))).symm

end TransferGateway

import TransferGateway.Security.IpTrie
import TransferGateway.Std

/-!
# Address lists

Lines of a list hold one token, an address or a CIDR, before an optional comment. The parsed
networks go into an `IpSet`, one trie for each address family.
-/

namespace TransferGateway

/-! ### Networks -/

/-- One family's `{ network, prefix }`: the parser never builds a prefix wider than the address. -/
structure Network (w : ℕ) where
  network : BitVec w
  prefixLen : ℕ
  le : prefixLen ≤ w
  deriving DecidableEq

inductive IpNetwork where
  | v4 (network : Network 32)
  | v6 (network : Network 128)
  deriving DecidableEq

/-- `if prefix == 0 { 0 } else { MAX << (w - prefix) }`. -/
def mask (w p : ℕ) : BitVec w :=
  if p = 0 then 0#w else BitVec.allOnes w <<< (w - p)

/-- `IpNetwork::from_ip`. -/
def IpNetwork.fromIp : IpAddr → IpNetwork
  | .v4 ip => .v4 ⟨ip, 32, le_rfl⟩
  | .v6 ip => .v6 ⟨ip, 128, le_rfl⟩

/-- The prefix of a token without one. -/
def IpAddr.width : IpAddr → ℕ
  | .v4 _ => 32
  | .v6 _ => 128

/-- The end of `parse_network`: the range check and the mask of each family. -/
def maskNetwork (value : String) (p : ℕ) : IpAddr → Except String IpNetwork
  | .v4 ip =>
    if h : p > 32 then .error s!"IPv4 prefix must be between 0 and 32 in {value}"
    else .ok (.v4 ⟨ip &&& mask 32 p, p, Nat.le_of_not_lt h⟩)
  | .v6 ip =>
    if h : p > 128 then .error s!"IPv6 prefix must be between 0 and 128 in {value}"
    else .ok (.v6 ⟨ip &&& mask 128 p, p, Nat.le_of_not_lt h⟩)

section Parse

variable [StdParse]

def parseNetwork (value : String) : Except String IpNetwork := do
  let parts := split value '/'
  let some first := parts.head? | throw "missing IP address"
  let some ip := StdParse.ipAddr first | throw s!"invalid IP address in {value}"
  let p ← match parts.tail.head? with
    | some text =>
      match StdParse.u8 text with
      | some p => pure p.toNat
      | none => throw s!"invalid prefix in {value}"
    | none => pure ip.width
  if (parts.drop 2).head?.isSome then
    throw s!"too many '/' separators in {value}"
  maskNetwork value p ip

/-! ### Lines -/

/-- What a line holds before its comment: the first word, or nothing. -/
def listToken (line : String) : String :=
  firstWord (String.ofList (line.toList.takeWhile (· ≠ '#')))

/-- The numbered tokens of a list. -/
def numberedTokens (source : String) : List (ℕ × String) :=
  ((lines source).zipIdx.map fun p => (p.2 + 1, listToken p.1)).filter fun p => p.2 != ""

def parseNetworkLines (source : String) (path : Path) (kind : String) :
    Except String (List IpNetwork) :=
  (numberedTokens source).mapM fun (lineNumber, value) =>
    (parseNetwork value).mapError fun _ =>
      s!"invalid {kind} entry at {path.display}:{lineNumber}: {value}"

def parseIpLines (source : String) (path : Path) (kind : String) :
    Except String (List IpNetwork) :=
  (numberedTokens source).mapM fun (lineNumber, value) =>
    match StdParse.ipAddr value with
    | some ip => .ok (IpNetwork.fromIp ip)
    | none => .error s!"invalid {kind} entry at {path.display}:{lineNumber}: {value}"

end Parse

/-! ### Sets of addresses -/

structure IpSet where
  v4 : IpTrie 32
  v6 : IpTrie 128

namespace IpSet

def default : IpSet := ⟨.default, .default⟩

def insert (s : IpSet) : IpNetwork → IpSet
  | .v4 n => { s with v4 := s.v4.insert n.network.toNat n.prefixLen }
  | .v6 n => { s with v6 := s.v6.insert n.network.toNat n.prefixLen }

def fromNetworks (networks : List IpNetwork) : IpSet :=
  networks.foldl insert default

def contains (s : IpSet) : IpAddr → Bool
  | .v4 ip => s.v4.contains ip.toNat
  | .v6 ip => s.v6.contains ip.toNat

def isEmpty (s : IpSet) : Bool := s.v4.isEmpty && s.v6.isEmpty

def len (s : IpSet) : ℕ := s.v4.len + s.v6.len

end IpSet

/-! ### Coverage -/

/-- The first `p` bits of two addresses of one family agree. -/
def BitsAgree {w : ℕ} (a b : BitVec w) (p : ℕ) : Prop :=
  ∀ i < p, a.getMsbD i = b.getMsbD i

/-- `a/p` covers `ip`. -/
def Covers : IpAddr → ℕ → IpAddr → Prop
  | .v4 a, p, .v4 ip => BitsAgree a ip p
  | .v6 a, p, .v6 ip => BitsAgree a ip p
  | .v4 _, _, .v6 _ | .v6 _, _, .v4 _ => False

/-- A parsed network covers `ip`. -/
def IpNetwork.Covers : IpNetwork → IpAddr → Prop
  | .v4 n, ip => TransferGateway.Covers (.v4 n.network) n.prefixLen ip
  | .v6 n, ip => TransferGateway.Covers (.v6 n.network) n.prefixLen ip

lemma getMsbD_mask {w p i : ℕ} (hp : p ≤ w) (hi : i < p) : (mask w p).getMsbD i = true := by
  have hw : i < w := hi.trans_le hp
  simp [mask, show p ≠ 0 by omega, BitVec.getMsbD_shiftLeft]
  omega

/-- Masking keeps the bits the prefix looks at. -/
lemma bitsAgree_and_mask {w p : ℕ} (hp : p ≤ w) (a b : BitVec w) :
    BitsAgree (a &&& mask w p) b p ↔ BitsAgree a b p := by
  apply forall₂_congr
  intro i hi
  rw [BitVec.getMsbD_and, getMsbD_mask hp hi, Bool.and_true]

lemma topBits_prefix_iff_bitsAgree {w p : ℕ} (hp : p ≤ w) (a b : BitVec w) :
    topBits w a.toNat p <+: topBits w b.toNat w ↔ BitsAgree a b p := by
  rw [topBits_prefix_iff hp]
  apply forall₂_congr
  intro i hi
  simp [BitVec.getMsbD, BitVec.getLsbD, show i < w by omega]

/-- Masking keeps the coverage of the address it is given. -/
lemma covers_of_maskNetwork {value : String} {p : ℕ} {a : IpAddr} {n : IpNetwork}
    (h : maskNetwork value p a = .ok n) (ip : IpAddr) : n.Covers ip ↔ Covers a p ip := by
  cases a with
  | v4 a =>
    simp only [maskNetwork] at h
    split_ifs at h with hp
    cases h
    cases ip with
    | v4 ip => exact bitsAgree_and_mask (Nat.le_of_not_lt hp) a ip
    | v6 ip => exact Iff.rfl
  | v6 a =>
    simp only [maskNetwork] at h
    split_ifs at h with hp
    cases h
    cases ip with
    | v4 ip => exact Iff.rfl
    | v6 ip => exact bitsAgree_and_mask (Nat.le_of_not_lt hp) a ip

namespace IpSet

/-- The bit strings of a family after inserting a list of networks. -/
lemma paths_foldl_insert (networks : List IpNetwork) (s : IpSet) :
    (networks.foldl insert s).v4.paths =
        {w | ∃ n, IpNetwork.v4 n ∈ networks ∧ w = topBits 32 n.network.toNat n.prefixLen}
          ∪ s.v4.paths ∧
      (networks.foldl insert s).v6.paths =
        {w | ∃ n, IpNetwork.v6 n ∈ networks ∧ w = topBits 128 n.network.toNat n.prefixLen}
          ∪ s.v6.paths := by
  induction networks generalizing s with
  | nil => simp
  | cons network networks ih =>
    obtain ⟨h4, h6⟩ := ih (s.insert network)
    rw [List.foldl_cons, h4, h6]
    cases network with
    | v4 n =>
      refine ⟨?_, by simp [insert]⟩
      ext w
      simp only [insert, IpTrie.paths_insert]
      grind
    | v6 n =>
      refine ⟨by simp [insert], ?_⟩
      ext w
      simp only [insert, IpTrie.paths_insert]
      grind

/-- A set built from networks is not empty. -/
lemma isEmpty_fromNetworks {networks : List IpNetwork} (h : networks ≠ []) :
    (fromNetworks networks).isEmpty = false := by
  obtain ⟨h4, h6⟩ := paths_foldl_insert networks default
  obtain ⟨network, hmem⟩ := List.exists_mem_of_ne_nil networks h
  cases network with
  | v4 n =>
    have hpath : topBits 32 n.network.toNat n.prefixLen ∈ (fromNetworks networks).v4.paths := by
      rw [fromNetworks, h4]
      exact .inl ⟨n, hmem, rfl⟩
    simp [isEmpty, IpTrie.isEmpty_eq_false hpath]
  | v6 n =>
    have hpath : topBits 128 n.network.toNat n.prefixLen ∈ (fromNetworks networks).v6.paths := by
      rw [fromNetworks, h6]
      exact .inl ⟨n, hmem, rfl⟩
    simp [isEmpty, IpTrie.isEmpty_eq_false hpath]

/-- A set built from networks contains exactly the addresses they cover. -/
theorem contains_fromNetworks_iff (networks : List IpNetwork) (ip : IpAddr) :
    (fromNetworks networks).contains ip = true ↔ ∃ network ∈ networks, network.Covers ip := by
  obtain ⟨h4, h6⟩ := paths_foldl_insert networks default
  cases ip with
  | v4 ip =>
    rw [contains, IpTrie.contains_iff, fromNetworks, h4]
    constructor
    · rintro ⟨w, ⟨n, hn, rfl⟩ | hw, hpre⟩
      · exact ⟨.v4 n, hn, (topBits_prefix_iff_bitsAgree n.le _ _).mp hpre⟩
      · simp [default] at hw
    · rintro ⟨n | n, hn, hc⟩
      · exact ⟨_, Or.inl ⟨n, hn, rfl⟩, (topBits_prefix_iff_bitsAgree n.le _ _).mpr hc⟩
      · exact hc.elim
  | v6 ip =>
    rw [contains, IpTrie.contains_iff, fromNetworks, h6]
    constructor
    · rintro ⟨w, ⟨n, hn, rfl⟩ | hw, hpre⟩
      · exact ⟨.v6 n, hn, (topBits_prefix_iff_bitsAgree n.le _ _).mp hpre⟩
      · simp [default] at hw
    · rintro ⟨n | n, hn, hc⟩
      · exact hc.elim
      · exact ⟨_, Or.inl ⟨n, hn, rfl⟩, (topBits_prefix_iff_bitsAgree n.le _ _).mpr hc⟩

end IpSet

/-! ### What a token says -/

section Tokens

lemma split_slash {s t : String} (h : '/' ∉ s.toList) :
    split (s ++ "/" ++ t) '/' = s :: split t '/' := by
  rw [show "/" = String.singleton '/' from rfl, split_append h]

variable [StdParse]

/-- The tokens of a list. -/
def listTokens (source : String) : List String :=
  (numberedTokens source).map Prod.snd

/-- The token reads `a/p`, or it is the bare address `a` and `p` is the full width. -/
inductive TokenReads : String → IpAddr → ℕ → Prop where
  | bare {token : String} {a : IpAddr} (hslash : '/' ∉ token.toList)
      (ha : StdParse.ipAddr token = some a) : TokenReads token a a.width
  | cidr {s t : String} {a : IpAddr} {p : UInt8} (hs : '/' ∉ s.toList) (ht : '/' ∉ t.toList)
      (ha : StdParse.ipAddr s = some a) (hp : StdParse.u8 t = some p) :
      TokenReads (s ++ "/" ++ t) a p.toNat

/-- A token has at most one reading. -/
lemma TokenReads.unique {token : String} {a b : IpAddr} {p q : ℕ} (h : TokenReads token a p)
    (h' : TokenReads token b q) : a = b ∧ p = q := by
  have hslash : ∀ s t : String, '/' ∈ (s ++ "/" ++ t).toList := by simp
  cases h with
  | bare hs ha =>
    generalize htok : token = token' at h'
    cases h' with
    | bare _ ha' =>
      subst htok
      obtain rfl := Option.some.inj (ha.symm.trans ha')
      exact ⟨rfl, rfl⟩
    | cidr => exact absurd (htok ▸ hslash _ _) hs
  | @cidr s t _ p hs ht ha hp =>
    generalize htok : s ++ "/" ++ t = token at h'
    cases h' with
    | bare hs' _ => exact absurd (htok ▸ hslash _ _) hs'
    | @cidr s' t' _ p' hs' ht' ha' hp' =>
      have hsplit : s :: split t '/' = s' :: split t' '/' := by
        rw [← split_slash hs, htok, split_slash hs']
      rw [split_of_notMem ht, split_of_notMem ht'] at hsplit
      obtain ⟨rfl, rfl⟩ : s = s' ∧ t = t' := by simpa using hsplit
      obtain rfl := Option.some.inj (ha.symm.trans ha')
      obtain rfl := Option.some.inj (hp.symm.trans hp')
      exact ⟨rfl, rfl⟩

/-- An accepted token has a reading, which was masked. -/
lemma reads_of_parseNetwork {value : String} {n : IpNetwork} (h : parseNetwork value = .ok n) :
    ∃ a p, TokenReads value a p ∧ maskNetwork value p a = .ok n := by
  rcases split_cases value '/' with hs | ⟨s, t, hs, rfl⟩
  · rw [parseNetwork, split_of_notMem hs] at h
    cases ha : StdParse.ipAddr value with
    | none => simp [ha] at h
    | some a =>
      simp [ha, pure, Except.pure] at h
      exact ⟨a, a.width, .bare hs ha, h⟩
  · rw [parseNetwork, split_append hs] at h
    cases ha : StdParse.ipAddr s with
    | none => simp [ha] at h
    | some a =>
      rcases split_cases t '/' with ht | ⟨t, u, ht, rfl⟩
      · rw [split_of_notMem ht] at h
        cases hp : StdParse.u8 t with
        | none => simp [ha, hp] at h
        | some p =>
          simp [ha, hp, pure, Except.pure] at h
          exact ⟨a, p.toNat, .cidr hs ht ha hp, h⟩
      · -- a second separator is refused
        rw [split_append ht] at h
        cases hu : split u '/' with
        | nil => exact absurd hu (by simp [split, List.splitOn_ne_nil])
        | cons v rest => cases hp : StdParse.u8 t <;> simp [ha, hu, hp] at h

/-- The parsed network covers what the reading covers. -/
lemma covers_of_parseNetwork {value : String} {n : IpNetwork} (h : parseNetwork value = .ok n) :
    ∃ a p, TokenReads value a p ∧ ∀ ip, n.Covers ip ↔ Covers a p ip := by
  obtain ⟨a, p, hreads, hmask⟩ := reads_of_parseNetwork h
  exact ⟨a, p, hreads, covers_of_maskNetwork hmask⟩

/-- Some token covers `ip`. -/
def TokensCover (tokens : List String) (ip : IpAddr) : Prop :=
  ∃ token ∈ tokens, ∃ a p, TokenReads token a p ∧ Covers a p ip

/-- Networks parsed one by one cover what the readings of their tokens cover. -/
lemma exists_covers_iff_of_mapM {ι : Type} {value message : ι → String} {items : List ι}
    {networks : List IpNetwork}
    (h : items.mapM (fun i => (parseNetwork (value i)).mapError fun _ => message i) =
      .ok networks) (ip : IpAddr) :
    (∃ network ∈ networks, network.Covers ip) ↔ TokensCover (items.map value) ip := by
  have hall := mapM_eq_ok.mp h
  simp only [mapError_eq_ok] at hall
  clear h
  induction hall with
  | nil => simp [TokensCover]
  | @cons item network items networks hn _ ih =>
    obtain ⟨a, p, hr, hc⟩ := covers_of_parseNetwork hn
    have hhead : network.Covers ip ↔ ∃ a p, TokenReads (value item) a p ∧ Covers a p ip := by
      rw [hc]
      refine ⟨fun h => ⟨a, p, hr, h⟩, ?_⟩
      rintro ⟨b, q, hr', h⟩
      obtain ⟨rfl, rfl⟩ := hr.unique hr'
      exact h
    rw [TokensCover] at ih ⊢
    simp only [List.mem_cons, List.map_cons, exists_eq_or_imp, ih, hhead]

/-- The parsed networks of an accepted list cover what the readings of its tokens cover. -/
lemma exists_covers_iff_of_parseNetworkLines {source kind : String} {path : Path}
    {networks : List IpNetwork} (h : parseNetworkLines source path kind = .ok networks)
    (ip : IpAddr) :
    (∃ network ∈ networks, network.Covers ip) ↔ TokensCover (listTokens source) ip :=
  exists_covers_iff_of_mapM h ip

/-- The set loaded from an accepted list contains an address exactly when a token covers it, so
two accepted lists with the same tokens, in any order and number, give the same answers. -/
theorem contains_loaded_list_iff {source kind : String} {path : Path}
    {networks : List IpNetwork} (h : parseNetworkLines source path kind = .ok networks)
    (ip : IpAddr) :
    ((IpSet.fromNetworks networks).contains ip = true ↔
      ∃ token ∈ listTokens source, ∃ a p, TokenReads token a p ∧ Covers a p ip) ∧
    ∀ source' kind' path' networks',
      parseNetworkLines source' path' kind' = .ok networks' →
      (∀ token, token ∈ listTokens source' ↔ token ∈ listTokens source) →
      (IpSet.fromNetworks networks').contains ip = (IpSet.fromNetworks networks).contains ip := by
  refine ⟨?_, ?_⟩
  · rw [IpSet.contains_fromNetworks_iff, exists_covers_iff_of_parseNetworkLines h, TokensCover]
  · intro source' kind' path' networks' h' htok
    rw [Bool.eq_iff_iff, IpSet.contains_fromNetworks_iff, IpSet.contains_fromNetworks_iff,
      exists_covers_iff_of_parseNetworkLines h, exists_covers_iff_of_parseNetworkLines h']
    simp only [TokensCover, htok]

end Tokens

/-- Two nested CIDRs, a comment and a blank line, looked up below both. -/
theorem contains_loaded_list_iff_nested :
    letI := dottedParse
    let source := "10.0.0.0/8 # all\n\n10.1.2.9/24\n"
    let networks : List IpNetwork :=
      [.v4 ⟨0x0a000000#32, 8, by decide⟩, .v4 ⟨0x0a010200#32, 24, by decide⟩]
    parseNetworkLines source ⟨false, ["list"]⟩ "VPN" = .ok networks ∧
      ((IpSet.fromNetworks networks).contains (.v4 0x0a010203#32) = true ↔
        ∃ token ∈ listTokens source, ∃ a p, TokenReads token a p ∧ Covers a p (.v4 0x0a010203#32)) := by
  let _ := dottedParse
  have h : parseNetworkLines "10.0.0.0/8 # all\n\n10.1.2.9/24\n" ⟨false, ["list"]⟩ "VPN" =
      .ok [.v4 ⟨0x0a000000#32, 8, by decide⟩, .v4 ⟨0x0a010200#32, 24, by decide⟩] := by rfl
  exact ⟨h, (contains_loaded_list_iff h _).1⟩

end TransferGateway

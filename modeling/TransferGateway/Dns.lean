import Mathlib.Algebra.Ring.Nat
import TransferGateway.Config.Routing

/-!
# Minecraft SRV records
-/

namespace TransferGateway

def MINECRAFT_SERVICE : String := "_minecraft._tcp"

/-- The counter of the selections is kept with the state of the connections. -/
structure MinecraftDnsResolver where
  resolver : Option Resolver
  deriving DecidableEq

/-- A resolver that cannot be built is replaced by none, with a warning. -/
def MinecraftDnsResolver.fromSystemConfig : SysProg MinecraftDnsResolver := do
  match ← ask .systemResolver with
  | .ok resolver => return ⟨some resolver⟩
  | .error message => do
    ask (.log .warn message)
    return ⟨none⟩

lemma writesIn_fromSystemConfig : WritesIn ∅ MinecraftDnsResolver.fromSystemConfig := by
  refine .bind (by simp) fun r => ?_
  cases r with
  | ok resolver => trivial
  | error message => exact .bind (by simp) fun _ => trivial

structure SrvTarget where
  priority : UInt16
  weight : UInt16
  host : String
  port : UInt16
  deriving DecidableEq

def minecraftSrvQueryName [StdParse] (host : String) : Option String :=
  let host := ((stripFirst host '[').bind (stripLast · ']')).getD host
  let hostWithoutRoot := (stripLast host '.').getD host
  if hostWithoutRoot = "" ∨ (StdParse.ipAddr hostWithoutRoot).isSome then none
  else some s!"{MINECRAFT_SERVICE}.{hostWithoutRoot}."

def trimDnsRoot (host : String) : String :=
  let host := trimEndMatches host '.'
  if host = "" then "." else host

/-- The first candidate at which the running weight reaches the selected one. -/
def selectByWeight (selectedWeight : ℕ) : List SrvTarget → ℕ → Option SrvTarget
  | [], _ => none
  | candidate :: candidates, runningWeight =>
    let runningWeight := runningWeight + candidate.weight.toNat
    if runningWeight ≥ selectedWeight then some candidate
    else selectByWeight selectedWeight candidates runningWeight

def selectSrvTarget (records : List SrvTarget) (sequence : UInt64) : Option SrvTarget := do
  let priority ← (records.map (·.priority)).min?
  let lowest := records.filter (·.priority == priority)
  -- a stable sort by `weight != 0`
  let candidates := lowest.filter (·.weight == 0) ++ lowest.filter (·.weight != 0)
  let totalWeight := (candidates.map (·.weight.toNat)).sum
  if totalWeight = 0 then candidates[sequence.toNat % candidates.length]?
  else
    (selectByWeight (sequence.toNat % (totalWeight + 1)) candidates 0).or candidates.getLast?

/-- The data of an answer: an SRV record or another one. -/
inductive RData where
  | srv (priority weight port : UInt16) (target : String)
  | other
  deriving DecidableEq

/-- The usable record in an answer. -/
def RData.usable : RData → Option SrvTarget
  | .srv priority weight port target =>
    if target = "." ∨ port = 0 then none
    else some { priority, weight, host := trimDnsRoot target, port }
  | .other => none

/-- The record that says there is no service. -/
def RData.isUnavailable : RData → Bool
  | .srv _ _ _ target => target == "."
  | .other => false

end TransferGateway

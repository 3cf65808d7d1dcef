import TransferGateway.Dns
import TransferGateway.Server.Stream

/-!
# The operations of a connection

A handler uses its client's stream, and it shares the counters of the selections with the other
handlers, who may move them at any moment.
-/

namespace TransferGateway

open Protocol

/-! ### Operations -/

/-- What a handler does beside reading and writing. -/
inductive ServerOp : Type → Type where
  | selectRoute (select : Counters → Except Panic (Option (String × LineTarget) × Counters)) :
      ServerOp (Except Panic (Option (String × LineTarget)))
  | srvLookup (resolver : Resolver) (query : String) : ServerOp (Except String (List RData))
  /-- `fetch_add(1)` on the counter of the SRV selections. -/
  | fetchAdd : ServerOp UInt64
  | newUuid : ServerOp Uuid
  | log (level : Level) (message : String) : ServerOp Unit

abbrev ConnOp (β : Type) := StreamOp β ⊕ ServerOp β

structure Conn where
  client : Stream
  counters : Counters
  sequence : UInt64
  log : List (Level × String)

structure ConnChoice where
  stream : StreamChoice
  answers : Except String (List RData)
  uuid : Uuid

/-- Why a handler ends before its work is done. -/
inductive ConnError where
  | protocol (error : ProtocolError)
  | other (message : String)
  | panic (panic : Panic)

namespace Conn

def step {β : Type} (o : ConnOp β) (c : ConnChoice) (s : Conn) : β × Conn :=
  match o with
  | .inl o =>
    let r := s.client.step o c.stream
    (r.1, { s with client := r.2 })
  | .inr (.selectRoute select) =>
    match select s.counters with
    | .ok (selected, counters) => (.ok selected, { s with counters })
    | .error panic => (.error panic, s)
  | .inr (.srvLookup _ _) => (c.answers, s)
  | .inr .fetchAdd => (s.sequence, { s with sequence := s.sequence + 1 })
  | .inr .newUuid => (c.uuid, s)
  | .inr (.log level message) => ((), { s with log := (level, message) :: s.log })

abbrev handle : Handler ConnOp ConnChoice Conn := fun _ o c s => s.step o c

lemma step_history {β : Type} (o : ConnOp β) (c : ConnChoice) (s : Conn) :
    s.client.history <+: (s.step o c).2.client.history := by
  rcases o with o | o
  · obtain ⟨events, h⟩ := s.client.step_history o c.stream
    exact ⟨events, h.symm⟩
  · cases o with
    | selectRoute select =>
      simp only [step]
      split <;> exact List.prefix_rfl
    | _ => exact List.prefix_rfl

/-- The client sends, and the other handlers move the counters. -/
def shared : Env ConnChoice Conn where
  interferes t t' := t.client.Arrives t'.client
  admits _ := True

end Conn

abbrev ConnProg := Prog ConnOp ConnError

/-- A program on the client's stream. -/
def onClient {α : Type} (p : StreamProg α) : ConnProg α :=
  (p.lift fun _ => Sum.inl).mapError .protocol

def serve {ε α : Type} (o : ServerOp α) : Prog ConnOp ε α :=
  @Prog.perform ConnOp _ _ (.inr o)

lemma all_onClient_of {α : Type} {P : (β : Type) → ConnOp β → Prop} {p : StreamProg α}
    (hp : p.All fun β o => P β (.inl o)) : (onClient p).All P :=
  (Prog.all_mapError ..).mpr (hp.lift fun _ h => h)

lemma all_onClient {α : Type} {P : (β : Type) → ConnOp β → Prop}
    (hP : ∀ {β : Type} (o : StreamOp β), P β (.inl o)) (p : StreamProg α) : (onClient p).All P :=
  all_onClient_of ((Prog.all_true p).mono fun o _ => hP o)

/-- What a program on the stream establishes there holds, whatever the others do. -/
lemma wp_onClient {α : Type} {p : StreamProg α} {Q : Except ProtocolError α → Stream → Prop}
    {t : Conn} (hp : p.wp Stream.handle Stream.peer Q t.client) :
    (onClient p).wp Conn.handle Conn.shared (fun r t' => ∃ r', r = r'.mapError .protocol ∧
      Q r' t'.client) t := by
  rw [onClient, Prog.wp_mapError]
  refine Prog.wp_mono (Prog.wp_lift _ Conn.client ConnChoice.stream (fun h => h) (fun _ => trivial)
    (fun _ _ _ => rfl) hp) fun r t' h => ⟨r, rfl, h⟩

/-- Nothing is read or written. -/
lemma keeps_history {ε α : Type} {p : Prog ConnOp ε α} (hp : p.All fun _ o => o.isRight = true)
    (history : List StreamEvent) :
    Prog.Keeps Conn.handle Conn.shared (fun t => t.client.history = history) p := by
  refine .of_all hp (fun h ht => h.1.trans ht) fun o ho c _ t ht => ?_
  rcases o with o | o
  · cases ho
  · cases o with
    | selectRoute select =>
      simp only [Conn.step]
      split <;> exact ht
    | _ => exact ht

/-! ### Targets -/

/-- The counter of the selections is shared; a failing `expect` ends the handler. -/
def MinecraftDnsResolver.resolveTarget [StdParse] (dns : MinecraftDnsResolver)
    (target : LineTarget) (resolveSrv : Bool) : Prog ConnOp Panic (Except String LineTarget) :=
  if !resolveSrv then return .ok target
  else match dns.resolver, minecraftSrvQueryName target.host with
    | none, _ | _, none => return .ok target
    | some resolver, some queryName => do
      match ← serve (.srvLookup resolver queryName) with
      | .error _ => do
        serve (.log .debug
          "Minecraft SRV lookup returned no usable record; using configured target")
        return .ok target
      | .ok answers => do
        let records := answers.filterMap RData.usable
        if records.isEmpty then
          if answers.any RData.isUnavailable then
            return .error s!"Minecraft SRV service is unavailable for {target.host}"
          else return .ok target
        else do
          let sequence ← serve .fetchAdd
          match selectSrvTarget records sequence with
          | none => .fail .emptyOption
          | some selected => do
            serve (.log .debug "resolved Minecraft SRV target")
            return .ok { host := selected.host, port := selected.port, resolveSrv := false }

lemma all_resolveTarget [StdParse] {P : (β : Type) → ConnOp β → Prop}
    (hlookup : ∀ resolver query, P _ (.inr (.srvLookup resolver query)))
    (hfetch : P _ (.inr .fetchAdd)) (hlog : ∀ level message, P _ (.inr (.log level message)))
    (dns : MinecraftDnsResolver) (target : LineTarget) (resolveSrv : Bool) :
    (dns.resolveTarget target resolveSrv).All P := by
  have hserve : ∀ {α : Type} (o : ServerOp α), P _ (.inr o) →
      (serve o : Prog ConnOp Panic α).All P := fun o ho => (Prog.all_perform _).mpr ho
  rw [MinecraftDnsResolver.resolveTarget]
  split
  · trivial
  split
  · trivial
  · trivial
  refine .bind (hserve _ (hlookup ..)) fun r => ?_
  cases r with
  | error error => exact .bind (hserve _ (hlog ..)) fun _ => trivial
  | ok answers =>
    dsimp only
    split
    · split <;> trivial
    · refine .bind (hserve _ hfetch) fun sequence => ?_
      split
      · trivial
      · exact .bind (hserve _ (hlog ..)) fun _ => trivial

def formatTarget (target : LineTarget) : String :=
  if target.host.toList.contains ':' && target.host.toList.head? ≠ some '[' then
    s!"[{target.host}]:{target.port.toNat}"
  else s!"{target.host}:{target.port.toNat}"

end TransferGateway

import TransferGateway.Config.Vhosts
import TransferGateway.Lib.Rotation
import TransferGateway.Lib.Threads
import TransferGateway.Runtime.Main
import TransferGateway.Server.Status

/-!
# The rotation of a group

The handlers of all connections run at once, and they share the counters of the groups. A status query
selects a route like a login does, so a group goes on by one host with each of both.
-/

namespace TransferGateway

open Protocol

/-! ### Selections -/

section Handlers

variable [Xdb] [StdCase] [StdHash]

/-- A selection is one of the configuration, for some client. -/
def SelectsFrom (state : RuntimeState) : (β : Type) → TaskOp β → Prop
  | _, .inl (.inr (.selectRoute select)) => ∃ location player requestHost balanceKey,
      select = state.config.selectRouteWithHostContext location player requestHost state.security
        balanceKey
  | _, _ => True

variable {state : RuntimeState}

lemma all_log (level : Level) (message : String) :
    (serve (.log level message) : ConnProg Unit).All fun β o => SelectsFrom state β (.inl o) :=
  (Prog.all_perform _).mpr trivial

lemma all_selectRoute (location : IpLocation) (player requestHost : Option String)
    (balanceKey : String) :
    (serve (.selectRoute (state.config.selectRouteWithHostContext location player requestHost
      state.security balanceKey)) : ConnProg _).All fun β o => SelectsFrom state β (.inl o) :=
  (Prog.all_perform _).mpr ⟨location, player, requestHost, balanceKey, rfl⟩

lemma all_answerPing (hasBackend : Bool) :
    (answerPing state hasBackend).All (SelectsFrom state) := by
  refine .bind (all_onConn (all_requirePacket trivial (fun _ => trivial) ..)) fun ping => ?_
  split
  · trivial
  refine .bind (by simp) fun value =>
    .bind (all_onConn (all_onClient (fun _ => trivial) _)) fun _ => ?_
  split
  · refine .bind (all_resultOf (all_completeBackendStatusPing (fun _ => trivial) ..)) fun result => ?_
    cases result with
    | error e => exact all_onConn (all_log ..)
    | ok _ => trivial
  · trivial

lemma all_transferPlayer [Md5] (spec : ProtocolSpec) (loginStart : LoginStart) (line : String)
    (resolvedTarget : LineTarget) :
    (transferPlayer state spec loginStart line resolvedTarget).All fun β o =>
      SelectsFrom state β (.inl o) := by
  refine .bind ((Prog.all_perform _).mpr trivial) fun sessionId =>
    .bind (all_onClient (fun _ => trivial) _) fun _ => .bind (all_requirePacket trivial (fun _ => trivial) ..) fun packet => ?_
  split
  · trivial
  · exact .bind (all_onClient (fun _ => trivial) _) fun _ => all_log ..

variable [StdParse]

variable [StdDisplay]

lemma all_statusPayload (peer : SocketAddr) (location : IpLocation) (handshake : Handshake) :
    (statusPayload peer state location handshake).All (SelectsFrom state) := by
  refine .bind (all_onConn (all_selectRoute ..)) fun selected => ?_
  obtain panic | ⟨_ | ⟨line, target⟩⟩ := selected
  · trivial
  · trivial
  refine .bind (all_resultOf (all_proxyStatusResponse (fun _ _ => trivial) trivial
    (fun _ _ => trivial) (fun _ => trivial) (fun _ => trivial) ..)) fun response => ?_
  cases response with
  | error e => exact .bind (all_onConn (all_log ..)) fun _ => trivial
  | ok response => exact .bind (all_onConn (all_log ..)) fun _ => trivial

lemma all_handleStatus (peer : SocketAddr) (location : IpLocation) (handshake : Handshake) :
    (handleStatus peer state location handshake).All (SelectsFrom state) := by
  refine .bind (all_onConn (all_requirePacket trivial (fun _ => trivial) ..)) fun request => ?_
  dsimp only
  split
  · trivial
  split
  · exact all_onConn (all_log ..)
  · exact .bind (all_statusPayload ..) fun _ =>
      .bind (all_onConn (all_onClient (fun _ => trivial) _)) fun _ => all_answerPing _

variable [Md5]

lemma all_handleLogin (peer : SocketAddr) (location : IpLocation) (handshake : Handshake) :
    (handleLogin peer state location handshake).All fun β o => SelectsFrom state β (.inl o) := by
  have hdisconnect : ∀ reason, (sendLoginDisconnect reason).All fun β o =>
      SelectsFrom state β (.inl o) := fun reason => all_onClient (fun _ => trivial) _
  rw [handleLogin]
  split
  · exact hdisconnect _
  split
  · exact hdisconnect _
  refine .bind (all_requirePacket trivial (fun _ => trivial) ..) fun packet => .bind (by simp) fun loginStart => ?_
  rw [admitPlayer]
  split
  · exact hdisconnect _
  split
  · exact .bind (all_log ..) fun _ => hdisconnect _
  -- the client is not blocked
  refine .bind (all_selectRoute ..) fun selected => ?_
  obtain panic | ⟨_ | ⟨line, target⟩⟩ := selected
  · trivial
  · exact hdisconnect _
  refine .bind ((Prog.all_mapError ..).mpr (all_resolveTarget (fun _ _ => trivial) trivial
    (fun _ _ => trivial) ..)) fun resolved => ?_
  cases resolved with
  | error message => exact .bind (all_log ..) fun _ => hdisconnect _
  | ok resolvedTarget => exact all_transferPlayer ..

/-- Every selection of a handler is one of the configuration. -/
lemma all_handleConnection (peer : SocketAddr) :
    (handleConnection peer state).All (SelectsFrom state) := by
  refine .bind (all_onSocket trivial) fun _ => .bind (all_onConn (all_requirePacket trivial (fun _ => trivial) ..)) fun _ =>
    .bind (by simp) fun handshake => .bind (all_onConn (all_lookupLocation (fun _ _ => trivial) ..)) fun location => ?_
  split
  · exact .bind (all_handleStatus ..) fun _ => all_onSocket trivial
  · exact .bind (all_onConn (all_handleLogin ..)) fun _ => all_onSocket trivial
  · exact .bind (all_onConn (all_handleLogin ..)) fun _ => all_onSocket trivial

end Handlers

/-! ### Connections that run at once -/

abbrev Select := Counters → Except Panic (Option (String × LineTarget) × Counters)

/-- A selection that was made, and its result. -/
structure Selected where
  select : Select
  result : Except Panic (Option (String × LineTarget))

def Selected.target (n : Selected) : Option LineTarget :=
  match n.result with
  | .ok (some route) => some route.2
  | .ok none | .error _ => none

/-- What a connection has of its own. -/
structure Sockets where
  client : Stream
  backend : Stream

/-- Bytes of the client, or of the backend. -/
inductive Received where
  | client (bytes : List UInt8)
  | backend (bytes : List UInt8)

def Sockets.receive : Received → Sockets → Sockets
  | .client bytes, s => { s with client.input := s.client.input ++ bytes }
  | .backend bytes, s => { s with backend.input := s.backend.input ++ bytes }

/-- What the connections share, and the selections so far. -/
structure Shared where
  counters : Counters
  sequence : UInt64
  log : List (Level × String)
  selections : List Selected

namespace Shared

def start : Shared := ⟨fun _ => 0, 0, [], []⟩

def selectedBy {β : Type} : TaskOp β → Counters → List Selected
  | .inl (.inr (.selectRoute select)), counters => [⟨select, (select counters).map Prod.fst⟩]
  | _, _ => []

/-- An operation of one of the handlers. -/
def handle : Handler TaskOp ConnChoice (Sockets × Shared) := fun _ o c s =>
  let task : Task := ⟨⟨s.1.client, s.2.counters, s.2.sequence, s.2.log⟩, s.1.backend⟩
  let r := task.step o c
  (r.1, ⟨r.2.conn.client, r.2.backend⟩, ⟨r.2.conn.counters, r.2.conn.sequence, r.2.conn.log,
    s.2.selections ++ selectedBy o s.2.counters⟩)

end Shared

abbrev Connection := Thread TaskOp ConnError Unit Sockets

/-- All connections so far. -/
abbrev Connections := Pool Connection Shared

abbrev ConnectionsEvent := Pool.Event Connection (Thread.Label ConnChoice Received)

section Running

variable [Xdb] [StdParse] [StdCase] [StdHash] [StdDisplay] [Md5]

def Connection.new (state : RuntimeState) (peer : SocketAddr) : Connection :=
  ⟨handleConnection peer state, ⟨⟨[], []⟩, ⟨[], []⟩⟩⟩

/-- The runs of the connections of any clients under one state. -/
abbrev Connections.Run (state : RuntimeState) : List (Connections × ConnectionsEvent) → Connections → Prop :=
  Pool.Run (Thread.step Shared.handle Sockets.receive) (fun t => ∃ peer, t = .new state peer) .start

end Running

/-! ### Groups -/

section Groups

variable [StdCase]

/-- The group is one of an accepted configuration's. -/
def AppConfig.HasGroup (c : AppConfig) (group : RoutingGroup) : Prop :=
  match c.vhosts, c.routing with
  | some vhosts, _ => ∃ name ∈ vhosts.files.keys, ∃ routing,
      vhosts.routes.get name = some routing ∧ group ∈ routing.group
  | none, some routing => group ∈ routing.group
  | none, none => False

lemma AppConfig.HasGroup.valid [UrlParse] {c : AppConfig} {group : RoutingGroup}
    (h : c.HasGroup group) (hvalid : c.validate = .ok ()) : group.Valid := by
  rw [validate, check_bind_eq_ok, check_bind_eq_ok, check_bind_eq_ok] at hvalid
  obtain ⟨-, -, -, hroutes⟩ := hvalid
  cases hvhosts : c.vhosts with
  | some vhosts =>
    simp only [HasGroup, hvhosts] at h
    obtain ⟨name, hname, routing, hrouting, hgroup⟩ := h
    cases hrouting' : c.routing with
    | some _ =>
      simp [hvhosts, hrouting', bind, Except.bind] at hroutes
    | none =>
      simp only [hvhosts, hrouting', check_bind_eq_ok] at hroutes
      obtain ⟨routing', hget, hok⟩ := (VhostsConfig.valid_of_validate hroutes.1).routes name hname
      obtain rfl : routing = routing' := Option.some.inj (hrouting.symm.trans hget)
      exact (RoutingConfig.valid_of_validate hok).groups group hgroup
  | none =>
    cases hrouting : c.routing with
    | some routing =>
      simp only [HasGroup, hvhosts, hrouting] at h
      simp only [hvhosts, hrouting, check_bind_eq_ok] at hroutes
      exact (RoutingConfig.valid_of_validate hroutes.1).groups group h
    | none => simp [HasGroup, hvhosts, hrouting] at h

namespace RoutingGroup

variable [StdHash]

/-- The selection is one of the group. -/
def Routes (group : RoutingGroup) (select : Select) : Prop :=
  ∃ line balanceKey, ∀ counters, select counters =
    (group.selectTarget balanceKey counters).map fun r => (some (line, r.1), r.2)

lemma selectTarget_roundRobin {group : RoutingGroup}
    (hmode : parseGroupMode group.mode = some .roundRobin) (hhosts : group.hosts ≠ [])
    (balanceKey : String) (counters : Counters) :
    group.selectTarget balanceKey counters =
      .ok (group.targetAt ((counters group.counter).toNat % group.hosts.length),
        Function.update counters group.counter (counters group.counter + 1)) := by
  have hpos : 0 < group.hosts.length := List.length_pos_iff.mpr hhosts
  refine selectTarget_of_selectIndex ?_ (Nat.mod_lt _ hpos)
  simp [selectIndex, hmode, remainder_of_pos hpos, bind, Except.bind, pure, Except.pure]

/-- The selections so far went round, and the counter stands at the next one. -/
def Rotated (group : RoutingGroup) (s : Shared) : Prop :=
  s.counters group.counter = UInt64.ofNat s.selections.length ∧
    s.selections.map Selected.target = (List.range s.selections.length).map fun k =>
      some (group.targetAt (Rotation.place (2 ^ 64) group.hosts.length k))

end RoutingGroup

/-- The selection was one of the configuration, for some client. -/
def Selected.IsFrom [StdHash] [Xdb] (n : Selected) (state : RuntimeState) : Prop :=
  ∃ location player requestHost balanceKey,
    n.select = state.config.selectRouteWithHostContext location player requestHost state.security
      balanceKey

variable [StdHash]

/-- The next selection of the group takes the next host. -/
lemma RoutingGroup.Rotated.next {group : RoutingGroup} {s s' : Shared} (h : group.Rotated s)
    (hmode : parseGroupMode group.mode = some .roundRobin) (hhosts : group.hosts ≠ [])
    {n : Selected} (hroutes : group.Routes n.select)
    (hselections : s'.selections = s.selections ++ [n])
    (hresult : n.result = (n.select s.counters).map Prod.fst)
    (hcounters : ∀ r counters, n.select s.counters = .ok (r, counters) →
      s'.counters = counters) : group.Rotated s' := by
  obtain ⟨line, balanceKey, hroutes⟩ := hroutes
  obtain ⟨hcounter, htargets⟩ := h
  let target := group.targetAt ((s.counters group.counter).toNat % group.hosts.length)
  have hselect : n.select s.counters = .ok (some (line, target),
      Function.update s.counters group.counter (s.counters group.counter + 1)) := by
    rw [hroutes, selectTarget_roundRobin hmode hhosts]
    rfl
  have htarget : n.target = some target := by
    rw [Selected.target, hresult, hselect]
    rfl
  refine ⟨?_, ?_⟩
  · rw [hcounters _ _ hselect, hselections, Function.update_self, hcounter, List.length_append,
      List.length_singleton, UInt64.ofNat_add]
    rfl
  · rw [hselections, List.map_append, htargets, List.length_append, List.length_singleton,
      List.range_succ, List.map_append, List.map_singleton, List.map_singleton, htarget]
    simp only [target, hcounter, UInt64.toNat_ofNat', Rotation.place]

variable [Xdb] {state : RuntimeState}

/-- All that an operation can do to what is shared: nothing that matters here, or a selection. -/
lemma Shared.handle_cases {β : Type} {o : TaskOp β} (ho : SelectsFrom state β o) (c : ConnChoice)
    (own : Sockets) (s : Shared) :
    let s' := (Shared.handle β o c (own, s)).2.2
    (s'.counters = s.counters ∧ s'.selections = s.selections) ∨
    ∃ n : Selected, n.IsFrom state ∧ s'.selections = s.selections ++ [n] ∧
      n.result = (n.select s.counters).map Prod.fst ∧
      (∀ r counters, n.select s.counters = .ok (r, counters) → s'.counters = counters) ∧
      ∀ panic, n.select s.counters = .error panic → s'.counters = s.counters := by
  rcases o with (o | o) | o | o
  · exact Or.inl ⟨rfl, List.append_nil _⟩
  · cases o with
    | selectRoute select =>
      refine Or.inr ⟨⟨select, _⟩, ho, rfl, rfl, fun r counters hselect => ?_, fun panic hselect => ?_⟩
      · simp only at hselect
        simp [handle, Task.step, Conn.step, hselect]
      · simp only at hselect
        simp [handle, Task.step, Conn.step, hselect]
    | _ => exact Or.inl ⟨rfl, List.append_nil _⟩
  · exact Or.inl ⟨rfl, List.append_nil _⟩
  · apply Or.inl
    cases o <;> cases hfault : c.stream.fault <;>
      simp [handle, Task.step, hfault, selectedBy]

variable [StdParse] [StdDisplay] [Md5] {history : List (Connections × ConnectionsEvent)}
  {s : Connections}

lemma Connections.Run.isFrom (h : Connections.Run state history s) :
    ∀ n ∈ s.shared.selections, n.IsFrom state := by
  refine Thread.shared_invariant (P := SelectsFrom state) h
    (I := fun s => ∀ n ∈ s.selections, n.IsFrom state) (by simp [Shared.start]) ?_ ?_
  · rintro _ ⟨peer, rfl⟩
    exact all_handleConnection peer
  · intro β o ho c own s hfrom
    rcases Shared.handle_cases ho c own s with ⟨-, hselections⟩ | ⟨n, hn, hselections, -⟩
    · rw [hselections]
      exact hfrom
    · rw [hselections, List.forall_mem_append, List.forall_mem_singleton]
      exact ⟨hfrom, hn⟩

lemma Connections.Run.rotated {group : RoutingGroup} (h : Connections.Run state history s)
    (hmode : parseGroupMode group.mode = some .roundRobin) (hhosts : group.hosts ≠ [])
    (hroutes : ∀ n ∈ s.shared.selections, group.Routes n.select) : group.Rotated s.shared := by
  revert hroutes
  refine Thread.shared_invariant (P := SelectsFrom state) h
    (I := fun s => (∀ n ∈ s.selections, group.Routes n.select) → group.Rotated s)
    (fun _ => ⟨rfl, rfl⟩) ?_ ?_
  · rintro _ ⟨peer, rfl⟩
    exact all_handleConnection peer
  · intro β o ho c own s hrotated hroutes
    rcases Shared.handle_cases ho c own s with
      ⟨hcounters, hselections⟩ | ⟨n, -, hselections, hresult, hcounters, -⟩
    · rw [hselections] at hroutes
      rw [RoutingGroup.Rotated, hcounters, hselections]
      exact hrotated hroutes
    · rw [hselections, List.forall_mem_append, List.forall_mem_singleton] at hroutes
      exact (hrotated hroutes.1).next hmode hhosts hroutes.2 hselections hresult hcounters

/-- Whatever the clients do, each selection of the group takes the next host, that of a status query
like that of a login; so two hosts are selected equally often, but for one in each round of the
counter. -/
theorem group_rotates_over_selections [UrlParse] {group : RoutingGroup}
    (hvalid : state.config.validate = .ok ()) (hgroup : state.config.HasGroup group)
    (hmode : parseGroupMode group.mode = some .roundRobin) (h : Connections.Run state history s)
    (hroutes : ∀ n ∈ s.shared.selections, group.Routes n.select) :
    let turns := s.shared.selections.length
    (∀ n ∈ s.shared.selections, n.IsFrom state) ∧
    s.shared.selections.map Selected.target = (List.range turns).map (fun k =>
      some (group.targetAt (Rotation.place (2 ^ 64) group.hosts.length k))) ∧
    ∀ i < group.hosts.length, ∀ j < group.hosts.length,
      Rotation.times (2 ^ 64) group.hosts.length i turns ≤
        Rotation.times (2 ^ 64) group.hosts.length j turns + 1 + turns / 2 ^ 64 :=
  ⟨h.isFrom, (h.rotated hmode (hgroup.valid hvalid).nonempty hroutes).2, fun _ hi _ hj =>
    Rotation.times_le (by decide) hi hj _⟩

end Groups

/-! ### Two clients -/

/-- The client was sent to the target. -/
def Connection.wasSentTo (t : Connection) (target : LineTarget) : Bool :=
  [CONFIG_TRANSFER_PACKET_ID, CONFIG_TRANSFER_PACKET_ID_26_3].any fun id =>
    t.own.client.history.contains (.wrote (frame id (encodeTransfer target.host target.port)))

/-- The number of logins that were sent to the target. -/
def Connections.loginsTo (s : Connections) (target : LineTarget) : ℕ :=
  s.parties.countP fun t => t.wasSentTo target

section Cluster

@[reducible] def noDisplay : StdDisplay := ⟨fun _ => ""⟩

@[reducible] def noMd5 : Md5 := ⟨fun _ => Vector.replicate 16 0⟩

attribute [local instance] noXdb dottedParse asciiCase noHash noDisplay noMd5 httpsUrl

def clusterGroup : RoutingGroup := clusterRouting.group.head (by simp [clusterRouting])

/-- The gateway sends every client to the group. -/
def clusterState : RuntimeState where
  config := ⟨.default, .default, .default, some clusterRouting, none, .default, .default⟩
  dns := ⟨none⟩
  ip2region := ⟨none, none⟩
  security := .ofSets .default .default .default .default .default
  language := ⟨"", .empty⟩

lemma clusterState_valid : clusterState.config.validate = .ok () := by
  decide +kernel

lemma clusterRouting_selectRoute (location : IpLocation) (player requestHost : Option String)
    (security : Security) (balanceKey : String) (counters : Counters) :
    clusterRouting.selectRouteWithHostContext location player requestHost security balanceKey
      counters = (clusterGroup.selectTarget balanceKey counters).map
        fun r => (some ("cluster", r.1), r.2) := by
  have hmatch : clusterRouting.selectMatchingRule location player requestHost (some security) =
      clusterRouting.rules.head? := by
    simp [RoutingConfig.selectMatchingRule, clusterRouting, RoutingConfig.considerRule,
      RouteRule.matches, matchesTextList, matchesHostList, matchesContainsList, matchesList,
      RouteRule.matchesPlayer, RouteRule.matchesSecurity]
  have htarget : ∀ rule ∈ clusterRouting.rules, clusterRouting.ruleTarget rule balanceKey counters =
      clusterGroup.selectTarget balanceKey counters >>= fun r =>
        pure (some ("cluster", r.1), r.2) := by
    intro rule hrule
    obtain rfl := List.mem_singleton.mp hrule
    rfl
  rw [RoutingConfig.selectRouteWithHostContext, hmatch]
  cases hrule : clusterRouting.rules.head? with
  | none => cases hrule
  | some rule =>
    simp only [htarget rule (List.mem_of_head? hrule)]
    cases clusterGroup.selectTarget balanceKey counters <;> rfl

lemma clusterState_routes {n : Selected} (h : n.IsFrom clusterState) :
    clusterGroup.Routes n.select := by
  obtain ⟨location, player, requestHost, balanceKey, hselect⟩ := h
  refine ⟨"cluster", balanceKey, fun counters => ?_⟩
  rw [hselect]
  exact clusterRouting_selectRoute ..

/-- Operations that do not fail. -/
def calmly (i n : ℕ) : List ConnectionsEvent :=
  List.replicate n (.move i (.acts ⟨.calm, .ok [], Vector.replicate 16 0⟩))

def handshakeFrame (nextState : Int32) : List UInt8 :=
  frame HANDSHAKE_PACKET_ID (encodeHandshake 767 "play.example.com" 25565 nextState)

/-- A status query as the connection `i`, to a backend that answers. -/
def queries (i : ℕ) (peer : SocketAddr) : List ConnectionsEvent :=
  let ping := frame 1 (List.replicate 8 7)
  [.enter (.new clusterState peer),
    .move i (.receives (.client (handshakeFrame 1 ++ frame 0 [] ++ ping)))] ++ calmly i 7 ++
  [.move i (.receives (.backend (frame 0 (writeString "status") ++ ping)))] ++ calmly i 19

/-- A login as the connection `i`. -/
def logsIn (i : ℕ) (peer : SocketAddr) : List ConnectionsEvent :=
  let start := frame LOGIN_START_PACKET_ID (writeString "Steve" ++ List.replicate 16 0)
  [.enter (.new clusterState peer),
    .move i (.receives (.client (handshakeFrame 2 ++ start ++ frame LOGIN_ACKNOWLEDGED_PACKET_ID [])))] ++
  calmly i 15

/-- Two clients, one after the other, query the status and log in. -/
def clusterEvents : List ConnectionsEvent :=
  queries 0 ⟨.v4 1, 1⟩ ++ logsIn 1 ⟨.v4 1, 2⟩ ++ queries 2 ⟨.v4 2, 1⟩ ++ logsIn 3 ⟨.v4 2, 2⟩

lemma clusterState_run : ∃ history s, Connections.Run clusterState history s ∧
    history.map Prod.snd = clusterEvents ∧
    s.parties.map Thread.isDone = [true, true, true, true] ∧
    s.shared.selections.length = 4 ∧
    s.loginsTo (clusterGroup.targetAt 0) = 0 ∧ s.loginsTo (clusterGroup.targetAt 1) = 2 := by
  have hend : (Pool.follow (Thread.step Shared.handle Sockets.receive) ⟨[], .start⟩
      clusterEvents).map (fun s : Connections => (s.parties.map Thread.isDone,
        s.shared.selections.length, s.loginsTo (clusterGroup.targetAt 0),
        s.loginsTo (clusterGroup.targetAt 1))) =
      some ([true, true, true, true], 4, 0, 2) := by
    decide +kernel
  obtain ⟨s, hs, hsummary⟩ := Option.map_eq_some_iff.mp hend
  have henters : ∀ t, .enter t ∈ clusterEvents → ∃ peer, t = Connection.new clusterState peer := by
    simp [clusterEvents, queries, logsIn, calmly]
  obtain ⟨history, hrun, hevents⟩ := Pool.Run.follow .start henters hs
  simp only [Prod.mk.injEq] at hsummary
  exact ⟨history, s, hrun, hevents, hsummary⟩

/-- Their selections take the two hosts by turns. -/
theorem group_rotates_over_selections_cluster :
    ∃ history s, Connections.Run clusterState history s ∧
      history.map Prod.snd = clusterEvents ∧
      s.shared.selections.map Selected.target =
        [0, 1, 0, 1].map fun index => some (clusterGroup.targetAt index) := by
  obtain ⟨history, s, hrun, hevents, -, hlength, -⟩ := clusterState_run
  have htargets := (group_rotates_over_selections clusterState_valid
    (List.head_mem _ : clusterState.config.HasGroup clusterGroup) (by decide) hrun
    fun n hn => clusterState_routes (hrun.isFrom n hn)).2.1
  rw [hlength] at htargets
  exact ⟨history, s, hrun, hevents, htargets⟩

/-- Every status query moves the group on, so both players are sent to the second host. -/
theorem logins_not_rotated : ∃ history s, Connections.Run clusterState history s ∧
    history.map Prod.snd = clusterEvents ∧
    clusterState.config.validate = .ok () ∧ clusterState.config.HasGroup clusterGroup ∧
    parseGroupMode clusterGroup.mode = some .roundRobin ∧
    (∀ n ∈ s.shared.selections, clusterGroup.Routes n.select) ∧
    s.parties.map Thread.isDone = [true, true, true, true] ∧
    s.loginsTo (clusterGroup.targetAt 0) = 0 ∧ s.loginsTo (clusterGroup.targetAt 1) = 2 := by
  obtain ⟨history, s, hrun, hevents, hdone, -, hlogins⟩ := clusterState_run
  exact ⟨history, s, hrun, hevents, clusterState_valid, List.head_mem _, by decide,
    fun n hn => clusterState_routes (hrun.isFrom n hn), hdone, hlogins⟩

end Cluster

end TransferGateway

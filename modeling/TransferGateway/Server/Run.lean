import TransferGateway.Runtime.Main

/-!
# The accept loop

`server::run` holds one listener, and goes round a `select!` over its `accept`, the channel with the
published state and the shutdown signal. What others do in between (the watcher that publishes, the
handlers that end) are steps, too.
-/

namespace TransferGateway

/-- `ToSocketAddrs` on a text; nothing when it does not resolve. -/
class ToSocketAddrs where
  resolve : String → List SocketAddr

/-! ### Listeners -/

/-- `to_canonical`: a socket with an IPv4-mapped address has the IPv4 address. -/
def IpAddr.toCanonical : IpAddr → IpAddr
  | .v4 a => .v4 a
  | .v6 a => if a.extractLsb' 32 96 = 0xffff#96 then .v4 (a.extractLsb' 0 32) else .v6 a

/-- A socket bound to the first address also takes what comes for the second. The IPv6 wildcard
takes both families. -/
def IpAddr.covers (a b : IpAddr) : Bool :=
  match a.toCanonical, b.toCanonical with
  | .v4 a, .v4 b => a == 0 || a == b
  | .v6 a, .v6 b => a == 0 || a == b
  | .v6 a, .v4 _ => a == 0
  | .v4 _, .v6 _ => false

/-- Two listeners cannot have these addresses at once; port 0 asks for a free port. -/
def SocketAddr.overlaps (a b : SocketAddr) : Bool :=
  a.port == b.port && a.port != 0 && (a.ip.covers b.ip || b.ip.covers a.ip)

lemma IpAddr.toCanonical_mapped (a : BitVec 32) : (IpAddr.mapped a).toCanonical = .v4 a := by
  have hprefix : (0xffff#96 ++ a).extractLsb' 32 96 = 0xffff#96 :=
    BitVec.extractLsb'_append_eq_left
  have hsuffix : (0xffff#96 ++ a).extractLsb' 0 32 = a := BitVec.extractLsb'_append_eq_right
  rw [IpAddr.mapped, toCanonical, if_pos hprefix, hsuffix]

/-- In both forms an address overlaps the same ones. -/
lemma SocketAddr.overlaps_mapped (a : BitVec 32) (port : UInt16) (b : SocketAddr) :
    (⟨.mapped a, port⟩ : SocketAddr).overlaps b = (⟨.v4 a, port⟩ : SocketAddr).overlaps b := by
  have hv4 : (IpAddr.v4 a).toCanonical = .v4 a := rfl
  simp only [overlaps, IpAddr.covers, IpAddr.toCanonical_mapped, hv4]

example : (⟨.mapped 0x7f000001, 25565⟩ : SocketAddr).overlaps ⟨.v4 0, 25565⟩ = true := by decide

/-- `TcpListener::bind`: the first address that can be bound. -/
def TcpListener.bind [ToSocketAddrs] (address : String) (isFree : SocketAddr → Bool) :
    Option SocketAddr :=
  (ToSocketAddrs.resolve address).find? isFree

/-! ### The loop -/

/-- How the task of a connection ends. -/
inductive HandlerEnd where
  | finished
  | failed (error : String)
  | timedOut
  | panicked
  deriving DecidableEq

/-- What happens: the watcher publishes a state or drops the sender, a handler ends, or a branch of
the `select!` is taken. `others` are the addresses that other processes use. -/
inductive ServerEvent [Xdb] where
  | publish (state : RuntimeState)
  | dropSender
  | handlerEnded (result : HandlerEnd)
  | accepted (result : Except IoError SocketAddr)
  | changed (others : SocketAddr → Bool)
  | channelClosed
  | interrupted (result : Except IoError Unit)

structure Server [Xdb] where
  /-- The state in the channel, and whether the receiver has yet to see it. -/
  published : RuntimeState
  unseen : Bool
  senderAlive : Bool
  listener : SocketAddr
  bound : String
  /-- The permits of the `ConnectionLimiter`. -/
  active : ℕ
  log : List (Level × String)

/-- The loop goes on, or `run` has returned. -/
inductive Progress [Xdb] where
  | serving (s : Server)
  | returned (result : Except String Unit)

namespace Server

variable [Xdb]

def logged (s : Server) (level : Level) (message : String) : Server :=
  { s with log := (level, message) :: s.log }

/-- The branch of `accept`. -/
def accept (s : Server) : Except IoError SocketAddr → Progress
  | .error e => .returned (.error e.message)
  | .ok _ =>
    if s.active ≥ s.published.config.server.maxConnections then
      .serving (s.logged .warn (s.published.language.render "log.connection_limit" []))
    else .serving { s with active := s.active + 1 }

/-- The permit is dropped however the handler ends. -/
def handlerEnded (s : Server) (result : HandlerEnd) : Server :=
  let s := { s with active := s.active - 1 }
  match result with
  | .failed _ => s.logged .debug "connection finished with error"
  | .timedOut => s.logged .debug "connection timed out"
  | .finished | .panicked => s

variable [ToSocketAddrs]

/-- The branch of `changed`: the old listener is alive while the new one is bound. -/
def rebind (s : Server) (others : SocketAddr → Bool) : Server :=
  let address := s.published.config.server.bind
  if address = s.bound then s
  else match TcpListener.bind address fun a => !others a && !a.overlaps s.listener with
    | some listener =>
      { s with listener, bound := address }.logged .info
        "server listener rebound after configuration reload"
    | none => s.logged .warn "unable to rebind server listener; keeping the previous listener"

def step (s : Server) : ServerEvent → Progress
  | .publish state          => .serving { s with published := state, unseen := true }
  | .dropSender             => .serving { s with senderAlive := false }
  | .handlerEnded result    => .serving (s.handlerEnded result)
  | .accepted result        => s.accept result
  | .changed others         => .serving ({ s with unseen := false }.rebind others)
  | .channelClosed          => .returned (.error "channel closed")
  | .interrupted (.ok ())   => .returned (.ok ())
  | .interrupted (.error e) => .returned (.error e.message)

/-- The event can happen now. -/
def enables (s : Server) : ServerEvent → Bool
  | .publish _ | .dropSender     => s.senderAlive
  | .handlerEnded _              => 0 < s.active
  | .changed _                   => s.unseen
  | .channelClosed               => !s.senderAlive && !s.unseen
  | .accepted _ | .interrupted _ => true

/-- `run` up to the loop; a state may have been published since the channel was made. -/
def start (initial : RuntimeState) (unseen : Bool) (others : SocketAddr → Bool) : Progress :=
  match TcpListener.bind initial.config.server.bind fun a => !others a with
  | some listener => .serving
    { published := initial, unseen, senderAlive := true, listener,
      bound := initial.config.server.bind, active := 0, log := [] }
  | none => .returned (.error "unable to bind")

/-- The runs of `run`, with each event and the state it has met. -/
inductive Run : List (Server × ServerEvent) → Progress → Prop where
  | start {initial : RuntimeState} {unseen : Bool} {others : SocketAddr → Bool} {s : Server}
      (h : Server.start initial unseen others = .serving s) : Run [] (.serving s)
  | step {history : List (Server × ServerEvent)} {s : Server} {e : ServerEvent}
      (h : Run history (.serving s)) (he : s.enables e = true) :
      Run (history ++ [(s, e)]) (s.step e)

/-! ### Why the loop ends -/

end Server

/-- The end that was asked for: a shutdown signal, or the channel is closed. -/
def ServerEvent.isStop [Xdb] : ServerEvent → Bool
  | .channelClosed | .interrupted (.ok ()) => true
  | _ => false

/-- An error of `accept` or of the signal handler. -/
def ServerEvent.isFault [Xdb] : ServerEvent → Bool
  | .accepted (.error _) | .interrupted (.error _) => true
  | _ => false

namespace Server

variable [Xdb] [ToSocketAddrs]

/-- The branches that return are those of the two kinds. -/
lemma step_cases (s : Server) (e : ServerEvent) :
    (∃ s', s.step e = .serving s' ∧ e.isFault = false ∧ e.isStop = false) ∨
    (∃ r, s.step e = .returned r ∧ e.isFault = true ∧ e.isStop = false) ∨
    ∃ r, s.step e = .returned r ∧ e.isFault = false ∧ e.isStop = true := by
  match e with
  | .publish _ | .dropSender | .handlerEnded _ | .changed _ => exact Or.inl ⟨_, rfl, rfl, rfl⟩
  | .accepted (.ok _) =>
    apply Or.inl
    simp only [step, accept]
    split <;> exact ⟨_, rfl, rfl, rfl⟩
  | .accepted (.error _) | .interrupted (.error _) => exact Or.inr (Or.inl ⟨_, rfl, rfl, rfl⟩)
  | .channelClosed | .interrupted (.ok ()) => exact Or.inr (Or.inr ⟨_, rfl, rfl, rfl⟩)

/-- While the loop goes on, there was no error. -/
lemma Run.isFault_eq_false {history : List (Server × ServerEvent)} {s : Server}
    (h : Run history (.serving s)) : ∀ x ∈ history, x.2.isFault = false := by
  generalize hp : Progress.serving s = p at h
  induction h generalizing s with
  | start => simp
  | @step history s' e h _ ih =>
    rcases s'.step_cases e with ⟨_, -, hfault, -⟩ | ⟨r, hr, -⟩ | ⟨r, hr, -⟩
    · intro x hx
      rcases List.mem_append.mp hx with hx | hx
      · exact ih rfl x hx
      · rw [List.mem_singleton.mp hx]
        exact hfault
    · simp [hr] at hp
    · simp [hr] at hp

/-- The loop ends only when it is asked to if and only if `accept` and the signal handler have
not failed. -/
theorem Run.stops_iff {history : List (Server × ServerEvent)} {p : Progress} (h : Run history p) :
    (∀ r, p = .returned r → ∃ x, history.getLast? = some x ∧ x.2.isStop = true) ↔
      ∀ x ∈ history, x.2.isFault = false := by
  cases h with
  | start h => simp
  | @step history s e h he =>
    have hbefore := h.isFault_eq_false
    simp only [List.getLast?_append, List.getLast?_singleton, Option.some_or,
      Option.some.injEq, exists_eq_left', List.forall_mem_append, List.forall_mem_singleton]
    rcases s.step_cases e with ⟨s', hs', hfault, -⟩ | ⟨r, hr, hfault, hstop⟩ | ⟨r, hr, hfault, hstop⟩
    · rw [hs']
      exact ⟨fun _ => ⟨hbefore, hfault⟩, fun _ _ h => by simp at h⟩
    · rw [hr, hfault, hstop]
      exact ⟨fun h => absurd (h r rfl) (by simp), fun h => absurd h.2 (by simp)⟩
    · exact ⟨fun _ => ⟨hbefore, hfault⟩, fun _ _ _ => hstop⟩

/-! ### What is listened on -/

/-- Handling a change leaves the listener on the published address, if some other process does not
have it. -/
def Listens (x : Server × ServerEvent) : Prop :=
  ∀ others s', x.2 = .changed others → x.1.step x.2 = .serving s' →
    (∃ a ∈ ToSocketAddrs.resolve s'.published.config.server.bind, others a = false) →
      s'.listener ∈ ToSocketAddrs.resolve s'.published.config.server.bind

/-- The listener is there already, or other processes have the address, or it can be had beside the
listener. -/
def Unblocked (x : Server × ServerEvent) : Prop :=
  ∀ others, x.2 = .changed others →
    let addresses := ToSocketAddrs.resolve x.1.published.config.server.bind
    x.1.listener ∈ addresses ∨ (∀ a ∈ addresses, others a = true) ∨
      ∃ a ∈ addresses, others a = false ∧ a.overlaps x.1.listener = false

/-- The listener stays, or it is bound to the published address, with a free one. -/
lemma rebind_cases (s : Server) (others : SocketAddr → Bool) :
    (s.rebind others).published = s.published ∧
    ((s.rebind others).listener = s.listener ∧ (s.rebind others).bound = s.bound ∧
      (s.published.config.server.bind = s.bound ∨
        ∀ a ∈ ToSocketAddrs.resolve s.published.config.server.bind, others a = false →
          a.overlaps s.listener = true) ∨
    (s.rebind others).bound = s.published.config.server.bind ∧
      (s.rebind others).listener ∈ ToSocketAddrs.resolve s.published.config.server.bind ∧
      others (s.rebind others).listener = false ∧
      (s.rebind others).listener.overlaps s.listener = false) := by
  unfold rebind
  dsimp only
  split
  next hbound => exact ⟨rfl, Or.inl ⟨rfl, rfl, Or.inl hbound⟩⟩
  next =>
    split
    next listener hbind =>
      have hfree := List.find?_some hbind
      simp only [Bool.and_eq_true, Bool.not_eq_true'] at hfree
      exact ⟨rfl, Or.inr ⟨rfl, List.mem_of_find?_eq_some hbind, hfree.1, hfree.2⟩⟩
    next hbind =>
      refine ⟨rfl, Or.inl ⟨rfl, rfl, Or.inr fun a ha hothers => ?_⟩⟩
      simpa [hothers] using List.find?_eq_none.mp hbind a ha

/-- The remembered address names the listener's. -/
def Named (s : Server) : Prop :=
  s.listener ∈ ToSocketAddrs.resolve s.bound

lemma Named.rebind {s : Server} (h : s.Named) (others : SocketAddr → Bool) :
    (s.rebind others).Named := by
  obtain ⟨-, ⟨hlistener, hbound, -⟩ | ⟨hbound, hlistener, -⟩⟩ := s.rebind_cases others
  · rwa [Named, hlistener, hbound]
  · rwa [Named, hbound]

lemma Named.step {s s' : Server} {e : ServerEvent} (h : s.Named) (hs : s.step e = .serving s') :
    s'.Named := by
  match e with
  | .publish _ | .dropSender =>
    cases hs
    exact h
  | .handlerEnded result =>
    cases hs
    cases result <;> exact h
  | .accepted (.ok _) =>
    simp only [Server.step, accept] at hs
    split at hs <;> cases hs <;> exact h
  | .changed others =>
    cases hs
    exact Named.rebind (s := { s with unseen := false }) h others
  | .accepted (.error _) | .interrupted (.error _) | .channelClosed | .interrupted (.ok ()) =>
    cases hs

lemma Run.named {history : List (Server × ServerEvent)} {p : Progress} (h : Run history p) :
    (∀ x ∈ history, x.1.Named) ∧ ∀ s, p = .serving s → s.Named := by
  induction h with
  | @start initial unseen others s h =>
    refine ⟨by simp, ?_⟩
    rintro _ ⟨⟩
    rw [Server.start] at h
    split at h
    next hbind =>
      cases h
      exact List.mem_of_find?_eq_some hbind
    next => cases h
  | @step history s e _ _ ih =>
    have hs := ih.2 s rfl
    refine ⟨fun x hx => ?_, fun s' hs' => hs.step hs'⟩
    rcases List.mem_append.mp hx with hx | hx
    · exact ih.1 x hx
    · rw [List.mem_singleton.mp hx]
      exact hs

lemma listens_iff_unblocked {s : Server} (h : s.Named) (e : ServerEvent) :
    Listens (s, e) ↔ Unblocked (s, e) := by
  constructor
  · rintro hlistens others rfl
    by_cases hfree : ∃ a ∈ ToSocketAddrs.resolve s.published.config.server.bind, others a = false
    · have hs' := hlistens others _ rfl rfl
      obtain ⟨hpublished, hcases⟩ := rebind_cases { s with unseen := false } others
      rw [hpublished] at hs'
      rcases hcases with ⟨hlistener, -, -⟩ | ⟨-, hmem, hothers, hoverlaps⟩
      · exact Or.inl (hlistener ▸ hs' hfree)
      · exact Or.inr (Or.inr ⟨_, hmem, hothers, hoverlaps⟩)
    · exact Or.inr (Or.inl (by simpa using hfree))
  · rintro hunblocked others _ rfl ⟨⟩ hfree
    obtain ⟨hpublished, hcases⟩ := rebind_cases { s with unseen := false } others
    rw [hpublished] at hfree ⊢
    rcases hcases with ⟨hlistener, -, hkept⟩ | ⟨-, hmem, -⟩
    · rw [hlistener]
      rcases hkept with hbound | hoverlaps
      · rw [hbound]
        exact h
      · rcases hunblocked others rfl with hmem | hused | ⟨a, ha, hothers, hfree'⟩
        · exact hmem
        · obtain ⟨a, ha, hothers⟩ := hfree
          exact absurd (hused a ha) (by simp [hothers])
        · exact absurd (hoverlaps a ha hothers) (by simp [hfree'])
    · exact hmem

/-- In every run the remembered address names the listener's, and every change is followed if and
only if no published address is blocked by the listener itself. -/
theorem Run.listens_iff {history : List (Server × ServerEvent)} {p : Progress}
    (h : Run history p) :
    (∀ s, p = .serving s → s.Named) ∧
      ((∀ x ∈ history, Listens x) ↔ ∀ x ∈ history, Unblocked x) :=
  ⟨h.named.2, forall₂_congr fun x hx => listens_iff_unblocked (h.named.1 x hx) x.2⟩

end Server

/-! ### Runs of the small gateway -/

section Tor

attribute [local instance] noXdb dottedParse asciiCase torParse noBuiltin httpsUrl

/-- Every address at two ports, and one address at the first of them. -/
@[reducible] def fewAddresses : ToSocketAddrs where
  resolve address :=
    if address = "0.0.0.0:25565" then [⟨.v4 0, 25565⟩]
    else if address = "127.0.0.1:25565" then [⟨.v4 0x7f000001, 25565⟩]
    else if address = "0.0.0.0:25566" then [⟨.v4 0, 25566⟩]
    else []

attribute [local instance] fewAddresses

lemma resolve_local :
    ToSocketAddrs.resolve "127.0.0.1:25565" = [⟨.v4 0x7f000001, 25565⟩] := by
  decide +kernel

lemma resolve_moved : ToSocketAddrs.resolve "0.0.0.0:25566" = [⟨.v4 0, 25566⟩] := by
  decide +kernel

/-- The state with another address. -/
def RuntimeState.withBind (s : RuntimeState) (bind : String) : RuntimeState :=
  { s with config := { s.config with server := { s.config.server with bind } } }

/-- The server as it starts, and with a state that was published since. -/
def wildcardServer (runtime : RuntimeState) : Server where
  published := runtime.withBind "0.0.0.0:25565"
  unseen := false
  senderAlive := true
  listener := ⟨.v4 0, 25565⟩
  bound := "0.0.0.0:25565"
  active := 0
  log := []

def movedServer (runtime : RuntimeState) (bind : String) : Server :=
  { wildcardServer runtime with published := runtime.withBind bind, unseen := true }

lemma run_wildcardServer (runtime : RuntimeState) :
    Server.Run [] (.serving (wildcardServer runtime)) :=
  .start (show Server.start (runtime.withBind "0.0.0.0:25565") false (fun _ => false) =
    .serving (wildcardServer runtime) from rfl)

lemma run_movedServer (runtime : RuntimeState) (bind : String) :
    Server.Run [(wildcardServer runtime, .publish (runtime.withBind bind))]
      (.serving (movedServer runtime bind)) :=
  (run_wildcardServer runtime).step (e := .publish (runtime.withBind bind)) rfl

/-- A client that is gone before `accept` has taken it ends the gateway. -/
theorem stops_on_accept_error :
    ¬∀ (history : List (Server × ServerEvent)) (p : Progress), Server.Run history p →
      ∀ r, p = .returned r → ∃ x, history.getLast? = some x ∧ x.2.isStop = true := by
  intro hall
  obtain ⟨runtime, -⟩ := torGateway_starts
  have hrun := (run_wildcardServer runtime).step
    (e := .accepted (.error ⟨.other, "Software caused connection abort (os error 103)"⟩)) rfl
  obtain ⟨x, hx, hstop⟩ := hall _ _ hrun _ rfl
  cases hx
  cases hstop

/-- A server is asked to stop after it has followed a change. -/
theorem Server.Run.stops_iff_moved :
    ∃ (history : List (Server × ServerEvent)) (r : Except String Unit),
      Server.Run history (.returned r) ∧
        ∃ x, history.getLast? = some x ∧ x.2.isStop = true := by
  obtain ⟨runtime, -⟩ := torGateway_starts
  have hrun := ((run_movedServer runtime "0.0.0.0:25566").step (e := .changed fun _ => false)
    rfl).step (e := .interrupted (.ok ())) rfl
  exact ⟨_, _, hrun, hrun.stops_iff.mpr (by simp [ServerEvent.isFault]) _ rfl⟩

/-- A wildcard address is not given up for one of its own. -/
theorem keeps_wildcard :
    ¬∀ (history : List (Server × ServerEvent)) (p : Progress), Server.Run history p →
      ∀ x ∈ history, Server.Listens x := by
  intro hall
  obtain ⟨runtime, -⟩ := torGateway_starts
  have hrun := (run_movedServer runtime "127.0.0.1:25565").step (e := .changed fun _ => false) rfl
  have hnamed : (movedServer runtime "127.0.0.1:25565").Named :=
    (run_movedServer runtime "127.0.0.1:25565").named.2 _ rfl
  have hunblocked := (Server.listens_iff_unblocked hnamed _).mp (hall _ _ hrun _
    (List.mem_append_right _ (List.mem_singleton_self _))) (fun _ => false) rfl
  change (⟨.v4 0, 25565⟩ : SocketAddr) ∈ ToSocketAddrs.resolve "127.0.0.1:25565" ∨
    (∀ a ∈ ToSocketAddrs.resolve "127.0.0.1:25565", false = true) ∨
    ∃ a ∈ ToSocketAddrs.resolve "127.0.0.1:25565", false = false ∧
      a.overlaps ⟨.v4 0, 25565⟩ = false at hunblocked
  rw [resolve_local] at hunblocked
  revert hunblocked
  decide

/-- The change to another port is followed. -/
theorem Server.Run.listens_iff_moved :
    ∃ (history : List (Server × ServerEvent)) (s : Server), Server.Run history (.serving s) ∧
      s.published.config.server.bind = "0.0.0.0:25566" ∧ s.Named ∧
        ∀ x ∈ history, Server.Listens x := by
  obtain ⟨runtime, -⟩ := torGateway_starts
  have hrun := (run_movedServer runtime "0.0.0.0:25566").step (e := .changed fun _ => false) rfl
  refine ⟨_, _, hrun, rfl, hrun.listens_iff.1 _ rfl, hrun.listens_iff.2.mpr ?_⟩
  have hunblocked : Server.Unblocked
      (movedServer runtime "0.0.0.0:25566", .changed fun _ => false) := by
    rintro _ ⟨⟩
    change _ ∨ _ ∨ ∃ a ∈ ToSocketAddrs.resolve "0.0.0.0:25566", false = false ∧
      a.overlaps ⟨.v4 0, 25565⟩ = false
    rw [resolve_moved]
    exact Or.inr (Or.inr (by decide))
  intro x hx
  rcases List.mem_append.mp hx with hx | hx
  · rw [List.mem_singleton.mp hx]
    exact nofun
  · rw [List.mem_singleton.mp hx]
    exact hunblocked

end Tor

end TransferGateway

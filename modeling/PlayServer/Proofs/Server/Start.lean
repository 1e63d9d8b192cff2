import PlayServer.Server.Lifecycle

/-!
# Failed starts

A start binds the addresses of the services in turn, and runs the services once all are bound. When
an address cannot be bound nothing is run, but what was bound before it stays bound. The next start
binds the address of the gateway again, and fails for good if the server holds it itself.

`bindInTurn` is what a first start comes to, and `startOutcome_of_starts` says what any start comes
to: one that fails runs nothing, but the server can be started after it only if it holds nothing,
which is so if it was the gateway that could not be bound.
-/

namespace PlayServer

/-- The services of a configuration, in the order in which their addresses are bound. -/
def Config.services (c : Config) : List (String × SocketAddress) :=
  [(Front.gateway.name, c.gatewayAddress), (Front.game.name, c.gameAddress),
    (AdminEndpoint.name, c.adminAddress)]

/-- Binds addresses in turn, up to the first that cannot be bound: which are bound then, and whether
all are. -/
def bindInTurn (others : List SocketAddress) :
    List (String × SocketAddress) → List SocketAddress × Except ServerError Unit
  | [] => ([], .ok ())
  | (service, address) :: rest =>
    match bindService service others address with
    | .error e => ([], .error e)
    | .ok bound => (bound :: (bindInTurn others rest).1, (bindInTurn others rest).2)

section Bind

variable {service : String} {held own : List SocketAddress} {address bound : SocketAddress}

/-- An address with a port is bound as it is, unless the host refuses it or somebody holds one that
it meets. -/
theorem bindService_of_port (port : address.port ≠ 0) : bindService service held address =
    match address.ip.refusal? address.zone with
    | some refusal => .error (.bind service address refusal)
    | none =>
      if held.any address.meets then .error (.bind service address .addressInUse)
      else .ok address := by
  rw [bindService, bindAddress]
  cases address.ip.refusal? address.zone with
  | some refusal => rfl
  | none =>
    dsimp only
    rw [if_neg port]
    split <;> rfl

/-- Addresses at other ports do not matter. -/
theorem bindService_append (port : address.port ≠ 0)
    (elsewhere : ∀ a ∈ own, a.port ≠ address.port) :
    bindService service (held ++ own) address = bindService service held address := by
  have hown : own.any address.meets = false := by
    rw [List.any_eq_false]
    intro a ha
    simp [SocketAddress.meets, Ne.symm (elsewhere a ha)]
  rw [bindService_of_port port, bindService_of_port port, List.any_append, hown, Bool.or_false]

/-- What is bound is the address, which the host does not refuse. -/
theorem bindService_eq_ok (port : address.port ≠ 0)
    (ok : bindService service held address = .ok bound) :
    bound = address ∧ address.ip.refusal? address.zone = none := by
  rw [bindService_of_port port] at ok
  split at ok
  · cases ok
  next hrefusal =>
  split at ok
  · cases ok
  · exact ⟨(Except.ok.inj ok).symm, hrefusal⟩

/-- Nobody binds an address that is held. -/
theorem bindService_of_mem (port : address.port ≠ 0)
    (allowed : address.ip.refusal? address.zone = none) (isHeld : address ∈ held) :
    bindService service held address = .error (.bind service address .addressInUse) := by
  have hmeets : held.any address.meets = true := by
    rw [List.any_eq_true]
    exact ⟨address, isHeld, by simp [SocketAddress.meets, IpAddress.covers]⟩
  rw [bindService_of_port port, allowed]
  exact if_pos hmeets

end Bind

/-- The addresses of a configuration have ports, which differ. -/
structure Config.PortsDiffer (c : Config) : Prop where
  gateway : c.gatewayAddress.port ≠ 0
  game : c.gameAddress.port ≠ 0
  admin : c.adminAddress.port ≠ 0
  gateway_game : c.gatewayAddress.port ≠ c.gameAddress.port
  gateway_admin : c.gatewayAddress.port ≠ c.adminAddress.port
  game_admin : c.gameAddress.port ≠ c.adminAddress.port

/-- The ports of a valid configuration are given and differ. -/
theorem Config.portsDiffer_of_valid {c : Config} (valid : c.fault? = none) : c.PortsDiffer := by
  unfold fault? at valid
  split at valid
  · cases valid
  next hzero =>
  split at valid
  · cases valid
  next hequal =>
  simp only [Bool.or_eq_true, decide_eq_true_eq, not_or] at hzero hequal
  exact ⟨hzero.1.1, hzero.1.2, hzero.2, hequal.1.1, hequal.1.2, hequal.2⟩

namespace Server

/-- No service of the server has been run. -/
structure NothingRuns (s : Server) : Prop where
  isStarted : s.isStarted = false
  gateway : s.gateway.isRunning = false ∧ s.gateway.accepting = none
  game : s.game.isRunning = false ∧ s.game.accepting = none
  admin : s.admin.hasTask = false ∧ s.admin.accepting = none

/-- Every service of the server has been run. -/
structure AllRun (s : Server) : Prop where
  isStarted : s.isStarted = true
  gateway : s.gateway.isRunning = true
  game : s.game.isRunning = true
  admin : s.admin.hasTask = true

/-- A front end that has not been run, with the listener that it has bound. -/
def idleFront (front : Front) (listener : Option SocketAddress) : FrontEnd :=
  { name := front.name, listener, address := listener }

/-- A server that has not been started, with the listeners that the front ends have bound. -/
structure Unstarted (c : Config) (gateway game : Option SocketAddress) (s : Server) : Prop where
  config : s.config = c
  isStarted : s.isStarted = false
  gateway : s.gateway = idleFront .gateway gateway
  game : s.game = idleFront .game game
  admin : s.admin = {}

section Unstarted

variable {c : Config} {gateway game : Option SocketAddress} {s : Server}

/-- In a server that has not been started no service runs. -/
theorem Unstarted.nothingRuns (h : Unstarted c gateway game s) : s.NothingRuns := by
  refine ⟨h.isStarted, ?_, ?_, ?_⟩
  · rw [h.gateway]
    exact ⟨rfl, rfl⟩
  · rw [h.game]
    exact ⟨rfl, rfl⟩
  · rw [h.admin]
    exact ⟨rfl, rfl⟩

/-- A server that has not been started holds what its front ends have bound. -/
theorem Unstarted.held_eq (h : Unstarted c gateway game s) :
    s.held = gateway.toList ++ game.toList := by
  rw [held, h.gateway, h.game, h.admin]
  simp [idleFront, FrontEnd.held, AdminEndpoint.held]

/-- A server that has been built has not been started and holds nothing. -/
theorem unstarted_withStore {store : AccountStore} (built : withStore c store = .ok s) :
    c.fault? = none ∧ Unstarted c none none s := by
  unfold withStore checkConfig at built
  cases hfault : c.fault? with
  | some fault =>
    rw [hfault] at built
    cases built
  | none =>
    rw [hfault] at built
    cases built
    exact ⟨rfl, rfl, rfl, rfl, rfl, rfl⟩

/-- A front end that has not been run binds an address, whether or not it has bound one before. -/
theorem init_idleFront (front : Front) (listener : Option SocketAddress)
    (held : List SocketAddress) (address : SocketAddress) :
    (idleFront front listener).init held address =
      match bindService front.name held address with
      | .error e => (.error e, idleFront front listener)
      | .ok bound => (.ok bound, idleFront front (some bound)) :=
  rfl

/-- So does an admin endpoint that has bound nothing. -/
theorem init_freshAdmin (held : List SocketAddress) (address : SocketAddress) :
    ({} : AdminEndpoint).init held address =
      match bindService AdminEndpoint.name held address with
      | .error e => (.error e, {})
      | .ok bound => (.ok bound, { listener := some bound, address := some bound }) :=
  rfl

/-- Binding comes to an end where the gateway cannot be bound. -/
theorem bindAll_of_gateway {others : List SocketAddress} {e : ServerError} {f : FrontEnd}
    (fails : s.gateway.init (others ++ s.held) s.config.gatewayAddress = (.error e, f)) :
    s.bindAll others = (.error e, { s with gateway := f }) := by
  rw [bindAll, fails]

/-- Once the gateway is bound, binding comes to an end where the game front end cannot be bound. -/
theorem bindAll_of_game {others : List SocketAddress} {bound : SocketAddress} {e : ServerError}
    {f f' : FrontEnd}
    (gateway : s.gateway.init (others ++ s.held) s.config.gatewayAddress = (.ok bound, f))
    (fails : s.game.init (others ++ ({ s with gateway := f } : Server).held) s.config.gameAddress =
      (.error e, f')) :
    s.bindAll others = (.error e, { s with gateway := f, game := f' }) := by
  rw [bindAll, gateway]
  dsimp only
  rw [fails]

/-- Once both front ends are bound, the admin endpoint is or is not. -/
theorem bindAll_of_admin {others : List SocketAddress} {bound bound' : SocketAddress}
    {result : Except ServerError SocketAddress} {f f' : FrontEnd} {a : AdminEndpoint}
    (gateway : s.gateway.init (others ++ s.held) s.config.gatewayAddress = (.ok bound, f))
    (game : s.game.init (others ++ ({ s with gateway := f } : Server).held) s.config.gameAddress =
      (.ok bound', f'))
    (admin : s.admin.init (others ++ ({ s with gateway := f, game := f' } : Server).held)
      s.config.adminAddress = (result, a)) :
    s.bindAll others =
      (result.map fun _ => (), { s with gateway := f, game := f', admin := a }) := by
  rw [bindAll, gateway]
  dsimp only
  rw [game]
  dsimp only
  rw [admin]
  cases result <;> rfl

/-- What binding comes to in a server that has bound nothing. -/
inductive Binding (c : Config) (others : List SocketAddress) (s : Server) :
    Except ServerError Unit × Server → Prop
  | nothing {e : ServerError} (turn : bindInTurn others c.services = ([], .error e)) :
    Binding c others s (.error e, s)
  | partly {e : ServerError} {s' : Server} {game : Option SocketAddress}
      (turn : bindInTurn others c.services = (c.gatewayAddress :: game.toList, .error e))
      (allowed : c.bindAddress.refusal? 0 = none)
      (left : Unstarted c (some c.gatewayAddress) game s') : Binding c others s (.error e, s')
  | all {s' : Server}
      (turn : bindInTurn others c.services =
        ([c.gatewayAddress, c.gameAddress, c.adminAddress], .ok ()))
      (bound : s' =
        { s with
          gateway := idleFront .gateway (some c.gatewayAddress)
          game := idleFront .game (some c.gameAddress)
          admin := { listener := some c.adminAddress, address := some c.adminAddress } }) :
    Binding c others s (.ok (), s')

/-- What the server holds before its gateway is bound does not matter: it is nothing. -/
theorem Unstarted.init_gateway (h : Unstarted c none none s) (others : List SocketAddress) :
    s.gateway.init (others ++ s.held) s.config.gatewayAddress =
      match bindService Front.gateway.name others c.gatewayAddress with
      | .error e => (.error e, idleFront .gateway none)
      | .ok bound => (.ok bound, idleFront .gateway (some bound)) := by
  have hheld : others ++ s.held = others := by
    rw [h.held_eq]
    exact List.append_nil others
  rw [hheld, h.config, h.gateway, init_idleFront]

/-- The listener of the gateway, which is at another port, does not matter to the game front end. -/
theorem Unstarted.init_game (h : Unstarted c (some c.gatewayAddress) none s)
    (ports : c.PortsDiffer) (others : List SocketAddress) :
    s.game.init (others ++ s.held) s.config.gameAddress =
      match bindService Front.game.name others c.gameAddress with
      | .error e => (.error e, idleFront .game none)
      | .ok bound => (.ok bound, idleFront .game (some bound)) := by
  have helsewhere : ∀ a ∈ s.held, a.port ≠ c.gameAddress.port := by
    rw [h.held_eq]
    simpa using ports.gateway_game
  rw [h.config, h.game, init_idleFront, bindService_append ports.game helsewhere]

/-- The listeners of the front ends, which are at other ports, do not matter to the admin
endpoint. -/
theorem Unstarted.init_admin (h : Unstarted c (some c.gatewayAddress) (some c.gameAddress) s)
    (ports : c.PortsDiffer) (others : List SocketAddress) :
    s.admin.init (others ++ s.held) s.config.adminAddress =
      match bindService AdminEndpoint.name others c.adminAddress with
      | .error e => (.error e, {})
      | .ok bound => (.ok bound, { listener := some bound, address := some bound }) := by
  have helsewhere : ∀ a ∈ s.held, a.port ≠ c.adminAddress.port := by
    rw [h.held_eq]
    simpa using And.intro ports.gateway_admin ports.game_admin
  rw [h.config, h.admin, init_freshAdmin, bindService_append ports.admin helsewhere]

/-- The addresses are bound in turn. Those of the server itself do not matter, since the ports
differ. -/
theorem Unstarted.binding (h : Unstarted c none none s) (ports : c.PortsDiffer)
    (others : List SocketAddress) : Binding c others s (s.bindAll others) := by
  -- Each service is bound in a server that already holds the addresses before it, and each failure
  -- leaves that server.
  have hgateway := h.init_gateway others
  cases hgatewayBinds : bindService Front.gateway.name others c.gatewayAddress with
  | error e =>
    rw [hgatewayBinds] at hgateway
    rw [bindAll_of_gateway hgateway, ← h.gateway]
    exact .nothing (by simp only [Config.services, bindInTurn, hgatewayBinds])
  | ok bound =>
  obtain ⟨rfl, hallowed⟩ := bindService_eq_ok ports.gateway hgatewayBinds
  rw [hgatewayBinds] at hgateway
  have hleft : Unstarted c (some c.gatewayAddress) none
      { s with gateway := idleFront .gateway (some c.gatewayAddress) } :=
    ⟨h.config, h.isStarted, rfl, h.game, h.admin⟩
  have hgame := hleft.init_game ports others
  cases hgameBinds : bindService Front.game.name others c.gameAddress with
  | error e =>
    rw [hgameBinds] at hgame
    rw [bindAll_of_game hgateway hgame]
    exact .partly
      (by simp only [Config.services, bindInTurn, hgatewayBinds, hgameBinds, Option.toList_none])
      hallowed ⟨h.config, h.isStarted, rfl, rfl, h.admin⟩
  | ok bound =>
  obtain ⟨rfl, -⟩ := bindService_eq_ok ports.game hgameBinds
  rw [hgameBinds] at hgame
  have hleft' : Unstarted c (some c.gatewayAddress) (some c.gameAddress)
      { s with
        gateway := idleFront .gateway (some c.gatewayAddress)
        game := idleFront .game (some c.gameAddress) } :=
    ⟨h.config, h.isStarted, rfl, rfl, h.admin⟩
  have hadmin := hleft'.init_admin ports others
  cases hadminBinds : bindService AdminEndpoint.name others c.adminAddress with
  | error e =>
    rw [hadminBinds] at hadmin
    rw [bindAll_of_admin hgateway hgame hadmin]
    exact .partly
      (by simp only [Config.services, bindInTurn, hgatewayBinds, hgameBinds, hadminBinds,
        Option.toList_some])
      hallowed ⟨h.config, h.isStarted, rfl, rfl, rfl⟩
  | ok bound =>
  obtain ⟨rfl, -⟩ := bindService_eq_ok ports.admin hadminBinds
  rw [hadminBinds] at hadmin
  rw [bindAll_of_admin hgateway hgame hadmin]
  exact .all
    (by simp only [Config.services, bindInTurn, hgatewayBinds, hgameBinds, hadminBinds]) rfl

/-- Once everything is bound, everything is run. -/
theorem start_of_bindAll {others : List SocketAddress} {gateway game admin : SocketAddress}
    {s' : Server} (h : s.isStarted = false) (binds : s.bindAll others = (.ok (), s'))
    (bound : s' =
      { s with
        gateway := idleFront .gateway (some gateway)
        game := idleFront .game (some game)
        admin := { listener := some admin, address := some admin } }) :
    (s.start others).1 = .ok () ∧ (s.start others).2.AllRun ∧
      (s.start others).2.held = [gateway, game, admin] := by
  subst bound
  rw [start, h, binds]
  exact ⟨rfl, ⟨rfl, rfl, rfl, rfl⟩, rfl⟩

/-- A start ends where binding fails. -/
theorem start_of_error {others : List SocketAddress} {e : ServerError} {s' : Server}
    (h : s.isStarted = false) (fails : s.bindAll others = (.error e, s')) :
    s.start others = (.error e, s') := by
  rw [start, h, fails]
  rfl

end Unstarted

/-- The server after starts that were given addresses which others held at the time. -/
def startAll (s : Server) (calls : List (List SocketAddress)) : Server :=
  calls.foldl (fun s others => (s.start others).2) s

/-- The first start comes first. -/
theorem startAll_cons (s : Server) (others : List SocketAddress)
    (calls : List (List SocketAddress)) :
    s.startAll (others :: calls) = (s.start others).2.startAll calls := rfl

/-- A server that does not run: it is as it was built, or it holds the address of its own
gateway. -/
inductive Idle (c : Config) (s : Server) : Prop
  | untouched (unstarted : Unstarted c none none s)
  | blocked {game : Option SocketAddress} (allowed : c.bindAddress.refusal? 0 = none)
      (unstarted : Unstarted c (some c.gatewayAddress) game s)

section Starts

variable {c : Config} {s : Server}

/-- A server that has been started refuses to be started again. -/
theorem AllRun.start_eq (run : s.AllRun) (others : List SocketAddress) :
    s.start others = (.error (.alreadyRunning name), s) := by
  rw [start, if_pos run.isStarted]

/-- A server that holds the address of its own gateway cannot bind it, whatever others hold. -/
theorem Unstarted.start_eq {game : Option SocketAddress} (ports : c.PortsDiffer)
    (allowed : c.bindAddress.refusal? 0 = none)
    (h : Unstarted c (some c.gatewayAddress) game s) (others : List SocketAddress) :
    s.start others =
      (.error (.bind Front.gateway.name c.gatewayAddress .addressInUse), s) := by
  have hheld : c.gatewayAddress ∈ others ++ s.held := by
    rw [h.held_eq]
    simp
  have hgateway : s.gateway.init (others ++ s.held) s.config.gatewayAddress =
      (.error (.bind Front.gateway.name c.gatewayAddress .addressInUse), s.gateway) := by
    rw [h.config, h.gateway, init_idleFront, bindService_of_mem ports.gateway allowed hheld]
  exact start_of_error h.isStarted (bindAll_of_gateway hgateway)

/-- A start of a server as it was built binds the addresses in turn. -/
theorem Unstarted.start_eq_bindInTurn (h : Unstarted c none none s) (ports : c.PortsDiffer)
    (others : List SocketAddress) :
    (s.start others).1 = (bindInTurn others c.services).2 ∧
      (s.start others).2.held = (bindInTurn others c.services).1 ∧
      ((s.start others).1 = .ok () ∧ (s.start others).2.AllRun ∨
        (∃ e, (s.start others).1 = .error e) ∧ Idle c (s.start others).2) := by
  have hbinding := h.binding ports others
  generalize hbinds : s.bindAll others = bound at hbinding
  cases hbinding with
  | nothing turn =>
    rw [start_of_error h.isStarted hbinds, turn]
    exact ⟨rfl, h.held_eq, .inr ⟨⟨_, rfl⟩, .untouched h⟩⟩
  | partly turn allowed left =>
    rw [start_of_error h.isStarted hbinds, turn]
    exact ⟨rfl, left.held_eq, .inr ⟨⟨_, rfl⟩, .blocked allowed left⟩⟩
  | all turn bound =>
    obtain ⟨hok, hrun, hheld⟩ := start_of_bindAll h.isStarted hbinds bound
    rw [turn]
    exact ⟨hok, hheld, .inl ⟨hok, hrun⟩⟩

/-- In an idle server no service runs. -/
theorem Idle.nothingRuns (h : Idle c s) : s.NothingRuns := by
  cases h with
  | untouched unstarted => exact unstarted.nothingRuns
  | blocked allowed unstarted => exact unstarted.nothingRuns

/-- A start of an idle server runs everything or leaves it idle. -/
theorem Idle.start_cases (ports : c.PortsDiffer) (h : Idle c s) (others : List SocketAddress) :
    (s.start others).1 = .ok () ∧ (s.start others).2.AllRun ∨
      (∃ e, (s.start others).1 = .error e) ∧ Idle c (s.start others).2 := by
  cases h with
  | untouched unstarted => exact (unstarted.start_eq_bindInTurn ports others).2.2
  | blocked allowed unstarted =>
    rw [unstarted.start_eq ports allowed]
    exact .inr ⟨⟨_, rfl⟩, .blocked allowed unstarted⟩

/-- Where the addresses of the services can be bound, an idle server starts if and only if it holds
nothing. -/
theorem Idle.start_ok_iff (ports : c.PortsDiffer) (h : Idle c s) {free : List SocketAddress}
    (isFree : (bindInTurn free c.services).2 = .ok ()) :
    (s.start free).1 = .ok () ↔ s.held = [] := by
  cases h with
  | untouched unstarted =>
    rw [(unstarted.start_eq_bindInTurn ports free).1, isFree, unstarted.held_eq]
    exact iff_of_true rfl rfl
  | blocked allowed unstarted =>
    rw [unstarted.start_eq ports allowed, unstarted.held_eq]
    simp

/-- Any number of starts leave a server that runs or an idle one. -/
theorem allRun_or_idle_startAll (ports : c.PortsDiffer) (h : s.AllRun ∨ Idle c s)
    (calls : List (List SocketAddress)) :
    (s.startAll calls).AllRun ∨ Idle c (s.startAll calls) := by
  induction calls generalizing s with
  | nil => exact h
  | cons others calls ih =>
    rw [startAll_cons]
    obtain hrun | hidle := h
    · exact ih (.inl (by rwa [hrun.start_eq]))
    · exact ih ((hidle.start_cases ports others).imp And.right And.right)

end Starts

/-- What a start comes to, given the addresses that others hold. -/
structure StartOutcome (c : Config) (others : List SocketAddress) (s : Server) : Prop where
  /-- Either every service runs or none does. -/
  all_or_nothing : s.AllRun ∨ s.NothingRuns
  /-- A server that runs refuses, and stays as it is. -/
  refused : s.AllRun → s.start others = (.error (.alreadyRunning name), s)
  /-- A server that holds nothing binds the addresses of its services in turn, and holds those that
  it could bind. -/
  bound : s.NothingRuns → s.held = [] →
    (s.start others).1 = (bindInTurn others c.services).2 ∧
      (s.start others).2.held = (bindInTurn others c.services).1
  /-- A server that holds something without running cannot bind the address of its gateway, and
  stays as it is. -/
  blocked : s.NothingRuns → s.held ≠ [] → s.start others =
    (.error (.bind Front.gateway.name c.gatewayAddress .addressInUse), s)
  /-- A start that succeeds runs every service. -/
  succeeds : (s.start others).1 = .ok () → (s.start others).2.AllRun
  /-- A start that fails runs none, and where all addresses are free the server can be started after
  it if and only if it holds nothing. -/
  fails : s.NothingRuns → ∀ e, (s.start others).1 = .error e →
    (s.start others).2.NothingRuns ∧
      ∀ free, (bindInTurn free c.services).2 = .ok () →
        (((s.start others).2.start free).1 = .ok () ↔ (s.start others).2.held = [])

section Outcome

variable {c : Config} {s : Server}

/-- A server that runs is not one in which nothing runs. -/
theorem AllRun.not_nothingRuns (run : s.AllRun) : ¬s.NothingRuns := fun h =>
  Bool.false_ne_true (h.isStarted.symm.trans run.isStarted)

/-- What a start of a server that runs comes to. -/
theorem AllRun.startOutcome (run : s.AllRun) (others : List SocketAddress) :
    StartOutcome c others s where
  all_or_nothing := .inl run
  refused _ := run.start_eq others
  bound h := absurd h run.not_nothingRuns
  blocked h := absurd h run.not_nothingRuns
  succeeds ok := by
    rw [run.start_eq] at ok
    cases ok
  fails h := absurd h run.not_nothingRuns

/-- What a start of an idle server comes to. -/
theorem Idle.startOutcome (ports : c.PortsDiffer) (h : Idle c s) (others : List SocketAddress) :
    StartOutcome c others s where
  all_or_nothing := .inr h.nothingRuns
  refused run := absurd h.nothingRuns run.not_nothingRuns
  bound _ holdsNothing := by
    cases h with
    | untouched unstarted =>
      have hstart := unstarted.start_eq_bindInTurn ports others
      exact ⟨hstart.1, hstart.2.1⟩
    | blocked allowed unstarted =>
      rw [unstarted.held_eq] at holdsNothing
      cases holdsNothing
  blocked _ holdsSomething := by
    cases h with
    | untouched unstarted => exact absurd unstarted.held_eq holdsSomething
    | blocked allowed unstarted => exact unstarted.start_eq ports allowed others
  succeeds ok := by
    obtain ⟨-, hrun⟩ | ⟨⟨e, he⟩, -⟩ := h.start_cases ports others
    · exact hrun
    · rw [he] at ok
      cases ok
  fails _ e failed := by
    obtain ⟨hok, -⟩ | ⟨-, hidle⟩ := h.start_cases ports others
    · rw [hok] at failed
      cases failed
    · exact ⟨hidle.nothingRuns, fun free isFree => hidle.start_ok_iff ports isFree⟩

end Outcome

/-- After any number of starts of a server that has been built, a start that fails runs no service,
but what it could bind before it failed stays bound; and the server can be started later if and only
if that is nothing. -/
theorem startOutcome_of_starts {c : Config} {store : AccountStore} {s : Server}
    (built : withStore c store = .ok s) (calls : List (List SocketAddress))
    (others : List SocketAddress) : StartOutcome c others (s.startAll calls) := by
  obtain ⟨hvalid, huntouched⟩ := unstarted_withStore built
  have hports := Config.portsDiffer_of_valid hvalid
  obtain hrun | hidle := allRun_or_idle_startAll hports (.inr (.untouched huntouched)) calls
  · exact hrun.startOutcome others
  · exact hidle.startOutcome hports others

/-- The address of the gateway is taken at first, and so the start fails with nothing bound. Once
the address is free, the server starts. -/
theorem startOutcome_of_starts_gatewayTaken :
    ∃ s, withStore {} .empty = .ok s ∧
      (s.start [({} : Config).gatewayAddress]).1 =
        .error (.bind Front.gateway.name ({} : Config).gatewayAddress .addressInUse) ∧
      StartOutcome {} [] (s.startAll [[({} : Config).gatewayAddress]]) ∧
      ((s.startAll [[({} : Config).gatewayAddress]]).start []).1 = .ok () :=
  ⟨_, rfl, rfl, startOutcome_of_starts rfl [[({} : Config).gatewayAddress]] [], rfl⟩

/-- The address of the game front end is taken at first. The start fails, and the server goes on
holding the address of its gateway, so that it does not start once all addresses are free. -/
theorem start_held_gameTaken :
    ∃ s, withStore {} .empty = .ok s ∧ (s.start []).1 = .ok () ∧
      (s.start [({} : Config).gameAddress]).1 =
        .error (.bind Front.game.name ({} : Config).gameAddress .addressInUse) ∧
      (s.start [({} : Config).gameAddress]).2.held = [({} : Config).gatewayAddress] ∧
      ((s.start [({} : Config).gameAddress]).2.start []).1 =
        .error (.bind Front.gateway.name ({} : Config).gatewayAddress .addressInUse) :=
  ⟨_, rfl, rfl, rfl, rfl, rfl⟩

end Server

end PlayServer

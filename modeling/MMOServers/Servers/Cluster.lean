/-
MMOServers.Servers.Cluster — the servers together.

Any number of login servers, game servers and gateways around one world server.
A session token is made by the world server, travels to the gateways through the
game servers and to the client through its login server, and comes back with the
connect request. The packets on these ways are lists, the oldest first, and
arrive in order; everything else that a server reads (packets of clients, clock
readings, answers of the database) may be anything at any time and is part of
the label. Anybody may connect to the world server too; such a peer sends what
it likes.

The servers are the states of the other modules, and a step of the cluster is a
step of one of them. Connections between servers come and go, and a break loses
what is on its way. A server has one connection to the next, so a session that
the other side has not closed yet is not counted.

Three history variables, the newest entry first: `issued` are the tokens that
`Handle_WorldLoginSelectReq` made, `relayed` the messages that
`Handle_S2SWorldSelectRes` sent to clients, `admitted` the connect requests that
`Handle_GatewayConnectReq` admitted. A token is made only once. Nothing is
assumed about what clients know: they may present any token.
-/
import MMOServers.Lib.TokenLedger
import MMOServers.LoginServer.LoginTheorems
import MMOServers.WorldServer.WorldContext
import MMOServers.GameServer.TokenRelay
import MMOServers.GatewayServer.TokenSteps

namespace MMOServers.Servers

open MMOServers.Common MMOServers.LoginServer MMOServers.WorldServer MMOServers.GameServer
  MMOServers.GatewayServer Tokens

/-- Who connects to the world server. -/
inductive Peer where
  | loginServer (l : Nat)
  | gameServer (g : Nat)
  | other (p : Nat)
  deriving DecidableEq

/-- The libraries and settings of the servers. -/
structure ClusterEnv (K F Key : Type) where
  login : ServerEnv
  world : WorldEnv
  game : GameEnv K
  gateway : GatewayEnv F Key
  serializeToGateway : ToGateway K → List UInt8
  /-- The game server that a gateway connects to. -/
  gameServerOf : Nat → Nat

/-- Protobuf: a message that was serialized does not parse to another one. -/
structure ClusterEnv.Faithful {K F Key : Type} (env : ClusterEnv K F Key) : Prop where
  worldNotify : ∀ m m', env.game.parseTokenNotify (env.world.serializeTokenNotify m) = some m' →
    m' = m
  gameNotify : ∀ m m',
    env.gateway.parseTokenNotify (env.serializeToGateway (.tokenNotify m)) = some m' → m' = m
  selectRes : ∀ m m',
    env.login.parseWorldLoginSelectRes (env.world.serializeWorldLoginSelectRes m) = some m' →
      m' = m

/-! ## A sample -/

/-- A session token, and the bytes of it. -/
def sampleToken : String := String.ofList (List.replicate 64 '0')

def sampleTokenBytes : List UInt8 := List.replicate 64 48

def sampleNotify : TokenNotify := ⟨"a", sampleToken, 300000⟩

def sampleSelectRes : WorldLoginSelectRes := ⟨"a", true, "127.0.0.1", 8888, sampleToken⟩

def sampleNotifyBytes : List UInt8 :=
  [10, 1, 97, 18, 64] ++ sampleTokenBytes ++ [24, 224, 167, 18]

def sampleSelectResBytes : List UInt8 :=
  [10, 1, 97, 16, 1, 26, 9, 49, 50, 55, 46, 48, 46, 48, 46, 49, 32, 184, 69, 42, 64] ++
    sampleTokenBytes

def sampleConnectBytes : List UInt8 := [10, 1, 97, 18, 64] ++ sampleTokenBytes

/-- The protobuf encoding of what is sent when "a" selects a world. -/
def ClusterEnv.sample : ClusterEnv ℚ Unit Unit where
  login :=
    { ServerEnv.sample with
        parseWorldLoginSelectRes := fun bytes =>
          if bytes = sampleSelectResBytes then some sampleSelectRes else none
        serializeLoginWorldSelectReq := fun req => if req = ⟨"a", 0⟩ then [10, 1, 97] else [] }
  world :=
    { parseLoginWorldSelectReq := fun bytes => if bytes = [10, 1, 97] then some ⟨"a", 0⟩ else none
      serializeTokenNotify := fun m => if m = sampleNotify then sampleNotifyBytes else []
      serializeWorldLoginSelectRes := fun m =>
        if m = sampleSelectRes then sampleSelectResBytes else []
      serializeMonsterBuffReq := fun _ => []
      gatewayServerPort := 8888 }
  game :=
    { GameEnv.sample with
        parseTokenNotify := fun bytes =>
          if bytes = sampleNotifyBytes then some sampleNotify else none }
  gateway :=
    { GatewayEnv.sample with
        parseConnectReq := fun bytes =>
          if bytes = sampleConnectBytes then some ⟨"a", sampleToken⟩ else none
        parseTokenNotify := fun bytes =>
          if bytes = sampleNotifyBytes then some sampleNotify else none }
  serializeToGateway
    | .tokenNotify m => if m = sampleNotify then sampleNotifyBytes else []
    | _ => []
  gameServerOf _ := 0

theorem ClusterEnv.sample_faithful : ClusterEnv.sample.Faithful := by
  -- an encoding that is shared with no other message
  have honly : ∀ {M : Type} [DecidableEq M] (m₀ : M) (bytes : List UInt8), bytes ≠ [] →
      ∀ m m', (if (if m = m₀ then bytes else []) = bytes then some m₀ else none) = some m' →
        m' = m := by
    intro M _ m₀ bytes hbytes m m' hparse
    by_cases hm : m = m₀
    · rw [if_pos hm, if_pos rfl] at hparse
      exact (Option.some.inj hparse).symm.trans hm.symm
    · rw [if_neg hm, if_neg (Ne.symm hbytes)] at hparse
      cases hparse
  exact ⟨honly sampleNotify sampleNotifyBytes (by simp [sampleNotifyBytes]),
    honly sampleNotify sampleNotifyBytes (by simp [sampleNotifyBytes]),
    honly sampleSelectRes sampleSelectResBytes (by simp [sampleSelectResBytes])⟩

/-- The packet id a message is sent under. -/
def toGatewayId {K : Type} : ToGateway K → UInt16
  | .moveRes _ => PacketId.gameGatewayMoveRes
  | .attackRes _ => PacketId.gameGatewayAttackRes
  | .chatRes _ => PacketId.gameGatewayChatRes
  | .tokenNotify _ => PacketId.gameGatewayTokenNotify

/-- A message that a login server has sent to a session of a client, and the history
    of the server up to then. -/
structure Relay where
  login : Nat
  session : Nat
  res : WorldSelectRes
  history : List (LoginServer.Event Nat)

/-- A session that a gateway has admitted, with its request. -/
structure Admission where
  gateway : Nat
  session : Nat
  req : GatewayConnectReq

structure Cluster (K F Key : Type) where
  logins : Nat → LoginContext Nat := fun _ => LoginContext.start
  world : WorldContext Peer := {}
  games : Nat → GameContext K Nat
  gateways : Nat → Gateway Nat F Key := fun _ => Gateway.start
  /-- Whether the gateway has a session in `gatewaySessions` of its game server. -/
  gatewaySessions : Nat → Bool := fun _ => false
  toWorld : Peer → List S2SPacket := fun _ => []
  toGateway : Nat → List S2SPacket := fun _ => []
  issued : List (Notice String String) := []
  relayed : List Relay := []
  admitted : List Admission := []

namespace Cluster

variable {K F Key : Type} (env : ClusterEnv K F Key)

/-! ## Login servers -/

/-- The world selections that a step of a login server has handed on. -/
def forwardsOf (old new : LoginContext Nat) : List S2SPacket :=
  (new.trace.take (new.trace.length - old.trace.length)).reverse.filterMap fun
    | .forwarded _ req =>
        some ⟨PacketId.loginWorldSelectReq, env.login.serializeLoginWorldSelectReq req⟩
    | _ => none

def loginStepped (s : Cluster K F Key) (l : Nat) (login : LoginContext Nat) : Cluster K F Key :=
  { s with
      logins := Function.update s.logins l login
      toWorld := Function.update s.toWorld (.loginServer l)
        (s.toWorld (.loginServer l) ++ forwardsOf env (s.logins l) login) }

/-- A packet of the world server arrives at a login server. -/
def loginReceives (s : Cluster K F Key) (l : Nat) (packet : S2SPacket) : Cluster K F Key :=
  let login := s.logins l
  { s with
      logins := Function.update s.logins l
        (login.worldDispatch env.login packet.id packet.payload)
      world := s.world.pop (.loginServer l)
      relayed := ((LoginContext.relayOf env.login login packet.id packet.payload).toList.map
        fun (i, res) => ⟨l, i, res, login.trace⟩) ++ s.relayed }

/-! ## The world server -/

/-- The token that the world server makes for a packet. -/
def issueOf (packet : S2SPacket) (newToken : String) : Option (Notice String String) :=
  (WorldContext.selectReqOf env.world packet).map fun req => ⟨req.accountId, newToken⟩

/-- A packet of a peer arrives at the world server. -/
def worldReceives (s : Cluster K F Key) (p : Peer) (packet : S2SPacket) (rest : List S2SPacket)
    (newToken : String) (nowMs : Int) : Cluster K F Key :=
  { s with
      world := s.world.dispatch env.world p packet newToken nowMs
      toWorld := Function.update s.toWorld p rest
      issued := (issueOf env packet newToken).toList ++ s.issued }

/-! ## Game servers -/

/-- The packet that a gateway gets of a message, if it gets any. -/
def packetFor (w : Nat) : Outgoing K Nat → Option S2SPacket
  | .send gw m =>
      if gw = w then S2SPacket.frame (toGatewayId m) (env.serializeToGateway m) else none
  | .broadcast m => S2SPacket.frame (toGatewayId m) (env.serializeToGateway m)

/-- A game server has run a task and sent messages to its gateways. -/
def gameStepped (s : Cluster K F Key) (g : Nat) (game : GameContext K Nat) : Cluster K F Key :=
  { s with
      games := Function.update s.games g game
      toGateway := fun w =>
        if env.gameServerOf w = g ∧ s.gatewaySessions w = true then
          s.toGateway w ++ game.sent.reverse.filterMap (packetFor env w)
        else s.toGateway w }

/-! ## Gateways -/

def gatewayStepped (s : Cluster K F Key) (w : Nat) (label : Gateway.Label Nat)
    (gateway : Gateway Nat F Key) : Cluster K F Key :=
  { s with
      gateways := Function.update s.gateways w gateway
      admitted := ((Gateway.admissionOf env.gateway (s.gateways w) label).toList.map
        fun (i, req) => ⟨w, i, req⟩) ++ s.admitted }

/-- A packet of the game server arrives at a gateway. -/
def gatewayReceives (s : Cluster K F Key) (w : Nat) (packet : S2SPacket)
    (rest : List S2SPacket) : Cluster K F Key :=
  { s with
      gateways := Function.update s.gateways w
        ((s.gateways w).gameDispatch env.gateway packet.id packet.payload)
      toGateway := Function.update s.toGateway w rest }

/-! ## Connections -/

/-- A connection to the world server is made or breaks. -/
def setLink (s : Cluster K F Key) (p : Peer) (linked : Bool) : Cluster K F Key :=
  { s with world := s.world.setLink p linked
           toWorld := Function.update s.toWorld p [] }

/-- The connection of a gateway to its game server is made or breaks. -/
def setGatewayLink (s : Cluster K F Key) (w : Nat) (linked : Bool) : Cluster K F Key :=
  { s with gatewaySessions := Function.update s.gatewaySessions w linked
           toGateway := Function.update s.toGateway w [] }

/-! ## Steps -/

inductive Label (K : Type) where
  | login (l : Nat) (label : LoginContext.Label Nat)
  | loginReceives (l : Nat)
  | link (p : Peer) (linked : Bool)
  | otherSends (p : Nat) (packet : S2SPacket)
  | worldReceives (p : Peer) (newToken : String) (nowMs : Int)
  | buffMonsterHp (addHp : Int32)
  | game (g : Nat) (label : GameContext.Label K Nat)
  | gameReceives (g : Nat)
  | gatewayLink (w : Nat) (linked : Bool)
  | gateway (w : Nat) (label : Gateway.Label Nat)
  | gatewayReceives (w : Nat)

variable [Field K] [LinearOrder K] [FloorRing K] [HasSqrt K]

/-- A task of a game server; `sent` holds what it sends. -/
def runGame (s : Cluster K F Key) (g : Nat) (label : GameContext.Label K Nat) :
    Option (Cluster K F Key) :=
  (GameContext.step env.game { s.games g with sent := [] } label).map (s.gameStepped env g)

def step (s : Cluster K F Key) : Label K → Option (Cluster K F Key)
  | .login _ (.worldPacket _ _) => none
  | .login l label => (LoginContext.step env.login (s.logins l) label).map (s.loginStepped env l)
  | .loginReceives l =>
      match s.world.posted (.loginServer l) with
      | [] => none
      | packet :: _ => some (s.loginReceives env l packet)
  | .link p linked => some (s.setLink p linked)
  | .otherSends p packet =>
      some { s with
               toWorld := Function.update s.toWorld (.other p) (s.toWorld (.other p) ++ [packet]) }
  | .worldReceives p newToken nowMs =>
      match s.toWorld p with
      | [] => none
      | packet :: rest =>
          if IsSessionToken newToken ∧ ∀ n ∈ s.issued, n.token ≠ newToken then
            some (s.worldReceives env p packet rest newToken nowMs)
          else none
  | .buffMonsterHp addHp => some { s with world := s.world.buffMonsterHp env.world addHp }
  | .game _ (.worldPacket _ _) => none
  | .game g label => s.runGame env g label
  | .gameReceives g =>
      match s.world.posted (.gameServer g) with
      | [] => none
      | packet :: _ =>
          { s with world := s.world.pop (.gameServer g) }.runGame env g
            (.worldPacket packet.id packet.payload)
  | .gatewayLink w linked => some (s.setGatewayLink w linked)
  | .gateway _ (.gamePacket _ _) => none
  | .gateway w label =>
      (Gateway.step env.gateway (s.gateways w) label).map (s.gatewayStepped env w label)
  | .gatewayReceives w =>
      match s.toGateway w with
      | [] => none
      | packet :: rest => some (s.gatewayReceives env w packet rest)

/-- What a step can be. -/
inductive Stepped (s : Cluster K F Key) : Label K → Cluster K F Key → Prop where
  | login (l : Nat) {label : LoginContext.Label Nat} {login : LoginContext Nat}
      (stepped : LoginContext.step env.login (s.logins l) label = some login) :
      Stepped s (.login l label) (s.loginStepped env l login)
  | loginReceives {l : Nat} {packet : S2SPacket} {rest : List S2SPacket}
      (posted : s.world.posted (.loginServer l) = packet :: rest) :
      Stepped s (.loginReceives l) (s.loginReceives env l packet)
  | link (p : Peer) (linked : Bool) : Stepped s (.link p linked) (s.setLink p linked)
  | otherSends (p : Nat) (packet : S2SPacket) :
      Stepped s (.otherSends p packet) { s with
        toWorld := Function.update s.toWorld (.other p) (s.toWorld (.other p) ++ [packet]) }
  | worldReceives (p : Peer) (packet : S2SPacket) (rest : List S2SPacket) {newToken : String}
      (nowMs : Int) (fresh : ∀ n ∈ s.issued, n.token ≠ newToken) :
      Stepped s (.worldReceives p newToken nowMs)
        (s.worldReceives env p packet rest newToken nowMs)
  | buffMonsterHp (addHp : Int32) :
      Stepped s (.buffMonsterHp addHp) { s with world := s.world.buffMonsterHp env.world addHp }
  | game {g : Nat} {label : GameContext.Label K Nat} {game : GameContext K Nat}
      (own : ∀ id payload, label ≠ .worldPacket id payload)
      (stepped : GameContext.step env.game { s.games g with sent := [] } label = some game) :
      Stepped s (.game g label) (s.gameStepped env g game)
  | gameReceives {g : Nat} {packet : S2SPacket} {rest : List S2SPacket}
      (posted : s.world.posted (.gameServer g) = packet :: rest) :
      Stepped s (.gameReceives g)
        (gameStepped env { s with world := s.world.pop (.gameServer g) } g
          (GameContext.worldDispatch env.game { s.games g with sent := [] } packet.id
            packet.payload))
  | gatewayLink (w : Nat) (linked : Bool) :
      Stepped s (.gatewayLink w linked) (s.setGatewayLink w linked)
  | gateway {w : Nat} {label : Gateway.Label Nat} {gateway : Gateway Nat F Key}
      (own : ∀ id payload, label ≠ .gamePacket id payload)
      (stepped : Gateway.step env.gateway (s.gateways w) label = some gateway) :
      Stepped s (.gateway w label) (s.gatewayStepped env w label gateway)
  | gatewayReceives {w : Nat} {packet : S2SPacket} {rest : List S2SPacket}
      (waiting : s.toGateway w = packet :: rest) :
      Stepped s (.gatewayReceives w) (s.gatewayReceives env w packet rest)

variable {env}

theorem step_inv {s s' : Cluster K F Key} {label : Label K} (h : step env s label = some s') :
    Stepped env s label s' := by
  cases label with
  | login l label =>
      cases label with
      | worldPacket id payload => cases h
      | _ =>
          simp only [step] at h
          obtain ⟨login, hlogin, rfl⟩ := Option.map_eq_some_iff.mp h
          exact .login l hlogin
  | loginReceives l =>
      simp only [step] at h
      split at h
      · cases h
      · rename_i packet rest hposted
        exact Option.some.inj h ▸ .loginReceives hposted
  | link p linked => exact Option.some.inj h ▸ .link p linked
  | otherSends p packet => exact Option.some.inj h ▸ .otherSends p packet
  | worldReceives p newToken nowMs =>
      simp only [step] at h
      repeat' split at h
      · cases h
      · rename_i packet rest _ hfresh
        exact Option.some.inj h ▸ .worldReceives p packet rest nowMs hfresh.2
      · cases h
  | buffMonsterHp addHp => exact Option.some.inj h ▸ .buffMonsterHp addHp
  | game g label =>
      cases label with
      | worldPacket id payload => cases h
      | _ =>
          simp only [step, runGame] at h
          obtain ⟨game, hgame, rfl⟩ := Option.map_eq_some_iff.mp h
          exact .game (by simp) hgame
  | gameReceives g =>
      simp only [step] at h
      split at h
      · cases h
      · rename_i packet rest hposted
        exact Option.some.inj h ▸ .gameReceives hposted
  | gatewayLink w linked => exact Option.some.inj h ▸ .gatewayLink w linked
  | gateway w label =>
      cases label with
      | gamePacket id payload => cases h
      | _ =>
          simp only [step] at h
          obtain ⟨gateway, hgateway, rfl⟩ := Option.map_eq_some_iff.mp h
          exact .gateway (by simp) hgateway
  | gatewayReceives w =>
      simp only [step] at h
      split at h
      · cases h
      · rename_i packet rest hwaiting
        exact Option.some.inj h ▸ .gatewayReceives hwaiting

/-- All servers have just started, and none is connected. -/
def start (spawns : Nat → List (MonsterSpawn K)) : Cluster K F Key :=
  { games := fun g => GameContext.start (spawns g) }

end Cluster

end MMOServers.Servers

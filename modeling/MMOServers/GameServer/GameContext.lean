/-
MMOServers.GameServer.GameContext — the game server.

The state is `GameContext` as the tasks of `game_strand_` see it. A step is one
such task: a packet of a gateway or of the world server, the clean-up after a
gateway, a tick of the AI, the result of a path request. Tasks run one at a
time, so an interleaving is a list of labels; a label also carries the order in
which the task runs through the sets of the sectors.

Gateway sessions are named by a type `σ`. A monster is named by its index in
`monsters`, as the `shared_ptr`s of the two tables name it. `redis` is the
mirror that `RedisManager` keeps of hit points, and `sent` a history variable
with the messages to the gateways, the newest first.
-/
import MMOServers.GameServer.Zone
import MMOServers.GameServer.Monster
import MMOServers.Common.Protocol

namespace MMOServers.GameServer

open MMOServers.Common

/-- The protobuf parsers of the requests. -/
structure GameEnv (F : Type) where
  parseMoveReq : List UInt8 → Option (GatewayGameMoveReq F)
  parseLeaveReq : List UInt8 → Option GatewayGameLeaveReq
  parseAttackReq : List UInt8 → Option GatewayGameAttackReq
  parseChatReq : List UInt8 → Option GatewayGameChatReq
  parseMonsterBuffReq : List UInt8 → Option WorldGameMonsterBuffReq
  parseTokenNotify : List UInt8 → Option TokenNotify

/-- The protobuf encoding of the few messages a sample run needs. -/
def GameEnv.sample : GameEnv ℚ where
  parseMoveReq
    | [10, 1, 97, 21, 0, 0, 32, 65] => some ⟨"a", 10, 0, 0, 0⟩
    | [10, 1, 97, 21, 0, 0, 122, 68] => some ⟨"a", 1000, 0, 0, 0⟩
    | [10, 1, 97, 21, 0, 0, 73, 66, 29, 0, 0, 32, 65] => some ⟨"a", 201 / 4, 10, 0, 0⟩
    | _ => none
  parseLeaveReq
    | [10, 1, 97] => some ⟨"a"⟩
    | _ => none
  parseAttackReq
    | [10, 1, 97] => some ⟨"a", 0⟩
    | _ => none
  parseChatReq _ := none
  parseMonsterBuffReq _ := none
  parseTokenNotify _ := none

structure PlayerInfo (F : Type) where
  uid : Nat
  x : F
  y : F
  hp : Int := GameConstants.Player.defaultHp
  atk : Int := GameConstants.Player.defaultAtk
  deriving DecidableEq

/-- A hit, which leaves no negative hit points. -/
def PlayerInfo.takeDamage {F : Type} (p : PlayerInfo F) (damage : Int) : PlayerInfo F :=
  let hp := wrap32 (p.hp - damage)
  { p with hp := if hp < 0 then 0 else hp }

inductive ToGateway (F : Type) where
  | moveRes (m : GameGatewayMoveRes F)
  | attackRes (m : GameGatewayAttackRes)
  | chatRes (m : GameGatewayChatRes)
  | tokenNotify (m : TokenNotify)

/-- A message to one gateway session, or `BroadcastToGateways`. -/
inductive Outgoing (F σ : Type) where
  | send (gw : σ) (m : ToGateway F)
  | broadcast (m : ToGateway F)

/-- A path request with the monster that made it. -/
structure PathTask (F : Type) where
  monster : Nat
  request : PathRequest F

structure GameContext (F σ : Type) where
  zone : Zone
  playerMap : String → Option (PlayerInfo F) := fun _ => none
  uidToAccount : Nat → Option String := fun _ => none
  uidCounter : Nat := 1
  monsters : List (Monster F) := []
  /-- The index of the monster with the id. -/
  monsterMap : Nat → Option Nat := fun _ => none
  /-- The accounts of a gateway session; no entry is the empty list. -/
  gatewayPlayerMap : σ → List String := fun _ => []
  syncTimers : Nat → Option F := fun _ => none
  pathTasks : List (PathTask F) := []
  redis : String → Option Int := fun _ => none
  sent : List (Outgoing F σ) := []

namespace GameContext

variable {F σ : Type}

/-! ## Small updates -/

def send (s : GameContext F σ) (gw : σ) (m : ToGateway F) : GameContext F σ :=
  { s with sent := .send gw m :: s.sent }

def broadcastToGateways (s : GameContext F σ) (m : ToGateway F) : GameContext F σ :=
  { s with sent := .broadcast m :: s.sent }

/-- The accounts of a list of uids. -/
def accounts (s : GameContext F σ) (uids : List Nat) : List String :=
  uids.filterMap s.uidToAccount

/-- The online player with the uid. -/
def playerOf (s : GameContext F σ) (uid : Nat) : Option (String × PlayerInfo F) :=
  (s.uidToAccount uid).bind fun accId => (s.playerMap accId).map fun p => (accId, p)

def setPlayer (s : GameContext F σ) (accId : String) (p : PlayerInfo F) : GameContext F σ :=
  { s with playerMap := Function.update s.playerMap accId (some p) }

def setRedisHp (s : GameContext F σ) (accId : String) (hp : Int) : GameContext F σ :=
  { s with redis := Function.update s.redis accId (some hp) }

def setMonster (s : GameContext F σ) (i : Nat) (m : Monster F) : GameContext F σ :=
  { s with monsters := s.monsters.set i m }

section Players

variable [DecidableEq σ] [IntCast F] [Div F] [LT F] [LE F] [DecidableLT F] [DecidableLE F]
  [TruncInt F]

/-! ## Players -/

/-- The two tests that keep a coordinate on the map. -/
def clamp (bound : Int) (v : F) : F :=
  let v := if v < ((0 : Int) : F) then ((0 : Int) : F) else v
  if (bound : F) < v then (bound : F) else v

/-- The first move of an account. -/
def enterPlayer (s : GameContext F σ) (gw : σ) (accId : String) (x y : F) :
    PlayerInfo F × GameContext F σ :=
  let p : PlayerInfo F := { uid := s.uidCounter, x := x, y := y }
  (p, { s with
          uidCounter := (s.uidCounter + 1) % 2 ^ 64
          playerMap := Function.update s.playerMap accId (some p)
          uidToAccount := Function.update s.uidToAccount p.uid (some accId)
          gatewayPlayerMap := Function.update s.gatewayPlayerMap gw
            ((s.gatewayPlayerMap gw).insert accId)
          zone := s.zone.enterZone p.uid x y
          redis := Function.update s.redis accId (some GameConstants.Player.defaultHp) })

/-- The player of an account goes to a new position. -/
def movePlayer (s : GameContext F σ) (accId : String) (p : PlayerInfo F) (x y : F) :
    GameContext F σ :=
  { s.setPlayer accId { p with x := x, y := y } with
      zone := s.zone.updatePosition p.uid p.x p.y x y }

def handleGatewayGameMoveReq (env : GameEnv F) (s : GameContext F σ) (gw : σ)
    (order : IterationOrder) (payload : List UInt8) : GameContext F σ :=
  match env.parseMoveReq payload with
  | none => s
  | some req =>
      let newX := clamp GameConstants.Map.width req.x
      let newY := clamp GameConstants.Map.height req.y
      let (p, s) :=
        match s.playerMap req.accountId with
        | some p => (p, s)
        | none => s.enterPlayer gw req.accountId newX newY
      let s := s.movePlayer req.accountId p newX newY
      let aoi := s.zone.getPlayersInAOI order newX newY
      s.send gw (.moveRes ⟨req.accountId, newX, newY, ((0 : Int) : F), ((0 : Int) : F),
        s.accounts (aoi.take GameConstants.Network.maxAoiBroadcast)⟩)

/-- The account leaves the tables, its sector and the mirror. -/
def removePlayer (s : GameContext F σ) (accId : String) (p : PlayerInfo F) : GameContext F σ :=
  { s with
      uidToAccount := Function.update s.uidToAccount p.uid none
      playerMap := Function.update s.playerMap accId none
      zone := s.zone.leaveZone p.uid p.x p.y
      redis := Function.update s.redis accId none }

def handleGatewayGameLeaveReq (env : GameEnv F) (s : GameContext F σ) (gw : σ)
    (payload : List UInt8) : GameContext F σ :=
  match env.parseLeaveReq payload with
  | none => s
  | some req =>
      match s.playerMap req.accountId with
      | none => s
      | some p =>
          { s.removePlayer req.accountId p with
              gatewayPlayerMap := Function.update s.gatewayPlayerMap gw
                ((s.gatewayPlayerMap gw).filter (· ≠ req.accountId)) }

/-- The clean-up that `GatewaySession::OnDisconnected` posts, for the accounts
    of the session. -/
def removePlayers (s : GameContext F σ) : List String → GameContext F σ
  | [] => s
  | accId :: rest =>
      match s.playerMap accId with
      | none => s.removePlayers rest
      | some p => (s.removePlayer accId p).removePlayers rest

def gatewayDisconnected (s : GameContext F σ) (gw : σ) : GameContext F σ :=
  let s' := s.removePlayers (s.gatewayPlayerMap gw)
  { s' with gatewayPlayerMap := Function.update s'.gatewayPlayerMap gw [] }

def handleGatewayGameChatReq (env : GameEnv F) (s : GameContext F σ) (gw : σ)
    (order : IterationOrder) (payload : List UInt8) : GameContext F σ :=
  match env.parseChatReq payload with
  | none => s
  | some req =>
      match s.playerMap req.accountId with
      | none => s
      | some p =>
          s.send gw (.chatRes ⟨req.accountId, req.msg,
            s.accounts (s.zone.getPlayersInAOI order p.x p.y)⟩)

end Players

/-! ## Combat -/

variable {K : Type} [Field K] [LinearOrder K] [FloorRing K] [HasSqrt K]

/-- The loop of the attack handler over the monsters around the player. Of two
    monsters at one distance the later one is taken. -/
def nearestMonster (s : GameContext K σ) (px py : K) :
    List Nat → Option (Nat × Monster K) → K → Option (Nat × Monster K)
  | [], best, _ => best
  | id :: ids, best, minDist =>
      match (s.monsterMap id).bind fun i => (s.monsters[i]?).map fun m => (i, m) with
      | none => s.nearestMonster px py ids best minDist
      | some (i, m) =>
          let dist := distance (px - m.position.x) (py - m.position.y)
          if m.state ≠ .dead ∧ dist ≤ minDist then
            s.nearestMonster px py ids (some (i, m)) dist
          else s.nearestMonster px py ids best minDist

def monsterName (id : Nat) : String := "MONSTER_" ++ toString id

def handleGatewayGameAttackReq (env : GameEnv K) (s : GameContext K σ)
    (order : IterationOrder) (payload : List UInt8) : GameContext K σ :=
  match env.parseAttackReq payload with
  | none => s
  | some req =>
      match s.playerMap req.accountId with
      | none => s
      | some p =>
          let ids := s.zone.getMonstersInAOI order p.x p.y
          match s.nearestMonster p.x p.y ids none GameConstants.Combat.playerAttackRange with
          | none =>
              s.broadcastToGateways (.attackRes
                ⟨UInt64.ofNat p.uid, 0, 0, 0, [req.accountId], ""⟩)
          | some (i, m) =>
              let damage := max (wrap32 (p.atk - m.defensePower)) GameConstants.Combat.minDamage
              let hit := m.takeDamage damage
              let aoi := s.zone.getPlayersInAOI order p.x p.y
              let s := s.broadcastToGateways (.attackRes
                ⟨UInt64.ofNat p.uid, UInt64.ofNat m.monsterId, Int32.ofInt damage,
                  Int32.ofInt hit.hp,
                  s.accounts (aoi.take GameConstants.Network.maxAoiBroadcast),
                  monsterName m.monsterId⟩)
              s.setMonster i (if hit.hp ≤ 0 then hit.die else hit)

/-- A dead player is taken to the spawn point with new hit points. -/
def respawnPlayer (s : GameContext K σ) (accId : String) (targetUid : Nat)
    (p : PlayerInfo K) : GameContext K σ :=
  let home : K × K := ((GameConstants.Player.spawnX : K), (GameConstants.Player.spawnY : K))
  let s := s.setPlayer accId
    { p with hp := GameConstants.Player.defaultHp, x := home.1, y := home.2 }
  let s := s.setRedisHp accId GameConstants.Player.defaultHp
  let s := { s with zone := s.zone.updatePosition targetUid p.x p.y home.1 home.2 }
  s.broadcastToGateways (.moveRes ⟨accId, home.1, home.2, 0, 0, [accId]⟩)

/-- The attack callback that `InitMonsters` gives every monster. -/
def attackPlayer (s : GameContext K σ) (order : IterationOrder) (attackerUid targetUid : Nat)
    (damage : Int) : GameContext K σ :=
  match s.playerOf targetUid with
  | none => s
  | some (accId, p) =>
      let p := p.takeDamage damage
      let s := (s.setPlayer accId p).setRedisHp accId p.hp
      let s := s.broadcastToGateways (.attackRes
        ⟨UInt64.ofNat attackerUid, UInt64.ofNat targetUid, Int32.ofInt damage,
          Int32.ofInt p.hp, s.accounts (s.zone.getPlayersInAOI order p.x p.y), accId⟩)
      if p.hp ≤ 0 then s.respawnPlayer accId targetUid p else s

def handleWorldGameMonsterBuff (env : GameEnv K) (s : GameContext K σ)
    (payload : List UInt8) : GameContext K σ :=
  match env.parseMonsterBuffReq payload with
  | none => s
  | some req =>
      { s with monsters := s.monsters.map fun m =>
          if req.minUid.toNat ≤ m.monsterId ∧ m.monsterId ≤ req.maxUid.toNat ∧
              m.state ≠ .dead then
            m.setHp req.addHp.toInt
          else m }

def handleWorldGameTokenNotify (env : GameEnv K) (s : GameContext K σ)
    (payload : List UInt8) : GameContext K σ :=
  match env.parseTokenNotify payload with
  | none => s
  | some notify => s.broadcastToGateways (.tokenNotify notify)

/-! ## The AI tick -/

/-- What a monster has asked for. -/
def perform (s : GameContext K σ) (order : IterationOrder) (i : Nat) :
    List (MonsterCall K) → GameContext K σ
  | [] => s
  | .findPath request :: calls =>
      let task : PathTask K := ⟨i, request⟩
      { s with pathTasks := s.pathTasks ++ [task] }.perform order i calls
  | .attack attackerId targetId damage :: calls =>
      (s.attackPlayer order attackerId targetId damage).perform order i calls

/-- The message about a monster's position. -/
def monsterMoveRes (s : GameContext K σ) (m : Monster K) (uids : List Nat) : ToGateway K :=
  .moveRes ⟨monsterName m.monsterId, m.position.x, m.position.y, m.position.z, 0,
    s.accounts uids⟩

def processDeadMonster (s : GameContext K σ) (order : IterationOrder) (i : Nat)
    (m : Monster K) (deltaTime : K) : GameContext K σ :=
  let m := m.addDeadTime deltaTime
  if m.deadTimer < (m.respawnSec : K) then s.setMonster i m
  else
    let m := m.respawn
    let s := s.setMonster i m
    let aoi := s.zone.getPlayersInAOI order m.position.x m.position.y
    if aoi = [] then s else s.broadcastToGateways (s.monsterMoveRes m aoi)

def processIdleMonster (s : GameContext K σ) (order : IterationOrder) (m : Monster K)
    (oldX oldY : K) : Monster K × List (MonsterCall K) :=
  let found := (s.zone.getPlayersInAOI order oldX oldY).findSome? fun uid =>
    match s.playerOf uid with
    | none => none
    | some (_, p) =>
        if distance (p.x - oldX) (p.y - oldY) < GameConstants.Monster.aggroRange then
          some (uid, p)
        else none
  match found with
  | none => (m, [])
  | some (uid, p) => m.setTarget uid ⟨p.x, p.y, 0⟩

/-- A monster with a target keeps it while it is online and in range. -/
def keepTarget (giveUp : Monster K → Monster K × List (MonsterCall K)) (s : GameContext K σ)
    (m : Monster K) (oldX oldY : K) : Monster K × List (MonsterCall K) :=
  match s.playerOf m.targetUserId with
  | none => giveUp m
  | some (_, p) =>
      if distance (p.x - oldX) (p.y - oldY) ≤ GameConstants.Monster.chaseRange then
        m.updateTargetPosition ⟨p.x, p.y, 0⟩
      else giveUp m

def processChaseMonster (s : GameContext K σ) (m : Monster K) (oldX oldY : K) :
    Monster K × List (MonsterCall K) :=
  s.keepTarget Monster.giveUpChase m oldX oldY

def processAttackMonster (s : GameContext K σ) (m : Monster K) (oldX oldY : K) :
    Monster K × List (MonsterCall K) :=
  s.keepTarget Monster.giveUpAttack m oldX oldY

/-- The part of the tick that depends on the state of the monster. -/
def processMonster (s : GameContext K σ) (order : IterationOrder) (m : Monster K)
    (oldX oldY : K) : Monster K × List (MonsterCall K) :=
  match m.state with
  | .idle => s.processIdleMonster order m oldX oldY
  | .chase => s.processChaseMonster m oldX oldY
  | .attack => s.processAttackMonster m oldX oldY
  | .return => (m, [])
  | .dead => (m, [])

def syncMonsterPosition (s : GameContext K σ) (order : IterationOrder) (m : Monster K)
    (oldX oldY deltaTime : K) : GameContext K σ :=
  let newX := m.position.x
  let newY := m.position.y
  if |oldX - newX| ≤ GameConstants.AI.positionEpsilon ∧
      |oldY - newY| ≤ GameConstants.AI.positionEpsilon then s
  else
    let timer := (s.syncTimers m.monsterId).getD 0 + deltaTime
    let s := { s with
                 zone := s.zone.updatePositionMonster m.monsterId oldX oldY newX newY
                 syncTimers := Function.update s.syncTimers m.monsterId (some timer) }
    if timer < GameConstants.Network.monsterSyncInterval then s
    else
      let s := { s with syncTimers := Function.update s.syncTimers m.monsterId (some 0) }
      let aoi := s.zone.getPlayersInAOI order newX newY
      if aoi = [] then s else s.broadcastToGateways (s.monsterMoveRes m aoi)

/-- The body of the loop of `ScheduleNextAITick`. -/
def tickMonster (order : IterationOrder) (deltaTime : K) (s : GameContext K σ) (i : Nat) :
    GameContext K σ :=
  match s.monsters[i]? with
  | none => s
  | some m =>
      if m.state = .dead then s.processDeadMonster order i m deltaTime
      else
        let oldX := m.position.x
        let oldY := m.position.y
        let (m, calls) := s.processMonster order m oldX oldY
        let s := (s.setMonster i m).perform order i calls
        let (m, calls) := m.update deltaTime
        let s := (s.setMonster i m).perform order i calls
        s.syncMonsterPosition order m oldX oldY deltaTime

def aiTick (s : GameContext K σ) (order : IterationOrder) (deltaTime : K) : GameContext K σ :=
  (List.range s.monsters.length).foldl (tickMonster order deltaTime) s

/-- The strand's part of `CalculatePath`. -/
def pathResult (s : GameContext K σ) (task : PathTask K) (waypoints : List (Vector3 K)) :
    GameContext K σ :=
  match s.monsters[task.monster]? with
  | none => s
  | some m => s.setMonster task.monster (m.applyPath task.request waypoints)

/-! ## Steps -/

inductive Label (K σ : Type) where
  | packet (gw : σ) (id : UInt16) (payload : List UInt8) (order : IterationOrder)
  | gatewayDisconnected (gw : σ)
  | worldPacket (id : UInt16) (payload : List UInt8)
  | aiTick (deltaTime : K) (order : IterationOrder)
  | pathResult (n : Nat) (waypoints : List (Vector3 K))

variable [DecidableEq σ] (env : GameEnv K)

/-- `gatewayDispatcher.Dispatch`. -/
def dispatch (s : GameContext K σ) (gw : σ) (id : UInt16) (payload : List UInt8)
    (order : IterationOrder) : GameContext K σ :=
  if id = PacketId.gatewayGameMoveReq then s.handleGatewayGameMoveReq env gw order payload
  else if id = PacketId.gatewayGameLeaveReq then s.handleGatewayGameLeaveReq env gw payload
  else if id = PacketId.gatewayGameAttackReq then s.handleGatewayGameAttackReq env order payload
  else if id = PacketId.gatewayGameChatReq then s.handleGatewayGameChatReq env gw order payload
  else s

/-- `worldDispatcher.Dispatch`. -/
def worldDispatch (s : GameContext K σ) (id : UInt16) (payload : List UInt8) :
    GameContext K σ :=
  if id = PacketId.worldGameMonsterBuff then s.handleWorldGameMonsterBuff env payload
  else if id = PacketId.worldGameTokenNotify then s.handleWorldGameTokenNotify env payload
  else s

def step (s : GameContext K σ) : Label K σ → Option (GameContext K σ)
  | .packet gw id payload order => some (s.dispatch env gw id payload order)
  | .gatewayDisconnected gw => some (s.gatewayDisconnected gw)
  | .worldPacket id payload => some (s.worldDispatch env id payload)
  | .aiTick deltaTime order => some (s.aiTick order deltaTime)
  | .pathResult n waypoints =>
      match s.pathTasks[n]? with
      | none => none
      | some task =>
          some ({ s with pathTasks := s.pathTasks.eraseIdx n }.pathResult task waypoints)

/-- What a step can be. -/
inductive Stepped (s : GameContext K σ) : Label K σ → GameContext K σ → Prop where
  | packet (gw : σ) (id : UInt16) (payload : List UInt8) (order : IterationOrder) :
      Stepped s (.packet gw id payload order) (s.dispatch env gw id payload order)
  | gatewayDisconnected (gw : σ) :
      Stepped s (.gatewayDisconnected gw) (s.gatewayDisconnected gw)
  | worldPacket (id : UInt16) (payload : List UInt8) :
      Stepped s (.worldPacket id payload) (s.worldDispatch env id payload)
  | aiTick (deltaTime : K) (order : IterationOrder) :
      Stepped s (.aiTick deltaTime order) (s.aiTick order deltaTime)
  | pathResult {n : Nat} {task : PathTask K} (waypoints : List (Vector3 K))
      (asked : s.pathTasks[n]? = some task) :
      Stepped s (.pathResult n waypoints)
        ({ s with pathTasks := s.pathTasks.eraseIdx n }.pathResult task waypoints)

variable {env}

theorem step_inv {s s' : GameContext K σ} {label : Label K σ} (h : step env s label = some s') :
    Stepped env s label s' := by
  cases label with
  | packet gw id payload order => exact Option.some.inj h ▸ .packet gw id payload order
  | gatewayDisconnected gw => exact Option.some.inj h ▸ .gatewayDisconnected gw
  | worldPacket id payload => exact Option.some.inj h ▸ .worldPacket id payload
  | aiTick deltaTime order => exact Option.some.inj h ▸ .aiTick deltaTime order
  | pathResult n waypoints =>
      simp only [step] at h
      split at h
      · cases h
      · rename_i task hasked
        exact Option.some.inj h ▸ .pathResult waypoints hasked

/-! ## Start -/

/-- The body of the loop of `InitMonsters`. -/
def initMonster (s : GameContext K σ) (data : MonsterSpawn K) : GameContext K σ :=
  { s with
      monsters := s.monsters ++ [Monster.spawn data]
      monsterMap := Function.update s.monsterMap data.monId (some s.monsters.length)
      zone := s.zone.enterZoneMonster data.monId data.x data.y }

def initMonsters (s : GameContext K σ) (spawns : List (MonsterSpawn K)) : GameContext K σ :=
  spawns.foldl initMonster s

/-- The zone that `main` makes. -/
def mapSize : ZoneSize :=
  ⟨GameConstants.Map.width, GameConstants.Map.height, GameConstants.Map.sectorSize⟩

/-- A server that has just started. -/
def start (spawns : List (MonsterSpawn K)) : GameContext K σ :=
  initMonsters { zone := { size := mapSize } } spawns

end GameContext

end MMOServers.GameServer

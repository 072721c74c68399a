/-
MMOServers.GameServer.RedisTheorems — the game server and a Redis that fails.

`redisCalls` lists the calls to `RedisManager` that a task makes, in their
order; `redis` of the game server is what they make of an empty table. Here the
server runs with a `RedisManager` that gets any replies at all: errors, and a
connection that breaks in the middle of a call. The server does not look at what
the calls return and never connects again. The store may have entries of an
earlier server in the beginning, and nobody else writes to it.
-/
import MMOServers.Common.RedisManager
import MMOServers.GameServer.MirrorTheorems
import MMOServers.GameServer.Whereabouts

namespace MMOServers.GameServer

open MMOServers.Common Transition

namespace GameContext

/-! ## The calls of a task -/

section Requests

variable {F σ : Type}

def handleGatewayGameMoveReqRedis (env : GameEnv F) (s : GameContext F σ)
    (payload : List UInt8) : List RedisCall :=
  match env.parseMoveReq payload with
  | none => []
  | some req =>
      match s.playerMap req.accountId with
      | some _ => []
      | none => [.setPlayerOnline req.accountId GameConstants.Player.defaultHp]

def handleGatewayGameLeaveReqRedis (env : GameEnv F) (s : GameContext F σ)
    (payload : List UInt8) : List RedisCall :=
  match env.parseLeaveReq payload with
  | none => []
  | some req =>
      match s.playerMap req.accountId with
      | none => []
      | some _ => [.removePlayer req.accountId]

variable [IntCast F] [Div F] [LT F] [LE F] [DecidableLT F] [DecidableLE F] [TruncInt F]

def removePlayersRedis (s : GameContext F σ) : List String → List RedisCall
  | [] => []
  | accId :: rest =>
      match s.playerMap accId with
      | none => s.removePlayersRedis rest
      | some p => .removePlayer accId :: (s.removePlayer accId p).removePlayersRedis rest

end Requests

section Attacks

variable {K σ : Type} [Field K] [LinearOrder K] [FloorRing K]

def attackPlayerRedis (s : GameContext K σ) (targetUid : Nat) (damage : Int) : List RedisCall :=
  match s.playerOf targetUid with
  | none => []
  | some (accId, p) =>
      let p := p.takeDamage damage
      .updatePlayerHp accId p.hp ::
        if p.hp ≤ 0 then [.updatePlayerHp accId GameConstants.Player.defaultHp] else []

def performRedis (s : GameContext K σ) (order : IterationOrder) (i : Nat) :
    List (MonsterCall K) → List RedisCall
  | [] => []
  | .findPath request :: calls =>
      let task : PathTask K := ⟨i, request⟩
      { s with pathTasks := s.pathTasks ++ [task] }.performRedis order i calls
  | .attack attackerId targetId damage :: calls =>
      s.attackPlayerRedis targetId damage ++
        (s.attackPlayer order attackerId targetId damage).performRedis order i calls

variable [HasSqrt K]

def tickMonsterRedis (order : IterationOrder) (deltaTime : K) (s : GameContext K σ) (i : Nat) :
    List RedisCall :=
  match s.monsters[i]? with
  | none => []
  | some m =>
      if m.state = .dead then []
      else
        let (m, calls) := s.processMonster order m m.position.x m.position.y
        let s := s.setMonster i m
        let s' := s.perform order i calls
        let (m, more) := m.update deltaTime
        s.performRedis order i calls ++ (s'.setMonster i m).performRedis order i more

def aiTickRedis (s : GameContext K σ) (order : IterationOrder) (deltaTime : K) :
    List RedisCall :=
  (List.range s.monsters.length).flatMap fun i =>
    tickMonsterRedis order deltaTime (s.atPass order deltaTime i) i

def redisCalls (env : GameEnv K) (s : GameContext K σ) : Label K σ → List RedisCall
  | .packet _ id payload _ =>
      if id = PacketId.gatewayGameMoveReq then s.handleGatewayGameMoveReqRedis env payload
      else if id = PacketId.gatewayGameLeaveReq then s.handleGatewayGameLeaveReqRedis env payload
      else []
  | .gatewayDisconnected gw => s.removePlayersRedis (s.gatewayPlayerMap gw)
  | .worldPacket _ _ => []
  | .aiTick deltaTime order => s.aiTickRedis order deltaTime
  | .pathResult _ _ => []

/-! ## What they make of the table -/

/-- The table is what the calls have made of it. -/
def Wrote (s s' : GameContext K σ) (calls : List RedisCall) : Prop :=
  s'.redis = calls.foldl RedisCall.apply s.redis

omit [Field K] [LinearOrder K] [FloorRing K] [HasSqrt K] in
theorem Wrote.trans {s₁ s₂ s₃ : GameContext K σ} {calls more : List RedisCall}
    (h : Wrote s₁ s₂ calls) (h' : Wrote s₂ s₃ more) : Wrote s₁ s₃ (calls ++ more) := by
  rw [Wrote, List.foldl_append, ← h, h']

omit [HasSqrt K] in
theorem attackPlayer_wrote (s : GameContext K σ) (order : IterationOrder)
    (attackerUid targetUid : Nat) (damage : Int) :
    Wrote s (s.attackPlayer order attackerUid targetUid damage)
      (s.attackPlayerRedis targetUid damage) := by
  unfold attackPlayer attackPlayerRedis Wrote
  cases s.playerOf targetUid with
  | none => rfl
  | some found =>
      dsimp only
      split
      · rfl
      · rfl

omit [HasSqrt K] in
theorem perform_wrote (s : GameContext K σ) (order : IterationOrder) (i : Nat)
    (calls : List (MonsterCall K)) :
    Wrote s (s.perform order i calls) (s.performRedis order i calls) := by
  induction calls generalizing s with
  | nil => rfl
  | cons call calls ih =>
      cases call with
      | findPath request => exact ih { s with pathTasks := s.pathTasks ++ [⟨i, request⟩] }
      | attack attackerId targetId damage =>
          exact (attackPlayer_wrote s order attackerId targetId damage).trans (ih _)

theorem tickMonster_wrote (order : IterationOrder) (deltaTime : K) (s : GameContext K σ)
    (i : Nat) :
    Wrote s (tickMonster order deltaTime s i) (tickMonsterRedis order deltaTime s i) := by
  unfold tickMonster tickMonsterRedis
  cases s.monsters[i]? with
  | none => rfl
  | some m =>
      dsimp only
      split
      · unfold processDeadMonster
        dsimp only
        repeat' split
        all_goals rfl
      · generalize s.processMonster order m m.position.x m.position.y = r
        have hsync : ∀ (s : GameContext K σ) (m' : Monster K),
            (s.syncMonsterPosition order m' m.position.x m.position.y deltaTime).redis
              = s.redis := by
          intro s m'
          unfold syncMonsterPosition
          dsimp only
          repeat' split
          all_goals rfl
        have haims := perform_wrote (s.setMonster i r.1) order i r.2
        have hmoves := perform_wrote
          (((s.setMonster i r.1).perform order i r.2).setMonster i (r.1.update deltaTime).1)
          order i (r.1.update deltaTime).2
        rw [Wrote, hsync]
        exact Wrote.trans haims hmoves

theorem aiTick_wrote (s : GameContext K σ) (order : IterationOrder) (deltaTime : K) :
    Wrote s (s.aiTick order deltaTime) (s.aiTickRedis order deltaTime) := by
  have hpass : ∀ n, Wrote s (s.atPass order deltaTime n) ((List.range n).flatMap fun i =>
      tickMonsterRedis order deltaTime (s.atPass order deltaTime i) i) := by
    intro n
    induction n with
    | zero => rfl
    | succ i ih =>
        rw [atPass_succ, List.range_succ, List.flatMap_append]
        refine ih.trans ?_
        simpa using tickMonster_wrote order deltaTime (s.atPass order deltaTime i) i
  exact hpass s.monsters.length

omit [HasSqrt K] in
theorem removePlayers_wrote (s : GameContext K σ) (accIds : List String) :
    Wrote s (s.removePlayers accIds) (s.removePlayersRedis accIds) := by
  induction accIds generalizing s with
  | nil => rfl
  | cons accId rest ih =>
      unfold removePlayers removePlayersRedis
      cases s.playerMap accId with
      | none => exact ih s
      | some p => exact ih (s.removePlayer accId p)

/-- A task makes the calls that the table stands for. -/
theorem step_wrote [DecidableEq σ] {env : GameEnv K} {s s' : GameContext K σ}
    {label : Label K σ} (hstep : step env s label = some s') :
    Wrote s s' (s.redisCalls env label) := by
  cases step_inv hstep with
  | packet gw id payload order =>
      simp only [dispatch, redisCalls]
      split
      · unfold handleGatewayGameMoveReq handleGatewayGameMoveReqRedis
        cases env.parseMoveReq payload with
        | none => rfl
        | some req =>
            dsimp only
            cases s.playerMap req.accountId with
            | some p => rfl
            | none => rfl
      · split
        · unfold handleGatewayGameLeaveReq handleGatewayGameLeaveReqRedis
          cases env.parseLeaveReq payload with
          | none => rfl
          | some req =>
              dsimp only
              cases s.playerMap req.accountId with
              | none => rfl
              | some p => rfl
        · unfold handleGatewayGameAttackReq handleGatewayGameChatReq
          dsimp only
          repeat' split
          all_goals rfl
  | gatewayDisconnected gw => exact removePlayers_wrote s (s.gatewayPlayerMap gw)
  | worldPacket id payload =>
      unfold worldDispatch handleWorldGameMonsterBuff handleWorldGameTokenNotify
      repeat' split
      all_goals rfl
  | aiTick deltaTime order => exact aiTick_wrote s order deltaTime
  | pathResult waypoints asked =>
      unfold pathResult
      split
      all_goals rfl

omit [HasSqrt K] in
theorem start_mirrored (spawns : List (MonsterSpawn K)) :
    (start spawns : GameContext K σ).Mirrored := by
  obtain ⟨hplayers, hredis⟩ := start_tables (σ := σ) spawns
  constructor
  · intro accId
    rw [hplayers, hredis]
    rfl
  · intro accId p hp
    rw [hplayers] at hp
    cases hp

end Attacks

end GameContext

/-! ## The server with its mirror -/

structure RedisMirror (K σ S : Type) where
  game : GameContext K σ
  log : RedisLog S

/-- A task, with the replies to the commands of its calls. -/
structure RepliedTask (K σ : Type) where
  label : GameContext.Label K σ
  replies : Nat → RedisReply × RedisReply

namespace RedisMirror

open RedisManager

variable {K σ S : Type} [Field K] [LinearOrder K] [FloorRing K] [HasSqrt K] [DecidableEq σ]
  {server : RedisServer S}

def step (env : GameEnv K) (server : RedisServer S) (s : RedisMirror K σ S)
    (task : RepliedTask K σ) : Option (RedisMirror K σ S) :=
  match GameContext.step env s.game task.label with
  | none => none
  | some game => some ⟨game, s.log.calls server (s.game.redisCalls env task.label) task.replies⟩

/-- The server has connected, or has given it up. -/
def start (spawns : List (MonsterSpawn K)) (connected : Bool) (store : S) :
    RedisMirror K σ S :=
  ⟨GameContext.start spawns, { manager := ⟨connected, store⟩ }⟩

/-- What can be said about the store. -/
structure Truthful (server : RedisServer S) (s : RedisMirror K σ S) : Prop where
  /-- Where the last call returned true there are the hit points of the player, or
      nothing when it is offline. -/
  shown : ∀ accId, s.log.last (playerKey accId) = some (accId, true) →
    HasEntry server s.log.manager.store accId ((s.game.playerMap accId).map (·.hp))
  /-- As long as no call fails every player is there, unless another account has its key. -/
  complete : s.log.failed = false → ∀ accId p, s.game.playerMap accId = some p →
    HasEntry server s.log.manager.store accId (some p.hp) ∨
      ∃ other, other ≠ accId ∧ playerKey other = playerKey accId ∧
        s.log.last (playerKey accId) = some (other, true)
  /-- After the connection is lost the store is never written again. -/
  frozen : ∀ store, s.log.lost = some store →
    s.log.manager.connected = false ∧ s.log.manager.store = store

omit [Field K] [LinearOrder K] [FloorRing K] [HasSqrt K] [DecidableEq σ] in
theorem truthful_of_tells {s : RedisMirror K σ S} (hlog : s.log.Tells server s.game.redis)
    (hgame : s.game.Mirrored) : s.Truthful server where
  shown accId hlast := by
    rw [← hgame.exact accId]
    exact hlog.shown accId hlast
  complete hfailed accId p hp := by
    have hredis : s.game.redis accId = some p.hp := by rw [hgame.exact accId, hp, Option.map_some]
    obtain ⟨⟨other, ok⟩, hlast⟩ := hlog.called accId p.hp hredis
    have hok : ok = true := hlog.returned hfailed _ _ hlast
    have hkey : playerKey other = playerKey accId := (hlog.keyed _ _ hlast).symm
    subst hok
    by_cases hother : other = accId
    · subst hother
      exact Or.inl (hredis ▸ hlog.shown other hlast)
    · exact Or.inr ⟨other, hother, hkey, hlast⟩
  frozen := hlog.frozen

/-- In every run of the server, whatever Redis answers and whatever was in the store
    before. -/
theorem redis_truthful (env : GameEnv K) (hserver : server.Documented)
    (spawns : List (MonsterSpawn K)) (connected : Bool) (store : S)
    (tasks : List (RepliedTask K σ)) :
    Always (step env server) (Truthful server) (start spawns connected store) tasks := by
  have hinv : Always (step env server) (fun s => s.log.Tells server s.game.redis ∧
      s.game.Mirrored ∧ GameContext.Bred spawns s.game)
      (start spawns connected store : RedisMirror K σ S) tasks := by
    refine always_of_meets ?_ ⟨?_, GameContext.start_mirrored spawns,
      GameContext.start_bred spawns⟩ meets_true
    · intro s task s' ⟨hlog, hgame, hbred⟩ _ hstep
      unfold step at hstep
      split at hstep
      · cases hstep
      · rename_i game hgamestep
        cases hstep
        refine ⟨?_, GameContext.step_mirrored hgame hbred hgamestep,
          GameContext.step_bred hbred hgamestep⟩
        show RedisLog.Tells server _ game.redis
        rw [GameContext.step_wrote hgamestep]
        exact RedisLog.calls_tells hserver hlog _ task.replies
    · show RedisLog.Tells server _ (GameContext.start spawns : GameContext K σ).redis
      rw [(GameContext.start_tables spawns).2]
      exact RedisLog.tells_nil server ⟨connected, store⟩
  exact hinv.imp fun s hs => truthful_of_tells hs.1 hs.2.1

/-- "a" comes and goes, and the connection breaks when it is to be removed. -/
def visit : List (RepliedTask ℚ Nat) :=
  [⟨.packet 0 PacketId.gatewayGameMoveReq [10, 1, 97, 21, 0, 0, 32, 65] .listed,
      fun _ => (.answer, .answer)⟩,
    ⟨.packet 0 PacketId.gatewayGameLeaveReq [10, 1, 97] .listed,
      fun _ => (.null false, .answer)⟩]

/-- What is read in the end is what is left of "a". -/
theorem redis_truthful_visit :
    (exec (step .sample .hashes) (start [] true fun _ _ => none) visit).map
        (fun s => (s.log.failed, s.log.manager.store "player:a" "hp")) = some (true, some "100") ∧
      Always (step .sample .hashes) (Truthful .hashes) (start [] true fun _ _ => none) visit :=
  ⟨by decide +kernel, redis_truthful .sample RedisServer.hashes_documented [] true _ visit⟩

end RedisMirror

end MMOServers.GameServer

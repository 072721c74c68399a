/-
MMOServers.GameServer.Whereabouts — where the players can be.

A player is put somewhere by a move request, and by a death, which takes it to
the spawn point. So a predicate that has the spawn point for everybody it has a
place for needs to be looked at for move requests only (`step_whereabouts`).
-/
import MMOServers.GameServer.MirrorTheorems
import MMOServers.GameServer.PlayerTheorems

namespace MMOServers.GameServer

open MMOServers.Common

namespace GameContext

variable {K σ : Type} [Field K] [LinearOrder K] [FloorRing K]

/-! ## Where players can be -/

/-- Every player is at a place that the predicate has for it. -/
def Whereabouts (P : String → K → K → Prop) (s : GameContext K σ) : Prop :=
  ∀ accId p, s.playerMap accId = some p → P accId p.x p.y

variable {P : String → K → K → Prop}

omit [Field K] [LinearOrder K] [FloorRing K] in
theorem Whereabouts.of_players {s s' : GameContext K σ} (h : s.Whereabouts P)
    (heq : s'.playerMap = s.playerMap) : s'.Whereabouts P := by
  intro accId p hp
  exact h accId p (heq ▸ hp)

omit [Field K] [LinearOrder K] [FloorRing K] in
theorem Whereabouts.set {s s' : GameContext K σ} (h : s.Whereabouts P) {a : String}
    {q : PlayerInfo K} (hq : P a q.x q.y)
    (heq : s'.playerMap = Function.update s.playerMap a (some q)) : s'.Whereabouts P := by
  intro b p hp
  rw [heq] at hp
  by_cases hb : b = a
  · subst hb
    rw [Function.update_self, Option.some.injEq] at hp
    exact hp ▸ hq
  · rw [Function.update_of_ne hb] at hp
    exact h b p hp

theorem removePlayer_whereabouts {s : GameContext K σ} (h : s.Whereabouts P) (accId : String)
    (p : PlayerInfo K) : (s.removePlayer accId p).Whereabouts P := by
  intro a q hq
  by_cases ha : a = accId
  · subst ha
    simp [removePlayer] at hq
  · exact h a q ((Function.update_of_ne ha _ _).symm.trans hq)

theorem removePlayers_whereabouts {s : GameContext K σ} (h : s.Whereabouts P)
    (accIds : List String) : (s.removePlayers accIds).Whereabouts P := by
  induction accIds generalizing s with
  | nil => exact h
  | cons accId rest ih =>
      unfold removePlayers
      split
      · exact ih h
      · exact ih (removePlayer_whereabouts h accId _)

section Home

variable (hhome : ∀ accId x y, P accId x y →
  P accId ((GameConstants.Player.spawnX : Int) : K) ((GameConstants.Player.spawnY : Int) : K))
include hhome

/-- An attack leaves a player where it is, or takes it home. -/
theorem attackPlayer_whereabouts {s : GameContext K σ} (h : s.Whereabouts P)
    (order : IterationOrder) (attackerUid targetUid : Nat) (damage : Int) :
    (s.attackPlayer order attackerUid targetUid damage).Whereabouts P := by
  unfold attackPlayer
  split
  · exact h
  · rename_i accId p hplayer
    have hp : P accId p.x p.y := h accId p (playerOf_online hplayer)
    have hhit : (s.setPlayer accId (p.takeDamage damage)).Whereabouts P :=
      h.set (q := p.takeDamage damage) hp rfl
    dsimp only
    split
    · exact hhit.set (a := accId) (q := { p.takeDamage damage with
        hp := GameConstants.Player.defaultHp
        x := ((GameConstants.Player.spawnX : Int) : K)
        y := ((GameConstants.Player.spawnY : Int) : K) }) (hhome accId p.x p.y hp) rfl
    · exact hhit.of_players rfl

theorem aiTick_whereabouts [HasSqrt K] {s : GameContext K σ} (h : s.Whereabouts P)
    (order : IterationOrder) (deltaTime : K) : (s.aiTick order deltaTime).Whereabouts P := by
  refine aiTick_rel (fun s s' => s.Whereabouts P → s'.Whereabouts P) ?_ ?_ ?_ s deltaTime h
  · exact fun h h' hs => h' (h hs)
  · exact fun hkept hs => hs.of_players hkept.playerMap
  · exact fun s attackerUid targetUid damage hs =>
      attackPlayer_whereabouts hhome hs order attackerUid targetUid damage

omit hhome in
theorem dispatch_whereabouts [DecidableEq σ] [HasSqrt K] {env : GameEnv K} {s : GameContext K σ}
    (h : s.Whereabouts P) (gw : σ) (id : UInt16) (payload : List UInt8) (order : IterationOrder)
    (hmove : ∀ req, moveOf env (.packet gw id payload order) = some req → P req.accountId
      (clamp GameConstants.Map.width req.x) (clamp GameConstants.Map.height req.y)) :
    (s.dispatch env gw id payload order).Whereabouts P := by
  unfold dispatch
  split
  · rename_i hid
    unfold handleGatewayGameMoveReq
    cases hreq : env.parseMoveReq payload with
    | none => exact h
    | some req =>
        have hp := hmove req (by rw [moveOf, if_pos hid, hreq])
        dsimp only
        cases s.playerMap req.accountId with
        | some p => exact h.set (q := { p with x := _, y := _ }) hp rfl
        | none =>
            have henter : (s.enterPlayer gw req.accountId (clamp GameConstants.Map.width req.x)
                (clamp GameConstants.Map.height req.y)).2.Whereabouts P :=
              h.set (q := { uid := s.uidCounter, x := _, y := _ }) hp rfl
            exact henter.set (q := { uid := s.uidCounter, x := _, y := _ }) hp rfl
  · split
    · unfold handleGatewayGameLeaveReq
      split
      · exact h
      · split
        · exact h
        · rename_i p hp
          exact (removePlayer_whereabouts h _ p).of_players rfl
    · split
      · exact h.of_players (handleGatewayGameAttackReq_kept s order payload).playerMap
      · split
        · exact h.of_players (handleGatewayGameChatReq_kept s gw order payload).playerMap
        · exact h

/-- No task but a move request takes anybody to a new place, except home. -/
theorem step_whereabouts [DecidableEq σ] [HasSqrt K] {env : GameEnv K} {s s' : GameContext K σ}
    {label : Label K σ} (h : s.Whereabouts P)
    (hmove : ∀ req, moveOf env label = some req → P req.accountId
      (clamp GameConstants.Map.width req.x) (clamp GameConstants.Map.height req.y))
    (hstep : step env s label = some s') : s'.Whereabouts P := by
  cases step_inv hstep with
  | packet gw id payload order => exact dispatch_whereabouts h gw id payload order hmove
  | gatewayDisconnected gw =>
      exact (removePlayers_whereabouts h (s.gatewayPlayerMap gw)).of_players rfl
  | worldPacket id payload =>
      unfold worldDispatch handleWorldGameMonsterBuff handleWorldGameTokenNotify
      repeat' split
      all_goals exact h.of_players rfl
  | aiTick deltaTime order => exact aiTick_whereabouts hhome h order deltaTime
  | pathResult waypoints asked =>
      exact h.of_players (pathResult_kept _ _ waypoints).playerMap

end Home

/-- Nobody is online in the beginning. -/
theorem start_tables (spawns : List (MonsterSpawn K)) :
    (start spawns : GameContext K σ).playerMap = (fun _ => none) ∧
      (start spawns : GameContext K σ).redis = fun _ => none := by
  have hinit : ∀ s : GameContext K σ, (s.initMonsters spawns).playerMap = s.playerMap ∧
      (s.initMonsters spawns).redis = s.redis := by
    unfold initMonsters
    induction spawns with
    | nil => exact fun s => ⟨rfl, rfl⟩
    | cons data rest ih => exact fun s => ih (s.initMonster data)
  exact hinit _

end GameContext

end MMOServers.GameServer

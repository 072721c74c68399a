/-
MMOServers.GameServer.TokenRelay — which tasks send token notices.

A token notice of the world server is sent on to the gateways as it came. It is
the only source: whatever else a task sends is no notice (`step_noNotice`).
-/
import MMOServers.GameServer.PlayerFrames

namespace MMOServers.GameServer

open MMOServers.Common

namespace GameContext

variable {K σ : Type}

section Players

variable [DecidableEq σ] [IntCast K] [Div K] [LT K] [LE K] [DecidableLT K] [DecidableLE K]
  [TruncInt K] {env : GameEnv K}

theorem handleGatewayGameMoveReq_noNotice (s : GameContext K σ) (gw : σ)
    (order : IterationOrder) (payload : List UInt8) :
    NoNotice s (s.handleGatewayGameMoveReq env gw order payload) := by
  unfold handleGatewayGameMoveReq
  split
  · exact .of_eq rfl
  · rename_i req _
    dsimp only
    cases s.playerMap req.accountId with
    | none => exact .of_cons rfl rfl
    | some p => exact .of_cons rfl rfl

theorem handleGatewayGameLeaveReq_noNotice (s : GameContext K σ) (gw : σ)
    (payload : List UInt8) : NoNotice s (s.handleGatewayGameLeaveReq env gw payload) := by
  unfold handleGatewayGameLeaveReq
  repeat' split
  all_goals exact .of_eq rfl

omit [DecidableEq σ] in
theorem removePlayers_noNotice (s : GameContext K σ) (accIds : List String) :
    NoNotice s (s.removePlayers accIds) := by
  induction accIds generalizing s with
  | nil => exact .of_eq rfl
  | cons accId rest ih =>
      unfold removePlayers
      split
      · exact ih s
      · exact NoNotice.trans (.of_eq rfl) (ih _)

theorem gatewayDisconnected_noNotice (s : GameContext K σ) (gw : σ) :
    NoNotice s (s.gatewayDisconnected gw) :=
  (removePlayers_noNotice s _).trans (.of_eq rfl)

end Players

variable [Field K] [LinearOrder K] [FloorRing K] {env : GameEnv K}

/-! ## The AI tick -/

theorem attackPlayer_noNotice (s : GameContext K σ) (order : IterationOrder)
    (attackerUid targetUid : Nat) (damage : Int) :
    NoNotice s (s.attackPlayer order attackerUid targetUid damage) := by
  unfold attackPlayer
  split
  · exact .of_eq rfl
  · dsimp only
    split
    · exact NoNotice.trans (.of_cons rfl rfl) (.of_cons rfl rfl)
    · exact .of_cons rfl rfl

variable [HasSqrt K]

theorem aiTick_noNotice (s : GameContext K σ) (order : IterationOrder) (deltaTime : K) :
    NoNotice s (s.aiTick order deltaTime) :=
  aiTick_rel NoNotice .trans PlayersKept.noNotice
    (fun s => attackPlayer_noNotice s order) s deltaTime

/-! ## Tasks -/

variable [DecidableEq σ]

theorem step_noNotice {s s' : GameContext K σ} {label : Label K σ}
    (hlabel : ∀ id payload, label ≠ .worldPacket id payload)
    (h : step env s label = some s') : NoNotice s s' := by
  cases step_inv h with
  | worldPacket id payload => exact absurd rfl (hlabel id payload)
  | packet gw id payload order =>
      unfold dispatch
      repeat' split
      · exact handleGatewayGameMoveReq_noNotice s gw order payload
      · exact handleGatewayGameLeaveReq_noNotice s gw payload
      · exact (handleGatewayGameAttackReq_kept s order payload).noNotice
      · exact (handleGatewayGameChatReq_kept s gw order payload).noNotice
      · exact .of_eq rfl
  | gatewayDisconnected gw => exact gatewayDisconnected_noNotice s gw
  | aiTick deltaTime order => exact aiTick_noNotice s order deltaTime
  | pathResult waypoints asked =>
      exact (NoNotice.of_eq rfl).trans (pathResult_kept _ _ waypoints).noNotice

/-- The token notice that a packet of the world server is. -/
def noticeOf (env : GameEnv K) (id : UInt16) (payload : List UInt8) : Option TokenNotify :=
  if id = PacketId.worldGameTokenNotify then env.parseTokenNotify payload else none

omit [HasSqrt K] [DecidableEq σ] [LinearOrder K] [FloorRing K] [Field K] in
theorem worldDispatch_sent (s : GameContext K σ) (id : UInt16) (payload : List UInt8) :
    (s.worldDispatch env id payload).sent
      = ((noticeOf env id payload).toList.map fun m => .broadcast (.tokenNotify m)) ++ s.sent := by
  unfold worldDispatch noticeOf handleWorldGameMonsterBuff handleWorldGameTokenNotify
  by_cases hbuff : id = PacketId.worldGameMonsterBuff
  · subst hbuff
    rw [if_pos rfl, if_neg (by decide)]
    split <;> rfl
  · rw [if_neg hbuff]
    by_cases hnotify : id = PacketId.worldGameTokenNotify
    · rw [if_pos hnotify, if_pos hnotify]
      cases env.parseTokenNotify payload <;> rfl
    · rw [if_neg hnotify, if_neg hnotify]
      rfl

end GameContext

end MMOServers.GameServer

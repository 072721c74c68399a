/-
MMOServers.GameServer.PlayerFrames — what leaves the players alone.

Monsters move, die and look for paths, and messages are sent; all of this is of
no matter to the players. `PlayersKept` is the frame of these operations: the
entries, uids, gateways and sectors of the players, and which token notices have
been sent. What else a tick does are the attacks of its monsters, so a relation
that holds across the frames and the attacks holds across the tick
(`aiTick_rel`).
-/
import MMOServers.GameServer.GameContext
import MMOServers.GameServer.ZoneTheorems

namespace MMOServers.GameServer

open MMOServers.Common

/-- The token notice that a message is. -/
def Outgoing.notice {F σ : Type} : Outgoing F σ → Option TokenNotify
  | .send _ (.tokenNotify m) => some m
  | .broadcast (.tokenNotify m) => some m
  | _ => none

namespace GameContext

variable {K σ : Type}

/-! ## Token notices -/

/-- Notices among the messages are old. -/
def NoNotice (s s' : GameContext K σ) : Prop :=
  ∀ o ∈ s'.sent, o.notice ≠ none → o ∈ s.sent

theorem NoNotice.of_eq {s s' : GameContext K σ} (h : s'.sent = s.sent) : NoNotice s s' :=
  fun _ ho _ => h ▸ ho

theorem NoNotice.trans {s₁ s₂ s₃ : GameContext K σ} (h : NoNotice s₁ s₂)
    (h' : NoNotice s₂ s₃) : NoNotice s₁ s₃ :=
  fun o ho hn => h o (h' o ho hn) hn

/-- One message more, which is no notice. -/
theorem NoNotice.of_cons {s s' : GameContext K σ} {o : Outgoing K σ} (ho : o.notice = none)
    (h : s'.sent = o :: s.sent) : NoNotice s s' := by
  intro o' ho' hn
  rw [h] at ho'
  rcases List.mem_cons.mp ho' with rfl | hmem
  · exact absurd ho hn
  · exact hmem

/-! ## The frame -/

/-- Everything about the players is as before, and no token notice was sent. -/
structure PlayersKept (s s' : GameContext K σ) : Prop where
  playerMap : s'.playerMap = s.playerMap
  uidToAccount : s'.uidToAccount = s.uidToAccount
  uidCounter : s'.uidCounter = s.uidCounter
  gatewayPlayerMap : s'.gatewayPlayerMap = s.gatewayPlayerMap
  size : s'.zone.size = s.zone.size
  players : s'.zone.players = s.zone.players
  noNotice : NoNotice s s'

theorem PlayersKept.refl (s : GameContext K σ) : PlayersKept s s :=
  ⟨rfl, rfl, rfl, rfl, rfl, rfl, .of_eq rfl⟩

theorem PlayersKept.trans {s₁ s₂ s₃ : GameContext K σ} (h : PlayersKept s₁ s₂)
    (h' : PlayersKept s₂ s₃) : PlayersKept s₁ s₃ :=
  ⟨h'.playerMap.trans h.playerMap, h'.uidToAccount.trans h.uidToAccount,
    h'.uidCounter.trans h.uidCounter, h'.gatewayPlayerMap.trans h.gatewayPlayerMap,
    h'.size.trans h.size, h'.players.trans h.players, h.noNotice.trans h'.noNotice⟩

theorem setMonster_kept (s : GameContext K σ) (i : Nat) (m : Monster K) :
    PlayersKept s (s.setMonster i m) :=
  ⟨rfl, rfl, rfl, rfl, rfl, rfl, .of_eq rfl⟩

theorem send_kept (s : GameContext K σ) (gw : σ) {m : ToGateway K}
    (hm : (Outgoing.send gw m).notice = none) : PlayersKept s (s.send gw m) :=
  ⟨rfl, rfl, rfl, rfl, rfl, rfl, .of_cons hm rfl⟩

theorem broadcastToGateways_kept (s : GameContext K σ) {m : ToGateway K}
    (hm : (Outgoing.broadcast m : Outgoing K σ).notice = none) :
    PlayersKept s (s.broadcastToGateways m) :=
  ⟨rfl, rfl, rfl, rfl, rfl, rfl, .of_cons hm rfl⟩

/-! ## Monsters -/

variable [Field K] [LinearOrder K] [FloorRing K]

omit [FloorRing K] in
theorem pathResult_kept [HasSqrt K] (s : GameContext K σ) (task : PathTask K)
    (waypoints : List (Vector3 K)) : PlayersKept s (s.pathResult task waypoints) := by
  unfold pathResult
  split
  · exact .refl s
  · exact setMonster_kept s _ _

theorem processDeadMonster_kept (s : GameContext K σ) (order : IterationOrder) (i : Nat)
    (m : Monster K) (deltaTime : K) :
    PlayersKept s (s.processDeadMonster order i m deltaTime) := by
  unfold processDeadMonster
  dsimp only
  split
  · exact setMonster_kept s i _
  · split
    · exact setMonster_kept s i _
    · exact (setMonster_kept s i _).trans (broadcastToGateways_kept _ rfl)

/-- The grid has its monsters apart from its players. -/
theorem syncMonsterPosition_kept (s : GameContext K σ) (order : IterationOrder)
    (m : Monster K) (oldX oldY deltaTime : K) :
    PlayersKept s (s.syncMonsterPosition order m oldX oldY deltaTime) := by
  have hzone : ∀ (newX newY : K) (timers : Nat → Option K), PlayersKept s { s with
      zone := s.zone.updatePositionMonster m.monsterId oldX oldY newX newY
      syncTimers := timers } := by
    intro newX newY timers
    exact ⟨rfl, rfl, rfl, rfl, Zone.updatePositionMonster_size ..,
      Zone.updatePositionMonster_players .., .of_eq rfl⟩
  unfold syncMonsterPosition
  dsimp only
  split
  · exact .refl s
  · split
    · exact hzone _ _ _
    · split
      · exact hzone _ _ _
      · exact (hzone _ _ _).trans (broadcastToGateways_kept _ rfl)

/-! ## Requests -/

theorem handleGatewayGameAttackReq_kept [HasSqrt K] {env : GameEnv K} (s : GameContext K σ)
    (order : IterationOrder) (payload : List UInt8) :
    PlayersKept s (s.handleGatewayGameAttackReq env order payload) := by
  unfold handleGatewayGameAttackReq
  split
  · exact .refl s
  · split
    · exact .refl s
    · dsimp only
      split
      · exact broadcastToGateways_kept s rfl
      · exact (broadcastToGateways_kept s rfl).trans (setMonster_kept _ _ _)

theorem handleGatewayGameChatReq_kept {env : GameEnv K} (s : GameContext K σ) (gw : σ)
    (order : IterationOrder) (payload : List UInt8) :
    PlayersKept s (s.handleGatewayGameChatReq env gw order payload) := by
  unfold handleGatewayGameChatReq
  split
  · exact .refl s
  · split
    · exact .refl s
    · exact send_kept s gw rfl

/-! ## The AI tick -/

section Tick

variable (R : GameContext K σ → GameContext K σ → Prop) {order : IterationOrder}
  (htrans : ∀ {s₁ s₂ s₃}, R s₁ s₂ → R s₂ s₃ → R s₁ s₃)
  (hkept : ∀ {s s'}, PlayersKept s s' → R s s')
  (hattack : ∀ s attackerUid targetUid damage,
    R s (attackPlayer s order attackerUid targetUid damage))

include htrans hkept hattack

theorem perform_rel (s : GameContext K σ) (i : Nat) (calls : List (MonsterCall K)) :
    R s (s.perform order i calls) := by
  induction calls generalizing s with
  | nil => exact hkept (.refl s)
  | cons call calls ih =>
      cases call with
      | findPath request =>
          refine htrans (hkept ?_) (ih _)
          exact ⟨rfl, rfl, rfl, rfl, rfl, rfl, .of_eq rfl⟩
      | attack attackerId targetId damage =>
          exact htrans (hattack s attackerId targetId damage) (ih _)

variable [HasSqrt K]

theorem tickMonster_rel (s : GameContext K σ) (deltaTime : K) (i : Nat) :
    R s (tickMonster order deltaTime s i) := by
  have hperform : ∀ (s : GameContext K σ) (m : Monster K) (calls : List (MonsterCall K)),
      R s ((s.setMonster i m).perform order i calls) :=
    fun s m calls => htrans (hkept (setMonster_kept s i m))
      (perform_rel R htrans hkept hattack _ i calls)
  unfold tickMonster
  split
  · exact hkept (.refl s)
  · split
    · exact hkept (processDeadMonster_kept s order i _ deltaTime)
    · -- what the monster asks for is of no matter
      exact htrans (htrans (hperform s _ _) (hperform _ _ _))
        (hkept (syncMonsterPosition_kept _ order _ _ _ deltaTime))

/-- The monsters of a tick, one after the other. -/
theorem aiTick_rel (s : GameContext K σ) (deltaTime : K) : R s (s.aiTick order deltaTime) := by
  unfold aiTick
  generalize List.range s.monsters.length = is
  induction is generalizing s with
  | nil => exact hkept (.refl s)
  | cons i is ih => exact htrans (tickMonster_rel R htrans hkept hattack s deltaTime i) (ih _)

end Tick

end GameContext

end MMOServers.GameServer

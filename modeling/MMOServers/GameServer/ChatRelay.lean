/-
MMOServers.GameServer.ChatRelay — which tasks send chat lines.

Only a chat request is answered with a chat line: to the session that it came
from, under the account and with the text of the request (`chatReq_sends`).
Whatever else a task sends is no chat line (`step_noChat`). What is said about a
monster is said under the name of a monster (`AboutMonster`).
-/
import MMOServers.GameServer.PlayerFrames
import Std.Data.String.ToNat

namespace MMOServers.GameServer

open MMOServers.Common

/-- The text of a chat line, with the account it is shown under. -/
structure ChatLine where
  accountId : String
  msg : String
  deriving DecidableEq

/-- The chat line that a message is. -/
def ToGateway.chatLine {F : Type} : ToGateway F → Option ChatLine
  | .chatRes m => some ⟨m.accountId, m.msg⟩
  | .moveRes _ => none
  | .attackRes _ => none
  | .tokenNotify _ => none

def Outgoing.chatLine {F σ : Type} : Outgoing F σ → Option ChatLine
  | .send _ m => m.chatLine
  | .broadcast m => m.chatLine

namespace GameContext

variable {K σ : Type}

/-- What has been sent since satisfies the predicate. -/
def Sends (P : Outgoing K σ → Prop) (s s' : GameContext K σ) : Prop :=
  ∃ new, s'.sent = new ++ s.sent ∧ ∀ o ∈ new, P o

section Sends

variable {P : Outgoing K σ → Prop}

theorem Sends.of_eq {s s' : GameContext K σ} (h : s'.sent = s.sent) : Sends P s s' :=
  ⟨[], h, by simp⟩

theorem Sends.of_cons {s s' : GameContext K σ} {o : Outgoing K σ} (ho : P o)
    (h : s'.sent = o :: s.sent) : Sends P s s' :=
  ⟨[o], h, by simpa using ho⟩

theorem Sends.trans {s₁ s₂ s₃ : GameContext K σ} (h : Sends P s₁ s₂) (h' : Sends P s₂ s₃) :
    Sends P s₁ s₃ := by
  obtain ⟨new, hsent, hnew⟩ := h
  obtain ⟨new', hsent', hnew'⟩ := h'
  refine ⟨new' ++ new, by rw [hsent', hsent, List.append_assoc], fun o ho => ?_⟩
  cases List.mem_append.mp ho with
  | inl hmem => exact hnew' o hmem
  | inr hmem => exact hnew o hmem

theorem Sends.imp {Q : Outgoing K σ → Prop} (hPQ : ∀ o, P o → Q o) {s s' : GameContext K σ}
    (h : Sends P s s') : Sends Q s s' := by
  obtain ⟨new, hsent, hnew⟩ := h
  exact ⟨new, hsent, fun o ho => hPQ o (hnew o ho)⟩

end Sends

/-- What has been sent since is no chat line. -/
abbrev NoChat (s s' : GameContext K σ) : Prop := Sends (·.chatLine = none) s s'

/-- Monsters with different ids have different names. -/
theorem monsterName_injective : Function.Injective monsterName := by
  intro m n h
  have hlist := congrArg String.toList h
  simp only [monsterName, String.toList_append, List.append_cancel_left_eq,
    String.toList_inj] at hlist
  exact Nat.repr_inj.mp hlist

/-- The message tells where a monster is. -/
inductive PlacesMonster : Outgoing K σ → Prop where
  | mk {m : GameGatewayMoveRes K} {n : Nat} (named : m.accountId = monsterName n) :
      PlacesMonster (.broadcast (.moveRes m))

/-- The message is about a monster, or about a hit that met nobody. -/
inductive AboutMonster : Outgoing K σ → Prop where
  | place {o : Outgoing K σ} (h : PlacesMonster o) : AboutMonster o
  | hit {m : GameGatewayAttackRes} {n : Nat} (named : m.targetAccountId = monsterName n) :
      AboutMonster (.broadcast (.attackRes m))
  | miss {m : GameGatewayAttackRes} (target : m.targetUid = 0) (named : m.targetAccountId = "") :
      AboutMonster (.broadcast (.attackRes m))

theorem PlacesMonster.noChat {o : Outgoing K σ} (h : PlacesMonster o) : o.chatLine = none := by
  cases h
  rfl

theorem AboutMonster.noChat {o : Outgoing K σ} (h : AboutMonster o) : o.chatLine = none := by
  cases h with
  | place h => exact h.noChat
  | hit named => rfl
  | miss target named => rfl

section Players

variable [DecidableEq σ] [IntCast K] [Div K] [LT K] [LE K] [DecidableLT K] [DecidableLE K]
  [TruncInt K] {env : GameEnv K}

theorem handleGatewayGameMoveReq_noChat (s : GameContext K σ) (gw : σ)
    (order : IterationOrder) (payload : List UInt8) :
    NoChat s (s.handleGatewayGameMoveReq env gw order payload) := by
  unfold handleGatewayGameMoveReq
  split
  · exact .of_eq rfl
  · rename_i req _
    dsimp only
    cases s.playerMap req.accountId with
    | none => exact .of_cons rfl rfl
    | some p => exact .of_cons rfl rfl

theorem handleGatewayGameLeaveReq_noChat (s : GameContext K σ) (gw : σ) (payload : List UInt8) :
    NoChat s (s.handleGatewayGameLeaveReq env gw payload) := by
  unfold handleGatewayGameLeaveReq
  repeat' split
  all_goals exact .of_eq rfl

omit [DecidableEq σ] in
theorem removePlayers_sent (s : GameContext K σ) (accIds : List String) :
    (s.removePlayers accIds).sent = s.sent := by
  induction accIds generalizing s with
  | nil => rfl
  | cons accId rest ih =>
      unfold removePlayers
      split
      · exact ih s
      · exact ih _

omit [DecidableEq σ] in
/-- A chat request is answered at most once. -/
theorem chatReq_sends (s : GameContext K σ) (gw : σ) (order : IterationOrder)
    (payload : List UInt8) :
    (s.handleGatewayGameChatReq env gw order payload).sent = s.sent ∨
      ∃ req targets, env.parseChatReq payload = some req ∧
        (s.handleGatewayGameChatReq env gw order payload).sent
          = .send gw (.chatRes ⟨req.accountId, req.msg, targets⟩) :: s.sent := by
  unfold handleGatewayGameChatReq
  cases env.parseChatReq payload with
  | none => exact Or.inl rfl
  | some req =>
      dsimp only
      cases s.playerMap req.accountId with
      | none => exact Or.inl rfl
      | some p => exact Or.inr ⟨req, _, rfl, rfl⟩

end Players

variable [Field K] [LinearOrder K] [FloorRing K] [HasSqrt K] {env : GameEnv K}

theorem handleGatewayGameAttackReq_sends (s : GameContext K σ) (order : IterationOrder)
    (payload : List UInt8) :
    Sends AboutMonster s (s.handleGatewayGameAttackReq env order payload) := by
  unfold handleGatewayGameAttackReq
  split
  · exact .of_eq rfl
  · split
    · exact .of_eq rfl
    · dsimp only
      split
      · exact .of_cons (.miss rfl rfl) rfl
      · exact .of_cons (.hit rfl) rfl

/-! ## The AI tick -/

omit [HasSqrt K] in
theorem attackPlayer_noChat (s : GameContext K σ) (order : IterationOrder)
    (attackerUid targetUid : Nat) (damage : Int) :
    NoChat s (s.attackPlayer order attackerUid targetUid damage) := by
  unfold attackPlayer
  split
  · exact .of_eq rfl
  · dsimp only
    split
    · exact Sends.trans (.of_cons rfl rfl) (.of_cons rfl rfl)
    · exact .of_cons rfl rfl

omit [HasSqrt K] in
theorem processDeadMonster_sends (s : GameContext K σ) (order : IterationOrder) (i : Nat)
    (m : Monster K) (deltaTime : K) :
    Sends PlacesMonster s (s.processDeadMonster order i m deltaTime) := by
  unfold processDeadMonster
  dsimp only
  split
  · exact .of_eq rfl
  · split
    · exact .of_eq rfl
    · exact .of_cons ⟨rfl⟩ rfl

omit [HasSqrt K] in
theorem syncMonsterPosition_sends (s : GameContext K σ) (order : IterationOrder)
    (m : Monster K) (oldX oldY deltaTime : K) :
    Sends PlacesMonster s (s.syncMonsterPosition order m oldX oldY deltaTime) := by
  unfold syncMonsterPosition
  dsimp only
  repeat' split
  · exact .of_eq rfl
  · exact .of_eq rfl
  · exact .of_eq rfl
  · exact .of_cons ⟨rfl⟩ rfl

section Tick

/-! A tick sends the places of monsters and what the attacks send. -/

variable {P : Outgoing K σ → Prop} {Inv : GameContext K σ → Prop} {order : IterationOrder}
  (hplace : ∀ o, PlacesMonster o → P o) (hkept : ∀ {s s'}, PlayersKept s s' → Inv s → Inv s')
  (hattack : ∀ {s} attackerUid targetUid damage, Inv s →
    Inv (attackPlayer s order attackerUid targetUid damage) ∧
      Sends P s (attackPlayer s order attackerUid targetUid damage))

include hkept hattack

omit [HasSqrt K] in
theorem perform_sends {s : GameContext K σ} (h : Inv s) (i : Nat) (calls : List (MonsterCall K)) :
    Inv (s.perform order i calls) ∧ Sends P s (s.perform order i calls) := by
  induction calls generalizing s with
  | nil => exact ⟨h, .of_eq rfl⟩
  | cons call calls ih =>
      cases call with
      | findPath request =>
          have hasked : PlayersKept s { s with pathTasks := s.pathTasks ++ [⟨i, request⟩] } :=
            ⟨rfl, rfl, rfl, rfl, rfl, rfl, .of_eq rfl⟩
          obtain ⟨hinv, hsent⟩ := ih (hkept hasked h)
          exact ⟨hinv, Sends.trans (.of_eq rfl) hsent⟩
      | attack attackerId targetId damage =>
          obtain ⟨hinv₁, hsent₁⟩ := hattack attackerId targetId damage h
          obtain ⟨hinv₂, hsent₂⟩ := ih hinv₁
          exact ⟨hinv₂, hsent₁.trans hsent₂⟩

include hplace

theorem tickMonster_sends {s : GameContext K σ} (h : Inv s) (deltaTime : K) (i : Nat) :
    Inv (tickMonster order deltaTime s i) ∧ Sends P s (tickMonster order deltaTime s i) := by
  have hperform : ∀ {s : GameContext K σ} (m : Monster K) (calls : List (MonsterCall K)), Inv s →
      Inv ((s.setMonster i m).perform order i calls) ∧
        Sends P s ((s.setMonster i m).perform order i calls) := by
    intro s m calls hs
    obtain ⟨hinv, hsent⟩ := perform_sends hkept hattack (hkept (setMonster_kept s i m) hs) i calls
    exact ⟨hinv, Sends.trans (.of_eq rfl) hsent⟩
  unfold tickMonster
  split
  · exact ⟨h, .of_eq rfl⟩
  · split
    · exact ⟨hkept (processDeadMonster_kept s order i _ deltaTime) h,
        (processDeadMonster_sends s order i _ deltaTime).imp hplace⟩
    · obtain ⟨hinv₁, hsent₁⟩ := hperform _ _ h
      obtain ⟨hinv₂, hsent₂⟩ := hperform _ _ hinv₁
      exact ⟨hkept (syncMonsterPosition_kept _ order _ _ _ deltaTime) hinv₂,
        (hsent₁.trans hsent₂).trans
          ((syncMonsterPosition_sends _ order _ _ _ deltaTime).imp hplace)⟩

theorem aiTick_sends {s : GameContext K σ} (h : Inv s) (deltaTime : K) :
    Inv (s.aiTick order deltaTime) ∧ Sends P s (s.aiTick order deltaTime) := by
  unfold aiTick
  generalize List.range s.monsters.length = is
  induction is generalizing s with
  | nil => exact ⟨h, .of_eq rfl⟩
  | cons i is ih =>
      obtain ⟨hinv₁, hsent₁⟩ := tickMonster_sends hplace hkept hattack h deltaTime i
      obtain ⟨hinv₂, hsent₂⟩ := ih hinv₁
      exact ⟨hinv₂, hsent₁.trans hsent₂⟩

end Tick

theorem aiTick_noChat (s : GameContext K σ) (order : IterationOrder) (deltaTime : K) :
    NoChat s (s.aiTick order deltaTime) := by
  have hattack : ∀ {s : GameContext K σ} (attackerUid targetUid : Nat) (damage : Int), True →
      True ∧ NoChat s (s.attackPlayer order attackerUid targetUid damage) :=
    fun attackerUid targetUid damage _ =>
      ⟨trivial, attackPlayer_noChat _ order attackerUid targetUid damage⟩
  exact (aiTick_sends (fun _ => PlacesMonster.noChat) (fun _ => id) hattack trivial deltaTime).2

/-! ## Tasks -/

variable [DecidableEq σ]

/-- A task that is no packet of a gateway. -/
theorem step_noChat {s s' : GameContext K σ} {label : Label K σ}
    (hlabel : ∀ gw id payload order, label ≠ .packet gw id payload order)
    (h : step env s label = some s') : NoChat s s' := by
  cases step_inv h with
  | packet gw id payload order => exact absurd rfl (hlabel gw id payload order)
  | gatewayDisconnected gw => exact .of_eq (removePlayers_sent s _)
  | worldPacket id payload =>
      unfold worldDispatch handleWorldGameMonsterBuff handleWorldGameTokenNotify
      repeat' split
      · exact .of_eq rfl
      · exact .of_eq rfl
      · exact .of_eq rfl
      · exact .of_cons rfl rfl
      · exact .of_eq rfl
  | aiTick deltaTime order => exact aiTick_noChat s order deltaTime
  | pathResult waypoints asked =>
      unfold pathResult
      split
      · exact .of_eq rfl
      · exact .of_eq rfl

/-- A packet of a gateway other than a chat request. -/
theorem dispatch_noChat {s : GameContext K σ} {gw : σ} {id : UInt16} {payload : List UInt8}
    {order : IterationOrder} (hid : id ≠ PacketId.gatewayGameChatReq) :
    NoChat s (s.dispatch env gw id payload order) := by
  unfold dispatch
  rw [if_neg hid]
  repeat' split
  · exact handleGatewayGameMoveReq_noChat s gw order payload
  · exact handleGatewayGameLeaveReq_noChat s gw payload
  · exact (handleGatewayGameAttackReq_sends s order payload).imp fun _ => AboutMonster.noChat
  · exact .of_eq rfl

end GameContext

end MMOServers.GameServer

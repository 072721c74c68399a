/-
MMOServers.GameServer.PlayerTheorems — the sectors agree with the players.

`SectorsAgree` is what the player sets of the grid are for: every online player
is in exactly the sector that contains its position, and no set has anybody
else. Every task changes the roster of the server (`roster`) in one of the ways
of `MMOServers.GameServer.Roster`, so the results there carry over.

The move handler clamps a coordinate to at most the width of the map, and
`GetSectorIndex` takes only what is less. A move to the right or the upper edge
therefore puts its player where there is no sector. On the runs whose moves all
stay inside, the sectors agree in every state, provided every first move draws a
uid that is not in use; and among the runs with such uids there are no others
(`sectorsAgree_iff_movesInside`). Uids are such until the counter has wrapped
around (`meets_freshUid`).
-/
import MMOServers.GameServer.PlayerFrames
import MMOServers.GameServer.Roster
import MMOServers.Lib.Run

namespace MMOServers.GameServer

open MMOServers.Common Cells Transition

def PlayerInfo.place {K : Type} (p : PlayerInfo K) : Place K := ⟨p.uid, p.x, p.y⟩

namespace GameContext

variable {K σ : Type}

/-! ## The roster of a server -/

/-- Who is online, and where. -/
def roster (s : GameContext K σ) : Roster K where
  size := s.zone.size
  next := s.uidCounter
  players := Option.map PlayerInfo.place ∘ s.playerMap
  accounts := s.uidToAccount
  cells := s.zone.players

theorem PlayersKept.roster {s s' : GameContext K σ} (h : PlayersKept s s') :
    s'.roster = s.roster := by
  simp only [GameContext.roster, h.size, h.uidCounter, h.playerMap, h.uidToAccount, h.players]

theorem roster_player {s : GameContext K σ} {accId : String} {p : PlayerInfo K}
    (hp : s.playerMap accId = some p) : s.roster.players accId = some p.place := by
  simp [roster, hp]

theorem roster_newPlayer {s : GameContext K σ} {accId : String} :
    s.roster.players accId = none ↔ s.playerMap accId = none := by
  simp [roster]

/-- A change of what is no part of a place is none of the roster. -/
theorem roster_setPlayer {s : GameContext K σ} {accId : String} {p q : PlayerInfo K}
    (hp : s.playerMap accId = some p) (hq : q.place = p.place) :
    (s.setPlayer accId q).roster = s.roster := by
  have hplayers : Option.map PlayerInfo.place ∘ Function.update s.playerMap accId (some q)
      = Option.map PlayerInfo.place ∘ s.playerMap := by
    rw [Function.comp_update, Option.map_some, hq, Function.update_eq_self_iff]
    simp [hp]
  simp only [roster, setPlayer, hplayers]

variable [Field K] [LinearOrder K] [FloorRing K]

theorem roster_movePlayer (s : GameContext K σ) (accId : String) (p : PlayerInfo K) (x y : K) :
    (s.movePlayer accId p x y).roster = s.roster.move accId p.place x y := by
  simp only [roster, movePlayer, setPlayer, Roster.move, Zone.updatePosition_size,
    Zone.updatePosition_players, Function.comp_update]
  rfl

theorem roster_removePlayer (s : GameContext K σ) (accId : String) (p : PlayerInfo K) :
    (s.removePlayer accId p).roster = s.roster.leave accId p.place := by
  simp only [roster, removePlayer, Roster.leave, Zone.leaveZone_size, Zone.leaveZone_players,
    Function.comp_update]
  rfl

theorem roster_enterPlayer [DecidableEq σ] (s : GameContext K σ) (gw : σ) (accId : String)
    (x y : K) :
    (s.enterPlayer gw accId x y).2.roster = s.roster.enter accId ⟨s.uidCounter, x, y⟩ := by
  simp only [roster, enterPlayer, Roster.enter, Zone.enterZone_size, Zone.enterZone_players,
    Function.comp_update]
  rfl

/-! ## Tasks without a move request -/

/-- The roster drifts: accounts leave or are sent to the spawn point. -/
abbrev Drifts (s s' : GameContext K σ) : Prop :=
  Roster.Drifts (GameConstants.Player.spawnX : K) (GameConstants.Player.spawnY : K)
    s.roster s'.roster

theorem drifts_of_eq {s s' : GameContext K σ} (h : s'.roster = s.roster) : Drifts s s' := by
  unfold Drifts
  rw [h]
  exact .refl

theorem removePlayer_drifts {s : GameContext K σ} {accId : String} {p : PlayerInfo K}
    (hp : s.playerMap accId = some p) : Drifts s (s.removePlayer accId p) := by
  unfold Drifts
  rw [roster_removePlayer]
  exact Roster.Drifts.refl.leave (roster_player hp)

theorem removePlayers_drifts (s : GameContext K σ) (accIds : List String) :
    Drifts s (s.removePlayers accIds) := by
  induction accIds generalizing s with
  | nil => exact .refl
  | cons accId rest ih =>
      unfold removePlayers
      split
      · exact ih s
      · rename_i p hp
        exact (removePlayer_drifts hp).trans (ih _)

theorem respawnPlayer_roster (s : GameContext K σ) (accId : String) (p : PlayerInfo K) :
    (s.respawnPlayer accId p.uid p).roster = s.roster.move accId p.place
      (GameConstants.Player.spawnX : K) (GameConstants.Player.spawnY : K) := by
  simp only [respawnPlayer, roster, setPlayer, setRedisHp, broadcastToGateways, Roster.move,
    Zone.updatePosition_size, Zone.updatePosition_players, Function.comp_update]
  rfl

omit [Field K] [LinearOrder K] [FloorRing K] in
/-- A uid is the key of the player that carries it. -/
theorem playerOf_eq_some {s : GameContext K σ} (hl : s.roster.Linked) {uid : Nat}
    {accId : String} {p : PlayerInfo K} (h : s.playerOf uid = some (accId, p)) :
    s.playerMap accId = some p ∧ p.uid = uid := by
  obtain ⟨a, hacc, hmap⟩ := Option.bind_eq_some_iff.mp h
  obtain ⟨q, hq, heq⟩ := Option.map_eq_some_iff.mp hmap
  rw [Prod.mk.injEq] at heq
  obtain ⟨rfl, rfl⟩ := heq
  obtain ⟨place, hplace, huid⟩ := (hl uid a).mp hacc
  rw [roster_player hq, Option.some.injEq] at hplace
  subst hplace
  exact ⟨hq, huid⟩

theorem attackPlayer_drifts {s : GameContext K σ} (hl : s.roster.Linked)
    (order : IterationOrder) (attackerUid targetUid : Nat) (damage : Int) :
    Drifts s (s.attackPlayer order attackerUid targetUid damage) := by
  unfold attackPlayer
  split
  · exact .refl
  · rename_i accId p hplayer
    obtain ⟨hp, rfl⟩ := playerOf_eq_some hl hplayer
    have hhit : (s.setPlayer accId (p.takeDamage damage)).roster = s.roster :=
      roster_setPlayer hp rfl
    dsimp only
    split
    · unfold Drifts
      rw [show p.uid = (p.takeDamage damage).uid from rfl, respawnPlayer_roster]
      show Roster.Drifts _ _ _ ((s.setPlayer accId (p.takeDamage damage)).roster.move _ _ _ _)
      rw [hhit]
      exact Roster.Drifts.refl.home (p := p.place) (roster_player hp)
    · exact drifts_of_eq hhit

/-! ## The AI tick -/

variable [HasSqrt K]

theorem aiTick_drifts {s : GameContext K σ} (hl : s.roster.Linked) (order : IterationOrder)
    (deltaTime : K) : Drifts s (s.aiTick order deltaTime) := by
  refine aiTick_rel (fun s s' => s.roster.Linked → Drifts s s') ?_ ?_ ?_ s deltaTime hl
  · exact fun h h' hl => (h hl).trans (h' ((h hl).linked hl))
  · exact fun hkept _ => drifts_of_eq hkept.roster
  · exact fun s attackerUid targetUid damage hl =>
      attackPlayer_drifts hl order attackerUid targetUid damage

/-! ## Tasks -/

variable [DecidableEq σ] {env : GameEnv K}

omit [HasSqrt K] in
theorem handleGatewayGameMoveReq_roster {s : GameContext K σ} (gw : σ)
    (order : IterationOrder) {payload : List UInt8} {req : GatewayGameMoveReq K}
    (hreq : env.parseMoveReq payload = some req) :
    (s.handleGatewayGameMoveReq env gw order payload).roster =
      s.roster.moveTo req.accountId
        (clamp GameConstants.Map.width req.x) (clamp GameConstants.Map.height req.y) := by
  simp only [handleGatewayGameMoveReq, hreq, Roster.moveTo]
  cases hp : s.playerMap req.accountId with
  | some p =>
      rw [roster_player hp]
      exact roster_movePlayer s req.accountId p _ _
  | none =>
      rw [roster_newPlayer.mpr hp]
      show ((s.enterPlayer gw _ _ _).2.movePlayer _ _ _ _).roster = _
      rw [roster_movePlayer, roster_enterPlayer]
      rfl

omit [HasSqrt K] in
theorem handleGatewayGameLeaveReq_drifts (s : GameContext K σ) (gw : σ)
    (payload : List UInt8) : Drifts s (s.handleGatewayGameLeaveReq env gw payload) := by
  unfold handleGatewayGameLeaveReq
  split
  · exact .refl
  · split
    · exact .refl
    · rename_i p hp
      exact removePlayer_drifts hp

omit [Field K] [LinearOrder K] [FloorRing K] [HasSqrt K] [DecidableEq σ] in
theorem worldDispatch_roster (s : GameContext K σ) (id : UInt16) (payload : List UInt8) :
    (s.worldDispatch env id payload).roster = s.roster := by
  unfold worldDispatch handleWorldGameMonsterBuff handleWorldGameTokenNotify
  repeat' split
  all_goals rfl

/-- The move request that a task handles. -/
def moveOf (env : GameEnv K) : Label K σ → Option (GatewayGameMoveReq K)
  | .packet _ id payload _ =>
      if id = PacketId.gatewayGameMoveReq then env.parseMoveReq payload else none
  | _ => none

theorem dispatch_drifts {s : GameContext K σ} {gw : σ} {id : UInt16} {payload : List UInt8}
    {order : IterationOrder} (hmove : moveOf env (.packet gw id payload order) = none) :
    Drifts s (s.dispatch env gw id payload order) := by
  unfold dispatch
  split
  · rename_i hid
    rw [moveOf, if_pos hid] at hmove
    rw [handleGatewayGameMoveReq, hmove]
    exact .refl
  · split
    · exact handleGatewayGameLeaveReq_drifts s gw payload
    · split
      · exact drifts_of_eq (handleGatewayGameAttackReq_kept s order payload).roster
      · split
        · exact drifts_of_eq (handleGatewayGameChatReq_kept s gw order payload).roster
        · exact .refl

/-- Without a move request the roster drifts. -/
theorem step_drifts {s s' : GameContext K σ} {label : Label K σ} (hl : s.roster.Linked)
    (hmove : moveOf env label = none) (h : step env s label = some s') : Drifts s s' := by
  cases step_inv h with
  | packet gw id payload order => exact dispatch_drifts hmove
  | gatewayDisconnected gw => exact removePlayers_drifts s (s.gatewayPlayerMap gw)
  | worldPacket id payload => exact drifts_of_eq (worldDispatch_roster s id payload)
  | aiTick deltaTime order => exact aiTick_drifts hl order deltaTime
  | pathResult waypoints asked => exact drifts_of_eq (pathResult_kept _ _ waypoints).roster

/-- With one it takes the account of the request to the clamped position. -/
theorem step_moveTo {s s' : GameContext K σ} {label : Label K σ} {req : GatewayGameMoveReq K}
    (hmove : moveOf env label = some req) (h : step env s label = some s') :
    s'.roster = s.roster.moveTo req.accountId
      (clamp GameConstants.Map.width req.x) (clamp GameConstants.Map.height req.y) := by
  cases step_inv h with
  | packet gw id payload order =>
      by_cases hid : id = PacketId.gatewayGameMoveReq
      · rw [moveOf, if_pos hid] at hmove
        rw [dispatch, if_pos hid]
        exact handleGatewayGameMoveReq_roster gw order hmove
      · rw [moveOf, if_neg hid] at hmove
        cases hmove
  | _ => cases hmove

/-! ## The sectors -/

/-- The player sets of the grid have every online player in the sector of its
    position, and nobody else anywhere. -/
structure SectorsAgree (s : GameContext K σ) : Prop where
  tracked : ∀ accId p, s.playerMap accId = some p →
    ∃ k, s.zone.size.Contains k p.x p.y ∧ At s.zone.players p.uid (some k)
  online : ∀ k uid, uid ∈ s.zone.players k → ∃ accId p, s.playerMap accId = some p ∧ p.uid = uid

omit [FloorRing K] [HasSqrt K] [DecidableEq σ] in
theorem sectorsAgree_iff {s : GameContext K σ} : s.SectorsAgree ↔ s.roster.Agree := by
  have hplayers : ∀ accId q, s.roster.players accId = some q
      ↔ ∃ p, s.playerMap accId = some p ∧ p.place = q := by
    intro accId q
    exact Option.map_eq_some_iff
  constructor
  · rintro ⟨htracked, honline⟩
    refine ⟨fun accId q hq => ?_, fun k uid hmem => ?_⟩
    · obtain ⟨p, hp, rfl⟩ := (hplayers accId q).mp hq
      exact htracked accId p hp
    · obtain ⟨accId, p, hp, huid⟩ := honline k uid hmem
      exact ⟨accId, p.place, roster_player hp, huid⟩
  · rintro ⟨htracked, honline⟩
    refine ⟨fun accId p hp => htracked accId p.place (roster_player hp), fun k uid hmem => ?_⟩
    obtain ⟨accId, q, hq, huid⟩ := honline k uid hmem
    obtain ⟨p, hp, rfl⟩ := (hplayers accId q).mp hq
    exact ⟨accId, p, hp, huid⟩

/-- The uid of a first move is not in use. -/
def FreshUid (env : GameEnv K) (s : GameContext K σ) (label : Label K σ) : Prop :=
  ∀ req, moveOf env label = some req → s.playerMap req.accountId = none →
    s.uidToAccount s.uidCounter = none

/-- A move request that is handled stays off the right and the upper edge. -/
def MovesInside (env : GameEnv K) (label : Label K σ) : Prop :=
  ∀ req, moveOf env label = some req →
    req.x < (GameConstants.Map.width : K) ∧ req.y < (GameConstants.Map.height : K)

/-- What holds whatever the moves are. -/
structure PlayersKnown (s : GameContext K σ) : Prop where
  linked : s.roster.Linked
  size : s.zone.size = mapSize

theorem step_playersKnown {s s' : GameContext K σ} {label : Label K σ} (hk : s.PlayersKnown)
    (hfresh : FreshUid env s label) (h : step env s label = some s') : s'.PlayersKnown := by
  cases hmove : moveOf env label with
  | none =>
      have hdrift := step_drifts hk.linked hmove h
      exact ⟨hdrift.linked hk.linked, hdrift.size.trans hk.size⟩
  | some req =>
      have hroster := step_moveTo hmove h
      have hnew : s.roster.players req.accountId = none →
          s.roster.accounts s.uidCounter = none :=
        fun hnone => hfresh req hmove (roster_newPlayer.mp hnone)
      refine ⟨hroster ▸ Roster.moveTo_linked hk.linked hnew _ _, ?_⟩
      show s'.roster.size = mapSize
      rw [hroster, Roster.moveTo_size]
      exact hk.size

section Clamp

variable [IsStrictOrderedRing K]

omit [FloorRing K] [HasSqrt K]

theorem clamp_nonneg {bound : Int} (hb : 0 ≤ bound) (v : K) : 0 ≤ clamp bound v := by
  have hb' : (0 : K) ≤ bound := by exact_mod_cast hb
  unfold clamp
  rw [Int.cast_zero]
  dsimp only
  repeat' split
  all_goals first | exact hb' | exact le_rfl | exact not_lt.mp (by assumption)

/-- The clamp leaves a coordinate at the bound, which is off the map. -/
theorem clamp_lt_iff {bound : Int} (hb : 0 < bound) (v : K) :
    clamp bound v < (bound : K) ↔ v < (bound : K) := by
  have hb' : (0 : K) < bound := by exact_mod_cast hb
  unfold clamp
  rw [Int.cast_zero]
  dsimp only
  by_cases hv : v < 0
  · rw [if_pos hv, if_neg (not_lt.mpr hb'.le)]
    exact iff_of_true hb' (hv.trans hb')
  · rw [if_neg hv]
    split
    · rename_i hlt
      exact iff_of_false (lt_irrefl _) (not_lt.mpr hlt.le)
    · rfl

theorem inside_clamp_iff (x y : K) :
    mapSize.Inside (clamp GameConstants.Map.width x) (clamp GameConstants.Map.height y)
      ↔ x < (GameConstants.Map.width : K) ∧ y < (GameConstants.Map.height : K) := by
  have hwidth : 0 < GameConstants.Map.width := by decide
  have hheight : 0 < GameConstants.Map.height := by decide
  unfold ZoneSize.Inside
  show (_ ∧ _ < ((GameConstants.Map.width : Int) : K)) ∧ _ ∧
    _ < ((GameConstants.Map.height : Int) : K) ↔ _
  rw [clamp_lt_iff hwidth, clamp_lt_iff hheight]
  simp only [clamp_nonneg hwidth.le, clamp_nonneg hheight.le, true_and]

theorem inside_spawn : mapSize.Inside (GameConstants.Player.spawnX : K)
    (GameConstants.Player.spawnY : K) := by
  simp [ZoneSize.Inside, mapSize, GameConstants.Player.spawnX, GameConstants.Player.spawnY,
    GameConstants.Map.width, GameConstants.Map.height]

end Clamp

variable [IsStrictOrderedRing K]

/-- A task keeps the sectors right exactly when its move, if it has one, is
    inside. -/
theorem step_sectorsAgree_iff {s s' : GameContext K σ} {label : Label K σ}
    (hk : s.PlayersKnown) (ha : s.SectorsAgree) (hfresh : FreshUid env s label)
    (h : step env s label = some s') : s'.SectorsAgree ↔ MovesInside env label := by
  have hs : 0 < s.roster.size.sectorSize := by
    rw [show s.roster.size = mapSize from hk.size]
    decide
  rw [sectorsAgree_iff]
  cases hmove : moveOf env label with
  | none =>
      refine iff_of_true ?_ fun req hreq => ?_
      · refine (step_drifts hk.linked hmove h).agree hk.linked hs ?_ (sectorsAgree_iff.mp ha)
        rw [show s.roster.size = mapSize from hk.size]
        exact inside_spawn
      · rw [hmove] at hreq
        cases hreq
  | some req =>
      rw [step_moveTo hmove h,
        Roster.moveTo_agree_iff (sectorsAgree_iff.mp ha) hk.linked hs
          fun hnone => hfresh req hmove (roster_newPlayer.mp hnone),
        show s.roster.size = mapSize from hk.size, inside_clamp_iff]
      simp [MovesInside, hmove]

/-! ## Runs -/

omit [HasSqrt K] [DecidableEq σ] [IsStrictOrderedRing K] in
theorem initMonsters_roster (s : GameContext K σ) (spawns : List (MonsterSpawn K)) :
    (s.initMonsters spawns).roster = s.roster := by
  unfold initMonsters
  induction spawns generalizing s with
  | nil => rfl
  | cons data rest ih =>
      rw [List.foldl_cons, ih]
      simp only [roster, initMonster, Zone.enterZoneMonster_size, Zone.enterZoneMonster_players]

omit [HasSqrt K] [DecidableEq σ] [IsStrictOrderedRing K] in
/-- A server starts with nobody online. -/
theorem start_roster (spawns : List (MonsterSpawn K)) :
    (start spawns : GameContext K σ).roster
      = ⟨mapSize, 1, fun _ => none, fun _ => none, fun _ => []⟩ :=
  initMonsters_roster _ spawns

omit [IsStrictOrderedRing K] in
theorem step_unissued {s s' : GameContext K σ} {label : Label K σ} (hk : s.PlayersKnown)
    (hu : s.roster.Unissued) (hnext : s.uidCounter + 1 < 2 ^ 64)
    (h : step env s label = some s') :
    s'.uidCounter ≤ s.uidCounter + 1 ∧ s'.roster.Unissued := by
  cases hmove : moveOf env label with
  | none =>
      have hdrift := step_drifts hk.linked hmove h
      exact ⟨(show s'.roster.next = s.roster.next from hdrift.next).le.trans (Nat.le_succ _),
        hdrift.unissued hu⟩
  | some req =>
      have hmoved := Roster.moveTo_unissued hu hnext req.accountId
        (clamp GameConstants.Map.width req.x) (clamp GameConstants.Map.height req.y)
      rwa [← step_moveTo hmove h] at hmoved

omit [HasSqrt K] [DecidableEq σ] [IsStrictOrderedRing K] in
theorem start_playersKnown (spawns : List (MonsterSpawn K)) :
    (start spawns : GameContext K σ).PlayersKnown := by
  have hstart := start_roster (σ := σ) spawns
  refine ⟨?_, congrArg Roster.size hstart⟩
  rw [hstart]
  intro uid accId
  simp

/-- Among the runs in which every first move draws a uid that is not in use, the
    sectors agree with the players in every state exactly when all moves are
    inside. -/
theorem sectorsAgree_iff_movesInside (spawns : List (MonsterSpawn K))
    (labels : List (Label K σ)) (hfresh : Meets (step env) (FreshUid env) (start spawns) labels) :
    Always (step env) SectorsAgree (start spawns) labels
      ↔ Meets (step env) (fun _ label => MovesInside env label) (start spawns) labels := by
  have hagree : (start spawns : GameContext K σ).SectorsAgree := by
    rw [sectorsAgree_iff, start_roster]
    exact ⟨fun _ _ h => (nomatch h), fun _ _ h => (nomatch h)⟩
  exact always_iff_meets_of_meets (fun hk _ hf _ h => step_playersKnown hk hf h)
    (fun hk ha hf h => step_sectorsAgree_iff hk ha hf h) (start_playersKnown spawns) hagree
    hfresh

/-- A first move of "a", to (10, 0), and the end of its gateway. -/
theorem sectorsAgree_firstMove :
    Always (step .sample) SectorsAgree (start [] : GameContext ℚ Nat)
        [.packet 0 PacketId.gatewayGameMoveReq [10, 1, 97, 21, 0, 0, 32, 65] .listed,
          .gatewayDisconnected 0]
      ↔ Meets (step .sample) (fun _ label => MovesInside .sample label)
          (start [] : GameContext ℚ Nat)
        [.packet 0 PacketId.gatewayGameMoveReq [10, 1, 97, 21, 0, 0, 32, 65] .listed,
          .gatewayDisconnected 0] :=
  sectorsAgree_iff_movesInside [] _
    ⟨fun _ _ _ => rfl, fun _ h => (nomatch h), trivial⟩

/-- A first move of "a", to (1000, 0). -/
theorem sectors_edgeMove :
    ¬ Always (step .sample) SectorsAgree (start [] : GameContext ℚ Nat)
      [.packet 0 PacketId.gatewayGameMoveReq [10, 1, 97, 21, 0, 0, 122, 68] .listed] := by
  intro h
  have hagree := always_iff_exec.mp h _ (List.prefix_refl _) _ rfl
  obtain ⟨k, hk, -⟩ := hagree.tracked "a" { uid := 1, x := 1000, y := 0 } (by decide +kernel)
  exact absurd hk.inside.1 (by decide +kernel)

end GameContext

end MMOServers.GameServer

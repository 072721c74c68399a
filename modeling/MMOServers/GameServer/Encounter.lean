/-
MMOServers.GameServer.Encounter — one monster and one player.

The smallest server on which a chase can go wrong: `Encounter` says what its one
monster is, what path results that waits for, and what it finds under the uid
of its target. Each task has one lemma about what it makes of an encounter, in
exact real arithmetic; what the monster sees and what path it is told are open.

The player stands on the axis of the spawn point, so that distances are
differences.
-/
import MMOServers.GameServer.StrikeTheorems

namespace MMOServers.GameServer

open MMOServers.Common Transition

namespace GameContext

structure Encounter (h : Hunt ℝ) (player : Option (String × PlayerInfo ℝ))
    (s : GameContext ℝ Nat) : Prop where
  monsters : s.monsters = [h.monster]
  tasks : s.pathTasks = h.pending.map fun request => ⟨0, request⟩
  player : s.playerOf 1 = player

variable {h : Hunt ℝ} {player : Option (String × PlayerInfo ℝ)} {s : GameContext ℝ Nat}

theorem Encounter.hunt (hs : Encounter h player s) : s.hunt 0 = some h := by
  have hfilter : (h.pending.map fun request => (⟨0, request⟩ : PathTask ℝ)).filter
      (·.monster = 0) = h.pending.map fun request => ⟨0, request⟩ := by
    rw [List.filter_eq_self]
    intro task htask
    obtain ⟨request, -, rfl⟩ := List.mem_map.mp htask
    simp
  rw [GameContext.hunt, hs.monsters, hs.tasks, hfilter, List.map_map]
  show some (⟨h.monster, h.pending.map id⟩ : Hunt ℝ) = some h
  rw [List.map_id]

/-! ## A tick -/

theorem Encounter.monster (hs : Encounter h player s) : s.monsters[0]? = some h.monster := by
  rw [hs.monsters]
  rfl

/-- A tick in which the monster does not attack. -/
theorem Encounter.tick {m m₁ m₂ : Monster ℝ} {pending : List (PathRequest ℝ)}
    (hs : Encounter ⟨m, pending⟩ player s) (live : m.state ≠ .dead)
    {calls calls' : List (MonsterCall ℝ)} (haim : s.aimOf .listed m = (m₁, calls))
    (hcalm : m₁.state ≠ .attack) {deltaTime : ℝ} (hupdate : m₁.update deltaTime = (m₂, calls')) :
    Encounter ⟨m₂, pending ++ pathRequests calls ++ pathRequests calls'⟩ player
      (s.aiTick .listed deltaTime) := by
  have hm := hs.monster
  have htick : s.aiTick .listed deltaTime = tickMonster .listed deltaTime s 0 := by
    rw [aiTick, hs.monsters]
    rfl
  rw [htick]
  have hquiet : ∀ call ∈ tickCalls .listed deltaTime s 0, call.isAttack = false := by
    rw [tickCalls_live hm live, haim, hupdate]
    intro call hcall
    rcases List.mem_append.mp hcall with hcall | hcall
    · have haims := s.aimOf_aims .listed live
      rw [haim] at haims
      exact haims.quiet call hcall
    · rcases m₁.update_calls deltaTime with hcalls | ⟨hattack, -⟩
      · rw [hupdate] at hcalls
        exact hcalls call hcall
      · exact absurd hattack hcalm
  constructor
  · have hlength := tickMonster_length s .listed deltaTime 0
    have hafter := hunt_monster (tickMonster_live hs.hunt live .listed deltaTime)
    rw [hs.monsters] at hlength
    rw [haim, hupdate] at hafter
    obtain ⟨m, hmonsters⟩ := List.length_eq_one_iff.mp hlength
    rw [hmonsters] at hafter ⊢
    rw [Option.some.inj hafter]
  · rw [tickMonster_atUpdate hm live, (syncMonsterPosition_monsters _ _ _ _ _ _).2,
      (perform_monsters _ _ _ _).2]
    show (perform _ _ _ _).pathTasks ++ _ = _
    rw [(perform_monsters _ _ _ _).2, haim, hupdate]
    show s.pathTasks ++ _ ++ _ = _
    rw [hs.tasks, List.map_append, List.map_append]
  · have hcombat := (tickMonster_combat .listed deltaTime s 0).trans
      (s.perform_quiet .listed 0 hquiet)
    rw [playerOf_congr hcombat, hs.player]

/-- A monster that chases a player who stays where he is. -/
theorem aimOf_keeps {m : Monster ℝ} (chases : m.state = .chase) {accId : String}
    {p : PlayerInfo ℝ} (hplayer : s.playerOf m.targetUserId = some (accId, p))
    (hknown : m.targetLastPos = ⟨p.x, p.y, 0⟩)
    (hnear : distance (p.x - m.position.x) (p.y - m.position.y)
      ≤ GameConstants.Monster.chaseRange) (order : IterationOrder) :
    s.aimOf order m = (m, []) := by
  unfold aimOf processMonster processChaseMonster keepTarget
  rw [chases, hplayer]
  dsimp only
  rw [if_pos hnear, Monster.updateTargetPosition, hknown, sub_self, sub_self, distance_zero,
    if_neg (by norm_num)]

/-- A monster that has lost its target. -/
theorem aimOf_loses {m : Monster ℝ} (chases : m.state = .chase)
    (hplayer : s.playerOf m.targetUserId = none) (order : IterationOrder) :
    s.aimOf order m = m.giveUpChase := by
  unfold aimOf processMonster processChaseMonster keepTarget
  rw [chases, hplayer]

/-- A monster that sees one player. -/
theorem aimOf_sees {m : Monster ℝ} (rests : m.state = .idle) {uid : Nat} {accId : String}
    {p : PlayerInfo ℝ} (order : IterationOrder)
    (haoi : s.zone.getPlayersInAOI order m.position.x m.position.y = [uid])
    (hplayer : s.playerOf uid = some (accId, p))
    (hnear : distance (p.x - m.position.x) (p.y - m.position.y)
      < GameConstants.Monster.aggroRange) :
    s.aimOf order m = m.setTarget uid ⟨p.x, p.y, 0⟩ := by
  unfold aimOf processMonster processIdleMonster
  rw [rests]
  dsimp only
  simp only [haoi, List.findSome?_cons, hplayer, if_pos hnear]

theorem aimOf_returns {m : Monster ℝ} (returns : m.state = .return) (order : IterationOrder) :
    s.aimOf order m = (m, []) := by
  unfold aimOf processMonster
  rw [returns]

/-! ## The other tasks -/

/-- The result of the one path that is waited for. -/
theorem Encounter.answer {m : Monster ℝ} {request : PathRequest ℝ}
    (hs : Encounter ⟨m, [request]⟩ player s) (env : GameEnv ℝ) (waypoints : List (Vector3 ℝ)) :
    ∃ s', step env s (.pathResult 0 waypoints) = some s' ∧
      Encounter ⟨m.applyPath request waypoints, []⟩ player s' := by
  have htask : s.pathTasks[0]? = some ⟨0, request⟩ := by
    rw [hs.tasks]
    rfl
  have hm := hs.monster
  refine ⟨{ s with pathTasks := s.pathTasks.eraseIdx 0 }.setMonster 0
    (m.applyPath request waypoints), ?_, ?_, ?_, hs.player⟩
  · simp only [step, htask, pathResult, hm]
  · show s.monsters.set 0 _ = _
    rw [hs.monsters, List.set_cons_zero]
  · show s.pathTasks.eraseIdx 0 = _
    rw [hs.tasks]
    rfl

/-- The player leaves. -/
theorem Encounter.leave {accId : String} {p : PlayerInfo ℝ}
    (hs : Encounter h (some (accId, p)) s) (huid : p.uid = 1) {env : GameEnv ℝ}
    {payload : List UInt8} (hparse : env.parseLeaveReq payload = some ⟨accId⟩) (gw : Nat)
    (order : IterationOrder) :
    ∃ s', step env s (.packet gw PacketId.gatewayGameLeaveReq payload order) = some s' ∧
      Encounter h none s' := by
  obtain ⟨accId', -, hfound⟩ := Option.bind_eq_some_iff.mp hs.player
  obtain ⟨p', hp, heq⟩ := Option.map_eq_some_iff.mp hfound
  obtain ⟨rfl, rfl⟩ := Prod.mk.inj heq
  refine ⟨_, rfl, ?_⟩
  show Encounter h none (s.handleGatewayGameLeaveReq env gw payload)
  simp only [handleGatewayGameLeaveReq, hparse, hp]
  refine ⟨hs.monsters, hs.tasks, ?_⟩
  show ((Function.update s.uidToAccount p'.uid none) 1).bind _ = none
  rw [huid, Function.update_self, Option.bind_none]

/-! ## How it begins -/

/-- The encoding of the player's messages. -/
noncomputable def encounterEnv (x : ℝ) : GameEnv ℝ where
  parseMoveReq _ := some ⟨"a", x, 0, 0, 0⟩
  parseLeaveReq _ := some ⟨"a"⟩
  parseAttackReq _ := none
  parseChatReq _ := none
  parseMonsterBuffReq _ := none
  parseTokenNotify _ := none

noncomputable def encounterSpawn : MonsterSpawn ℝ := ⟨10001, 0, 0, 20, 60⟩

/-- The player moves to where the monster can see him. -/
noncomputable def enter : Label ℝ Nat :=
  .packet 0 PacketId.gatewayGameMoveReq [] .listed

/-- He leaves. -/
noncomputable def leave : Label ℝ Nat := .packet 0 PacketId.gatewayGameLeaveReq [] .listed

/-- The monster when it has seen him. -/
noncomputable def chasing (x : ℝ) : Monster ℝ :=
  { Monster.spawn encounterSpawn with
      state := .chase
      targetUserId := 1
      targetLastPos := ⟨x, 0, 0⟩
      pathRequestVersion := 1 }

/-- The path it asks for. -/
noncomputable def chaseRequest (x : ℝ) : PathRequest ℝ := ⟨⟨0, 0, 0⟩, ⟨x, 0, 0⟩, 1, .chase⟩

noncomputable def prey (x : ℝ) : PlayerInfo ℝ := { uid := 1, x := x, y := 0 }

theorem near_sector {x : ℝ} (hx : 0 ≤ x ∧ x < 50) :
    mapSize.getSectorIndex x (0 : ℝ) = some (0, 0) := by
  obtain ⟨hlow, hsector⟩ := hx
  have hmap : x < 1000 := by linarith
  refine (ZoneSize.getSectorIndex_eq_some_iff (by decide)).mpr
    ⟨by decide, by decide, ?_, ?_, ?_⟩ <;>
    simp [mapSize, GameConstants.Map.width, GameConstants.Map.height,
      GameConstants.Map.sectorSize, hlow, hmap, hsector]

/-- The player is the only one around the points of the axis in the sector. -/
def AloneOnAxis (s : GameContext ℝ Nat) : Prop :=
  ∀ y : ℝ, 0 ≤ y ∧ y < 50 → s.zone.getPlayersInAOI .listed y 0 = [1]

/-- The player comes. -/
theorem enter_encounter {x : ℝ} (hx : 0 ≤ x ∧ x < 1) :
    ∃ s, step (encounterEnv x) (start [encounterSpawn]) enter = some s ∧
      Encounter ⟨Monster.spawn encounterSpawn, []⟩ (some ("a", prey x)) s ∧ s.AloneOnAxis := by
  have hx₀ := near_sector ⟨hx.1, hx.2.trans (by norm_num)⟩
  obtain ⟨hmonsters, htasks⟩ := start_monsters (σ := Nat) [encounterSpawn]
  have hclamp : clamp GameConstants.Map.width x = x := by
    have hmap : ¬ (1000 : ℝ) < x := by linarith [hx.2]
    simp [clamp, GameConstants.Map.width, not_lt.mpr hx.1, hmap]
  have hclamp₀ : clamp GameConstants.Map.height (0 : ℝ) = 0 := by
    norm_num [clamp, GameConstants.Map.height]
  let s₀ : GameContext ℝ Nat := start [encounterSpawn]
  let zone := s₀.zone.enterZone 1 x (0 : ℝ)
  have hzone₀ : s₀.zone = ({ size := mapSize } : Zone).enterZoneMonster 10001 (0 : ℝ) 0 := rfl
  have hsize₀ : s₀.zone.size = mapSize := by rw [hzone₀, Zone.enterZoneMonster_size]
  have hplayers₀ : s₀.zone.players = fun _ => [] := by
    rw [hzone₀, Zone.enterZoneMonster_players]
    rfl
  -- he stays where he entered
  have hstays : zone.updatePosition 1 x (0 : ℝ) x 0 = zone := by
    have hsize : zone.size = mapSize := by rw [Zone.enterZone_size, hsize₀]
    simp [Zone.updatePosition, Zone.updatePositionCalls, Zone.calls, hsize, hx₀]
  have hplayers : zone.players = Function.update (fun _ => []) (0, 0) [1] := by
    rw [Zone.enterZone_players, hplayers₀, hsize₀, hx₀]
    rfl
  have haoi : ∀ y : ℝ, 0 ≤ y ∧ y < 50 → zone.getPlayersInAOI .listed y 0 = [1] := by
    intro y hy
    have hsize : zone.size = mapSize := by rw [Zone.enterZone_size, hsize₀]
    have hlisted : zone.getPlayersInAOI .listed y 0
        = (mapSize.neighbours (0, 0)).flatMap zone.players := by
      simp only [Zone.getPlayersInAOI, hsize, near_sector hy]
      rfl
    rw [hlisted, hplayers]
    decide
  obtain ⟨res, hmove⟩ : ∃ res, s₀.handleGatewayGameMoveReq (encounterEnv x) 0 .listed []
      = ((s₀.enterPlayer 0 "a" x 0).2.movePlayer "a" (prey x) x 0).send 0 res := by
    have hnew : s₀.playerMap "a" = none := rfl
    simp only [handleGatewayGameMoveReq, encounterEnv, hclamp, hclamp₀, hnew]
    exact ⟨_, rfl⟩
  refine ⟨_, rfl, ?_⟩
  show Encounter _ _ (s₀.handleGatewayGameMoveReq (encounterEnv x) 0 .listed []) ∧
    (s₀.handleGatewayGameMoveReq (encounterEnv x) 0 .listed []).AloneOnAxis
  rw [hmove]
  refine ⟨⟨hmonsters, htasks, ?_⟩, ?_⟩
  · show ((Function.update s₀.uidToAccount 1 (some "a")) 1).bind _ = _
    rw [Function.update_self, Option.bind_some]
    simp only [send, movePlayer, setPlayer, Function.update_self, Option.map_some]
    rfl
  · intro y hy
    show (zone.updatePosition 1 x (0 : ℝ) x 0).getPlayersInAOI _ _ _ = _
    rw [hstays, haoi y hy]

/-- The monster sees him. -/
theorem seen_encounter {x : ℝ} (hx : 0 ≤ x ∧ x < 1) :
    ∃ s, exec (step (encounterEnv x)) (start [encounterSpawn]) [enter, .aiTick 0 .listed]
        = some s ∧
      Encounter ⟨chasing x, [chaseRequest x]⟩ (some ("a", prey x)) s := by
  obtain ⟨s, henter, hs, halone⟩ := enter_encounter hx
  have hrests : (Monster.spawn encounterSpawn : Monster ℝ).state = .idle := rfl
  have hnear : distance ((prey x).x - (Monster.spawn encounterSpawn).position.x)
      ((prey x).y - (Monster.spawn encounterSpawn).position.y)
        < GameConstants.Monster.aggroRange := by
    show distance (x - 0) (0 - 0) < 1
    rw [sub_zero, sub_zero, distance_axis, abs_of_nonneg hx.1]
    exact hx.2
  have haoi : s.zone.getPlayersInAOI .listed (0 : ℝ) 0 = [1] := halone 0 (by norm_num)
  have hsees := aimOf_sees hrests .listed haoi hs.player hnear
  have hcalm : ((Monster.spawn encounterSpawn).setTarget 1
      ⟨(prey x).x, (prey x).y, 0⟩).1.state ≠ .attack := by
    intro hattack
    cases hattack
  have hlive : (Monster.spawn encounterSpawn : Monster ℝ).state ≠ .dead := by
    rw [hrests]
    decide
  exact ⟨_, exec_cons_some.mpr ⟨s, henter, rfl⟩, hs.tick hlive hsees hcalm rfl⟩

/-- The monster on a path to him. -/
noncomputable def onPath (x : ℝ) (path : List (Vector3 ℝ)) : Monster ℝ :=
  { chasing x with currentPath := path, pathIndex := 1 }

/-- The path it asked for arrives. -/
theorem path_encounter {x : ℝ} (hx : 0 ≤ x ∧ x < 1) (second : Vector3 ℝ)
    (rest : List (Vector3 ℝ)) :
    ∃ s, exec (step (encounterEnv x)) (start [encounterSpawn])
        [enter, .aiTick 0 .listed, .pathResult 0 (⟨0, 0, 0⟩ :: second :: rest)] = some s ∧
      Encounter ⟨onPath x (⟨0, 0, 0⟩ :: second :: rest), []⟩ (some ("a", prey x)) s := by
  obtain ⟨s, hseen, hs⟩ := seen_encounter hx
  obtain ⟨s', hanswer, hs'⟩ := hs.answer (encounterEnv x) (⟨0, 0, 0⟩ :: second :: rest)
  have hfirst : distance ((0 : ℝ) - 0) (0 - 0) < GameConstants.AI.waypointEpsilon := by
    rw [sub_self, distance_zero]
    norm_num [GameConstants.AI.waypointEpsilon]
  have happly : (chasing x).applyPath (chaseRequest x) (⟨0, 0, 0⟩ :: second :: rest)
      = onPath x (⟨0, 0, 0⟩ :: second :: rest) := by
    simp only [Monster.applyPath, chasing, chaseRequest, onPath, Monster.spawn, encounterSpawn,
      hfirst]
    simp
  rw [happly] at hs'
  exact ⟨s', exec_append_some.mpr ⟨s, hseen, exec_cons_some.mpr ⟨s', hanswer, rfl⟩⟩, hs'⟩

end GameContext

end MMOServers.GameServer

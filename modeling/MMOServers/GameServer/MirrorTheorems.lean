/-
MMOServers.GameServer.MirrorTheorems — the hit points in the Redis mirror.

`redis` is what `SetPlayerOnline`, `UpdatePlayerHp` and `RemovePlayer` make of an
empty mirror, and it is to be the table of the online players with their hit
points, each between 1 and the full number. The tasks write it in five places.
A fatal attack writes it twice and ends with full hit points, so in between
there is a player with none; the property is one of the states between tasks.

The machine is the server with one label more, an attack of a monster with any
damage that is not negative. The attacks inside a tick are of this kind, since
every monster keeps the attack power it was made with.
-/
import MMOServers.GameServer.TickPass

namespace MMOServers.GameServer

open MMOServers.Common Transition

namespace GameContext

variable {K σ : Type}

/-! ## The property -/

/-- The mirror has the online accounts with their hit points, and no others. -/
structure Mirrored (s : GameContext K σ) : Prop where
  exact : ∀ accId, s.redis accId = (s.playerMap accId).map (·.hp)
  alive : ∀ accId p, s.playerMap accId = some p →
    1 ≤ p.hp ∧ p.hp ≤ GameConstants.Player.defaultHp

theorem Mirrored.of_tables {s s' : GameContext K σ} (h : s.Mirrored)
    (hplayers : s'.playerMap = s.playerMap) (hredis : s'.redis = s.redis) : s'.Mirrored := by
  constructor
  · intro accId
    rw [hplayers, hredis]
    exact h.exact accId
  · intro accId p hp
    rw [hplayers] at hp
    exact h.alive accId p hp

/-- An account comes online or gets other hit points, here and there. -/
theorem Mirrored.set {s s' : GameContext K σ} (h : s.Mirrored) (accId : String)
    {q : PlayerInfo K} (hq : 1 ≤ q.hp ∧ q.hp ≤ GameConstants.Player.defaultHp)
    (hplayers : s'.playerMap = Function.update s.playerMap accId (some q))
    (hredis : s'.redis = Function.update s.redis accId (some q.hp)) : s'.Mirrored := by
  constructor
  · intro a
    rw [hplayers, hredis]
    by_cases ha : a = accId
    · subst ha
      simp
    · simp [ha, h.exact a]
  · intro a p hp
    rw [hplayers] at hp
    by_cases ha : a = accId
    · subst ha
      rw [Function.update_self, Option.some.injEq] at hp
      exact hp ▸ hq
    · rw [Function.update_of_ne ha] at hp
      exact h.alive a p hp

/-- An account goes offline here and there. -/
theorem Mirrored.erase {s s' : GameContext K σ} (h : s.Mirrored) (accId : String)
    (hplayers : s'.playerMap = Function.update s.playerMap accId none)
    (hredis : s'.redis = Function.update s.redis accId none) : s'.Mirrored := by
  constructor
  · intro a
    rw [hplayers, hredis]
    by_cases ha : a = accId
    · subst ha
      simp
    · simp [ha, h.exact a]
  · intro a p hp
    rw [hplayers] at hp
    by_cases ha : a = accId
    · subst ha
      simp at hp
    · rw [Function.update_of_ne ha] at hp
      exact h.alive a p hp

/-! ## Attacks -/

/-- The damage is an `int` and not negative. -/
def Harms (damage : Int) : Prop := 0 ≤ damage ∧ damage < 2 ^ 31

instance (damage : Int) : Decidable (Harms damage) := inferInstanceAs (Decidable (_ ∧ _))

theorem takeDamage_hp {p : PlayerInfo K} (hp : 1 ≤ p.hp ∧ p.hp ≤ GameConstants.Player.defaultHp)
    {damage : Int} (hdamage : Harms damage) : (p.takeDamage damage).hp = max 0 (p.hp - damage) := by
  obtain ⟨hlow, hhigh⟩ := hp
  obtain ⟨hpos, hint⟩ := hdamage
  have hdefault : GameConstants.Player.defaultHp = 100 := rfl
  have hwrap : wrap32 (p.hp - damage) = p.hp - damage := by
    unfold wrap32
    rw [Int.bmod_eq_of_le_mul_two] <;> omega
  simp only [PlayerInfo.takeDamage, hwrap]
  split <;> omega

theorem playerOf_online {s : GameContext K σ} {uid : Nat} {accId : String} {p : PlayerInfo K}
    (h : s.playerOf uid = some (accId, p)) : s.playerMap accId = some p := by
  obtain ⟨accId', -, h⟩ := Option.bind_eq_some_iff.mp h
  obtain ⟨p', hp', heq⟩ := Option.map_eq_some_iff.mp h
  obtain ⟨rfl, rfl⟩ := Prod.mk.inj heq
  exact hp'

variable [Field K] [LinearOrder K] [FloorRing K]

theorem attackPlayer_mirrored {s : GameContext K σ} (hs : s.Mirrored) (order : IterationOrder)
    (attackerUid targetUid : Nat) {damage : Int} (hdamage : Harms damage) :
    (s.attackPlayer order attackerUid targetUid damage).Mirrored := by
  unfold attackPlayer
  split
  · exact hs
  · rename_i accId p hplayer
    have hp := hs.alive accId p (playerOf_online hplayer)
    have hhp := takeDamage_hp hp hdamage
    dsimp only
    split
    · have hfull : 1 ≤ GameConstants.Player.defaultHp := by decide
      -- the second write takes back what the first has set
      refine hs.set accId (q := { p.takeDamage damage with
        hp := GameConstants.Player.defaultHp
        x := ((GameConstants.Player.spawnX : Int) : K)
        y := ((GameConstants.Player.spawnY : Int) : K) }) ⟨hfull, le_refl _⟩ ?_ ?_
      · exact Function.update_idem ..
      · exact Function.update_idem ..
    · rename_i halive
      obtain ⟨hpos, -⟩ := hdamage
      refine hs.set accId ⟨by omega, ?_⟩ rfl rfl
      rw [hhp]
      exact max_le (by decide) (by omega)

/-! ## Ticks -/

/-- Attacks among what is asked for do damage that is not negative. -/
def HarmsAll (calls : List (MonsterCall K)) : Prop :=
  ∀ a t d, .attack a t d ∈ calls → Harms d

theorem perform_mirrored {s : GameContext K σ} (hs : s.Mirrored) (order : IterationOrder) (i : Nat)
    {calls : List (MonsterCall K)} (hcalls : HarmsAll calls) :
    (s.perform order i calls).Mirrored := by
  induction calls generalizing s with
  | nil => exact hs
  | cons call calls ih =>
      have hrest : HarmsAll calls := fun a t d h => hcalls a t d (List.mem_cons_of_mem _ h)
      cases call with
      | findPath request =>
          exact ih (s := { s with pathTasks := s.pathTasks ++ [⟨i, request⟩] })
            (hs.of_tables rfl rfl) hrest
      | attack attackerId targetId damage =>
          have hdamage : Harms damage := hcalls attackerId targetId damage List.mem_cons_self
          exact ih (attackPlayer_mirrored hs order attackerId targetId hdamage) hrest

variable [HasSqrt K]

/-- What a monster asks for does its own attack power. -/
theorem tickCalls_harms {s : GameContext K σ} {i : Nat} {m : Monster K}
    (hm : s.monsters[i]? = some m) (hpower : Harms m.attackPower) (order : IterationOrder)
    (deltaTime : K) : HarmsAll (tickCalls order deltaTime s i) := by
  intro a t d h
  by_cases hdead : m.state = .dead
  · simp [tickCalls, hm, hdead] at h
  · have haims := s.aimOf_aims order hdead
    rw [tickCalls_live hm hdead] at h
    rcases List.mem_append.mp h with h | h
    · cases haims.quiet _ h
    · rcases (s.aimOf order m).1.update_calls deltaTime with hquiet | ⟨-, -, hattack, -⟩
      · cases hquiet _ h
      · rw [hattack] at h
        obtain ⟨-, -, rfl⟩ := MonsterCall.attack.inj (List.mem_singleton.mp h)
        rw [Monster.traits_attackPower haims.traits]
        exact hpower

/-- The monsters do no harm but with the attack power of a new monster. -/
theorem aiTick_mirrored {spawns : List (MonsterSpawn K)} {s : GameContext K σ} (hs : s.Mirrored)
    (hbred : Bred spawns s) (order : IterationOrder) (deltaTime : K) :
    (s.aiTick order deltaTime).Mirrored := by
  have hpass : ∀ n, (s.atPass order deltaTime n).Mirrored := by
    intro n
    induction n with
    | zero => exact hs
    | succ i ih =>
        have hcalls : HarmsAll (tickCalls order deltaTime (s.atPass order deltaTime i) i) := by
          cases hm : (s.atPass order deltaTime i).monsters[i]? with
          | none => simp [tickCalls, hm, HarmsAll]
          | some m =>
              obtain ⟨h, hi, rfl⟩ := exists_hunt hm
              obtain ⟨data, -, htraits⟩ := hbred i h.monster
                (hunt_monster ((s.atPass_hunt order deltaTime i).symm.trans hi))
              refine tickCalls_harms hm ?_ order deltaTime
              rw [Monster.traits_attackPower htraits]
              show Harms GameConstants.Monster.defaultAtk
              decide
        have hcombat := tickMonster_combat order deltaTime (s.atPass order deltaTime i) i
        simp only [combat, Prod.mk.injEq] at hcombat
        rw [atPass_succ]
        exact (perform_mirrored ih order i hcalls).of_tables hcombat.1 hcombat.2.2
  exact hpass s.monsters.length

/-! ## Requests -/

omit [HasSqrt K] in
/-- A first move is online with full hit points, and any move keeps them. -/
theorem handleGatewayGameMoveReq_mirrored [DecidableEq σ] {env : GameEnv K} {s : GameContext K σ}
    (hs : s.Mirrored) (gw : σ) (order : IterationOrder) (payload : List UInt8) :
    (s.handleGatewayGameMoveReq env gw order payload).Mirrored := by
  have hmove : ∀ {s : GameContext K σ} {accId : String} {p : PlayerInfo K} (x y : K),
      s.Mirrored → s.playerMap accId = some p → (s.movePlayer accId p x y).Mirrored := by
    intro s accId p x y hs hp
    refine hs.set accId (q := { p with x := x, y := y }) (hs.alive accId p hp) rfl ?_
    have hsame : s.redis accId = some p.hp := by rw [hs.exact accId, hp, Option.map_some]
    exact (Function.update_eq_self_iff.mpr hsame.symm).symm
  unfold handleGatewayGameMoveReq
  split
  · exact hs
  · rename_i req _
    dsimp only
    cases hp : s.playerMap req.accountId with
    | some p => exact (hmove _ _ hs hp).of_tables rfl rfl
    | none =>
        have hfull : 1 ≤ GameConstants.Player.defaultHp := by decide
        let x := clamp GameConstants.Map.width req.x
        let y := clamp GameConstants.Map.height req.y
        have henter : (s.enterPlayer gw req.accountId x y).2.Mirrored :=
          hs.set req.accountId (q := (s.enterPlayer gw req.accountId x y).1) ⟨hfull, le_refl _⟩
            rfl rfl
        have hentered : (s.enterPlayer gw req.accountId x y).2.playerMap req.accountId
            = some (s.enterPlayer gw req.accountId x y).1 := Function.update_self ..
        exact (hmove x y henter hentered).of_tables rfl rfl

omit [HasSqrt K] in
theorem removePlayer_mirrored {s : GameContext K σ} (hs : s.Mirrored) (accId : String)
    (p : PlayerInfo K) : (s.removePlayer accId p).Mirrored := hs.erase accId rfl rfl

omit [HasSqrt K] in
theorem handleGatewayGameLeaveReq_mirrored [DecidableEq σ] {env : GameEnv K}
    {s : GameContext K σ} (hs : s.Mirrored) (gw : σ) (payload : List UInt8) :
    (s.handleGatewayGameLeaveReq env gw payload).Mirrored := by
  unfold handleGatewayGameLeaveReq
  cases env.parseLeaveReq payload with
  | none => exact hs
  | some req =>
      dsimp only
      cases s.playerMap req.accountId with
      | none => exact hs
      | some p => exact (removePlayer_mirrored hs req.accountId p).of_tables rfl rfl

omit [HasSqrt K] in
/-- The loop over the accounts of a gateway. -/
theorem removePlayers_mirrored {s : GameContext K σ} (hs : s.Mirrored) (accIds : List String) :
    (s.removePlayers accIds).Mirrored := by
  induction accIds generalizing s with
  | nil => exact hs
  | cons accId rest ih =>
      unfold removePlayers
      split
      · exact ih hs
      · exact ih (removePlayer_mirrored hs accId _)

/-! ## Tasks -/

inductive Task (K σ : Type) where
  | task (label : Label K σ)
  | attack (order : IterationOrder) (attackerUid targetUid : Nat) (damage : Int)

/-- The server with attacks of any damage that is not negative. -/
def taskStep [DecidableEq σ] (env : GameEnv K) (s : GameContext K σ) :
    Task K σ → Option (GameContext K σ)
  | .task label => step env s label
  | .attack order attackerUid targetUid damage =>
      if Harms damage then some (s.attackPlayer order attackerUid targetUid damage) else none

theorem step_mirrored [DecidableEq σ] {env : GameEnv K} {spawns : List (MonsterSpawn K)}
    {s s' : GameContext K σ} {label : Label K σ} (hs : s.Mirrored) (hbred : Bred spawns s)
    (hstep : step env s label = some s') : s'.Mirrored := by
  cases step_inv hstep with
  | packet gw id payload order =>
      unfold dispatch
      repeat' split
      · exact handleGatewayGameMoveReq_mirrored hs gw order payload
      · exact handleGatewayGameLeaveReq_mirrored hs gw payload
      · unfold handleGatewayGameAttackReq
        dsimp only
        repeat' split
        all_goals exact hs.of_tables rfl rfl
      · unfold handleGatewayGameChatReq
        repeat' split
        all_goals exact hs.of_tables rfl rfl
      · exact hs
  | gatewayDisconnected gw =>
      exact (removePlayers_mirrored hs (s.gatewayPlayerMap gw)).of_tables rfl rfl
  | worldPacket id payload =>
      unfold worldDispatch handleWorldGameMonsterBuff handleWorldGameTokenNotify
      repeat' split
      all_goals exact hs.of_tables rfl rfl
  | aiTick deltaTime order => exact aiTick_mirrored hs hbred order deltaTime
  | pathResult waypoints asked =>
      unfold pathResult
      split
      all_goals exact hs.of_tables rfl rfl

theorem taskStep_bred [DecidableEq σ] {env : GameEnv K} {spawns : List (MonsterSpawn K)}
    {s s' : GameContext K σ} {task : Task K σ} (hbred : Bred spawns s)
    (hstep : taskStep env s task = some s') : Bred spawns s' := by
  cases task with
  | task label => exact step_bred hbred hstep
  | attack order attackerUid targetUid damage =>
      simp only [taskStep] at hstep
      split at hstep
      · cases hstep
        intro i m hm
        rw [(attackPlayer_monsters s order attackerUid targetUid damage).1] at hm
        exact hbred i m hm
      · cases hstep

/-- In every state between the tasks of any run the mirror is exact, and every
    player online has between one and the full number of hit points. -/
theorem redis_mirrors [DecidableEq σ] (env : GameEnv K) (spawns : List (MonsterSpawn K))
    (tasks : List (Task K σ)) : Always (taskStep env) Mirrored (start spawns) tasks := by
  have hempty : (start spawns : GameContext K σ).playerMap = (fun _ => none) ∧
      (start spawns : GameContext K σ).redis = fun _ => none := by
    have hinit : ∀ s : GameContext K σ, (s.initMonsters spawns).playerMap = s.playerMap ∧
        (s.initMonsters spawns).redis = s.redis := by
      unfold initMonsters
      induction spawns with
      | nil => exact fun s => ⟨rfl, rfl⟩
      | cons data rest ih => exact fun s => ih (s.initMonster data)
    exact hinit _
  have hstart : (start spawns : GameContext K σ).Mirrored := by
    constructor
    · intro accId
      rw [hempty.1, hempty.2]
      rfl
    · intro accId p hp
      rw [hempty.1] at hp
      cases hp
  have hinv : Always (taskStep env) (fun s => s.Mirrored ∧ Bred spawns s) (start spawns)
      tasks := by
    refine always_of_meets ?_ ⟨hstart, start_bred spawns⟩ meets_true
    intro s task s' hs _ hstep
    refine ⟨?_, taskStep_bred hs.2 hstep⟩
    cases task with
    | task label => exact step_mirrored hs.1 hs.2 hstep
    | attack order attackerUid targetUid damage =>
        simp only [taskStep] at hstep
        split at hstep
        · rename_i hdamage
          cases hstep
          exact attackPlayer_mirrored hs.1 order attackerUid targetUid hdamage
        · cases hstep
  exact hinv.imp fun s hs => hs.1

end GameContext

end MMOServers.GameServer

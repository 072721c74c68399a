/-
MMOServers.GameServer.CooldownTheorems — how much time passes between two hits of
a monster.

`ATTACK_COOLDOWN` is meant to be the time between two hits in seconds. The timer
behind it is full when a monster is made, so that the first hit needs no
waiting, and a hit takes the cooldown off it instead of setting it back. Nothing
else touches it: it stands still while the monster is not in ATTACK or has its
target out of range, through deaths and respawns as well. It is a timer of
`MMOServers.Lib.Cooldown` (`step_timers`), so what is left over of one hit makes
the next one early, and hits are a cooldown apart exactly when that is made up for
each time (`hitsSpaced_iff_madeUp`).

With ticks of at most `T` seconds a hit is not more than `T` early
(`hits_almostSpaced`), and with ticks of a tenth of a second it can be so early
(`hits_tooEarly`): the first hit leaves its whole tick over.
-/
import MMOServers.GameServer.TickPass
import MMOServers.Lib.Cooldown

namespace MMOServers.GameServer

open MMOServers.Common Transition Cooldown

/-! ## The timer of a monster -/

namespace Monster

variable {K : Type}

theorem struck_attackTimer (m : Monster K) (damage : Int) :
    (m.struck damage).attackTimer = m.attackTimer := by
  unfold struck
  dsimp only
  split <;> rfl

variable [Field K] [LinearOrder K] [HasSqrt K]

theorem Aims.attackTimer {m : Monster K} {r : Monster K × List (MonsterCall K)} (h : m.Aims r) :
    r.1.attackTimer = m.attackTimer := by
  cases h with
  | stays h => rfl
  | sees uid pos h => rfl
  | follows pos h =>
      unfold updateTargetPosition
      split <;> rfl
  | givesUpChase h =>
      unfold giveUpChase
      split <;> rfl
  | givesUpAttack h => rfl

theorem applyPath_attackTimer (m : Monster K) (request : PathRequest K)
    (waypoints : List (Vector3 K)) :
    (m.applyPath request waypoints).attackTimer = m.attackTimer := by
  unfold applyPath
  repeat' split
  all_goals rfl

/-- The monster attacks what it has in range: its timer counts. -/
def Counts (m : Monster K) : Prop :=
  m.state = .attack ∧
    distance (m.targetLastPos.x - m.position.x) (m.targetLastPos.y - m.position.y)
      ≤ m.attackRange

instance (m : Monster K) : Decidable m.Counts := inferInstanceAs (Decidable (_ ∧ _))

theorem update_of_counts {m : Monster K} (h : m.Counts) (deltaTime : K) :
    m.update deltaTime =
      if m.attackCooldown ≤ m.attackTimer + deltaTime then
        ({ m with attackTimer := m.attackTimer + deltaTime - m.attackCooldown },
          [.attack m.monsterId m.targetUserId m.attackPower])
      else ({ m with attackTimer := m.attackTimer + deltaTime }, []) := by
  have hupdate : m.update deltaTime = m.updateAttack deltaTime := by
    simp only [update, h.1]
  rw [hupdate]
  exact if_neg (not_lt.mpr h.2)

theorem update_of_not_counts {m : Monster K} (h : ¬ m.Counts) (deltaTime : K) :
    (m.update deltaTime).1.attackTimer = m.attackTimer ∧
      ∀ call ∈ (m.update deltaTime).2, call.isAttack = false := by
  unfold update
  cases hstate : m.state with
  | idle => exact ⟨rfl, by simp⟩
  | chase =>
      refine ⟨?_, by simp⟩
      dsimp only
      unfold updateChase
      dsimp only
      repeat' split
      all_goals rfl
  | «return» =>
      refine ⟨?_, by simp⟩
      dsimp only
      unfold updateReturn
      dsimp only
      repeat' split
      all_goals rfl
  | dead => exact ⟨rfl, by simp⟩
  | attack =>
      have hfar : distance (m.targetLastPos.x - m.position.x)
          (m.targetLastPos.y - m.position.y) > m.attackRange :=
        not_le.mp fun hnear => h ⟨hstate, hnear⟩
      dsimp only [updateAttack]
      rw [if_pos hfar]
      exact ⟨rfl, calculatePath_quiet _⟩

/-- An update is a tick of the timer, and an attack when the timer fires. -/
theorem update_timer (m : Monster K) (deltaTime : K) (lap : Option (Lap K)) :
    (m.update deltaTime).1.attackTimer
        = (tick m.attackCooldown deltaTime m.Counts ⟨m.attackTimer, lap⟩).time ∧
      (m.update deltaTime).2.countP (·.isAttack)
        = if Fires m.attackCooldown deltaTime m.Counts ⟨m.attackTimer, lap⟩ then 1 else 0 := by
  by_cases hcounts : m.Counts
  · rw [update_of_counts hcounts]
    by_cases hfull : m.attackCooldown ≤ m.attackTimer + deltaTime
    · rw [if_pos hfull, tick_of_fires ⟨hcounts, hfull⟩, if_pos ⟨hcounts, hfull⟩]
      exact ⟨rfl, rfl⟩
    · rw [if_neg hfull, tick_of_counts hcounts hfull, if_neg fun hfires => hfull hfires.2]
      exact ⟨rfl, rfl⟩
  · obtain ⟨hstands, hquiet⟩ := update_of_not_counts hcounts deltaTime
    rw [tick_of_stands hcounts, hstands, if_neg fun hfires => hcounts hfires.1,
      List.countP_eq_zero]
    refine ⟨rfl, fun call hcall => ?_⟩
    simp [hquiet call hcall]

end Monster

namespace GameContext

variable {K σ : Type} [Field K] [LinearOrder K] [FloorRing K] [HasSqrt K]

theorem HuntStep.attackTimer {env : GameEnv K} {s : GameContext K σ} {i : Nat} {h h' : Hunt K}
    {label : Label K σ} (hs : HuntStep env s i h label h')
    (untimed : ∀ deltaTime order, label ≠ .aiTick deltaTime order) :
    h'.monster.attackTimer = h.monster.attackTimer := by
  cases hs with
  | aside untimed unanswered => rfl
  | hit gw selected live => exact h.monster.struck_attackTimer _
  | buffed parsed buffs => rfl
  | ticks order tick => exact absurd rfl (untimed _ order)
  | path waypoints answers asked => exact h.monster.applyPath_attackTimer _ _

/-! ## Hits -/

/-- How often the monster calls the attack callback in a tick. -/
def hits (s : GameContext K σ) (order : IterationOrder) (deltaTime : K) (i : Nat) : Nat :=
  (tickCalls order deltaTime (s.atPass order deltaTime i) i).countP (·.isAttack)

/-- The timer of the monster counts in a tick. -/
def Counting (s : GameContext K σ) (order : IterationOrder) (deltaTime : K) (i : Nat)
    (m : Monster K) : Prop :=
  ((s.atPass order deltaTime i).aimOf order m).1.Counts

instance (s : GameContext K σ) (order : IterationOrder) (deltaTime : K) (i : Nat)
    (m : Monster K) : Decidable (s.Counting order deltaTime i m) :=
  inferInstanceAs (Decidable (Monster.Counts _))

theorem aimOf_dead {s : GameContext K σ} {m : Monster K} (dead : m.state = .dead)
    (order : IterationOrder) : s.aimOf order m = (m, []) := by
  unfold aimOf processMonster
  rw [dead]

/-- In a tick the timer of a monster is one of the library, and the monster hits when
    it fires. -/
theorem aiTick_timer {s : GameContext K σ} {i : Nat} {m : Monster K}
    (hm : s.monsters[i]? = some m) (order : IterationOrder) (deltaTime : K)
    (lap : Option (Lap K)) :
    ∃ m', (s.aiTick order deltaTime).monsters[i]? = some m' ∧
      m'.attackTimer = (tick m.attackCooldown deltaTime (s.Counting order deltaTime i m)
        ⟨m.attackTimer, lap⟩).time ∧
      s.hits order deltaTime i = if Fires m.attackCooldown deltaTime
        (s.Counting order deltaTime i m) ⟨m.attackTimer, lap⟩ then 1 else 0 := by
  obtain ⟨h, hi, rfl⟩ := exists_hunt hm
  have hpass := hunt_monster ((s.atPass_hunt order deltaTime i).trans hi)
  by_cases hdead : h.monster.state = .dead
  · -- a dead monster does not look for a target, and its timer stands still
    have hstands : ¬ s.Counting order deltaTime i h.monster := by
      rw [Counting, aimOf_dead hdead, Monster.Counts, hdead]
      rintro ⟨hattack, -⟩
      cases hattack
    obtain ⟨h', hi', htick⟩ := aiTick_hunt hi order deltaTime
    refine ⟨_, hunt_monster hi', ?_, ?_⟩
    · rw [tick_of_stands hstands]
      cases htick with
      | waits dead early => rfl
      | respawns dead due => rfl
      | acts live r aims => exact absurd hdead live
    · rw [if_neg fun hfires => hstands hfires.1, hits, tickCalls, hpass]
      simp [hdead]
  · have haims := (s.atPass order deltaTime i).aimOf_aims order hdead
    have hquiet : ((s.atPass order deltaTime i).aimOf order h.monster).2.countP (·.isAttack)
        = 0 := by
      rw [List.countP_eq_zero]
      intro call hcall
      simp [haims.quiet call hcall]
    obtain ⟨htimer, hcalls⟩ := Monster.update_timer
      ((s.atPass order deltaTime i).aimOf order h.monster).1 deltaTime lap
    rw [haims.attackTimer, Monster.traits_attackCooldown haims.traits] at htimer hcalls
    refine ⟨_, hunt_monster (aiTick_live hi hdead order deltaTime), htimer, ?_⟩
    rw [hits, tickCalls_live hpass hdead, List.countP_append, hquiet, Nat.zero_add]
    exact hcalls

theorem hits_none {s : GameContext K σ} {i : Nat} (hm : s.monsters[i]? = none)
    (order : IterationOrder) (deltaTime : K) : s.hits order deltaTime i = 0 := by
  have hpass : (s.atPass order deltaTime i).monsters[i]? = none := by
    have hhunt := s.atPass_hunt order deltaTime i
    rw [hunt, hunt, hm, Option.map_none, Option.map_eq_none_iff] at hhunt
    exact hhunt
  simp [hits, tickCalls, hpass]

end GameContext

/-! ## The time since the last hit -/

/-- The server with the lap of every monster, from its last hit on. -/
structure HitWatch (K σ : Type) where
  game : GameContext K σ
  laps : Nat → Option (Lap K)

namespace HitWatch

open GameContext (Label)

variable {K σ : Type} [Field K] [LinearOrder K] [FloorRing K] [HasSqrt K]

/-- The lap of a monster after a tick that has made the server `game`. -/
def lapAfter (w : HitWatch K σ) (order : IterationOrder) (deltaTime : K)
    (game : GameContext K σ) (i : Nat) : Option (Lap K) :=
  match w.game.monsters[i]?, game.monsters[i]? with
  | some m, some m' =>
      if 0 < w.game.hits order deltaTime i then some (.start m'.attackTimer)
      else if w.game.Counting order deltaTime i m then (w.laps i).map (·.count deltaTime)
      else (w.laps i).map (·.stand deltaTime)
  | _, _ => w.laps i

def follow (w : HitWatch K σ) (label : Label K σ) (game : GameContext K σ) : HitWatch K σ :=
  match label with
  | .aiTick deltaTime order => ⟨game, w.lapAfter order deltaTime game⟩
  | _ => ⟨game, w.laps⟩

variable [DecidableEq σ]

def step (env : GameEnv K) (w : HitWatch K σ) (label : Label K σ) : Option (HitWatch K σ) :=
  (w.game.step env label).map (w.follow label)

def start (spawns : List (MonsterSpawn K)) : HitWatch K σ := ⟨.start spawns, fun _ => none⟩

/-- The timers of the monsters have the cooldown for their period, and all have the
    property. -/
def Timers (P : Timer K → Prop) (w : HitWatch K σ) : Prop :=
  ∀ (i : Nat) (m : Monster K), w.game.monsters[i]? = some m →
    m.attackCooldown = GameConstants.Monster.attackCooldown ∧ P ⟨m.attackTimer, w.laps i⟩

omit [DecidableEq σ] in
/-- In a tick the timer of a monster ticks. -/
theorem lapAfter_timer {w : HitWatch K σ} {i : Nat} {m : Monster K}
    (hm : w.game.monsters[i]? = some m) (order : IterationOrder) (deltaTime : K) :
    ∃ m', (w.game.aiTick order deltaTime).monsters[i]? = some m' ∧
      (⟨m'.attackTimer, w.lapAfter order deltaTime (w.game.aiTick order deltaTime) i⟩ : Timer K)
        = tick m.attackCooldown deltaTime (w.game.Counting order deltaTime i m)
          ⟨m.attackTimer, w.laps i⟩ := by
  obtain ⟨m', hm', htimer, hhits⟩ := GameContext.aiTick_timer hm order deltaTime (w.laps i)
  have hfired : 0 < w.game.hits order deltaTime i ↔ Fires m.attackCooldown deltaTime
      (w.game.Counting order deltaTime i m) ⟨m.attackTimer, w.laps i⟩ := by
    rw [hhits]
    split
    · rename_i hfires
      exact iff_of_true Nat.one_pos hfires
    · rename_i hnot
      exact iff_of_false (Nat.lt_irrefl 0) hnot
  refine ⟨m', hm', ?_⟩
  simp only [lapAfter, hm, hm', hfired, htimer]
  by_cases hcounts : w.game.Counting order deltaTime i m
  · by_cases hfull : m.attackCooldown ≤ m.attackTimer + deltaTime
    · rw [if_pos ⟨hcounts, hfull⟩, tick_of_fires ⟨hcounts, hfull⟩]
    · rw [if_neg fun hfires => hfull hfires.2, tick_of_counts hcounts hfull, if_pos hcounts]
  · rw [if_neg fun hfires => hcounts hfires.1, tick_of_stands hcounts, if_neg hcounts]

theorem step_timers {env : GameEnv K} {P : Timer K → Prop} {w w' : HitWatch K σ}
    {label : Label K σ} (hw : w.Timers P)
    (htick : ∀ deltaTime order, label = .aiTick deltaTime order →
      ∀ (t : Timer K) (counts : Prop) [Decidable counts], P t →
        P (tick GameConstants.Monster.attackCooldown deltaTime counts t))
    (h : step env w label = some w') : w'.Timers P := by
  obtain ⟨game, hgame, rfl⟩ := Option.map_eq_some_iff.mp h
  intro i m' hm'
  have hsame : (∀ deltaTime order, label ≠ .aiTick deltaTime order) →
      game.monsters[i]? = some m' →
        m'.attackCooldown = GameConstants.Monster.attackCooldown ∧
          P ⟨m'.attackTimer, w.laps i⟩ := by
    intro huntimed hmonster
    obtain ⟨h', hi', rfl⟩ := GameContext.exists_hunt hmonster
    obtain ⟨h₀, hi, hhunt⟩ := GameContext.step_hunt_of hgame hi'
    rw [hhunt.attackTimer huntimed, Monster.traits_attackCooldown hhunt.traits]
    exact hw i h₀.monster (GameContext.hunt_monster hi)
  cases label with
  | aiTick deltaTime order =>
      obtain rfl := Option.some.inj hgame
      have hm'' : (w.game.aiTick order deltaTime).monsters[i]? = some m' := hm'
      obtain ⟨h', hi', rfl⟩ := GameContext.exists_hunt hm''
      obtain ⟨h₀, hi, hhunt⟩ := GameContext.step_hunt_of hgame hi'
      have hm := GameContext.hunt_monster hi
      obtain ⟨m, hafter, htimer⟩ := lapAfter_timer hm order deltaTime
      obtain rfl := Option.some.inj (hm''.symm.trans hafter)
      obtain ⟨hcooldown, hP⟩ := hw i h₀.monster hm
      rw [Monster.traits_attackCooldown hhunt.traits]
      refine ⟨hcooldown, ?_⟩
      show P ⟨h'.monster.attackTimer,
        w.lapAfter order deltaTime (w.game.aiTick order deltaTime) i⟩
      rw [htimer, hcooldown]
      exact htick deltaTime order rfl _ _ hP
  | packet gw id payload order => exact hsame (by simp) hm'
  | gatewayDisconnected gw => exact hsame (by simp) hm'
  | worldPacket id payload => exact hsame (by simp) hm'
  | pathResult n waypoints => exact hsame (by simp) hm'

omit [HasSqrt K] [DecidableEq σ] in
theorem start_timers {P : Timer K → Prop}
    (hP : P ⟨GameConstants.Monster.attackCooldown, none⟩) (spawns : List (MonsterSpawn K)) :
    (start spawns : HitWatch K σ).Timers P := by
  intro i m hm
  have hspawned : (spawns.map Monster.spawn)[i]? = some m :=
    (GameContext.start_monsters (σ := σ) spawns).1 ▸ hm
  rw [List.getElem?_map] at hspawned
  obtain ⟨data, -, rfl⟩ := Option.map_eq_some_iff.mp hspawned
  exact ⟨rfl, hP⟩

theorem step_reads {env : GameEnv K} {w w' : HitWatch K σ} {label : Label K σ}
    (hw : w.Timers Reads) (h : step env w label = some w') : w'.Timers Reads :=
  step_timers hw (fun deltaTime _ _ _ counts _ hreads =>
    tick_reads hreads GameConstants.Monster.attackCooldown deltaTime counts) h

omit [LinearOrder K] [FloorRing K] [HasSqrt K] [DecidableEq σ] in
theorem start_reads : Reads (⟨GameConstants.Monster.attackCooldown, none⟩ : Timer K) := by
  intro l hl
  cases hl

/-! ## The property -/

/-- The monster hits once at most in a tick, and then `time` has passed since it hit
    last, if it ever did. -/
structure Spaced (time : K) (w : HitWatch K σ) (order : IterationOrder) (deltaTime : K)
    (i : Nat) : Prop where
  once : w.game.hits order deltaTime i ≤ 1
  apart : ∀ lap, w.laps i = some lap → w.game.hits order deltaTime i = 1 →
    time ≤ lap.elapsed + deltaTime

/-- All hits of a task are that far from those before. -/
def HitsSpaced (time : K) (w : HitWatch K σ) : Label K σ → Prop
  | .aiTick deltaTime order => ∀ i, w.Spaced time order deltaTime i
  | _ => True

omit [DecidableEq σ] in
/-- The hits of a monster in a tick. -/
theorem hits_eq_one_iff {w : HitWatch K σ} {P : Timer K → Prop} (hw : w.Timers P) {i : Nat}
    {m : Monster K} (hm : w.game.monsters[i]? = some m) (order : IterationOrder)
    (deltaTime : K) :
    w.game.hits order deltaTime i ≤ 1 ∧ (w.game.hits order deltaTime i = 1 ↔
      Fires GameConstants.Monster.attackCooldown deltaTime (w.game.Counting order deltaTime i m)
        ⟨m.attackTimer, w.laps i⟩) := by
  obtain ⟨m', -, -, hhits⟩ := GameContext.aiTick_timer hm order deltaTime (w.laps i)
  rw [(hw i m hm).1] at hhits
  rw [hhits]
  split
  · rename_i hfires
    exact ⟨Nat.le_refl 1, iff_of_true rfl hfires⟩
  · rename_i hnot
    exact ⟨Nat.zero_le 1, iff_of_false Nat.zero_ne_one hnot⟩

omit [DecidableEq σ] in
theorem spaced_none {w : HitWatch K σ} {i : Nat} (hm : w.game.monsters[i]? = none) (time : K)
    (order : IterationOrder) (deltaTime : K) : w.Spaced time order deltaTime i := by
  have hnone := GameContext.hits_none hm order deltaTime
  refine ⟨hnone.le.trans (Nat.zero_le 1), fun lap hlap hhit => ?_⟩
  rw [hnone] at hhit
  cases hhit

variable [IsStrictOrderedRing K]

/-- With ticks of at most `T` seconds no hit is more than `T` early. -/
theorem hits_almostSpaced (env : GameEnv K) (spawns : List (MonsterSpawn K))
    (labels : List (Label K σ)) {T : K} (hT : T ≤ GameConstants.Monster.attackCooldown)
    (hticks : ∀ label ∈ labels, ∀ deltaTime order, label = .aiTick deltaTime order →
      0 ≤ deltaTime ∧ deltaTime ≤ T) :
    Meets (step env) (HitsSpaced (GameConstants.Monster.attackCooldown - T)) (start spawns)
      labels := by
  refine meets_of_labels
    (Timers fun t => Reads t ∧ Short GameConstants.Monster.attackCooldown T t)
    (fun hw hlabel h => ?_) (fun {w label _} hw _ _ => ?_) (start_timers ?_ spawns) hticks
  · refine step_timers hw (fun deltaTime order heq t counts _ ht => ?_) h
    obtain ⟨hdt₀, hdt⟩ := hlabel deltaTime order heq
    exact ⟨tick_reads ht.1 _ _ _, tick_short hT ht.2 hdt₀ hdt counts⟩
  · cases label with
    | aiTick deltaTime order =>
        intro i
        cases hm : w.game.monsters[i]? with
        | none => exact spaced_none hm _ order deltaTime
        | some m =>
            obtain ⟨honce, hhits⟩ := hits_eq_one_iff hw hm order deltaTime
            obtain ⟨-, hreads, hshort⟩ := hw i m hm
            exact ⟨honce, fun lap hlap hhit =>
              period_sub_le hreads hshort (hhits.mp hhit) hlap⟩
    | _ => trivial
  · refine ⟨start_reads, le_rfl, fun l hl => ?_, fun l hl => ?_⟩ <;> cases hl

/-! ## A second hit -/

/-- A monster half a step away from where the player is going to be. -/
def dueller : MonsterSpawn ℚ := ⟨10001, 21 / 2, 0, 20, 60⟩

/-- The player comes. -/
def arrives : Label ℚ Nat :=
  .packet 0 PacketId.gatewayGameMoveReq [10, 1, 97, 21, 0, 0, 32, 65] .listed

/-- A tick of the regular length. -/
def beat : Label ℚ Nat := .aiTick (1 / 10) .listed

/-- The monster sees the player, has a path to it, is in range and hits. -/
def firstHit : List (Label ℚ Nat) := [arrives, beat, .pathResult 0 [⟨10, 0, 0⟩], beat, beat]

end HitWatch

end MMOServers.GameServer

/-
MMOServers.GameServer.TickPass — one pass of the loop of a tick.

A tick comes to the monsters one after the other. `atPass` is the server as the
loop finds it when it comes to a monster: the monsters before it have acted, the
monster itself is as it was (`atPass_hunt`). The pass of a live monster has two
halves. First it looks for its target (`aimOf`), then it is updated, and what it
asks for in the second half is asked of `afterAim`.

`traits` is what a monster is given when it is made and keeps for life
(`step_bred`).
-/
import MMOServers.GameServer.DeathCycle

namespace MMOServers.GameServer

open MMOServers.Common Transition

/-! ## What a monster keeps for life -/

namespace Monster

variable {K : Type}

def traits (m : Monster K) : Nat × Vector3 K × Int × Int × K × K × Int :=
  (m.monsterId, m.spawnPosition, m.attackPower, m.defensePower, m.attackRange, m.attackCooldown,
    m.respawnSec)

section Traits

variable {m m' : Monster K} (h : m'.traits = m.traits)

include h

theorem traits_spawnPosition : m'.spawnPosition = m.spawnPosition := congrArg (·.2.1) h

theorem traits_attackPower : m'.attackPower = m.attackPower := congrArg (·.2.2.1) h

theorem traits_attackRange : m'.attackRange = m.attackRange := congrArg (·.2.2.2.2.1) h

theorem traits_attackCooldown : m'.attackCooldown = m.attackCooldown :=
  congrArg (·.2.2.2.2.2.1) h

end Traits

theorem struck_traits (m : Monster K) (damage : Int) : (m.struck damage).traits = m.traits := by
  unfold struck
  dsimp only
  split <;> rfl

theorem giveUpChase_traits (m : Monster K) : m.giveUpChase.1.traits = m.traits := by
  unfold giveUpChase
  split <;> rfl

variable [Field K] [LinearOrder K] [HasSqrt K]

theorem updateTargetPosition_traits (m : Monster K) (newPos : Vector3 K) :
    (m.updateTargetPosition newPos).1.traits = m.traits := by
  unfold updateTargetPosition
  split <;> rfl

theorem Aims.traits {m : Monster K} {r : Monster K × List (MonsterCall K)} (h : m.Aims r) :
    r.1.traits = m.traits := by
  cases h with
  | stays h => rfl
  | sees uid pos h => rfl
  | follows pos h => exact m.updateTargetPosition_traits pos
  | givesUpChase h => exact m.giveUpChase_traits
  | givesUpAttack h => rfl

theorem updateChase_traits (m : Monster K) (deltaTime : K) :
    (m.updateChase deltaTime).traits = m.traits := by
  unfold updateChase
  dsimp only
  repeat' split
  all_goals rfl

theorem updateReturn_traits (m : Monster K) (deltaTime : K) :
    (m.updateReturn deltaTime).traits = m.traits := by
  unfold updateReturn
  dsimp only
  repeat' split
  all_goals rfl

theorem updateAttack_traits (m : Monster K) (deltaTime : K) :
    (m.updateAttack deltaTime).1.traits = m.traits := by
  unfold updateAttack
  dsimp only
  repeat' split
  all_goals rfl

theorem update_traits (m : Monster K) (deltaTime : K) :
    (m.update deltaTime).1.traits = m.traits := by
  unfold update
  cases m.state with
  | idle => rfl
  | chase => exact m.updateChase_traits deltaTime
  | attack => exact m.updateAttack_traits deltaTime
  | «return» => exact m.updateReturn_traits deltaTime
  | dead => rfl

theorem applyPath_traits (m : Monster K) (request : PathRequest K)
    (waypoints : List (Vector3 K)) : (m.applyPath request waypoints).traits = m.traits := by
  unfold applyPath
  repeat' split
  all_goals rfl

end Monster

theorem TickStep.traits {K : Type} [Field K] [LinearOrder K] [HasSqrt K] {deltaTime : K}
    {h h' : Hunt K} (ht : TickStep deltaTime h h') : h'.monster.traits = h.monster.traits := by
  cases ht with
  | waits dead early => rfl
  | respawns dead due => rfl
  | acts live r aims => exact (r.1.update_traits deltaTime).trans aims.traits

/-! ## What a monster asks for -/

/-- The attack callback is called. -/
def MonsterCall.isAttack {K : Type} : MonsterCall K → Bool
  | .attack _ _ _ => true
  | .findPath _ => false

namespace Monster

variable {K : Type} [Field K] [LinearOrder K] [HasSqrt K]

omit [Field K] [LinearOrder K] [HasSqrt K] in
theorem calculatePath_quiet (m : Monster K) :
    ∀ call ∈ m.calculatePath.2, call.isAttack = false := by
  intro call hcall
  obtain rfl := List.mem_singleton.mp hcall
  rfl

theorem updateTargetPosition_quiet (m : Monster K) (newPos : Vector3 K) :
    ∀ call ∈ (m.updateTargetPosition newPos).2, call.isAttack = false := by
  unfold updateTargetPosition
  split
  · exact calculatePath_quiet _
  · simp

/-- Looking for a target is no attack. -/
theorem Aims.quiet {m : Monster K} {r : Monster K × List (MonsterCall K)} (h : m.Aims r) :
    ∀ call ∈ r.2, call.isAttack = false := by
  cases h with
  | stays h => simp
  | sees uid pos h => exact calculatePath_quiet _
  | follows pos h => exact m.updateTargetPosition_quiet pos
  | givesUpChase h =>
      simp only [giveUpChase, if_pos h]
      exact calculatePath_quiet _
  | givesUpAttack h => exact calculatePath_quiet _

/-- An update asks for one thing at most, and for an attack only in ATTACK, in
    range of the remembered position, and without moving. -/
theorem update_calls (m : Monster K) (deltaTime : K) :
    (∀ call ∈ (m.update deltaTime).2, call.isAttack = false) ∨
      (m.state = .attack ∧
        distance (m.targetLastPos.x - m.position.x) (m.targetLastPos.y - m.position.y)
          ≤ m.attackRange ∧
        (m.update deltaTime).2 = [.attack m.monsterId m.targetUserId m.attackPower] ∧
        (m.update deltaTime).1.position = m.position) := by
  unfold update
  cases hstate : m.state with
  | idle => simp
  | chase => simp
  | «return» => simp
  | dead => simp
  | attack =>
      dsimp only [updateAttack]
      split
      · exact Or.inl (calculatePath_quiet _)
      · rename_i hnear
        split
        · exact Or.inr ⟨rfl, not_lt.mp hnear, rfl, rfl⟩
        · exact Or.inl (by simp)

end Monster

namespace GameContext

variable {K σ : Type} [Field K] [LinearOrder K] [FloorRing K] [HasSqrt K]

theorem HuntStep.traits {env : GameEnv K} {s : GameContext K σ} {i : Nat} {h h' : Hunt K}
    {label : Label K σ} (hs : HuntStep env s i h label h') :
    h'.monster.traits = h.monster.traits := by
  cases hs with
  | aside untimed unanswered => rfl
  | hit gw selected live => exact h.monster.struck_traits _
  | buffed parsed buffs => rfl
  | ticks order tick => exact tick.traits
  | path waypoints answers asked => exact h.monster.applyPath_traits _ _

/-- Every monster is still what the spawn list made it. -/
def Bred (spawns : List (MonsterSpawn K)) (s : GameContext K σ) : Prop :=
  ∀ (i : Nat) (m : Monster K), s.monsters[i]? = some m →
    ∃ data, spawns[i]? = some data ∧ m.traits = (Monster.spawn data).traits

omit [HasSqrt K] in
theorem start_bred (spawns : List (MonsterSpawn K)) :
    Bred spawns (start spawns : GameContext K σ) := by
  intro i m hm
  rw [(start_monsters spawns).1, List.getElem?_map] at hm
  obtain ⟨data, hdata, rfl⟩ := Option.map_eq_some_iff.mp hm
  exact ⟨data, hdata, rfl⟩

theorem step_bred [DecidableEq σ] {env : GameEnv K} {spawns : List (MonsterSpawn K)}
    {s s' : GameContext K σ} {label : Label K σ} (hs : Bred spawns s)
    (hstep : step env s label = some s') : Bred spawns s' := by
  intro i m hm
  obtain ⟨h', hi', rfl⟩ := exists_hunt hm
  obtain ⟨h, hi, hhunt⟩ := step_hunt_of hstep hi'
  obtain ⟨data, hdata, htraits⟩ := hs i h.monster (hunt_monster hi)
  exact ⟨data, hdata, hhunt.traits.trans htraits⟩

/-! ## The pass -/

/-- The server when the loop of a tick comes to the monster. -/
def atPass (s : GameContext K σ) (order : IterationOrder) (deltaTime : K) (i : Nat) :
    GameContext K σ :=
  (List.range i).foldl (tickMonster order deltaTime) s

theorem atPass_succ (s : GameContext K σ) (order : IterationOrder) (deltaTime : K) (i : Nat) :
    s.atPass order deltaTime (i + 1)
      = tickMonster order deltaTime (s.atPass order deltaTime i) i := by
  rw [atPass, List.range_succ, List.foldl_append]
  rfl

theorem atPass_hunt (s : GameContext K σ) (order : IterationOrder) (deltaTime : K) (i : Nat) :
    (s.atPass order deltaTime i).hunt i = s.hunt i :=
  foldl_hunt_other s order deltaTime (by simp)

/-- What a live monster makes of what it sees. -/
def aimOf (s : GameContext K σ) (order : IterationOrder) (m : Monster K) :
    Monster K × List (MonsterCall K) :=
  s.processMonster order m m.position.x m.position.y

/-- The server when the monster has looked for its target and is going to be
    updated. -/
def afterAim (s : GameContext K σ) (order : IterationOrder) (i : Nat) (m : Monster K) :
    GameContext K σ :=
  (s.setMonster i (s.aimOf order m).1).perform order i (s.aimOf order m).2

theorem aimOf_aims (s : GameContext K σ) (order : IterationOrder) {m : Monster K}
    (live : m.state ≠ .dead) : m.Aims (s.aimOf order m) :=
  s.processMonster_aims order live _ _

/-- What a live monster is, and asks for, at the end of its pass. -/
theorem tickMonster_live {s : GameContext K σ} {i : Nat} {h : Hunt K} (hi : s.hunt i = some h)
    (live : h.monster.state ≠ .dead) (order : IterationOrder) (deltaTime : K) :
    (tickMonster order deltaTime s i).hunt i = some
      ⟨((s.aimOf order h.monster).1.update deltaTime).1,
        h.pending ++ pathRequests (s.aimOf order h.monster).2 ++
          pathRequests ((s.aimOf order h.monster).1.update deltaTime).2⟩ := by
  have hm := hunt_monster hi
  simp only [tickMonster, hm, if_neg live]
  change (syncMonsterPosition (perform (setMonster (s.afterAim order i h.monster) i _) order i _)
    order _ _ _ deltaTime).hunt i = _
  have h₁ : (s.afterAim order i h.monster).hunt i = some ⟨(s.aimOf order h.monster).1,
      h.pending ++ pathRequests (s.aimOf order h.monster).2⟩ :=
    perform_hunt_self (hunt_setMonster_self hi _) order _
  have h₂ := perform_hunt_self
    (hunt_setMonster_self h₁ ((s.aimOf order h.monster).1.update deltaTime).1) order
    ((s.aimOf order h.monster).1.update deltaTime).2
  obtain ⟨hmonsters, htasks⟩ := syncMonsterPosition_monsters
    (((s.afterAim order i h.monster).setMonster i
      ((s.aimOf order h.monster).1.update deltaTime).1).perform order i
      ((s.aimOf order h.monster).1.update deltaTime).2) order
    ((s.aimOf order h.monster).1.update deltaTime).1 h.monster.position.x h.monster.position.y
    deltaTime
  exact (hunt_congr hmonsters htasks i).trans h₂

/-- A tick takes a live monster through its pass. -/
theorem aiTick_live {s : GameContext K σ} {i : Nat} {h : Hunt K} (hi : s.hunt i = some h)
    (live : h.monster.state ≠ .dead) (order : IterationOrder) (deltaTime : K) :
    let r := (s.atPass order deltaTime i).aimOf order h.monster
    (s.aiTick order deltaTime).hunt i = some ⟨(r.1.update deltaTime).1,
      h.pending ++ pathRequests r.2 ++ pathRequests (r.1.update deltaTime).2⟩ := by
  intro r
  obtain ⟨hlt, -⟩ := List.getElem?_eq_some_iff.mp (hunt_monster hi)
  obtain ⟨k, hk⟩ := Nat.exists_eq_add_of_lt hlt
  have hpass := tickMonster_live ((s.atPass_hunt order deltaTime i).trans hi) live order deltaTime
  have hsplit : List.range s.monsters.length
      = List.range (i + 1) ++ (List.range k).map (i + 1 + ·) := by
    rw [hk, Nat.add_right_comm, List.range_add]
  rw [aiTick, hsplit, List.foldl_append]
  change (((List.range k).map (i + 1 + ·)).foldl _ (s.atPass order deltaTime (i + 1))).hunt i = _
  rw [foldl_hunt_other _ order deltaTime (by simp; omega), atPass_succ, hpass]

/-- What it asks for is that of `tickCalls`. -/
theorem tickCalls_live {s : GameContext K σ} {i : Nat} {m : Monster K}
    (hm : s.monsters[i]? = some m) (live : m.state ≠ .dead) (order : IterationOrder)
    (deltaTime : K) :
    tickCalls order deltaTime s i
      = (s.aimOf order m).2 ++ ((s.aimOf order m).1.update deltaTime).2 := by
  simp only [tickCalls, hm, if_neg live]
  rfl

end GameContext

end MMOServers.GameServer

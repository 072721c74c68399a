/-
MMOServers.GameServer.StrikeTheorems — whom the attacks of monsters hit.

A monster attacks on what it remembers: its target's last position, which is
refreshed only when the target has moved by more than 0.1, and earlier in the
same pass. What else can happen between the two is little. Only a monster that
is in ATTACK when its pass begins can attack in it, and then its target was
online and looked at in this very pass (`aimOf_attack`), so the remembered
position is off by 0.1 at most, and nobody moves before the callback is called.

All of this is about one pass, whatever the server has been through before;
of the past only the attack range enters, which every monster keeps for life.
-/
import MMOServers.GameServer.TickPass
import MMOServers.GameServer.RealDistance

namespace MMOServers.GameServer

open MMOServers.Common Transition

namespace Monster

/-- What a monster remembers of the position it has been told is 0.1 off at most. -/
theorem updateTargetPosition_near (m : Monster ℝ) (newPos : Vector3 ℝ) :
    distance (newPos.x - (m.updateTargetPosition newPos).1.targetLastPos.x)
        (newPos.y - (m.updateTargetPosition newPos).1.targetLastPos.y) ≤ 1 / 10 := by
  unfold updateTargetPosition
  split
  · show distance (newPos.x - newPos.x) (newPos.y - newPos.y) ≤ _
    rw [sub_self, sub_self, distance_zero]
    norm_num
  · rename_i hnear
    rw [distance_comm]
    refine (not_lt.mp hnear).trans_eq ?_
    norm_num

/-- A monster that has what it remembers in range has the position itself in range
    and 0.1. -/
theorem updateTargetPosition_inRange (m : Monster ℝ) (newPos : Vector3 ℝ) {range : ℝ}
    (hrange : distance
        ((m.updateTargetPosition newPos).1.targetLastPos.x
          - (m.updateTargetPosition newPos).1.position.x)
        ((m.updateTargetPosition newPos).1.targetLastPos.y
          - (m.updateTargetPosition newPos).1.position.y) ≤ range) :
    distance (newPos.x - (m.updateTargetPosition newPos).1.position.x)
        (newPos.y - (m.updateTargetPosition newPos).1.position.y) ≤ range + 1 / 10 := by
  have hnear := m.updateTargetPosition_near newPos
  generalize (m.updateTargetPosition newPos).1 = aimed at hrange hnear ⊢
  -- from the position to where it is remembered, and from there to the monster
  have htriangle := distance_triangle (newPos.x - aimed.targetLastPos.x)
    (newPos.y - aimed.targetLastPos.y) (aimed.targetLastPos.x - aimed.position.x)
    (aimed.targetLastPos.y - aimed.position.y)
  rw [sub_add_sub_cancel, sub_add_sub_cancel] at htriangle
  linarith

theorem updateTargetPosition_fields {K : Type} [Field K] [LinearOrder K] [HasSqrt K]
    (m : Monster K) (newPos : Vector3 K) :
    (m.updateTargetPosition newPos).1.state = m.state ∧
      (m.updateTargetPosition newPos).1.targetUserId = m.targetUserId ∧
      (m.updateTargetPosition newPos).1.position = m.position := by
  unfold updateTargetPosition
  split <;> exact ⟨rfl, rfl, rfl⟩

end Monster

namespace GameContext

section Pass

variable {K σ : Type} [Field K] [LinearOrder K] [FloorRing K]

/-- Path requests are of no matter to the players. -/
theorem perform_quiet (s : GameContext K σ) (order : IterationOrder) (i : Nat)
    {calls : List (MonsterCall K)} (h : ∀ call ∈ calls, call.isAttack = false) :
    (s.perform order i calls).combat = s.combat := by
  induction calls generalizing s with
  | nil => rfl
  | cons call calls ih =>
      obtain ⟨hcall, hcalls⟩ := List.forall_mem_cons.mp h
      cases call with
      | findPath request => exact ih { s with pathTasks := s.pathTasks ++ [⟨i, request⟩] } hcalls
      | attack attackerId targetId damage => cases hcall

omit [Field K] [LinearOrder K] [FloorRing K] in
theorem playerOf_congr {s s' : GameContext K σ} (h : s'.combat = s.combat) (uid : Nat) :
    s'.playerOf uid = s.playerOf uid := by
  simp only [combat, Prod.mk.injEq] at h
  rw [playerOf, playerOf, h.1, h.2.1]

variable [HasSqrt K]

omit [FloorRing K] in
/-- A monster that keeps its target has it online. -/
theorem keepTarget_state {giveUp : Monster K → Monster K × List (MonsterCall K)}
    {s : GameContext K σ} {m : Monster K} {oldX oldY : K} {state : MonsterState}
    (hgiveUp : (giveUp m).1.state ≠ state)
    (hstate : (keepTarget giveUp s m oldX oldY).1.state = state) :
    m.state = state ∧ ∃ accId p, s.playerOf m.targetUserId = some (accId, p) ∧
      keepTarget giveUp s m oldX oldY = m.updateTargetPosition ⟨p.x, p.y, 0⟩ := by
  unfold keepTarget at hstate ⊢
  split at hstate
  · exact absurd hstate hgiveUp
  · rename_i accId p hplayer
    split at hstate
    · rename_i hnear
      rw [(m.updateTargetPosition_fields _).1] at hstate
      exact ⟨hstate, accId, p, hplayer, if_pos hnear⟩
    · exact absurd hstate hgiveUp

/-- A monster that is going to be updated in ATTACK has just looked at its target. -/
theorem aimOf_attack {s : GameContext K σ} {order : IterationOrder} {m : Monster K}
    (h : (s.aimOf order m).1.state = .attack) :
    ∃ accId p, s.playerOf m.targetUserId = some (accId, p) ∧
      s.aimOf order m = m.updateTargetPosition ⟨p.x, p.y, 0⟩ := by
  unfold aimOf processMonster at h ⊢
  cases hstate : m.state with
  | idle =>
      simp only [hstate, processIdleMonster] at h
      split at h
      · rw [hstate] at h
        cases h
      · cases h
  | chase =>
      simp only [hstate] at h
      have hgiveUp : m.giveUpChase.1.state ≠ .attack := by
        simp [Monster.giveUpChase, hstate, Monster.calculatePath]
      obtain ⟨hattack, -⟩ := keepTarget_state hgiveUp h
      rw [hstate] at hattack
      cases hattack
  | attack =>
      simp only [hstate] at h
      have hgiveUp : m.giveUpAttack.1.state ≠ .attack := by
        simp [Monster.giveUpAttack, Monster.calculatePath]
      exact (keepTarget_state hgiveUp h).2
  | «return» =>
      simp only [hstate] at h
      cases h
  | dead =>
      simp only [hstate] at h
      cases h

/-- The server when the monster has been updated; the attack callback is called on
    it. -/
def atUpdate (s : GameContext K σ) (order : IterationOrder) (deltaTime : K) (i : Nat)
    (m : Monster K) : GameContext K σ :=
  (s.afterAim order i m).setMonster i ((s.aimOf order m).1.update deltaTime).1

theorem atUpdate_monster {s : GameContext K σ} {i : Nat} {m : Monster K}
    (hm : s.monsters[i]? = some m) (order : IterationOrder) (deltaTime : K) :
    (s.atUpdate order deltaTime i m).monsters[i]?
      = some ((s.aimOf order m).1.update deltaTime).1 := by
  obtain ⟨hlt, -⟩ := List.getElem?_eq_some_iff.mp hm
  have hmonsters := (perform_monsters (s.setMonster i (s.aimOf order m).1) order i
    (s.aimOf order m).2).1
  show (((s.setMonster i _).perform order i _).monsters.set i _)[i]? = _
  rw [hmonsters]
  simp [setMonster, hlt]

/-- The pass of a live monster, cut where it has been updated. -/
theorem tickMonster_atUpdate {s : GameContext K σ} {i : Nat} {m : Monster K}
    (hm : s.monsters[i]? = some m) (live : m.state ≠ .dead) (order : IterationOrder)
    (deltaTime : K) :
    tickMonster order deltaTime s i
      = ((s.atUpdate order deltaTime i m).perform order i
          ((s.aimOf order m).1.update deltaTime).2).syncMonsterPosition order
          ((s.aimOf order m).1.update deltaTime).1 m.position.x m.position.y deltaTime := by
  simp only [tickMonster, hm, if_neg live]
  rfl

end Pass

/-! ## The property -/

section Real

variable {σ : Type}

/-- Of what the monster asks for in its pass one thing at most is an attack; it is
    made in its own name, and then the target is a player who is online and in
    range. -/
structure Strikes (s : GameContext ℝ σ) (order : IterationOrder) (deltaTime : ℝ) (i : Nat)
    (m : Monster ℝ) : Prop where
  once : (tickCalls order deltaTime s i).countP (·.isAttack) ≤ 1
  inRange : ∀ a t d, .attack a t d ∈ tickCalls order deltaTime s i →
    ∃ accId p m', (s.atUpdate order deltaTime i m).playerOf t = some (accId, p) ∧
      (s.atUpdate order deltaTime i m).monsters[i]? = some m' ∧ a = m'.monsterId ∧
      distance (p.x - m'.position.x) (p.y - m'.position.y)
        ≤ GameConstants.Monster.attackRange + 1 / 10

theorem dead_strikes {s : GameContext ℝ σ} {i : Nat} {m : Monster ℝ}
    (hm : s.monsters[i]? = some m) (dead : m.state = .dead) (order : IterationOrder)
    (deltaTime : ℝ) : Strikes s order deltaTime i m := by
  have hnothing : tickCalls order deltaTime s i = [] := by
    simp only [tickCalls, hm, if_pos dead]
  refine ⟨by simp [hnothing], ?_⟩
  intro a t d h
  rw [hnothing] at h
  cases h

/-- One pass. -/
theorem live_strikes {s : GameContext ℝ σ} {i : Nat} {m : Monster ℝ}
    (hm : s.monsters[i]? = some m) (live : m.state ≠ .dead)
    (hrange : m.attackRange = GameConstants.Monster.attackRange) (order : IterationOrder)
    (deltaTime : ℝ) : Strikes s order deltaTime i m := by
  have haims := s.aimOf_aims order live
  have hcalls := tickCalls_live hm live order deltaTime
  have hnone : (s.aimOf order m).2.countP (·.isAttack) = 0 := by
    rw [List.countP_eq_zero]
    intro call hcall
    simp [haims.quiet call hcall]
  rcases (s.aimOf order m).1.update_calls deltaTime with hquiet | ⟨hstate, hnear, hattack, hstays⟩
  · have hnone' : ((s.aimOf order m).1.update deltaTime).2.countP (·.isAttack) = 0 := by
      rw [List.countP_eq_zero]
      intro call hcall
      simp [hquiet call hcall]
    constructor
    · rw [hcalls, List.countP_append, hnone, hnone']
      exact Nat.zero_le 1
    · intro a t d h
      rw [hcalls] at h
      rcases List.mem_append.mp h with h | h
      · cases haims.quiet _ h
      · cases hquiet _ h
  · constructor
    · rw [hcalls, List.countP_append, hnone, hattack]
      simp [MonsterCall.isAttack]
    · intro a t d h
      rw [hcalls, hattack] at h
      rcases List.mem_append.mp h with h | h
      · cases haims.quiet _ h
      · obtain ⟨rfl, rfl, rfl⟩ := MonsterCall.attack.inj (List.mem_singleton.mp h)
        obtain ⟨accId, p, hplayer, haim⟩ := aimOf_attack hstate
        obtain ⟨-, htarget, hposition⟩ := m.updateTargetPosition_fields ⟨p.x, p.y, 0⟩
        have hcombat : (s.atUpdate order deltaTime i m).combat = s.combat :=
          perform_quiet (s.setMonster i (s.aimOf order m).1) order i haims.quiet
        have hid := congrArg (·.1) ((s.aimOf order m).1.update_traits deltaTime)
        refine ⟨accId, p, _, ?_, atUpdate_monster hm order deltaTime, hid.symm, ?_⟩
        · rw [playerOf_congr hcombat, haim, htarget]
          exact hplayer
        · rw [Monster.traits_attackRange haims.traits, hrange, haim] at hnear
          rw [hstays, haim]
          exact m.updateTargetPosition_inRange ⟨p.x, p.y, 0⟩ hnear

/-- In a tick every monster attacks at most once, and only players in range. -/
def TickStrikes (s : GameContext ℝ σ) : Label ℝ σ → Prop
  | .aiTick deltaTime order => ∀ i m, s.monsters[i]? = some m →
      Strikes (s.atPass order deltaTime i) order deltaTime i m
  | _ => True

/-- In every run the attack callback of a monster is called at most once in a tick,
    for a player who is online then and within the attack range and 0.1. -/
theorem attacks_in_range [DecidableEq σ] (env : GameEnv ℝ) (spawns : List (MonsterSpawn ℝ))
    (labels : List (Label ℝ σ)) : Meets (step env) TickStrikes (start spawns) labels := by
  refine meets_of_labels (Bred spawns) (L := fun _ => True) (fun hs _ => step_bred hs) ?_
    (start_bred spawns) (fun _ _ => trivial)
  intro s label s' hs _ _
  cases label with
  | aiTick deltaTime order =>
      intro i m hm
      obtain ⟨h, hi, rfl⟩ := exists_hunt hm
      have hpass := hunt_monster ((s.atPass_hunt order deltaTime i).trans hi)
      by_cases hdead : h.monster.state = .dead
      · exact dead_strikes hpass hdead order deltaTime
      · obtain ⟨data, -, htraits⟩ := hs i h.monster hm
        exact live_strikes hpass hdead (Monster.traits_attackRange htraits) order deltaTime
  | _ => trivial

end Real

end GameContext

end MMOServers.GameServer

/-
MMOServers.GameServer.EngageTheorems — how a chase turns into a fight.

`UpdateChase` goes over to ATTACK when a monster has something within its attack
range, and logs that its target has come into range. What it measures is the
distance to the current waypoint. A path may bend, and it may be older than what
the monster remembers of its target, so the two distances need not agree; the
runs in which the target is in range at every such change are exactly those in
which the waypoint never tells otherwise (`engages_in_range_iff`).

`UpdateAttack` measures the distance to the target, one tick too late for the
change itself.
-/
import MMOServers.GameServer.Encounter

namespace MMOServers.GameServer

open MMOServers.Common Transition

/-! ## The update of a chase -/

namespace Monster

variable {K : Type} [Field K] [LinearOrder K] [HasSqrt K]

/-- The remembered position of the target is within the attack range. -/
def InRange (m : Monster K) : Prop :=
  distance (m.targetLastPos.x - m.position.x) (m.targetLastPos.y - m.position.y) ≤ m.attackRange

/-- The current waypoint is within the attack range. -/
def WaypointInRange (m : Monster K) : Prop :=
  ∃ waypoint, m.currentPath[m.pathIndex]? = some waypoint ∧
    distance (waypoint.x - m.position.x) (waypoint.y - m.position.y) ≤ m.attackRange

theorem updateChase_of_waypoint {m : Monster K} (h : m.WaypointInRange) (deltaTime : K) :
    m.updateChase deltaTime = { m with state := .attack } := by
  obtain ⟨waypoint, hwaypoint, hnear⟩ := h
  simp only [updateChase, hwaypoint, if_pos hnear]

theorem updateChase_chases {m : Monster K} (chases : m.state = .chase) (h : ¬ m.WaypointInRange)
    (deltaTime : K) : (m.updateChase deltaTime).state = .chase := by
  unfold updateChase
  split
  · exact chases
  · rename_i waypoint hwaypoint
    dsimp only
    split
    · rename_i hnear
      exact absurd ⟨waypoint, hwaypoint, hnear⟩ h
    · split <;> exact chases

/-- The update takes a monster from CHASE to ATTACK exactly when the waypoint is in
    range, and changes nothing else then. -/
theorem update_engages_iff {m : Monster K} (chases : m.state = .chase) (deltaTime : K) :
    ((m.update deltaTime).1.state = .attack → (m.update deltaTime).1.InRange)
      ↔ (m.WaypointInRange → m.InRange) := by
  have hupdate : (m.update deltaTime).1 = m.updateChase deltaTime := by
    rw [update, chases]
  rw [hupdate]
  by_cases hnear : m.WaypointInRange
  · rw [updateChase_of_waypoint hnear]
    exact ⟨fun h _ => h rfl, fun h _ => h hnear⟩
  · rw [updateChase_chases chases hnear]
    refine iff_of_true ?_ fun h => absurd h hnear
    intro h
    cases h

omit [Field K] [LinearOrder K] [HasSqrt K] in
theorem struck_engages {m : Monster K} (chases : m.state = .chase) (damage : Int) :
    (m.struck damage).state ≠ .attack := by
  unfold struck
  dsimp only
  split
  · simp [die]
  · simp [takeDamage, chases]

end Monster

/-! ## The property -/

namespace GameContext

variable {K σ : Type} [Field K] [LinearOrder K] [FloorRing K] [HasSqrt K]

/-- The monster as a task finds it; in a tick, when it has looked for its target
    and is going to be updated. -/
def found (s : GameContext K σ) (i : Nat) (m : Monster K) : Label K σ → Monster K
  | .aiTick deltaTime order =>
      if m.state = .dead then m else ((s.atPass order deltaTime i).aimOf order m).1
  | _ => m

theorem found_live (s : GameContext K σ) (i : Nat) {m : Monster K} (live : m.state ≠ .dead)
    (deltaTime : K) (order : IterationOrder) :
    s.found i m (.aiTick deltaTime order) = ((s.atPass order deltaTime i).aimOf order m).1 :=
  if_neg live

theorem live_of_found_chase {s : GameContext K σ} {i : Nat} {m : Monster K} {deltaTime : K}
    {order : IterationOrder} (chases : (s.found i m (.aiTick deltaTime order)).state = .chase) :
    m.state ≠ .dead := by
  intro hdead
  simp [found, hdead] at chases

/-- A monster that the task takes from CHASE to ATTACK has its target in range. -/
def EngagesInRange (env : GameEnv K) [DecidableEq σ] (s : GameContext K σ)
    (label : Label K σ) : Prop :=
  ∀ s', step env s label = some s' → ∀ i m m', s.monsters[i]? = some m →
    s'.monsters[i]? = some m' → (s.found i m label).state = .chase → m'.state = .attack →
      m'.InRange

/-- A monster that a tick updates in CHASE has its target in range if it has its
    current waypoint in range. -/
def WaypointTells (s : GameContext K σ) : Label K σ → Prop
  | .aiTick deltaTime order => ∀ i m, s.monsters[i]? = some m →
      let found := s.found i m (.aiTick deltaTime order)
      found.state = .chase → found.WaypointInRange → found.InRange
  | _ => True

/-- A monster that a tick updates in CHASE is on its way to where it remembers its
    target, with no waypoint before. -/
def GoesStraight (s : GameContext K σ) : Label K σ → Prop
  | .aiTick deltaTime order => ∀ i m, s.monsters[i]? = some m →
      let found := s.found i m (.aiTick deltaTime order)
      found.state = .chase → ∀ waypoint, found.currentPath[found.pathIndex]? = some waypoint →
        waypoint.x = found.targetLastPos.x ∧ waypoint.y = found.targetLastPos.y
  | _ => True

theorem GoesStraight.waypointTells {s : GameContext K σ} {label : Label K σ}
    (h : s.GoesStraight label) : s.WaypointTells label := by
  cases label with
  | aiTick deltaTime order =>
      intro i m hm found hchases hnear
      obtain ⟨waypoint, hwaypoint, hnear⟩ := hnear
      obtain ⟨hx, hy⟩ := h i m hm hchases waypoint hwaypoint
      rw [hx, hy] at hnear
      exact hnear
  | _ => trivial

/-- Only a tick takes a monster from CHASE to ATTACK. -/
theorem HuntStep.engages {env : GameEnv K} {s : GameContext K σ} {i : Nat} {h h' : Hunt K}
    {label : Label K σ} (hs : HuntStep env s i h label h')
    (huntimed : ∀ deltaTime order, label ≠ .aiTick deltaTime order)
    (chases : h.monster.state = .chase) : h'.monster.state ≠ .attack := by
  cases hs with
  | aside untimed unanswered =>
      rw [chases]
      decide
  | hit gw selected live => exact Monster.struck_engages chases _
  | buffed parsed buffs =>
      show h.monster.state ≠ .attack
      rw [chases]
      decide
  | ticks order tick => exact absurd rfl (huntimed _ order)
  | path waypoints answers asked =>
      rw [(Monster.applyPath_vitals _ _ _).2, chases]
      decide

variable [DecidableEq σ]

theorem step_engages_iff {env : GameEnv K} {s s' : GameContext K σ} {label : Label K σ}
    (hstep : step env s label = some s') : s.EngagesInRange env label ↔ s.WaypointTells label := by
  have hengages : s.EngagesInRange env label ↔ ∀ i m m', s.monsters[i]? = some m →
      s'.monsters[i]? = some m' → (s.found i m label).state = .chase → m'.state = .attack →
        m'.InRange := by
    refine ⟨fun h => h s' hstep, ?_⟩
    intro h t ht
    obtain rfl := Option.some.inj (hstep.symm.trans ht)
    exact h
  rw [hengages]
  cases label with
  | aiTick deltaTime order =>
      obtain rfl := Option.some.inj hstep
      refine forall_congr' fun i => forall_congr' fun m => ?_
      -- one monster
      constructor
      · intro h hm found hchases
        obtain ⟨hunt, hi, rfl⟩ := exists_hunt hm
        have hlive := live_of_found_chase hchases
        have hafter := hunt_monster (aiTick_live hi hlive order deltaTime)
        have hkept := h _ hm hafter hchases
        rw [show found = _ from found_live s i hlive deltaTime order] at hchases ⊢
        exact (Monster.update_engages_iff hchases deltaTime).mp hkept
      · intro h m' hm hm' hchases
        obtain ⟨hunt, hi, rfl⟩ := exists_hunt hm
        have hlive := live_of_found_chase hchases
        have hafter := hunt_monster (aiTick_live hi hlive order deltaTime)
        obtain rfl := Option.some.inj (hm'.symm.trans hafter)
        have htells := h hm hchases
        rw [found_live s i hlive] at hchases htells
        exact (Monster.update_engages_iff hchases deltaTime).mpr htells
  | _ =>
      refine iff_of_true ?_ trivial
      intro i m m' hm hm' hchases hattack
      obtain ⟨hunt, hi, rfl⟩ := exists_hunt hm
      obtain ⟨hunt', hi', hhunt⟩ := step_hunt hstep hi
      rw [hunt_monster hi'] at hm'
      obtain rfl := Option.some.inj hm'
      exact absurd hattack (hhunt.engages (by simp) hchases)

/-- In a run every monster that goes from CHASE to ATTACK has its target in range
    exactly when no tick updates a chasing monster with its waypoint in range and
    its target out of range. So it is if monsters go straight for their targets. -/
theorem engages_in_range_iff (env : GameEnv ℝ) (spawns : List (MonsterSpawn ℝ))
    (labels : List (Label ℝ σ)) :
    (Meets (step env) (EngagesInRange env) (start spawns) labels
      ↔ Meets (step env) WaypointTells (start spawns) labels) ∧
    (Meets (step env) GoesStraight (start spawns) labels →
      Meets (step env) (EngagesInRange env) (start spawns) labels) := by
  have hiff : Meets (step env) (EngagesInRange env) (start spawns) labels
      ↔ Meets (step env) WaypointTells (start spawns) labels :=
    meets_congr (fun _ => True) (fun _ _ _ => trivial) (fun _ hstep => step_engages_iff hstep)
      trivial
  refine ⟨hiff, ?_⟩
  intro h
  exact hiff.mpr (h.imp fun s label => GoesStraight.waypointTells)

/-- A path to the player that has a waypoint on its way. -/
noncomputable def bentPath (x y : ℝ) : List (Vector3 ℝ) := [⟨0, 0, 0⟩, ⟨x, 0, 0⟩, ⟨y, 0, 0⟩]

/-- The monster on it, with the player at its end. -/
noncomputable def bending (x y : ℝ) : Monster ℝ := onPath y (bentPath x y)

/-- The monster attacks the waypoint. -/
theorem engages_waypoint :
    ¬ Meets (step (encounterEnv (9 / 10))) (EngagesInRange (encounterEnv (9 / 10)))
      (start [encounterSpawn])
      ([enter, .aiTick 0 .listed, .pathResult 0 (bentPath (2 / 5) (9 / 10))] ++
        [.aiTick 0 .listed]) := by
  intro h
  obtain ⟨s, hreached, hs⟩ := path_encounter (x := 9 / 10) (by norm_num) ⟨2 / 5, 0, 0⟩
    [⟨9 / 10, 0, 0⟩]
  have hengages : s.EngagesInRange (encounterEnv (9 / 10)) (.aiTick 0 .listed) :=
    Meets.of_exec [] h hreached rfl
  have hlive : (bending (2 / 5) (9 / 10)).state ≠ .dead := by
    intro hdead
    cases hdead
  have haim : s.aimOf .listed (bending (2 / 5) (9 / 10)) = (bending (2 / 5) (9 / 10), []) := by
    refine aimOf_keeps rfl hs.player rfl ?_ .listed
    show distance (9 / 10 - 0) (0 - 0) ≤ 3
    rw [sub_zero, sub_zero, distance_axis]
    norm_num
  have hwaypoint : (bending (2 / 5) (9 / 10)).WaypointInRange := by
    refine ⟨⟨2 / 5, 0, 0⟩, rfl, ?_⟩
    show distance (2 / 5 - 0) (0 - 0) ≤ 1 / 2
    rw [sub_zero, sub_zero, distance_axis]
    norm_num
  have hupdate : (bending (2 / 5) (9 / 10)).update 0
      = ({ bending (2 / 5) (9 / 10) with state := .attack }, []) :=
    congrArg (·, []) (Monster.updateChase_of_waypoint hwaypoint 0)
  have hcalm : (bending (2 / 5) (9 / 10)).state ≠ .attack := by
    intro hattack
    cases hattack
  have hafter := (hs.tick hlive haim hcalm hupdate).monster
  have hchases : (s.found 0 (bending (2 / 5) (9 / 10)) (.aiTick 0 .listed)).state = .chase := by
    rw [found_live s 0 hlive, show s.atPass .listed 0 0 = s from rfl, haim]
    rfl
  have hnear : distance ((9 : ℝ) / 10 - 0) (0 - 0) ≤ 1 / 2 :=
    hengages _ rfl 0 _ _ hs.monster hafter hchases rfl
  rw [sub_zero, sub_zero, distance_axis] at hnear
  norm_num [abs_le] at hnear

end GameContext

end MMOServers.GameServer

/-
MMOServers.GameServer.GlideTheorems — how far a tick takes a monster.

Monsters walk; a tick takes them `MOVE_SPEED` times its length at most. The one
exception is the end of a way back, where `UpdateReturn` puts a monster on its
spawn point, and it is harmless when the path that is used up was the path home,
since its last waypoint is less than `WAYPOINT_EPSILON` away then.

It need not have been the path home. `GiveUpChase` asks for that path and leaves
the old one in its place, and the monster walks on along it; when it is used up
before the result arrives, the monster is put on its spawn point from wherever
it is. The runs without such a jump are exactly those in which no monster has
used up its path while the path home is still awaited, or not far from home
(`glides_iff`).

`Homing` is the invariant: in RETURN a monster either waits for a path home or
is on one. What it needs of the rest of the world is in `Promised`: a path leads
from where it was asked for to where it was asked to lead.
-/
import MMOServers.GameServer.EngageTheorems

namespace MMOServers.GameServer

open MMOServers.Common Transition

/-- The points are at one height, and at this distance at most. -/
def Vector3.Within (r : ℝ) (p q : Vector3 ℝ) : Prop :=
  q.z = p.z ∧ distance (q.x - p.x) (q.y - p.y) ≤ r

theorem Vector3.Within.refl {r : ℝ} (h : 0 ≤ r) (p : Vector3 ℝ) : p.Within r p := by
  refine ⟨rfl, ?_⟩
  rw [sub_self, sub_self, distance_zero]
  exact h

namespace Monster

/-! ## Steps towards a waypoint -/

theorem moveTowards_within (m : Monster ℝ) {dx dy deltaTime : ℝ}
    (hfar : GameConstants.AI.waypointEpsilon ≤ distance dx dy) (htime : 0 ≤ deltaTime) :
    m.position.Within (GameConstants.Monster.moveSpeed * deltaTime)
      (m.moveTowards dx dy (distance dx dy) deltaTime).position := by
  have hpos : 0 < distance dx dy := by
    refine lt_of_lt_of_le ?_ hfar
    norm_num [GameConstants.AI.waypointEpsilon]
  have hlength : 0 ≤ GameConstants.Monster.moveSpeed * deltaTime / distance dx dy := by
    have hspeed : (0 : ℝ) ≤ GameConstants.Monster.moveSpeed := by
      norm_num [GameConstants.Monster.moveSpeed]
    exact div_nonneg (mul_nonneg hspeed htime) hpos.le
  refine ⟨rfl, le_of_eq ?_⟩
  calc distance (m.position.x + dx / distance dx dy * GameConstants.Monster.moveSpeed * deltaTime
          - m.position.x)
        (m.position.y + dy / distance dx dy * GameConstants.Monster.moveSpeed * deltaTime
          - m.position.y)
      = distance (GameConstants.Monster.moveSpeed * deltaTime / distance dx dy * dx)
          (GameConstants.Monster.moveSpeed * deltaTime / distance dx dy * dy) := by
        congr 1 <;> ring
    _ = GameConstants.Monster.moveSpeed * deltaTime / distance dx dy * distance dx dy := by
        rw [distance_scale, abs_of_nonneg hlength]
    _ = GameConstants.Monster.moveSpeed * deltaTime := div_mul_cancel₀ _ hpos.ne'

theorem speed_nonneg {deltaTime : ℝ} (htime : 0 ≤ deltaTime) :
    0 ≤ GameConstants.Monster.moveSpeed * deltaTime :=
  mul_nonneg (by norm_num [GameConstants.Monster.moveSpeed]) htime

theorem updateChase_within (m : Monster ℝ) {deltaTime : ℝ} (htime : 0 ≤ deltaTime) :
    m.position.Within (GameConstants.Monster.moveSpeed * deltaTime)
      (m.updateChase deltaTime).position := by
  have hstays : m.position.Within (GameConstants.Monster.moveSpeed * deltaTime) m.position :=
    Vector3.Within.refl (speed_nonneg htime) _
  unfold updateChase
  split
  · exact hstays
  · dsimp only
    split
    · exact hstays
    · split
      · exact hstays
      · rename_i hfar
        exact m.moveTowards_within (not_lt.mp hfar) htime

theorem updateReturn_within {m : Monster ℝ} {waypoint : Vector3 ℝ}
    (hwaypoint : m.currentPath[m.pathIndex]? = some waypoint) {deltaTime : ℝ}
    (htime : 0 ≤ deltaTime) :
    m.position.Within (GameConstants.Monster.moveSpeed * deltaTime)
      (m.updateReturn deltaTime).position := by
  unfold updateReturn
  rw [hwaypoint]
  dsimp only
  split
  · exact Vector3.Within.refl (speed_nonneg htime) _
  · rename_i hfar
    exact m.moveTowards_within (not_lt.mp hfar) htime

theorem updateAttack_position (m : Monster ℝ) (deltaTime : ℝ) :
    (m.updateAttack deltaTime).1.position = m.position := by
  unfold updateAttack
  dsimp only
  repeat' split
  all_goals rfl

/-- Only the end of a way back is not a walk. -/
theorem update_within {m : Monster ℝ}
    (hwalks : m.state = .return → m.currentPath[m.pathIndex]? ≠ none) {deltaTime : ℝ}
    (htime : 0 ≤ deltaTime) :
    m.position.Within (GameConstants.Monster.moveSpeed * deltaTime)
      (m.update deltaTime).1.position := by
  have hstays : m.position.Within (GameConstants.Monster.moveSpeed * deltaTime) m.position :=
    Vector3.Within.refl (speed_nonneg htime) _
  unfold update
  cases hstate : m.state with
  | idle => exact hstays
  | chase => exact m.updateChase_within htime
  | attack =>
      dsimp only
      rw [updateAttack_position]
      exact hstays
  | «return» =>
      obtain ⟨waypoint, hwaypoint⟩ := Option.ne_none_iff_exists'.mp (hwalks hstate)
      exact updateReturn_within hwaypoint htime
  | dead => exact hstays

theorem Aims.position {m : Monster ℝ} {r : Monster ℝ × List (MonsterCall ℝ)} (h : m.Aims r) :
    r.1.position = m.position := by
  cases h with
  | stays h => rfl
  | sees uid pos h => rfl
  | follows pos h => exact (m.updateTargetPosition_fields pos).2.2
  | givesUpChase h =>
      unfold giveUpChase
      split <;> rfl
  | givesUpAttack h => rfl

/-- The monster is on a path that ends at its spawn point, and when that is used up
    it has arrived. -/
structure OnWayHome (m : Monster ℝ) : Prop where
  ends : m.currentPath.getLast? = some m.spawnPosition
  index : m.pathIndex ≤ m.currentPath.length
  arrived : m.pathIndex = m.currentPath.length →
    distance (m.spawnPosition.x - m.position.x) (m.spawnPosition.y - m.position.y)
      < GameConstants.AI.waypointEpsilon

theorem OnWayHome.near {m : Monster ℝ} (h : m.OnWayHome)
    (hused : m.currentPath[m.pathIndex]? = none) :
    distance (m.spawnPosition.x - m.position.x) (m.spawnPosition.y - m.position.y)
      < GameConstants.AI.waypointEpsilon :=
  h.arrived (le_antisymm h.index (List.getElem?_eq_none_iff.mp hused))

/-- A path home that has just been applied. -/
theorem applyPath_onWayHome {m : Monster ℝ} {request : PathRequest ℝ} (h : m.Applies request)
    {waypoints : List (Vector3 ℝ)} (hends : waypoints.getLast? = some m.spawnPosition) :
    (m.applyPath request waypoints).OnWayHome := by
  have hpath := applyPath_currentPath h waypoints
  have hhome : (m.applyPath request waypoints).spawnPosition = m.spawnPosition :=
    traits_spawnPosition (m.applyPath_traits request waypoints)
  have hindex : (m.applyPath request waypoints).pathIndex < waypoints.length := by
    have hstate : ¬ (request.state ≠ m.state ∧
        ¬ (request.state = .chase ∧ m.state = .attack)) := by
      rintro ⟨hne, hnot⟩
      exact h.state.elim hne hnot
    unfold applyPath
    rw [if_neg (not_not.mpr h.version), if_neg h.live, if_neg hstate]
    cases waypoints with
    | nil => cases hends
    | cons first rest =>
        cases rest with
        | nil => exact Nat.one_pos
        | cons second rest =>
            dsimp only
            split <;> simp
  refine ⟨by rw [hpath, hhome, hends], by rw [hpath]; exact hindex.le, ?_⟩
  intro hused
  rw [hpath] at hused
  exact absurd hused hindex.ne

theorem updateReturn_onWayHome {m : Monster ℝ} (h : m.OnWayHome) {waypoint : Vector3 ℝ}
    (hwaypoint : m.currentPath[m.pathIndex]? = some waypoint) (deltaTime : ℝ) :
    (m.updateReturn deltaTime).OnWayHome := by
  obtain ⟨hlt, hget⟩ := List.getElem?_eq_some_iff.mp hwaypoint
  unfold updateReturn
  rw [hwaypoint]
  dsimp only
  split
  · rename_i hnear
    refine ⟨h.ends, hlt, ?_⟩
    intro hlast
    -- the waypoint that is left behind was the last one
    replace hlast : m.pathIndex + 1 = m.currentPath.length := hlast
    have hends := h.ends
    rw [List.getLast?_eq_getElem?, show m.currentPath.length - 1 = m.pathIndex by omega,
      hwaypoint, Option.some.injEq] at hends
    subst hends
    exact hnear
  · refine ⟨h.ends, h.index, ?_⟩
    intro hused
    exact absurd hused hlt.ne

end Monster

/-! ## The way home -/

/-- The monster waits for a path that it is going to apply. -/
def Hunt.Awaits {K : Type} (h : Hunt K) : Prop :=
  ∃ request ∈ h.pending, h.monster.Applies request

/-- Nobody leaves the height of his spawn point, what is asked for in RETURN leads
    home, and so does what is gone along when nothing is asked for. -/
structure Homing (h : Hunt ℝ) : Prop where
  level : h.monster.position.z = h.monster.spawnPosition.z
  asked : ∀ request ∈ h.pending, request.state = .return →
    request.stop = h.monster.spawnPosition
  way : h.monster.state = .return → h.Awaits ∨ h.monster.OnWayHome

namespace Homing

variable {h : Hunt ℝ}

/-- A change after which the monster is not in RETURN. -/
theorem elsewhere (hh : Homing h) {m : Monster ℝ} {pending : List (PathRequest ℝ)}
    (hhome : m.spawnPosition = h.monster.spawnPosition)
    (hlevel : m.position.z = m.spawnPosition.z) (hstate : m.state ≠ .return)
    (hpending : pending ⊆ h.pending) : Homing ⟨m, pending⟩ where
  level := hlevel
  asked := by
    intro request hmem hreturn
    rw [hhome]
    exact hh.asked request (hpending hmem) hreturn
  way hreturn := absurd hreturn hstate

/-- A new path is asked for. -/
theorem asks (hh : Homing h) {m : Monster ℝ} (hplace : m.position = h.monster.position)
    (hhome : m.spawnPosition = h.monster.spawnPosition) (live : m.state ≠ .dead)
    (htarget : m.state = .return → m.targetLastPos = m.spawnPosition) :
    Homing ⟨m.calculatePath.1, h.pending ++ pathRequests m.calculatePath.2⟩ := by
  let request : PathRequest ℝ := ⟨m.position, m.targetLastPos, m.nextVersion, m.state⟩
  have hrequests : pathRequests m.calculatePath.2 = [request] := rfl
  rw [hrequests]
  constructor
  · show m.position.z = m.spawnPosition.z
    rw [hplace, hhome]
    exact hh.level
  · intro r hr hreturn
    rcases List.mem_append.mp hr with hr | hr
    · exact (hh.asked r hr hreturn).trans hhome.symm
    · obtain rfl := List.mem_singleton.mp hr
      exact htarget hreturn
  · intro _
    exact Or.inl ⟨request, by simp, ⟨rfl, live, Or.inl rfl⟩⟩

/-- The monster looks for a target. -/
theorem aims (hh : Homing h) {r : Monster ℝ × List (MonsterCall ℝ)} (haims : h.monster.Aims r) :
    Homing ⟨r.1, h.pending ++ pathRequests r.2⟩ := by
  have hsame : Homing ⟨h.monster, h.pending ++ pathRequests []⟩ := by
    simpa [pathRequests] using hh
  cases haims with
  | stays hstate => exact hsame
  | sees uid pos hstate => exact hh.asks rfl rfl (by simp) (by simp)
  | follows pos hstate =>
      have hreturn : h.monster.state ≠ .return := by
        rcases hstate with hstate | hstate <;> simp [hstate]
      have hlive : h.monster.state ≠ .dead := by
        rcases hstate with hstate | hstate <;> simp [hstate]
      unfold Monster.updateTargetPosition
      split
      · exact hh.asks rfl rfl hlive fun h => absurd h hreturn
      · exact hsame
  | givesUpChase hstate =>
      rw [Monster.giveUpChase, if_pos hstate]
      exact hh.asks rfl rfl (by simp) fun _ => rfl
  | givesUpAttack hstate => exact hh.asks rfl rfl (by simp) fun _ => rfl

/-- The monster goes on with the path it has. -/
theorem walksOn (hh : Homing h) (returns : h.monster.state = .return) {waypoint : Vector3 ℝ}
    (hwaypoint : h.monster.currentPath[h.monster.pathIndex]? = some waypoint) (deltaTime : ℝ) :
    Homing ⟨h.monster.updateReturn deltaTime, h.pending⟩ := by
  have hkept : (h.monster.updateReturn deltaTime).pathRequestVersion
        = h.monster.pathRequestVersion ∧
      (h.monster.updateReturn deltaTime).state = .return ∧
      (h.monster.updateReturn deltaTime).position.z = h.monster.position.z := by
    rw [Monster.updateReturn, hwaypoint]
    dsimp only
    split <;> exact ⟨rfl, returns, rfl⟩
  obtain ⟨hversion, hreturn, hz⟩ := hkept
  have hhome : (h.monster.updateReturn deltaTime).spawnPosition = h.monster.spawnPosition :=
    Monster.traits_spawnPosition (h.monster.updateReturn_traits deltaTime)
  refine ⟨by rw [hz, hhome]; exact hh.level, by rw [hhome]; exact hh.asked, ?_⟩
  intro _
  rcases hh.way returns with ⟨request, hmem, happlies⟩ | hway
  · refine Or.inl ⟨request, hmem, hversion.trans happlies.version, by simp [hreturn], ?_⟩
    rw [hreturn, ← returns]
    exact happlies.state
  · exact Or.inr (Monster.updateReturn_onWayHome hway hwaypoint deltaTime)

/-- The monster is updated. -/
theorem update (hh : Homing h) (deltaTime : ℝ) :
    Homing ⟨(h.monster.update deltaTime).1,
      h.pending ++ pathRequests (h.monster.update deltaTime).2⟩ := by
  have hnone : h.pending ++ pathRequests [] = h.pending := List.append_nil _
  have hsame : Homing ⟨h.monster, h.pending ++ pathRequests []⟩ := by
    rw [hnone]
    exact hh
  unfold Monster.update
  cases hstate : h.monster.state with
  | idle => exact hsame
  | dead => exact hsame
  | chase =>
      dsimp only
      rw [hnone]
      unfold Monster.updateChase
      split
      · exact hh
      · dsimp only
        have hchase : h.monster.state ≠ .return := by simp [hstate]
        repeat' split
        · exact hh.elsewhere rfl hh.level (by simp) (List.Subset.refl _)
        · exact hh.elsewhere rfl hh.level hchase (List.Subset.refl _)
        · exact hh.elsewhere rfl hh.level hchase (List.Subset.refl _)
  | attack =>
      unfold Monster.updateAttack
      dsimp only
      split
      · exact hh.asks rfl rfl (by simp) (by simp)
      · have hattack : h.monster.state ≠ .return := by simp [hstate]
        split
        · rw [show pathRequests [.attack h.monster.monsterId h.monster.targetUserId
            h.monster.attackPower] = ([] : List (PathRequest ℝ)) from rfl, List.append_nil]
          exact hh.elsewhere rfl hh.level hattack (List.Subset.refl _)
        · rw [hnone]
          exact hh.elsewhere rfl hh.level hattack (List.Subset.refl _)
  | «return» =>
      dsimp only
      rw [hnone]
      cases hwaypoint : h.monster.currentPath[h.monster.pathIndex]? with
      | none =>
          rw [Monster.updateReturn, hwaypoint]
          exact hh.elsewhere rfl rfl (by simp) (List.Subset.refl _)
      | some waypoint =>
          exact hh.walksOn hstate hwaypoint deltaTime

/-- The result of a path request arrives. -/
theorem path (hh : Homing h) {k : Nat} {request : PathRequest ℝ}
    (asked : h.pending[k]? = some request) {waypoints : List (Vector3 ℝ)}
    (hends : waypoints.getLast? = some request.stop) :
    Homing ⟨h.monster.applyPath request waypoints, h.pending.eraseIdx k⟩ := by
  have hhome : (h.monster.applyPath request waypoints).spawnPosition = h.monster.spawnPosition :=
    Monster.traits_spawnPosition (h.monster.applyPath_traits request waypoints)
  have hplace : (h.monster.applyPath request waypoints).position = h.monster.position := by
    unfold Monster.applyPath
    repeat' split
    all_goals rfl
  constructor
  · show (h.monster.applyPath request waypoints).position.z = _
    rw [hplace, hhome]
    exact hh.level
  · intro r hr hreturn
    rw [hhome]
    exact hh.asked r (List.mem_of_mem_eraseIdx hr) hreturn
  · intro hreturn
    replace hreturn : h.monster.state = .return :=
      (h.monster.applyPath_vitals request waypoints).2.symm.trans hreturn
    by_cases happlies : h.monster.Applies request
    · have hstate : request.state = .return := by
        rcases happlies.state with hstate | ⟨-, hattack⟩
        · exact hstate.trans hreturn
        · rw [hreturn] at hattack
          cases hattack
      rw [hh.asked request (List.mem_of_getElem? asked) hstate] at hends
      exact Or.inr (Monster.applyPath_onWayHome happlies hends)
    · rw [Monster.applyPath_of_not happlies]
      rcases hh.way hreturn with ⟨r, hr, hr'⟩ | hway
      · -- what is still waited for is another result
        refine Or.inl ⟨r, ?_, hr'⟩
        obtain ⟨j, hj⟩ := List.mem_iff_getElem?.mp hr
        refine List.mem_eraseIdx_iff_getElem?.mpr ⟨j, ?_, hj⟩
        rintro rfl
        exact happlies (Option.some.inj (hj.symm.trans asked) ▸ hr')
      · exact Or.inr hway

/-- Hit points are of no matter. -/
theorem setHp (hh : Homing h) (hp : Int) :
    Homing { h with monster := { h.monster with hp := hp } } where
  level := hh.level
  asked := hh.asked
  way := by
    intro hreturn
    rcases hh.way hreturn with ⟨request, hmem, happlies⟩ | hway
    · exact Or.inl ⟨request, hmem, happlies.version, happlies.live, happlies.state⟩
    · exact Or.inr ⟨hway.ends, hway.index, hway.arrived⟩

theorem struck (hh : Homing h) (damage : Int) :
    Homing { h with monster := h.monster.struck damage } := by
  unfold Monster.struck
  dsimp only
  split
  · exact hh.elsewhere rfl hh.level (by simp [Monster.die]) (List.Subset.refl _)
  · exact hh.setHp _

theorem tick (hh : Homing h) {deltaTime : ℝ} {h' : Hunt ℝ} (ht : TickStep deltaTime h h') :
    Homing h' := by
  cases ht with
  | waits dead early =>
      refine hh.elsewhere rfl hh.level ?_ (List.Subset.refl _)
      show h.monster.state ≠ .return
      rw [dead]
      decide
  | respawns dead due => exact hh.elsewhere rfl rfl (by simp [Monster.respawn]) (List.Subset.refl _)
  | acts live r aims => exact (hh.aims aims).update deltaTime

end Homing

/-- In a tick a monster walks or arrives, unless it is put on its spawn point from
    afar while a path home is still awaited. -/
theorem update_glides_iff {h : Hunt ℝ} (hh : Homing h) {deltaTime : ℝ} (htime : 0 ≤ deltaTime) :
    (h.monster.position.Within (GameConstants.Monster.moveSpeed * deltaTime)
        (h.monster.update deltaTime).1.position ∨
      h.monster.state = .return ∧ (h.monster.update deltaTime).1.state = .idle ∧
        (h.monster.update deltaTime).1.position = h.monster.spawnPosition ∧
        h.monster.position.Within GameConstants.AI.waypointEpsilon
          (h.monster.update deltaTime).1.position)
    ↔ (h.monster.state = .return → h.monster.currentPath[h.monster.pathIndex]? = none →
        h.Awaits →
          distance (h.monster.spawnPosition.x - h.monster.position.x)
              (h.monster.spawnPosition.y - h.monster.position.y)
            ≤ max (GameConstants.Monster.moveSpeed * deltaTime)
              GameConstants.AI.waypointEpsilon) := by
  by_cases hends : h.monster.state = .return ∧
      h.monster.currentPath[h.monster.pathIndex]? = none
  · obtain ⟨hreturn, hused⟩ := hends
    have hupdate : (h.monster.update deltaTime).1
        = { h.monster with position := h.monster.spawnPosition, state := .idle } := by
      rw [Monster.update, hreturn]
      dsimp only
      rw [Monster.updateReturn, hused]
    rw [hupdate, le_max_iff]
    constructor
    · rintro (⟨-, hwithin⟩ | ⟨-, -, -, -, hwithin⟩) _ _ _
      · exact Or.inl hwithin
      · exact Or.inr hwithin
    · intro hnear
      rcases hh.way hreturn with hawaits | hway
      · rcases hnear hreturn hused hawaits with hnear | hnear
        · exact Or.inl ⟨hh.level.symm, hnear⟩
        · exact Or.inr ⟨hreturn, rfl, rfl, hh.level.symm, hnear⟩
      · exact Or.inr ⟨hreturn, rfl, rfl, hh.level.symm, (hway.near hused).le⟩
  · refine iff_of_true (Or.inl (Monster.update_within ?_ htime)) ?_
    · intro hreturn hused
      exact hends ⟨hreturn, hused⟩
    · intro hreturn hused
      exact absurd ⟨hreturn, hused⟩ hends

/-! ## Runs -/

namespace GameContext

variable {σ : Type}

/-- What the labels promise: a tick takes time, and a path leads from where it was
    asked for to where it was asked to lead. -/
def Promised (s : GameContext ℝ σ) : Label ℝ σ → Prop
  | .aiTick deltaTime _ => 0 ≤ deltaTime
  | .pathResult n waypoints => ∀ task, s.pathTasks[n]? = some task →
      waypoints.head? = some task.request.start ∧ waypoints.getLast? = some task.request.stop
  | _ => True

/-- A tick takes a live monster no farther than it can walk, or ends its way back
    with what is left of it. -/
def Glides (s : GameContext ℝ σ) : Label ℝ σ → Prop
  | .aiTick deltaTime order => ∀ i m m', s.monsters[i]? = some m → m.state ≠ .dead →
      (s.aiTick order deltaTime).monsters[i]? = some m' →
      m.position.Within (GameConstants.Monster.moveSpeed * deltaTime) m'.position ∨
        (s.found i m (.aiTick deltaTime order)).state = .return ∧ m'.state = .idle ∧
          m'.position = m.spawnPosition ∧
          m.position.Within GameConstants.AI.waypointEpsilon m'.position
  | _ => True

/-- A monster that a tick updates in RETURN with its path used up does not wait for
    its path home any more, or it is near its spawn point. -/
def HomeInTime (s : GameContext ℝ σ) : Label ℝ σ → Prop
  | .aiTick deltaTime order => ∀ i h, s.hunt i = some h → h.monster.state ≠ .dead →
      let r := (s.atPass order deltaTime i).aimOf order h.monster
      r.1.state = .return → r.1.currentPath[r.1.pathIndex]? = none →
        Hunt.Awaits ⟨r.1, h.pending ++ pathRequests r.2⟩ →
          distance (r.1.spawnPosition.x - r.1.position.x)
              (r.1.spawnPosition.y - r.1.position.y)
            ≤ max (GameConstants.Monster.moveSpeed * deltaTime)
              GameConstants.AI.waypointEpsilon
  | _ => True

def AllHoming (s : GameContext ℝ σ) : Prop := ∀ i h, s.hunt i = some h → Homing h

theorem start_homing (spawns : List (MonsterSpawn ℝ)) :
    AllHoming (start spawns : GameContext ℝ σ) := by
  intro i h hi
  rw [start_hunt] at hi
  obtain ⟨data, -, rfl⟩ := Option.map_eq_some_iff.mp hi
  refine ⟨rfl, by simp, ?_⟩
  intro hreturn
  cases hreturn

/-- The task whose result a monster gets. -/
theorem pending_task {s : GameContext ℝ σ} {i n k : Nat} {h : Hunt ℝ} (hi : s.hunt i = some h)
    (answers : s.pendingIndex i n = some k) :
    ∃ task, s.pathTasks[n]? = some task ∧ h.pending[k]? = some task.request := by
  have hanswers := answers
  obtain ⟨task, htask, -⟩ := Option.bind_eq_some_iff.mp hanswers
  rcases pathResult_hunt htask [] hi with ⟨hnone, -⟩ | ⟨k', hk', -, hpending, -⟩
  · rw [answers] at hnone
    cases hnone
  · rw [answers, Option.some.injEq] at hk'
    subst hk'
    exact ⟨task, htask, hpending⟩

theorem HuntStep.homing {env : GameEnv ℝ} {s : GameContext ℝ σ} {i : Nat} {h h' : Hunt ℝ}
    {label : Label ℝ σ} (hs : HuntStep env s i h label h') (hi : s.hunt i = some h)
    (hh : Homing h) (hpromised : s.Promised label) : Homing h' := by
  cases hs with
  | aside untimed unanswered => exact hh
  | hit gw selected live => exact hh.struck _
  | buffed parsed buffs => exact hh.setHp _
  | ticks order tick => exact hh.tick tick
  | path waypoints answers asked =>
      obtain ⟨task, htask, hpending⟩ := pending_task hi answers
      obtain rfl := Option.some.inj (asked.symm.trans hpending)
      exact hh.path asked (hpromised task htask).2

variable [DecidableEq σ]

theorem step_homing {env : GameEnv ℝ} {s s' : GameContext ℝ σ} {label : Label ℝ σ}
    (hs : s.AllHoming) (hpromised : s.Promised label) (hstep : step env s label = some s') :
    s'.AllHoming := by
  intro i h' hi'
  obtain ⟨h, hi, hhunt⟩ := step_hunt_of hstep hi'
  exact hhunt.homing hi (hs i h hi) hpromised

omit [DecidableEq σ] in
theorem glides_iff_homeInTime {s : GameContext ℝ σ} {label : Label ℝ σ} (hs : s.AllHoming)
    (hpromised : s.Promised label) : s.Glides label ↔ s.HomeInTime label := by
  cases label with
  | aiTick deltaTime order =>
      -- one monster
      have hpass : ∀ i h, s.hunt i = some h → h.monster.state ≠ .dead → ∀ m',
          (s.aiTick order deltaTime).monsters[i]? = some m' →
          let r := (s.atPass order deltaTime i).aimOf order h.monster
          m' = (r.1.update deltaTime).1 ∧ r.1.position = h.monster.position ∧
            r.1.spawnPosition = h.monster.spawnPosition ∧
            Homing ⟨r.1, h.pending ++ pathRequests r.2⟩ := by
        intro i h hi hlive m' hm' r
        have haims := (s.atPass order deltaTime i).aimOf_aims order hlive
        have hafter := hunt_monster (aiTick_live hi hlive order deltaTime)
        exact ⟨Option.some.inj (hm'.symm.trans hafter), haims.position,
          Monster.traits_spawnPosition haims.traits, (hs i h hi).aims haims⟩
      constructor
      · intro h i hunt hi hlive r
        have hafter := hunt_monster (aiTick_live hi hlive order deltaTime)
        obtain ⟨-, hposition, hhome, hhoming⟩ := hpass i hunt hi hlive _ hafter
        have hglides := h i _ _ (hunt_monster hi) hlive hafter
        rw [found_live s i hlive] at hglides
        refine (update_glides_iff hhoming hpromised).mp ?_
        simp only [hposition, hhome]
        exact hglides
      · intro h i m m' hm hlive hm'
        obtain ⟨hunt, hi, rfl⟩ := exists_hunt hm
        obtain ⟨rfl, hposition, hhome, hhoming⟩ := hpass i hunt hi hlive m' hm'
        have hglides := (update_glides_iff hhoming hpromised).mpr (h i hunt hi hlive)
        simp only [hposition, hhome] at hglides
        rw [found_live s i hlive]
        exact hglides
  | _ => exact Iff.rfl

/-- In a run whose paths lead where they were asked to lead no tick takes a monster
    farther than it can walk, the end of a way back apart, exactly when no monster
    has used up its path far from home while its path home is still awaited. -/
theorem glides_iff (env : GameEnv ℝ) (spawns : List (MonsterSpawn ℝ)) (labels : List (Label ℝ σ))
    (h : Meets (step env) Promised (start spawns) labels) :
    Meets (step env) Glides (start spawns) labels
      ↔ Meets (step env) HomeInTime (start spawns) labels :=
  meets_congr_of_meets AllHoming step_homing
    (fun hs hpromised _ => glides_iff_homeInTime hs hpromised) (start_homing spawns) h

noncomputable def strayPath (far : ℝ) : List (Vector3 ℝ) := [⟨0, 0, 0⟩, ⟨far, 0, 0⟩]

/-- The player leaves as soon as the monster has its path, and the path home does not
    arrive for four ticks. -/
noncomputable def stray (far deltaTime : ℝ) : List (Label ℝ Nat) :=
  [enter, .aiTick 0 .listed, .pathResult 0 (strayPath far), leave] ++
    List.replicate 4 (.aiTick deltaTime .listed)

theorem stray_promised :
    Meets (step (encounterEnv (2 / 5))) Promised (start [encounterSpawn])
      (stray (2 / 5) (1 / 10)) := by
  have hlabels : ∀ (s : GameContext ℝ Nat) labels,
      (∀ label ∈ labels, ∀ s : GameContext ℝ Nat, s.Promised label) →
        Meets (step (encounterEnv (2 / 5))) Promised s labels := by
    intro s labels h
    exact meets_of_labels (fun _ => True) (fun _ _ _ => trivial) (fun _ h _ => h _) trivial h
  have htick : ∀ deltaTime : ℝ, 0 ≤ deltaTime → ∀ s : GameContext ℝ Nat,
      s.Promised (.aiTick deltaTime .listed) := fun _ h _ => h
  obtain ⟨s, hseen, hs⟩ := seen_encounter (x := 2 / 5) (by norm_num)
  show Meets _ _ _ ([enter, .aiTick 0 .listed] ++ .pathResult 0 (strayPath (2 / 5)) :: leave ::
    List.replicate 4 (.aiTick (1 / 10) .listed))
  rw [meets_append hseen]
  refine ⟨hlabels _ _ ?_, meets_cons.mpr ?_⟩
  · simp only [List.forall_mem_cons]
    exact ⟨fun _ => trivial, htick 0 le_rfl, by simp⟩
  · intro s' _
    refine ⟨?_, hlabels _ _ ?_⟩
    · intro task htask
      rw [hs.tasks] at htask
      obtain rfl := Option.some.inj htask
      exact ⟨rfl, rfl⟩
    · simp only [List.forall_mem_cons, List.mem_replicate]
      refine ⟨fun _ => trivial, ?_⟩
      rintro label ⟨-, rfl⟩
      exact htick (1 / 10) (by norm_num)

theorem glides_stray :
    Meets (step (encounterEnv (2 / 5))) Promised (start [encounterSpawn])
      (stray (2 / 5) (1 / 10)) ∧
      (Meets (step (encounterEnv (2 / 5))) Glides (start [encounterSpawn])
      (stray (2 / 5) (1 / 10))
        ↔ Meets (step (encounterEnv (2 / 5))) HomeInTime (start [encounterSpawn])
      (stray (2 / 5) (1 / 10))) :=
  ⟨stray_promised, glides_iff (encounterEnv (2 / 5)) [encounterSpawn] (stray (2 / 5) (1 / 10))
    stray_promised⟩

/-- The monster on its way back, at a point of its old path. -/
noncomputable def straying (far x : ℝ) (pathIndex : Nat) : Monster ℝ :=
  { onPath far (strayPath far) with
      state := .return
      position := ⟨x, 0, 0⟩
      targetLastPos := ⟨0, 0, 0⟩
      pathRequestVersion := 2
      pathIndex := pathIndex }

theorem straying_walks {x : ℝ} (hx : 1 / 10 ≤ 2 / 5 - x) :
    (straying (2 / 5) x 1).update (1 / 10) = (straying (2 / 5) (x + 1 / 5) 1, []) := by
  have hpos : 0 < 2 / 5 - x := lt_of_lt_of_le (by norm_num) hx
  have hdist : distance (2 / 5 - x) (0 - 0) = 2 / 5 - x := by
    rw [sub_zero, distance_axis, abs_of_pos hpos]
  have hfar : ¬ distance (2 / 5 - x) (0 - 0) < GameConstants.AI.waypointEpsilon := by
    rw [hdist]
    exact not_lt.mpr hx
  have hupdate : (straying (2 / 5) x 1).updateReturn (1 / 10)
      = (straying (2 / 5) x 1).moveTowards (2 / 5 - x) (0 - 0) (distance (2 / 5 - x) (0 - 0))
        (1 / 10) :=
    if_neg hfar
  have hstep : x + (2 / 5 - x) / (2 / 5 - x) * GameConstants.Monster.moveSpeed * (1 / 10)
      = x + 1 / 5 := by
    rw [div_self hpos.ne']
    norm_num [GameConstants.Monster.moveSpeed]
  have hside : (0 : ℝ) + (0 - 0) / (2 / 5 - x) * GameConstants.Monster.moveSpeed * (1 / 10)
      = 0 := by simp
  show ((straying (2 / 5) x 1).updateReturn (1 / 10), []) = _
  rw [hupdate, hdist]
  simp only [Monster.moveTowards, straying, hstep, hside]

theorem straying_arrives :
    (straying (2 / 5) (2 / 5) 1).update (1 / 10) = (straying (2 / 5) (2 / 5) 2, []) := by
  have hnear : distance ((2 : ℝ) / 5 - 2 / 5) (0 - 0) < GameConstants.AI.waypointEpsilon := by
    rw [sub_self, sub_self, distance_zero]
    norm_num [GameConstants.AI.waypointEpsilon]
  exact congrArg (·, []) (if_pos hnear)

/-- In the last tick the monster is put back from 0.4 away. -/
theorem stray_jumps :
    Meets (step (encounterEnv (2 / 5))) Promised (start [encounterSpawn])
      (stray (2 / 5) (1 / 10)) ∧
      ¬ Meets (step (encounterEnv (2 / 5))) Glides (start [encounterSpawn])
      (stray (2 / 5) (1 / 10)) := by
  refine ⟨stray_promised, ?_⟩
  intro h
  obtain ⟨s₃, hpath, h₃⟩ := path_encounter (x := 2 / 5) (by norm_num) ⟨2 / 5, 0, 0⟩ []
  have hparse : (encounterEnv (2 / 5)).parseLeaveReq [] = some ⟨"a"⟩ := rfl
  obtain ⟨s₄, hleave, h₄⟩ := h₃.leave rfl hparse 0 .listed
  have hstate : ∀ x i, (straying (2 / 5) x i).state = .return := fun _ _ => rfl
  have hlive : ∀ x i, (straying (2 / 5) x i).state ≠ .dead := by simp [hstate]
  have hcalm : ∀ x i, (straying (2 / 5) x i).state ≠ .attack := by simp [hstate]
  -- it gives up and walks on, twice, and then finds its path used up
  have hgivesUp := aimOf_loses (s := s₄) (m := onPath (2 / 5) (strayPath (2 / 5))) rfl h₄.player
    .listed
  have h₅ := h₄.tick (by simp [onPath, chasing]) hgivesUp (hcalm 0 1)
    (straying_walks (x := 0) (by norm_num))
  have h₆ := h₅.tick (hlive _ 1) (aimOf_returns (hstate _ 1) .listed) (hcalm _ 1)
    (straying_walks (by norm_num))
  rw [show (0 : ℝ) + 1 / 5 + 1 / 5 = 2 / 5 by norm_num] at h₆
  have h₇ := h₆.tick (hlive _ 1) (aimOf_returns (hstate _ 1) .listed) (hcalm _ 1)
    straying_arrives
  have hends : (straying (2 / 5) (2 / 5) 2).update (1 / 10)
      = ({ straying (2 / 5) (2 / 5) 2 with position := ⟨0, 0, 0⟩, state := .idle }, []) := rfl
  have h₈ := h₇.tick (hlive _ 2) (aimOf_returns (hstate _ 2) .listed) (hcalm _ 2) hends
  have hreached : exec (step (encounterEnv (2 / 5))) (start [encounterSpawn])
      ([enter, .aiTick 0 .listed, .pathResult 0 (strayPath (2 / 5)), leave] ++
        List.replicate 3 (.aiTick (1 / 10) .listed)) = some _ :=
    exec_append_some.mpr ⟨s₄, exec_append_some.mpr ⟨s₃, hpath, exec_cons_some.mpr
      ⟨s₄, hleave, rfl⟩⟩, rfl⟩
  have hglides := Meets.of_exec (a := .aiTick (1 / 10) .listed) [] h hreached rfl
  have hjump : distance (0 - 2 / 5 : ℝ) (0 - 0) = 2 / 5 := by
    rw [sub_zero, zero_sub, distance_axis, abs_neg, abs_of_pos (by norm_num)]
  rcases hglides 0 _ _ h₇.monster (hlive _ 2) h₈.monster with ⟨-, hwalk⟩ | ⟨-, -, -, -, hrest⟩
  · replace hwalk : distance (0 - 2 / 5 : ℝ) (0 - 0)
      ≤ GameConstants.Monster.moveSpeed * (1 / 10) := hwalk
    rw [hjump] at hwalk
    norm_num [GameConstants.Monster.moveSpeed] at hwalk
  · replace hrest : distance (0 - 2 / 5 : ℝ) (0 - 0) ≤ GameConstants.AI.waypointEpsilon := hrest
    rw [hjump] at hrest
    norm_num [GameConstants.AI.waypointEpsilon] at hrest

end GameContext

end MMOServers.GameServer

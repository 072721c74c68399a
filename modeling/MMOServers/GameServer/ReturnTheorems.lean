/-
MMOServers.GameServer.ReturnTheorems — whether a monster gets home.

`UpdateReturn` makes a step of `MOVE_SPEED` times the length of the tick, however
near the waypoint is, and counts a waypoint as reached within
`WAYPOINT_EPSILON`. With the ticks of the server a step is at least twice as
long as that, so a monster can step over a waypoint, and back over it in the
next tick, for ever.

A monster in RETURN is a walker of `MMOServers.Lib.Stride` until its path is used
up, and gets home exactly when the walker finishes (`returns_iff`): on every leg
of the path the distance has to be a whole number of steps, up to the epsilon.
-/
import MMOServers.GameServer.RealDistance
import MMOServers.GameServer.TickPass
import MMOServers.Lib.Stride
import Mathlib.Analysis.InnerProductSpace.Basic

namespace MMOServers.GameServer

open MMOServers.Common

/-- The point of the plane. -/
def Vector3.point (v : Vector3 ℝ) : ℂ := ⟨v.x, v.y⟩

theorem Vector3.norm_point_sub (v w : Vector3 ℝ) :
    ‖w.point - v.point‖ = distance (w.x - v.x) (w.y - v.y) := by
  rw [distance_eq_norm]
  congr 1
  apply Complex.ext <;> simp [Vector3.point]

namespace Monster

/-- A step of a tick. -/
noncomputable def stepLength (deltaTime : ℝ) : ℝ := GameConstants.Monster.moveSpeed * deltaTime

theorem moveTowards_point (m : Monster ℝ) (waypoint : Vector3 ℝ) (deltaTime : ℝ) :
    (m.moveTowards (waypoint.x - m.position.x) (waypoint.y - m.position.y)
        (distance (waypoint.x - m.position.x) (waypoint.y - m.position.y)) deltaTime).position.point
      = Stride.toward waypoint.point m.position.point (stepLength deltaTime) := by
  rw [Stride.toward, Vector3.norm_point_sub]
  apply Complex.ext
  · simp only [moveTowards, Vector3.point, stepLength, Complex.add_re, Complex.real_smul,
      Complex.mul_re, Complex.ofReal_re, Complex.ofReal_im, Complex.sub_re]
    ring
  · simp only [moveTowards, Vector3.point, stepLength, Complex.add_im, Complex.real_smul,
      Complex.mul_im, Complex.ofReal_re, Complex.ofReal_im, Complex.sub_im]
    ring

/-- Where the monster is, and the waypoints it has ahead. -/
def walker (m : Monster ℝ) : ℂ × List ℂ :=
  (m.position.point, (m.currentPath.drop m.pathIndex).map Vector3.point)

/-- On every leg of the path the distance is a whole number of steps, up to the
    epsilon. -/
def StepsFit (m : Monster ℝ) (deltaTime : ℝ) : Prop :=
  Stride.Hits GameConstants.AI.waypointEpsilon (stepLength deltaTime) m.walker.1 m.walker.2

/-- `UpdateReturn` so many times. -/
noncomputable def afterReturns (deltaTime : ℝ) (n : Nat) (m : Monster ℝ) : Monster ℝ :=
  (fun m => m.updateReturn deltaTime)^[n] m

/-- The monster is back. -/
def IsHome (m : Monster ℝ) : Prop := m.state = .idle ∧ m.position = m.spawnPosition

/-! ## Updates -/

theorem walker_ahead {m : Monster ℝ} {waypoint : Vector3 ℝ}
    (h : m.currentPath[m.pathIndex]? = some waypoint) :
    m.walker = (m.position.point,
      waypoint.point :: (m.currentPath.drop (m.pathIndex + 1)).map Vector3.point) := by
  obtain ⟨hlt, hget⟩ := List.getElem?_eq_some_iff.mp h
  rw [walker, List.drop_eq_getElem_cons hlt, hget, List.map_cons]

theorem walker_done_iff {m : Monster ℝ} :
    m.walker.2 = [] ↔ m.currentPath[m.pathIndex]? = none := by
  rw [walker, List.map_eq_nil_iff, List.drop_eq_nil_iff, List.getElem?_eq_none_iff]

/-- With a waypoint ahead the update is a tick of the walker. -/
theorem updateReturn_walks {m : Monster ℝ} (h : m.walker.2 ≠ []) (deltaTime : ℝ) :
    (m.updateReturn deltaTime).walker
        = Stride.step GameConstants.AI.waypointEpsilon (stepLength deltaTime) m.walker ∧
      (m.updateReturn deltaTime).state = m.state := by
  obtain ⟨waypoint, hwaypoint⟩ := Option.ne_none_iff_exists'.mp (mt walker_done_iff.mpr h)
  rw [walker_ahead hwaypoint, updateReturn, hwaypoint]
  dsimp only
  by_cases hnear : distance (waypoint.x - m.position.x) (waypoint.y - m.position.y)
      < GameConstants.AI.waypointEpsilon
  · rw [if_pos hnear, Stride.step_near (by rwa [Vector3.norm_point_sub])]
    exact ⟨rfl, rfl⟩
  · rw [if_neg hnear, Stride.step_far (by rw [Vector3.norm_point_sub]; exact not_lt.mp hnear),
      ← moveTowards_point]
    exact ⟨walker_ahead hwaypoint, rfl⟩

/-- Without one it puts the monster on its spawn point. -/
theorem updateReturn_ends {m : Monster ℝ} (h : m.walker.2 = []) (deltaTime : ℝ) :
    (m.updateReturn deltaTime).IsHome := by
  rw [updateReturn, walker_done_iff.mp h]
  exact ⟨rfl, rfl⟩

/-! ## The way back -/

/-- The monster that is back had a walker that finished. -/
theorem finishes_of_isHome {m : Monster ℝ} (returns : m.state = .return) {deltaTime : ℝ} {n : Nat}
    (h : (afterReturns deltaTime n m).IsHome) :
    Stride.Finishes GameConstants.AI.waypointEpsilon (stepLength deltaTime) m.walker := by
  induction n generalizing m with
  | zero =>
      have hidle : m.state = .idle := h.1
      rw [returns] at hidle
      cases hidle
  | succ n ih =>
      by_cases hdone : m.walker.2 = []
      · exact ⟨0, hdone⟩
      · obtain ⟨hwalk, hstate⟩ := updateReturn_walks hdone deltaTime
        have hrest := ih (hstate.trans returns) h
        rw [hwalk] at hrest
        exact (Stride.finishes_iterate 1 m.walker).mp hrest

theorem isHome_of_finishes {m : Monster ℝ} {deltaTime : ℝ}
    (h : Stride.Finishes GameConstants.AI.waypointEpsilon (stepLength deltaTime) m.walker) :
    ∃ n, (afterReturns deltaTime n m).IsHome := by
  obtain ⟨n, hn⟩ := h
  induction n generalizing m with
  | zero => exact ⟨1, updateReturn_ends hn deltaTime⟩
  | succ n ih =>
      by_cases hdone : m.walker.2 = []
      · exact ⟨1, updateReturn_ends hdone deltaTime⟩
      · rw [Function.iterate_succ_apply, ← (updateReturn_walks hdone deltaTime).1] at hn
        obtain ⟨k, hk⟩ := ih hn
        exact ⟨k + 1, hk⟩

theorem stepLength_ge {deltaTime : ℝ}
    (htick : (GameConstants.AI.tickIntervalMs : ℝ) / 1000 ≤ deltaTime) :
    2 * GameConstants.AI.waypointEpsilon ≤ stepLength deltaTime := by
  norm_num [GameConstants.AI.tickIntervalMs] at htick
  norm_num [GameConstants.AI.waypointEpsilon, stepLength, GameConstants.Monster.moveSpeed]
  linarith

/-- With ticks of one length, not shorter than the interval of the timer, a monster
    in RETURN is IDLE at its spawn point some day exactly when the steps fit the
    legs of its path, wherever it is and whatever the path. -/
theorem returns_iff {m : Monster ℝ} (returns : m.state = .return) {deltaTime : ℝ}
    (htick : (GameConstants.AI.tickIntervalMs : ℝ) / 1000 ≤ deltaTime) :
    (∃ n, (afterReturns deltaTime n m).IsHome) ↔ m.StepsFit deltaTime := by
  have hpos : (0 : ℝ) < GameConstants.AI.waypointEpsilon := by
    norm_num [GameConstants.AI.waypointEpsilon]
  have hfits := Stride.finishes_iff hpos (stepLength_ge htick) m.walker.1 m.walker.2
  constructor
  · rintro ⟨n, hn⟩
    exact hfits.mp (finishes_of_isHome returns hn)
  · intro h
    exact isHome_of_finishes (hfits.mpr h)

/-! ## Two monsters on their way -/

/-- A monster at a point of the axis that waits for its path home. -/
noncomputable def astray (x : ℝ) : Monster ℝ :=
  { Monster.spawn ⟨10001, 0, 0, 20, 60⟩ with
      position := ⟨x, 0, 0⟩
      state := .return
      pathRequestVersion := 1 }

/-- It gets it. -/
noncomputable def homeward (x : ℝ) : Monster ℝ :=
  (astray x).applyPath ⟨⟨x, 0, 0⟩, ⟨0, 0, 0⟩, 1, .return⟩ [⟨x, 0, 0⟩, ⟨0, 0, 0⟩]

theorem homeward_walker (x : ℝ) :
    (homeward x).state = .return ∧ (homeward x).walker = (⟨x, 0⟩, [⟨0, 0⟩]) := by
  have hfirst : distance (x - x) (0 - 0) < GameConstants.AI.waypointEpsilon := by
    rw [sub_self, sub_self, distance_zero]
    norm_num [GameConstants.AI.waypointEpsilon]
  have happlied : homeward x
      = { astray x with currentPath := [⟨x, 0, 0⟩, ⟨0, 0, 0⟩], pathIndex := 1 } := by
    simp only [homeward, astray, applyPath, hfirst]
    simp
  rw [happlied]
  exact ⟨rfl, rfl⟩

theorem norm_axis (x : ℝ) : ‖(⟨0, 0⟩ : ℂ) - ⟨x, 0⟩‖ = |x| := by
  have h := Vector3.norm_point_sub ⟨x, 0, 0⟩ ⟨0, 0, 0⟩
  have hpoint : Vector3.point ⟨0, 0, 0⟩ - Vector3.point ⟨x, 0, 0⟩ = (⟨0, 0⟩ : ℂ) - ⟨x, 0⟩ := rfl
  rw [← hpoint, h, sub_self, distance_axis, zero_sub, abs_neg]

/-- Two steps of 0.2 take a monster home from 0.4 away. -/
theorem returns_twoSteps : ∃ n, (afterReturns (1 / 10) n (homeward (2 / 5))).IsHome := by
  obtain ⟨hstate, hwalker⟩ := homeward_walker (2 / 5)
  have htick : (GameConstants.AI.tickIntervalMs : ℝ) / 1000 ≤ 1 / 10 := by
    norm_num [GameConstants.AI.tickIntervalMs]
  refine (returns_iff hstate htick).mpr ?_
  rw [StepsFit, hwalker]
  refine ⟨2, ?_, trivial⟩
  rw [norm_axis]
  norm_num [stepLength, GameConstants.Monster.moveSpeed, GameConstants.AI.waypointEpsilon]

/-- From 0.375 away a monster with ticks of an eighth of a second goes to and fro for
    ever, at 0.125 on either side. These are numbers that a `float` holds exactly. -/
theorem returns_never : ¬ ∃ n, (afterReturns (1 / 8) n (homeward (3 / 8))).IsHome := by
  rintro ⟨k, hk⟩
  obtain ⟨hstate, hwalker⟩ := homeward_walker (3 / 8)
  have hpos : (0 : ℝ) < GameConstants.AI.waypointEpsilon := by
    norm_num [GameConstants.AI.waypointEpsilon]
  have hfinishes := finishes_of_isHome hstate hk
  rw [hwalker, Stride.finishes_iff hpos (stepLength_ge (by
    norm_num [GameConstants.AI.tickIntervalMs]))] at hfinishes
  obtain ⟨n, hn, -⟩ := hfinishes
  have hdist : |(3 / 8 : ℝ)| = 3 / 8 := abs_of_pos (by norm_num)
  rw [norm_axis, hdist] at hn
  norm_num [stepLength, GameConstants.Monster.moveSpeed, GameConstants.AI.waypointEpsilon,
    abs_lt] at hn
  have hlow : (1 : ℝ) < n := by linarith [hn.2]
  have hhigh : (n : ℝ) < 2 := by linarith [hn.1]
  have hlow' : 1 < n := by exact_mod_cast hlow
  have hhigh' : n < 2 := by exact_mod_cast hhigh
  omega

end Monster

end MMOServers.GameServer

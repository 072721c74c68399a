/-
MMOServers.GameServer.MonsterSteps — what the tasks of the game server do to one
monster.

`Hunt` is what concerns a monster: the monster and the path requests it waits
for. A task does one of few things to it (`HuntStep`): a hit of a player, a buff,
the tick of a dead monster or of a live one, the result of a path. What the
other monsters do, and the players, is of no matter to it, so a tick is one pass
of the loop (`aiTick_hunt`).
-/
import MMOServers.GameServer.GameContext
import MMOServers.GameServer.Herd

namespace MMOServers.GameServer

open MMOServers.Common

/-- An element that is taken out of a list is taken out of what a filter leaves of
    it, at its place there. -/
theorem filter_eraseIdx {α : Type} {p : α → Bool} {xs : List α} {n : Nat} {x : α}
    (hx : xs[n]? = some x) :
    (p x = true → (xs.filter p)[(xs.take n).countP p]? = some x ∧
      (xs.eraseIdx n).filter p = (xs.filter p).eraseIdx ((xs.take n).countP p)) ∧
    (p x = false → (xs.eraseIdx n).filter p = xs.filter p) := by
  induction xs generalizing n with
  | nil => cases hx
  | cons y ys ih =>
      cases n with
      | zero =>
          obtain rfl := Option.some.inj hx
          constructor
          · intro hp
            simp [hp]
          · intro hp
            simp [hp]
      | succ n =>
          obtain ⟨hkept, hdropped⟩ := ih (n := n) hx
          rw [List.take_succ_cons, List.eraseIdx_cons_succ]
          by_cases hy : p y = true
          · rw [List.countP_cons_of_pos hy, List.filter_cons_of_pos hy, List.filter_cons_of_pos hy]
            constructor
            · intro hp
              obtain ⟨hget, herase⟩ := hkept hp
              exact ⟨hget, by rw [List.eraseIdx_cons_succ, herase]⟩
            · intro hp
              rw [hdropped hp]
          · rw [List.countP_cons_of_neg hy, List.filter_cons_of_neg hy,
              List.filter_cons_of_neg hy]
            exact ⟨hkept, hdropped⟩

/-- A monster with the path requests it waits for, the oldest first. -/
structure Hunt (K : Type) where
  monster : Monster K
  pending : List (PathRequest K)

/-- The path requests among what a monster asks for. -/
def pathRequests {K : Type} (calls : List (MonsterCall K)) : List (PathRequest K) :=
  calls.filterMap fun
    | .findPath request => some request
    | .attack _ _ _ => none

namespace Monster

variable {K : Type}

/-- A hit of a player, which may be deadly. -/
def struck (m : Monster K) (damage : Int) : Monster K :=
  let hit := m.takeDamage damage
  if hit.hp ≤ 0 then hit.die else hit

variable [Field K] [LinearOrder K] [HasSqrt K]

/-- How a live monster can choose its target. -/
inductive Aims (m : Monster K) : Monster K × List (MonsterCall K) → Prop where
  | stays (h : m.state = .idle ∨ m.state = .return) : Aims m (m, [])
  | sees (uid : Nat) (pos : Vector3 K) (h : m.state = .idle) : Aims m (m.setTarget uid pos)
  | follows (pos : Vector3 K) (h : m.state = .chase ∨ m.state = .attack) :
      Aims m (m.updateTargetPosition pos)
  | givesUpChase (h : m.state = .chase) : Aims m m.giveUpChase
  | givesUpAttack (h : m.state = .attack) : Aims m m.giveUpAttack

/-! ## What a live monster leaves alone -/

/-- What its life and death depend on. -/
def vitals (m : Monster K) : Int × Int × K × Int × Vector3 K :=
  (m.hp, m.maxHp, m.deadTimer, m.respawnSec, m.spawnPosition)

theorem Aims.vitals {m : Monster K} {r : Monster K × List (MonsterCall K)} (h : m.Aims r) :
    r.1.vitals = m.vitals := by
  cases h with
  | stays h => rfl
  | sees uid pos h => rfl
  | follows pos h =>
      unfold updateTargetPosition
      split <;> rfl
  | givesUpChase h =>
      unfold giveUpChase
      split <;> rfl
  | givesUpAttack h => rfl

/-- A monster that chooses a target stays alive. -/
theorem Aims.live {m : Monster K} {r : Monster K × List (MonsterCall K)} (h : m.Aims r) :
    r.1.state ≠ .dead := by
  cases h with
  | stays h => rcases h with h | h <;> simp [h]
  | sees uid pos h => simp [setTarget, calculatePath]
  | follows pos h =>
      unfold updateTargetPosition
      rcases h with h | h <;> split <;> simp [calculatePath, h]
  | givesUpChase h => simp [giveUpChase, calculatePath, h]
  | givesUpAttack h => simp [giveUpAttack, calculatePath]

/-- An update stays alive, and leaves the vitals alone. -/
theorem update_live {m : Monster K} (h : m.state ≠ .dead) (deltaTime : K) :
    (m.update deltaTime).1.vitals = m.vitals ∧ (m.update deltaTime).1.state ≠ .dead := by
  unfold update
  cases hstate : m.state with
  | idle => exact ⟨rfl, h⟩
  | chase =>
      dsimp only
      unfold updateChase
      split
      · exact ⟨rfl, h⟩
      · dsimp only
        repeat' split
        · exact ⟨rfl, by simp⟩
        · exact ⟨rfl, h⟩
        · exact ⟨rfl, h⟩
  | attack =>
      dsimp only [updateAttack]
      repeat' split
      · exact ⟨rfl, by simp [calculatePath]⟩
      · exact ⟨rfl, h⟩
      · exact ⟨rfl, h⟩
  | «return» =>
      dsimp only
      unfold updateReturn
      split
      · exact ⟨rfl, by simp⟩
      · dsimp only
        split
        · exact ⟨rfl, h⟩
        · exact ⟨rfl, h⟩
  | dead => exact absurd hstate h

theorem applyPath_vitals (m : Monster K) (request : PathRequest K)
    (waypoints : List (Vector3 K)) :
    (m.applyPath request waypoints).vitals = m.vitals ∧
      (m.applyPath request waypoints).state = m.state := by
  unfold applyPath
  repeat' split
  all_goals exact ⟨rfl, rfl⟩

/-! ## Path versions -/

/-- One path request at most, made for the target the monster has then and stamped
    with the next version; without one, version and target stay. -/
inductive Asks (m : Monster K) : Monster K × List (MonsterCall K) → Prop where
  | nothing {r : Monster K × List (MonsterCall K)} (requests : pathRequests r.2 = [])
      (version : r.1.pathRequestVersion = m.pathRequestVersion)
      (target : r.1.targetLastPos = m.targetLastPos) : Asks m r
  | path {r : Monster K × List (MonsterCall K)} (start : Vector3 K) (state : MonsterState)
      (requests : pathRequests r.2 = [⟨start, r.1.targetLastPos, m.nextVersion, state⟩])
      (version : r.1.pathRequestVersion = m.nextVersion) : Asks m r

omit [LinearOrder K] [HasSqrt K] [Field K] in
theorem calculatePath_asks {m m' : Monster K}
    (h : m'.pathRequestVersion = m.pathRequestVersion) : m.Asks m'.calculatePath := by
  have hnext : m'.nextVersion = m.nextVersion := by rw [nextVersion, nextVersion, h]
  refine .path m'.position m'.state ?_ hnext
  simp only [calculatePath, pathRequests, List.filterMap_cons, List.filterMap_nil, hnext]

omit [LinearOrder K] [HasSqrt K] [Field K] in
theorem giveUpChase_asks (m : Monster K) : m.Asks m.giveUpChase := by
  unfold giveUpChase
  split
  · exact calculatePath_asks rfl
  · exact .nothing rfl rfl rfl

theorem updateTargetPosition_asks (m : Monster K) (newPos : Vector3 K) :
    m.Asks (m.updateTargetPosition newPos) := by
  unfold updateTargetPosition
  split
  · exact calculatePath_asks rfl
  · exact .nothing rfl rfl rfl

theorem Aims.asks {m : Monster K} {r : Monster K × List (MonsterCall K)} (h : m.Aims r) :
    m.Asks r := by
  cases h with
  | stays h => exact .nothing rfl rfl rfl
  | sees uid pos h => exact calculatePath_asks rfl
  | follows pos h => exact m.updateTargetPosition_asks pos
  | givesUpChase h => exact m.giveUpChase_asks
  | givesUpAttack h => exact calculatePath_asks rfl

theorem update_asks (m : Monster K) (deltaTime : K) : m.Asks (m.update deltaTime) := by
  unfold update
  cases m.state with
  | idle => exact .nothing rfl rfl rfl
  | chase =>
      dsimp only
      unfold updateChase
      split
      · exact .nothing rfl rfl rfl
      · dsimp only
        repeat' split
        all_goals exact .nothing rfl rfl rfl
  | attack =>
      unfold updateAttack
      dsimp only
      repeat' split
      · exact calculatePath_asks rfl
      · exact .nothing rfl rfl rfl
      · exact .nothing rfl rfl rfl
  | «return» =>
      dsimp only
      unfold updateReturn
      split
      · exact .nothing rfl rfl rfl
      · dsimp only
        split
        · exact .nothing rfl rfl rfl
        · exact .nothing rfl rfl rfl
  | dead => exact .nothing rfl rfl rfl

/-- The tests that the result of a path has to pass. -/
structure Applies (m : Monster K) (request : PathRequest K) : Prop where
  version : m.pathRequestVersion = request.version
  live : m.state ≠ .dead
  state : request.state = m.state ∨ request.state = .chase ∧ m.state = .attack

instance (m : Monster K) (request : PathRequest K) : Decidable (m.Applies request) :=
  decidable_of_iff (m.pathRequestVersion = request.version ∧ m.state ≠ .dead ∧
      (request.state = m.state ∨ request.state = .chase ∧ m.state = .attack))
    ⟨fun h => ⟨h.1, h.2.1, h.2.2⟩, fun h => ⟨h.version, h.live, h.state⟩⟩

theorem applyPath_of_not {m : Monster K} {request : PathRequest K} (h : ¬ m.Applies request)
    (waypoints : List (Vector3 K)) : m.applyPath request waypoints = m := by
  unfold applyPath
  split
  · rfl
  · rename_i hversion
    split
    · rfl
    · rename_i hlive
      split
      · rfl
      · rename_i hstate
        refine absurd ⟨not_not.mp hversion, hlive, ?_⟩ h
        by_contra hnone
        rw [not_or] at hnone
        exact hstate hnone

/-- A result that passes is the new path. -/
theorem applyPath_currentPath {m : Monster K} {request : PathRequest K} (h : m.Applies request)
    (waypoints : List (Vector3 K)) : (m.applyPath request waypoints).currentPath = waypoints := by
  have hstate : ¬ (request.state ≠ m.state ∧ ¬ (request.state = .chase ∧ m.state = .attack)) := by
    rintro ⟨hne, hnot⟩
    exact h.state.elim hne hnot
  unfold applyPath
  rw [if_neg (not_not.mpr h.version), if_neg h.live, if_neg hstate]

theorem applyPath_version (m : Monster K) (request : PathRequest K)
    (waypoints : List (Vector3 K)) :
    (m.applyPath request waypoints).pathRequestVersion = m.pathRequestVersion ∧
      (m.applyPath request waypoints).targetLastPos = m.targetLastPos := by
  unfold applyPath
  repeat' split
  all_goals exact ⟨rfl, rfl⟩

end Monster

/-- What a tick does to a hunt. -/
inductive TickStep {K : Type} [Field K] [LinearOrder K] [HasSqrt K] (deltaTime : K) (h : Hunt K) :
    Hunt K → Prop where
  | waits (dead : h.monster.state = .dead)
      (early : h.monster.deadTimer + deltaTime < (h.monster.respawnSec : K)) :
      TickStep deltaTime h { h with monster := h.monster.addDeadTime deltaTime }
  | respawns (dead : h.monster.state = .dead)
      (due : ¬ h.monster.deadTimer + deltaTime < (h.monster.respawnSec : K)) :
      TickStep deltaTime h { h with monster := (h.monster.addDeadTime deltaTime).respawn }
  | acts (live : h.monster.state ≠ .dead) (r : Monster K × List (MonsterCall K))
      (aims : h.monster.Aims r) :
      TickStep deltaTime h
        ⟨(r.1.update deltaTime).1,
          h.pending ++ pathRequests r.2 ++ pathRequests (r.1.update deltaTime).2⟩

namespace GameContext

variable {K σ : Type}

/-- The hunt of the monster with the index. -/
def hunt (s : GameContext K σ) (i : Nat) : Option (Hunt K) :=
  (s.monsters[i]?).map fun m =>
    ⟨m, (s.pathTasks.filter (·.monster = i)).map (·.request)⟩

theorem hunt_congr {s s' : GameContext K σ} (hmonsters : s'.monsters = s.monsters)
    (htasks : s'.pathTasks = s.pathTasks) (i : Nat) : s'.hunt i = s.hunt i := by
  rw [hunt, hunt, hmonsters, htasks]

theorem hunt_setMonster_other (s : GameContext K σ) {i j : Nat} (hij : i ≠ j) (m : Monster K) :
    (s.setMonster i m).hunt j = s.hunt j := by
  simp only [hunt, setMonster, List.getElem?_set_ne hij]

theorem hunt_setMonster_self {s : GameContext K σ} {i : Nat} {h : Hunt K}
    (hi : s.hunt i = some h) (m : Monster K) :
    (s.setMonster i m).hunt i = some { h with monster := m } := by
  obtain ⟨n, hn, rfl⟩ := Option.map_eq_some_iff.mp hi
  obtain ⟨hlt, -⟩ := List.getElem?_eq_some_iff.mp hn
  simp only [hunt, setMonster, List.getElem?_set_self hlt, Option.map_some]

theorem hunt_monster {s : GameContext K σ} {i : Nat} {h : Hunt K} (hi : s.hunt i = some h) :
    s.monsters[i]? = some h.monster := by
  obtain ⟨m, hm, rfl⟩ := Option.map_eq_some_iff.mp hi
  exact hm

theorem exists_hunt {s : GameContext K σ} {i : Nat} {m : Monster K}
    (hm : s.monsters[i]? = some m) : ∃ h, s.hunt i = some h ∧ h.monster = m :=
  ⟨_, by rw [hunt, hm, Option.map_some], rfl⟩

/-! ## What is of no matter to the monsters -/

variable [Field K] [LinearOrder K] [FloorRing K]

/-- An attack concerns a player. -/
theorem attackPlayer_monsters (s : GameContext K σ) (order : IterationOrder)
    (attackerUid targetUid : Nat) (damage : Int) :
    (s.attackPlayer order attackerUid targetUid damage).monsters = s.monsters ∧
      (s.attackPlayer order attackerUid targetUid damage).pathTasks = s.pathTasks := by
  unfold attackPlayer
  split
  · exact ⟨rfl, rfl⟩
  · dsimp only
    split <;> exact ⟨rfl, rfl⟩

/-- What a monster asks for are new tasks of its own. -/
theorem perform_monsters (s : GameContext K σ) (order : IterationOrder) (i : Nat)
    (calls : List (MonsterCall K)) :
    (s.perform order i calls).monsters = s.monsters ∧
      (s.perform order i calls).pathTasks
        = s.pathTasks ++ (pathRequests calls).map fun request => ⟨i, request⟩ := by
  induction calls generalizing s with
  | nil => exact ⟨rfl, (List.append_nil _).symm⟩
  | cons call calls ih =>
      cases call with
      | findPath request =>
          obtain ⟨hmonsters, htasks⟩ := ih { s with pathTasks := s.pathTasks ++ [⟨i, request⟩] }
          exact ⟨hmonsters, htasks.trans (by simp [pathRequests])⟩
      | attack attackerId targetId damage =>
          obtain ⟨hmonsters, htasks⟩ := ih (s.attackPlayer order attackerId targetId damage)
          obtain ⟨hmonsters', htasks'⟩ :=
            attackPlayer_monsters s order attackerId targetId damage
          refine ⟨hmonsters.trans hmonsters', htasks.trans ?_⟩
          rw [htasks']
          rfl

theorem perform_hunt_other (s : GameContext K σ) (order : IterationOrder) {i j : Nat}
    (hij : i ≠ j) (calls : List (MonsterCall K)) :
    (s.perform order i calls).hunt j = s.hunt j := by
  obtain ⟨hmonsters, htasks⟩ := perform_monsters s order i calls
  have hnone : ((pathRequests calls).map fun request => (⟨i, request⟩ : PathTask K)).filter
      (·.monster = j) = [] := by
    simp [List.filter_eq_nil_iff, hij]
  rw [hunt, hunt, hmonsters, htasks, List.filter_append, hnone, List.append_nil]

theorem perform_hunt_self {s : GameContext K σ} {i : Nat} {h : Hunt K} (hi : s.hunt i = some h)
    (order : IterationOrder) (calls : List (MonsterCall K)) :
    (s.perform order i calls).hunt i
      = some { h with pending := h.pending ++ pathRequests calls } := by
  obtain ⟨hmonsters, htasks⟩ := perform_monsters s order i calls
  obtain ⟨m, hm, rfl⟩ := Option.map_eq_some_iff.mp hi
  have hall : ((pathRequests calls).map fun request => (⟨i, request⟩ : PathTask K)).filter
      (·.monster = i) = (pathRequests calls).map fun request => ⟨i, request⟩ :=
    List.filter_eq_self.mpr (by simp)
  rw [hunt, hmonsters, hm, htasks, List.filter_append, hall, List.map_append, List.map_map]
  simp [Function.comp_def]

theorem syncMonsterPosition_monsters (s : GameContext K σ) (order : IterationOrder)
    (m : Monster K) (oldX oldY deltaTime : K) :
    (s.syncMonsterPosition order m oldX oldY deltaTime).monsters = s.monsters ∧
      (s.syncMonsterPosition order m oldX oldY deltaTime).pathTasks = s.pathTasks := by
  unfold syncMonsterPosition
  dsimp only
  repeat' split
  all_goals exact ⟨rfl, rfl⟩

/-! ## The tick -/

/-- A dead monster is given back, whatever is sent about it. -/
theorem processDeadMonster_monsters (s : GameContext K σ) (order : IterationOrder) (i : Nat)
    (m : Monster K) (deltaTime : K) :
    let m' := if m.deadTimer + deltaTime < (m.respawnSec : K) then m.addDeadTime deltaTime
      else (m.addDeadTime deltaTime).respawn
    (s.processDeadMonster order i m deltaTime).monsters = (s.setMonster i m').monsters ∧
      (s.processDeadMonster order i m deltaTime).pathTasks = s.pathTasks := by
  by_cases hearly : m.deadTimer + deltaTime < (m.respawnSec : K)
  · have hdead : (m.addDeadTime deltaTime).deadTimer
        < ((m.addDeadTime deltaTime).respawnSec : K) := hearly
    unfold processDeadMonster
    rw [if_pos hearly]
    dsimp only
    rw [if_pos hdead]
    exact ⟨rfl, rfl⟩
  · have hdead : ¬ (m.addDeadTime deltaTime).deadTimer
        < ((m.addDeadTime deltaTime).respawnSec : K) := hearly
    unfold processDeadMonster
    rw [if_neg hearly]
    dsimp only
    rw [if_neg hdead]
    split <;> exact ⟨rfl, rfl⟩

variable [HasSqrt K]

omit [FloorRing K] in
theorem keepTarget_cases (giveUp : Monster K → Monster K × List (MonsterCall K))
    (s : GameContext K σ) (m : Monster K) (oldX oldY : K) :
    keepTarget giveUp s m oldX oldY = giveUp m ∨
      ∃ pos, keepTarget giveUp s m oldX oldY = m.updateTargetPosition pos := by
  unfold keepTarget
  split
  · exact Or.inl rfl
  · split
    · exact Or.inr ⟨_, rfl⟩
    · exact Or.inl rfl

theorem processMonster_aims (s : GameContext K σ) (order : IterationOrder) {m : Monster K}
    (live : m.state ≠ .dead) (oldX oldY : K) :
    m.Aims (s.processMonster order m oldX oldY) := by
  unfold processMonster
  split
  · rename_i hidle
    unfold processIdleMonster
    dsimp only
    split
    · exact .stays (Or.inl hidle)
    · exact .sees _ _ hidle
  · rename_i hchase
    unfold processChaseMonster
    rcases keepTarget_cases Monster.giveUpChase s m oldX oldY with h | ⟨pos, h⟩
    · exact h ▸ .givesUpChase hchase
    · exact h ▸ .follows pos (Or.inl hchase)
  · rename_i hattack
    unfold processAttackMonster
    rcases keepTarget_cases Monster.giveUpAttack s m oldX oldY with h | ⟨pos, h⟩
    · exact h ▸ .givesUpAttack hattack
    · exact h ▸ .follows pos (Or.inr hattack)
  · rename_i hreturn
    exact .stays (Or.inr hreturn)
  · rename_i hdead
    exact absurd hdead live

/-- A pass of the loop concerns its own monster. -/
theorem tickMonster_hunt_other (s : GameContext K σ) (order : IterationOrder) (deltaTime : K)
    {i j : Nat} (hij : i ≠ j) : (tickMonster order deltaTime s i).hunt j = s.hunt j := by
  unfold tickMonster
  cases hm : s.monsters[i]? with
  | none => rfl
  | some m =>
      dsimp only
      split
      · obtain ⟨hmonsters, htasks⟩ := processDeadMonster_monsters s order i m deltaTime
        rw [hunt_congr hmonsters htasks]
        exact hunt_setMonster_other s hij _
      · generalize s.processMonster order m m.position.x m.position.y = r
        let s₁ := ((s.setMonster i r.1).perform order i r.2).setMonster i (r.1.update deltaTime).1
        obtain ⟨hmonsters, htasks⟩ := syncMonsterPosition_monsters
          (s₁.perform order i (r.1.update deltaTime).2) order (r.1.update deltaTime).1
            m.position.x m.position.y deltaTime
        rw [hunt_congr hmonsters htasks, perform_hunt_other _ _ hij,
          hunt_setMonster_other _ hij, perform_hunt_other _ _ hij, hunt_setMonster_other _ hij]

theorem tickMonster_hunt_self {s : GameContext K σ} {i : Nat} {h : Hunt K}
    (hi : s.hunt i = some h) (order : IterationOrder) (deltaTime : K) :
    ∃ h', (tickMonster order deltaTime s i).hunt i = some h' ∧ TickStep deltaTime h h' := by
  have hm := hunt_monster hi
  by_cases hdead : h.monster.state = .dead
  · obtain ⟨hmonsters, htasks⟩ := processDeadMonster_monsters s order i h.monster deltaTime
    have hunt' := (hunt_congr hmonsters htasks i).trans (hunt_setMonster_self hi _)
    simp only [tickMonster, hm, if_pos hdead]
    refine ⟨_, hunt', ?_⟩
    split
    · rename_i hearly
      exact .waits hdead hearly
    · rename_i hdue
      exact .respawns hdead hdue
  · have haims := processMonster_aims s order hdead h.monster.position.x h.monster.position.y
    simp only [tickMonster, hm, if_neg hdead]
    generalize s.processMonster order h.monster h.monster.position.x h.monster.position.y = r
      at haims
    refine ⟨_, ?_, .acts hdead r haims⟩
    have h₁ := perform_hunt_self (hunt_setMonster_self hi r.1) order r.2
    have h₂ := perform_hunt_self (hunt_setMonster_self h₁ (r.1.update deltaTime).1) order
      (r.1.update deltaTime).2
    obtain ⟨hmonsters, htasks⟩ := syncMonsterPosition_monsters
      ((((s.setMonster i r.1).perform order i r.2).setMonster i (r.1.update deltaTime).1).perform
        order i (r.1.update deltaTime).2) order (r.1.update deltaTime).1
        h.monster.position.x h.monster.position.y deltaTime
    exact (hunt_congr hmonsters htasks i).trans h₂

theorem foldl_hunt_other (s : GameContext K σ) (order : IterationOrder) (deltaTime : K)
    {is : List Nat} {j : Nat} (hj : j ∉ is) :
    (is.foldl (tickMonster order deltaTime) s).hunt j = s.hunt j := by
  induction is generalizing s with
  | nil => rfl
  | cons i is ih =>
      rw [List.mem_cons, not_or] at hj
      rw [List.foldl_cons, ih _ hj.2, tickMonster_hunt_other s order deltaTime (Ne.symm hj.1)]

/-- A tick of the server is one tick for every monster. -/
theorem aiTick_hunt {s : GameContext K σ} {i : Nat} {h : Hunt K} (hi : s.hunt i = some h)
    (order : IterationOrder) (deltaTime : K) :
    ∃ h', (s.aiTick order deltaTime).hunt i = some h' ∧ TickStep deltaTime h h' := by
  obtain ⟨hlt, -⟩ := List.getElem?_eq_some_iff.mp (hunt_monster hi)
  -- the monsters before, the monster itself, and the monsters after it
  obtain ⟨before, after, hsplit⟩ := List.append_of_mem (List.mem_range.mpr hlt)
  have hnodup : (List.range s.monsters.length).Nodup := List.nodup_range
  rw [hsplit, List.nodup_append, List.nodup_cons] at hnodup
  obtain ⟨-, ⟨hafter, -⟩, hbefore⟩ := hnodup
  have hreached : (before.foldl (tickMonster order deltaTime) s).hunt i = some h := by
    rw [foldl_hunt_other s order deltaTime fun hmem => hbefore i hmem i List.mem_cons_self rfl, hi]
  obtain ⟨h', hh', htick⟩ := tickMonster_hunt_self hreached order deltaTime
  refine ⟨h', ?_, htick⟩
  rw [aiTick, hsplit, List.foldl_append, List.foldl_cons,
    foldl_hunt_other _ order deltaTime hafter, hh']

/-! ## Hits and buffs -/

omit [FloorRing K] in
/-- A monster that an attack hits is alive. -/
theorem nearestMonster_alive {s : GameContext K σ} {px py : K} {ids : List Nat}
    {best : Option (Nat × Monster K)} {minDist : K} {i : Nat} {m : Monster K}
    (hbest : ∀ j n, best = some (j, n) → s.monsters[j]? = some n ∧ n.state ≠ .dead)
    (h : s.nearestMonster px py ids best minDist = some (i, m)) :
    s.monsters[i]? = some m ∧ m.state ≠ .dead := by
  induction ids generalizing best minDist with
  | nil => exact hbest i m h
  | cons id ids ih =>
      rw [nearestMonster] at h
      split at h
      · exact ih hbest h
      · rename_i j n hid
        have hfound : s.monsters[j]? = some n := by
          obtain ⟨j', -, hj'⟩ := Option.bind_eq_some_iff.mp hid
          obtain ⟨n', hn', heq⟩ := Option.map_eq_some_iff.mp hj'
          rw [Prod.mk.injEq] at heq
          rwa [heq.1, heq.2] at hn'
        dsimp only at h
        split at h
        · rename_i hnear
          refine ih (fun j' n' heq => ?_) h
          rw [Option.some.injEq, Prod.mk.injEq] at heq
          rw [← heq.1, ← heq.2]
          exact ⟨hfound, hnear.1⟩
        · exact ih hbest h

/-- The monster that an attack request selects, and the damage it is dealt. -/
def attackTarget (env : GameEnv K) (s : GameContext K σ) (order : IterationOrder)
    (payload : List UInt8) : Option (Nat × Int) :=
  (env.parseAttackReq payload).bind fun req =>
    (s.playerMap req.accountId).bind fun p =>
      (s.nearestMonster p.x p.y (s.zone.getMonstersInAOI order p.x p.y) none
        GameConstants.Combat.playerAttackRange).map fun (i, m) =>
          (i, max (wrap32 (p.atk - m.defensePower)) GameConstants.Combat.minDamage)

theorem attackTarget_alive {env : GameEnv K} {s : GameContext K σ} {order : IterationOrder}
    {payload : List UInt8} {i : Nat} {damage : Int}
    (h : attackTarget env s order payload = some (i, damage)) :
    ∃ m, s.monsters[i]? = some m ∧ m.state ≠ .dead := by
  obtain ⟨req, -, h⟩ := Option.bind_eq_some_iff.mp h
  obtain ⟨p, -, h⟩ := Option.bind_eq_some_iff.mp h
  obtain ⟨⟨j, m⟩, hnearest, heq⟩ := Option.map_eq_some_iff.mp h
  obtain ⟨rfl, -⟩ := Prod.mk.inj heq
  exact ⟨m, nearestMonster_alive (by simp) hnearest⟩

/-- The damage of a hit is a positive `int`. -/
theorem attackTarget_damage {env : GameEnv K} {s : GameContext K σ} {order : IterationOrder}
    {payload : List UInt8} {i : Nat} {damage : Int}
    (h : attackTarget env s order payload = some (i, damage)) :
    1 ≤ damage ∧ damage < 2 ^ 31 := by
  obtain ⟨req, -, h⟩ := Option.bind_eq_some_iff.mp h
  obtain ⟨p, -, h⟩ := Option.bind_eq_some_iff.mp h
  obtain ⟨⟨j, m⟩, -, heq⟩ := Option.map_eq_some_iff.mp h
  obtain ⟨-, rfl⟩ := Prod.mk.inj heq
  have hwrap : wrap32 (p.atk - m.defensePower) < 2 ^ 31 := by
    unfold wrap32
    have := Int.bmod_lt (x := p.atk - m.defensePower) (m := 2 ^ 32) (by decide)
    omega
  exact ⟨le_max_right _ _, max_lt hwrap (by decide)⟩

theorem handleGatewayGameAttackReq_monsters (env : GameEnv K) (s : GameContext K σ)
    (order : IterationOrder) (payload : List UInt8) :
    (s.handleGatewayGameAttackReq env order payload).pathTasks = s.pathTasks ∧
      (s.handleGatewayGameAttackReq env order payload).monsters =
        match attackTarget env s order payload with
        | none => s.monsters
        | some (i, damage) => s.monsters.modify i (·.struck damage) := by
  unfold handleGatewayGameAttackReq attackTarget
  cases env.parseAttackReq payload with
  | none => exact ⟨rfl, rfl⟩
  | some req =>
      dsimp only [Option.bind_some]
      cases s.playerMap req.accountId with
      | none => exact ⟨rfl, rfl⟩
      | some p =>
          dsimp only [Option.bind_some]
          cases hnearest : s.nearestMonster p.x p.y (s.zone.getMonstersInAOI order p.x p.y) none
              GameConstants.Combat.playerAttackRange with
          | none => exact ⟨rfl, rfl⟩
          | some found =>
              obtain ⟨i, m⟩ := found
              obtain ⟨hm, -⟩ := nearestMonster_alive (by simp) hnearest
              obtain ⟨hlt, hget⟩ := List.getElem?_eq_some_iff.mp hm
              refine ⟨rfl, ?_⟩
              show s.monsters.set i _ = s.monsters.modify i _
              rw [List.modify_eq_set_getElem?, hm]
              rfl

/-- The buff request in a packet of the world server. -/
def buffOf (env : GameEnv K) (id : UInt16) (payload : List UInt8) :
    Option WorldGameMonsterBuffReq :=
  if id = PacketId.worldGameMonsterBuff then env.parseMonsterBuffReq payload else none

/-- The monster is one that the request buffs. -/
def Buffs (req : WorldGameMonsterBuffReq) (m : Monster K) : Prop :=
  req.minUid.toNat ≤ m.monsterId ∧ m.monsterId ≤ req.maxUid.toNat ∧ m.state ≠ .dead

instance (req : WorldGameMonsterBuffReq) (m : Monster K) : Decidable (Buffs req m) :=
  inferInstanceAs (Decidable (_ ∧ _ ∧ _))

omit [Field K] [LinearOrder K] [FloorRing K] [HasSqrt K] in
theorem worldDispatch_monsters (env : GameEnv K) (s : GameContext K σ) (id : UInt16)
    (payload : List UInt8) :
    (s.worldDispatch env id payload).pathTasks = s.pathTasks ∧
      (s.worldDispatch env id payload).monsters =
        match buffOf env id payload with
        | none => s.monsters
        | some req =>
            s.monsters.map fun m => if Buffs req m then m.setHp req.addHp.toInt else m := by
  unfold worldDispatch handleWorldGameMonsterBuff handleWorldGameTokenNotify buffOf
  by_cases hid : id = PacketId.worldGameMonsterBuff
  · rw [if_pos hid, if_pos hid]
    cases env.parseMonsterBuffReq payload with
    | none => exact ⟨rfl, rfl⟩
    | some req => exact ⟨rfl, rfl⟩
  · rw [if_neg hid, if_neg hid]
    dsimp only
    repeat' split
    all_goals exact ⟨rfl, rfl⟩

/-! ## Other tasks -/

omit [HasSqrt K] in
/-- The player tasks have the monsters and the path requests as they were. -/
theorem removePlayers_monsters (s : GameContext K σ) (accIds : List String) :
    (s.removePlayers accIds).monsters = s.monsters ∧
      (s.removePlayers accIds).pathTasks = s.pathTasks := by
  induction accIds generalizing s with
  | nil => exact ⟨rfl, rfl⟩
  | cons accId rest ih =>
      unfold removePlayers
      split
      · exact ih s
      · obtain ⟨hmonsters, htasks⟩ := ih (s.removePlayer accId _)
        exact ⟨hmonsters, htasks⟩

theorem dispatch_monsters [DecidableEq σ] (env : GameEnv K) (s : GameContext K σ) (gw : σ)
    (id : UInt16) (payload : List UInt8) (order : IterationOrder)
    (hid : id ≠ PacketId.gatewayGameAttackReq) :
    (s.dispatch env gw id payload order).monsters = s.monsters ∧
      (s.dispatch env gw id payload order).pathTasks = s.pathTasks := by
  unfold dispatch
  rw [if_neg hid]
  split
  · unfold handleGatewayGameMoveReq
    cases env.parseMoveReq payload with
    | none => exact ⟨rfl, rfl⟩
    | some req =>
        dsimp only
        cases s.playerMap req.accountId <;> exact ⟨rfl, rfl⟩
  · split
    · unfold handleGatewayGameLeaveReq
      repeat' split
      all_goals exact ⟨rfl, rfl⟩
    · split
      · unfold handleGatewayGameChatReq
        repeat' split
        all_goals exact ⟨rfl, rfl⟩
      · exact ⟨rfl, rfl⟩

/-- The place of a path task among those of a monster, if it is one of them. -/
def pendingIndex (s : GameContext K σ) (i n : Nat) : Option Nat :=
  (s.pathTasks[n]?).bind fun task =>
    if task.monster = i then some ((s.pathTasks.take n).countP (·.monster = i)) else none

omit [FloorRing K] in
/-- The result of a path concerns the monster that asked for it. -/
theorem pathResult_hunt {s : GameContext K σ} {n : Nat} {task : PathTask K}
    (asked : s.pathTasks[n]? = some task) (waypoints : List (Vector3 K)) {i : Nat} {h : Hunt K}
    (hi : s.hunt i = some h) :
    (s.pendingIndex i n = none ∧
      ({ s with pathTasks := s.pathTasks.eraseIdx n }.pathResult task waypoints).hunt i = some h) ∨
    ∃ k, s.pendingIndex i n = some k ∧ task.monster = i ∧ h.pending[k]? = some task.request ∧
      ({ s with pathTasks := s.pathTasks.eraseIdx n }.pathResult task waypoints).hunt i
        = some ⟨h.monster.applyPath task.request waypoints, h.pending.eraseIdx k⟩ := by
  obtain ⟨m, hm, rfl⟩ := Option.map_eq_some_iff.mp hi
  obtain ⟨hkept, hdropped⟩ := filter_eraseIdx (p := fun task => task.monster = i) asked
  by_cases htask : task.monster = i
  · subst htask
    obtain ⟨hget, herase⟩ := hkept (by simp)
    obtain ⟨hlt, -⟩ := List.getElem?_eq_some_iff.mp hm
    refine Or.inr ⟨(s.pathTasks.take n).countP (·.monster = task.monster),
      by simp [pendingIndex, asked], rfl, ?_, ?_⟩
    · rw [List.getElem?_map, hget, Option.map_some]
    · simp only [pathResult, hm, hunt, setMonster, List.getElem?_set_self hlt, Option.map_some,
        herase, List.eraseIdx_map]
  · refine Or.inl ⟨by simp [pendingIndex, asked, htask], ?_⟩
    have hfilter := hdropped (by simp [htask])
    simp only [pathResult]
    split
    · simp only [hunt, hm, Option.map_some, hfilter]
    · simp only [hunt, setMonster, List.getElem?_set_ne htask, hm, Option.map_some, hfilter]

/-! ## Steps -/

/-- What a task does to the hunt of a monster. -/
inductive HuntStep (env : GameEnv K) (s : GameContext K σ) (i : Nat) (h : Hunt K) :
    Label K σ → Hunt K → Prop where
  | aside {label : Label K σ} (untimed : ∀ deltaTime order, label ≠ .aiTick deltaTime order)
      (unanswered : ∀ n waypoints, label = .pathResult n waypoints → s.pendingIndex i n = none) :
      HuntStep env s i h label h
  | hit (gw : σ) {payload : List UInt8} {order : IterationOrder} {damage : Int}
      (selected : attackTarget env s order payload = some (i, damage))
      (live : h.monster.state ≠ .dead) :
      HuntStep env s i h (.packet gw PacketId.gatewayGameAttackReq payload order)
        { h with monster := h.monster.struck damage }
  | buffed {id : UInt16} {payload : List UInt8} {req : WorldGameMonsterBuffReq}
      (parsed : buffOf env id payload = some req) (buffs : Buffs req h.monster) :
      HuntStep env s i h (.worldPacket id payload)
        { h with monster := h.monster.setHp req.addHp.toInt }
  | ticks {deltaTime : K} (order : IterationOrder) {h' : Hunt K}
      (tick : TickStep deltaTime h h') : HuntStep env s i h (.aiTick deltaTime order) h'
  | path {n k : Nat} {request : PathRequest K} (waypoints : List (Vector3 K))
      (answers : s.pendingIndex i n = some k) (asked : h.pending[k]? = some request) :
      HuntStep env s i h (.pathResult n waypoints)
        ⟨h.monster.applyPath request waypoints, h.pending.eraseIdx k⟩

theorem step_hunt [DecidableEq σ] {env : GameEnv K} {s s' : GameContext K σ} {label : Label K σ}
    (hstep : step env s label = some s') {i : Nat} {h : Hunt K} (hi : s.hunt i = some h) :
    ∃ h', s'.hunt i = some h' ∧ HuntStep env s i h label h' := by
  have haside : ∀ {s' : GameContext K σ} {label : Label K σ},
      s'.monsters = s.monsters ∧ s'.pathTasks = s.pathTasks →
        (∀ deltaTime order, label ≠ .aiTick deltaTime order) →
        (∀ n waypoints, label = .pathResult n waypoints → s.pendingIndex i n = none) →
        ∃ h', s'.hunt i = some h' ∧ HuntStep env s i h label h' := by
    intro s' label hsame huntimed hunanswered
    exact ⟨h, (hunt_congr hsame.1 hsame.2 i).trans hi, .aside huntimed hunanswered⟩
  have hm := hunt_monster hi
  obtain ⟨hlt, -⟩ := List.getElem?_eq_some_iff.mp hm
  cases step_inv hstep with
  | packet gw id payload order =>
      by_cases hid : id = PacketId.gatewayGameAttackReq
      · subst hid
        obtain ⟨htasks, hmonsters⟩ := handleGatewayGameAttackReq_monsters env s order payload
        have hdispatch : s.dispatch env gw PacketId.gatewayGameAttackReq payload order
            = s.handleGatewayGameAttackReq env order payload := rfl
        rw [hdispatch]
        cases htarget : attackTarget env s order payload with
        | none =>
            rw [htarget] at hmonsters
            exact haside ⟨hmonsters, htasks⟩ (by simp) (by simp)
        | some hit =>
            obtain ⟨j, damage⟩ := hit
            rw [htarget] at hmonsters
            dsimp only at hmonsters
            by_cases hj : j = i
            · subst hj
              obtain ⟨n, hn, hlive⟩ := attackTarget_alive htarget
              obtain rfl := Option.some.inj (hm.symm.trans hn)
              refine ⟨_, ?_, .hit gw htarget hlive⟩
              have hset := hunt_setMonster_self hi (h.monster.struck damage)
              rw [List.modify_eq_set_getElem?, hm] at hmonsters
              exact (hunt_congr (s := s.setMonster j (h.monster.struck damage)) hmonsters htasks
                j).trans hset
            · refine ⟨h, ?_, .aside (by simp) (by simp)⟩
              rw [← hi, hunt, hunt, hmonsters, htasks]
              simp [hj]
      · exact haside (dispatch_monsters env s gw id payload order hid) (by simp) (by simp)
  | gatewayDisconnected gw =>
      exact haside (removePlayers_monsters s _) (by simp) (by simp)
  | worldPacket id payload =>
      obtain ⟨htasks, hmonsters⟩ := worldDispatch_monsters env s id payload
      cases hbuff : buffOf env id payload with
      | none =>
          rw [hbuff] at hmonsters
          exact haside ⟨hmonsters, htasks⟩ (by simp) (by simp)
      | some req =>
          rw [hbuff] at hmonsters
          dsimp only at hmonsters
          have hunt' : (s.worldDispatch env id payload).hunt i = some
              { h with monster :=
                  if Buffs req h.monster then h.monster.setHp req.addHp.toInt else h.monster } := by
            obtain ⟨m, hm', rfl⟩ := Option.map_eq_some_iff.mp hi
            rw [hunt, hmonsters, htasks, List.getElem?_map, hm']
            rfl
          by_cases hbuffs : Buffs req h.monster
          · rw [if_pos hbuffs] at hunt'
            exact ⟨_, hunt', .buffed hbuff hbuffs⟩
          · rw [if_neg hbuffs] at hunt'
            exact ⟨h, hunt', .aside (by simp) (by simp)⟩
  | aiTick deltaTime order =>
      obtain ⟨h', hh', htick⟩ := aiTick_hunt hi order deltaTime
      exact ⟨h', hh', .ticks order htick⟩
  | pathResult waypoints asked =>
      rcases pathResult_hunt asked waypoints hi with ⟨hnone, hh'⟩ | ⟨k, hk, -, hget, hh'⟩
      · refine ⟨h, hh', .aside (by simp) fun n' waypoints' heq => ?_⟩
        obtain ⟨rfl, -⟩ := Label.pathResult.inj heq
        exact hnone
      · exact ⟨_, hh', .path waypoints hk hget⟩

theorem tickMonster_length (s : GameContext K σ) (order : IterationOrder) (deltaTime : K)
    (i : Nat) : (tickMonster order deltaTime s i).monsters.length = s.monsters.length := by
  unfold tickMonster
  cases hm : s.monsters[i]? with
  | none => rfl
  | some m =>
      dsimp only
      split
      · rw [(processDeadMonster_monsters s order i m deltaTime).1]
        simp [setMonster]
      · rw [(syncMonsterPosition_monsters _ order _ _ _ _).1, (perform_monsters _ order i _).1]
        simp [setMonster, (perform_monsters _ order i _).1]

/-- No task makes or removes a monster. -/
theorem step_length [DecidableEq σ] {env : GameEnv K} {s s' : GameContext K σ}
    {label : Label K σ} (hstep : step env s label = some s') :
    s'.monsters.length = s.monsters.length := by
  cases step_inv hstep with
  | packet gw id payload order =>
      by_cases hid : id = PacketId.gatewayGameAttackReq
      · subst hid
        show (s.handleGatewayGameAttackReq env order payload).monsters.length = _
        rw [(handleGatewayGameAttackReq_monsters env s order payload).2]
        split <;> simp
      · rw [(dispatch_monsters env s gw id payload order hid).1]
  | gatewayDisconnected gw =>
      exact congrArg List.length (removePlayers_monsters s (s.gatewayPlayerMap gw)).1
  | worldPacket id payload =>
      rw [(worldDispatch_monsters env s id payload).2]
      split <;> simp
  | aiTick deltaTime order =>
      unfold aiTick
      generalize List.range s.monsters.length = is
      clear hstep
      induction is generalizing s with
      | nil => rfl
      | cons i is ih =>
          rw [List.foldl_cons, ih, tickMonster_length]
  | pathResult waypoints asked =>
      unfold pathResult
      split <;> simp [setMonster]

/-- The other way round: a hunt after a step was one before. -/
theorem step_hunt_of [DecidableEq σ] {env : GameEnv K} {s s' : GameContext K σ}
    {label : Label K σ} (hstep : step env s label = some s') {i : Nat} {h' : Hunt K}
    (hi' : s'.hunt i = some h') :
    ∃ h, s.hunt i = some h ∧ HuntStep env s i h label h' := by
  obtain ⟨hlt, -⟩ := List.getElem?_eq_some_iff.mp (hunt_monster hi')
  rw [step_length hstep] at hlt
  have hi : s.hunt i = some ⟨s.monsters[i],
      (s.pathTasks.filter (·.monster = i)).map (·.request)⟩ := by
    rw [hunt, List.getElem?_eq_getElem hlt, Option.map_some]
  obtain ⟨h'', hh'', hhunt⟩ := step_hunt hstep hi
  obtain rfl := Option.some.inj (hi'.symm.trans hh'')
  exact ⟨_, hi, hhunt⟩

omit [Field K] [LinearOrder K] [FloorRing K] [HasSqrt K] in
/-- The monsters of a server are those of its hunts. -/
theorem mem_monsters_iff {s : GameContext K σ} {m : Monster K} :
    m ∈ s.monsters ↔ ∃ i h, s.hunt i = some h ∧ h.monster = m := by
  constructor
  · intro hm
    obtain ⟨i, hi⟩ := List.mem_iff_getElem?.mp hm
    exact ⟨i, exists_hunt hi⟩
  · rintro ⟨i, h, hi, rfl⟩
    exact List.mem_of_getElem? (hunt_monster hi)

/-! ## Start -/

omit [HasSqrt K] in
/-- The monsters of a server that has just started are those of the spawn list, and
    no path is asked for. -/
theorem start_monsters (spawns : List (MonsterSpawn K)) :
    (start spawns : GameContext K σ).monsters = spawns.map Monster.spawn ∧
      (start spawns : GameContext K σ).pathTasks = [] := by
  have hinit : ∀ s : GameContext K σ,
      (s.initMonsters spawns).monsters = s.monsters ++ spawns.map Monster.spawn ∧
        (s.initMonsters spawns).pathTasks = s.pathTasks := by
    unfold initMonsters
    induction spawns with
    | nil => simp
    | cons data rest ih =>
        intro s
        obtain ⟨hmonsters, htasks⟩ := ih (s.initMonster data)
        exact ⟨hmonsters.trans (List.append_assoc _ _ _), htasks⟩
  exact hinit _

omit [HasSqrt K] in
theorem start_hunt (spawns : List (MonsterSpawn K)) (i : Nat) :
    (start spawns : GameContext K σ).hunt i
      = (spawns[i]?).map fun data => ⟨Monster.spawn data, []⟩ := by
  obtain ⟨hmonsters, htasks⟩ := start_monsters (σ := σ) spawns
  rw [hunt, hmonsters, htasks, List.getElem?_map, Option.map_map]
  rfl

end GameContext

end MMOServers.GameServer

/-
MMOServers.GameServer.MonsterTheorems — the sectors agree with the monsters.

`MonstersPlaced` is what the monster sets of the grid are for: the id of every
monster is in exactly the sector that contains the monster's position. Only a
tick moves monsters, one after the other, and what a tick does to a monster is a
jump or a walk of `MMOServers.GameServer.Herd`.

A respawn is a jump: `Respawn` goes back to the spawn point, and nobody tells
the grid. So is a stride of at most `POSITION_EPSILON` on both axes, which
`SyncMonsterPosition` takes for no move. Either leaves the monster in the sets
of the sector it came from when it crosses a border. All other strides are
walks, which go wrong only off the map. The runs on which the sectors agree in
every state are exactly those on which none of this happens
(`monstersPlaced_iff_followed`).
-/
import MMOServers.GameServer.MonsterSteps
import MMOServers.Lib.Run

namespace MMOServers.GameServer

open MMOServers.Common Cells Transition

/-! ## One monster -/

namespace Monster

variable {K : Type}

def place (m : Monster K) : Place K := ⟨m.monsterId, m.position.x, m.position.y⟩

theorem giveUpChase_place (m : Monster K) : m.giveUpChase.1.place = m.place := by
  unfold giveUpChase
  split <;> rfl

variable [Field K] [LinearOrder K] [HasSqrt K]

theorem updateTargetPosition_place (m : Monster K) (newPos : Vector3 K) :
    (m.updateTargetPosition newPos).1.place = m.place := by
  unfold updateTargetPosition
  split <;> rfl

theorem applyPath_place (m : Monster K) (request : PathRequest K)
    (waypoints : List (Vector3 K)) : (m.applyPath request waypoints).place = m.place := by
  unfold applyPath
  repeat' split
  all_goals rfl

/-- How far a tick takes a monster along the two axes: a step towards its next
    waypoint or, at the end of its way back, the rest of it. -/
def stride (m : Monster K) (deltaTime : K) : K × K :=
  match m.currentPath[m.pathIndex]? with
  | none =>
      if m.state = .return then
        (m.spawnPosition.x - m.position.x, m.spawnPosition.y - m.position.y)
      else (0, 0)
  | some waypoint =>
      let dx := waypoint.x - m.position.x
      let dy := waypoint.y - m.position.y
      let dist := distance dx dy
      if (m.state = .chase ∧ m.attackRange < dist ∨ m.state = .return) ∧
          GameConstants.AI.waypointEpsilon ≤ dist then
        (dx / dist * GameConstants.Monster.moveSpeed * deltaTime,
          dy / dist * GameConstants.Monster.moveSpeed * deltaTime)
      else (0, 0)

/-- The place at a distance from the monster's. -/
def placeAfter (m : Monster K) (d : K × K) : Place K :=
  ⟨m.monsterId, m.position.x + d.1, m.position.y + d.2⟩

omit [LinearOrder K] [HasSqrt K] in
theorem placeAfter_zero (m : Monster K) : m.placeAfter (0, 0) = m.place := by
  simp only [placeAfter, add_zero, place]

omit [LinearOrder K] [HasSqrt K] in
theorem placeAfter_congr {m m' : Monster K} (h : m'.place = m.place) (d : K × K) :
    m'.placeAfter d = m.placeAfter d := by
  obtain ⟨hid, hx, hy⟩ := Place.mk.inj h
  simp only [placeAfter, hid, hx, hy]

theorem updateChase_place {m : Monster K} (h : m.state = .chase) (deltaTime : K) :
    (m.updateChase deltaTime).place = m.placeAfter (m.stride deltaTime) := by
  unfold updateChase stride
  cases m.currentPath[m.pathIndex]? with
  | none => simp [h, placeAfter_zero]
  | some waypoint =>
      dsimp only
      by_cases hrange : distance (waypoint.x - m.position.x) (waypoint.y - m.position.y)
          ≤ m.attackRange
      · rw [if_pos hrange, if_neg (by simp [h, hrange]), placeAfter_zero]
        rfl
      · rw [if_neg hrange]
        split
        · rename_i hnear
          rw [if_neg fun hmoves => not_lt.mpr hmoves.2 hnear, placeAfter_zero]
          rfl
        · rename_i hfar
          rw [if_pos ⟨Or.inl ⟨h, not_le.mp hrange⟩, not_lt.mp hfar⟩]
          rfl

theorem updateReturn_place {m : Monster K} (h : m.state = .return) (deltaTime : K) :
    (m.updateReturn deltaTime).place = m.placeAfter (m.stride deltaTime) := by
  unfold updateReturn stride
  cases m.currentPath[m.pathIndex]? with
  | none => simp [h, place, placeAfter]
  | some waypoint =>
      dsimp only
      split
      · rename_i hnear
        rw [if_neg fun hmoves => not_lt.mpr hmoves.2 hnear, placeAfter_zero]
        rfl
      · rename_i hfar
        rw [if_pos ⟨Or.inr h, not_lt.mp hfar⟩]
        rfl

/-- In the other states nothing is strided. -/
theorem stride_eq_zero {m : Monster K} (hchase : m.state ≠ .chase) (hreturn : m.state ≠ .return)
    (deltaTime : K) : m.stride deltaTime = (0, 0) := by
  unfold stride
  split
  · exact if_neg hreturn
  · refine if_neg ?_
    rintro ⟨⟨h, -⟩ | h, -⟩
    · exact hchase h
    · exact hreturn h

theorem update_place (m : Monster K) (deltaTime : K) :
    (m.update deltaTime).1.place = m.placeAfter (m.stride deltaTime) := by
  unfold update
  cases h : m.state with
  | chase => exact updateChase_place h deltaTime
  | «return» => exact updateReturn_place h deltaTime
  | idle => rw [stride_eq_zero (by simp [h]) (by simp [h]), placeAfter_zero]
  | dead => rw [stride_eq_zero (by simp [h]) (by simp [h]), placeAfter_zero]
  | attack =>
      rw [stride_eq_zero (by simp [h]) (by simp [h]), placeAfter_zero]
      unfold updateAttack
      dsimp only
      repeat' split
      all_goals rfl

end Monster

namespace GameContext

variable {K σ : Type}

/-! ## The herd of a server -/

/-- Where the monsters are, and where the grid has them. -/
def herd (s : GameContext K σ) : Herd K where
  size := s.zone.size
  beasts := s.monsters.map Monster.place
  cells := s.zone.monsters

theorem herd_monster {s : GameContext K σ} {i : Nat} {m : Monster K}
    (hm : s.monsters[i]? = some m) : s.herd.beasts[i]? = some m.place := by
  show (s.monsters.map Monster.place)[i]? = _
  rw [List.getElem?_map, hm, Option.map_some]

theorem herd_setMonster (s : GameContext K σ) {i : Nat} {m : Monster K} {p : Place K}
    (hid : m.monsterId = p.uid) :
    (s.setMonster i m).herd = s.herd.jump i p m.position.x m.position.y := by
  simp only [herd, setMonster, List.map_set, Herd.jump, ← hid]
  rfl

/-- A monster that stays where it is. -/
theorem herd_setMonster_stay {s : GameContext K σ} {i : Nat} {m m' : Monster K}
    (hm : s.monsters[i]? = some m) (hplace : m'.place = m.place) :
    (s.setMonster i m').herd = s.herd := by
  have hjump := herd_setMonster s (i := i) (m := m') (p := m'.place) rfl
  rw [hplace] at hjump
  rw [hjump, show m'.position.x = m.place.x from congrArg Place.x hplace,
    show m'.position.y = m.place.y from congrArg Place.y hplace]
  exact Herd.jump_stay (herd_monster hm)

/-! ## Tasks of the players -/

variable [Field K] [LinearOrder K] [FloorRing K]

theorem movePlayer_herd (s : GameContext K σ) (accId : String) (p : PlayerInfo K) (x y : K) :
    (s.movePlayer accId p x y).herd = s.herd := by
  simp only [herd, movePlayer, setPlayer, Zone.updatePosition_size, Zone.updatePosition_monsters]

theorem removePlayer_herd (s : GameContext K σ) (accId : String) (p : PlayerInfo K) :
    (s.removePlayer accId p).herd = s.herd := by
  simp only [herd, removePlayer, Zone.leaveZone_size, Zone.leaveZone_monsters]

theorem enterPlayer_herd [DecidableEq σ] (s : GameContext K σ) (gw : σ) (accId : String)
    (x y : K) : (s.enterPlayer gw accId x y).2.herd = s.herd := by
  simp only [herd, enterPlayer, Zone.enterZone_size, Zone.enterZone_monsters]

theorem removePlayers_herd (s : GameContext K σ) (accIds : List String) :
    (s.removePlayers accIds).herd = s.herd := by
  induction accIds generalizing s with
  | nil => rfl
  | cons accId rest ih =>
      unfold removePlayers
      split
      · exact ih s
      · rw [ih, removePlayer_herd]

theorem respawnPlayer_herd (s : GameContext K σ) (accId : String) (targetUid : Nat)
    (p : PlayerInfo K) : (s.respawnPlayer accId targetUid p).herd = s.herd := by
  simp only [respawnPlayer, herd, setPlayer, setRedisHp, broadcastToGateways,
    Zone.updatePosition_size, Zone.updatePosition_monsters]

theorem attackPlayer_herd (s : GameContext K σ) (order : IterationOrder)
    (attackerUid targetUid : Nat) (damage : Int) :
    (s.attackPlayer order attackerUid targetUid damage).herd = s.herd := by
  unfold attackPlayer
  split
  · rfl
  · dsimp only
    split
    · exact respawnPlayer_herd _ _ _ _
    · rfl

theorem perform_herd (s : GameContext K σ) (order : IterationOrder) (i : Nat)
    (calls : List (MonsterCall K)) : (s.perform order i calls).herd = s.herd := by
  induction calls generalizing s with
  | nil => rfl
  | cons call calls ih =>
      cases call with
      | findPath request => exact ih { s with pathTasks := s.pathTasks ++ [⟨i, request⟩] }
      | attack attackerId targetId damage =>
          exact (ih _).trans (attackPlayer_herd s order attackerId targetId damage)

/-! ## The tick of one monster -/

variable [HasSqrt K]

omit [FloorRing K] in
theorem keepTarget_place {giveUp : Monster K → Monster K × List (MonsterCall K)}
    (hgiveUp : ∀ m, (giveUp m).1.place = m.place) (s : GameContext K σ) (m : Monster K)
    (oldX oldY : K) : (keepTarget giveUp s m oldX oldY).1.place = m.place := by
  unfold keepTarget
  split
  · exact hgiveUp m
  · split
    · exact m.updateTargetPosition_place _
    · exact hgiveUp m

/-- The choice of a target leaves a monster where it is. -/
theorem processMonster_place (s : GameContext K σ) (order : IterationOrder) (m : Monster K)
    (oldX oldY : K) : (s.processMonster order m oldX oldY).1.place = m.place := by
  unfold processMonster
  split
  · unfold processIdleMonster
    dsimp only
    split <;> rfl
  · exact keepTarget_place Monster.giveUpChase_place s m oldX oldY
  · exact keepTarget_place (fun _ => rfl) s m oldX oldY
  · rfl
  · rfl

omit [HasSqrt K] in
theorem processDeadMonster_herd {s : GameContext K σ} {i : Nat} {m : Monster K}
    (hm : s.monsters[i]? = some m) (order : IterationOrder) (deltaTime : K) :
    (s.processDeadMonster order i m deltaTime).herd =
      if m.deadTimer + deltaTime < (m.respawnSec : K) then s.herd
      else s.herd.jump i m.place m.spawnPosition.x m.spawnPosition.y := by
  unfold processDeadMonster
  show herd (if m.deadTimer + deltaTime < (m.respawnSec : K) then _ else _) = _
  split
  · exact herd_setMonster_stay hm rfl
  · have hjump := herd_setMonster s (i := i) (m := (m.addDeadTime deltaTime).respawn)
      (p := m.place) rfl
    dsimp only
    split <;> exact hjump

omit [HasSqrt K] in
/-- The grid follows a monster unless it hardly moved. -/
theorem syncMonsterPosition_herd {s : GameContext K σ} {h : Herd K} {i : Nat} {p : Place K}
    {m : Monster K} (hs : s.herd = h.jump i p m.position.x m.position.y)
    (hid : m.monsterId = p.uid) (order : IterationOrder) (deltaTime : K) :
    (s.syncMonsterPosition order m p.x p.y deltaTime).herd =
      if |p.x - m.position.x| ≤ GameConstants.AI.positionEpsilon ∧
          |p.y - m.position.y| ≤ GameConstants.AI.positionEpsilon then
        h.jump i p m.position.x m.position.y
      else h.walk i p m.position.x m.position.y := by
  have hsize : s.zone.size = h.size := congrArg Herd.size hs
  have hbeasts : s.monsters.map Monster.place = (h.jump i p _ _).beasts :=
    congrArg Herd.beasts hs
  have hcells : s.zone.monsters = h.cells := congrArg Herd.cells hs
  let zone := s.zone.updatePositionMonster m.monsterId p.x p.y m.position.x m.position.y
  have hwalk : ({ s with zone := zone } : GameContext K σ).herd
      = h.walk i p m.position.x m.position.y := by
    simp only [zone, herd, Zone.updatePositionMonster_size, Zone.updatePositionMonster_monsters,
      hsize, hbeasts, hcells, hid]
    rfl
  unfold syncMonsterPosition
  dsimp only
  split
  · exact hs
  · repeat' split
    all_goals exact hwalk

theorem tickMonster_herd_dead {s : GameContext K σ} {i : Nat} {m : Monster K}
    (hm : s.monsters[i]? = some m) (hdead : m.state = .dead) (order : IterationOrder)
    (deltaTime : K) :
    (tickMonster order deltaTime s i).herd =
      if m.deadTimer + deltaTime < (m.respawnSec : K) then s.herd
      else s.herd.jump i m.place m.spawnPosition.x m.spawnPosition.y := by
  simp only [tickMonster, hm, if_pos hdead]
  exact processDeadMonster_herd hm order deltaTime

/-- How far a tick takes a live monster. -/
def strideOf (s : GameContext K σ) (order : IterationOrder) (m : Monster K) (deltaTime : K) :
    K × K :=
  (s.processMonster order m m.position.x m.position.y).1.stride deltaTime

/-- Too short a stride for the grid to follow. -/
def Short (d : K × K) : Prop :=
  |d.1| ≤ GameConstants.AI.positionEpsilon ∧ |d.2| ≤ GameConstants.AI.positionEpsilon

instance (d : K × K) : Decidable (Short d) := inferInstanceAs (Decidable (_ ∧ _))

theorem tickMonster_herd_live [IsStrictOrderedRing K] {s : GameContext K σ} {i : Nat}
    {m : Monster K} (hm : s.monsters[i]? = some m) (hlive : m.state ≠ .dead)
    (order : IterationOrder) (deltaTime : K) :
    (tickMonster order deltaTime s i).herd =
      let d := s.strideOf order m deltaTime
      if Short d then s.herd.jump i m.place (m.position.x + d.1) (m.position.y + d.2)
      else s.herd.walk i m.place (m.position.x + d.1) (m.position.y + d.2) := by
  simp only [tickMonster, hm, if_neg hlive, strideOf]
  -- the monster after the choice of its target, and after its update
  set m₁ := (s.processMonster order m m.position.x m.position.y).1
  set m₂ := (m₁.update deltaTime).1
  have hplace₁ : m₁.place = m.place := processMonster_place s order m _ _
  have hplace₂ : m₂.place = m.placeAfter (m₁.stride deltaTime) :=
    (m₁.update_place deltaTime).trans (Monster.placeAfter_congr hplace₁ _)
  obtain ⟨hid, hx, hy⟩ := Place.mk.inj hplace₂
  have hfirst (calls : List (MonsterCall K)) :
      ((s.setMonster i m₁).perform order i calls).herd = s.herd :=
    (perform_herd _ order i calls).trans (herd_setMonster_stay hm hplace₁)
  refine (syncMonsterPosition_herd (h := s.herd) (i := i) (p := m.place) ?_ hid order
    deltaTime).trans ?_
  · rw [perform_herd, herd_setMonster (p := m.place) _ hid, hfirst]
  · have hneg (a d : K) : |a - (a + d)| = |d| := by rw [sub_add_cancel_left, abs_neg]
    rw [hx, hy]
    simp only [Monster.place, hneg]
    rfl

/-- A tick of a monster is nothing to the herd, a jump or a walk. -/
theorem tickMonster_herd_cases [IsStrictOrderedRing K] (s : GameContext K σ)
    (order : IterationOrder) (deltaTime : K) (i : Nat) :
    (tickMonster order deltaTime s i).herd = s.herd ∨
      ∃ p x y, s.herd.beasts[i]? = some p ∧
        ((tickMonster order deltaTime s i).herd = s.herd.jump i p x y ∨
          (tickMonster order deltaTime s i).herd = s.herd.walk i p x y) := by
  cases hm : s.monsters[i]? with
  | none =>
      refine Or.inl ?_
      simp only [tickMonster, hm]
  | some m =>
      by_cases hdead : m.state = .dead
      · rw [tickMonster_herd_dead hm hdead]
        split
        · exact Or.inl rfl
        · exact Or.inr ⟨m.place, _, _, herd_monster hm, Or.inl rfl⟩
      · rw [tickMonster_herd_live hm hdead]
        refine Or.inr ⟨m.place, m.position.x + (s.strideOf order m deltaTime).1,
          m.position.y + (s.strideOf order m deltaTime).2, herd_monster hm, ?_⟩
        dsimp only
        split
        · exact Or.inl rfl
        · exact Or.inr rfl

/-- What holds however the monsters move. -/
structure MonstersKnown (s : GameContext K σ) : Prop where
  distinct : s.herd.ids.Nodup
  size : s.zone.size = mapSize

omit [Field K] [LinearOrder K] [FloorRing K] [HasSqrt K] in
theorem MonstersKnown.of_herd {s s' : GameContext K σ} (hk : s.MonstersKnown)
    (hids : s'.herd.ids = s.herd.ids) (hsize : s'.herd.size = s.herd.size) :
    s'.MonstersKnown :=
  ⟨hids ▸ hk.distinct, hsize.trans hk.size⟩

omit [Field K] [LinearOrder K] [FloorRing K] [HasSqrt K] in
theorem MonstersKnown.sectorSize {s : GameContext K σ} (hk : s.MonstersKnown) :
    0 < s.herd.size.sectorSize := by
  rw [show s.herd.size = mapSize from hk.size]
  decide

section Tick

variable [IsStrictOrderedRing K] {order : IterationOrder} {deltaTime : K}

theorem tickMonster_known {s : GameContext K σ} (hk : s.MonstersKnown) (i : Nat) :
    (tickMonster order deltaTime s i).MonstersKnown := by
  obtain h | ⟨p, x, y, hp, h | h⟩ := tickMonster_herd_cases s order deltaTime i
  · exact hk.of_herd (by rw [h]) (by rw [h])
  · exact hk.of_herd (by rw [h, Herd.jump_ids hp]) (by rw [h]; rfl)
  · exact hk.of_herd (by rw [h, Herd.walk_ids hp]) (by rw [h]; rfl)

theorem tickMonster_placedAt_other {s : GameContext K σ} (hk : s.MonstersKnown) {i j : Nat}
    (hij : i ≠ j) : (tickMonster order deltaTime s i).herd.PlacedAt j ↔ s.herd.PlacedAt j := by
  obtain h | ⟨p, x, y, hp, h | h⟩ := tickMonster_herd_cases s order deltaTime i
  · rw [h]
  · rw [h, Herd.placedAt_jump_other hij]
  · rw [h, Herd.placedAt_walk_other hk.distinct hp hij]

/-- The monster stays where the grid has it: it does not come back to life in
    another sector, it does not cross a border in a short stride, and it does not
    leave the map. -/
def Followed (order : IterationOrder) (deltaTime : K) (s : GameContext K σ) (i : Nat) : Prop :=
  ∀ m, s.monsters[i]? = some m →
    if m.state = .dead then
      m.deadTimer + deltaTime < (m.respawnSec : K) ∨
        s.zone.size.SameSector m.position.x m.position.y m.spawnPosition.x m.spawnPosition.y
    else
      let d := s.strideOf order m deltaTime
      if Short d then
        s.zone.size.SameSector m.position.x m.position.y
          (m.position.x + d.1) (m.position.y + d.2)
      else s.zone.size.Inside (m.position.x + d.1) (m.position.y + d.2)

theorem tickMonster_placedAt_iff {s : GameContext K σ} (hk : s.MonstersKnown) {i : Nat}
    (hplaced : s.herd.PlacedAt i) :
    (tickMonster order deltaTime s i).herd.PlacedAt i ↔ Followed order deltaTime s i := by
  unfold Followed
  cases hm : s.monsters[i]? with
  | none =>
      simp only [tickMonster, hm]
      refine iff_of_true hplaced ?_
      intro m hnone
      cases hnone
  | some m =>
      have hp := herd_monster hm
      simp only [Option.some.injEq, forall_eq']
      by_cases hdead : m.state = .dead
      · rw [if_pos hdead, tickMonster_herd_dead hm hdead]
        split
        · rename_i hwaits
          exact iff_of_true hplaced (Or.inl hwaits)
        · rename_i hrespawns
          rw [Herd.placedAt_jump_iff hk.sectorSize hp hplaced, or_iff_right hrespawns]
          rfl
      · rw [if_neg hdead, tickMonster_herd_live hm hdead]
        dsimp only
        split
        · rw [Herd.placedAt_jump_iff hk.sectorSize hp hplaced]
          rfl
        · rw [Herd.placedAt_walk_iff hk.sectorSize hp hplaced]
          rfl

/-! ## The tick of all monsters -/

/-- The monsters of a loop, each in the state in which the loop gets to it. -/
def Follows (order : IterationOrder) (deltaTime : K) : GameContext K σ → List Nat → Prop
  | _, [] => True
  | s, i :: is =>
      Followed order deltaTime s i ∧ Follows order deltaTime (tickMonster order deltaTime s i) is

theorem foldl_tickMonster_known {s : GameContext K σ} (hk : s.MonstersKnown) (is : List Nat) :
    (is.foldl (tickMonster order deltaTime) s).MonstersKnown := by
  induction is generalizing s with
  | nil => exact hk
  | cons i is ih => exact ih (tickMonster_known hk i)

theorem foldl_tickMonster_placedAt_other {s : GameContext K σ} (hk : s.MonstersKnown)
    {is : List Nat} {j : Nat} (hj : j ∉ is) :
    (is.foldl (tickMonster order deltaTime) s).herd.PlacedAt j ↔ s.herd.PlacedAt j := by
  induction is generalizing s with
  | nil => exact Iff.rfl
  | cons i is ih =>
      rw [List.mem_cons, not_or] at hj
      rw [List.foldl_cons, ih (tickMonster_known hk i) hj.2]
      exact tickMonster_placedAt_other hk (Ne.symm hj.1)

/-- A loop that comes to every monster once cannot mend what it has broken. -/
theorem foldl_tickMonster_placed_iff {s : GameContext K σ} (hk : s.MonstersKnown)
    {is : List Nat} (hnodup : is.Nodup) (hplaced : ∀ i, s.herd.PlacedAt i) :
    (∀ i, (is.foldl (tickMonster order deltaTime) s).herd.PlacedAt i)
      ↔ Follows order deltaTime s is := by
  induction is generalizing s with
  | nil => exact iff_of_true hplaced trivial
  | cons i is ih =>
      obtain ⟨hi, hrest⟩ := List.nodup_cons.mp hnodup
      have hknown : (tickMonster order deltaTime s i).MonstersKnown := tickMonster_known hk i
      have hone : (tickMonster order deltaTime s i).herd.PlacedAt i
          ↔ Followed order deltaTime s i := tickMonster_placedAt_iff hk (hplaced i)
      have hall : Followed order deltaTime s i →
          ∀ j, (tickMonster order deltaTime s i).herd.PlacedAt j := by
        intro hfollowed j
        by_cases hij : i = j
        · exact hij ▸ hone.mpr hfollowed
        · exact (tickMonster_placedAt_other hk hij).mpr (hplaced j)
      rw [List.foldl_cons, Follows]
      constructor
      · intro hend
        have hfollowed := hone.mp ((foldl_tickMonster_placedAt_other hknown hi).mp (hend i))
        exact ⟨hfollowed, (ih hknown hrest (hall hfollowed)).mp hend⟩
      · rintro ⟨hfollowed, hfollows⟩
        exact (ih hknown hrest (hall hfollowed)).mpr hfollows

end Tick

/-! ## Other tasks -/

variable [DecidableEq σ] {env : GameEnv K}

omit [HasSqrt K] in
theorem handleGatewayGameMoveReq_herd (s : GameContext K σ) (gw : σ) (order : IterationOrder)
    (payload : List UInt8) :
    (s.handleGatewayGameMoveReq env gw order payload).herd = s.herd := by
  unfold handleGatewayGameMoveReq
  split
  · rfl
  · rename_i req _
    cases hp : s.playerMap req.accountId with
    | some p => exact movePlayer_herd s req.accountId p _ _
    | none =>
        exact (movePlayer_herd _ req.accountId _ _ _).trans
          (enterPlayer_herd s gw req.accountId _ _)

omit [HasSqrt K] in
theorem handleGatewayGameLeaveReq_herd (s : GameContext K σ) (gw : σ) (payload : List UInt8) :
    (s.handleGatewayGameLeaveReq env gw payload).herd = s.herd := by
  unfold handleGatewayGameLeaveReq
  split
  · rfl
  · split
    · rfl
    · rename_i req _ _ p _
      exact removePlayer_herd s req.accountId p

omit [DecidableEq σ] in
theorem handleGatewayGameAttackReq_herd (s : GameContext K σ) (order : IterationOrder)
    (payload : List UInt8) :
    (s.handleGatewayGameAttackReq env order payload).herd = s.herd := by
  unfold handleGatewayGameAttackReq
  split
  · rfl
  · split
    · rfl
    · dsimp only
      split
      · rfl
      · rename_i i m hnearest
        obtain ⟨hm, -⟩ := nearestMonster_alive (by simp) hnearest
        refine herd_setMonster_stay (m := m) hm ?_
        split <;> rfl

omit [HasSqrt K] [DecidableEq σ] in
theorem handleGatewayGameChatReq_herd (s : GameContext K σ) (gw : σ) (order : IterationOrder)
    (payload : List UInt8) :
    (s.handleGatewayGameChatReq env gw order payload).herd = s.herd := by
  unfold handleGatewayGameChatReq
  repeat' split
  all_goals rfl

theorem dispatch_herd (s : GameContext K σ) (gw : σ) (id : UInt16) (payload : List UInt8)
    (order : IterationOrder) : (s.dispatch env gw id payload order).herd = s.herd := by
  unfold dispatch
  repeat' split
  · exact handleGatewayGameMoveReq_herd s gw order payload
  · exact handleGatewayGameLeaveReq_herd s gw payload
  · exact handleGatewayGameAttackReq_herd s order payload
  · exact handleGatewayGameChatReq_herd s gw order payload
  · rfl

omit [Field K] [LinearOrder K] [FloorRing K] [HasSqrt K] [DecidableEq σ] in
theorem handleWorldGameMonsterBuff_herd (s : GameContext K σ) (payload : List UInt8) :
    (s.handleWorldGameMonsterBuff env payload).herd = s.herd := by
  unfold handleWorldGameMonsterBuff
  split
  · rfl
  · simp only [herd, List.map_map]
    congr 1
    refine List.map_congr_left fun m _ => ?_
    dsimp only [Function.comp_apply]
    split <;> rfl

omit [Field K] [LinearOrder K] [FloorRing K] [HasSqrt K] [DecidableEq σ] in
theorem worldDispatch_herd (s : GameContext K σ) (id : UInt16) (payload : List UInt8) :
    (s.worldDispatch env id payload).herd = s.herd := by
  unfold worldDispatch
  split
  · exact handleWorldGameMonsterBuff_herd s payload
  · unfold handleWorldGameTokenNotify
    repeat' split
    all_goals rfl

omit [FloorRing K] [DecidableEq σ] in
theorem pathResult_herd (s : GameContext K σ) (task : PathTask K)
    (waypoints : List (Vector3 K)) : (s.pathResult task waypoints).herd = s.herd := by
  unfold pathResult
  split
  · rfl
  · rename_i m hm
    exact herd_setMonster_stay hm (m.applyPath_place _ _)

/-! ## Runs -/

/-- The monster sets of the grid have every monster in the sector of its position,
    and in no other. -/
def MonstersPlaced (s : GameContext K σ) : Prop :=
  ∀ m ∈ s.monsters, ∃ k, s.zone.size.Contains k m.position.x m.position.y ∧
    At s.zone.monsters m.monsterId (some k)

omit [FloorRing K] [HasSqrt K] [DecidableEq σ] in
theorem monstersPlaced_iff {s : GameContext K σ} :
    s.MonstersPlaced ↔ ∀ i, s.herd.PlacedAt i := by
  constructor
  · intro h i p hp
    obtain ⟨m, hm, rfl⟩ : ∃ m, s.monsters[i]? = some m ∧ m.place = p := by
      rw [herd, List.getElem?_map] at hp
      exact Option.map_eq_some_iff.mp hp
    exact h m (List.mem_of_getElem? hm)
  · intro h m hmem
    obtain ⟨i, hm⟩ := List.mem_iff_getElem?.mp hmem
    exact h i m.place (herd_monster hm)

/-- The monsters of a tick stay where the grid has them. -/
def TickFollows (s : GameContext K σ) : Label K σ → Prop
  | .aiTick deltaTime order => Follows order deltaTime s (List.range s.monsters.length)
  | _ => True

/-- Only a tick concerns the herd. -/
theorem step_herd {s s' : GameContext K σ} {label : Label K σ}
    (h : step env s label = some s') :
    s'.herd = s.herd ∨ ∃ deltaTime order, label = .aiTick deltaTime order ∧
      s' = s.aiTick order deltaTime := by
  cases step_inv h with
  | packet gw id payload order => exact Or.inl (dispatch_herd s gw id payload order)
  | gatewayDisconnected gw => exact Or.inl (removePlayers_herd s (s.gatewayPlayerMap gw))
  | worldPacket id payload => exact Or.inl (worldDispatch_herd s id payload)
  | aiTick deltaTime order => exact Or.inr ⟨deltaTime, order, rfl, rfl⟩
  | pathResult waypoints asked => exact Or.inl (pathResult_herd _ _ waypoints)

variable [IsStrictOrderedRing K]

theorem step_monstersKnown {s s' : GameContext K σ} {label : Label K σ}
    (hk : s.MonstersKnown) (h : step env s label = some s') : s'.MonstersKnown := by
  obtain hherd | ⟨deltaTime, order, -, rfl⟩ := step_herd h
  · exact hk.of_herd (by rw [hherd]) (by rw [hherd])
  · exact foldl_tickMonster_known hk _

/-- A task keeps the monsters in place exactly when its tick, if it is one,
    follows them. -/
theorem step_monstersPlaced_iff {s s' : GameContext K σ} {label : Label K σ}
    (hk : s.MonstersKnown) (hp : s.MonstersPlaced) (h : step env s label = some s') :
    s'.MonstersPlaced ↔ TickFollows s label := by
  rw [monstersPlaced_iff] at hp
  cases label with
  | aiTick deltaTime order =>
      obtain rfl := Option.some.inj h
      rw [monstersPlaced_iff]
      exact foldl_tickMonster_placed_iff hk List.nodup_range hp
  | _ =>
      refine iff_of_true ?_ trivial
      obtain hherd | ⟨_, _, hlabel, -⟩ := step_herd h
      · rw [monstersPlaced_iff, hherd]
        exact hp
      · cases hlabel

/-! ## The start -/

omit [HasSqrt K] [DecidableEq σ] [IsStrictOrderedRing K] in
theorem initMonster_herd (s : GameContext K σ) (data : MonsterSpawn K) :
    (s.initMonster data).herd = s.herd.join (Monster.spawn data).place := by
  simp only [herd, initMonster, Herd.join, List.map_append, Zone.enterZoneMonster_size,
    Zone.enterZoneMonster_monsters]
  rfl

omit [HasSqrt K] [DecidableEq σ] in
theorem initMonsters_settled {s : GameContext K σ} (hset : s.herd.Settled)
    (hsize : s.zone.size = mapSize) {spawns : List (MonsterSpawn K)}
    (hids : (s.herd.ids ++ spawns.map (·.monId)).Nodup)
    (hinside : ∀ data ∈ spawns, mapSize.Inside data.x data.y) :
    (s.initMonsters spawns).herd.Settled ∧ (s.initMonsters spawns).zone.size = mapSize := by
  induction spawns generalizing s with
  | nil => exact ⟨hset, hsize⟩
  | cons data spawns ih =>
      have hherd := initMonster_herd s data
      have hs : s.herd.size = mapSize := hsize
      have hnew : data.monId ∉ s.herd.ids := by
        intro hmem
        exact (List.nodup_append.mp hids).2.2 _ hmem data.monId List.mem_cons_self rfl
      have hdata : mapSize.Inside data.x data.y := hinside data List.mem_cons_self
      refine ih (s := s.initMonster data) ?_ ?_ ?_ fun d hd => hinside d (List.mem_cons_of_mem _ hd)
      · rw [hherd]
        exact hset.join (by rw [hs]; decide) hnew (by rw [hs]; exact hdata)
      · exact (congrArg Herd.size hherd).trans hs
      · have hjoined : (s.initMonster data).herd.ids = s.herd.ids ++ [data.monId] := by
          rw [hherd]
          exact List.map_append
        rw [hjoined, List.append_assoc]
        exact hids

/-! ## The sectors in every state -/

/-- With distinct monsters that start on the map, every monster is in the sector
    of its position in every state exactly when all ticks follow the monsters. -/
theorem monstersPlaced_iff_followed (env : GameEnv K) (spawns : List (MonsterSpawn K))
    (hids : (spawns.map (·.monId)).Nodup)
    (hinside : ∀ data ∈ spawns, mapSize.Inside data.x data.y) (labels : List (Label K σ)) :
    Always (step env) MonstersPlaced (start spawns) labels
      ↔ Meets (step env) TickFollows (start spawns) labels := by
  have hempty : (⟨mapSize, [], fun _ => []⟩ : Herd K).Settled :=
    ⟨List.nodup_nil, fun i p hp => by simp at hp, fun _ _ h => (nomatch h)⟩
  obtain ⟨hset, hsize⟩ : (start spawns : GameContext K σ).herd.Settled ∧
      (start spawns : GameContext K σ).zone.size = mapSize :=
    initMonsters_settled hempty rfl hids hinside
  exact always_iff_meets _ (fun hk _ _ h => step_monstersKnown hk h)
    (fun hk hp h => step_monstersPlaced_iff hk hp h) ⟨hset.distinct, hsize⟩
    (monstersPlaced_iff.mpr hset.placed)

/-- The spawn point of a monster, half a metre from a border of sectors. -/
def borderSpawn : List (MonsterSpawn ℚ) := [⟨1, 99 / 2, 10, 20, 60⟩]

/-- "a" moves to (50.25, 10), where the monster sees it. -/
def chase : List (Label ℚ Nat) :=
  [.packet 0 PacketId.gatewayGameMoveReq [10, 1, 97, 21, 0, 0, 73, 66, 29, 0, 0, 32, 65] .listed,
    .aiTick (1 / 10) .listed, .pathResult 0 [⟨201 / 4, 10, 0⟩]]

theorem monstersPlaced_chase :
    Always (step .sample) MonstersPlaced (start borderSpawn : GameContext ℚ Nat) chase
      ↔ Meets (step .sample) TickFollows (start borderSpawn : GameContext ℚ Nat) chase :=
  monstersPlaced_iff_followed .sample borderSpawn (by decide) (by decide +kernel) chase

/-- The sector that the code computes for a monster has the monster. -/
def Listed (s : GameContext K σ) : Prop :=
  0 < s.zone.size.sectorSize → ∀ m ∈ s.monsters,
    ∀ k ∈ s.zone.size.getSectorIndex m.position.x m.position.y,
      m.monsterId ∈ s.zone.monsters k

instance (s : GameContext K σ) : Decidable s.Listed :=
  inferInstanceAs (Decidable (_ → _))

omit [HasSqrt K] [DecidableEq σ] in
theorem MonstersPlaced.listed {s : GameContext K σ} (h : s.MonstersPlaced) : s.Listed := by
  intro hs m hm k hk
  obtain ⟨k', hcontains, hat⟩ := h m hm
  rw [(ZoneSize.getSectorIndex_eq_some_iff hs).mpr hcontains] at hk
  exact (hat k).mpr hk

/-- The monster crosses the border, is killed there, and comes back to life on
    the other side. -/
theorem monsters_respawn :
    ¬ Always (step .sample) MonstersPlaced (start borderSpawn : GameContext ℚ Nat)
      (chase ++ [.aiTick (1 / 4) .listed,
        .packet 0 PacketId.gatewayGameAttackReq [10, 1, 97] .listed,
        .aiTick 60 .listed]) := by
  intro h
  exact absurd (h.imp fun s hs => hs.listed) (by decide +kernel)

end GameContext

end MMOServers.GameServer

/-
MMOServers.GameServer.Monster — `class Monster`.

A member function returns the monster it leaves and what it asks of the rest of
the server: a path from the AI thread pool, or the attack callback. Coordinates
and times are of a field `K` in place of `float`. The pointer to the mesh is
left out, since `InitMonsters` sets it for every monster.

`wrap32` is the arithmetic of `int`, and path versions are those of a `uint64_t`.
-/
import MMOServers.Common.FloatMath
import MMOServers.Common.GameConstants
import Mathlib.Data.Rat.Cast.OfScientific

namespace MMOServers.GameServer

open MMOServers.Common

/-- The value of an `int` after an operation that may overflow. -/
def wrap32 (n : Int) : Int := Int.bmod n (2 ^ 32)

structure Vector3 (K : Type) where
  x : K
  y : K
  z : K
  deriving DecidableEq

/-- The planar distance, as the code computes it. -/
def distance {K : Type} [Field K] [HasSqrt K] (dx dy : K) : K := sqrt (dx * dx + dy * dy)

inductive MonsterState where
  | idle
  | chase
  | attack
  | return
  | dead
  deriving DecidableEq

/-- A request to the AI thread pool: what `CalculatePath` captures. -/
structure PathRequest (K : Type) where
  start : Vector3 K
  stop : Vector3 K
  version : Nat
  state : MonsterState
  deriving DecidableEq

inductive MonsterCall (K : Type) where
  | findPath (request : PathRequest K)
  | attack (attackerId targetId : Nat) (damage : Int)

structure Monster (K : Type) where
  monsterId : Nat
  position : Vector3 K
  spawnPosition : Vector3 K
  state : MonsterState := .idle
  targetUserId : Nat := 0
  targetLastPos : Vector3 K
  currentPath : List (Vector3 K) := []
  pathIndex : Nat := 0
  pathRequestVersion : Nat := 0
  hp : Int := GameConstants.Monster.defaultHp
  maxHp : Int := GameConstants.Monster.defaultHp
  attackPower : Int := GameConstants.Monster.defaultAtk
  defensePower : Int := GameConstants.Monster.defaultDef
  attackRange : K
  attackCooldown : K
  attackTimer : K
  respawnSec : Int := 60
  deadTimer : K
  deriving DecidableEq

/-- An entry of the spawn list. -/
structure MonsterSpawn (K : Type) where
  monId : Nat
  x : K
  y : K
  hp : Int
  respawnSec : Int

namespace Monster

variable {K : Type} [Field K]

/-- The monster `InitMonsters` makes of an entry of the spawn list. -/
def spawn (data : MonsterSpawn K) : Monster K where
  monsterId := data.monId
  position := ⟨data.x, data.y, 0⟩
  spawnPosition := ⟨data.x, data.y, 0⟩
  targetLastPos := ⟨0, 0, 0⟩
  hp := data.hp
  maxHp := data.hp
  attackRange := GameConstants.Monster.attackRange
  attackCooldown := GameConstants.Monster.attackCooldown
  -- the timer starts full, so that the first hit needs no waiting
  attackTimer := GameConstants.Monster.attackCooldown
  respawnSec := data.respawnSec
  deadTimer := 0

/-! ## Life and death -/

def takeDamage (m : Monster K) (damage : Int) : Monster K :=
  let hp := wrap32 (m.hp - damage)
  { m with hp := if hp < 0 then 0 else hp }

/-- `SetHp`, which adds. -/
def setHp (m : Monster K) (addHp : Int) : Monster K := { m with hp := wrap32 (m.hp + addHp) }

def nextVersion (m : Monster K) : Nat := (m.pathRequestVersion + 1) % 2 ^ 64

def die (m : Monster K) : Monster K :=
  { m with hp := 0, state := .dead, pathRequestVersion := m.nextVersion }

def addDeadTime (m : Monster K) (deltaTime : K) : Monster K :=
  { m with deadTimer := m.deadTimer + deltaTime }

def respawn (m : Monster K) : Monster K :=
  { m with
      hp := m.maxHp
      state := .idle
      position := m.spawnPosition
      deadTimer := 0
      targetUserId := 0
      pathRequestVersion := m.nextVersion
      currentPath := [] }

/-! ## Targets -/

/-- `CalculatePath` up to the task it posts. -/
def calculatePath (m : Monster K) : Monster K × List (MonsterCall K) :=
  let m := { m with pathRequestVersion := m.nextVersion }
  (m, [.findPath ⟨m.position, m.targetLastPos, m.pathRequestVersion, m.state⟩])

def setTarget (m : Monster K) (targetId : Nat) (targetPos : Vector3 K) :
    Monster K × List (MonsterCall K) :=
  { m with targetUserId := targetId, targetLastPos := targetPos, state := .chase }.calculatePath

def giveUpChase (m : Monster K) : Monster K × List (MonsterCall K) :=
  if m.state = .chase then
    { m with state := .return, targetLastPos := m.spawnPosition }.calculatePath
  else (m, [])

def giveUpAttack (m : Monster K) : Monster K × List (MonsterCall K) :=
  { m with state := .return, targetUserId := 0, targetLastPos := m.spawnPosition }.calculatePath

variable [LinearOrder K] [HasSqrt K]

def updateTargetPosition (m : Monster K) (newPos : Vector3 K) :
    Monster K × List (MonsterCall K) :=
  if distance (m.targetLastPos.x - newPos.x) (m.targetLastPos.y - newPos.y) > 0.1 then
    { m with targetLastPos := newPos }.calculatePath
  else (m, [])

/-- The result of a path request, applied on the strand. -/
def applyPath (m : Monster K) (request : PathRequest K) (waypoints : List (Vector3 K)) :
    Monster K :=
  if m.pathRequestVersion ≠ request.version then m
  else if m.state = .dead then m
  else if request.state ≠ m.state ∧ ¬ (request.state = .chase ∧ m.state = .attack) then m
  else
    let pathIndex :=
      match waypoints with
      | first :: _ :: _ =>
          if distance (first.x - m.position.x) (first.y - m.position.y)
              < GameConstants.AI.waypointEpsilon then 1
          else 0
      | _ => 0
    { m with currentPath := waypoints, pathIndex := pathIndex }

/-! ## Updates -/

/-- A step of the length of the tick towards a waypoint at the given distance. -/
def moveTowards (m : Monster K) (dx dy dist deltaTime : K) : Monster K :=
  { m with position :=
      ⟨m.position.x + dx / dist * GameConstants.Monster.moveSpeed * deltaTime,
        m.position.y + dy / dist * GameConstants.Monster.moveSpeed * deltaTime,
        m.position.z⟩ }

def updateChase (m : Monster K) (deltaTime : K) : Monster K :=
  match m.currentPath[m.pathIndex]? with
  | none => m
  | some waypoint =>
      let dx := waypoint.x - m.position.x
      let dy := waypoint.y - m.position.y
      let dist := distance dx dy
      if dist ≤ m.attackRange then { m with state := .attack }
      else if dist < GameConstants.AI.waypointEpsilon then
        { m with pathIndex := m.pathIndex + 1 }
      else m.moveTowards dx dy dist deltaTime

def updateReturn (m : Monster K) (deltaTime : K) : Monster K :=
  match m.currentPath[m.pathIndex]? with
  | none => { m with position := m.spawnPosition, state := .idle }
  | some waypoint =>
      let dx := waypoint.x - m.position.x
      let dy := waypoint.y - m.position.y
      let dist := distance dx dy
      if dist < GameConstants.AI.waypointEpsilon then { m with pathIndex := m.pathIndex + 1 }
      else m.moveTowards dx dy dist deltaTime

def updateAttack (m : Monster K) (deltaTime : K) : Monster K × List (MonsterCall K) :=
  let distToTarget :=
    distance (m.targetLastPos.x - m.position.x) (m.targetLastPos.y - m.position.y)
  if distToTarget > m.attackRange then { m with state := .chase }.calculatePath
  else
    let attackTimer := m.attackTimer + deltaTime
    if attackTimer ≥ m.attackCooldown then
      ({ m with attackTimer := attackTimer - m.attackCooldown },
        [.attack m.monsterId m.targetUserId m.attackPower])
    else ({ m with attackTimer := attackTimer }, [])

def update (m : Monster K) (deltaTime : K) : Monster K × List (MonsterCall K) :=
  match m.state with
  | .idle => (m, [])
  | .chase => (m.updateChase deltaTime, [])
  | .return => (m.updateReturn deltaTime, [])
  | .attack => m.updateAttack deltaTime
  | .dead => (m, [])

end Monster

end MMOServers.GameServer

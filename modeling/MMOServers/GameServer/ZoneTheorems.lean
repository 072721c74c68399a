/-
MMOServers.GameServer.ZoneTheorems — what the operations of a zone do.

* In exact arithmetic `GetSectorIndex` is geometry: it answers with the sector
  of the grid that contains the point, and with none exactly outside the map
  (`getSectorIndex_eq_some_iff`, `getSectorIndex_isSome_iff`).
* `players` and `monsters` are the grid as two families of sets, and every
  operation of the zone is one of `MMOServers.Lib.Cells` on one of them, at the
  sectors of the positions it is given. `UpdatePosition` lets a player in from
  outside the map; `UpdatePositionMonster` does not do this for a monster.
-/
import MMOServers.GameServer.Zone

namespace MMOServers.GameServer

open MMOServers.Common Cells

/-- An id at a position. -/
structure Place (K : Type) where
  uid : Nat
  x : K
  y : K

namespace ZoneSize

/-! ## Sectors as regions -/

section Exact

variable {K : Type} [Field K] [LinearOrder K]

/-- The sector of the grid that the point is in. -/
structure Contains (size : ZoneSize) (k : SectorIndex) (x y : K) : Prop where
  row : 0 ≤ k.1 ∧ k.1 < size.rows
  col : 0 ≤ k.2 ∧ k.2 < size.cols
  horizontal : k.2 * size.sectorSize ≤ x ∧ x < (k.2 + 1) * size.sectorSize
  vertical : k.1 * size.sectorSize ≤ y ∧ y < (k.1 + 1) * size.sectorSize
  inside : x < size.width ∧ y < size.height

/-- Two points are in one sector. -/
def SameSector (size : ZoneSize) (x y x' y' : K) : Prop :=
  ∃ k, size.Contains k x y ∧ size.Contains k x' y'

/-- The point is on the map. -/
def Inside (size : ZoneSize) (x y : K) : Prop :=
  (0 ≤ x ∧ x < size.width) ∧ 0 ≤ y ∧ y < size.height

instance (size : ZoneSize) (x y : K) : Decidable (size.Inside x y) :=
  inferInstanceAs (Decidable (_ ∧ _))

variable [FloorRing K]

theorem getSectorIndex_of_inside {size : ZoneSize} {x y : K} (h : size.Inside x y) :
    size.getSectorIndex x y
      = some (trunc (y / (size.sectorSize : K)), trunc (x / (size.sectorSize : K))) := by
  obtain ⟨⟨hx, hxw⟩, hy, hyh⟩ := h
  refine if_neg ?_
  rw [Int.cast_zero]
  rintro (h | h | h | h)
  · exact absurd h (not_lt.mpr hx)
  · exact absurd h (not_le.mpr hxw)
  · exact absurd h (not_lt.mpr hy)
  · exact absurd h (not_le.mpr hyh)

theorem getSectorIndex_isSome_iff {size : ZoneSize} {x y : K} :
    (size.getSectorIndex x y).isSome ↔ size.Inside x y := by
  constructor
  · intro h
    unfold getSectorIndex at h
    split at h
    · cases h
    · rename_i hin
      rw [Int.cast_zero] at hin
      push Not at hin
      exact ⟨⟨hin.1, hin.2.1⟩, hin.2.2.1, hin.2.2.2⟩
  · intro h
    rw [getSectorIndex_of_inside h]
    rfl

omit [Field K] [LinearOrder K] [FloorRing K] in
/-- The sectors of a length, as the cells that start within it. -/
theorem lt_sectors_iff {size : ZoneSize} (hs : 0 < size.sectorSize) {length n : Int} :
    n < size.sectors length ↔ n * size.sectorSize < length := by
  unfold sectors
  constructor
  · intro h
    have hdiv : -length / size.sectorSize < -n := by omega
    rw [Int.ediv_lt_iff_lt_mul hs, Int.neg_mul] at hdiv
    omega
  · intro h
    have hdiv : -length / size.sectorSize < -n := by
      rw [Int.ediv_lt_iff_lt_mul hs, Int.neg_mul]
      omega
    omega

variable [IsStrictOrderedRing K]

/-- The cell of a coordinate within a length. -/
theorem floor_div_eq_iff {size : ZoneSize} (hs : 0 < size.sectorSize) {x : K} {n : Int} :
    ⌊x / (size.sectorSize : K)⌋ = n
      ↔ n * (size.sectorSize : K) ≤ x ∧ x < (n + 1) * (size.sectorSize : K) := by
  have hs' : (0 : K) < size.sectorSize := by exact_mod_cast hs
  rw [Int.floor_eq_iff, le_div_iff₀ hs', div_lt_iff₀ hs']

theorem getSectorIndex_eq_some_iff {size : ZoneSize} (hs : 0 < size.sectorSize) {x y : K}
    {k : SectorIndex} : size.getSectorIndex x y = some k ↔ size.Contains k x y := by
  have hs' : (0 : K) < size.sectorSize := by exact_mod_cast hs
  constructor
  · intro h
    have hin : size.Inside x y := getSectorIndex_isSome_iff.mp (by rw [h]; rfl)
    obtain ⟨⟨hx, hxw⟩, hy, hyh⟩ := hin
    rw [getSectorIndex_of_inside ⟨⟨hx, hxw⟩, hy, hyh⟩, Option.some.injEq,
      trunc_of_nonneg (div_nonneg hx hs'.le), trunc_of_nonneg (div_nonneg hy hs'.le)] at h
    subst h
    have hcol := (floor_div_eq_iff hs (x := x)).mp rfl
    have hrow := (floor_div_eq_iff hs (x := y)).mp rfl
    refine ⟨⟨Int.floor_nonneg.mpr (div_nonneg hy hs'.le), ?_⟩,
      ⟨Int.floor_nonneg.mpr (div_nonneg hx hs'.le), ?_⟩, hcol, hrow, hxw, hyh⟩
    · rw [rows, lt_sectors_iff hs]
      exact_mod_cast hrow.1.trans_lt hyh
    · rw [cols, lt_sectors_iff hs]
      exact_mod_cast hcol.1.trans_lt hxw
  · rintro ⟨⟨hrow, -⟩, ⟨hcol, -⟩, hx, hy, hxw, hyh⟩
    have hx₀ : 0 ≤ x := le_trans (mul_nonneg (by exact_mod_cast hcol) hs'.le) hx.1
    have hy₀ : 0 ≤ y := le_trans (mul_nonneg (by exact_mod_cast hrow) hs'.le) hy.1
    rw [getSectorIndex_of_inside ⟨⟨hx₀, hxw⟩, hy₀, hyh⟩,
      trunc_of_nonneg (div_nonneg hx₀ hs'.le), trunc_of_nonneg (div_nonneg hy₀ hs'.le),
      (floor_div_eq_iff hs).mpr hx, (floor_div_eq_iff hs).mpr hy]

theorem Contains.unique {size : ZoneSize} (hs : 0 < size.sectorSize) {x y : K}
    {k k' : SectorIndex} (h : size.Contains k x y) (h' : size.Contains k' x y) : k = k' := by
  rw [← getSectorIndex_eq_some_iff hs] at h h'
  rw [h, Option.some.injEq] at h'
  exact h'

theorem inside_iff_contains {size : ZoneSize} (hs : 0 < size.sectorSize) {x y : K} :
    size.Inside x y ↔ ∃ k, size.Contains k x y := by
  rw [← getSectorIndex_isSome_iff, Option.isSome_iff_exists]
  exact exists_congr fun k => getSectorIndex_eq_some_iff hs

end Exact

end ZoneSize

namespace Zone

/-! ## The grid as two families of sets -/

def players (z : Zone) (k : SectorIndex) : List Nat := (z.grid k).players

def monsters (z : Zone) (k : SectorIndex) : List Nat := (z.grid k).monsters

/-- A family that the update of a sector keeps. -/
theorem modify_family (get : Sector → List Nat) (z : Zone) (k : SectorIndex)
    {f : Sector → Sector} (h : ∀ s, get (f s) = get s) :
    (fun k' => get ((z.modify k f).grid k')) = fun k' => get (z.grid k') := by
  funext k'
  by_cases hk : k' = k
  · subst hk
    simp [modify, h]
  · simp [modify, hk]

theorem addPlayer_players (z : Zone) (k : SectorIndex) (id : Nat) :
    (z.modify k (·.addPlayer id)).players = add z.players k id := by
  funext k'
  by_cases hk : k' = k
  · subst hk
    simp [players, modify, add, Sector.addPlayer]
  · simp [players, modify, add, hk]

theorem removePlayer_players (z : Zone) (k : SectorIndex) (id : Nat) :
    (z.modify k (·.removePlayer id)).players = remove z.players k id := by
  funext k'
  by_cases hk : k' = k
  · subst hk
    simp [players, modify, remove, Sector.removePlayer]
  · simp [players, modify, remove, hk]

@[simp] theorem addPlayer_monsters (z : Zone) (k : SectorIndex) (id : Nat) :
    (z.modify k (·.addPlayer id)).monsters = z.monsters :=
  modify_family (·.monsters) z k fun _ => rfl

@[simp] theorem removePlayer_monsters (z : Zone) (k : SectorIndex) (id : Nat) :
    (z.modify k (·.removePlayer id)).monsters = z.monsters :=
  modify_family (·.monsters) z k fun _ => rfl

@[simp] theorem addMonster_players (z : Zone) (k : SectorIndex) (id : Nat) :
    (z.modify k (·.addMonster id)).players = z.players :=
  modify_family (·.players) z k fun _ => rfl

@[simp] theorem removeMonster_players (z : Zone) (k : SectorIndex) (id : Nat) :
    (z.modify k (·.removeMonster id)).players = z.players :=
  modify_family (·.players) z k fun _ => rfl

theorem addMonster_monsters (z : Zone) (k : SectorIndex) (id : Nat) :
    (z.modify k (·.addMonster id)).monsters = add z.monsters k id := by
  funext k'
  by_cases hk : k' = k
  · subst hk
    simp [monsters, modify, add, Sector.addMonster]
  · simp [monsters, modify, add, hk]

theorem removeMonster_monsters (z : Zone) (k : SectorIndex) (id : Nat) :
    (z.modify k (·.removeMonster id)).monsters = remove z.monsters k id := by
  funext k'
  by_cases hk : k' = k
  · subst hk
    simp [monsters, modify, remove, Sector.removeMonster]
  · simp [monsters, modify, remove, hk]

theorem call_addPlayer (z : Zone) (k : SectorIndex) (id : Nat) :
    (z.call (.addPlayer k id)).players = add z.players k id :=
  addPlayer_players z k id

theorem call_removePlayer (z : Zone) (k : SectorIndex) (id : Nat) :
    (z.call (.removePlayer k id)).players = remove z.players k id :=
  removePlayer_players z k id

theorem calls_size (z : Zone) (cs : List SectorCall) : (z.calls cs).size = z.size := by
  induction cs generalizing z with
  | nil => rfl
  | cons c cs ih => exact (ih (z.call c)).trans (by cases c <;> rfl)

theorem calls_monsters (z : Zone) (cs : List SectorCall) :
    (z.calls cs).monsters = z.monsters := by
  induction cs generalizing z with
  | nil => rfl
  | cons c cs ih => exact (ih (z.call c)).trans (by cases c <;> simp [call])

variable {F : Type} [IntCast F] [Div F] [LT F] [LE F] [DecidableLT F] [DecidableLE F]
  [TruncInt F]

/-! ## Players -/

@[simp] theorem enterZone_size (z : Zone) (id : Nat) (x y : F) :
    (z.enterZone id x y).size = z.size := by
  unfold enterZone
  split <;> rfl

@[simp] theorem leaveZone_size (z : Zone) (id : Nat) (x y : F) :
    (z.leaveZone id x y).size = z.size := by
  unfold leaveZone
  split <;> rfl

@[simp] theorem updatePosition_size (z : Zone) (id : Nat) (oldX oldY newX newY : F) :
    (z.updatePosition id oldX oldY newX newY).size = z.size :=
  z.calls_size _

@[simp] theorem enterZone_monsters (z : Zone) (id : Nat) (x y : F) :
    (z.enterZone id x y).monsters = z.monsters := by
  unfold enterZone
  split <;> simp

@[simp] theorem leaveZone_monsters (z : Zone) (id : Nat) (x y : F) :
    (z.leaveZone id x y).monsters = z.monsters := by
  unfold leaveZone
  split <;> simp

@[simp] theorem updatePosition_monsters (z : Zone) (id : Nat) (oldX oldY newX newY : F) :
    (z.updatePosition id oldX oldY newX newY).monsters = z.monsters :=
  z.calls_monsters _

theorem enterZone_players (z : Zone) (id : Nat) (x y : F) :
    (z.enterZone id x y).players = enter z.players (z.size.getSectorIndex x y) id := by
  unfold enterZone
  cases z.size.getSectorIndex x y with
  | none => rfl
  | some k => exact addPlayer_players z k id

theorem leaveZone_players (z : Zone) (id : Nat) (x y : F) :
    (z.leaveZone id x y).players = leave z.players (z.size.getSectorIndex x y) id := by
  unfold leaveZone
  cases z.size.getSectorIndex x y with
  | none => rfl
  | some k => exact removePlayer_players z k id

theorem updatePosition_players (z : Zone) (id : Nat) (oldX oldY newX newY : F) :
    (z.updatePosition id oldX oldY newX newY).players =
      relocate z.players (z.size.getSectorIndex oldX oldY) (z.size.getSectorIndex newX newY)
        id := by
  unfold updatePosition updatePositionCalls relocate
  cases z.size.getSectorIndex oldX oldY with
  | none =>
      cases z.size.getSectorIndex newX newY with
      | none => rfl
      | some k => exact addPlayer_players z k id
  | some old =>
      cases z.size.getSectorIndex newX newY with
      | none => rfl
      | some new =>
          simp only [shift]
          split
          · exact (call_removePlayer _ old id).trans (by rw [call_addPlayer])
          · rfl

/-! ## Monsters -/

@[simp] theorem enterZoneMonster_size (z : Zone) (id : Nat) (x y : F) :
    (z.enterZoneMonster id x y).size = z.size := by
  unfold enterZoneMonster
  split <;> rfl

@[simp] theorem updatePositionMonster_size (z : Zone) (id : Nat) (oldX oldY newX newY : F) :
    (z.updatePositionMonster id oldX oldY newX newY).size = z.size := by
  unfold updatePositionMonster
  repeat' split
  all_goals rfl

@[simp] theorem enterZoneMonster_players (z : Zone) (id : Nat) (x y : F) :
    (z.enterZoneMonster id x y).players = z.players := by
  unfold enterZoneMonster
  split <;> simp

@[simp] theorem updatePositionMonster_players (z : Zone) (id : Nat)
    (oldX oldY newX newY : F) :
    (z.updatePositionMonster id oldX oldY newX newY).players = z.players := by
  unfold updatePositionMonster
  repeat' split
  all_goals simp

theorem enterZoneMonster_monsters (z : Zone) (id : Nat) (x y : F) :
    (z.enterZoneMonster id x y).monsters = enter z.monsters (z.size.getSectorIndex x y) id := by
  unfold enterZoneMonster
  cases z.size.getSectorIndex x y with
  | none => rfl
  | some k => exact addMonster_monsters z k id

theorem updatePositionMonster_monsters (z : Zone) (id : Nat) (oldX oldY newX newY : F) :
    (z.updatePositionMonster id oldX oldY newX newY).monsters =
      shift z.monsters (z.size.getSectorIndex oldX oldY) (z.size.getSectorIndex newX newY)
        id := by
  unfold updatePositionMonster
  cases z.size.getSectorIndex oldX oldY with
  | none => rfl
  | some old =>
      cases z.size.getSectorIndex newX newY with
      | none => rfl
      | some new =>
          simp only [shift]
          split
          · rw [removeMonster_monsters, addMonster_monsters]
          · rfl

end Zone

end MMOServers.GameServer

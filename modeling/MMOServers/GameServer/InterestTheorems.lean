/-
MMOServers.GameServer.InterestTheorems — who is in the area of interest of a point.

`ZoneHistory` is a zone with the positions of the players that have entered it.
The labels are the calls of `EnterZone`, `UpdatePosition` and `LeaveZone` that
the callers promise: a player enters when it is not there, the old position is
the last one, and every position is on the map. The map may have any size; the
last row and column of sectors may stick out of it.

The invariant is that of `Lib.Cells`: each player is in the sector of its
position and in no other, and no sector lists a player twice. The nine sectors
around a point are those that differ from its own by at most one row and one
column, as far as there are such sectors (`mem_neighbours_iff`), so the area of
interest is read off the positions (`aoi_exact`).
-/
import MMOServers.GameServer.ZoneTheorems
import MMOServers.Lib.Run

namespace MMOServers.GameServer

open MMOServers.Common Cells Transition

/-! ## The sectors around a sector -/

namespace ZoneSize

/-- At most one row and one column apart. -/
def Adjacent (k k' : SectorIndex) : Prop :=
  (k'.1 - 1 ≤ k.1 ∧ k.1 ≤ k'.1 + 1) ∧ k'.2 - 1 ≤ k.2 ∧ k.2 ≤ k'.2 + 1

instance (k k' : SectorIndex) : Decidable (Adjacent k k') :=
  inferInstanceAs (Decidable ((_ ∧ _) ∧ _ ∧ _))

theorem mem_neighbours_iff {size : ZoneSize} {center k : SectorIndex} :
    k ∈ size.neighbours center
      ↔ (0 ≤ k.1 ∧ k.1 < size.rows) ∧ (0 ≤ k.2 ∧ k.2 < size.cols) ∧ Adjacent k center := by
  obtain ⟨row, col⟩ := k
  have hthree : ∀ n m : Int, n ∈ [m - 1, m, m + 1] ↔ m - 1 ≤ n ∧ n ≤ m + 1 := by
    intro n m
    simp only [List.mem_cons, List.not_mem_nil, or_false]
    omega
  simp only [neighbours, List.mem_flatMap, List.mem_filterMap, hthree, Adjacent]
  constructor
  · rintro ⟨r, hr, c, hc, h⟩
    split at h
    · rename_i hin
      cases h
      exact ⟨⟨hin.1, hin.2.1⟩, hin.2.2, hr, hc⟩
    · cases h
  · rintro ⟨⟨hr₀, hr₁⟩, ⟨hc₀, hc₁⟩, hr, hc⟩
    exact ⟨row, hr, col, hc, if_pos ⟨hr₀, hr₁, hc₀, hc₁⟩⟩

theorem neighbours_nodup (size : ZoneSize) (center : SectorIndex) :
    (size.neighbours center).Nodup := by
  have hthree : ∀ m : Int, [m - 1, m, m + 1].Nodup := by
    intro m
    simp only [List.nodup_cons, List.mem_cons, List.not_mem_nil, or_false, not_false_eq_true,
      List.nodup_nil, and_true]
    omega
  have hrow : ∀ {r c : Int} {k : SectorIndex},
      (if 0 ≤ r ∧ r < size.rows ∧ 0 ≤ c ∧ c < size.cols then some (r, c) else none) = some k →
        k = (r, c) := by
    intro r c k h
    split at h
    · exact (Option.some.inj h).symm
    · cases h
  refine List.nodup_flatMap.mpr ⟨?_, (hthree center.1).imp ?_⟩
  · intro r hr
    refine (hthree center.2).filterMap ?_
    intro c c' k hc hc'
    exact (Prod.mk.inj ((hrow hc).symm.trans (hrow hc'))).2
  · intro r r' hne k hk hk'
    obtain ⟨c, -, hc⟩ := List.mem_filterMap.mp hk
    obtain ⟨c', -, hc'⟩ := List.mem_filterMap.mp hk'
    exact hne (Prod.mk.inj ((hrow hc).symm.trans (hrow hc'))).1

section Exact

variable {K : Type} [Field K] [LinearOrder K] [IsStrictOrderedRing K]

/-- Coordinates that are not more than a cell apart are in cells that are not
    more than one apart. -/
theorem cell_near {n m : Int} {s x y : K} (hx : n * s ≤ x ∧ x < (n + 1) * s)
    (hy : m * s ≤ y ∧ y < (m + 1) * s) (hxy : |x - y| ≤ s) : m - 1 ≤ n ∧ n ≤ m + 1 := by
  obtain ⟨hlow, hhigh⟩ := abs_le.mp hxy
  have hs : 0 < s := by nlinarith [hx.1, hx.2]
  constructor
  · by_contra h
    have hle : (n : K) + 2 ≤ m := by
      have : n + 2 ≤ m := by omega
      exact_mod_cast this
    have hmul : ((n : K) + 2) * s ≤ m * s := mul_le_mul_of_nonneg_right hle hs.le
    linarith [hx.2, hy.1]
  · by_contra h
    have hle : (m : K) + 2 ≤ n := by
      have : m + 2 ≤ n := by omega
      exact_mod_cast this
    have hmul : ((m : K) + 2) * s ≤ n * s := mul_le_mul_of_nonneg_right hle hs.le
    linarith [hx.1, hy.2]

theorem Contains.adjacent {size : ZoneSize} {k k' : SectorIndex} {x y x' y' : K}
    (h : size.Contains k x y) (h' : size.Contains k' x' y')
    (hx : |x - x'| ≤ (size.sectorSize : K)) (hy : |y - y'| ≤ (size.sectorSize : K)) :
    Adjacent k k' :=
  ⟨cell_near h.vertical h'.vertical hy, cell_near h.horizontal h'.horizontal hx⟩

end Exact

end ZoneSize

/-! ## The players that are called back -/

namespace Zone

section Steps

variable {F : Type} [IntCast F] [Div F] [LT F] [LE F] [DecidableLT F] [DecidableLE F]
  [TruncInt F]

/-- `ForEachPlayerInAOI` calls back for the players that `GetPlayersInAOI`
    returns, in the same order where the sets are run through in the same order. -/
theorem forEachPlayerInAOI_eq {β : Type} (z : Zone) (order : IterationOrder) (x y : F)
    (callback : β → Nat → β) (b : β) :
    z.forEachPlayerInAOI order x y callback b
      = (z.getPlayersInAOI order x y).foldl callback b := by
  unfold forEachPlayerInAOI getPlayersInAOI
  cases z.size.getSectorIndex x y with
  | none => rfl
  | some center => exact (List.foldl_flatMap ..).symm

theorem getPlayersInAOI_perm (z : Zone) (order order' : IterationOrder) (x y : F) :
    (z.getPlayersInAOI order x y).Perm (z.getPlayersInAOI order' x y) := by
  unfold getPlayersInAOI
  cases z.size.getSectorIndex x y with
  | none => exact List.Perm.refl _
  | some center =>
      refine List.Perm.flatMap_left _ fun k _ => ?_
      exact (order.perm k _).trans (order'.perm k _).symm

end Steps

end Zone

/-! ## Histories of a zone -/

/-- A zone, and where the players are that have entered and not left. -/
structure ZoneHistory (K : Type) where
  zone : Zone
  positions : Nat → Option (K × K) := fun _ => none

inductive ZoneCall (K : Type) where
  | enterZone (id : Nat) (x y : K)
  | updatePosition (id : Nat) (newX newY : K)
  | leaveZone (id : Nat)

namespace ZoneHistory

variable {K : Type} [Field K] [LinearOrder K] [FloorRing K]

def step (s : ZoneHistory K) : ZoneCall K → Option (ZoneHistory K)
  | .enterZone id x y =>
      if s.positions id = none ∧ s.zone.size.Inside x y then
        some ⟨s.zone.enterZone id x y, Function.update s.positions id (some (x, y))⟩
      else none
  | .updatePosition id newX newY =>
      match s.positions id with
      | some (oldX, oldY) =>
          if s.zone.size.Inside newX newY then
            some ⟨s.zone.updatePosition id oldX oldY newX newY,
              Function.update s.positions id (some (newX, newY))⟩
          else none
      | none => none
  | .leaveZone id =>
      match s.positions id with
      | some (x, y) =>
          some ⟨s.zone.leaveZone id x y, Function.update s.positions id none⟩
      | none => none

/-- A zone that has just been made. -/
def start (size : ZoneSize) : ZoneHistory K := ⟨{ size := size }, fun _ => none⟩

/-- The player is in the sector of its position. -/
def sectorOf (s : ZoneHistory K) (id : Nat) : Option SectorIndex :=
  (s.positions id).bind fun p => s.zone.size.getSectorIndex p.1 p.2

structure Inv (size : ZoneSize) (s : ZoneHistory K) : Prop where
  sized : s.zone.size = size
  inside : ∀ id p, s.positions id = some p → size.Inside p.1 p.2
  inSector : ∀ id, At s.zone.players id (s.sectorOf id)
  nodup : ∀ k, (s.zone.players k).Nodup

theorem start_inv (size : ZoneSize) : Inv size (start size : ZoneHistory K) := by
  constructor
  · rfl
  · intro id p hp
    cases hp
  · intro id k
    simp [start, sectorOf, Zone.players]
  · intro k
    exact List.nodup_nil

/-- A call for one player that takes it to `p`. -/
theorem Inv.call {size : ZoneSize} {s : ZoneHistory K} (hi : Inv size s) {z : Zone} {id : Nat}
    {p : Option (K × K)} (hsize : z.size = size)
    (hinside : ∀ q, p = some q → size.Inside q.1 q.2)
    (hself : At z.players id (p.bind fun q => size.getSectorIndex q.1 q.2))
    (hothers : ∀ j, j ≠ id → ∀ k, j ∈ z.players k ↔ j ∈ s.zone.players k)
    (hnodup : ∀ k, (z.players k).Nodup) :
    Inv size ⟨z, Function.update s.positions id p⟩ := by
  constructor
  · exact hsize
  · intro j q hq
    dsimp only at hq
    by_cases hj : j = id
    · subst hj
      rw [Function.update_self] at hq
      exact hinside q hq
    · rw [Function.update_of_ne hj] at hq
      exact hi.inside j q hq
  · intro j
    by_cases hj : j = id
    · subst hj
      simpa [sectorOf, hsize] using hself
    · have hat : At s.zone.players j (s.sectorOf j) := hi.inSector j
      simp only [sectorOf, hi.sized] at hat
      simp only [sectorOf, hsize, Function.update_of_ne hj]
      exact (at_congr (hothers j hj)).mpr hat
  · exact hnodup

theorem Inv.sectorOf_eq {size : ZoneSize} {s : ZoneHistory K} (hi : Inv size s) {id : Nat}
    {p : K × K} (hp : s.positions id = some p) :
    ∃ k, size.getSectorIndex p.1 p.2 = some k ∧ At s.zone.players id (some k) := by
  obtain ⟨k, hk⟩ := Option.isSome_iff_exists.mp
    (ZoneSize.getSectorIndex_isSome_iff.mpr (hi.inside id p hp))
  have hat := hi.inSector id
  simp only [sectorOf, hp, hi.sized, Option.bind_some, hk] at hat
  exact ⟨k, hk, hat⟩

theorem step_inv {size : ZoneSize} {s s' : ZoneHistory K} {call : ZoneCall K}
    (hi : Inv size s) (hstep : step s call = some s') : Inv size s' := by
  have hsize := hi.sized
  cases call with
  | enterZone id x y =>
      simp only [step] at hstep
      split at hstep
      · rename_i hnew
        cases hstep
        have habsent : At s.zone.players id none := by
          have := hi.inSector id
          rwa [sectorOf, hnew.1] at this
        refine hi.call (by simp [hsize]) ?_ ?_ ?_ ?_
        · rintro q ⟨rfl⟩
          exact hsize ▸ hnew.2
        · rw [Zone.enterZone_players, hsize]
          exact habsent.enter _
        · intro j hj k
          rw [Zone.enterZone_players]
          exact mem_enter_other hj
        · intro k
          rw [Zone.enterZone_players]
          exact nodup_enter hi.nodup _ id k
      · cases hstep
  | updatePosition id newX newY =>
      simp only [step] at hstep
      split at hstep
      · rename_i oldX oldY hold
        split at hstep
        · rename_i hnew
          cases hstep
          rw [hsize] at hnew
          obtain ⟨k, hk, hat⟩ := hi.sectorOf_eq hold
          obtain ⟨k', hk'⟩ := Option.isSome_iff_exists.mp
            (ZoneSize.getSectorIndex_isSome_iff.mpr hnew)
          refine hi.call (by simp [hsize]) ?_ ?_ ?_ ?_
          · rintro q ⟨rfl⟩
            exact hnew
          · rw [Zone.updatePosition_players, hsize, hk, Option.bind_some, hk']
            exact hat.relocate k'
          · intro j hj l
            rw [Zone.updatePosition_players]
            exact mem_relocate_other hj
          · intro l
            rw [Zone.updatePosition_players]
            exact nodup_relocate hi.nodup _ _ id l
        · cases hstep
      · cases hstep
  | leaveZone id =>
      simp only [step] at hstep
      split at hstep
      · rename_i x y hold
        cases hstep
        obtain ⟨k, hk, hat⟩ := hi.sectorOf_eq hold
        refine hi.call (by simp [hsize]) ?_ ?_ ?_ ?_
        · intro q hq
          cases hq
        · rw [Zone.leaveZone_players, hsize, hk]
          exact hat.leave
        · intro j hj l
          rw [Zone.leaveZone_players]
          exact mem_leave_other hj
        · intro l
          rw [Zone.leaveZone_players]
          exact nodup_leave hi.nodup _ id l
      · cases hstep

/-! ## Areas of interest -/

variable [IsStrictOrderedRing K]

/-- The player is on the map, in a sector next to that of the point (or in it). -/
def Near (s : ZoneHistory K) (id : Nat) (x y : K) : Prop :=
  ∃ px py k k', s.positions id = some (px, py) ∧ s.zone.size.Contains k px py ∧
    s.zone.size.Contains k' x y ∧ ZoneSize.Adjacent k k'

theorem near_iff {s : ZoneHistory K} (hs : 0 < s.zone.size.sectorSize) {id : Nat}
    {px py x y : K} {k k' : SectorIndex} (hp : s.positions id = some (px, py))
    (hk : s.zone.size.Contains k px py) (hk' : s.zone.size.Contains k' x y) :
    s.Near id x y ↔ ZoneSize.Adjacent k k' := by
  constructor
  · rintro ⟨qx, qy, l, l', hq, hl, hl', hadjacent⟩
    obtain ⟨rfl, rfl⟩ := Prod.mk.inj (Option.some.inj (hp.symm.trans hq))
    rw [hk.unique hs hl, hk'.unique hs hl']
    exact hadjacent
  · intro hadjacent
    exact ⟨px, py, k, k', hp, hk, hk', hadjacent⟩

theorem Inv.mem_aoi_iff {size : ZoneSize} (hs : 0 < size.sectorSize) {s : ZoneHistory K}
    (hi : Inv size s) (order : IterationOrder) {x y : K} (hxy : size.Inside x y) (id : Nat) :
    id ∈ s.zone.getPlayersInAOI order x y ↔ s.Near id x y := by
  obtain ⟨center, hcenter⟩ := Option.isSome_iff_exists.mp
    (ZoneSize.getSectorIndex_isSome_iff.mpr hxy)
  have hcontains := (ZoneSize.getSectorIndex_eq_some_iff hs).mp hcenter
  simp only [Zone.getPlayersInAOI, Near, hi.sized, hcenter, List.mem_flatMap]
  constructor
  · rintro ⟨k, hk, hid⟩
    -- the player is in `k`, which is then the sector of its position
    have hat : s.sectorOf id = some k :=
      (hi.inSector id k).mp ((order.perm k _).mem_iff.mp hid)
    obtain ⟨⟨px, py⟩, hp, hpk⟩ := Option.bind_eq_some_iff.mp hat
    rw [hi.sized] at hpk
    exact ⟨px, py, k, center, hp, (ZoneSize.getSectorIndex_eq_some_iff hs).mp hpk, hcontains,
      (ZoneSize.mem_neighbours_iff.mp hk).2.2⟩
  · rintro ⟨px, py, k, k', hp, hk, hk', hadjacent⟩
    obtain rfl : k' = center := hk'.unique hs hcontains
    obtain ⟨l, hl, hat⟩ := hi.sectorOf_eq hp
    obtain rfl : k = l := hk.unique hs ((ZoneSize.getSectorIndex_eq_some_iff hs).mp hl)
    refine ⟨k, ZoneSize.mem_neighbours_iff.mpr ⟨hk.row, hk.col, hadjacent⟩, ?_⟩
    exact (order.perm k _).mem_iff.mpr ((hat k).mpr rfl)

omit [IsStrictOrderedRing K] in
theorem Inv.aoi_nodup {size : ZoneSize} {s : ZoneHistory K} (hi : Inv size s)
    (order : IterationOrder) (x y : K) : (s.zone.getPlayersInAOI order x y).Nodup := by
  unfold Zone.getPlayersInAOI
  cases s.zone.size.getSectorIndex x y with
  | none => exact List.nodup_nil
  | some center =>
      exact nodup_flatMap hi.nodup (fun id => ⟨_, hi.inSector id⟩) (fun k => order.perm k _)
        (s.zone.size.neighbours_nodup center)

theorem Inv.near_of_close {size : ZoneSize} (hs : 0 < size.sectorSize) {s : ZoneHistory K}
    (hi : Inv size s) {x y px py : K} (hxy : size.Inside x y) {id : Nat}
    (hp : s.positions id = some (px, py)) (hx : |px - x| ≤ (size.sectorSize : K))
    (hy : |py - y| ≤ (size.sectorSize : K)) : s.Near id x y := by
  obtain ⟨k', hk'⟩ := (ZoneSize.inside_iff_contains hs).mp hxy
  obtain ⟨k, hk⟩ := (ZoneSize.inside_iff_contains hs).mp (hi.inside id _ hp)
  exact ⟨px, py, k, k', hp, hi.sized ▸ hk, hi.sized ▸ hk', hk.adjacent hk' hx hy⟩

omit [IsStrictOrderedRing K] in
/-- Nobody who is on the map is out of all sectors after any of the calls that
    `UpdatePosition` makes for a player. -/
theorem Inv.somewhere {size : ZoneSize} {s : ZoneHistory K} (hi : Inv size s) {id : Nat}
    {oldX oldY : K} (hold : s.positions id = some (oldX, oldY)) (newX newY : K)
    {done : List Zone.SectorCall}
    (hdone : done <+: s.zone.updatePositionCalls id oldX oldY newX newY) {j : Nat}
    (hj : s.positions j ≠ none) : ∃ k, j ∈ (s.zone.calls done).players k := by
  obtain ⟨p, hp⟩ := Option.ne_none_iff_exists'.mp hj
  obtain ⟨l, -, hat⟩ := hi.sectorOf_eq hp
  obtain ⟨k, hk, -⟩ := hi.sectorOf_eq hold
  have hl : j ∈ s.zone.players l := (hat l).mpr rfl
  have hnone : done = [] → ∃ k, j ∈ (s.zone.calls done).players k := by
    rintro rfl
    exact ⟨l, hl⟩
  simp only [Zone.updatePositionCalls, hi.sized, hk] at hdone
  split at hdone
  · rename_i old new hold' hnew
    split at hdone
    · rename_i hne
      rcases List.prefix_cons_iff.mp hdone with h | ⟨rest, rfl, hrest⟩
      · exact hnone h
      rcases List.prefix_cons_iff.mp hrest with rfl | ⟨last, rfl, hlast⟩
      · -- the player is in both sectors, the others are where they were
        refine ⟨l, ?_⟩
        show j ∈ (s.zone.call (.addPlayer new id)).players l
        rw [Zone.call_addPlayer]
        exact mem_add.mpr (Or.inr hl)
      · obtain rfl := List.prefix_nil.mp hlast
        have hmoved : ∀ k, j ∈ (s.zone.calls [.addPlayer new id, .removePlayer old id]).players k
            ↔ j ∈ remove (add s.zone.players new id) old id k := by
          intro k
          rw [← Zone.call_addPlayer, ← Zone.call_removePlayer]
          rfl
        -- the player that moves is in the new sector, the others stay
        by_cases hji : j = id
        · refine ⟨new, (hmoved new).mpr (mem_remove.mpr ⟨?_, fun h => hne h.1.symm⟩)⟩
          exact mem_add.mpr (Or.inl ⟨rfl, hji⟩)
        · refine ⟨l, (hmoved l).mpr (mem_remove.mpr ⟨?_, fun h => hji h.2⟩)⟩
          exact mem_add.mpr (Or.inr hl)
    · exact hnone (List.prefix_nil.mp hdone)
  · rename_i heq _
    cases heq
  · exact hnone (List.prefix_nil.mp hdone)

/-- The area of interest of every point of the map, after every history of calls
    on a zone of any positive size; and no player is lost in between, while
    `UpdatePosition` runs. -/
theorem aoi_exact (size : ZoneSize) (hsize : 0 < size.width ∧ 0 < size.height ∧
      0 < size.sectorSize) {calls : List (ZoneCall K)} {s : ZoneHistory K}
    (hrun : exec step (start size) calls = some s) :
    (∀ (order : IterationOrder) (x y : K), size.Inside x y →
      (s.zone.getPlayersInAOI order x y).Nodup ∧
      (∀ id, id ∈ s.zone.getPlayersInAOI order x y ↔ s.Near id x y) ∧
      (∀ id px py, s.positions id = some (px, py) → |px - x| ≤ (size.sectorSize : K) →
        |py - y| ≤ (size.sectorSize : K) → id ∈ s.zone.getPlayersInAOI order x y) ∧
      ∀ order' : IterationOrder, ∃ visited : List Nat,
        visited.Perm (s.zone.getPlayersInAOI order x y) ∧
        ∀ {β : Type} (callback : β → Nat → β) (b : β),
          s.zone.forEachPlayerInAOI order' x y callback b = visited.foldl callback b) ∧
    ∀ id oldX oldY newX newY, s.positions id = some (oldX, oldY) → size.Inside newX newY →
      ∀ done, done <+: s.zone.updatePositionCalls id oldX oldY newX newY →
        ∀ j, s.positions j ≠ none → ∃ k, j ∈ (s.zone.calls done).players k := by
  have hi : Inv size s := exec_inv (fun h hstep => step_inv h hstep) (start_inv size) hrun
  have hs := hsize.2.2
  refine ⟨?_, ?_⟩
  · intro order x y hxy
    refine ⟨hi.aoi_nodup order x y, hi.mem_aoi_iff hs order hxy, ?_, ?_⟩
    · intro id px py hp hx hy
      exact (hi.mem_aoi_iff hs order hxy id).mpr (hi.near_of_close hs hxy hp hx hy)
    · intro order'
      refine ⟨_, s.zone.getPlayersInAOI_perm order' order x y, ?_⟩
      intro β callback b
      exact s.zone.forEachPlayerInAOI_eq order' x y callback b
  · intro id oldX oldY newX newY hold _ done hdone j hj
    exact hi.somewhere hold newX newY hdone hj

/-- Two players on a map whose last row and column of sectors stick out. -/
def twoPlayers : ZoneHistory ℚ where
  zone := (Zone.enterZone { size := ⟨100, 70, 30⟩ } 1 (95 : ℚ) 68).enterZone 2 (5 : ℚ) 5
  positions := Function.update (Function.update (fun _ => none) 1 (some (95, 68))) 2 (some (5, 5))

/-- The first of them crosses a corner between four sectors. -/
def crossing : ZoneHistory ℚ where
  zone := twoPlayers.zone.updatePosition 1 (95 : ℚ) 68 85 45
  positions := Function.update twoPlayers.positions 1 (some (85, 45))

theorem exec_twoPlayers : exec step (start ⟨100, 70, 30⟩)
    [.enterZone 1 95 68, .enterZone 2 5 5] = some twoPlayers := by
  simp only [exec, step, start, ZoneSize.Inside]
  norm_num [twoPlayers]

theorem exec_crossing : exec step (start ⟨100, 70, 30⟩)
    [.enterZone 1 95 68, .enterZone 2 5 5, .updatePosition 1 85 45] = some crossing := by
  simp only [exec, step, start, ZoneSize.Inside]
  norm_num [twoPlayers, crossing]

theorem crossing_contains : ZoneSize.Contains ⟨100, 70, 30⟩ (2, 3) (95 : ℚ) 68 ∧
    ZoneSize.Contains ⟨100, 70, 30⟩ (1, 2) (85 : ℚ) 45 ∧
    ZoneSize.Contains ⟨100, 70, 30⟩ (0, 0) (5 : ℚ) 5 ∧
    ZoneSize.Contains ⟨100, 70, 30⟩ (0, 1) (55 : ℚ) 20 ∧
    ZoneSize.Contains ⟨100, 70, 30⟩ (1, 2) (65 : ℚ) 38 := by
  refine ⟨?_, ?_, ?_, ?_, ?_⟩
  all_goals exact ⟨by decide, by decide, by norm_num, by norm_num, by norm_num⟩

/-- He is in a sector all the time, and then around a point that he was not around
    before; the other one is too far from where he was to see him. -/
theorem aoi_exact_corner :
    (∀ done, done <+: twoPlayers.zone.updatePositionCalls 1 (95 : ℚ) 68 85 45 →
      ∃ k, 1 ∈ (twoPlayers.zone.calls done).players k) ∧
    1 ∉ twoPlayers.zone.getPlayersInAOI .listed (55 : ℚ) 20 ∧
    1 ∈ crossing.zone.getPlayersInAOI .listed (55 : ℚ) 20 ∧
    2 ∉ crossing.zone.getPlayersInAOI .listed (65 : ℚ) 38 := by
  obtain ⟨hbefore, hmoves⟩ := aoi_exact ⟨100, 70, 30⟩ (by decide) exec_twoPlayers
  obtain ⟨hafter, -⟩ := aoi_exact ⟨100, 70, 30⟩ (by decide) exec_crossing
  obtain ⟨hleft, hcame, hother, hpoint, hback⟩ := crossing_contains
  have hpoint' : ZoneSize.Inside ⟨100, 70, 30⟩ (55 : ℚ) 20 := by norm_num [ZoneSize.Inside]
  have hback' : ZoneSize.Inside ⟨100, 70, 30⟩ (65 : ℚ) 38 := by norm_num [ZoneSize.Inside]
  refine ⟨fun done hdone => ?_, fun hmem => ?_, ?_, fun hmem => ?_⟩
  · exact hmoves 1 95 68 85 45 (by simp [twoPlayers]) (by norm_num [ZoneSize.Inside]) done hdone 1
      (by simp [twoPlayers])
  · have hnear := ((hbefore .listed 55 20 hpoint').2.1 1).mp hmem
    rw [near_iff (by decide) (by simp [twoPlayers]) hleft hpoint] at hnear
    exact absurd hnear (by decide)
  · exact (hafter .listed 55 20 hpoint').2.2.1 1 85 45 (by simp [crossing]) (by norm_num)
      (by norm_num)
  · have hsize : crossing.zone.size = ⟨100, 70, 30⟩ := by simp [crossing, twoPlayers]
    have hnear := ((hafter .listed 65 38 hback').2.1 2).mp hmem
    rw [near_iff (hsize ▸ by decide) (by simp [crossing, twoPlayers]) (hsize ▸ hother)
      (hsize ▸ hback)] at hnear
    exact absurd hnear (by decide)

end ZoneHistory

end MMOServers.GameServer

/-
MMOServers.GameServer.CoordinateTheorems — positions and sectors with special
float values.

The tasks that change the position of a player, over `Coordinate`: move and
leave requests, the clean-up after a gateway, and the respawn of a dead player.
`Positioned` is what the clamp of the move handler and the range test of
`GetSectorIndex` are there for. Positions are on the map, edges included, the
index of a position is one of the grid's, and what is outside the grid is never
touched.

Both are chains of comparisons that look for values out of range. The infinities
are out of range and get clamped; NaN is below nothing and above nothing, and
passes all of them. A run keeps positions and sectors sound exactly when no move
request carries a NaN (`positioned_iff_numeric`).
-/
import MMOServers.Common.Coordinate
import MMOServers.GameServer.GameContext
import MMOServers.GameServer.ZoneTheorems
import MMOServers.Lib.Run

namespace MMOServers.GameServer

open MMOServers.Common Transition

namespace ZoneSize

/-- The index is one of the grid's. -/
def HasSector (size : ZoneSize) (k : SectorIndex) : Prop :=
  (0 ≤ k.1 ∧ k.1 < size.rows) ∧ 0 ≤ k.2 ∧ k.2 < size.cols

instance (size : ZoneSize) (k : SectorIndex) : Decidable (size.HasSector k) :=
  inferInstanceAs (Decidable (_ ∧ _))

/-- Nobody has been put outside the grid. -/
def Untouched (size : ZoneSize) (grid : SectorIndex → Sector) : Prop :=
  ∀ k, ¬ size.HasSector k → (grid k).players = []

end ZoneSize

/-! ## The zone -/

namespace Zone

variable {F : Type} [IntCast F] [Div F] [LT F] [LE F] [DecidableLT F] [DecidableLE F]
  [TruncInt F]

/-- `GetSectorIndex` gives no index outside the grid here. -/
def IndexSound (size : ZoneSize) (x y : F) : Prop :=
  ∀ k, size.getSectorIndex x y = some k → size.HasSector k

theorem modify_untouched {z : Zone} (h : z.size.Untouched z.grid) {k : SectorIndex}
    (hk : z.size.HasSector k) (f : Sector → Sector) :
    (z.modify k f).size.Untouched (z.modify k f).grid := by
  intro k' hk'
  have hne : k' ≠ k := by
    rintro rfl
    exact hk' hk
  show (Function.update z.grid k (f (z.grid k)) k').players = []
  rw [Function.update_of_ne hne]
  exact h k' hk'

theorem enterZone_untouched {z : Zone} (h : z.size.Untouched z.grid) {x y : F}
    (hi : IndexSound z.size x y) (id : Nat) :
    (z.enterZone id x y).size.Untouched (z.enterZone id x y).grid := by
  unfold enterZone
  split
  · exact h
  · rename_i k hk
    exact modify_untouched h (hi k hk) _

theorem leaveZone_untouched {z : Zone} (h : z.size.Untouched z.grid) {x y : F}
    (hi : IndexSound z.size x y) (id : Nat) :
    (z.leaveZone id x y).size.Untouched (z.leaveZone id x y).grid := by
  unfold leaveZone
  split
  · exact h
  · rename_i k hk
    exact modify_untouched h (hi k hk) _

theorem updatePosition_untouched {z : Zone} (h : z.size.Untouched z.grid)
    {oldX oldY newX newY : F} (hold : IndexSound z.size oldX oldY)
    (hnew : IndexSound z.size newX newY) (id : Nat) :
    (z.updatePosition id oldX oldY newX newY).size.Untouched
      (z.updatePosition id oldX oldY newX newY).grid := by
  unfold updatePosition updatePositionCalls
  split
  · rename_i old new hkold hknew
    split
    · have hadded := modify_untouched h (hnew new hknew) (·.addPlayer id)
      exact modify_untouched hadded (hold old hkold) (·.removePlayer id)
    · exact h
  · rename_i new _ hknew
    exact modify_untouched h (hnew new hknew) (·.addPlayer id)
  · exact h

end Zone

namespace GameContext

variable {u : Int} {σ : Type}

/-! ## Coordinates on the map -/

/-- The position is in [0, WIDTH] x [0, HEIGHT]. -/
def OnMap (x y : Coordinate u) : Prop :=
  (((0 : Int) : Coordinate u) ≤ x ∧ x ≤ ((GameConstants.Map.width : Int) : Coordinate u)) ∧
    ((0 : Int) : Coordinate u) ≤ y ∧ y ≤ ((GameConstants.Map.height : Int) : Coordinate u)

/-- A clamped number is in range, and NaN is what it was. -/
theorem clamp_coordinate {bound : Int} (hb : 0 ≤ bound) (v : Coordinate u) :
    (((0 : Int) : Coordinate u) ≤ clamp bound v ∧ clamp bound v ≤ ((bound : Int) : Coordinate u))
      ↔ v ≠ .nan := by
  have hb' : (0 : ℚ) ≤ bound := by exact_mod_cast hb
  simp only [clamp, Coordinate.intCast_eq, Int.cast_zero]
  cases v with
  | nan => simp
  | infinity negative => cases negative <;> simp [hb', not_lt.mpr hb']
  | finite q =>
      by_cases hlo : q < 0
      · simp [hlo, hb', not_lt.mpr hb']
      · by_cases hhi : (bound : ℚ) < q
        · simp [hlo, hhi, hb']
        · simpa [hlo, hhi] using ⟨not_lt.mp hlo, not_lt.mp hhi⟩

theorem onMap_clamp_iff (x y : Coordinate u) :
    OnMap (clamp GameConstants.Map.width x) (clamp GameConstants.Map.height y)
      ↔ x ≠ .nan ∧ y ≠ .nan :=
  and_congr (clamp_coordinate (by decide) x) (clamp_coordinate (by decide) y)

/-- The range test of `GetSectorIndex` leaves numbers in range, NaN apart. -/
theorem finite_of_inRange {bound : Int} {v : Coordinate u} (hnan : v ≠ .nan)
    (hlo : ¬ v < ((0 : Int) : Coordinate u)) (hhi : ¬ ((bound : Int) : Coordinate u) ≤ v) :
    ∃ q : ℚ, v = .finite q ∧ 0 ≤ q ∧ q < bound := by
  rw [Coordinate.intCast_eq] at hlo hhi
  cases v with
  | nan => exact absurd rfl hnan
  | infinity negative => cases negative <;> simp at hlo hhi
  | finite q =>
      rw [Coordinate.finite_lt_finite, not_lt, Int.cast_zero] at hlo
      rw [Coordinate.finite_le_finite, not_le] at hhi
      exact ⟨q, rfl, hlo, hhi⟩

/-- Behind the test the cast of `GetSectorIndex` is defined, and what it gives is
    an index of the grid, whatever numbers or infinities the coordinates are. -/
theorem indexSound_of_ne_nan {x y : Coordinate u} (hx : x ≠ .nan) (hy : y ≠ .nan) :
    Zone.IndexSound mapSize x y := by
  intro k hk
  have htest := hk
  unfold ZoneSize.getSectorIndex at htest
  split at htest
  · cases htest
  · rename_i hrange
    simp only [not_or] at hrange
    obtain ⟨hxlo, hxhi, hylo, hyhi⟩ := hrange
    obtain ⟨q, rfl, hq0, hq⟩ := finite_of_inRange hx hxlo hxhi
    obtain ⟨r, rfl, hr0, hr⟩ := finite_of_inRange hy hylo hyhi
    have hcast : ∀ v : ℚ, 0 ≤ v → v < ((1000 : Int) : ℚ) →
        trunc (.finite v / ((mapSize.sectorSize : Int) : Coordinate u) : Coordinate u)
          = trunc (v / ((mapSize.sectorSize : Int) : ℚ)) := by
      intro v hv0 hv
      have hs : ((mapSize.sectorSize : Int) : ℚ) = 50 := rfl
      rw [Coordinate.intCast_eq, hs, Coordinate.finite_div_finite (by norm_num)]
      push_cast at hv
      exact Coordinate.trunc_finite (by linarith [div_nonneg hv0 (by norm_num : (0 : ℚ) ≤ 50)])
        (by rw [div_lt_iff₀ (by norm_num)]; linarith)
    have hrational : mapSize.getSectorIndex q r = some k := by
      unfold ZoneSize.getSectorIndex at hk ⊢
      rw [hcast q hq0 hq, hcast r hr0 hr] at hk
      simpa only [Coordinate.intCast_eq, Coordinate.finite_lt_finite,
        Coordinate.finite_le_finite] using hk
    have hcontains := (ZoneSize.getSectorIndex_eq_some_iff (by decide)).mp hrational
    exact ⟨hcontains.row, hcontains.col⟩

theorem OnMap.indexSound {x y : Coordinate u} (h : OnMap x y) : Zone.IndexSound mapSize x y := by
  refine indexSound_of_ne_nan ?_ ?_
  · rintro rfl
    exact Coordinate.not_le_nan _ h.1.1
  · rintro rfl
    exact Coordinate.not_le_nan _ h.2.1

/-! ## Tasks that move players -/

/-- The tasks of `game_strand_` that change the position of a player. -/
inductive PlayerTask (σ : Type) where
  | moveReq (gw : σ) (order : IterationOrder) (payload : List UInt8)
  | leaveReq (gw : σ) (payload : List UInt8)
  | gatewayDisconnected (gw : σ)
  | respawn (accId : String)

variable [DecidableEq σ] (env : GameEnv (Coordinate u))

def playerStep (s : GameContext (Coordinate u) σ) :
    PlayerTask σ → Option (GameContext (Coordinate u) σ)
  | .moveReq gw order payload => some (s.handleGatewayGameMoveReq env gw order payload)
  | .leaveReq gw payload => some (s.handleGatewayGameLeaveReq env gw payload)
  | .gatewayDisconnected gw => some (s.gatewayDisconnected gw)
  | .respawn accId =>
      match s.playerMap accId with
      | none => none
      | some p =>
          some (s.movePlayer accId { p with hp := GameConstants.Player.defaultHp }
            ((GameConstants.Player.spawnX : Int) : Coordinate u)
            ((GameConstants.Player.spawnY : Int) : Coordinate u))

/-- A server without monsters that has just started. -/
def emptyServer : GameContext (Coordinate u) σ := { zone := { size := mapSize } }

/-- Every stored position is on the map and has its index, if any, in the grid,
    and outside the grid there is nobody. -/
structure Positioned (s : GameContext (Coordinate u) σ) : Prop where
  onMap : ∀ accId p, s.playerMap accId = some p → OnMap p.x p.y
  index : ∀ accId p, s.playerMap accId = some p → Zone.IndexSound s.zone.size p.x p.y
  untouched : s.zone.size.Untouched s.zone.grid

/-- The move request of the task carries no NaN. -/
def Numeric : PlayerTask σ → Prop
  | .moveReq _ _ payload => ∀ req, env.parseMoveReq payload = some req →
      req.x ≠ .nan ∧ req.y ≠ .nan
  | _ => True

variable {env}

omit [DecidableEq σ] in
theorem emptyServer_positioned : (emptyServer : GameContext (Coordinate u) σ).Positioned :=
  ⟨fun _ _ h => (nomatch h), fun _ _ h => (nomatch h), fun _ _ => rfl⟩

omit [DecidableEq σ] in
/-- A new position of one player that is on the map. -/
theorem movePlayer_positioned {s : GameContext (Coordinate u) σ} (hs : s.Positioned)
    (hsize : s.zone.size = mapSize) (accId : String) {p : PlayerInfo (Coordinate u)}
    (hold : OnMap p.x p.y) {x y : Coordinate u} (hnew : OnMap x y) :
    (s.movePlayer accId p x y).Positioned := by
  have hplayers : ∀ b q, (s.movePlayer accId p x y).playerMap b = some q → OnMap q.x q.y := by
    intro b q hq
    replace hq : Function.update s.playerMap accId (some { p with x := x, y := y }) b = some q :=
      hq
    rw [Function.update_apply] at hq
    split at hq
    · rw [Option.some.injEq] at hq
      exact hq ▸ hnew
    · exact hs.onMap b q hq
  have hsize' : (s.movePlayer accId p x y).zone.size = mapSize :=
    (Zone.updatePosition_size ..).trans hsize
  refine ⟨hplayers, fun b q hq => ?_, ?_⟩
  · rw [hsize']
    exact (hplayers b q hq).indexSound
  · refine Zone.updatePosition_untouched hs.untouched ?_ ?_ p.uid
    · exact hsize ▸ hold.indexSound
    · exact hsize ▸ hnew.indexSound

theorem enterPlayer_positioned {s : GameContext (Coordinate u) σ} (hs : s.Positioned)
    (hsize : s.zone.size = mapSize) (gw : σ) (accId : String) {x y : Coordinate u}
    (hnew : OnMap x y) : (s.enterPlayer gw accId x y).2.Positioned := by
  have hplayers : ∀ b q, (s.enterPlayer gw accId x y).2.playerMap b = some q →
      OnMap q.x q.y := by
    intro b q hq
    simp only [enterPlayer] at hq
    rw [Function.update_apply] at hq
    split at hq
    · rw [Option.some.injEq] at hq
      exact hq ▸ hnew
    · exact hs.onMap b q hq
  have hsize' : (s.enterPlayer gw accId x y).2.zone.size = mapSize :=
    (Zone.enterZone_size ..).trans hsize
  refine ⟨hplayers, fun b q hq => ?_, ?_⟩
  · rw [hsize']
    exact (hplayers b q hq).indexSound
  · exact Zone.enterZone_untouched hs.untouched (hsize ▸ hnew.indexSound) s.uidCounter

omit [DecidableEq σ] in
theorem removePlayer_positioned {s : GameContext (Coordinate u) σ} (hs : s.Positioned)
    {accId : String} {p : PlayerInfo (Coordinate u)}
    (hp : s.playerMap accId = some p) : (s.removePlayer accId p).Positioned := by
  have hleft : ∀ b q, (s.removePlayer accId p).playerMap b = some q →
      s.playerMap b = some q := by
    intro b q hq
    simp only [removePlayer] at hq
    rw [Function.update_apply] at hq
    split at hq
    · cases hq
    · exact hq
  have hsize' : (s.removePlayer accId p).zone.size = s.zone.size := Zone.leaveZone_size ..
  refine ⟨fun b q hq => hs.onMap b q (hleft b q hq), fun b q hq => ?_, ?_⟩
  · rw [hsize']
    exact hs.index b q (hleft b q hq)
  · exact Zone.leaveZone_untouched hs.untouched (hs.index accId p hp) p.uid

omit [DecidableEq σ] in
theorem removePlayers_positioned {s : GameContext (Coordinate u) σ} (hs : s.Positioned)
    (accIds : List String) : (s.removePlayers accIds).Positioned := by
  induction accIds generalizing s with
  | nil => exact hs
  | cons accId rest ih =>
      unfold removePlayers
      split
      · exact ih hs
      · rename_i p hp
        exact ih (removePlayer_positioned hs hp)

omit [DecidableEq σ] in
theorem removePlayers_size (s : GameContext (Coordinate u) σ) (accIds : List String) :
    (s.removePlayers accIds).zone.size = s.zone.size := by
  induction accIds generalizing s with
  | nil => rfl
  | cons accId rest ih =>
      unfold removePlayers
      split
      · exact ih s
      · exact (ih _).trans (Zone.leaveZone_size ..)

/-- A move request leaves sound positions exactly when its coordinates are
    numbers or infinities. -/
theorem handleGatewayGameMoveReq_positioned_iff {s : GameContext (Coordinate u) σ}
    (hs : s.Positioned) (hsize : s.zone.size = mapSize) (gw : σ) (order : IterationOrder)
    {payload : List UInt8} {req : GatewayGameMoveReq (Coordinate u)}
    (hreq : env.parseMoveReq payload = some req) :
    (s.handleGatewayGameMoveReq env gw order payload).Positioned
      ↔ req.x ≠ .nan ∧ req.y ≠ .nan := by
  rw [← onMap_clamp_iff]
  unfold handleGatewayGameMoveReq
  rw [hreq]
  dsimp only
  generalize clamp GameConstants.Map.width req.x = x
  generalize clamp GameConstants.Map.height req.y = y
  constructor
  · intro h
    cases hp : s.playerMap req.accountId with
    | some p =>
        rw [hp] at h
        exact h.onMap req.accountId { p with x := x, y := y } (Function.update_self ..)
    | none =>
        rw [hp] at h
        exact h.onMap req.accountId { uid := s.uidCounter, x := x, y := y }
          (Function.update_self ..)
  · intro hnew
    cases hp : s.playerMap req.accountId with
    | some p =>
        have hmoved := movePlayer_positioned hs hsize req.accountId
          (hs.onMap req.accountId p hp) hnew
        exact ⟨hmoved.onMap, hmoved.index, hmoved.untouched⟩
    | none =>
        have hentered := enterPlayer_positioned hs hsize gw req.accountId hnew
        have hmoved := movePlayer_positioned hentered ((Zone.enterZone_size ..).trans hsize)
          req.accountId (p := (s.enterPlayer gw req.accountId x y).1) hnew hnew
        exact ⟨hmoved.onMap, hmoved.index, hmoved.untouched⟩

theorem spawn_onMap : OnMap ((GameConstants.Player.spawnX : Int) : Coordinate u)
    ((GameConstants.Player.spawnY : Int) : Coordinate u) := by
  simp [OnMap, Coordinate.intCast_eq, GameConstants.Player.spawnX, GameConstants.Player.spawnY,
    GameConstants.Map.width, GameConstants.Map.height]

/-! ## Runs -/

theorem playerStep_size {s s' : GameContext (Coordinate u) σ} {task : PlayerTask σ}
    (hsize : s.zone.size = mapSize) (h : playerStep env s task = some s') :
    s'.zone.size = mapSize := by
  cases task with
  | moveReq gw order payload =>
      obtain rfl := Option.some.inj h
      unfold handleGatewayGameMoveReq
      split
      · exact hsize
      · dsimp only
        split
        · exact (Zone.updatePosition_size ..).trans hsize
        · exact (Zone.updatePosition_size ..).trans ((Zone.enterZone_size ..).trans hsize)
  | leaveReq gw payload =>
      obtain rfl := Option.some.inj h
      unfold handleGatewayGameLeaveReq
      repeat' split
      · exact hsize
      · exact hsize
      · exact (Zone.leaveZone_size ..).trans hsize
  | gatewayDisconnected gw =>
      obtain rfl := Option.some.inj h
      exact (removePlayers_size s _).trans hsize
  | respawn accId =>
      simp only [playerStep] at h
      split at h
      · cases h
      · obtain rfl := Option.some.inj h
        exact (Zone.updatePosition_size ..).trans hsize

/-- A task leaves sound positions exactly when it is numeric. -/
theorem playerStep_positioned_iff {s s' : GameContext (Coordinate u) σ} {task : PlayerTask σ}
    (hsize : s.zone.size = mapSize) (hs : s.Positioned)
    (h : playerStep env s task = some s') : s'.Positioned ↔ Numeric env task := by
  cases task with
  | moveReq gw order payload =>
      obtain rfl := Option.some.inj h
      cases hreq : env.parseMoveReq payload with
      | none =>
          refine iff_of_true ?_ fun req hsome => ?_
          · rw [handleGatewayGameMoveReq, hreq]
            exact hs
          · rw [hreq] at hsome
            cases hsome
      | some req =>
          rw [handleGatewayGameMoveReq_positioned_iff hs hsize gw order hreq]
          simp [Numeric, hreq]
  | leaveReq gw payload =>
      obtain rfl := Option.some.inj h
      refine iff_of_true ?_ trivial
      unfold handleGatewayGameLeaveReq
      repeat' split
      · exact hs
      · exact hs
      · rename_i p hp
        have hgone := removePlayer_positioned hs hp
        exact ⟨hgone.onMap, hgone.index, hgone.untouched⟩
  | gatewayDisconnected gw =>
      obtain rfl := Option.some.inj h
      have hgone := removePlayers_positioned hs (s.gatewayPlayerMap gw)
      exact iff_of_true ⟨hgone.onMap, hgone.index, hgone.untouched⟩ trivial
  | respawn accId =>
      simp only [playerStep] at h
      split at h
      · cases h
      · rename_i p hp
        obtain rfl := Option.some.inj h
        have hmoved := movePlayer_positioned hs hsize accId
          (p := { p with hp := GameConstants.Player.defaultHp }) (hs.onMap accId p hp) spawn_onMap
        exact iff_of_true hmoved trivial

/-- `GetSectorIndex` is sound for all numbers and infinities, and positions and
    sectors are sound in every state of a run exactly when none of its move
    requests carries a NaN. -/
theorem positioned_iff_numeric (env : GameEnv (Coordinate u)) (tasks : List (PlayerTask σ)) :
    (∀ x y : Coordinate u, x ≠ .nan → y ≠ .nan → Zone.IndexSound mapSize x y) ∧
    (Always (playerStep env) Positioned emptyServer tasks
      ↔ Meets (playerStep env) (fun _ task => Numeric env task) emptyServer tasks) := by
  refine ⟨fun x y hx hy => indexSound_of_ne_nan hx hy, ?_⟩
  exact always_iff_meets (fun s => s.zone.size = mapSize)
    (fun hsize _ _ h => playerStep_size hsize h)
    (fun hsize hs h => playerStep_positioned_iff hsize hs h) rfl emptyServer_positioned

/-- A move request of "a" to (NaN, 0), the bytes of a quiet NaN. -/
def nanEnv : GameEnv (Coordinate u) where
  parseMoveReq
    | [10, 1, 97, 21, 0, 0, 192, 127] => some ⟨"a", .nan, .finite 0, .finite 0, .finite 0⟩
    | _ => none
  parseLeaveReq _ := none
  parseAttackReq _ := none
  parseChatReq _ := none
  parseMonsterBuffReq _ := none
  parseTokenNotify _ := none

/-- The stored position is NaN, and the test of `GetSectorIndex` lets it pass:
    with the `cvttss2si` of x86 the column is -2147483648. -/
theorem nan_stored :
    ¬ Always (playerStep nanEnv) Positioned
        (emptyServer : GameContext (Coordinate (-2147483648)) Nat)
        [.moveReq 0 .listed [10, 1, 97, 21, 0, 0, 192, 127]] ∧
      mapSize.getSectorIndex (.nan : Coordinate (-2147483648)) (.finite 0)
        = some (0, -2147483648) := by
  refine ⟨fun h => ?_, by decide +kernel⟩
  have hpos := always_iff_exec.mp h _ (List.prefix_refl _) _ rfl
  have honMap := hpos.onMap "a" { uid := 1, x := .nan, y := .finite 0 } (by decide +kernel)
  exact absurd honMap.1.1 (Coordinate.not_le_nan _)

end GameContext

end MMOServers.GameServer

/-
MMOServers.GameServer.AttackTheorems — the attack of a player.

`Handle_GatewayGameAttackReq` runs over the monsters around the player in the
order of the sector sets, passes by ids without a monster and dead ones, and
takes each that is no farther away than the last one taken. Whatever the order,
it hits a nearest living monster in range, and when there is none it changes
nothing (`attack_hits_nearest`).
-/
import MMOServers.GameServer.VitalityTheorems
import MMOServers.Lib.Nearest

namespace MMOServers.GameServer

open MMOServers.Common

namespace GameContext

variable {K σ : Type} [Field K] [LinearOrder K] [FloorRing K] [HasSqrt K]

/-! ## The selection -/

/-- How far the player has to reach for the monster. -/
def reach (p : PlayerInfo K) (m : Monster K) : K :=
  distance (p.x - m.position.x) (p.y - m.position.y)

/-- The living monster with the id, and its index. -/
def livingMonster (s : GameContext K σ) (id : Nat) : Option (Nat × Monster K) :=
  ((s.monsterMap id).bind fun i => (s.monsters[i]?).map fun m => (i, m)).filter
    fun found => found.2.state ≠ .dead

/-- A living monster that is listed around the player, within the range of an
    attack. -/
structure InReach (s : GameContext K σ) (order : IterationOrder) (p : PlayerInfo K) (i : Nat)
    (m : Monster K) : Prop where
  listed : ∃ id ∈ s.zone.getMonstersInAOI order p.x p.y, s.monsterMap id = some i
  monster : s.monsters[i]? = some m
  alive : m.state ≠ .dead
  near : reach p m ≤ GameConstants.Combat.playerAttackRange

omit [Field K] [LinearOrder K] [FloorRing K] [HasSqrt K] in
theorem livingMonster_some {s : GameContext K σ} {id i : Nat} {m : Monster K} :
    s.livingMonster id = some (i, m)
      ↔ s.monsterMap id = some i ∧ s.monsters[i]? = some m ∧ m.state ≠ .dead := by
  simp only [livingMonster, Option.filter_eq_some_iff, Option.bind_eq_some_iff,
    Option.map_eq_some_iff, Prod.mk.injEq, decide_eq_true_eq]
  constructor
  · rintro ⟨⟨j, hj, n, hn, rfl, rfl⟩, halive⟩
    exact ⟨hj, hn, halive⟩
  · rintro ⟨hi, hm, halive⟩
    exact ⟨⟨i, hi, m, hm, rfl, rfl⟩, halive⟩

omit [FloorRing K] in
/-- The loop of the handler is a search for the nearest. -/
theorem nearestMonster_eq_scan (s : GameContext K σ) (p : PlayerInfo K) (ids : List Nat)
    (best : Option (Nat × Monster K)) (minDist : K) :
    s.nearestMonster p.x p.y ids best minDist
      = Nearest.scan s.livingMonster (fun found => reach p found.2) ids best minDist := by
  induction ids generalizing best minDist with
  | nil => rfl
  | cons id ids ih =>
      rw [nearestMonster, Nearest.scan, livingMonster]
      cases (s.monsterMap id).bind fun i => (s.monsters[i]?).map fun m => (i, m) with
      | none => exact ih best minDist
      | some found =>
          obtain ⟨i, m⟩ := found
          by_cases halive : m.state = .dead
          · simp only [Option.filter, halive, ne_eq, not_true_eq_false, false_and, decide_false,
              Bool.false_eq_true, if_false]
            exact ih best minDist
          · simp only [Option.filter, halive, ne_eq, not_false_eq_true, true_and, decide_true,
              if_true, ih]
            rfl

theorem within_iff_inReach {s : GameContext K σ} {order : IterationOrder}
    {p : PlayerInfo K} {i : Nat} {m : Monster K} :
    Nearest.Within s.livingMonster (fun found => reach p found.2)
        (s.zone.getMonstersInAOI order p.x p.y) GameConstants.Combat.playerAttackRange (i, m)
      ↔ s.InReach order p i m := by
  simp only [Nearest.Within, livingMonster_some]
  constructor
  · rintro ⟨⟨id, hid, hi, hm, halive⟩, hnear⟩
    exact ⟨⟨id, hid, hi⟩, hm, halive, hnear⟩
  · rintro ⟨⟨id, hid, hi⟩, hm, halive, hnear⟩
    exact ⟨⟨id, hid, hi, hm, halive⟩, hnear⟩

/-! ## The hit -/

/-- What a hit of the player makes of a monster. -/
structure Struck (p : PlayerInfo K) (m m' : Monster K) : Prop where
  hp : m'.hp = max 0 (m.hp - max GameConstants.Combat.minDamage (p.atk - m.defensePower))
  dead : m'.state = .dead ↔ m'.hp = 0
  rest : m' =
    { m with hp := m'.hp, state := m'.state, pathRequestVersion := m'.pathRequestVersion }

omit [Field K] [LinearOrder K] [FloorRing K] [HasSqrt K] in
theorem struck_struck {p : PlayerInfo K} {m : Monster K} (halive : m.state ≠ .dead)
    (hlow : 0 ≤ m.hp) (hhigh : m.hp < 2 ^ 31) (hatkLow : -2 ^ 31 ≤ p.atk - m.defensePower)
    (hatkHigh : p.atk - m.defensePower < 2 ^ 31) :
    Struck p m
      (m.struck (max (wrap32 (p.atk - m.defensePower)) GameConstants.Combat.minDamage)) := by
  rw [Monster.wrap32_of_bounds hatkLow hatkHigh, max_comm]
  generalize hdamage : max GameConstants.Combat.minDamage (p.atk - m.defensePower) = damage
  have hmin : (1 : Int) ≤ damage := hdamage ▸ le_max_left _ _
  have hmax : damage < 2 ^ 31 := hdamage ▸ max_lt (by decide) hatkHigh
  have hwrap : wrap32 (m.hp - damage) = m.hp - damage :=
    Monster.wrap32_of_bounds (by omega) (by omega)
  have hhit : (m.takeDamage damage).hp = max 0 (m.hp - damage) := by
    simp only [Monster.takeDamage, hwrap]
    split <;> omega
  unfold Monster.struck
  dsimp only
  by_cases hdies : (m.takeDamage damage).hp ≤ 0
  · rw [if_pos hdies]
    refine ⟨?_, ⟨fun _ => rfl, fun _ => rfl⟩, rfl⟩
    show (0 : Int) = _
    rw [hdamage]
    omega
  · rw [if_neg hdies]
    refine ⟨hdamage ▸ hhit, ?_, rfl⟩
    exact iff_of_false halive (by omega)

omit [Field K] [LinearOrder K] [FloorRing K] [HasSqrt K] in
/-- A hit is seen: a living monster has fewer hit points after it, or is dead. -/
theorem Struck.changes {p : PlayerInfo K} {m m' : Monster K} (h : Struck p m m')
    (halive : m.state ≠ .dead) (hlow : 0 ≤ m.hp) : m' ≠ m := by
  rintro rfl
  have hdead : m'.hp ≠ 0 := fun hzero => halive (h.dead.mpr hzero)
  have hmin : (1 : Int) ≤ max GameConstants.Combat.minDamage (p.atk - m'.defensePower) :=
    le_max_left _ _
  have hhp := h.hp
  omega

/-! ## The handler -/

/-- The answer to an attack that reaches nothing. -/
def attackFailed (p : PlayerInfo K) (accId : String) : ToGateway K :=
  .attackRes ⟨UInt64.ofNat p.uid, 0, 0, 0, [accId], ""⟩

/-- The attack of the player `p` hits one monster, a nearest one in reach, if any
    is in reach at all, and leaves everything else as it was. -/
structure HitsNearest (s : GameContext K σ) (order : IterationOrder) (accId : String)
    (p : PlayerInfo K) (s' : GameContext K σ) : Prop where
  hits_iff : (∃ i : Nat, s'.monsters[i]? ≠ s.monsters[i]?) ↔ ∃ i m, s.InReach order p i m
  nearest : ∀ i : Nat, s'.monsters[i]? ≠ s.monsters[i]? →
    ∃ m m', s.InReach order p i m ∧ (∀ j n, s.InReach order p j n → reach p m ≤ reach p n) ∧
      Struck p m m' ∧ s'.monsters = s.monsters.set i m'
  others : s' = { s with monsters := s'.monsters, sent := s'.sent }
  fails : (∀ i m, ¬ s.InReach order p i m) →
    s' = { s with sent := .broadcast (attackFailed p accId) :: s.sent }

theorem HitsNearest.of_none {s : GameContext K σ} {order : IterationOrder} {accId : String}
    {p : PlayerInfo K} (hnone : ∀ i m, ¬ s.InReach order p i m) :
    HitsNearest s order accId p (s.broadcastToGateways (attackFailed p accId)) := by
  refine ⟨⟨fun ⟨i, h⟩ => absurd rfl h, fun ⟨i, m, h⟩ => absurd h (hnone i m)⟩,
    fun i h => absurd rfl h, rfl, fun _ => rfl⟩

theorem HitsNearest.of_hit {s s' : GameContext K σ} {order : IterationOrder} {accId : String}
    {p : PlayerInfo K} {i : Nat} {m m' : Monster K} (hm : s.InReach order p i m)
    (hmin : ∀ j n, s.InReach order p j n → reach p m ≤ reach p n) (hstruck : Struck p m m')
    (hlow : 0 ≤ m.hp) (hmonsters : s'.monsters = s.monsters.set i m')
    (hothers : s' = { s with monsters := s'.monsters, sent := s'.sent }) :
    HitsNearest s order accId p s' := by
  obtain ⟨hlt, -⟩ := List.getElem?_eq_some_iff.mp hm.monster
  have hchanged : ∀ j : Nat, s'.monsters[j]? ≠ s.monsters[j]? ↔ j = i := by
    intro j
    rw [hmonsters]
    by_cases hji : j = i
    · subst hji
      rw [List.getElem?_set_self hlt, hm.monster, Ne, Option.some.injEq]
      exact iff_of_true (hstruck.changes hm.alive hlow) rfl
    · rw [List.getElem?_set_ne (Ne.symm hji)]
      exact iff_of_false (fun h => h rfl) hji
  refine ⟨⟨fun _ => ⟨i, m, hm⟩, fun _ => ⟨i, (hchanged i).mpr rfl⟩⟩, fun j hj => ?_, hothers,
    fun hnone => absurd hm (hnone i m)⟩
  obtain rfl := (hchanged j).mp hj
  exact ⟨m, m', hm, hmin, hstruck, hmonsters⟩

/-- The attack request of an online player, with hit points that are not negative
    and differences that an `int` holds. -/
theorem attack_hits_nearest (env : GameEnv K) (s : GameContext K σ) (order : IterationOrder)
    {payload : List UInt8} {req : GatewayGameAttackReq} {p : PlayerInfo K}
    (hreq : env.parseAttackReq payload = some req) (hp : s.playerMap req.accountId = some p)
    (hhp : ∀ m ∈ s.monsters, 0 ≤ m.hp ∧ m.hp < 2 ^ 31)
    (hatk : ∀ m ∈ s.monsters,
      -2 ^ 31 ≤ p.atk - m.defensePower ∧ p.atk - m.defensePower < 2 ^ 31) :
    HitsNearest s order req.accountId p (s.handleGatewayGameAttackReq env order payload) := by
  unfold handleGatewayGameAttackReq
  simp only [hreq, hp, nearestMonster_eq_scan]
  rcases @Nearest.scan_cases _ _ K _ s.livingMonster (fun found => reach p found.2)
    (s.zone.getMonstersInAOI order p.x p.y) none GameConstants.Combat.playerAttackRange with
    ⟨hscan, hnone⟩ | ⟨⟨i, m⟩, hscan, hwithin, hmin⟩
  · rw [hscan]
    exact .of_none fun i m h => hnone (i, m) (within_iff_inReach.mpr h)
  · rw [hscan]
    have hm := within_iff_inReach.mp hwithin
    have hmem : m ∈ s.monsters := List.mem_of_getElem? hm.monster
    obtain ⟨hlow, hhigh⟩ := hhp m hmem
    obtain ⟨hatkLow, hatkHigh⟩ := hatk m hmem
    exact .of_hit hm (fun j n h => hmin (j, n) (within_iff_inReach.mpr h))
      (struck_struck hm.alive hlow hhigh hatkLow hatkHigh) hlow rfl rfl

/-- A player and two monsters in range of it. -/
def arena : GameContext ℚ Nat where
  zone := { size := mapSize, grid := fun k => if k = (0, 0) then ⟨[1], [10001, 10002]⟩ else {} }
  playerMap := fun accId => if accId = "a" then some ⟨1, 0, 0, 100, 30⟩ else none
  monsters := [Monster.spawn ⟨10001, 1, 0, 50, 3⟩, Monster.spawn ⟨10002, 1 / 2, 0, 15, 3⟩]
  monsterMap := fun id => if id = 10001 then some 0 else if id = 10002 then some 1 else none

theorem attack_hits_nearest_arena :
    HitsNearest arena .listed "a" ⟨1, 0, 0, 100, 30⟩
      (arena.handleGatewayGameAttackReq .sample .listed [10, 1, 97]) := by
  have hreq : GameEnv.sample.parseAttackReq [10, 1, 97] = some ⟨"a", 0⟩ := rfl
  exact attack_hits_nearest .sample arena .listed hreq rfl (by decide) (by decide)

end GameContext

end MMOServers.GameServer

/-
MMOServers.GameServer.VitalityTheorems — hit points and death.

A monster should be dead exactly when it has no hit points left, and a live one
should have some. Hits keep it so: `TakeDamage` stops at zero, and a monster at
zero dies in the same task. `SetHp` adds what a buff brings and does not look
whether an `int` can hold the sum. The monsters are healthy in all states exactly
on the runs on which it always can (`healthy_iff_buffsFit`).
-/
import MMOServers.GameServer.MonsterSteps
import MMOServers.Lib.Run

namespace MMOServers.GameServer

open MMOServers.Common Transition

namespace Monster

variable {K : Type}

/-- Dead without hit points, and alive with some. -/
structure Healthy (m : Monster K) : Prop where
  dead : m.state = .dead ↔ m.hp = 0
  live : m.state ≠ .dead → 1 ≤ m.hp

/-- What an `int` can hold. -/
structure Bounded (m : Monster K) : Prop where
  hp : m.hp < 2 ^ 31
  maxHp : 1 ≤ m.maxHp ∧ m.maxHp < 2 ^ 31

theorem Healthy.of_live {m : Monster K} (hlive : m.state ≠ .dead) (hhp : 1 ≤ m.hp) : m.Healthy :=
  ⟨iff_of_false hlive (by omega), fun _ => hhp⟩

theorem wrap32_of_bounds {n : Int} (hlow : -2 ^ 31 ≤ n) (hhigh : n < 2 ^ 31) : wrap32 n = n := by
  unfold wrap32
  rw [Int.bmod_eq_of_le] <;> omega

theorem wrap32_lt (n : Int) : wrap32 n < 2 ^ 31 := by
  unfold wrap32
  have := Int.bmod_lt (x := n) (m := 2 ^ 32) (by decide)
  omega

theorem struck_healthy {m : Monster K} (h : m.Healthy) (hb : m.Bounded)
    (hlive : m.state ≠ .dead) {damage : Int} (hdamage : 1 ≤ damage ∧ damage < 2 ^ 31) :
    (m.struck damage).Healthy ∧ (m.struck damage).Bounded := by
  have hhp := h.live hlive
  have hbound := hb.hp
  have hwrap : wrap32 (m.hp - damage) = m.hp - damage :=
    wrap32_of_bounds (by omega) (by omega)
  unfold struck
  dsimp only
  split
  · exact ⟨⟨iff_of_true rfl rfl, fun hdead => absurd rfl hdead⟩, ⟨by simp [die], hb.maxHp⟩⟩
  · rename_i hleft
    refine ⟨.of_live hlive ?_, ⟨?_, hb.maxHp⟩⟩
    · omega
    · simp only [takeDamage, hwrap]
      split <;> omega

/-- A buff is healthy exactly when the sum fits. -/
theorem setHp_healthy_iff {m : Monster K} (h : m.Healthy) (hb : m.Bounded)
    (hlive : m.state ≠ .dead) {addHp : Int} (hadd : 0 < addHp ∧ addHp < 2 ^ 31) :
    (m.setHp addHp).Healthy ↔ m.hp + addHp < 2 ^ 31 := by
  have hhp := h.live hlive
  have hbound := hb.hp
  constructor
  · intro hbuffed
    by_contra hover
    have hwrap : wrap32 (m.hp + addHp) = m.hp + addHp - 2 ^ 32 := by
      have hsub : wrap32 (m.hp + addHp - 2 ^ 32) = wrap32 (m.hp + addHp) :=
        Int.sub_bmod_right (m.hp + addHp) (2 ^ 32)
      rw [← hsub]
      exact wrap32_of_bounds (by omega) (by omega)
    have hlow : 1 ≤ wrap32 (m.hp + addHp) := hbuffed.live hlive
    omega
  · intro hfits
    have hwrap : wrap32 (m.hp + addHp) = m.hp + addHp := wrap32_of_bounds (by omega) hfits
    refine .of_live hlive ?_
    show 1 ≤ wrap32 (m.hp + addHp)
    omega

theorem setHp_bounded {m : Monster K} (hb : m.Bounded) (addHp : Int) :
    (m.setHp addHp).Bounded := ⟨wrap32_lt _, hb.maxHp⟩

/-- Monsters with the same vitals that are alive. -/
theorem Healthy.of_vitals {m m' : Monster K} (h : m.Healthy) (hb : m.Bounded)
    (hvitals : m'.vitals = m.vitals) (hstate : m'.state = .dead ↔ m.state = .dead) :
    m'.Healthy ∧ m'.Bounded := by
  simp only [vitals, Prod.mk.injEq] at hvitals
  obtain ⟨hhp, hmax, -⟩ := hvitals
  refine ⟨⟨?_, ?_⟩, ⟨?_, ?_⟩⟩
  · rw [hstate, hhp]
    exact h.dead
  · rw [ne_eq, hstate, hhp]
    exact h.live
  · rw [hhp]
    exact hb.hp
  · rw [hmax]
    exact hb.maxHp

end Monster

namespace GameContext

variable {K σ : Type}

/-- Every monster is dead exactly without hit points, and a live one has some. -/
def Healthy (s : GameContext K σ) : Prop := ∀ m ∈ s.monsters, m.Healthy

def Bounded (s : GameContext K σ) : Prop := ∀ m ∈ s.monsters, m.Bounded

/-- A buff of the administration, which is positive. -/
def BuffsPositive (env : GameEnv K) : Label K σ → Prop
  | .worldPacket id payload => ∀ req ∈ buffOf env id payload, 0 < req.addHp
  | _ => True

instance (env : GameEnv K) (label : Label K σ) : Decidable (BuffsPositive env label) := by
  unfold BuffsPositive
  split <;> infer_instance

/-- An `int` can hold the hit points of every live monster with the buff. -/
def BuffsFit (env : GameEnv K) (s : GameContext K σ) : Label K σ → Prop
  | .worldPacket id payload => ∀ req ∈ buffOf env id payload,
      ∀ m ∈ s.monsters, Buffs req m → m.hp + req.addHp.toInt < 2 ^ 31
  | _ => True

variable [Field K] [LinearOrder K] [FloorRing K] [HasSqrt K] [DecidableEq σ] {env : GameEnv K}

omit [FloorRing K] [DecidableEq σ] in
theorem tick_healthy {h h' : Hunt K} {deltaTime : K} (hh : h.monster.Healthy)
    (hb : h.monster.Bounded) (htick : TickStep deltaTime h h') :
    h'.monster.Healthy ∧ h'.monster.Bounded := by
  cases htick with
  | waits dead early => exact ⟨⟨hh.dead, hh.live⟩, ⟨hb.hp, hb.maxHp⟩⟩
  | respawns dead due =>
      have hlive : (h.monster.addDeadTime deltaTime).respawn.state ≠ .dead := by
        simp [Monster.respawn]
      exact ⟨.of_live hlive hb.maxHp.1, ⟨hb.maxHp.2, hb.maxHp⟩⟩
  | acts live r aims =>
      obtain ⟨hvitals, hlive⟩ := Monster.update_live aims.live deltaTime
      exact hh.of_vitals hb (hvitals.trans aims.vitals) (iff_of_false hlive live)

omit [DecidableEq σ] in
/-- One task, seen at one monster. -/
theorem huntStep_healthy {s : GameContext K σ} {i : Nat} {h h' : Hunt K} {label : Label K σ}
    (hi : s.hunt i = some h) (hh : h.monster.Healthy) (hb : h.monster.Bounded)
    (hpositive : BuffsPositive env label) (hfit : BuffsFit env s label)
    (hstep : HuntStep env s i h label h') : h'.monster.Healthy ∧ h'.monster.Bounded := by
  cases hstep with
  | aside untimed unanswered => exact ⟨hh, hb⟩
  | hit gw selected live => exact Monster.struck_healthy hh hb live (attackTarget_damage selected)
  | @buffed id payload req parsed buffs =>
      have hadd : 0 < req.addHp.toInt := Int32.lt_iff_toInt_lt.mp (hpositive req parsed)
      have hsum := hfit req parsed h.monster (List.mem_of_getElem? (hunt_monster hi)) buffs
      exact ⟨(Monster.setHp_healthy_iff hh hb buffs.2.2 ⟨hadd, req.addHp.toInt_lt⟩).mpr hsum,
        Monster.setHp_bounded hb _⟩
  | ticks order tick => exact tick_healthy hh hb tick
  | path waypoints answers asked =>
      obtain ⟨hvitals, hstate⟩ := Monster.applyPath_vitals h.monster _ waypoints
      exact hh.of_vitals hb hvitals (by rw [hstate])

theorem step_bounded {s s' : GameContext K σ} {label : Label K σ} (hh : s.Healthy)
    (hb : s.Bounded) (hpositive : BuffsPositive env label) (hfit : BuffsFit env s label)
    (hstep : step env s label = some s') : s'.Healthy ∧ s'.Bounded := by
  have hone : ∀ m' ∈ s'.monsters, m'.Healthy ∧ m'.Bounded := by
    intro m' hm'
    obtain ⟨i, h', hi', rfl⟩ := mem_monsters_iff.mp hm'
    obtain ⟨h, hi, hhunt⟩ := step_hunt_of hstep hi'
    have hm : h.monster ∈ s.monsters := List.mem_of_getElem? (hunt_monster hi)
    exact huntStep_healthy hi (hh _ hm) (hb _ hm) hpositive hfit hhunt
  exact ⟨fun m' hm' => (hone m' hm').1, fun m' hm' => (hone m' hm').2⟩

/-- A task keeps the monsters healthy exactly when its buff fits. -/
theorem step_healthy_iff {s s' : GameContext K σ} {label : Label K σ} (hb : s.Bounded)
    (hh : s.Healthy) (hpositive : BuffsPositive env label)
    (hstep : step env s label = some s') : s'.Healthy ↔ BuffsFit env s label := by
  refine ⟨fun hh' => ?_, fun hfit => (step_bounded hh hb hpositive hfit hstep).1⟩
  cases label with
  | worldPacket id payload =>
      intro req hreq m hm hbuffs
      obtain rfl := Option.some.inj hstep
      have hmonsters := (worldDispatch_monsters env s id payload).2
      rw [show buffOf env id payload = some req from hreq] at hmonsters
      have hbuffed : m.setHp req.addHp.toInt ∈ (s.worldDispatch env id payload).monsters := by
        rw [hmonsters]
        exact List.mem_map.mpr ⟨m, hm, if_pos hbuffs⟩
      have hadd : 0 < req.addHp.toInt := Int32.lt_iff_toInt_lt.mp (hpositive req hreq)
      exact (Monster.setHp_healthy_iff (hh m hm) (hb m hm) hbuffs.2.2
        ⟨hadd, req.addHp.toInt_lt⟩).mp (hh' _ hbuffed)
  | _ => trivial

omit [LinearOrder K] [FloorRing K] [HasSqrt K] [DecidableEq σ] in
theorem spawn_healthy {data : MonsterSpawn K} (h : 1 ≤ data.hp ∧ data.hp < 2 ^ 31) :
    (Monster.spawn data).Healthy ∧ (Monster.spawn data).Bounded :=
  ⟨.of_live (by simp [Monster.spawn]) h.1, ⟨h.2, h⟩⟩

/-- With monsters that start with hit points, and positive buffs, every monster is
    dead exactly without hit points in every state, and a live one has some,
    exactly when an `int` can hold what every buff leads to. -/
theorem healthy_iff_buffsFit (env : GameEnv K) (spawns : List (MonsterSpawn K))
    (hspawns : ∀ data ∈ spawns, 1 ≤ data.hp ∧ data.hp < 2 ^ 31) (labels : List (Label K σ))
    (hpositive : ∀ label ∈ labels, BuffsPositive env label) :
    Always (step env) Healthy (start spawns) labels
      ↔ Meets (step env) (BuffsFit env) (start spawns) labels := by
  have hstart : ∀ m ∈ (start spawns : GameContext K σ).monsters, m.Healthy ∧ m.Bounded := by
    intro m hm
    rw [(start_monsters spawns).1] at hm
    obtain ⟨data, hdata, rfl⟩ := List.mem_map.mp hm
    exact spawn_healthy (hspawns data hdata)
  have hmeets : Meets (step env) (fun _ => BuffsPositive env) (start spawns) labels :=
    meets_of_labels (fun _ => True) (fun _ _ _ => trivial) (fun _ h _ => h) trivial hpositive
  have hbounded : (start spawns : GameContext K σ).Bounded := fun m hm => (hstart m hm).2
  have hhealthy : (start spawns : GameContext K σ).Healthy := fun m hm => (hstart m hm).1
  refine always_iff_meets_of_meets ?_ ?_ hbounded hhealthy hmeets
  · intro s label s' hb hh hpos hfit hstep
    exact (step_bounded hh hb hpos hfit hstep).2
  · intro s label s' hb hh hpos hstep
    exact step_healthy_iff hb hh hpos hstep

/-- The encoding of two buffs of the monsters that the administration buffs. -/
def buffEnv : GameEnv ℚ :=
  { GameEnv.sample with
      parseMonsterBuffReq
        | [8, 144, 78, 16, 160, 141, 6, 24, 50] => some ⟨10000, 100000, 50⟩
        | [8, 144, 78, 16, 160, 141, 6, 24, 255, 255, 255, 255, 7] =>
            some ⟨10000, 100000, 2147483647⟩
        | _ => none }

def buffedSpawn : List (MonsterSpawn ℚ) := [⟨10001, 10, 10, 100, 60⟩]

def smallBuff : Label ℚ Nat :=
  .worldPacket PacketId.worldGameMonsterBuff [8, 144, 78, 16, 160, 141, 6, 24, 50]

def largeBuff : Label ℚ Nat :=
  .worldPacket PacketId.worldGameMonsterBuff
    [8, 144, 78, 16, 160, 141, 6, 24, 255, 255, 255, 255, 7]

theorem healthy_smallBuffs :
    Always (step buffEnv) Healthy (start buffedSpawn : GameContext ℚ Nat) [smallBuff, smallBuff]
      ↔ Meets (step buffEnv) (BuffsFit buffEnv) (start buffedSpawn : GameContext ℚ Nat)
        [smallBuff, smallBuff] :=
  healthy_iff_buffsFit buffEnv buffedSpawn (by decide) _ (by decide)

/-- The largest buff there is. -/
theorem unhealthy_largeBuff :
    (∀ data ∈ buffedSpawn, 1 ≤ data.hp ∧ data.hp < 2 ^ 31) ∧
      (∀ label ∈ [largeBuff], BuffsPositive buffEnv label) ∧
      ¬ Always (step buffEnv) Healthy (start buffedSpawn : GameContext ℚ Nat) [largeBuff] := by
  refine ⟨by decide, by decide, fun h => ?_⟩
  have hhealthy := always_iff_exec.mp h _ (List.prefix_refl _) _ rfl
  have hm := hhealthy _ List.mem_cons_self
  exact absurd (hm.live (by decide +kernel)) (by decide +kernel)

end GameContext

end MMOServers.GameServer

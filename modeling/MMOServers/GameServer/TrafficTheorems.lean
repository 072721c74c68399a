/-
MMOServers.GameServer.TrafficTheorems — how much the ticks send.

What the AI sends is paid for with time. A monster has three timers: of its
attack, of its death, and of the messages about its position. In a tick one of
them counts at most: a dead monster waits, one that attacks does not move, one
that moves does not attack. A timer that is full is taken down, and only then
something is sent, two messages for a hit (the second when the player dies of
it) and one for a position or a respawn.

So the timers of a monster are what it has saved up (`clocks`), a message costs
a second, and a run sends at most one message a second and monster, and two more
(`ticks_frugal`), whatever players, gateways and paths do. The conditions are
that no monster respawns in less than a second, and that the ids of the monsters
are distinct, as the timers of the positions are kept by id.
-/
import MMOServers.GameServer.ChatRelay
import MMOServers.GameServer.CooldownTheorems
import MMOServers.GameServer.StrikeTheorems
import MMOServers.Lib.Potential
import Mathlib.Tactic.NormNum

namespace MMOServers.GameServer

open MMOServers.Common Transition

/-! ## One monster -/

namespace Monster

variable {K : Type} [Field K] [LinearOrder K] [HasSqrt K]

theorem Aims.position_eq {m : Monster K} {r : Monster K × List (MonsterCall K)} (h : m.Aims r) :
    r.1.position = m.position := by
  cases h with
  | stays h => rfl
  | sees uid pos h => rfl
  | follows pos h => exact (m.updateTargetPosition_fields pos).2.2
  | givesUpChase h =>
      unfold giveUpChase
      split <;> rfl
  | givesUpAttack h => rfl

/-- An update leaves the attack timer alone and is no attack, or it leaves the
    position alone and an attack is paid for by the timer. -/
theorem update_pays [IsStrictOrderedRing K] (m : Monster K) {deltaTime : K} (htime : 0 ≤ deltaTime)
    (hcooldown : m.attackCooldown = GameConstants.Monster.attackCooldown)
    (htimer : 0 ≤ m.attackTimer) :
    0 ≤ (m.update deltaTime).1.attackTimer ∧
      (((m.update deltaTime).1.attackTimer = m.attackTimer ∧
          (m.update deltaTime).2.countP (·.isAttack) = 0) ∨
        ((m.update deltaTime).1.position = m.position ∧
          ((2 * (m.update deltaTime).2.countP (·.isAttack) : Nat) : K)
              + (m.update deltaTime).1.attackTimer
            ≤ m.attackTimer + deltaTime)) := by
  by_cases hcounts : m.Counts
  · rw [update_of_counts hcounts]
    split
    · rename_i hfull
      refine ⟨sub_nonneg.mpr hfull, Or.inr ⟨rfl, ?_⟩⟩
      have hperiod : (GameConstants.Monster.attackCooldown : K) = 2 := rfl
      simp [MonsterCall.isAttack, hcooldown, hperiod]
    · exact ⟨add_nonneg htimer htime, Or.inr ⟨rfl, by simp⟩⟩
  · obtain ⟨hstands, hquiet⟩ := update_of_not_counts hcounts deltaTime
    refine ⟨hstands ▸ htimer, Or.inl ⟨hstands, ?_⟩⟩
    rw [List.countP_eq_zero]
    intro call hcall
    simp [hquiet call hcall]

end Monster

namespace GameContext

variable {K σ : Type} [Field K] [LinearOrder K] [FloorRing K]

/-! ## What is sent, and the timers of the positions -/

/-- The two things that are sent of a hit. -/
theorem attackPlayer_length (s : GameContext K σ) (order : IterationOrder)
    (attackerUid targetUid : Nat) (damage : Int) :
    (s.attackPlayer order attackerUid targetUid damage).sent.length ≤ s.sent.length + 2 ∧
      (s.attackPlayer order attackerUid targetUid damage).syncTimers = s.syncTimers := by
  unfold attackPlayer
  split
  · exact ⟨Nat.le_add_right _ _, rfl⟩
  · dsimp only
    split
    · exact ⟨Nat.le_refl _, rfl⟩
    · exact ⟨Nat.le_succ _, rfl⟩

theorem perform_length (s : GameContext K σ) (order : IterationOrder) (i : Nat)
    (calls : List (MonsterCall K)) :
    (s.perform order i calls).sent.length ≤ s.sent.length + 2 * calls.countP (·.isAttack) ∧
      (s.perform order i calls).syncTimers = s.syncTimers := by
  induction calls generalizing s with
  | nil => exact ⟨Nat.le_refl _, rfl⟩
  | cons call calls ih =>
      cases call with
      | findPath request =>
          obtain ⟨hsent, htimers⟩ := ih { s with pathTasks := s.pathTasks ++ [⟨i, request⟩] }
          refine ⟨?_, htimers⟩
          have hcount : (MonsterCall.findPath request :: calls).countP (·.isAttack)
              = calls.countP (·.isAttack) := by
            simp [MonsterCall.isAttack]
          rw [perform, hcount]
          exact hsent
      | attack attackerId targetId damage =>
          obtain ⟨hsent, htimers⟩ := ih (s.attackPlayer order attackerId targetId damage)
          obtain ⟨hhit, htimers'⟩ := s.attackPlayer_length order attackerId targetId damage
          refine ⟨?_, htimers.trans htimers'⟩
          have hcount : (MonsterCall.attack attackerId targetId damage :: calls).countP
              (·.isAttack) = calls.countP (·.isAttack) + 1 := by
            simp [MonsterCall.isAttack]
          rw [perform, hcount]
          omega

/-- The timer of the messages about a monster's position. -/
def syncTimer (s : GameContext K σ) (m : Monster K) : K := (s.syncTimers m.monsterId).getD 0

/-- A message about a position is paid for by its timer; without a move nothing
    happens. -/
theorem syncMonsterPosition_pays [IsStrictOrderedRing K] (s : GameContext K σ)
    (order : IterationOrder) (m : Monster K) (oldX oldY : K) {deltaTime : K}
    (htime : 0 ≤ deltaTime) (htimer : 0 ≤ s.syncTimer m) :
    let s' := s.syncMonsterPosition order m oldX oldY deltaTime
    0 ≤ s'.syncTimer m ∧
      (oldX = m.position.x → oldY = m.position.y →
        s'.sent = s.sent ∧ s'.syncTimer m = s.syncTimer m) ∧
      (s'.sent.length : K) + s'.syncTimer m ≤ s.sent.length + s.syncTimer m + deltaTime ∧
      ∀ id, id ≠ m.monsterId → s'.syncTimers id = s.syncTimers id := by
  intro s'
  unfold syncTimer at htimer
  simp only [s', syncMonsterPosition, syncTimer]
  split
  · refine ⟨htimer, fun _ _ => ⟨rfl, rfl⟩, ?_, fun _ _ => rfl⟩
    exact le_add_of_nonneg_right htime
  · rename_i hmoved
    have hcount : 0 ≤ (s.syncTimers m.monsterId).getD 0 + deltaTime := add_nonneg htimer htime
    have hstill : oldX = m.position.x → oldY = m.position.y → False := by
      rintro rfl rfl
      refine hmoved ⟨?_, ?_⟩ <;>
        · rw [sub_self, abs_zero]
          exact div_nonneg zero_le_one (by norm_num)
    split
    · refine ⟨by simpa using hcount, fun hx hy => (hstill hx hy).elim, ?_, ?_⟩
      · simp [add_assoc]
      · exact fun id hid => Function.update_of_ne hid _ _
    · rename_i hfull
      have hperiod : (GameConstants.Network.monsterSyncInterval : K) = 2 := rfl
      rw [hperiod, not_lt] at hfull
      have hothers : ∀ id, id ≠ m.monsterId →
          Function.update (Function.update s.syncTimers m.monsterId
            (some ((s.syncTimers m.monsterId).getD 0 + deltaTime))) m.monsterId (some 0) id
            = s.syncTimers id := by
        intro id hid
        rw [Function.update_of_ne hid, Function.update_of_ne hid]
      split
      · refine ⟨by simp, fun hx hy => (hstill hx hy).elim, ?_, hothers⟩
        simp only [Function.update_self, Option.getD_some]
        linarith
      · refine ⟨by simp [broadcastToGateways], fun hx hy => (hstill hx hy).elim, ?_, hothers⟩
        simp only [broadcastToGateways, Function.update_self, Option.getD_some, List.length_cons,
          Nat.cast_succ]
        linarith

/-- A message about a respawn is paid for by the timer of the death. -/
theorem processDeadMonster_pays [IsStrictOrderedRing K] (s : GameContext K σ)
    (order : IterationOrder) (i : Nat) (m : Monster K) {deltaTime : K} (htime : 0 ≤ deltaTime)
    (htimer : 0 ≤ m.deadTimer) (hrespawn : 1 ≤ m.respawnSec) :
    let s' := s.processDeadMonster order i m deltaTime
    ∃ m', s'.monsters = (s.setMonster i m').monsters ∧ s'.syncTimers = s.syncTimers ∧
      m'.monsterId = m.monsterId ∧ m'.attackTimer = m.attackTimer ∧ 0 ≤ m'.deadTimer ∧
      (s'.sent.length : K) + m'.deadTimer ≤ s.sent.length + m.deadTimer + deltaTime := by
  intro s'
  have hcount : 0 ≤ m.deadTimer + deltaTime := add_nonneg htimer htime
  simp only [s', processDeadMonster]
  split
  · refine ⟨m.addDeadTime deltaTime, rfl, rfl, rfl, rfl, hcount, ?_⟩
    exact (add_assoc _ _ _).ge
  · rename_i hdue
    have hsecond : (1 : K) ≤ m.deadTimer + deltaTime := by
      have hcast : (1 : K) ≤ (m.respawnSec : K) := by exact_mod_cast hrespawn
      exact hcast.trans (not_lt.mp hdue)
    split
    · refine ⟨(m.addDeadTime deltaTime).respawn, rfl, rfl, rfl, rfl, le_rfl, ?_⟩
      show (s.sent.length : K) + 0 ≤ _
      linarith
    · refine ⟨(m.addDeadTime deltaTime).respawn, rfl, rfl, rfl, rfl, le_rfl, ?_⟩
      show ((s.sent.length + 1 : Nat) : K) + 0 ≤ _
      push_cast
      linarith

/-! ## What is saved up -/

/-- What the timers of a monster have counted. -/
def clocks (s : GameContext K σ) (m : Monster K) : K :=
  m.attackTimer + m.deadTimer + s.syncTimer m

def savings (s : GameContext K σ) (i : Nat) : K := ((s.monsters[i]?).map s.clocks).getD 0

/-- No timer is below zero. -/
structure Wound (s : GameContext K σ) (m : Monster K) : Prop where
  attack : 0 ≤ m.attackTimer
  dead : 0 ≤ m.deadTimer
  sync : 0 ≤ s.syncTimer m

/-- What is known of the monsters of every state. -/
structure Ticking (spawns : List (MonsterSpawn K)) (s : GameContext K σ) : Prop where
  bred : Bred spawns s
  count : s.monsters.length = spawns.length
  wound : ∀ (i : Nat) (m : Monster K), s.monsters[i]? = some m → s.Wound m

/-- The spawn list has distinct ids, and nobody comes back in less than a second. -/
structure Orderly (spawns : List (MonsterSpawn K)) : Prop where
  distinct : (spawns.map (·.monId)).Nodup
  respawn : ∀ data ∈ spawns, 1 ≤ data.respawnSec

omit [LinearOrder K] [FloorRing K] in
/-- Monsters made of entries with distinct ids have distinct ids. -/
theorem Bred.apart {spawns : List (MonsterSpawn K)} {s : GameContext K σ} (h : Bred spawns s)
    (hdistinct : (spawns.map (·.monId)).Nodup) {i j : Nat} {m n : Monster K} (hij : i ≠ j)
    (hi : s.monsters[i]? = some m) (hj : s.monsters[j]? = some n) :
    m.monsterId ≠ n.monsterId := by
  obtain ⟨d, hd, hm⟩ := h i m hi
  obtain ⟨e, he, hn⟩ := h j n hj
  have hmid : m.monsterId = d.monId := congrArg (·.1) hm
  have hnid : n.monsterId = e.monId := congrArg (·.1) hn
  rw [hmid, hnid]
  intro heq
  have hlt : i < (spawns.map (·.monId)).length := by
    rw [List.length_map]
    exact (List.getElem?_eq_some_iff.mp hd).1
  refine hij ((List.getElem?_inj hlt hdistinct).mp ?_)
  rw [List.getElem?_map, List.getElem?_map, hd, he, Option.map_some, Option.map_some, heq]

/-! ## A pass of the loop -/

variable [HasSqrt K] [IsStrictOrderedRing K]

/-- What a pass makes of its monster, and what it sends. -/
structure Passed (s s' : GameContext K σ) (i : Nat) (deltaTime : K) (m m' : Monster K) :
    Prop where
  monsters : s'.monsters = (s.setMonster i m').monsters
  others : ∀ id, id ≠ m.monsterId → s'.syncTimers id = s.syncTimers id
  traits : m'.traits = m.traits
  wound : s'.Wound m'
  pays : (s'.sent.length : K) + s'.clocks m' ≤ s.sent.length + s.clocks m + deltaTime

theorem tickMonster_passed_dead {s : GameContext K σ} {i : Nat} {m : Monster K}
    (hm : s.monsters[i]? = some m) (hdead : m.state = .dead) (hwound : s.Wound m)
    (hrespawn : 1 ≤ m.respawnSec) (order : IterationOrder) {deltaTime : K}
    (htime : 0 ≤ deltaTime) :
    ∃ m', Passed s (tickMonster order deltaTime s i) i deltaTime m m' := by
  obtain ⟨h, hi, rfl⟩ := exists_hunt hm
  obtain ⟨m', hmonsters, htimers, hid, hattack, hnonneg, hpays⟩ :=
    s.processDeadMonster_pays order i h.monster htime hwound.dead hrespawn
  have htick : tickMonster order deltaTime s i
      = s.processDeadMonster order i h.monster deltaTime := by
    simp only [tickMonster, hm, if_pos hdead]
  have hsync : (s.processDeadMonster order i h.monster deltaTime).syncTimer m'
      = s.syncTimer h.monster := by
    rw [syncTimer, syncTimer, htimers, hid]
  rw [htick]
  refine ⟨m', hmonsters, fun id _ => congrFun htimers id, ?_, ?_, ?_⟩
  · obtain ⟨h', hi', hstep⟩ := tickMonster_hunt_self hi order deltaTime
    have hset := hunt_monster (hunt_setMonster_self hi m')
    have hm' := hunt_monster hi'
    rw [htick, hmonsters, hset] at hm'
    have hsame : m' = h'.monster := Option.some.inj hm'
    rw [hsame]
    exact hstep.traits
  · exact ⟨hattack ▸ hwound.attack, hnonneg, hsync ▸ hwound.sync⟩
  · rw [clocks, clocks, hattack, hsync]
    linarith

/-- The server when the monster has been updated and its position is looked at. -/
def afterUpdate (s : GameContext K σ) (order : IterationOrder) (deltaTime : K) (i : Nat)
    (m : Monster K) : GameContext K σ :=
  let r := (s.aimOf order m).1.update deltaTime
  ((s.afterAim order i m).setMonster i r.1).perform order i r.2

omit [IsStrictOrderedRing K] in
theorem tickMonster_eq_sync {s : GameContext K σ} {i : Nat} {m : Monster K}
    (hm : s.monsters[i]? = some m) (hlive : m.state ≠ .dead) (order : IterationOrder)
    (deltaTime : K) :
    tickMonster order deltaTime s i
      = (s.afterUpdate order deltaTime i m).syncMonsterPosition order
          ((s.aimOf order m).1.update deltaTime).1 m.position.x m.position.y deltaTime := by
  simp only [tickMonster, hm, if_neg hlive]
  rfl

omit [IsStrictOrderedRing K] in
/-- Up to there the pass sends what the hits of its second half send. -/
theorem afterUpdate_length (s : GameContext K σ) (order : IterationOrder) (deltaTime : K) (i : Nat)
    {m : Monster K} (hlive : m.state ≠ .dead) :
    (s.afterUpdate order deltaTime i m).sent.length
        ≤ s.sent.length
          + 2 * ((s.aimOf order m).1.update deltaTime).2.countP (·.isAttack) ∧
      (s.afterUpdate order deltaTime i m).syncTimers = s.syncTimers := by
  obtain ⟨hsent₁, htimers₁⟩ :=
    (s.setMonster i (s.aimOf order m).1).perform_length order i (s.aimOf order m).2
  obtain ⟨hsent₂, htimers₂⟩ := ((s.afterAim order i m).setMonster i
    ((s.aimOf order m).1.update deltaTime).1).perform_length order i
      ((s.aimOf order m).1.update deltaTime).2
  refine ⟨hsent₂.trans (Nat.add_le_add_right ?_ _), htimers₂.trans htimers₁⟩
  have hquiet : (s.aimOf order m).2.countP (·.isAttack) = 0 := by
    rw [List.countP_eq_zero]
    intro call hcall
    simp [(s.aimOf_aims order hlive).quiet call hcall]
  rw [hquiet] at hsent₁
  exact hsent₁

omit [IsStrictOrderedRing K] in
theorem afterUpdate_monsters (s : GameContext K σ) (order : IterationOrder) (deltaTime : K)
    (i : Nat) (m : Monster K) :
    (s.afterUpdate order deltaTime i m).monsters
      = (s.setMonster i ((s.aimOf order m).1.update deltaTime).1).monsters := by
  rw [afterUpdate, (perform_monsters _ order i _).1]
  show (s.afterAim order i m).monsters.set i _ = s.monsters.set i _
  rw [afterAim, (perform_monsters _ order i _).1]
  exact List.set_set ..

theorem tickMonster_passed_live {s : GameContext K σ} {i : Nat} {m : Monster K}
    (hm : s.monsters[i]? = some m) (hlive : m.state ≠ .dead) (hwound : s.Wound m)
    (hcooldown : m.attackCooldown = GameConstants.Monster.attackCooldown)
    (order : IterationOrder) {deltaTime : K} (htime : 0 ≤ deltaTime) :
    ∃ m', Passed s (tickMonster order deltaTime s i) i deltaTime m m' := by
  have haims := s.aimOf_aims order hlive
  set r := s.aimOf order m with hr
  set m' := (r.1.update deltaTime).1 with hm'
  have htraits : m'.traits = m.traits := (r.1.update_traits deltaTime).trans haims.traits
  have hid : m'.monsterId = m.monsterId := congrArg (·.1) htraits
  have hdead : m'.deadTimer = m.deadTimer :=
    congrArg (·.2.2.1) ((Monster.update_live haims.live deltaTime).1.trans haims.vitals)
  obtain ⟨hnonneg, hupdate⟩ := r.1.update_pays htime
    ((Monster.traits_attackCooldown haims.traits).trans hcooldown)
    (haims.attackTimer ▸ hwound.attack)
  set s₂ := s.afterUpdate order deltaTime i m with hs₂
  have htick : tickMonster order deltaTime s i
      = s₂.syncMonsterPosition order m' m.position.x m.position.y deltaTime :=
    tickMonster_eq_sync hm hlive order deltaTime
  obtain ⟨hsent, htimers⟩ := s.afterUpdate_length order deltaTime i hlive
  rw [← hs₂] at hsent htimers
  have hsync : s₂.syncTimer m' = s.syncTimer m := by
    rw [syncTimer, syncTimer, htimers, hid]
  obtain ⟨hsynced, hstill, hmoves, hothers⟩ := s₂.syncMonsterPosition_pays order m' m.position.x
    m.position.y htime (hsync ▸ hwound.sync)
  rw [htick]
  have hsentK : (s₂.sent.length : K)
      ≤ s.sent.length + ((2 * (r.1.update deltaTime).2.countP (·.isAttack) : Nat) : K) := by
    exact_mod_cast hsent
  refine ⟨m', ?_, ?_, htraits, ⟨hnonneg, hdead ▸ hwound.dead, hsynced⟩, ?_⟩
  · rw [(s₂.syncMonsterPosition_monsters order m' _ _ deltaTime).1]
    exact s.afterUpdate_monsters order deltaTime i m
  · intro id hne
    rw [hothers id (hid ▸ hne), htimers]
  · rw [clocks, clocks, hdead]
    rcases hupdate with ⟨htimer, hnone⟩ | ⟨hplace, hpays⟩
    · rw [hnone, Nat.mul_zero, Nat.cast_zero] at hsentK
      rw [htimer, haims.attackTimer]
      linarith
    · have hposition : m'.position = m.position := hplace.trans haims.position_eq
      obtain ⟨hsame, hkept⟩ := hstill (by rw [hposition]) (by rw [hposition])
      rw [hsame, hkept]
      rw [haims.attackTimer] at hpays
      linarith

omit [LinearOrder K] [FloorRing K] [HasSqrt K] [IsStrictOrderedRing K] in
theorem savings_of_some {s : GameContext K σ} {i : Nat} {m : Monster K}
    (hm : s.monsters[i]? = some m) : s.savings i = s.clocks m := by
  rw [savings, hm, Option.map_some, Option.getD_some]

/-- One pass leaves the other monsters what they have, and pays for what it sends. -/
theorem tickMonster_pays {spawns : List (MonsterSpawn K)} (horderly : Orderly spawns)
    {s : GameContext K σ} (hs : Ticking spawns s) (order : IterationOrder) {deltaTime : K}
    (htime : 0 ≤ deltaTime) {i : Nat} (hi : i < s.monsters.length) :
    let s' := tickMonster order deltaTime s i
    Ticking spawns s' ∧ (∀ j, j ≠ i → s'.savings j = s.savings j) ∧
      (s'.sent.length : K) + s'.savings i ≤ s.sent.length + s.savings i + deltaTime := by
  intro s'
  have hm : s.monsters[i]? = some s.monsters[i] := List.getElem?_eq_getElem hi
  set m := s.monsters[i] with hmdef
  obtain ⟨data, hdata, htraits⟩ := hs.bred i m hm
  have hrespawn : 1 ≤ m.respawnSec := by
    have hsec : m.respawnSec = data.respawnSec := congrArg (·.2.2.2.2.2.2) htraits
    exact hsec ▸ horderly.respawn data (List.mem_of_getElem? hdata)
  have hcooldown : m.attackCooldown = GameConstants.Monster.attackCooldown :=
    Monster.traits_attackCooldown htraits
  obtain ⟨m', hpassed⟩ : ∃ m', Passed s s' i deltaTime m m' := by
    by_cases hdead : m.state = .dead
    · exact tickMonster_passed_dead hm hdead (hs.wound i m hm) hrespawn order htime
    · exact tickMonster_passed_live hm hdead (hs.wound i m hm) hcooldown order htime
  have hself : s'.monsters[i]? = some m' := by
    rw [hpassed.monsters]
    exact List.getElem?_set_self hi
  have hother : ∀ j, j ≠ i → s'.monsters[j]? = s.monsters[j]? := by
    intro j hj
    rw [hpassed.monsters]
    exact List.getElem?_set_ne (Ne.symm hj)
  have htimer : ∀ j n, j ≠ i → s.monsters[j]? = some n → s'.syncTimer n = s.syncTimer n := by
    intro j n hj hn
    rw [syncTimer, syncTimer, hpassed.others _ (hs.bred.apart horderly.distinct hj hn hm)]
  refine ⟨⟨?_, ?_, ?_⟩, ?_, ?_⟩
  · intro j n hn
    by_cases hj : j = i
    · subst hj
      obtain rfl := Option.some.inj (hself.symm.trans hn)
      exact ⟨data, hdata, hpassed.traits.trans htraits⟩
    · exact hs.bred j n (hother j hj ▸ hn)
  · rw [hpassed.monsters]
    exact List.length_set.trans hs.count
  · intro j n hn
    by_cases hj : j = i
    · subst hj
      obtain rfl := Option.some.inj (hself.symm.trans hn)
      exact hpassed.wound
    · rw [hother j hj] at hn
      obtain ⟨hattack, hdead, hsync⟩ := hs.wound j n hn
      exact ⟨hattack, hdead, htimer j n hj hn ▸ hsync⟩
  · intro j hj
    cases hn : s.monsters[j]? with
    | none => simp [savings, hother j hj, hn]
    | some n =>
        rw [savings_of_some hn, savings_of_some ((hother j hj).trans hn), clocks, clocks,
          htimer j n hj hn]
  · rw [savings_of_some hself, savings_of_some hm]
    exact hpassed.pays

/-- What all monsters have saved up. -/
def saved (s : GameContext K σ) : K := ∑ i ∈ Finset.range s.monsters.length, s.savings i

/-- The passes before a monster. -/
theorem atPass_pays {spawns : List (MonsterSpawn K)} (horderly : Orderly spawns)
    {s : GameContext K σ} (hs : Ticking spawns s) (order : IterationOrder) {deltaTime : K}
    (htime : 0 ≤ deltaTime) {n : Nat} (hn : n ≤ spawns.length) :
    Ticking spawns (s.atPass order deltaTime n) ∧
      ((s.atPass order deltaTime n).sent.length : K) + (s.atPass order deltaTime n).saved
        ≤ s.sent.length + s.saved + n * deltaTime := by
  induction n with
  | zero => exact ⟨hs, by simp [atPass]⟩
  | succ n ih =>
      obtain ⟨hpass, hpays⟩ := ih (Nat.le_of_succ_le hn)
      set t := s.atPass order deltaTime n with ht
      have hlt : n < t.monsters.length := hpass.count ▸ hn
      obtain ⟨hnext, hothers, hself⟩ := tickMonster_pays horderly hpass order htime hlt
      rw [atPass_succ, ← ht]
      refine ⟨hnext, ?_⟩
      have hsum : (tickMonster order deltaTime t n).saved
          = t.saved + ((tickMonster order deltaTime t n).savings n - t.savings n) := by
        unfold saved
        rw [tickMonster_length]
        exact sum_of_eq_off hlt hothers
      rw [hsum]
      push_cast
      linarith

/-! ## Steps -/

/-- The tick time that a task takes. -/
def tickLength : Label K σ → K
  | .aiTick deltaTime _ => deltaTime
  | _ => 0

/-- The messages that a task sends if it is a tick. -/
def tickMessages (s : GameContext K σ) : Label K σ → Nat
  | .aiTick deltaTime order => (s.aiTick order deltaTime).sent.length - s.sent.length
  | _ => 0

omit [IsStrictOrderedRing K] in
theorem HuntStep.deadTimer {env : GameEnv K} {s : GameContext K σ} {i : Nat} {h h' : Hunt K}
    {label : Label K σ} (hs : HuntStep env s i h label h')
    (untimed : ∀ deltaTime order, label ≠ .aiTick deltaTime order) :
    h'.monster.deadTimer = h.monster.deadTimer := by
  cases hs with
  | aside untimed unanswered => rfl
  | hit gw selected live =>
      unfold Monster.struck
      dsimp only
      split <;> rfl
  | buffed parsed buffs => rfl
  | ticks order tick => exact absurd rfl (untimed _ order)
  | path waypoints answers asked =>
      exact congrArg (·.2.2.1) (h.monster.applyPath_vitals _ _).1

omit [HasSqrt K] [IsStrictOrderedRing K] in
theorem removePlayers_syncTimers (s : GameContext K σ) (accIds : List String) :
    (s.removePlayers accIds).syncTimers = s.syncTimers := by
  induction accIds generalizing s with
  | nil => rfl
  | cons accId rest ih =>
      unfold removePlayers
      split
      · exact ih s
      · exact ih (s.removePlayer accId _)

variable [DecidableEq σ] {env : GameEnv K}

omit [IsStrictOrderedRing K] in
theorem dispatch_syncTimers (s : GameContext K σ) (gw : σ) (id : UInt16) (payload : List UInt8)
    (order : IterationOrder) : (s.dispatch env gw id payload order).syncTimers = s.syncTimers := by
  unfold dispatch
  split
  · unfold handleGatewayGameMoveReq
    cases env.parseMoveReq payload with
    | none => rfl
    | some req =>
        dsimp only
        cases s.playerMap req.accountId <;> rfl
  · split
    · unfold handleGatewayGameLeaveReq
      repeat' split
      all_goals rfl
    · split
      · unfold handleGatewayGameAttackReq
        split
        · rfl
        · split
          · rfl
          · dsimp only
            split <;> rfl
      · unfold handleGatewayGameChatReq
        repeat' split
        all_goals rfl

omit [IsStrictOrderedRing K] in
/-- Only ticks count. -/
theorem step_syncTimers {s s' : GameContext K σ} {label : Label K σ}
    (untimed : ∀ deltaTime order, label ≠ .aiTick deltaTime order)
    (hstep : step env s label = some s') : s'.syncTimers = s.syncTimers := by
  cases step_inv hstep with
  | packet gw id payload order => exact dispatch_syncTimers s gw id payload order
  | gatewayDisconnected gw => exact removePlayers_syncTimers s _
  | worldPacket id payload =>
      unfold worldDispatch handleWorldGameMonsterBuff handleWorldGameTokenNotify
      repeat' split
      all_goals rfl
  | aiTick deltaTime order => exact absurd rfl (untimed deltaTime order)
  | pathResult waypoints asked =>
      unfold pathResult
      split <;> rfl

omit [IsStrictOrderedRing K] in
/-- Without a tick nothing is saved up and nothing is spent. -/
theorem step_saved {spawns : List (MonsterSpawn K)} {s s' : GameContext K σ} {label : Label K σ}
    (hs : Ticking spawns s) (untimed : ∀ deltaTime order, label ≠ .aiTick deltaTime order)
    (hstep : step env s label = some s') : Ticking spawns s' ∧ s'.saved = s.saved := by
  have htimers := step_syncTimers untimed hstep
  have hclocks : ∀ (i : Nat) (m' : Monster K), s'.monsters[i]? = some m' →
      ∃ m, s.monsters[i]? = some m ∧ m'.attackTimer = m.attackTimer ∧
        m'.deadTimer = m.deadTimer ∧ s'.syncTimer m' = s.syncTimer m := by
    intro i m' hm'
    obtain ⟨h', hi', rfl⟩ := exists_hunt hm'
    obtain ⟨h, hi, hhunt⟩ := step_hunt_of hstep hi'
    refine ⟨h.monster, hunt_monster hi, hhunt.attackTimer untimed, hhunt.deadTimer untimed, ?_⟩
    have hid : h'.monster.monsterId = h.monster.monsterId := congrArg (·.1) hhunt.traits
    rw [syncTimer, syncTimer, htimers, hid]
  have hlength := step_length hstep
  refine ⟨⟨step_bred hs.bred hstep, hlength.trans hs.count, ?_⟩, ?_⟩
  · intro i m' hm'
    obtain ⟨m, hm, hattack, hdead, hsync⟩ := hclocks i m' hm'
    obtain ⟨h₁, h₂, h₃⟩ := hs.wound i m hm
    exact ⟨hattack ▸ h₁, hdead ▸ h₂, hsync ▸ h₃⟩
  · unfold saved
    rw [hlength]
    refine Finset.sum_congr rfl fun i hi => ?_
    have hlt : i < s'.monsters.length := hlength ▸ Finset.mem_range.mp hi
    have hm' := List.getElem?_eq_getElem hlt
    obtain ⟨m, hm, hattack, hdead, hsync⟩ := hclocks i _ hm'
    rw [savings_of_some hm', savings_of_some hm, clocks, clocks, hattack, hdead, hsync]

/-- No task sends more, as a tick, than what it brings in and what was saved up. -/
theorem step_pays {spawns : List (MonsterSpawn K)} (horderly : Orderly spawns)
    {s s' : GameContext K σ} {label : Label K σ} (hs : Ticking spawns s)
    (htime : 0 ≤ tickLength label) (hstep : step env s label = some s') :
    Ticking spawns s' ∧
      (s.tickMessages label : K) + s'.saved ≤ s.saved + spawns.length * tickLength label := by
  have huntimed : (∀ deltaTime order, label ≠ .aiTick deltaTime order) →
      tickLength label = (0 : K) → s.tickMessages label = 0 →
      Ticking spawns s' ∧
        (s.tickMessages label : K) + s'.saved ≤ s.saved + spawns.length * tickLength label := by
    intro hno hlength hnone
    obtain ⟨hticking, hsaved⟩ := step_saved hs hno hstep
    rw [hlength, hnone, hsaved]
    exact ⟨hticking, by simp⟩
  cases label with
  | aiTick deltaTime order =>
      obtain rfl := Option.some.inj hstep
      have hlength : (0 : K) ≤ deltaTime := htime
      obtain ⟨hticking, hpays⟩ := atPass_pays horderly hs order hlength hs.count.le
      have hall : s.atPass order deltaTime s.monsters.length = s.aiTick order deltaTime := rfl
      rw [hall] at hticking hpays
      obtain ⟨new, hsent, -⟩ := aiTick_noChat s order deltaTime
      have hcount : s.tickMessages (.aiTick deltaTime order) = new.length := by
        simp [tickMessages, hsent]
      refine ⟨hticking, ?_⟩
      rw [hsent, List.length_append, Nat.cast_add, hs.count] at hpays
      rw [hcount]
      simp only [tickLength]
      linarith
  | packet gw id payload order => exact huntimed (by simp) rfl rfl
  | gatewayDisconnected gw => exact huntimed (by simp) rfl rfl
  | worldPacket id payload => exact huntimed (by simp) rfl rfl
  | pathResult n waypoints => exact huntimed (by simp) rfl rfl

/-! ## Runs -/

omit [HasSqrt K] [DecidableEq σ] [IsStrictOrderedRing K] in
theorem start_syncTimers (spawns : List (MonsterSpawn K)) :
    (start spawns : GameContext K σ).syncTimers = fun _ => none := by
  have hinit : ∀ s : GameContext K σ, (s.initMonsters spawns).syncTimers = s.syncTimers := by
    unfold initMonsters
    induction spawns with
    | nil => exact fun _ => rfl
    | cons data rest ih => exact fun s => ih (s.initMonster data)
  exact hinit _

omit [HasSqrt K] [DecidableEq σ] [IsStrictOrderedRing K] in
/-- The timer of the attack starts full. -/
theorem start_clocks {spawns : List (MonsterSpawn K)} {i : Nat} {m : Monster K}
    (hm : (start spawns : GameContext K σ).monsters[i]? = some m) :
    m.attackTimer = 2 ∧ m.deadTimer = 0 ∧
      (start spawns : GameContext K σ).syncTimer m = 0 := by
  rw [(start_monsters spawns).1, List.getElem?_map] at hm
  obtain ⟨data, -, rfl⟩ := Option.map_eq_some_iff.mp hm
  exact ⟨rfl, rfl, by rw [syncTimer, start_syncTimers, Option.getD_none]⟩

omit [HasSqrt K] [DecidableEq σ] in
theorem start_ticking (spawns : List (MonsterSpawn K)) :
    Ticking spawns (start spawns : GameContext K σ) := by
  refine ⟨start_bred spawns, by rw [(start_monsters spawns).1, List.length_map], ?_⟩
  intro i m hm
  obtain ⟨hattack, hdead, hsync⟩ := start_clocks hm
  exact ⟨hattack ▸ zero_le_two, hdead.ge, hsync.ge⟩

omit [HasSqrt K] [DecidableEq σ] [IsStrictOrderedRing K] in
theorem start_saved (spawns : List (MonsterSpawn K)) :
    (start spawns : GameContext K σ).saved = spawns.length * 2 := by
  have hlength : (start spawns : GameContext K σ).monsters.length = spawns.length := by
    rw [(start_monsters spawns).1, List.length_map]
  have htwo : ∀ i ∈ Finset.range spawns.length,
      (start spawns : GameContext K σ).savings i = 2 := by
    intro i hi
    have hm := List.getElem?_eq_getElem (hlength.symm ▸ Finset.mem_range.mp hi)
    obtain ⟨hattack, hdead, hsync⟩ := start_clocks hm
    rw [savings_of_some hm, clocks, hattack, hdead, hsync, add_zero, add_zero]
  rw [saved, hlength, Finset.sum_congr rfl htwo, Finset.sum_const, Finset.card_range,
    nsmul_eq_mul]

omit [HasSqrt K] [DecidableEq σ] [FloorRing K] in
theorem Ticking.saved_nonneg {spawns : List (MonsterSpawn K)} {s : GameContext K σ}
    (hs : Ticking spawns s) : 0 ≤ s.saved := by
  refine Finset.sum_nonneg fun i hi => ?_
  have hm := List.getElem?_eq_getElem (Finset.mem_range.mp hi)
  obtain ⟨hattack, hdead, hsync⟩ := hs.wound i _ hm
  rw [savings_of_some hm, clocks]
  exact add_nonneg (add_nonneg hattack hdead) hsync

/-- In a run the ticks send at most one message a second and monster, and two more. -/
theorem ticks_frugal (env : GameEnv K) (spawns : List (MonsterSpawn K)) (horderly : Orderly spawns)
    (labels : List (Label K σ)) (htime : ∀ label ∈ labels, 0 ≤ tickLength label) :
    total (step env) (fun s label => (s.tickMessages label : K)) (start spawns) labels
      ≤ spawns.length * (2 + total (step env) (fun _ => tickLength) (start spawns) labels) := by
  have hincome : total (step env) (fun _ label => (spawns.length : K) * tickLength label)
        (start spawns) labels
      = spawns.length * total (step env) (fun _ => tickLength) (start spawns) labels :=
    total_hom (AddMonoidHom.mulLeft (spawns.length : K)) _ _
  calc total (step env) (fun s label => (s.tickMessages label : K)) (start spawns) labels
      ≤ (start spawns : GameContext K σ).saved
          + total (step env) (fun _ label => (spawns.length : K) * tickLength label)
              (start spawns) labels :=
        total_le_of_potential (fun hs hlabel h => (step_pays horderly hs hlabel h).1)
          (fun hs hlabel h => (step_pays horderly hs hlabel h).2) (fun hs => hs.saved_nonneg)
          (start_ticking spawns) htime
    _ = spawns.length * (2 + total (step env) (fun _ => tickLength) (start spawns) labels) := by
        rw [start_saved, hincome, mul_add]

/-- A duel in which the monster hits once. -/
theorem ticks_frugal_firstHit :
    total (step .sample) (fun s label => (s.tickMessages label : ℚ)) (start [HitWatch.dueller])
        HitWatch.firstHit
      ≤ [HitWatch.dueller].length
        * (2 + total (step .sample) (fun _ => tickLength) (start [HitWatch.dueller])
          HitWatch.firstHit) :=
  ticks_frugal .sample [HitWatch.dueller] ⟨by decide, by simp [HitWatch.dueller]⟩ HitWatch.firstHit
    (by simp [HitWatch.firstHit, HitWatch.arrives, HitWatch.beat, tickLength])

end GameContext

end MMOServers.GameServer

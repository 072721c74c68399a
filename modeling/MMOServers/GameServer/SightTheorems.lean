/-
MMOServers.GameServer.SightTheorems — where a player sees a monster.

A client shows a monster where the last message about it has put it. Not every
step is told: the server adds up the ticks in which the monster moved, and sends
its position when they make up `MONSTER_SYNC_INTERVAL`. A monster that stops
before is not told about at all, so that what the client shows may be out of date
for good.

It is out of date by what a monster walks in an interval, at most, and two
`POSITION_EPSILON` (`always_sighted`), as long as the player is around the monster
at the end of each of its passes. The epsilons are for the end of a way back, which
may be too short to be noticed. They do not add up, since a way back always ends at
the same point, and so `Shown` remembers how far the spawn point is from where
the player sees the monster.
-/
import MMOServers.GameServer.GlideTheorems
import MMOServers.GameServer.Telling
import MMOServers.GameServer.TrafficTheorems

namespace MMOServers.GameServer

open MMOServers.Common Transition

/-! ## What is told -/

section Tells

variable {K σ : Type}

/-- The position that a message tells the account under a name. -/
def Outgoing.tells (accId name : String) (o : Outgoing K σ) : Option (Vector3 K) :=
  match o.message with
  | .moveRes m =>
      if m.accountId = name ∧ accId ∈ m.targetAccountIds then some ⟨m.x, m.y, m.z⟩ else none
  | _ => none

/-- Where the account sees what has the name, when it was seen at a point before
    the messages. -/
def seen (accId name : String) (first : Vector3 K) (new : List (Outgoing K σ)) : Vector3 K :=
  (new.findSome? (·.tells accId name)).getD first

theorem seen_cons_some {accId name : String} {first p : Vector3 K} {o : Outgoing K σ}
    (h : o.tells accId name = some p) (new : List (Outgoing K σ)) :
    seen accId name first (o :: new) = p := by
  rw [seen, List.findSome?_cons, h]
  rfl

theorem seen_append_none {accId name : String} {first : Vector3 K} {more : List (Outgoing K σ)}
    (h : ∀ o ∈ more, o.tells accId name = none) (new : List (Outgoing K σ)) :
    seen accId name first (more ++ new) = seen accId name first new := by
  rw [seen, List.findSome?_append, List.findSome?_eq_none_iff.mpr h, Option.none_or, seen]

end Tells

namespace GameContext

variable {K σ : Type}

/-- The accounts around a point. -/
def around {F : Type} [IntCast F] [Div F] [LT F] [LE F] [DecidableLT F] [DecidableLE F]
    [TruncInt F] (s : GameContext F σ) (order : IterationOrder) (x y : F) : List String :=
  s.accounts (s.zone.getPlayersInAOI order x y)

/-- What has been sent since tells the account nothing under the name. -/
abbrev Untold (accId name : String) (s s' : GameContext K σ) : Prop :=
  Sends (·.tells accId name = none) s s'

variable [Field K] [LinearOrder K] [FloorRing K]

section Others

variable {accId name : String} (hname : accId ≠ name)

include hname

/-- A player is told about its own way home, and under its own name. -/
theorem attackPlayer_untold (s : GameContext K σ) (order : IterationOrder)
    (attackerUid targetUid : Nat) (damage : Int) :
    Untold accId name s (s.attackPlayer order attackerUid targetUid damage) := by
  unfold attackPlayer
  split
  · exact .of_eq rfl
  · rename_i target p hplayer
    dsimp only
    split
    · refine Sends.trans (.of_cons rfl rfl) (.of_cons ?_ rfl)
      simp only [Outgoing.tells, Outgoing.message, List.mem_singleton]
      rw [if_neg]
      rintro ⟨rfl, rfl⟩
      exact hname rfl
    · exact .of_cons rfl rfl

theorem perform_untold (s : GameContext K σ) (order : IterationOrder) (i : Nat)
    (calls : List (MonsterCall K)) : Untold accId name s (s.perform order i calls) :=
  have hkept : ∀ {s s' : GameContext K σ}, PlayersKept s s' → True → True := fun _ => id
  (perform_sends hkept (fun attackerUid targetUid damage _ =>
    ⟨trivial, attackPlayer_untold hname _ order attackerUid targetUid damage⟩) trivial i calls).2

variable [HasSqrt K]

theorem afterUpdate_untold (s : GameContext K σ) (order : IterationOrder) (deltaTime : K)
    (i : Nat) (m : Monster K) :
    Untold accId name s (s.afterUpdate order deltaTime i m) := by
  have hset : ∀ (t : GameContext K σ) (n : Monster K) (calls : List (MonsterCall K)),
      Untold accId name t ((t.setMonster i n).perform order i calls) :=
    fun t n calls =>
      Sends.trans (.of_eq rfl) (perform_untold hname (t.setMonster i n) order i calls)
  exact (hset s _ _).trans (hset (s.afterAim order i m) _ _)

end Others

/-! ## The pass of another monster -/

section Aside

variable {accId : String} {id : Nat}

theorem syncMonsterPosition_aside (s : GameContext K σ) (order : IterationOrder) {m : Monster K}
    (hid : id ≠ m.monsterId) (oldX oldY deltaTime : K) :
    let s' := s.syncMonsterPosition order m oldX oldY deltaTime
    Untold accId (monsterName id) s s' ∧ s'.syncTimers id = s.syncTimers id := by
  have hother : ¬ (monsterName m.monsterId = monsterName id) :=
    fun h => hid (monsterName_injective h).symm
  have htells : ∀ (t : GameContext K σ) (uids : List Nat),
      (.broadcast (t.monsterMoveRes m uids) : Outgoing K σ).tells accId (monsterName id) = none :=
    fun t uids => if_neg fun h => hother h.1
  have htwice : ∀ v w, Function.update (Function.update s.syncTimers m.monsterId v) m.monsterId w id
      = s.syncTimers id := by
    intro v w
    rw [Function.update_idem, Function.update_of_ne hid]
  unfold syncMonsterPosition
  dsimp only
  repeat' split
  · exact ⟨.of_eq rfl, rfl⟩
  · exact ⟨.of_eq rfl, Function.update_of_ne hid _ _⟩
  · exact ⟨.of_eq rfl, htwice _ _⟩
  · exact ⟨.of_cons (htells _ _) rfl, htwice _ _⟩

theorem processDeadMonster_aside (s : GameContext K σ) (order : IterationOrder) (i : Nat)
    {m : Monster K} (hid : id ≠ m.monsterId) (deltaTime : K) :
    let s' := s.processDeadMonster order i m deltaTime
    Untold accId (monsterName id) s s' ∧ s'.syncTimers id = s.syncTimers id := by
  have hother : ¬ (monsterName m.monsterId = monsterName id) :=
    fun h => hid (monsterName_injective h).symm
  unfold processDeadMonster
  dsimp only
  repeat' split
  · exact ⟨.of_eq rfl, rfl⟩
  · exact ⟨.of_eq rfl, rfl⟩
  · refine ⟨.of_cons ?_ rfl, rfl⟩
    exact if_neg fun h => hother h.1

variable [HasSqrt K]

/-- The pass of a monster tells nothing about one with another id. -/
theorem tickMonster_aside (hname : accId ≠ monsterName id) {s : GameContext K σ} {j : Nat}
    (hid : ∀ m, s.monsters[j]? = some m → id ≠ m.monsterId) (order : IterationOrder)
    (deltaTime : K) :
    Untold accId (monsterName id) s (tickMonster order deltaTime s j) ∧
      (tickMonster order deltaTime s j).syncTimers id = s.syncTimers id := by
  cases hm : s.monsters[j]? with
  | none =>
      have hstands : tickMonster order deltaTime s j = s := by simp only [tickMonster, hm]
      rw [hstands]
      exact ⟨.of_eq rfl, rfl⟩
  | some m =>
      by_cases hdead : m.state = .dead
      · simp only [tickMonster, hm, if_pos hdead]
        exact s.processDeadMonster_aside order j (hid m hm) deltaTime
      · rw [tickMonster_eq_sync hm hdead]
        have hsame : ((s.aimOf order m).1.update deltaTime).1.monsterId = m.monsterId :=
          congrArg (·.1) (((s.aimOf order m).1.update_traits deltaTime).trans
            (s.aimOf_aims order hdead).traits)
        have hother : id ≠ ((s.aimOf order m).1.update deltaTime).1.monsterId :=
          hsame.symm ▸ hid m hm
        have hafter := s.afterUpdate_untold hname order deltaTime j m
        obtain ⟨hsent, htimer⟩ := (s.afterUpdate order deltaTime j m).syncMonsterPosition_aside
          order hother m.position.x m.position.y deltaTime
        refine ⟨hafter.trans hsent, htimer.trans ?_⟩
        rw [(s.afterUpdate_length order deltaTime j hdead).2]

end Aside

/-! ## The pass of the monster itself -/

/-- What looking at the position of a monster comes to, for an account around it. -/
inductive Synced (accId : String) (s s' : GameContext K σ) (m : Monster K)
    (oldX oldY deltaTime : K) : Prop where
  | unnoticed (dx : |oldX - m.position.x| ≤ GameConstants.AI.positionEpsilon)
      (dy : |oldY - m.position.y| ≤ GameConstants.AI.positionEpsilon)
      (sent : s'.sent = s.sent) (timer : s'.syncTimer m = s.syncTimer m)
  | counted (sent : s'.sent = s.sent) (timer : s'.syncTimer m = s.syncTimer m + deltaTime)
  | told (o : Outgoing K σ) (tells : o.tells accId (monsterName m.monsterId) = some m.position)
      (sent : s'.sent = o :: s.sent) (timer : s'.syncTimer m = 0)

theorem syncMonsterPosition_synced {s : GameContext K σ} {order : IterationOrder} {m : Monster K}
    {oldX oldY deltaTime : K} {accId : String}
    (haround : accId ∈ (s.syncMonsterPosition order m oldX oldY deltaTime).around order
      m.position.x m.position.y) :
    Synced accId s (s.syncMonsterPosition order m oldX oldY deltaTime) m oldX oldY deltaTime := by
  unfold syncMonsterPosition at haround ⊢
  dsimp only at haround ⊢
  split
  · rename_i hstill
    exact .unnoticed hstill.1 hstill.2 rfl rfl
  · rename_i hmoved
    rw [if_neg hmoved] at haround
    split
    · exact .counted rfl (by simp [syncTimer])
    · rename_i hfull
      rw [if_neg hfull] at haround
      split
      · rename_i hnobody
        rw [if_pos hnobody] at haround
        simp [around, accounts, hnobody] at haround
      · rename_i hsomebody
        rw [if_neg hsomebody] at haround
        refine .told _ ?_ rfl (by simp [syncTimer, broadcastToGateways])
        exact if_pos ⟨rfl, haround⟩

/-- A dead monster waits, or it is back and the account is told. -/
theorem processDeadMonster_synced {s : GameContext K σ} {order : IterationOrder} {i : Nat}
    {m m' : Monster K} (hm : s.monsters[i]? = some m) {deltaTime : K} {accId : String}
    (hm' : (s.processDeadMonster order i m deltaTime).monsters[i]? = some m')
    (haround : accId ∈ (s.processDeadMonster order i m deltaTime).around order
      m'.position.x m'.position.y) :
    let s' := s.processDeadMonster order i m deltaTime
    s'.syncTimers = s.syncTimers ∧
      (m'.position = m.position ∧ s'.sent = s.sent ∨
        ∃ o, o.tells accId (monsterName m.monsterId) = some m'.position ∧
          s'.sent = o :: s.sent) := by
  obtain ⟨hlt, -⟩ := List.getElem?_eq_some_iff.mp hm
  have hset : ∀ n : Monster K, (s.setMonster i n).monsters[i]? = some m' → n = m' := by
    intro n hn
    rw [setMonster, List.getElem?_set_self hlt] at hn
    exact Option.some.inj hn
  unfold processDeadMonster at hm' haround ⊢
  dsimp only at hm' haround ⊢
  split
  · rename_i hearly
    rw [if_pos hearly] at hm'
    exact ⟨rfl, Or.inl ⟨congrArg (·.position) (hset _ hm').symm, rfl⟩⟩
  · rename_i hdue
    rw [if_neg hdue] at hm' haround
    split
    · rename_i hnobody
      rw [if_pos hnobody] at hm' haround
      rw [← hset _ hm', around, accounts, hnobody] at haround
      cases haround
    · rename_i hsomebody
      rw [if_neg hsomebody] at hm' haround
      obtain rfl := hset _ hm'
      refine ⟨rfl, Or.inr ⟨_, ?_, rfl⟩⟩
      exact if_pos ⟨rfl, haround⟩

end GameContext

/-! ## How far a monster gets -/

theorem Vector3.Within.mono {r r' : ℝ} {p q : Vector3 ℝ} (h : p.Within r q) (hr : r ≤ r') :
    p.Within r' q := ⟨h.1, h.2.trans hr⟩

theorem Vector3.Within.trans {r r' : ℝ} {p q t : Vector3 ℝ} (h : p.Within r q)
    (h' : q.Within r' t) : p.Within (r + r') t := by
  refine ⟨h'.1.trans h.1, ?_⟩
  calc distance (t.x - p.x) (t.y - p.y)
      = distance ((t.x - q.x) + (q.x - p.x)) ((t.y - q.y) + (q.y - p.y)) := by
        rw [sub_add_sub_cancel, sub_add_sub_cancel]
    _ ≤ distance (t.x - q.x) (t.y - q.y) + distance (q.x - p.x) (q.y - p.y) :=
        distance_triangle _ _ _ _
    _ ≤ r + r' := by
        rw [add_comm]
        exact add_le_add h.2 h'.2

/-- The way around the corner is longer. -/
theorem distance_le_abs (dx dy : ℝ) : distance dx dy ≤ |dx| + |dy| := by
  have hswap : distance 0 dy = |dy| := by
    rw [← distance_axis dy]
    show Real.sqrt (0 * 0 + dy * dy) = Real.sqrt (dy * dy + 0 * 0)
    rw [add_comm]
  calc distance dx dy = distance (dx + 0) (0 + dy) := by rw [add_zero, zero_add]
    _ ≤ distance dx 0 + distance 0 dy := distance_triangle _ _ _ _
    _ = |dx| + |dy| := by rw [distance_axis, hswap]

namespace Monster

/-- What an update does to a position: nothing, a step as long as the tick, or the end of a way
    back. -/
inductive Moves (m m' : Monster ℝ) (deltaTime : ℝ) : Prop where
  | stands (h : m'.position = m.position)
  | walks (h : distance (m'.position.x - m.position.x) (m'.position.y - m.position.y)
      = GameConstants.Monster.moveSpeed * deltaTime)
  | arrives (h : m'.position = m.spawnPosition)

theorem moveTowards_walks (m : Monster ℝ) {dx dy deltaTime : ℝ}
    (hfar : ¬ distance dx dy < GameConstants.AI.waypointEpsilon) (htime : 0 ≤ deltaTime) :
    m.Moves (m.moveTowards dx dy (distance dx dy) deltaTime) deltaTime := by
  have hpos : 0 < distance dx dy := by
    refine lt_of_lt_of_le ?_ (not_lt.mp hfar)
    norm_num [GameConstants.AI.waypointEpsilon]
  refine .walks ?_
  set step := GameConstants.Monster.moveSpeed * deltaTime with hstep
  have hlength : 0 ≤ step / distance dx dy := div_nonneg (speed_nonneg htime) hpos.le
  calc distance (m.position.x + dx / distance dx dy * GameConstants.Monster.moveSpeed * deltaTime
          - m.position.x)
        (m.position.y + dy / distance dx dy * GameConstants.Monster.moveSpeed * deltaTime
          - m.position.y)
      = distance (step / distance dx dy * dx) (step / distance dx dy * dy) := by
        congr 1 <;> ring
    _ = step / distance dx dy * distance dx dy := by rw [distance_scale, abs_of_nonneg hlength]
    _ = step := div_mul_cancel₀ _ hpos.ne'

theorem update_moves (m : Monster ℝ) {deltaTime : ℝ} (htime : 0 ≤ deltaTime) :
    m.Moves (m.update deltaTime).1 deltaTime := by
  unfold update
  cases m.state with
  | idle => exact .stands rfl
  | attack => exact .stands (updateAttack_position m deltaTime)
  | dead => exact .stands rfl
  | chase =>
      dsimp only [updateChase]
      split
      · exact .stands rfl
      · split
        · exact .stands rfl
        · split
          · exact .stands rfl
          · exact m.moveTowards_walks ‹_› htime
  | «return» =>
      dsimp only [updateReturn]
      split
      · exact .arrives rfl
      · split
        · exact .stands rfl
        · exact m.moveTowards_walks ‹_› htime

end Monster

/-! ## Following a monster -/

/-- What may go by unnoticed. -/
noncomputable def unnoticed : ℝ :=
  GameConstants.AI.positionEpsilon + GameConstants.AI.positionEpsilon

/-- The monster is not farther from where it is seen than it can have walked since,
    if it has not come home unnoticed in the meantime. -/
structure Shown (timer : ℝ) (p : Vector3 ℝ) (m : Monster ℝ) : Prop where
  near : p.Within (GameConstants.Monster.moveSpeed * timer + unnoticed) m.position
  walked : p.Within (GameConstants.Monster.moveSpeed * timer) m.position ∨
    p.Within (GameConstants.Monster.moveSpeed * timer + unnoticed) m.spawnPosition

theorem unnoticed_nonneg : 0 ≤ unnoticed := by
  norm_num [unnoticed, GameConstants.AI.positionEpsilon]

namespace Shown

variable {timer deltaTime : ℝ} {p : Vector3 ℝ} {m m' : Monster ℝ}

theorem told (htimer : 0 ≤ timer) (m : Monster ℝ) : Shown timer m.position m := by
  have hhere : m.position.Within (GameConstants.Monster.moveSpeed * timer) m.position :=
    Vector3.Within.refl (Monster.speed_nonneg htimer) _
  exact ⟨hhere.mono (le_add_of_nonneg_right unnoticed_nonneg), Or.inl hhere⟩

theorem stands (h : Shown timer p m) (hplace : m'.position = m.position)
    (hhome : m'.spawnPosition = m.spawnPosition) : Shown timer p m' :=
  ⟨hplace ▸ h.near, by rw [hplace, hhome]; exact h.walked⟩

theorem walks (h : Shown timer p m) (htime : 0 ≤ deltaTime)
    (hstep : m.position.Within (GameConstants.Monster.moveSpeed * deltaTime) m'.position)
    (hhome : m'.spawnPosition = m.spawnPosition) : Shown (timer + deltaTime) p m' := by
  have hlonger : GameConstants.Monster.moveSpeed * timer
      ≤ GameConstants.Monster.moveSpeed * (timer + deltaTime) := by
    rw [mul_add]
    exact le_add_of_nonneg_right (Monster.speed_nonneg htime)
  constructor
  · refine (h.near.trans hstep).mono (le_of_eq ?_)
    ring
  · rcases h.walked with hwalked | harrived
    · refine Or.inl ((hwalked.trans hstep).mono (le_of_eq ?_))
      ring
    · rw [hhome]
      exact Or.inr (harrived.mono (add_le_add_left hlonger _))

/-- The end of a way back that is not noticed. -/
theorem arrives (h : Shown timer p m) (hplace : m'.position = m.spawnPosition)
    (hnear : m.position.Within unnoticed m'.position)
    (hhome : m'.spawnPosition = m.spawnPosition) : Shown timer p m' := by
  have hthere : p.Within (GameConstants.Monster.moveSpeed * timer + unnoticed)
      m.spawnPosition := by
    rcases h.walked with hwalked | harrived
    · exact hplace ▸ hwalked.trans hnear
    · exact harrived
  exact ⟨hplace ▸ hthere, Or.inr (hhome ▸ hthere)⟩

end Shown

namespace GameContext

variable {σ : Type}

/-! ## A tick -/

/-- Ticks are as long as the timer is set for, at least. -/
theorem tick_long {deltaTime : ℝ}
    (htick : (GameConstants.AI.tickIntervalMs : ℝ) / 1000 ≤ deltaTime) : 1 / 10 ≤ deltaTime := by
  norm_num [GameConstants.AI.tickIntervalMs] at htick
  linarith

/-- A path that is used up while the path home is awaited is not far from home. -/
def HomeBy (h : Hunt ℝ) (deltaTime : ℝ) : Prop :=
  h.monster.state = .return → h.monster.currentPath[h.monster.pathIndex]? = none → h.Awaits →
    distance (h.monster.spawnPosition.x - h.monster.position.x)
        (h.monster.spawnPosition.y - h.monster.position.y)
      ≤ max (GameConstants.Monster.moveSpeed * deltaTime) GameConstants.AI.waypointEpsilon

theorem updated_within {h : Hunt ℝ} (hh : Homing h) {deltaTime : ℝ} (htime : 1 / 10 ≤ deltaTime)
    (hhome : HomeBy h deltaTime) :
    h.monster.position.Within (GameConstants.Monster.moveSpeed * deltaTime)
      (h.monster.update deltaTime).1.position := by
  rcases (update_glides_iff hh (by linarith)).mpr hhome with hwithin | ⟨-, -, -, hwithin⟩
  · exact hwithin
  · refine hwithin.mono ?_
    norm_num [GameConstants.AI.waypointEpsilon, GameConstants.Monster.moveSpeed]
    linarith

/-- A step is noticed. -/
theorem updated_unnoticed {m m' : Monster ℝ} (hlevel : m.position.z = m.spawnPosition.z)
    {deltaTime : ℝ} (htime : 1 / 10 ≤ deltaTime) (hmoves : m.Moves m' deltaTime)
    (hhome : m'.spawnPosition = m.spawnPosition)
    (hdx : |m.position.x - m'.position.x| ≤ GameConstants.AI.positionEpsilon)
    (hdy : |m.position.y - m'.position.y| ≤ GameConstants.AI.positionEpsilon)
    {timer : ℝ} {p : Vector3 ℝ} (hp : Shown timer p m) : Shown timer p m' := by
  have hnear : distance (m'.position.x - m.position.x) (m'.position.y - m.position.y)
      ≤ unnoticed := by
    rw [abs_sub_comm] at hdx hdy
    exact (distance_le_abs _ _).trans (add_le_add hdx hdy)
  cases hmoves with
  | stands hplace => exact hp.stands hplace hhome
  | walks hwalks =>
      rw [hwalks] at hnear
      norm_num [unnoticed, GameConstants.AI.positionEpsilon,
        GameConstants.Monster.moveSpeed] at hnear
      linarith
  | arrives hplace =>
      refine hp.arrives hplace ⟨?_, hnear⟩ hhome
      rw [hplace]
      exact hlevel.symm

section Pass

variable {s : GameContext ℝ σ} {i : Nat} {h h' : Hunt ℝ} (hi : s.hunt i = some h)
  {order : IterationOrder} {deltaTime : ℝ}
  (hi' : (tickMonster order deltaTime s i).hunt i = some h') {accId : String}
  (haround : accId ∈ (tickMonster order deltaTime s i).around order h'.monster.position.x
    h'.monster.position.y)
  {first : Vector3 ℝ} {old : List (Outgoing ℝ σ)}
  (hp : Shown (s.syncTimer h.monster)
    (seen accId (monsterName h.monster.monsterId) first old) h.monster)

include hi hi' haround hp

theorem tickMonster_shown_dead (hdead : h.monster.state = .dead)
    (htimer : 0 ≤ s.syncTimer h.monster) :
    ∃ new, (tickMonster order deltaTime s i).sent = new ++ s.sent ∧
      Shown ((tickMonster order deltaTime s i).syncTimer h'.monster)
        (seen accId (monsterName h.monster.monsterId) first (new ++ old)) h'.monster := by
  have hm := hunt_monster hi
  obtain ⟨h'', hi'', hstep⟩ := tickMonster_hunt_self hi order deltaTime
  obtain rfl := Option.some.inj (hi'.symm.trans hi'')
  have hid : h'.monster.monsterId = h.monster.monsterId := congrArg (·.1) hstep.traits
  have htick : tickMonster order deltaTime s i
      = s.processDeadMonster order i h.monster deltaTime := by
    simp only [tickMonster, hm, if_pos hdead]
  rw [htick] at haround hi' ⊢
  obtain ⟨htimers, ⟨hplace, hsent⟩ | ⟨o, htells, hsent⟩⟩ :=
    processDeadMonster_synced hm (hunt_monster hi') haround
  · refine ⟨[], hsent, ?_⟩
    rw [syncTimer, htimers, hid]
    exact hp.stands hplace (Monster.traits_spawnPosition hstep.traits)
  · refine ⟨[o], hsent, ?_⟩
    rw [syncTimer, htimers, hid, List.singleton_append, seen_cons_some htells]
    exact Shown.told htimer h'.monster

theorem tickMonster_shown_live (hlive : h.monster.state ≠ .dead) (hh : Homing h)
    (htime : 1 / 10 ≤ deltaTime)
    (hhome : HomeBy ⟨(s.aimOf order h.monster).1,
      h.pending ++ pathRequests (s.aimOf order h.monster).2⟩ deltaTime)
    (hname : accId ≠ monsterName h.monster.monsterId) :
    ∃ new, (tickMonster order deltaTime s i).sent = new ++ s.sent ∧
      Shown ((tickMonster order deltaTime s i).syncTimer h'.monster)
        (seen accId (monsterName h.monster.monsterId) first (new ++ old)) h'.monster := by
  have hm := hunt_monster hi
  have haims := s.aimOf_aims order hlive
  set r := s.aimOf order h.monster with hr
  have hm' : h'.monster = (r.1.update deltaTime).1 :=
    congrArg (·.monster) (Option.some.inj (hi'.symm.trans (tickMonster_live hi hlive order _)))
  have htraits : h'.monster.traits = h.monster.traits :=
    (congrArg _ hm').trans ((r.1.update_traits deltaTime).trans haims.traits)
  have hid : h'.monster.monsterId = h.monster.monsterId := congrArg (·.1) htraits
  -- looking for a target moves nobody
  have hplace := haims.position
  have hhere := Monster.traits_spawnPosition htraits
  have hwithin := updated_within (hh.aims haims) htime hhome
  have hmoves : h.monster.Moves h'.monster deltaTime := by
    have hupdate := r.1.update_moves (show 0 ≤ deltaTime by linarith)
    rw [← hm'] at hupdate
    cases hupdate with
    | stands hstands => exact .stands (hstands.trans hplace)
    | walks hwalks => exact .walks (hplace ▸ hwalks)
    | arrives harrives =>
        exact .arrives (harrives.trans (Monster.traits_spawnPosition haims.traits))
  rw [← hm', hplace] at hwithin
  -- nor does what is sent before the position tell where the monster is
  obtain ⟨new, hnew, hnone⟩ := s.afterUpdate_untold hname order deltaTime i h.monster
  have htimers := (s.afterUpdate_length order deltaTime i hlive).2
  rw [tickMonster_eq_sync hm hlive, ← hr, ← hm'] at haround ⊢
  set t := s.afterUpdate order deltaTime i h.monster with ht
  have htimer : t.syncTimer h'.monster = s.syncTimer h.monster := by
    rw [syncTimer, syncTimer, htimers, hid]
  have hold : seen accId (monsterName h.monster.monsterId) first (new ++ old) =
      seen accId (monsterName h.monster.monsterId) first old := seen_append_none hnone old
  cases syncMonsterPosition_synced haround with
  | unnoticed dx dy sent timer =>
      refine ⟨new, sent.trans hnew, ?_⟩
      rw [timer, htimer, hold]
      exact updated_unnoticed hh.level htime hmoves hhere dx dy hp
  | counted sent timer =>
      refine ⟨new, sent.trans hnew, ?_⟩
      rw [timer, htimer, hold]
      exact hp.walks (by linarith) hwithin hhere
  | told o tells sent timer =>
      refine ⟨o :: new, by rw [sent, hnew, List.cons_append], ?_⟩
      rw [timer, List.cons_append, seen_cons_some (hid ▸ tells)]
      exact Shown.told le_rfl h'.monster

end Pass

/-! ## The passes around it -/

/-- The passes of the other monsters leave a monster as it is, and tell nothing
    about it. -/
theorem atPass_aside {s : GameContext ℝ σ} {accId : String} {i id : Nat}
    (hname : accId ≠ monsterName id)
    (hothers : ∀ j m, j ≠ i → s.monsters[j]? = some m → id ≠ m.monsterId)
    (order : IterationOrder) (deltaTime : ℝ) {a b : Nat} (hab : a ≤ b) (hout : i < a ∨ b ≤ i) :
    Untold accId (monsterName id) (s.atPass order deltaTime a) (s.atPass order deltaTime b) ∧
      (s.atPass order deltaTime b).syncTimers id = (s.atPass order deltaTime a).syncTimers id ∧
      (s.atPass order deltaTime b).hunt i = (s.atPass order deltaTime a).hunt i := by
  induction b, hab using Nat.le_induction with
  | base => exact ⟨.of_eq rfl, rfl, rfl⟩
  | succ b hab ih =>
      have hb : b ≠ i := by omega
      obtain ⟨hsent, htimer, hhunt⟩ := ih (by omega)
      obtain ⟨hsent', htimer'⟩ := tickMonster_aside hname (j := b) (fun m hm => by
        obtain ⟨h, hh, rfl⟩ := exists_hunt hm
        exact hothers b h.monster hb
          (hunt_monster ((s.atPass_hunt order deltaTime b).symm.trans hh)))
        order deltaTime
      rw [atPass_succ]
      exact ⟨hsent.trans hsent', htimer'.trans htimer,
        (tickMonster_hunt_other _ order deltaTime hb).trans hhunt⟩

/-- The account is around the monster at the end of its pass. -/
def Attends (accId : String) (i : Nat) (s : GameContext ℝ σ) : Label ℝ σ → Prop
  | .aiTick deltaTime order => ∀ m, (s.atPass order deltaTime (i + 1)).monsters[i]? = some m →
      accId ∈ (s.atPass order deltaTime (i + 1)).around order m.position.x m.position.y
  | _ => True

theorem aiTick_shown {s : GameContext ℝ σ} {i : Nat} {h h' : Hunt ℝ} (hi : s.hunt i = some h)
    (hh : Homing h) {order : IterationOrder} {deltaTime : ℝ} (htime : 1 / 10 ≤ deltaTime)
    (hinTime : s.HomeInTime (.aiTick deltaTime order)) (htimer : 0 ≤ s.syncTimer h.monster)
    (hi' : (s.aiTick order deltaTime).hunt i = some h') {accId : String}
    (hname : accId ≠ monsterName h.monster.monsterId)
    (hothers : ∀ j m, j ≠ i → s.monsters[j]? = some m → h.monster.monsterId ≠ m.monsterId)
    (hattends : Attends accId i s (.aiTick deltaTime order)) {first : Vector3 ℝ}
    {old : List (Outgoing ℝ σ)}
    (hp : Shown (s.syncTimer h.monster)
      (seen accId (monsterName h.monster.monsterId) first old) h.monster) :
    ∃ new, (s.aiTick order deltaTime).sent = new ++ s.sent ∧
      Shown ((s.aiTick order deltaTime).syncTimer h'.monster)
        (seen accId (monsterName h.monster.monsterId) first (new ++ old)) h'.monster := by
  have hlt : i < s.monsters.length := (List.getElem?_eq_some_iff.mp (hunt_monster hi)).1
  -- the passes before
  obtain ⟨⟨new₁, hsent₁, hnone₁⟩, htimer₁, hhunt₁⟩ := atPass_aside hname hothers order deltaTime
    (Nat.zero_le i) (Or.inr le_rfl)
  have hzero : s.atPass order deltaTime 0 = s := rfl
  rw [hzero] at hsent₁ htimer₁ hhunt₁
  have hpass := hhunt₁.trans hi
  have htimer₁' : (s.atPass order deltaTime i).syncTimer h.monster = s.syncTimer h.monster := by
    rw [syncTimer, syncTimer, htimer₁]
  -- the passes after
  obtain ⟨⟨new₃, hsent₃, hnone₃⟩, htimer₃, hhunt₃⟩ := atPass_aside hname hothers order deltaTime
    (Nat.succ_le_of_lt hlt) (Or.inl (Nat.lt_succ_self i))
  have hall : s.atPass order deltaTime s.monsters.length = s.aiTick order deltaTime := rfl
  rw [hall] at hsent₃ htimer₃ hhunt₃
  have hown := hhunt₃.symm.trans hi'
  rw [atPass_succ] at hown
  have hid : h'.monster.monsterId = h.monster.monsterId := by
    obtain ⟨h'', hi'', hstep⟩ := tickMonster_hunt_self hpass order deltaTime
    obtain rfl := Option.some.inj (hown.symm.trans hi'')
    exact congrArg (·.1) hstep.traits
  have haround := hattends h'.monster (by rw [atPass_succ]; exact hunt_monster hown)
  rw [atPass_succ] at haround
  have hseen₁ : Shown ((s.atPass order deltaTime i).syncTimer h.monster)
      (seen accId (monsterName h.monster.monsterId) first (new₁ ++ old)) h.monster := by
    rw [htimer₁', seen_append_none hnone₁]
    exact hp
  obtain ⟨new₂, hsent₂, hseen₂⟩ : ∃ new,
      (tickMonster order deltaTime (s.atPass order deltaTime i) i).sent
        = new ++ (s.atPass order deltaTime i).sent ∧
      Shown ((tickMonster order deltaTime (s.atPass order deltaTime i) i).syncTimer h'.monster)
        (seen accId (monsterName h.monster.monsterId) first (new ++ (new₁ ++ old)))
        h'.monster := by
    by_cases hdead : h.monster.state = .dead
    · exact tickMonster_shown_dead hpass hown haround hseen₁ hdead (htimer₁' ▸ htimer)
    · exact tickMonster_shown_live hpass hown haround hseen₁ hdead hh htime
        (hinTime i h hi hdead) hname
  refine ⟨new₃ ++ (new₂ ++ new₁), ?_, ?_⟩
  · rw [hsent₃, atPass_succ, hsent₂, hsent₁, List.append_assoc, List.append_assoc]
  · have htimer₃' : (s.aiTick order deltaTime).syncTimer h'.monster
        = (tickMonster order deltaTime (s.atPass order deltaTime i) i).syncTimer h'.monster := by
      rw [syncTimer, syncTimer, hid, htimer₃, atPass_succ]
    rw [htimer₃', List.append_assoc, seen_append_none hnone₃, List.append_assoc]
    exact hseen₂

/-! ## Other tasks -/

/-- Without a tick a monster stays where it is. -/
theorem HuntStep.position {K : Type} [Field K] [LinearOrder K] [FloorRing K] [HasSqrt K]
    {env : GameEnv K} {s : GameContext K σ} {i : Nat} {h h' : Hunt K} {label : Label K σ}
    (hs : HuntStep env s i h label h')
    (untimed : ∀ deltaTime order, label ≠ .aiTick deltaTime order) :
    h'.monster.position = h.monster.position := by
  cases hs with
  | aside untimed unanswered => rfl
  | hit gw selected live =>
      unfold Monster.struck
      dsimp only
      split <;> rfl
  | buffed parsed buffs => rfl
  | ticks order tick => exact absurd rfl (untimed _ order)
  | path waypoints answers asked =>
      unfold Monster.applyPath
      repeat' split
      all_goals rfl

variable [DecidableEq σ] {env : GameEnv ℝ}

/-- Only ticks tell where a monster is. -/
theorem step_untold {s s' : GameContext ℝ σ} {label : Label ℝ σ}
    (untimed : ∀ deltaTime order, label ≠ .aiTick deltaTime order)
    (hplayer : NamesPlayer env label) (accId : String) (id : Nat)
    (hstep : step env s label = some s') : Untold accId (monsterName id) s s' := by
  cases step_inv hstep with
  | packet gw pktId payload order =>
      unfold dispatch
      split
      · rename_i hmove
        cases hreq : env.parseMoveReq payload with
        | none =>
            simp only [handleGatewayGameMoveReq, hreq]
            exact .of_eq rfl
        | some req =>
            have hname : Nameable req.accountId := by
              refine hplayer req ?_
              rw [moveOf, if_pos hmove, hreq]
            refine .of_cons ?_ (handleGatewayGameMoveReq_answer s gw order hreq)
            exact if_neg fun h => hname id h.1
      · split
        · unfold handleGatewayGameLeaveReq
          repeat' split
          all_goals exact .of_eq rfl
        · split
          · unfold handleGatewayGameAttackReq
            split
            · exact .of_eq rfl
            · split
              · exact .of_eq rfl
              · dsimp only
                split
                · exact .of_cons rfl rfl
                · exact .of_cons rfl rfl
          · split
            · obtain hsent | ⟨req, targets, -, hsent⟩ :
                  (s.handleGatewayGameChatReq env gw order payload).sent = s.sent ∨ _ :=
                chatReq_sends s gw order payload
              · exact .of_eq hsent
              · exact .of_cons rfl hsent
            · exact .of_eq rfl
  | gatewayDisconnected gw => exact .of_eq (removePlayers_sent s _)
  | worldPacket pktId payload =>
      unfold worldDispatch handleWorldGameMonsterBuff handleWorldGameTokenNotify
      repeat' split
      all_goals first
        | exact .of_eq rfl
        | exact .of_cons rfl rfl
  | aiTick deltaTime order => exact absurd rfl (untimed deltaTime order)
  | pathResult waypoints asked =>
      unfold pathResult
      split <;> exact .of_eq rfl

/-! ## The timers -/

/-- A timer that is full is taken down at once. -/
def TimersRun (s : GameContext ℝ σ) : Prop :=
  ∀ id, 0 ≤ (s.syncTimers id).getD 0 ∧
    (s.syncTimers id).getD 0 < GameConstants.Network.monsterSyncInterval

omit [DecidableEq σ] in
theorem syncMonsterPosition_timersRun {s : GameContext ℝ σ} (hs : s.TimersRun)
    (order : IterationOrder) (m : Monster ℝ) (oldX oldY : ℝ) {deltaTime : ℝ}
    (htime : 0 ≤ deltaTime) : (s.syncMonsterPosition order m oldX oldY deltaTime).TimersRun := by
  have hset : ∀ (f : Nat → Option ℝ) (timer : ℝ), (∀ id, id ≠ m.monsterId →
      f id = s.syncTimers id) → f m.monsterId = some timer → 0 ≤ timer →
      timer < GameConstants.Network.monsterSyncInterval →
      ∀ id, 0 ≤ (f id).getD 0 ∧ (f id).getD 0 < GameConstants.Network.monsterSyncInterval := by
    intro f timer hothers hself hnonneg hless id
    by_cases hid : id = m.monsterId
    · rw [hid, hself]
      exact ⟨hnonneg, hless⟩
    · rw [hothers id hid]
      exact hs id
  have hothers : ∀ id, id ≠ m.monsterId → ∀ v w : Option ℝ,
      Function.update (Function.update s.syncTimers m.monsterId v) m.monsterId w id
        = s.syncTimers id := by
    intro id hid v w
    rw [Function.update_idem, Function.update_of_ne hid]
  unfold syncMonsterPosition
  dsimp only
  have hzero : (0 : ℝ) < GameConstants.Network.monsterSyncInterval := zero_lt_two
  repeat' split
  · exact hs
  · rename_i hearly
    exact hset _ _ (fun id hid => Function.update_of_ne hid _ _) (Function.update_self ..)
      (add_nonneg (hs m.monsterId).1 htime) hearly
  · exact hset _ 0 (fun id hid => hothers id hid _ _) (Function.update_self ..) le_rfl hzero
  · exact hset _ 0 (fun id hid => hothers id hid _ _) (Function.update_self ..) le_rfl hzero

omit [DecidableEq σ] in
theorem aiTick_timersRun {s : GameContext ℝ σ} (hs : s.TimersRun) (order : IterationOrder)
    {deltaTime : ℝ} (htime : 0 ≤ deltaTime) : (s.aiTick order deltaTime).TimersRun := by
  unfold aiTick
  generalize List.range s.monsters.length = is
  induction is generalizing s with
  | nil => exact hs
  | cons i is ih =>
      refine ih ?_
      cases hm : s.monsters[i]? with
      | none =>
          have hstands : tickMonster order deltaTime s i = s := by simp only [tickMonster, hm]
          rwa [hstands]
      | some m =>
          by_cases hdead : m.state = .dead
          · simp only [tickMonster, hm, if_pos hdead, processDeadMonster]
            repeat' split
            all_goals exact hs
          · rw [tickMonster_eq_sync hm hdead]
            refine syncMonsterPosition_timersRun ?_ order _ _ _ htime
            intro id
            rw [(s.afterUpdate_length order deltaTime i hdead).2]
            exact hs id

/-! ## Runs -/

/-- What holds of the monsters in every state. -/
structure Penned (spawns : List (MonsterSpawn ℝ)) (s : GameContext ℝ σ) : Prop where
  homing : s.AllHoming
  bred : Bred spawns s
  timers : s.TimersRun

omit [DecidableEq σ] in
theorem start_penned (spawns : List (MonsterSpawn ℝ)) :
    Penned spawns (start spawns : GameContext ℝ σ) := by
  refine ⟨start_homing spawns, start_bred spawns, ?_⟩
  intro id
  rw [start_syncTimers]
  exact ⟨le_rfl, zero_lt_two⟩

theorem step_penned {spawns : List (MonsterSpawn ℝ)} {s s' : GameContext ℝ σ}
    {label : Label ℝ σ} (hs : Penned spawns s) (hpromised : s.Promised label)
    (hstep : step env s label = some s') : Penned spawns s' := by
  refine ⟨step_homing hs.homing hpromised hstep, step_bred hs.bred hstep, ?_⟩
  by_cases hticks : ∃ deltaTime order, label = .aiTick deltaTime order
  · obtain ⟨deltaTime, order, rfl⟩ := hticks
    obtain rfl := Option.some.inj hstep
    exact aiTick_timersRun hs.timers order hpromised
  · intro id
    rw [step_syncTimers (fun deltaTime order h => hticks ⟨deltaTime, order, h⟩) hstep]
    exact hs.timers id

/-- What a task has to be while an account watches a monster: paths lead where they
    were asked to lead and come in time, players are not named like monsters, and
    the account is around. -/
structure Watched (env : GameEnv ℝ) (accId : String) (i : Nat) (s : GameContext ℝ σ)
    (label : Label ℝ σ) : Prop where
  promised : s.Promised label
  inTime : s.HomeInTime label
  named : NamesPlayer env label
  attends : Attends accId i s label
  long : ∀ deltaTime order, label = .aiTick deltaTime order →
    (GameConstants.AI.tickIntervalMs : ℝ) / 1000 ≤ deltaTime

/-- The monster is shown to an account that saw it at a point before the
    messages since. -/
structure Sees (spawns : List (MonsterSpawn ℝ)) (accId : String) (i : Nat) (first : Vector3 ℝ)
    (sent : List (Outgoing ℝ σ)) (s : GameContext ℝ σ) : Prop where
  penned : Penned spawns s
  sight : ∃ new h, s.sent = new ++ sent ∧ s.hunt i = some h ∧
    Shown (s.syncTimer h.monster) (seen accId (monsterName h.monster.monsterId) first new)
      h.monster

theorem step_sees {spawns : List (MonsterSpawn ℝ)} (hdistinct : (spawns.map (·.monId)).Nodup)
    {accId : String} (hname : Nameable accId) {i : Nat} {first : Vector3 ℝ}
    {sent : List (Outgoing ℝ σ)} {s s' : GameContext ℝ σ} {label : Label ℝ σ}
    (hs : Sees spawns accId i first sent s) (hw : Watched env accId i s label)
    (hstep : step env s label = some s') : Sees spawns accId i first sent s' := by
  obtain ⟨hpenned, old, h, hold, hi, hsight⟩ := hs
  refine ⟨step_penned hpenned hw.promised hstep, ?_⟩
  obtain ⟨h', hi', hhunt⟩ := step_hunt hstep hi
  have hid : h'.monster.monsterId = h.monster.monsterId := congrArg (·.1) hhunt.traits
  by_cases hticks : ∃ deltaTime order, label = .aiTick deltaTime order
  · obtain ⟨deltaTime, order, rfl⟩ := hticks
    obtain rfl := Option.some.inj hstep
    have hothers : ∀ j m, j ≠ i → s.monsters[j]? = some m →
        h.monster.monsterId ≠ m.monsterId := fun j m hj hm =>
      hpenned.bred.apart hdistinct (Ne.symm hj) (hunt_monster hi) hm
    obtain ⟨new, hnew, hafter⟩ := aiTick_shown hi (hpenned.homing i h hi)
      (tick_long (hw.long deltaTime order rfl)) hw.inTime (hpenned.timers _).1 hi' (hname _)
      hothers hw.attends hsight
    refine ⟨new ++ old, h', ?_, hi', hid.symm ▸ hafter⟩
    rw [hnew, hold, List.append_assoc]
  · have huntimed : ∀ deltaTime order, label ≠ .aiTick deltaTime order :=
      fun deltaTime order heq => hticks ⟨deltaTime, order, heq⟩
    obtain ⟨new, hnew, hnone⟩ := step_untold huntimed hw.named accId h.monster.monsterId hstep
    refine ⟨new ++ old, h', by rw [hnew, hold, List.append_assoc], hi', ?_⟩
    rw [syncTimer, step_syncTimers huntimed hstep, hid, seen_append_none hnone]
    exact hsight.stands (hhunt.position huntimed) (Monster.traits_spawnPosition hhunt.traits)

/-- Wherever an account begins to watch a monster in a run, it sees it within what the
    monster can walk in `MONSTER_SYNC_INTERVAL`, and twice `POSITION_EPSILON`, for as
    long as it is around. -/
theorem always_sighted {spawns : List (MonsterSpawn ℝ)}
    (hdistinct : (spawns.map (·.monId)).Nodup) {accId : String} (hname : Nameable accId)
    {labels : List (Label ℝ σ)} {s₀ : GameContext ℝ σ}
    (hreached : exec (step env) (start spawns) labels = some s₀)
    (hpromised : Meets (step env) Promised (start spawns) labels) {i : Nat} {m₀ : Monster ℝ}
    (hm₀ : s₀.monsters[i]? = some m₀) {watch : List (Label ℝ σ)}
    (hwatched : Meets (step env) (Watched env accId i) s₀ watch) :
    Always (step env)
      (fun s => ∃ new m, s.sent = new ++ s₀.sent ∧ s.monsters[i]? = some m ∧
        (seen accId (monsterName m.monsterId) m₀.position new).Within
          (GameConstants.Monster.moveSpeed * GameConstants.Network.monsterSyncInterval
            + (GameConstants.AI.positionEpsilon + GameConstants.AI.positionEpsilon))
          m.position)
      s₀ watch := by
  have hpenned : Penned spawns s₀ := always_iff_exec.mp (always_of_meets
    (fun hs hc hstep => step_penned hs hc hstep) (start_penned spawns) hpromised) labels
    (List.prefix_refl _) s₀ hreached
  obtain ⟨h, hi, rfl⟩ := exists_hunt hm₀
  have hstart : Sees spawns accId i h.monster.position s₀.sent s₀ :=
    ⟨hpenned, [], h, rfl, hi, Shown.told (hpenned.timers _).1 h.monster⟩
  refine (always_of_meets (fun hs hw hstep => step_sees hdistinct hname hs hw hstep) hstart
    hwatched).imp ?_
  rintro s ⟨hs, new, h', hnew, hi', hsight⟩
  refine ⟨new, h'.monster, hnew, hunt_monster hi', hsight.near.mono ?_⟩
  refine add_le_add ?_ le_rfl
  exact mul_le_mul_of_nonneg_left (hs.timers _).2.le zero_le_two

/-! ## A monster that is watched -/

omit [DecidableEq σ] in
theorem syncMonsterPosition_still (s : GameContext ℝ σ) (order : IterationOrder) (m : Monster ℝ)
    (deltaTime : ℝ) :
    s.syncMonsterPosition order m m.position.x m.position.y deltaTime = s := by
  refine if_pos ⟨?_, ?_⟩ <;>
    · rw [sub_self, abs_zero]
      norm_num [GameConstants.AI.positionEpsilon]

/-- A tick in which the monster does not attack, up to where it is. -/
theorem Encounter.tick_eq {m m₁ m₂ : Monster ℝ} {pending : List (PathRequest ℝ)}
    {player : Option (String × PlayerInfo ℝ)} {s : GameContext ℝ Nat}
    (hs : Encounter ⟨m, pending⟩ player s) (live : m.state ≠ .dead)
    {calls : List (MonsterCall ℝ)} (haim : s.aimOf .listed m = (m₁, calls))
    (hcalls : calls = [] ∨ ∃ request, calls = [.findPath request]) {deltaTime : ℝ}
    (hupdate : m₁.update deltaTime = (m₂, [])) :
    ∃ tasks monsters, s.aiTick .listed deltaTime
      = { s with monsters := monsters, pathTasks := tasks }.syncMonsterPosition .listed m₂
          m.position.x m.position.y deltaTime := by
  have htick : s.aiTick .listed deltaTime = tickMonster .listed deltaTime s 0 := by
    rw [aiTick, hs.monsters]
    rfl
  rw [htick, tickMonster_eq_sync hs.monster live .listed deltaTime, afterUpdate, afterAim, haim,
    hupdate]
  rcases hcalls with rfl | ⟨request, rfl⟩
  · exact ⟨_, _, rfl⟩
  · exact ⟨_, _, rfl⟩

/-- The player is there, and the monster has moved for so long since it was told. -/
structure Beside (timer : ℝ) (s : GameContext ℝ Nat) : Prop where
  account : s.uidToAccount 1 = some "a"
  alone : s.AloneOnAxis
  timer : (s.syncTimers 10001).getD 0 = timer

theorem Beside.around {timer : ℝ} {s : GameContext ℝ Nat} (hs : Beside timer s) {y : ℝ}
    (hy : 0 ≤ y ∧ y < 50) : s.around .listed y 0 = ["a"] := by
  rw [GameContext.around, hs.alone y hy, accounts, List.filterMap_cons, hs.account]
  rfl

theorem aloneOnAxis_congr {s s' : GameContext ℝ Nat} (hs : s.AloneOnAxis)
    (hsize : s'.zone.size = s.zone.size) (hplayers : s'.zone.players = s.zone.players) :
    s'.AloneOnAxis := by
  intro y hy
  have hlist : ∀ k, (s'.zone.grid k).players = (s.zone.grid k).players := congrFun hplayers
  rw [← hs y hy]
  simp only [Zone.getPlayersInAOI, hsize, hlist]

/-- The monster has gone a bit along the axis. -/
theorem Beside.sync {timer oldX y : ℝ} {s : GameContext ℝ Nat} (hs : Beside timer s)
    {m : Monster ℝ} (hid : m.monsterId = 10001) (hplace : m.position = ⟨y, 0, 0⟩)
    (hy : 0 ≤ y ∧ y < 50) (hmoved : GameConstants.AI.positionEpsilon < |oldX - y|)
    (deltaTime : ℝ) :
    let s' := s.syncMonsterPosition .listed m oldX 0 deltaTime
    (timer + deltaTime < GameConstants.Network.monsterSyncInterval →
        Beside (timer + deltaTime) s' ∧ s'.sent = s.sent) ∧
      (GameConstants.Network.monsterSyncInterval ≤ timer + deltaTime →
        Beside 0 s' ∧ ∃ o, s'.sent = o :: s.sent ∧
          o.tells "a" (monsterName 10001) = some ⟨y, 0, 0⟩) := by
  have hnoticed : ¬ (|oldX - m.position.x| ≤ GameConstants.AI.positionEpsilon ∧
      |(0 : ℝ) - m.position.y| ≤ GameConstants.AI.positionEpsilon) := by
    rw [hplace]
    exact fun h => absurd h.1 (not_le.mpr hmoved)
  have halone : ∀ s' : GameContext ℝ Nat,
      s'.zone = s.zone.updatePositionMonster m.monsterId oldX 0 m.position.x m.position.y →
        s'.AloneOnAxis := by
    intro s' hzone
    refine aloneOnAxis_congr hs.alone ?_ ?_
    · rw [hzone, Zone.updatePositionMonster_size]
    · rw [hzone, Zone.updatePositionMonster_players]
  unfold syncMonsterPosition
  dsimp only
  rw [if_neg hnoticed]
  have htimer : (s.syncTimers m.monsterId).getD 0 = timer := by rw [hid, hs.timer]
  rw [htimer]
  constructor
  · intro hshort
    rw [if_pos hshort]
    exact ⟨⟨hs.account, halone _ rfl, by simp [hid]⟩, rfl⟩
  · intro hfull
    rw [if_neg (not_lt.mpr hfull)]
    have hzone := halone
      { s with zone := s.zone.updatePositionMonster m.monsterId oldX 0 m.position.x m.position.y }
      rfl y hy
    have haoi : (s.zone.updatePositionMonster m.monsterId oldX 0 m.position.x
        m.position.y).getPlayersInAOI .listed m.position.x m.position.y = [1] := by
      rw [hplace] at hzone ⊢
      exact hzone
    rw [haoi, if_neg (List.cons_ne_nil _ _)]
    refine ⟨⟨hs.account, halone _ rfl, by simp [hid, broadcastToGateways]⟩, _, rfl, ?_⟩
    have hreader : "a" ∈ [1].filterMap s.uidToAccount := by
      rw [List.filterMap_cons, hs.account]
      exact List.mem_cons_self
    exact (if_pos ⟨congrArg monsterName hid, hreader⟩).trans (congrArg some hplace)

/-- A path to `x` that goes to `far` first. -/
def detour (far x : ℝ) : List (Vector3 ℝ) := [⟨0, 0, 0⟩, ⟨far, 0, 0⟩, ⟨x, 0, 0⟩]

/-- The monster on the way to `far`. -/
noncomputable def walking (far x y : ℝ) : Monster ℝ :=
  { onPath x (detour far x) with position := ⟨y, 0, 0⟩ }

theorem walking_update {far x y deltaTime : ℝ} (hy : y + 1 ≤ far) :
    (walking far x y).update deltaTime = (walking far x (y + 2 * deltaTime), []) := by
  have hpos : 0 < far - y := by linarith
  have hdist : distance (far - y) (0 - 0) = far - y := by
    rw [sub_zero, distance_axis, abs_of_pos hpos]
  have hout : ¬ distance (far - y) (0 - 0) ≤ (walking far x y).attackRange := by
    rw [hdist]
    show ¬ far - y ≤ GameConstants.Monster.attackRange
    norm_num [GameConstants.Monster.attackRange]
    linarith
  have hfar : ¬ distance (far - y) (0 - 0) < GameConstants.AI.waypointEpsilon := by
    rw [hdist]
    norm_num [GameConstants.AI.waypointEpsilon]
    linarith
  have hupdate : (walking far x y).updateChase deltaTime
      = (walking far x y).moveTowards (far - y) (0 - 0) (distance (far - y) (0 - 0)) deltaTime :=
    (if_neg hout).trans (if_neg hfar)
  have hstep : y + (far - y) / (far - y) * GameConstants.Monster.moveSpeed * deltaTime
      = y + 2 * deltaTime := by
    rw [div_self hpos.ne', one_mul]
    rfl
  have hside : (0 : ℝ) + (0 - 0) / (far - y) * GameConstants.Monster.moveSpeed * deltaTime
      = 0 := by
    simp
  show ((walking far x y).updateChase deltaTime, []) = _
  rw [hupdate, hdist]
  simp only [Monster.moveTowards, walking, hstep, hside]

theorem Encounter.account {h : Hunt ℝ} {accId : String} {p : PlayerInfo ℝ} {s : GameContext ℝ Nat}
    (hs : Encounter h (some (accId, p)) s) : s.uidToAccount 1 = some accId := by
  obtain ⟨accId', haccount, hfound⟩ := Option.bind_eq_some_iff.mp hs.player
  obtain ⟨p', -, heq⟩ := Option.map_eq_some_iff.mp hfound
  obtain ⟨rfl, -⟩ := Prod.mk.inj heq
  exact haccount

theorem Beside.pathResult {env : GameEnv ℝ} {timer : ℝ} {s s' : GameContext ℝ Nat}
    (hs : Beside timer s) {n : Nat} {waypoints : List (Vector3 ℝ)}
    (hstep : step env s (.pathResult n waypoints) = some s') : Beside timer s' := by
  cases step_inv hstep with
  | pathResult waypoints asked =>
      unfold GameContext.pathResult
      split
      · exact ⟨hs.account, hs.alone, hs.timer⟩
      · exact ⟨hs.account, hs.alone, hs.timer⟩

/-- The first state in which it is on it. -/
theorem detour_begins : ∃ s, exec (step (encounterEnv (3 / 4))) (start [encounterSpawn])
      [enter, .aiTick 0 .listed, .pathResult 0 (detour 10 (3 / 4))] = some s ∧
    Encounter ⟨walking 10 (3 / 4) 0, []⟩ (some ("a", prey (3 / 4))) s ∧ Beside 0 s := by
  obtain ⟨s₁, henter, h₁, halone⟩ := enter_encounter (x := 3 / 4) (by norm_num)
  obtain ⟨s₃, hpath, h₃⟩ := path_encounter (x := 3 / 4) (by norm_num) ⟨10, 0, 0⟩ [⟨3 / 4, 0, 0⟩]
  refine ⟨s₃, hpath, h₃, ?_⟩
  obtain ⟨s, hs, hrest⟩ := exec_cons_some.mp hpath
  obtain rfl := Option.some.inj (henter.symm.trans hs)
  obtain ⟨s₂, hs₂, hrest⟩ := exec_cons_some.mp hrest
  obtain ⟨s₃', hs₃, hrest⟩ := exec_cons_some.mp hrest
  obtain rfl := Option.some.inj hrest
  refine Beside.pathResult ?_ hs₃
  -- in the tick the monster sees the player, and stays where it is
  have hrests : (Monster.spawn encounterSpawn : Monster ℝ).state = .idle := rfl
  have hnear : distance ((prey (3 / 4)).x - (Monster.spawn encounterSpawn).position.x)
      ((prey (3 / 4)).y - (Monster.spawn encounterSpawn).position.y)
        < GameConstants.Monster.aggroRange := by
    show distance ((3 : ℝ) / 4 - 0) (0 - 0) < 1
    rw [sub_zero, sub_zero, distance_axis, abs_of_pos (by norm_num)]
    norm_num
  have hsees := aimOf_sees hrests .listed (halone 0 (by norm_num)) h₁.player hnear
  obtain ⟨tasks, monsters, htick⟩ := h₁.tick_eq (by rw [hrests]; decide) hsees
    (Or.inr ⟨_, rfl⟩) rfl
  obtain rfl := Option.some.inj hs₂
  have hstays := htick.trans (syncMonsterPosition_still _ .listed (chasing (3 / 4)) 0)
  rw [hstays]
  have htimers : s₁.syncTimers = fun _ => none :=
    (step_syncTimers (by simp [enter]) henter).trans (start_syncTimers _)
  exact ⟨h₁.account, halone, by simp [htimers]⟩

/-- A tick on the way. -/
theorem detour_tick {s : GameContext ℝ Nat} {y timer deltaTime : ℝ}
    (hs : Encounter ⟨walking 10 (3 / 4) y, []⟩ (some ("a", prey (3 / 4))) s)
    (hbeside : Beside timer s)
    (hy : 0 ≤ y ∧ y ≤ 3) (hd : 1 / 10 ≤ deltaTime ∧ deltaTime ≤ 1) :
    let s' := s.aiTick .listed deltaTime
    Encounter ⟨walking 10 (3 / 4) (y + 2 * deltaTime), []⟩ (some ("a", prey (3 / 4))) s' ∧
      Watched (encounterEnv (3 / 4)) "a" 0 s (.aiTick deltaTime .listed) ∧
      (timer + deltaTime < GameConstants.Network.monsterSyncInterval →
        Beside (timer + deltaTime) s' ∧ s'.sent = s.sent) ∧
      (GameConstants.Network.monsterSyncInterval ≤ timer + deltaTime →
        Beside 0 s' ∧ ∃ o, s'.sent = o :: s.sent ∧
          o.tells "a" (monsterName 10001) = some ⟨y + 2 * deltaTime, 0, 0⟩) := by
  have hchases : (walking 10 (3 / 4) y).state = .chase := rfl
  have hlive : (walking 10 (3 / 4) y).state ≠ .dead := by rw [hchases]; decide
  have hcalm : (walking 10 (3 / 4) y).state ≠ .attack := by rw [hchases]; decide
  have hnear : distance ((prey (3 / 4)).x - (walking 10 (3 / 4) y).position.x)
      ((prey (3 / 4)).y - (walking 10 (3 / 4) y).position.y)
        ≤ GameConstants.Monster.chaseRange := by
    show distance (3 / 4 - y) (0 - 0) ≤ 3
    rw [sub_zero, distance_axis, abs_le]
    constructor <;> linarith
  have hkeeps := aimOf_keeps hchases hs.player rfl hnear .listed
  have hwalks : (walking 10 (3 / 4) y).update deltaTime
      = (walking 10 (3 / 4) (y + 2 * deltaTime), []) :=
    walking_update (by linarith)
  have hafter := hs.tick hlive hkeeps hcalm hwalks
  obtain ⟨tasks, monsters, htick⟩ := hs.tick_eq hlive hkeeps (Or.inl rfl) hwalks
  let t : GameContext ℝ Nat := { s with monsters := monsters, pathTasks := tasks }
  have ht : Beside timer t := ⟨hbeside.account, hbeside.alone, hbeside.timer⟩
  have hplace : (walking 10 (3 / 4) (y + 2 * deltaTime)).position = ⟨y + 2 * deltaTime, 0, 0⟩ := rfl
  have hstep : y - (y + 2 * deltaTime) = -(2 * deltaTime) := by ring
  have hmoved : GameConstants.AI.positionEpsilon < |y - (y + 2 * deltaTime)| := by
    rw [hstep, abs_neg, abs_of_nonneg (by linarith)]
    norm_num [GameConstants.AI.positionEpsilon]
    linarith
  obtain ⟨hcounted, htold⟩ := ht.sync rfl hplace ⟨by linarith, by linarith⟩ hmoved deltaTime
  have hbeside' : ∃ timer', Beside timer' (s.aiTick .listed deltaTime) := by
    rw [htick]
    rcases lt_or_ge (timer + deltaTime) GameConstants.Network.monsterSyncInterval with h | h
    · exact ⟨_, (hcounted h).1⟩
    · exact ⟨_, (htold h).1⟩
  refine ⟨hafter, ⟨?_, ?_, by simp [NamesPlayer, moveOf], ?_, ?_⟩, ?_, ?_⟩
  · show 0 ≤ deltaTime
    linarith
  · intro i h hi _ r hreturn
    have hlt := (List.getElem?_eq_some_iff.mp (hunt_monster hi)).1
    rw [hs.monsters, List.length_singleton, Nat.lt_one_iff] at hlt
    subst hlt
    obtain rfl := Option.some.inj (hs.hunt.symm.trans hi)
    have hstate : r.1.state = .chase := congrArg (·.1.state) hkeeps
    rw [hstate] at hreturn
    cases hreturn
  · have hpass : s.atPass .listed deltaTime (0 + 1) = s.aiTick .listed deltaTime := by
      rw [aiTick, hs.monsters]
      rfl
    obtain ⟨timer', hbeside'⟩ := hbeside'
    intro m hm
    rw [hpass] at hm ⊢
    obtain rfl := Option.some.inj (hafter.monster.symm.trans hm)
    show "a" ∈ (s.aiTick .listed deltaTime).around .listed (y + 2 * deltaTime) 0
    rw [hbeside'.around ⟨by linarith, by linarith⟩]
    exact List.mem_singleton_self "a"
  · rintro d order heq
    cases heq
    norm_num [GameConstants.AI.tickIntervalMs]
    linarith
  · rw [htick]
    exact hcounted
  · rw [htick]
    exact htold

theorem detour_promised : Meets (step (encounterEnv (3 / 4))) Promised (start [encounterSpawn])
    [enter, .aiTick 0 .listed, .pathResult 0 (detour 10 (3 / 4))] := by
  obtain ⟨s, hseen, hs⟩ := seen_encounter (x := 3 / 4) (by norm_num)
  show Meets _ _ _ ([enter, .aiTick 0 .listed] ++ [.pathResult 0 (detour 10 (3 / 4))])
  rw [meets_append hseen]
  refine ⟨?_, ?_⟩
  · refine meets_cons.mpr fun _ _ => ⟨trivial, meets_cons.mpr fun _ _ => ⟨?_, trivial⟩⟩
    exact le_refl (0 : ℝ)
  · refine meets_cons.mpr fun _ _ => ⟨fun task htask => ?_, trivial⟩
    rw [hs.tasks] at htask
    obtain rfl := Option.some.inj htask
    exact ⟨rfl, rfl⟩

/-- Two ticks of a second: after the first one the monster is two units from where "a"
    sees it, and after the second "a" is told. -/
theorem always_sighted_encounter :
    ∃ s₀ m₀ s₁ s₂ new, exec (step (encounterEnv (3 / 4))) (start [encounterSpawn])
        [enter, .aiTick 0 .listed, .pathResult 0 (detour 10 (3 / 4))] = some s₀ ∧
      s₀.monsters[0]? = some m₀ ∧
      Always (step (encounterEnv (3 / 4)))
        (fun s => ∃ new m, s.sent = new ++ s₀.sent ∧ s.monsters[0]? = some m ∧
          (seen "a" (monsterName m.monsterId) m₀.position new).Within
            (GameConstants.Monster.moveSpeed * GameConstants.Network.monsterSyncInterval
              + (GameConstants.AI.positionEpsilon + GameConstants.AI.positionEpsilon))
            m.position)
        s₀ [.aiTick 1 .listed, .aiTick 1 .listed] ∧
      step (encounterEnv (3 / 4)) s₀ (.aiTick 1 .listed) = some s₁ ∧
      s₁.sent = s₀.sent ∧ s₁.monsters[0]? = some (walking 10 (3 / 4) 2) ∧
      step (encounterEnv (3 / 4)) s₁ (.aiTick 1 .listed) = some s₂ ∧
      s₂.sent = new ++ s₀.sent ∧ s₂.monsters[0]? = some (walking 10 (3 / 4) 4) ∧
      seen "a" (monsterName 10001) m₀.position new = (walking 10 (3 / 4) 4).position := by
  obtain ⟨s₀, hreached, h₀, hbeside₀⟩ := detour_begins
  have hsecond : (1 : ℝ) / 10 ≤ 1 ∧ (1 : ℝ) ≤ 1 := by norm_num
  obtain ⟨h₁, hwatched₀, hcounted, -⟩ := detour_tick h₀ hbeside₀ (by norm_num) hsecond
  obtain ⟨hbeside₁, hsent₁⟩ := hcounted (by norm_num [GameConstants.Network.monsterSyncInterval])
  rw [show (0 : ℝ) + 2 * 1 = 2 by norm_num] at h₁
  obtain ⟨h₂, hwatched₁, -, htold⟩ := detour_tick h₁ hbeside₁ (by norm_num) hsecond
  obtain ⟨-, o, hsent₂, htells⟩ := htold (by norm_num [GameConstants.Network.monsterSyncInterval])
  rw [show (2 : ℝ) + 2 * 1 = 4 by norm_num] at h₂ htells
  refine ⟨s₀, _, _, _, [o], hreached, h₀.monster, ?_, rfl, hsent₁, h₁.monster, rfl,
    hsent₂.trans (congrArg (o :: ·) hsent₁), h₂.monster, seen_cons_some htells []⟩
  refine always_sighted (by simp) nameable_a hreached detour_promised h₀.monster ?_
  refine meets_cons.mpr fun s hs => ?_
  obtain rfl := Option.some.inj hs
  exact ⟨hwatched₀, meets_cons.mpr fun s hs => ⟨hwatched₁, trivial⟩⟩

end GameContext

end MMOServers.GameServer

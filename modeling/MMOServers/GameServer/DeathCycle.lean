/-
MMOServers.GameServer.DeathCycle — a monster between its death and its respawn.

The server beside a watch over one of its monsters. The watch adds up the tick
time since the monster died (`deadFor`), counts its respawns (`lives`) and
stamps each path request with the life it was made in. It only looks on: a step
of the machine is a step of the server (`step`), and what the watch writes down
is read off the hunt of the monster before the step and after it (`follow`).

`cycle_kept` says what a dead monster keeps through every task, that only a tick
brings it back, and which. The one thing that has a limit is that no path from
before a respawn is applied after it: versions are cut to 64 bits, and 2^64
requests, deaths and respawns later they come around (`applied_pastLife`).
-/
import MMOServers.GameServer.MonsterSteps
import MMOServers.Lib.Run

namespace MMOServers.GameServer

open MMOServers.Common Transition

namespace GameContext

/-! ## The attack callback -/

section Calls

variable {K σ : Type} [Field K] [LinearOrder K] [FloorRing K]

/-- What an attack on a player reads and writes. -/
def combat (s : GameContext K σ) :
    (String → Option (PlayerInfo K)) × (Nat → Option String) × (String → Option Int) :=
  (s.playerMap, s.uidToAccount, s.redis)

theorem attackPlayer_combat {s s' : GameContext K σ} (h : s.combat = s'.combat)
    (order : IterationOrder) (attackerUid targetUid : Nat) (damage : Int) :
    (s.attackPlayer order attackerUid targetUid damage).combat
      = (s'.attackPlayer order attackerUid targetUid damage).combat := by
  simp only [combat, Prod.mk.injEq] at h
  obtain ⟨hplayers, haccounts, hredis⟩ := h
  have hplayer : s.playerOf targetUid = s'.playerOf targetUid := by
    rw [playerOf, playerOf, hplayers, haccounts]
  unfold attackPlayer
  rw [hplayer]
  cases s'.playerOf targetUid with
  | none => simp only [combat, hplayers, haccounts, hredis]
  | some found =>
      obtain ⟨accId, p⟩ := found
      dsimp only
      split
      · simp only [combat, respawnPlayer, setPlayer, setRedisHp, broadcastToGateways, hplayers,
          haccounts, hredis]
      · simp only [combat, setPlayer, setRedisHp, broadcastToGateways, hplayers, haccounts, hredis]

theorem perform_combat {s s' : GameContext K σ} (h : s.combat = s'.combat)
    (order : IterationOrder) (i : Nat) (calls : List (MonsterCall K)) :
    (s.perform order i calls).combat = (s'.perform order i calls).combat := by
  induction calls generalizing s s' with
  | nil => exact h
  | cons call calls ih =>
      cases call with
      | findPath request => exact ih h
      | attack attackerId targetId damage => exact ih (attackPlayer_combat h order _ _ _)

theorem perform_append (s : GameContext K σ) (order : IterationOrder) (i : Nat)
    (calls more : List (MonsterCall K)) :
    s.perform order i (calls ++ more) = (s.perform order i calls).perform order i more := by
  induction calls generalizing s with
  | nil => rfl
  | cons call calls ih =>
      cases call with
      | findPath request => exact ih _
      | attack attackerId targetId damage => exact ih _

variable [HasSqrt K]

/-- What a monster asks for in a tick, its attacks among it. -/
def tickCalls (order : IterationOrder) (deltaTime : K) (s : GameContext K σ) (i : Nat) :
    List (MonsterCall K) :=
  match s.monsters[i]? with
  | none => []
  | some m =>
      if m.state = .dead then []
      else
        let (m, calls) := s.processMonster order m m.position.x m.position.y
        calls ++ (m.update deltaTime).2

/-- A pass of the loop does to the players what these calls do. -/
theorem tickMonster_combat (order : IterationOrder) (deltaTime : K) (s : GameContext K σ)
    (i : Nat) :
    (tickMonster order deltaTime s i).combat
      = (s.perform order i (tickCalls order deltaTime s i)).combat := by
  unfold tickMonster tickCalls
  cases s.monsters[i]? with
  | none => rfl
  | some m =>
      dsimp only
      split
      · unfold processDeadMonster
        dsimp only
        repeat' split
        all_goals rfl
      · generalize s.processMonster order m m.position.x m.position.y = r
        have hsync : ∀ (s : GameContext K σ) (m' : Monster K),
            (s.syncMonsterPosition order m' m.position.x m.position.y deltaTime).combat
              = s.combat := by
          intro s m'
          unfold syncMonsterPosition
          dsimp only
          repeat' split
          all_goals rfl
        have hset : ∀ (s : GameContext K σ) (m' : Monster K),
            (s.setMonster i m').combat = s.combat := fun _ _ => rfl
        have haims := perform_combat (hset s r.1) order i r.2
        rw [hsync, perform_append]
        exact perform_combat ((hset _ _).trans haims) order i _

end Calls

end GameContext

/-! ## The watch -/

/-- A path request with the life of the monster it was made in, and its number
    among the requests, deaths and respawns of the monster. -/
structure Stamp (K : Type) where
  life : Nat
  serial : Nat
  request : PathRequest K
  deriving DecidableEq

structure DeathWatch (K σ : Type) where
  game : GameContext K σ
  /-- The tick time since the monster died. -/
  deadFor : K
  /-- How often it came back. -/
  lives : Nat := 0
  /-- How many path requests, deaths and respawns there were. -/
  changes : Nat := 0
  stamps : List (Stamp K) := []

namespace DeathWatch

variable {K σ : Type}

/-- The stamps of new requests. -/
def stampsOf (life : Nat) : Nat → List (PathRequest K) → List (Stamp K)
  | _, [] => []
  | changes, request :: rest => ⟨life, changes + 1, request⟩ :: stampsOf life (changes + 1) rest

/-- The requests that still wait when the task is done. -/
def unanswered (w : DeathWatch K σ) (i : Nat) : GameContext.Label K σ → List (Stamp K)
  | .pathResult n _ =>
      match w.game.pendingIndex i n with
      | none => w.stamps
      | some k => w.stamps.eraseIdx k
  | _ => w.stamps

section Machine

variable [Field K]

def tickTime : GameContext.Label K σ → K
  | .aiTick deltaTime _ => deltaTime
  | _ => 0

/-- What is written down when the hunt of the monster becomes another. -/
def note (w : DeathWatch K σ) (i : Nat) (label : GameContext.Label K σ) (game : GameContext K σ)
    (h h' : Hunt K) : DeathWatch K σ :=
  let dead := h.monster.state = .dead
  let dead' := h'.monster.state = .dead
  let kept := w.unanswered i label
  let asked := h'.pending.drop kept.length
  { game := game
    deadFor := if dead ∧ dead' then w.deadFor + tickTime label else 0
    lives := w.lives + if dead ∧ ¬ dead' then 1 else 0
    changes := w.changes + asked.length + if dead ↔ dead' then 0 else 1
    stamps := kept ++ stampsOf w.lives w.changes asked }

def follow (w : DeathWatch K σ) (i : Nat) (label : GameContext.Label K σ)
    (game : GameContext K σ) : DeathWatch K σ :=
  match w.game.hunt i, game.hunt i with
  | some h, some h' => w.note i label game h h'
  | _, _ => { w with game := game }

variable [LinearOrder K] [FloorRing K] [HasSqrt K] [DecidableEq σ]

def step (env : GameEnv K) (i : Nat) (w : DeathWatch K σ) (label : GameContext.Label K σ) :
    Option (DeathWatch K σ) :=
  (w.game.step env label).map (w.follow i label)

omit [HasSqrt K] [DecidableEq σ] in
/-- A server that has just started, with all monsters alive. -/
def start (spawns : List (MonsterSpawn K)) : DeathWatch K σ :=
  { game := .start spawns, deadFor := 0 }

end Machine

/-! ## Versions and stamps -/

/-- Requests with the versions that come after a number of changes. -/
def Numbered : Nat → List (PathRequest K) → Prop
  | _, [] => True
  | changes, request :: rest =>
      request.version = (changes + 1) % 2 ^ 64 ∧ Numbered (changes + 1) rest

theorem numbered_append {changes : Nat} {requests more : List (PathRequest K)} :
    Numbered changes (requests ++ more)
      ↔ Numbered changes requests ∧ Numbered (changes + requests.length) more := by
  induction requests generalizing changes with
  | nil => simp [Numbered]
  | cons request rest ih =>
      rw [List.cons_append, Numbered, Numbered, ih, and_assoc, List.length_cons,
        Nat.add_right_comm, Nat.add_assoc]

theorem numbered_of_asks {m : Monster K} {r : Monster K × List (MonsterCall K)} {changes : Nat}
    (h : m.Asks r) (hversion : m.pathRequestVersion = changes % 2 ^ 64) :
    Numbered changes (pathRequests r.2) ∧
      r.1.pathRequestVersion = (changes + (pathRequests r.2).length) % 2 ^ 64 := by
  have hnext : m.nextVersion = (changes + 1) % 2 ^ 64 := by
    rw [Monster.nextVersion, hversion, Nat.mod_add_mod]
  cases h with
  | nothing requests version target =>
      rw [requests]
      exact ⟨trivial, version.trans hversion⟩
  | path start state requests version =>
      rw [requests]
      exact ⟨⟨hnext, trivial⟩, version.trans hnext⟩

theorem stampsOf_request (life changes : Nat) (requests : List (PathRequest K)) :
    (stampsOf life changes requests).map (·.request) = requests := by
  induction requests generalizing changes with
  | nil => rfl
  | cons request rest ih => rw [stampsOf, List.map_cons, ih]

theorem stampsOf_numbered {life changes : Nat} {requests : List (PathRequest K)}
    (h : Numbered changes requests) {t : Stamp K} (ht : t ∈ stampsOf life changes requests) :
    t.life = life ∧ t.request.version = t.serial % 2 ^ 64 ∧
      t.serial ≤ changes + requests.length := by
  induction requests generalizing changes with
  | nil => cases ht
  | cons request rest ih =>
      rcases List.mem_cons.mp ht with rfl | ht
      · exact ⟨rfl, h.1, by simp⟩
      · obtain ⟨hlife, hversion, hserial⟩ := ih h.2 ht
        exact ⟨hlife, hversion, by simp only [List.length_cons]; omega⟩

/-! ## What the watch knows -/

/-- A stamp in a life after so many changes. Only the newest change can be a request
    of this life for sure. -/
structure Fits (lives changes : Nat) (t : Stamp K) : Prop where
  version : t.request.version = t.serial % 2 ^ 64
  past : t.serial ≤ changes
  life : t.serial = changes → t.life = lives

variable [Field K]

/-- What the watch writes down is what the monster has. Its own timer is the time
    since its death, which needs that the timer is at zero while it lives. -/
structure Kept (w : DeathWatch K σ) (h : Hunt K) : Prop where
  timer : h.monster.deadTimer = w.deadFor
  live : h.monster.state ≠ .dead → w.deadFor = 0
  dead : h.monster.state = .dead → h.monster.hp = 0
  version : h.monster.pathRequestVersion = w.changes % 2 ^ 64
  pending : h.pending = w.stamps.map (·.request)
  stamps : ∀ t ∈ w.stamps, Fits w.lives w.changes t

omit [Field K] in
theorem unanswered_sublist (w : DeathWatch K σ) (i : Nat) (label : GameContext.Label K σ) :
    (w.unanswered i label).Sublist w.stamps := by
  unfold unanswered
  repeat' split
  all_goals first | exact List.Sublist.refl _ | exact List.eraseIdx_sublist _ _

/-- The watch keeps up with a hunt whose new requests have the next versions. -/
theorem note_kept {w : DeathWatch K σ} {i : Nat} {label : GameContext.Label K σ}
    {game : GameContext K σ} {h h' : Hunt K} (hw : w.Kept h) (asked : List (PathRequest K))
    (pending : h'.pending = (w.unanswered i label).map (·.request) ++ asked)
    (numbered : Numbered w.changes asked)
    (version : h'.monster.pathRequestVersion = (w.changes + asked.length +
      if h.monster.state = .dead ↔ h'.monster.state = .dead then 0 else 1) % 2 ^ 64)
    (timer : h'.monster.deadTimer =
      if h.monster.state = .dead ∧ h'.monster.state = .dead then w.deadFor + tickTime label else 0)
    (dead : h'.monster.state = .dead → h'.monster.hp = 0) :
    (w.note i label game h h').Kept h' := by
  have hasked : h'.pending.drop (w.unanswered i label).length = asked := by
    rw [pending, ← List.length_map (f := fun t : Stamp K => t.request), List.drop_left]
  refine ⟨timer, ?_, dead, ?_, ?_, ?_⟩
  · intro hlive
    exact if_neg fun hdead => hlive hdead.2
  · simp only [note, hasked]
    exact version
  · simp only [note, hasked, List.map_append, stampsOf_request]
    exact pending
  · simp only [note, hasked]
    intro t ht
    rcases List.mem_append.mp ht with ht | ht
    · have hold := hw.stamps t ((w.unanswered_sublist i label).mem ht)
      refine ⟨hold.version, ?_, ?_⟩
      · have := hold.past
        omega
      · intro hserial
        have := hold.past
        split at hserial
        · rename_i hsame
          rw [if_neg fun hrose => hrose.2 (hsame.mp hrose.1)]
          exact hold.life (by omega)
        · omega
    · obtain ⟨hlife, hversion, hserial⟩ := stampsOf_numbered numbered ht
      refine ⟨hversion, ?_, ?_⟩
      · omega
      · intro hnewest
        split at hnewest
        · rename_i hsame
          rw [if_neg fun hrose => hrose.2 (hsame.mp hrose.1)]
          exact hlife
        · omega

/-- A step that asks for nothing and leaves the monster dead or alive. -/
theorem note_still {w : DeathWatch K σ} {i : Nat} {label : GameContext.Label K σ}
    (game : GameContext K σ) {h h' : Hunt K} (hw : w.Kept h)
    (pending : h'.pending = (w.unanswered i label).map (·.request))
    (version : h'.monster.pathRequestVersion = h.monster.pathRequestVersion)
    (state : h'.monster.state = .dead ↔ h.monster.state = .dead)
    (timer : h'.monster.deadTimer = if h.monster.state = .dead then
      h.monster.deadTimer + tickTime label else h.monster.deadTimer)
    (dead : h'.monster.state = .dead → h'.monster.hp = 0) :
    (w.note i label game h h').Kept h' := by
  refine note_kept hw [] (pending.trans (List.append_nil _).symm) trivial ?_ ?_ dead
  · rw [if_pos state.symm, version]
    exact hw.version
  · rw [timer, hw.timer]
    by_cases hdead : h.monster.state = .dead
    · rw [if_pos hdead, if_pos ⟨hdead, state.mpr hdead⟩]
    · rw [if_neg hdead, if_neg fun hboth => hdead hboth.1, hw.live hdead]

/-- A step that asks for nothing, and the monster dies or comes back. -/
theorem note_turn {w : DeathWatch K σ} {i : Nat} {label : GameContext.Label K σ}
    (game : GameContext K σ) {h h' : Hunt K} (hw : w.Kept h)
    (pending : h'.pending = (w.unanswered i label).map (·.request))
    (version : h'.monster.pathRequestVersion = h.monster.nextVersion)
    (state : h'.monster.state = .dead ↔ ¬ h.monster.state = .dead)
    (timer : h'.monster.deadTimer = 0)
    (dead : h'.monster.state = .dead → h'.monster.hp = 0) :
    (w.note i label game h h').Kept h' := by
  refine note_kept hw [] (pending.trans (List.append_nil _).symm) trivial ?_ ?_ dead
  · have hturned : ¬ (h.monster.state = .dead ↔ h'.monster.state = .dead) := by
      rw [state]
      exact iff_not_self
    rw [if_neg hturned, version, Monster.nextVersion, hw.version, Nat.mod_add_mod]
    rfl
  · rw [if_neg fun hboth => state.mp hboth.2 hboth.1]
    exact timer

variable [LinearOrder K] [HasSqrt K]

/-- A live monster stays alive through its tick and asks with the next versions. -/
theorem acts_numbered {h : Hunt K} {changes : Nat} (deltaTime : K)
    (hversion : h.monster.pathRequestVersion = changes % 2 ^ 64)
    {r : Monster K × List (MonsterCall K)} (aims : h.monster.Aims r) :
    Numbered changes (pathRequests r.2 ++ pathRequests (r.1.update deltaTime).2) ∧
      (r.1.update deltaTime).1.pathRequestVersion = (changes +
        (pathRequests r.2 ++ pathRequests (r.1.update deltaTime).2).length) % 2 ^ 64 := by
  obtain ⟨haimed, hversion'⟩ := numbered_of_asks aims.asks hversion
  obtain ⟨hupdated, hversion''⟩ := numbered_of_asks (r.1.update_asks deltaTime) hversion'
  refine ⟨numbered_append.mpr ⟨haimed, hupdated⟩, ?_⟩
  rw [hversion'', List.length_append, Nat.add_assoc]

variable [FloorRing K]

theorem huntStep_kept {env : GameEnv K} {w : DeathWatch K σ} {i : Nat}
    {label : GameContext.Label K σ} (game : GameContext K σ) {h h' : Hunt K} (hw : w.Kept h)
    (hstep : GameContext.HuntStep env w.game i h label h') :
    (w.note i label game h h').Kept h' := by
  have hpending := hw.pending
  cases hstep with
  | aside untimed unanswered =>
      have hkept : w.unanswered i label = w.stamps := by
        cases label with
        | pathResult n waypoints => simp only [DeathWatch.unanswered, unanswered n waypoints rfl]
        | _ => rfl
      have htime : tickTime label = 0 := by
        cases label with
        | aiTick deltaTime order => exact absurd rfl (untimed deltaTime order)
        | _ => rfl
      refine note_still game hw ?_ rfl Iff.rfl ?_ hw.dead
      · rw [hkept, hpending]
      · rw [htime, add_zero, ite_self]
  | @hit gw payload order damage selected live =>
      by_cases hdeadly : (h.monster.takeDamage damage).hp ≤ 0
      · have hstruck : h.monster.struck damage = (h.monster.takeDamage damage).die := if_pos hdeadly
        rw [hstruck]
        refine note_turn game hw hpending rfl ?_ ?_ fun _ => rfl
        · exact iff_of_true rfl live
        · exact hw.timer.trans (hw.live live)
      · have hstruck : h.monster.struck damage = h.monster.takeDamage damage := if_neg hdeadly
        rw [hstruck]
        refine note_still game hw hpending rfl Iff.rfl ?_ fun hdead => absurd hdead live
        rw [if_neg live]
        rfl
  | @buffed id payload req parsed buffs =>
      have hlive := buffs.2.2
      refine note_still game hw hpending rfl Iff.rfl ?_ fun hdead => absurd hdead hlive
      rw [if_neg hlive]
      rfl
  | @ticks deltaTime order h' tick =>
      cases tick with
      | waits dead early =>
          refine note_still game hw hpending rfl Iff.rfl ?_ hw.dead
          rw [if_pos dead]
          rfl
      | respawns dead due =>
          have hlive : MonsterState.idle ≠ .dead := by decide
          exact note_turn game hw hpending rfl (iff_of_false hlive (not_not.mpr dead)) rfl
            fun hdead => absurd hdead hlive
      | acts live r aims =>
          obtain ⟨hvitals, hlive'⟩ := Monster.update_live aims.live deltaTime
          obtain ⟨hnumbered, hversion⟩ := acts_numbered deltaTime hw.version aims
          have htimer : (r.1.update deltaTime).1.deadTimer = h.monster.deadTimer :=
            congrArg (·.2.2.1) (hvitals.trans aims.vitals)
          refine note_kept hw _ ?_ hnumbered ?_ ?_ fun hdead => absurd hdead hlive'
          · exact (List.append_assoc _ _ _).trans (congrArg (· ++ _) hpending)
          · rw [if_pos (iff_of_false live hlive')]
            exact hversion
          · rw [if_neg fun hboth => live hboth.1]
            exact htimer.trans (hw.timer.trans (hw.live live))
  | @path n k request waypoints answers asked =>
      obtain ⟨hvitals, hstate⟩ := h.monster.applyPath_vitals request waypoints
      have hkept : w.unanswered i (.pathResult n waypoints) = w.stamps.eraseIdx k := by
        simp only [DeathWatch.unanswered, answers]
      refine note_still game hw ?_ (h.monster.applyPath_version request waypoints).1 ?_ ?_ ?_
      · rw [hkept, hpending, List.eraseIdx_map]
      · rw [hstate]
      · have htimer : (h.monster.applyPath request waypoints).deadTimer = h.monster.deadTimer :=
          congrArg (·.2.2.1) hvitals
        show (h.monster.applyPath request waypoints).deadTimer
          = if _ then h.monster.deadTimer + 0 else _
        rw [add_zero, ite_self, htimer]
      · have hhp : (h.monster.applyPath request waypoints).hp = h.monster.hp :=
          congrArg (·.1) hvitals
        rw [hstate, hhp]
        exact hw.dead

variable [DecidableEq σ]

omit [LinearOrder K] [HasSqrt K] [FloorRing K] [DecidableEq σ] in
/-- The watch keeps up with its monster. -/
def Watches (i : Nat) (w : DeathWatch K σ) : Prop := ∀ h, w.game.hunt i = some h → w.Kept h

theorem step_watches {env : GameEnv K} {i : Nat} {w w' : DeathWatch K σ}
    {label : GameContext.Label K σ} (hw : w.Watches i) (hstep : step env i w label = some w') :
    w'.Watches i := by
  obtain ⟨game, hgame, rfl⟩ := Option.map_eq_some_iff.mp hstep
  intro h' hi'
  cases hi : w.game.hunt i with
  | none =>
      have hsame : w.follow i label game = { w with game := game } := by
        simp only [follow, hi]
      rw [hsame] at hi'
      obtain ⟨h, hi'', -⟩ := GameContext.step_hunt_of hgame hi'
      rw [hi] at hi''
      cases hi''
  | some h =>
      obtain ⟨h'', hi'', hhunt⟩ := GameContext.step_hunt hgame hi
      have hnote : w.follow i label game = w.note i label game h h'' := by
        simp only [follow, hi, hi'']
      rw [hnote] at hi' ⊢
      obtain rfl := Option.some.inj (hi'.symm.trans hi'')
      exact huntStep_kept game (hw h hi) hhunt

omit [HasSqrt K] [DecidableEq σ] in
theorem start_watches (spawns : List (MonsterSpawn K)) (i : Nat) :
    (start spawns : DeathWatch K σ).Watches i := by
  intro h hi
  replace hi : (GameContext.start spawns : GameContext K σ).hunt i = some h := hi
  rw [GameContext.start_hunt] at hi
  obtain ⟨data, -, rfl⟩ := Option.map_eq_some_iff.mp hi
  exact ⟨rfl, fun _ => rfl, nofun, rfl, rfl, nofun⟩

/-! ## From death to respawn -/

/-- What a task does to a dead monster, which it leaves as `m'`. -/
structure Cycle (env : GameEnv K) (i : Nat) (w : DeathWatch K σ) (label : GameContext.Label K σ)
    (m m' : Monster K) : Prop where
  empty : m.hp = 0
  still : m'.state = .dead → m'.hp = 0 ∧ m'.position = m.position ∧
    m'.currentPath = m.currentPath ∧ m'.targetUserId = m.targetUserId ∧
    m'.targetLastPos = m.targetLastPos
  /-- It calls nothing in a tick, after the monsters before it. -/
  silent : ∀ deltaTime order, label = .aiTick deltaTime order →
    GameContext.tickCalls order deltaTime
      ((List.range i).foldl (GameContext.tickMonster order deltaTime) w.game) i = []
  spared : ∀ gw payload order damage,
    label = .packet gw PacketId.gatewayGameAttackReq payload order →
      GameContext.attackTarget env w.game order payload ≠ some (i, damage)
  rises : m'.state ≠ .dead ↔ ∃ deltaTime order, label = .aiTick deltaTime order ∧
    (m.respawnSec : K) ≤ w.deadFor + deltaTime
  risen : m'.state ≠ .dead → m'.hp = m'.maxHp ∧ m'.position = m'.spawnPosition ∧
    m'.state = .idle ∧ m'.targetUserId = 0 ∧ m'.currentPath = []

omit [DecidableEq σ] in
theorem huntStep_cycle {env : GameEnv K} {i : Nat} {w : DeathWatch K σ}
    {label : GameContext.Label K σ} {h h' : Hunt K} (hi : w.game.hunt i = some h)
    (hw : w.Kept h) (dead : h.monster.state = .dead)
    (hstep : GameContext.HuntStep env w.game i h label h') :
    Cycle env i w label h.monster h'.monster := by
  have hsilent : ∀ deltaTime order, label = .aiTick deltaTime order →
      GameContext.tickCalls order deltaTime
        ((List.range i).foldl (GameContext.tickMonster order deltaTime) w.game) i = [] := by
    intro deltaTime order _
    have hbefore := GameContext.foldl_hunt_other w.game order deltaTime
      (List.not_mem_range_self (n := i))
    simp only [GameContext.tickCalls, GameContext.hunt_monster (hbefore.trans hi), if_pos dead]
  have hspared : ∀ gw payload order damage,
      label = .packet gw PacketId.gatewayGameAttackReq payload order →
        GameContext.attackTarget env w.game order payload ≠ some (i, damage) := by
    intro gw payload order damage _ htarget
    obtain ⟨m, hm, hlive⟩ := GameContext.attackTarget_alive htarget
    rw [GameContext.hunt_monster hi] at hm
    obtain rfl := Option.some.inj hm
    exact hlive dead
  -- a task that is no tick leaves the monster as it is
  have hsame : h'.monster = h.monster → (∀ deltaTime order, label ≠ .aiTick deltaTime order) →
      Cycle env i w label h.monster h'.monster := by
    intro hmonster huntimed
    rw [hmonster]
    refine ⟨hw.dead dead, fun _ => ⟨hw.dead dead, rfl, rfl, rfl, rfl⟩, hsilent, hspared, ?_,
      fun hlive => absurd dead hlive⟩
    refine iff_of_false (not_not.mpr dead) ?_
    rintro ⟨deltaTime, order, hlabel, -⟩
    exact huntimed deltaTime order hlabel
  cases hstep with
  | aside untimed unanswered => exact hsame rfl untimed
  | hit gw selected live => exact absurd dead live
  | buffed parsed buffs => exact absurd dead buffs.2.2
  | @ticks deltaTime order h' tick =>
      cases tick with
      | waits dead early =>
          refine ⟨hw.dead dead, fun _ => ⟨hw.dead dead, rfl, rfl, rfl, rfl⟩, hsilent, hspared, ?_,
            fun hlive => absurd dead hlive⟩
          refine iff_of_false (not_not.mpr dead) ?_
          rintro ⟨deltaTime', order', hlabel, hdue⟩
          obtain ⟨rfl, -⟩ := GameContext.Label.aiTick.inj hlabel
          rw [← hw.timer] at hdue
          exact absurd early (not_lt.mpr hdue)
      | respawns dead due =>
          have hlive : MonsterState.idle ≠ .dead := by decide
          refine ⟨hw.dead dead, fun hdead => absurd hdead hlive, hsilent, hspared, ?_,
            fun _ => ⟨rfl, rfl, rfl, rfl, rfl⟩⟩
          refine iff_of_true hlive ⟨deltaTime, order, rfl, ?_⟩
          rw [← hw.timer]
          exact not_lt.mp due
      | acts live r aims => exact absurd dead live
  | @path n k request waypoints answers asked =>
      have hnot : ¬ h.monster.Applies request := fun happlies => happlies.live dead
      exact hsame (Monster.applyPath_of_not hnot waypoints) nofun

/-- Whatever the task, a dead monster goes through the cycle. -/
def DeathKept (env : GameEnv K) (i : Nat) (w : DeathWatch K σ) (label : GameContext.Label K σ) :
    Prop :=
  ∀ m w' m', w.game.monsters[i]? = some m → m.state = .dead → step env i w label = some w' →
    w'.game.monsters[i]? = some m' → Cycle env i w label m m'

/-- The task is the result of a stamped request of the monster, and it is applied. -/
def Answers (i : Nat) (w : DeathWatch K σ) (label : GameContext.Label K σ) (t : Stamp K) : Prop :=
  ∃ n waypoints k m, label = .pathResult n waypoints ∧ w.game.pendingIndex i n = some k ∧
    w.stamps[k]? = some t ∧ w.game.monsters[i]? = some m ∧ m.Applies t.request

omit [LinearOrder K] [HasSqrt K] [FloorRing K] [DecidableEq σ] in
/-- A result that is applied is of this life, unless the versions came around. -/
theorem answers_life {i : Nat} {w : DeathWatch K σ} {label : GameContext.Label K σ} {t : Stamp K}
    (hw : w.Watches i) (hanswers : w.Answers i label t) (hrecent : w.changes < t.serial + 2 ^ 64) :
    t.life = w.lives := by
  obtain ⟨n, waypoints, k, m, -, -, ht, hm, happlies⟩ := hanswers
  obtain ⟨h, hi, rfl⟩ := GameContext.exists_hunt hm
  have hkept := hw h hi
  have hfits := hkept.stamps t (List.mem_of_getElem? ht)
  have hversion : w.changes % 2 ^ 64 = t.serial % 2 ^ 64 :=
    (hkept.version.symm.trans happlies.version).trans hfits.version
  have hpast := hfits.past
  exact hfits.life (by omega)

/-- In every run a dead monster has no hit points, stays where it is, attacks nobody
    and is attacked by nobody; it comes back exactly in the tick in which the tick
    time since its death reaches the respawn time, new and idle; and no path from
    before its respawn is applied, unless there were 2^64 requests, deaths and
    respawns since it was asked for. -/
theorem cycle_kept (env : GameEnv K) (spawns : List (MonsterSpawn K)) (i : Nat)
    (labels : List (GameContext.Label K σ)) :
    Meets (step env i) (fun w label => DeathKept env i w label ∧
      ∀ t, w.Answers i label t → w.changes < t.serial + 2 ^ 64 → t.life = w.lives)
      (start spawns) labels := by
  refine meets_of_labels (Watches i) (L := fun _ => True) (fun hw _ => step_watches hw) ?_
    (start_watches spawns i) (fun _ _ => trivial)
  intro w label w₁ hw _ _
  refine ⟨?_, fun t => answers_life hw⟩
  intro m w' m' hm hdead hstep hm'
  obtain ⟨game, hgame, rfl⟩ := Option.map_eq_some_iff.mp hstep
  obtain ⟨h, hi, rfl⟩ := GameContext.exists_hunt hm
  obtain ⟨h', hi', hhunt⟩ := GameContext.step_hunt hgame hi
  have hfollow : (w.follow i label game).game = game := by
    simp only [follow, hi, hi', note]
  rw [hfollow, GameContext.hunt_monster hi'] at hm'
  obtain rfl := Option.some.inj hm'
  exact huntStep_cycle hi (hw h hi) hdead hhunt

/-! ## A path from a past life -/

/-- The encoding of a move and of an attack of one player. -/
def ghostEnv : GameEnv ℚ :=
  { GameEnv.sample with
      parseMoveReq
        | [10, 1, 97] => some ⟨"a", 0, 0, 0, 0⟩
        | _ => none }

/-- A monster that a hit kills and that comes back in the next tick. -/
def ghostSpawn : MonsterSpawn ℚ := ⟨10001, 1 / 2, 0, 1, 0⟩

def enter : GameContext.Label ℚ Nat :=
  .packet 0 PacketId.gatewayGameMoveReq [10, 1, 97] .listed

def strike : GameContext.Label ℚ Nat :=
  .packet 0 PacketId.gatewayGameAttackReq [10, 1, 97] .listed

def tick : GameContext.Label ℚ Nat := .aiTick 0 .listed

/-- The monster dies, comes back and sees the player again. -/
def rebirths (n : Nat) : List (GameContext.Label ℚ Nat) :=
  (List.replicate n [strike, tick, tick]).flatten

/-- The monster while it chases the player. -/
def hunting (version : Nat) : Monster ℚ :=
  { Monster.spawn ghostSpawn with
      state := .chase
      targetUserId := 1
      pathRequestVersion := version }

/-- The first path request. -/
def firstStamp : Stamp ℚ := ⟨0, 1, ⟨⟨1 / 2, 0, 0⟩, ⟨0, 0, 0⟩, 1, .chase⟩⟩

/-- The player and the one monster have each other in range. -/
structure Facing (m : Monster ℚ) (s : GameContext ℚ Nat) : Prop where
  players : s.playerMap "a" = some ⟨1, 0, 0, 100, 30⟩
  accounts : s.uidToAccount 1 = some "a"
  index : s.monsterMap 10001 = some 0
  playersNear : s.zone.getPlayersInAOI .listed (1 / 2 : ℚ) 0 = [1]
  monstersNear : s.zone.getMonstersInAOI .listed (0 : ℚ) 0 = [10001]
  monsters : s.monsters = [m]

/-- The first request waits, in the life after so many others. -/
structure Haunts (m : Monster ℚ) (lives : Nat) (w : DeathWatch ℚ Nat) : Prop where
  facing : Facing m w.game
  asked : (w.game.pathTasks[0]?).map PathTask.monster = some 0
  first : w.stamps[0]? = some firstStamp
  lives : w.lives = lives

/-- A task that keeps the player where it is and answers no request. -/
theorem haunts_step {m m' : Monster ℚ} {lives : Nat} {w : DeathWatch ℚ Nat} (h : Haunts m lives w)
    {label : GameContext.Label ℚ Nat} (hkept : w.unanswered 0 label = w.stamps)
    (hstep : ∃ s, w.game.step ghostEnv label = some s ∧ Facing m' s ∧
      w.game.pathTasks <+: s.pathTasks) :
    ∃ w', step ghostEnv 0 w label = some w' ∧
      Haunts m' (lives + if m.state = .dead ∧ ¬ m'.state = .dead then 1 else 0) w' := by
  obtain ⟨s, hstep, hfacing, tasks, htasks⟩ := hstep
  obtain ⟨before, hi, rfl⟩ := GameContext.exists_hunt
    (show w.game.monsters[0]? = some m by rw [h.facing.monsters]; rfl)
  obtain ⟨after, hi', rfl⟩ := GameContext.exists_hunt
    (show s.monsters[0]? = some m' by rw [hfacing.monsters]; rfl)
  have hfollow : w.follow 0 label s = w.note 0 label s before after := by
    simp only [follow, hi, hi']
  refine ⟨w.note 0 label s before after, ?_, hfacing, ?_, ?_, ?_⟩
  · rw [step, hstep, Option.map_some, hfollow]
  · show (s.pathTasks[0]?).map _ = _
    have hfirst := h.asked
    rw [Option.map_eq_some_iff] at hfirst ⊢
    obtain ⟨task, htask, hmonster⟩ := hfirst
    obtain ⟨hlt, -⟩ := List.getElem?_eq_some_iff.mp htask
    exact ⟨task, by rw [← htasks, List.getElem?_append_left hlt, htask], hmonster⟩
  · obtain ⟨hlt, -⟩ := List.getElem?_eq_some_iff.mp h.first
    show (w.unanswered 0 label ++ _)[0]? = _
    rw [hkept, List.getElem?_append_left hlt, h.first]
  · show w.lives + _ = _
    rw [h.lives]

/-- A hit kills. -/
theorem strike_facing {s : GameContext ℚ Nat} {version : Nat} (hs : Facing (hunting version) s) :
    ∃ s', s.step ghostEnv strike = some s' ∧ Facing ((hunting version).struck 20) s' ∧
      s.pathTasks <+: s'.pathTasks := by
  have hm := hs.monsters
  have hnear : distance ((0 : ℚ) - 1 / 2) (0 - 0) ≤ 3 / 2 := by decide +kernel
  have hnearest : s.nearestMonster 0 0 [10001] none GameConstants.Combat.playerAttackRange
      = some (0, hunting version) := by
    simp only [GameContext.nearestMonster, hs.index, hm]
    have halive : (hunting version).state ≠ .dead := by
      intro hdead
      cases hdead
    exact if_pos ⟨halive, hnear⟩
  have hparse : ghostEnv.parseAttackReq [10, 1, 97] = some ⟨"a", 0⟩ := rfl
  have hdispatch : s.step ghostEnv strike
      = some (s.handleGatewayGameAttackReq ghostEnv .listed [10, 1, 97]) := rfl
  have hdamage : max (wrap32 (30 - (hunting version).defensePower)) GameConstants.Combat.minDamage
      = 20 := rfl
  have hset : ∀ m res, (s.broadcastToGateways res).setMonster 0 m
      = { s with monsters := [m], sent := .broadcast res :: s.sent } := by
    intro m res
    simp only [GameContext.setMonster, GameContext.broadcastToGateways, hm, List.set_cons_zero]
  rw [hdispatch]
  simp only [GameContext.handleGatewayGameAttackReq, hparse, hs.players, hs.monstersNear, hnearest,
    hdamage, hset]
  exact ⟨_, rfl, ⟨hs.players, hs.accounts, hs.index, hs.playersNear, hs.monstersNear, rfl⟩,
    List.prefix_refl _⟩

/-- The dead monster comes back. -/
theorem tick_dead {s : GameContext ℚ Nat} {version : Nat}
    (hs : Facing ((hunting version).struck 20) s) :
    ∃ s', s.step ghostEnv tick = some s' ∧ Facing ((hunting version).struck 20).respawn s' ∧
      s.pathTasks <+: s'.pathTasks := by
  have hm := hs.monsters
  have hdue : ¬ (((hunting version).struck 20).addDeadTime 0).deadTimer
      < (((((hunting version).struck 20).addDeadTime 0).respawnSec : Int) : ℚ) := by
    show ¬ (0 : ℚ) + 0 < ((0 : Int) : ℚ)
    decide +kernel
  have hset : ∀ m, s.setMonster 0 m = { s with monsters := [m] } := by
    intro m
    rw [GameContext.setMonster, hm, List.set_cons_zero]
  have htick : s.step ghostEnv tick = some (s.processDeadMonster .listed 0
      ((hunting version).struck 20) 0) := by
    show some ((List.range s.monsters.length).foldl _ s) = _
    simp only [hm, List.length_singleton, List.range_one, List.foldl_cons, List.foldl_nil,
      GameContext.tickMonster, List.getElem?_cons_zero]
    rfl
  rw [htick]
  simp only [GameContext.processDeadMonster, if_neg hdue, hset]
  have hrisen : ∀ sent, Facing ((hunting version).struck 20).respawn
      { s with monsters := [((hunting version).struck 20).respawn], sent := sent } :=
    fun sent => ⟨hs.players, hs.accounts, hs.index, hs.playersNear, hs.monstersNear, rfl⟩
  split
  · exact ⟨_, rfl, hrisen s.sent, List.prefix_refl _⟩
  · exact ⟨_, rfl, hrisen _, List.prefix_refl _⟩

/-- It sees the player. -/
theorem tick_sees {s : GameContext ℚ Nat} {version : Nat}
    (hs : Facing ((hunting version).struck 20).respawn s) :
    ∃ s', s.step ghostEnv tick = some s' ∧
      Facing (hunting ((hunting version).struck 20).respawn.nextVersion) s' ∧
      s.pathTasks <+: s'.pathTasks := by
  have hm := hs.monsters
  let next := ((hunting version).struck 20).respawn.nextVersion
  let task : PathTask ℚ := ⟨0, ⟨⟨1 / 2, 0, 0⟩, ⟨0, 0, 0⟩, next, .chase⟩⟩
  have haims : s.processMonster .listed ((hunting version).struck 20).respawn (1 / 2) 0
      = (hunting next, [.findPath task.request]) := by
    have hplayer : s.playerOf 1 = some ("a", ⟨1, 0, 0, 100, 30⟩) := by
      rw [GameContext.playerOf, hs.accounts, Option.bind_some, hs.players, Option.map_some]
    have hnear : distance ((0 : ℚ) - 1 / 2) (0 - 0) < GameConstants.Monster.aggroRange := by
      decide +kernel
    have hsees : s.processMonster .listed ((hunting version).struck 20).respawn (1 / 2) 0
        = ((hunting version).struck 20).respawn.setTarget 1 ⟨0, 0, 0⟩ := by
      show s.processIdleMonster .listed _ _ _ = _
      simp only [GameContext.processIdleMonster, hs.playersNear, List.findSome?_cons, hplayer,
        if_pos hnear]
    exact hsees
  have hset : ∀ m, s.setMonster 0 m = { s with monsters := [m] } := by
    intro m
    rw [GameContext.setMonster, hm, List.set_cons_zero]
  have hsync : ∀ s : GameContext ℚ Nat,
      s.syncMonsterPosition .listed (hunting next) (1 / 2) 0 0 = s := by
    have hstays : |(1 / 2 : ℚ) - 1 / 2| ≤ GameConstants.AI.positionEpsilon ∧
        |(0 : ℚ) - 0| ≤ GameConstants.AI.positionEpsilon := by decide +kernel
    exact fun s => if_pos hstays
  have htick : s.step ghostEnv tick = some (GameContext.tickMonster .listed 0 s 0) := by
    show some ((List.range s.monsters.length).foldl _ s) = _
    rw [hm]
    rfl
  have hlive : ((hunting version).struck 20).respawn.state ≠ .dead := by
    intro hdead
    cases hdead
  have hposition : ((hunting version).struck 20).respawn.position = ⟨1 / 2, 0, 0⟩ := rfl
  rw [htick]
  simp only [GameContext.tickMonster, hm, List.getElem?_cons_zero, if_neg hlive, hposition, haims,
    hset]
  exact ⟨_, congrArg some (hsync _),
    ⟨hs.players, hs.accounts, hs.index, hs.playersNear, hs.monstersNear, rfl⟩,
    List.prefix_append s.pathTasks [task]⟩

/-- Another life is three more changes. -/
theorem haunts_again {changes lives : Nat} {w : DeathWatch ℚ Nat}
    (h : Haunts (hunting (changes % 2 ^ 64)) lives w) :
    ∃ w', exec (step ghostEnv 0) w [strike, tick, tick] = some w' ∧
      Haunts (hunting ((changes + 3) % 2 ^ 64)) (lives + 1) w' := by
  obtain ⟨w₁, hw₁, h₁⟩ := haunts_step h rfl (strike_facing h.facing)
  obtain ⟨w₂, hw₂, h₂⟩ := haunts_step h₁ rfl (tick_dead h₁.facing)
  obtain ⟨w₃, hw₃, h₃⟩ := haunts_step h₂ rfl (tick_sees h₂.facing)
  have hnext : ((hunting (changes % 2 ^ 64)).struck 20).respawn.nextVersion
      = (changes + 3) % 2 ^ 64 := by
    show (((changes % 2 ^ 64 + 1) % 2 ^ 64 + 1) % 2 ^ 64 + 1) % 2 ^ 64 = _
    omega
  rw [hnext] at h₃
  exact ⟨w₃, exec_cons_some.mpr ⟨w₁, hw₁, exec_cons_some.mpr ⟨w₂, hw₂,
    exec_cons_some.mpr ⟨w₃, hw₃, rfl⟩⟩⟩, h₃⟩

theorem haunts_rebirths {changes lives : Nat} {w : DeathWatch ℚ Nat}
    (h : Haunts (hunting (changes % 2 ^ 64)) lives w) (n : Nat) :
    ∃ w', exec (step ghostEnv 0) w (rebirths n) = some w' ∧
      Haunts (hunting ((changes + 3 * n) % 2 ^ 64)) (lives + n) w' := by
  induction n generalizing changes lives w with
  | zero => exact ⟨w, rfl, h⟩
  | succ n ih =>
      obtain ⟨w', hagain, h'⟩ := haunts_again h
      obtain ⟨w'', hrest, h''⟩ := ih h'
      refine ⟨w'', exec_append_some.mpr ⟨w', hagain, hrest⟩, ?_⟩
      rwa [show changes + 3 * (n + 1) = changes + 3 + 3 * n by omega,
        show lives + (n + 1) = lives + 1 + n by omega]

/-- The player comes and is seen. -/
theorem haunts_start :
    ∃ w, exec (step ghostEnv 0) (start [ghostSpawn]) [enter, tick] = some w ∧
      Haunts (hunting 1) 0 w := by
  have hstart : ((exec (step ghostEnv 0) (start [ghostSpawn]) [enter, tick]).any
      fun w => decide (w.game.playerMap "a" = some ⟨1, 0, 0, 100, 30⟩ ∧
        w.game.uidToAccount 1 = some "a" ∧ w.game.monsterMap 10001 = some 0 ∧
        w.game.zone.getPlayersInAOI .listed (1 / 2 : ℚ) 0 = [1] ∧
        w.game.zone.getMonstersInAOI .listed (0 : ℚ) 0 = [10001] ∧
        w.game.monsters = [hunting 1] ∧
        (w.game.pathTasks[0]?).map PathTask.monster = some 0 ∧
        w.stamps[0]? = some firstStamp ∧ w.lives = 0)) = true := by
    decide +kernel
  obtain ⟨w, hexec, hw⟩ := (Option.any_eq_true _ _).mp hstart
  obtain ⟨hplayers, haccounts, hindex, hnear, hnear', hmonsters, hasked, hfirst, hlives⟩ :=
    of_decide_eq_true hw
  exact ⟨w, hexec, ⟨hplayers, haccounts, hindex, hnear, hnear', hmonsters⟩, hasked, hfirst, hlives⟩

/-- 2^64 lives, and then the path of the first. -/
def pastLife : List (GameContext.Label ℚ Nat) :=
  [enter, tick] ++ rebirths (2 ^ 64) ++ [.pathResult 0 []]

/-- The path of the first life is applied in a later one. -/
theorem applied_pastLife :
    ¬ Meets (step ghostEnv 0) (fun w label => ∀ t, w.Answers 0 label t → t.life = w.lives)
      (start [ghostSpawn]) pastLife := by
  intro h
  obtain ⟨w₀, hexec₀, h₀⟩ := haunts_start
  replace h₀ : Haunts (hunting (1 % 2 ^ 64)) 0 w₀ := h₀
  obtain ⟨w, hexec, hw⟩ := haunts_rebirths h₀ (2 ^ 64)
  have hreached : exec (step ghostEnv 0) (start [ghostSpawn]) ([enter, tick] ++ rebirths (2 ^ 64))
      = some w := exec_append_some.mpr ⟨w₀, hexec₀, hexec⟩
  obtain ⟨task, htask, hmonster⟩ := Option.map_eq_some_iff.mp hw.asked
  have hindex : w.game.pendingIndex 0 0 = some 0 := by
    simp [GameContext.pendingIndex, htask, hmonster]
  have happlies : (hunting ((1 + 3 * 2 ^ 64) % 2 ^ 64)).Applies firstStamp.request :=
    ⟨rfl, by decide, Or.inl rfl⟩
  have hmonsters : w.game.monsters[0]? = some (hunting ((1 + 3 * 2 ^ 64) % 2 ^ 64)) := by
    rw [hw.facing.monsters]
    rfl
  have hanswers : w.Answers 0 (.pathResult 0 []) firstStamp :=
    ⟨0, [], 0, _, rfl, hindex, hw.first, hmonsters, happlies⟩
  have hstep : ∃ w', step ghostEnv 0 w (.pathResult 0 []) = some w' := by
    simp only [step, GameContext.step, htask]
    exact ⟨_, rfl⟩
  obtain ⟨w', hw'⟩ := hstep
  have hlife : 0 = w.lives := Meets.of_exec [] h hreached hw' firstStamp hanswers
  rw [hw.lives] at hlife
  exact absurd hlife (by decide)

end DeathWatch

end MMOServers.GameServer

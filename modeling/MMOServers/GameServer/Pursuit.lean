/-
MMOServers.GameServer.Pursuit — one monster, whatever is called on it.

The member functions of a monster in any order, and between them the results of
its path requests in any order, with any waypoints. The server calls them in a
certain order only; every run of the server is a run of each of its monsters
(`run_pursues`).

A result must not be applied when a later request, a death or a respawn has made
it stale. `changes` counts these, and a request carries the number it has among
them as its `serial`. The version that the code compares is this number cut to 64
bits, so the comparison finds every stale result as long as there are fewer than
2^64 changes (`applied_fresh`). Deaths and respawns count: a run with three
requests can come around to the version of the first (`applied_stale`).
-/
import MMOServers.GameServer.MonsterSteps
import MMOServers.Lib.Run

namespace MMOServers.GameServer

open MMOServers.Common Transition

/-! ## The machine -/

structure Ticket (K : Type) where
  /-- The number of the request among the changes, from 1. -/
  serial : Nat
  request : PathRequest K

/-- A result that was applied, and what it found. -/
structure Application (K : Type) where
  ticket : Ticket K
  changes : Nat
  target : Vector3 K
  state : MonsterState

/-- The request was the latest thing to happen to the monster, led to its target,
    and was for the state it was in. -/
structure Application.Fresh {K : Type} (a : Application K) : Prop where
  latest : a.ticket.serial = a.changes
  target : a.ticket.request.stop = a.target
  state : a.ticket.request.state = a.state ∨
    a.ticket.request.state = .chase ∧ a.state = .attack

structure Pursuit (K : Type) where
  monster : Monster K
  pending : List (Ticket K) := []
  /-- How many path requests there were. -/
  requests : Nat := 0
  /-- How many path requests, deaths and respawns there were. -/
  changes : Nat := 0
  /-- The newest first. -/
  applied : List (Application K) := []

namespace Pursuit

variable {K : Type}

inductive Op (K : Type) where
  | setTarget (targetId : Nat) (targetPos : Vector3 K)
  | updateTargetPosition (newPos : Vector3 K)
  | giveUpChase
  | giveUpAttack
  | update (deltaTime : K)
  | takeDamage (damage : Int)
  | setHp (addHp : Int)
  | die
  | addDeadTime (deltaTime : K)
  | respawn
  /-- The result of the pending request with the index. -/
  | pathResult (n : Nat) (waypoints : List (Vector3 K))

def setMonster (p : Pursuit K) (m : Monster K) : Pursuit K := { p with monster := m }

def ask (p : Pursuit K) : List (PathRequest K) → Pursuit K
  | [] => p
  | request :: rest =>
      let ticket : Ticket K := ⟨p.changes + 1, request⟩
      { p with
          pending := p.pending ++ [ticket]
          requests := p.requests + 1
          changes := p.changes + 1 }.ask rest

/-- A call that leaves the monster and asks for something. -/
def act (p : Pursuit K) (r : Monster K × List (MonsterCall K)) : Pursuit K :=
  (p.setMonster r.1).ask (pathRequests r.2)

/-- The monster dies or comes back to life. -/
def change (p : Pursuit K) (m : Monster K) : Pursuit K :=
  { p with monster := m, changes := p.changes + 1 }

variable [Field K] [LinearOrder K] [HasSqrt K]

def receive (p : Pursuit K) (n : Nat) (ticket : Ticket K) (waypoints : List (Vector3 K)) :
    Pursuit K :=
  { p with
      monster := p.monster.applyPath ticket.request waypoints
      pending := p.pending.eraseIdx n
      applied :=
        if p.monster.Applies ticket.request then
          ⟨ticket, p.changes, p.monster.targetLastPos, p.monster.state⟩ :: p.applied
        else p.applied }

def step (p : Pursuit K) : Op K → Option (Pursuit K)
  | .setTarget targetId targetPos => some (p.act (p.monster.setTarget targetId targetPos))
  | .updateTargetPosition newPos => some (p.act (p.monster.updateTargetPosition newPos))
  | .giveUpChase => some (p.act p.monster.giveUpChase)
  | .giveUpAttack => some (p.act p.monster.giveUpAttack)
  | .update deltaTime => some (p.act (p.monster.update deltaTime))
  | .takeDamage damage => some (p.setMonster (p.monster.takeDamage damage))
  | .setHp addHp => some (p.setMonster (p.monster.setHp addHp))
  | .die => some (p.change p.monster.die)
  | .addDeadTime deltaTime => some (p.setMonster (p.monster.addDeadTime deltaTime))
  | .respawn => some (p.change p.monster.respawn)
  | .pathResult n waypoints =>
      match p.pending[n]? with
      | none => none
      | some ticket => some (p.receive n ticket waypoints)

omit [LinearOrder K] [HasSqrt K] in
/-- The monster as `InitMonsters` makes it. -/
def start (data : MonsterSpawn K) : Pursuit K := { monster := Monster.spawn data }

/-! ## What is to hold -/

/-- Only fresh results were applied, and none twice. -/
structure Fresh (p : Pursuit K) : Prop where
  once : (p.applied.map (·.ticket.serial)).Nodup
  fresh : ∀ a ∈ p.applied, a.Fresh

/-! ## Versions and changes -/

omit [Field K] [LinearOrder K] [HasSqrt K] in
/-- Versions are the numbers of the changes cut to 64 bits, and the latest request
    leads to the target. -/
structure Stamped (p : Pursuit K) : Prop where
  version : p.monster.pathRequestVersion = p.changes % 2 ^ 64
  pending : ∀ t ∈ p.pending, t.request.version = t.serial % 2 ^ 64 ∧ t.serial ≤ p.changes
  latest : ∀ t ∈ p.pending, t.serial = p.changes → t.request.stop = p.monster.targetLastPos
  applied : ∀ a ∈ p.applied, a.ticket.serial ≤ p.changes
  distinct : (p.applied.map (·.ticket.serial) ++ p.pending.map Ticket.serial).Nodup

/-- Every step is one of four: nothing about paths changes, a path is asked for,
    the monster dies or respawns, a result arrives. -/
inductive Stepped (p : Pursuit K) : Pursuit K → Prop where
  | quiet (m : Monster K) (version : m.pathRequestVersion = p.monster.pathRequestVersion)
      (target : m.targetLastPos = p.monster.targetLastPos) : Stepped p (p.setMonster m)
  | asks (m : Monster K) (start : Vector3 K) (state : MonsterState)
      (version : m.pathRequestVersion = p.monster.nextVersion) :
      Stepped p ((p.setMonster m).ask
        [⟨start, m.targetLastPos, p.monster.nextVersion, state⟩])
  | changes (m : Monster K) (version : m.pathRequestVersion = p.monster.nextVersion) :
      Stepped p (p.change m)
  | receives {n : Nat} {ticket : Ticket K} (waypoints : List (Vector3 K))
      (asked : p.pending[n]? = some ticket) : Stepped p (p.receive n ticket waypoints)

theorem act_stepped {p : Pursuit K} {r : Monster K × List (MonsterCall K)}
    (h : p.monster.Asks r) : Stepped p (p.act r) := by
  unfold act
  cases h with
  | nothing requests version target =>
      rw [requests]
      exact .quiet r.1 version target
  | path start state requests version =>
      rw [requests]
      exact .asks r.1 start state version

theorem step_inv {p p' : Pursuit K} {op : Op K} (h : step p op = some p') : Stepped p p' := by
  cases op with
  | setTarget targetId targetPos =>
      exact Option.some.inj h ▸ act_stepped (Monster.calculatePath_asks rfl)
  | updateTargetPosition newPos =>
      exact Option.some.inj h ▸ act_stepped (p.monster.updateTargetPosition_asks newPos)
  | giveUpChase => exact Option.some.inj h ▸ act_stepped p.monster.giveUpChase_asks
  | giveUpAttack =>
      exact Option.some.inj h ▸ act_stepped (Monster.calculatePath_asks rfl)
  | update deltaTime =>
      exact Option.some.inj h ▸ act_stepped (p.monster.update_asks deltaTime)
  | takeDamage damage => exact Option.some.inj h ▸ .quiet _ rfl rfl
  | setHp addHp => exact Option.some.inj h ▸ .quiet _ rfl rfl
  | die => exact Option.some.inj h ▸ .changes _ rfl
  | addDeadTime deltaTime => exact Option.some.inj h ▸ .quiet _ rfl rfl
  | respawn => exact Option.some.inj h ▸ .changes _ rfl
  | pathResult n waypoints =>
      simp only [step] at h
      split at h
      · cases h
      · rename_i ticket hasked
        exact Option.some.inj h ▸ .receives waypoints hasked

theorem step_changes {p p' : Pursuit K} (h : Stepped p p') : p.changes ≤ p'.changes := by
  cases h with
  | quiet m version target => exact Nat.le_refl _
  | asks m start state version => exact Nat.le_succ _
  | changes m version => exact Nat.le_succ _
  | receives waypoints asked => exact Nat.le_refl _

omit [LinearOrder K] [HasSqrt K] in
theorem start_stamped (data : MonsterSpawn K) : (start data).Stamped where
  version := rfl
  pending := by simp [start]
  latest := by simp [start]
  applied := by simp [start]
  distinct := by simp [start]

omit [Field K] [LinearOrder K] [HasSqrt K] in
theorem Stamped.next {p : Pursuit K} (h : p.Stamped) :
    p.monster.nextVersion = (p.changes + 1) % 2 ^ 64 := by
  rw [Monster.nextVersion, h.version, Nat.mod_add_mod]

omit [Field K] [LinearOrder K] [HasSqrt K] in
/-- A new request gets a new number. -/
theorem Stamped.distinct_ask {p : Pursuit K} (h : p.Stamped) :
    (p.applied.map (·.ticket.serial) ++
      (p.pending.map Ticket.serial ++ [p.changes + 1])).Nodup := by
  rw [← List.append_assoc, List.nodup_append]
  refine ⟨h.distinct, List.pairwise_singleton _ _, ?_⟩
  intro n hn k hk
  have hle : n ≤ p.changes := by
    rcases List.mem_append.mp hn with hn | hn
    · obtain ⟨a, ha, rfl⟩ := List.mem_map.mp hn
      exact h.applied a ha
    · obtain ⟨t, ht, rfl⟩ := List.mem_map.mp hn
      exact (h.pending t ht).2
  rw [List.mem_singleton.mp hk]
  omega

omit [Field K] [LinearOrder K] [HasSqrt K] in
/-- The number of a request goes with it from the one list to the other. -/
theorem Stamped.distinct_receive {p : Pursuit K} (h : p.Stamped) {n : Nat} {ticket : Ticket K}
    (asked : p.pending[n]? = some ticket) :
    (ticket.serial :: (p.applied.map (·.ticket.serial) ++
      (p.pending.eraseIdx n).map Ticket.serial)).Nodup := by
  obtain ⟨hlt, hget⟩ := List.getElem?_eq_some_iff.mp asked
  have hperm : (ticket :: p.pending.eraseIdx n).Perm p.pending := by
    rw [← hget]
    exact List.getElem_cons_eraseIdx_perm hlt
  have hmoved := (List.Perm.append_left (p.applied.map (·.ticket.serial))
    (hperm.map Ticket.serial)).nodup_iff.mpr h.distinct
  exact List.perm_middle.nodup_iff.mp hmoved

theorem step_stamped {p p' : Pursuit K} (h : p.Stamped) (hstep : Stepped p p') : p'.Stamped := by
  cases hstep with
  | quiet m version target =>
      refine ⟨version.trans h.version, h.pending, ?_, h.applied, h.distinct⟩
      intro t ht hserial
      exact (h.latest t ht hserial).trans target.symm
  | asks m start state version =>
      refine ⟨version.trans h.next, ?_, ?_, fun a ha => Nat.le_succ_of_le (h.applied a ha), ?_⟩
      · intro t ht
        rcases List.mem_append.mp ht with ht | ht
        · exact ⟨(h.pending t ht).1, Nat.le_succ_of_le (h.pending t ht).2⟩
        · obtain rfl := List.mem_singleton.mp ht
          exact ⟨h.next, Nat.le_refl _⟩
      · intro t ht hserial
        rcases List.mem_append.mp ht with ht | ht
        · have hle := (h.pending t ht).2
          replace hserial : t.serial = p.changes + 1 := hserial
          omega
        · obtain rfl := List.mem_singleton.mp ht
          rfl
      · show (p.applied.map (·.ticket.serial) ++ (p.pending ++ [_]).map Ticket.serial).Nodup
        rw [List.map_append]
        exact h.distinct_ask
  | changes m version =>
      refine ⟨version.trans h.next, ?_, ?_, fun a ha => Nat.le_succ_of_le (h.applied a ha),
        h.distinct⟩
      · intro t ht
        exact ⟨(h.pending t ht).1, Nat.le_succ_of_le (h.pending t ht).2⟩
      · intro t ht hserial
        have hle := (h.pending t ht).2
        replace hserial : t.serial = p.changes + 1 := hserial
        omega
  | @receives n ticket waypoints asked =>
      obtain ⟨hversion, htarget⟩ := p.monster.applyPath_version ticket.request waypoints
      have hmem : ∀ t ∈ p.pending.eraseIdx n, t ∈ p.pending :=
        fun t => (List.eraseIdx_sublist _ _).mem
      have hdistinct := h.distinct_receive asked
      refine ⟨hversion.trans h.version, fun t ht => h.pending t (hmem t ht), ?_, ?_, ?_⟩
      · intro t ht hserial
        exact (h.latest t (hmem t ht) hserial).trans htarget.symm
      · intro a ha
        replace ha : a ∈ if p.monster.Applies ticket.request then _ else _ := ha
        split at ha
        · rcases List.mem_cons.mp ha with rfl | ha
          · exact (h.pending ticket (List.mem_of_getElem? asked)).2
          · exact h.applied a ha
        · exact h.applied a ha
      · show (List.map _ (if p.monster.Applies ticket.request then _ else _) ++ _).Nodup
        split
        · exact hdistinct
        · exact hdistinct.of_cons

/-- Before there are 2^64 changes, only the latest request can be applied. -/
theorem step_fresh {p p' : Pursuit K} (h : p.Stamped) (hfresh : p.Fresh)
    (hfew : p'.changes < 2 ^ 64) (hstep : Stepped p p') : p'.Fresh := by
  refine ⟨(List.nodup_append.mp (step_stamped h hstep).distinct).1, ?_⟩
  cases hstep with
  | quiet m version target => exact hfresh.fresh
  | asks m start state version => exact hfresh.fresh
  | changes m version => exact hfresh.fresh
  | @receives n ticket waypoints asked =>
      have hmem := List.mem_of_getElem? asked
      show ∀ a ∈ if p.monster.Applies ticket.request then _ else _, _
      split
      · rename_i happlies
        obtain ⟨hversion, hle⟩ := h.pending ticket hmem
        have hserial : ticket.serial = p.changes := by
          have hsame := (h.version.symm.trans happlies.version).trans hversion
          replace hfew : p.changes < 2 ^ 64 := hfew
          omega
        exact List.forall_mem_cons.mpr
          ⟨⟨hserial, h.latest ticket hmem hserial, happlies.state⟩, hfresh.fresh⟩
      · exact hfresh.fresh

/-- In every order of calls and results, and with any waypoints, what is applied is
    the latest thing that happened to the monster, is for its target and its state,
    and is applied once, as long as there are fewer than 2^64 requests, deaths and
    respawns together. -/
theorem applied_fresh (data : MonsterSpawn K) (ops : List (Op K)) :
    Always step (fun p => p.changes < 2 ^ 64 → p.Fresh) (start data) ops := by
  have hinv : Always step (fun p => p.Stamped ∧ (p.changes < 2 ^ 64 → p.Fresh)) (start data)
      ops := by
    refine always_of_meets (C := fun _ _ => True) ?_ ?_ meets_true
    · rintro p op p' ⟨hstamped, hfresh⟩ - hstep
      have hstepped := step_inv hstep
      refine ⟨step_stamped hstamped hstepped, fun hfew => ?_⟩
      have hbefore := Nat.lt_of_le_of_lt (step_changes hstepped) hfew
      exact step_fresh hstamped (hfresh hbefore) hfew hstepped
    · exact ⟨start_stamped data, fun _ => ⟨by simp [start], by simp [start]⟩⟩
  exact hinv.imp fun p hp => hp.2

/-! ## A result that comes too late -/

/-- The monster is killed and comes back, again and again. -/
def deaths (n : Nat) : List (Op K) := (List.replicate n [.die, .respawn]).flatten

/-- Deaths count as changes, and nothing is asked for. -/
theorem exec_deaths (p : Pursuit K) (n : Nat) :
    ∃ p', exec step p (deaths n) = some p' ∧ p'.changes = p.changes + 2 * n ∧
      p'.pending = p.pending ∧ p'.requests = p.requests := by
  induction n generalizing p with
  | zero => exact ⟨p, rfl, rfl, rfl, rfl⟩
  | succ n ih =>
      obtain ⟨p', hexec, hchanges, hpending, hrequests⟩ :=
        ih ((p.change p.monster.die).change (p.monster.die.respawn))
      refine ⟨p', hexec, ?_, hpending, hrequests⟩
      rw [hchanges]
      show p.changes + 1 + 1 + 2 * n = _
      omega

def staleSpawn : MonsterSpawn ℚ := ⟨10001, 10, 10, 100, 0⟩

/-- A player is seen, the monster is killed 2^63 - 1 times, the player is seen
    again and moves, and then the first path is there. -/
def staleRun : List (Op ℚ) :=
  .setTarget 1 ⟨20, 10, 0⟩ :: deaths (2 ^ 63 - 1) ++
    [.setTarget 1 ⟨20, 10, 0⟩, .updateTargetPosition ⟨30, 10, 0⟩, .pathResult 0 []]

/-- Three requests are enough when there are deaths between them. -/
theorem applied_stale :
    ¬ Always step (fun p => p.requests < 2 ^ 64 → p.Fresh) (start staleSpawn) staleRun := by
  intro h
  -- the first request, and the deaths
  let p₁ : Pursuit ℚ := (start staleSpawn).act ((start staleSpawn).monster.setTarget 1 ⟨20, 10, 0⟩)
  have hstep₁ : step (start staleSpawn) (.setTarget 1 ⟨20, 10, 0⟩) = some p₁ := rfl
  obtain ⟨p₂, hdeaths, hchanges, hpending, hrequests⟩ := exec_deaths p₁ (2 ^ 63 - 1)
  have hstamped : p₂.Stamped :=
    exec_inv (fun hp hstep => step_stamped hp (step_inv hstep))
      (step_stamped (start_stamped staleSpawn) (step_inv hstep₁)) hdeaths
  have hlast : p₂.changes = 2 ^ 64 - 1 := by
    have hone : p₁.changes = 1 := rfl
    omega
  -- two more requests bring the version back to that of the first
  let p₃ := p₂.act (p₂.monster.setTarget 1 ⟨20, 10, 0⟩)
  have hstep₃ : step p₂ (.setTarget 1 ⟨20, 10, 0⟩) = some p₃ := rfl
  let p₄ := p₃.act { p₃.monster with targetLastPos := ⟨30, 10, 0⟩ }.calculatePath
  have hstep₄ : step p₃ (.updateTargetPosition ⟨30, 10, 0⟩) = some p₄ := by
    have hfar : distance ((20 : ℚ) - 30) (10 - 10) > 0.1 := by decide +kernel
    have hmoved : p₃.monster.updateTargetPosition ⟨30, 10, 0⟩
        = { p₃.monster with targetLastPos := ⟨30, 10, 0⟩ }.calculatePath := if_pos hfar
    exact congrArg (fun r => some (p₃.act r)) hmoved
  have hversion : p₄.monster.pathRequestVersion = 1 := by
    have hfour : p₄.changes = 2 ^ 64 + 1 := by
      show p₂.changes + 1 + 1 = _
      omega
    have hstamped₄ := step_stamped (step_stamped hstamped (step_inv hstep₃)) (step_inv hstep₄)
    rw [hstamped₄.version, hfour]
    rfl
  -- the first result passes the tests
  let ticket : Ticket ℚ := ⟨1, ⟨⟨10, 10, 0⟩, ⟨20, 10, 0⟩, 1, .chase⟩⟩
  have hfirst : p₄.pending[0]? = some ticket := by
    show (p₂.pending ++ [_] ++ [_])[0]? = _
    rw [hpending]
    rfl
  have hlive : MonsterState.chase ≠ .dead := by decide
  have happlies : p₄.monster.Applies ticket.request := ⟨hversion, hlive, Or.inl rfl⟩
  have hstep₅ : step p₄ (.pathResult 0 []) = some (p₄.receive 0 ticket []) := by
    simp only [step, hfirst]
  have hexec : exec step (start staleSpawn) staleRun = some (p₄.receive 0 ticket []) := by
    refine exec_append_some.mpr ⟨p₂, ?_, ?_⟩
    · exact exec_cons_some.mpr ⟨p₁, hstep₁, hdeaths⟩
    · exact exec_cons_some.mpr ⟨p₃, hstep₃, exec_cons_some.mpr ⟨p₄, hstep₄,
        exec_cons_some.mpr ⟨_, hstep₅, rfl⟩⟩⟩
  -- it leads to where the player was
  have hfew : p₄.requests < 2 ^ 64 := by
    show p₂.requests + 1 + 1 < _
    rw [hrequests]
    decide
  have hfresh := always_iff_exec.mp h _ (List.prefix_refl _) _ hexec hfew
  have happlied : (p₄.receive 0 ticket []).applied
      = ⟨ticket, p₄.changes, p₄.monster.targetLastPos, p₄.monster.state⟩ :: p₄.applied :=
    if_pos happlies
  have htarget := (hfresh.fresh _ (happlied ▸ List.mem_cons_self)).target
  have hx : (20 : ℚ) = 30 := congrArg Vector3.x htarget
  exact absurd hx (by decide)

/-! ## The monsters of the server -/

/-- The monster and its requests, as the server has them. -/
def hunt (p : Pursuit K) : Hunt K := ⟨p.monster, p.pending.map (·.request)⟩

omit [Field K] [LinearOrder K] [HasSqrt K] in
theorem ask_hunt (p : Pursuit K) (requests : List (PathRequest K)) :
    (p.ask requests).hunt = ⟨p.monster, p.hunt.pending ++ requests⟩ := by
  induction requests generalizing p with
  | nil => simp [ask, hunt]
  | cons request rest ih =>
      rw [ask, ih]
      simp [hunt]

omit [Field K] [LinearOrder K] [HasSqrt K] in
theorem act_hunt (p : Pursuit K) (r : Monster K × List (MonsterCall K)) :
    (p.act r).hunt = ⟨r.1, p.hunt.pending ++ pathRequests r.2⟩ := ask_hunt _ _

/-- A live monster chooses its target by calls. -/
theorem exec_aims (p : Pursuit K) {r : Monster K × List (MonsterCall K)}
    (h : p.monster.Aims r) : ∃ ops, exec step p ops = some (p.act r) := by
  cases h with
  | stays h => exact ⟨[], rfl⟩
  | sees uid pos h => exact ⟨[.setTarget uid pos], rfl⟩
  | follows pos h => exact ⟨[.updateTargetPosition pos], rfl⟩
  | givesUpChase h => exact ⟨[.giveUpChase], rfl⟩
  | givesUpAttack h => exact ⟨[.giveUpAttack], rfl⟩

theorem exec_tick (p : Pursuit K) {deltaTime : K} {h' : Hunt K}
    (h : TickStep deltaTime p.hunt h') : ∃ ops p', exec step p ops = some p' ∧ p'.hunt = h' := by
  cases h with
  | waits dead early => exact ⟨[.addDeadTime deltaTime], _, rfl, rfl⟩
  | respawns dead due => exact ⟨[.addDeadTime deltaTime, .respawn], _, rfl, rfl⟩
  | acts live r aims =>
      obtain ⟨ops, hops⟩ := exec_aims p aims
      have hmonster : (p.act r).monster = r.1 := congrArg Hunt.monster (p.act_hunt r)
      refine ⟨ops ++ [.update deltaTime], (p.act r).act (r.1.update deltaTime), ?_, ?_⟩
      · refine exec_append_some.mpr ⟨_, hops, ?_⟩
        rw [← hmonster]
        rfl
      · rw [act_hunt, act_hunt]

variable [FloorRing K] {σ : Type} [DecidableEq σ]

/-- What a task does to a monster is done by calls on it. -/
theorem step_pursues {env : GameEnv K} {s s' : GameContext K σ} {label : GameContext.Label K σ}
    (hstep : GameContext.step env s label = some s') {i : Nat} {p : Pursuit K}
    (hi : s.hunt i = some p.hunt) :
    ∃ ops p', exec step p ops = some p' ∧ s'.hunt i = some p'.hunt := by
  obtain ⟨h', hh', hhunt⟩ := GameContext.step_hunt hstep hi
  rw [hh']
  cases hhunt with
  | aside untimed unanswered => exact ⟨[], p, rfl, rfl⟩
  | @hit gw payload order damage selected live =>
      by_cases hdeadly : (p.monster.takeDamage damage).hp ≤ 0
      · have hstruck : p.monster.struck damage = (p.monster.takeDamage damage).die :=
          if_pos hdeadly
        exact ⟨[.takeDamage damage, .die], _, rfl,
          congrArg (fun m => some (⟨m, p.hunt.pending⟩ : Hunt K)) hstruck⟩
      · have hstruck : p.monster.struck damage = p.monster.takeDamage damage := if_neg hdeadly
        exact ⟨[.takeDamage damage], _, rfl,
          congrArg (fun m => some (⟨m, p.hunt.pending⟩ : Hunt K)) hstruck⟩
  | @buffed id payload req parsed buffs => exact ⟨[.setHp req.addHp.toInt], _, rfl, rfl⟩
  | ticks order tick =>
      obtain ⟨ops, p', hexec, hhunt'⟩ := exec_tick p tick
      exact ⟨ops, p', hexec, congrArg some hhunt'.symm⟩
  | @path n k request waypoints answers asked =>
      obtain ⟨ticket, hticket, rfl⟩ := Option.map_eq_some_iff.mp
        ((List.getElem?_map (f := Ticket.request)).symm.trans asked)
      refine ⟨[.pathResult k waypoints], p.receive k ticket waypoints, ?_, congrArg some ?_⟩
      · simp only [exec, step, hticket, Option.bind_some]
      · simp only [hunt, receive, List.eraseIdx_map]

/-- The monster with the index is where some calls bring one of the spawn list. -/
def Pursues (data : MonsterSpawn K) (i : Nat) (s : GameContext K σ) : Prop :=
  ∃ ops p, exec step (start data) ops = some p ∧ s.hunt i = some p.hunt

/-- Every run of the server is a run of each of its monsters. -/
theorem run_pursues {env : GameEnv K} {spawns : List (MonsterSpawn K)} {data : MonsterSpawn K}
    {i : Nat} (hdata : spawns[i]? = some data) {labels : List (GameContext.Label K σ)}
    {t : GameContext K σ} (hrun : exec (GameContext.step env) (.start spawns) labels = some t) :
    Pursues data i t := by
  have hstart : Pursues data i (.start spawns : GameContext K σ) := by
    refine ⟨[], start data, rfl, ?_⟩
    rw [GameContext.start_hunt, hdata]
    rfl
  refine exec_inv ?_ hstart hrun
  rintro s label s' ⟨ops, p, hexec, hi⟩ hstep
  obtain ⟨ops', p', hexec', hi'⟩ := step_pursues hstep hi
  exact ⟨ops ++ ops', p', exec_append_some.mpr ⟨p, hexec, hexec'⟩, hi'⟩

end Pursuit

end MMOServers.GameServer

/-
MMOServers.StressTestTool.StressTestTheorems — the manager's books against the
bots themselves.

`active_connections_` is the number of bots in game, in every run and whatever
the connections do (`always_counted`).

The rest of the manager's bookkeeping rests on a session being reported once.
`Stop` sees to it with `state_`, and that works as long as no connect that
succeeded before `Stop` closed the socket has its handler run after it
(`NoLateConnect`). Then the test is a run of the manager as `StressManager`
describes it, and `sessions_` are exactly the sessions that `Stop` has not
taken down (`always_refines`). The example at the end is a bot that was brought
back that way: it is reported twice and its id is handed out twice.
-/
import MMOServers.StressTestTool.BotSessionTheorems
import MMOServers.StressTestTool.StressTest
import MMOServers.StressTestTool.StressManagerTheorems
import Mathlib.Algebra.Ring.Int.Defs
import Mathlib.Data.Finset.Card
import Mathlib.Data.Finset.Range

namespace MMOServers.StressTestTool

open MMOServers.Common Transition

namespace StressTest

variable {F Key : Type} {env : BotEnv F Key} {spawnPoint : Nat → F × F}

/-! ## Spawning -/

@[simp] theorem spawn_manager (s : StressTest F Key) :
    (s.spawn spawnPoint).manager = s.manager.spawn := rfl

theorem spawnLoop_manager (s : StressTest F Key) (spawnCount : Int) :
    (s.spawnLoop spawnPoint spawnCount).manager = s.manager.spawnLoop spawnCount :=
  have hsemiconj : Function.Semiconj StressTest.manager
      (fun s : StressTest F Key => s.spawn spawnPoint) StressManager.spawn := fun _ => rfl
  hsemiconj.iterate_right spawnCount.toNat s

theorem manager_spawn_nextPointer (m : StressManager) :
    m.spawn.nextPointer = m.nextPointer + 1 := by
  unfold StressManager.spawn StressManager.acquireBotId
  cases m.reusableIds <;> rfl

theorem manager_spawn_activeConnections (m : StressManager) :
    m.spawn.activeConnections = m.activeConnections := by
  unfold StressManager.spawn StressManager.acquireBotId
  cases m.reusableIds <;> rfl

theorem manager_spawn_sessions (m : StressManager) :
    m.spawn.sessions = m.sessions.insert ⟨m.nextPointer, m.acquireBotId.1⟩ := by
  unfold StressManager.spawn StressManager.acquireBotId
  cases m.reusableIds <;> rfl

/-- What a spawned bot keeps, both spawning loops keep. -/
theorem spawnLoop_keeps {P : StressTest F Key → Prop} (hspawn : ∀ s, P s → P (s.spawn spawnPoint))
    {s : StressTest F Key} (h : P s) (spawnCount : Int) : P (s.spawnLoop spawnPoint spawnCount) :=
  Function.Iterate.rec P h hspawn spawnCount.toNat

theorem reconnectTick_keeps {P : StressTest F Key → Prop}
    (hspawn : ∀ s, P s → P (s.spawn spawnPoint)) {s : StressTest F Key} (h : P s) :
    P (s.reconnectTick spawnPoint) := by
  unfold reconnectTick
  dsimp only
  split
  · exact spawnLoop_keeps hspawn h _
  · exact h

/-! ## Bots in game -/

def inGame (s : StressTest F Key) : Finset Nat :=
  (Finset.range s.manager.nextPointer).filter fun pointer => (s.bots pointer).state = .inGame

theorem mem_inGame {s : StressTest F Key} {pointer : Nat} :
    pointer ∈ s.inGame ↔
      pointer < s.manager.nextPointer ∧ (s.bots pointer).state = .inGame := by
  rw [inGame, Finset.mem_filter, Finset.mem_range]

/-- The bots are orderly, and the manager has counted those in game. -/
structure Counted (s : StressTest F Key) : Prop where
  orderly : ∀ pointer < s.manager.nextPointer, (s.bots pointer).Orderly
  active : s.manager.activeConnections = s.inGame.card

theorem spawn_counted {s : StressTest F Key} (h : s.Counted) : (s.spawn spawnPoint).Counted := by
  have hnext := manager_spawn_nextPointer s.manager
  constructor
  · intro pointer hpointer
    rw [spawn_manager, hnext] at hpointer
    rcases Nat.lt_succ_iff_lt_or_eq.mp hpointer with hold | rfl
    · show (Function.update s.bots s.manager.nextPointer _ pointer).Orderly
      rw [Function.update_of_ne (Nat.ne_of_lt hold)]
      exact h.orderly pointer hold
    · show (Function.update s.bots s.manager.nextPointer _ s.manager.nextPointer).Orderly
      rw [Function.update_self]
      exact BotSession.start_orderly rfl
  · rw [spawn_manager, manager_spawn_activeConnections, h.active]
    congr 2
    ext pointer
    rw [mem_inGame, mem_inGame, spawn_manager, hnext]
    by_cases hself : pointer = s.manager.nextPointer
    · subst hself
      simp [spawn, BotSession.start, BotSession.connect]
    · simp only [spawn, Function.update_of_ne hself]
      exact and_congr_left fun _ => by omega

/-! ## The step of a bot -/

/-- The state after a bot's step. -/
def afterBot (s : StressTest F Key) (pointer : Nat) (bot : BotSession F Key)
    (calls : List ManagerCall) : StressTest F Key :=
  { manager := calls.foldl (carryOut (s.sessionAt pointer)) s.manager
    bots := Function.update s.bots pointer bot }

theorem carryOut_nextPointer (session : StressSession) (m : StressManager)
    (calls : List ManagerCall) :
    (calls.foldl (carryOut session) m).nextPointer = m.nextPointer := by
  induction calls generalizing m with
  | nil => rfl
  | cons call calls ih =>
      rw [List.foldl_cons, ih]
      cases call <;> rfl

theorem mem_inGame_afterBot {s : StressTest F Key} {pointer other : Nat}
    {bot : BotSession F Key} {calls : List ManagerCall} :
    other ∈ (s.afterBot pointer bot calls).inGame ↔
      if other = pointer then pointer < s.manager.nextPointer ∧ bot.state = .inGame
      else other ∈ s.inGame := by
  rw [mem_inGame]
  show other < (calls.foldl _ s.manager).nextPointer ∧ _ ↔ _
  rw [carryOut_nextPointer]
  split
  · rename_i hself
    subst hself
    simp [afterBot]
  · rename_i hother
    simp only [afterBot, Function.update_of_ne hother, mem_inGame]

theorem afterBot_counted {s : StressTest F Key} (h : s.Counted) {pointer : Nat}
    (hpointer : pointer < s.manager.nextPointer) {label : BotSession.Label F}
    {bot : BotSession F Key} {calls : List ManagerCall}
    (hstepped : BotSession.Stepped (s.bots pointer) label bot calls) :
    (s.afterBot pointer bot calls).Counted := by
  constructor
  · intro other hother
    show (Function.update s.bots pointer bot other).Orderly
    by_cases hself : other = pointer
    · subst hself
      rw [Function.update_self]
      exact hstepped.orderly
    · rw [Function.update_of_ne hself]
      refine h.orderly other ?_
      rwa [afterBot, carryOut_nextPointer] at hother
  · have hactive := h.active
    cases hstepped.effect with
    | silent game gone =>
        have hsame : (s.afterBot pointer bot []).inGame = s.inGame := by
          ext other
          rw [mem_inGame_afterBot]
          split
          · rename_i hself
            rw [hself, mem_inGame, game]
          · rfl
        rw [hsame]
        exact hactive
    | admitted before after =>
        have hnew : pointer ∉ s.inGame := by
          rw [mem_inGame, before]
          exact fun hmem => BotState.noConfusion hmem.2
        have hinsert : (s.afterBot pointer bot [.onSessionConnected]).inGame
            = insert pointer s.inGame := by
          ext other
          rw [mem_inGame_afterBot, Finset.mem_insert]
          split
          · rename_i hself
            exact iff_of_true ⟨hpointer, after⟩ (Or.inl hself)
          · rename_i hother
            exact (or_iff_right hother).symm
        rw [hinsert, Finset.card_insert_of_notMem hnew]
        show s.manager.activeConnections + 1 = _
        rw [hactive, Int.natCast_add, Int.natCast_one]
    | reported before after =>
        have herase : (s.afterBot pointer bot
            [.onSessionDisconnected (decide ((s.bots pointer).state = .inGame))]).inGame
              = s.inGame.erase pointer := by
          ext other
          rw [mem_inGame_afterBot, Finset.mem_erase]
          split
          · rename_i hself
            rw [after]
            exact iff_of_false (fun hmem => BotState.noConfusion hmem.2) fun hmem => hmem.1 hself
          · rename_i hother
            exact (and_iff_right hother).symm
        rw [herase]
        by_cases hgame : (s.bots pointer).state = .inGame
        · have hmem : pointer ∈ s.inGame := mem_inGame.mpr ⟨hpointer, hgame⟩
          have hpos : 0 < s.inGame.card := Finset.card_pos.mpr ⟨pointer, hmem⟩
          rw [Finset.card_erase_of_mem hmem]
          simp only [afterBot, List.foldl_cons, List.foldl_nil, carryOut,
            StressManager.onSessionDisconnected, hgame, decide_true, if_true]
          omega
        · have hmem : pointer ∉ s.inGame := fun hmem => hgame (mem_inGame.mp hmem).2
          rw [Finset.erase_eq_of_notMem hmem, ← hactive]
          simp [afterBot, carryOut, StressManager.onSessionDisconnected, hgame]

/-! ## The run of the manager -/

/-- The session was made, and `Stop` has not taken it down. -/
structure Live (s : StressTest F Key) (session : StressSession) : Prop where
  made : session.pointer < s.manager.nextPointer
  known : session = s.sessionAt session.pointer
  running : (s.bots session.pointer).state ≠ .disconnected

/-- No connect succeeds in a session that `Stop` has taken down. -/
def NoLateConnect (s : StressTest F Key) : Label F → Prop
  | .bot pointer label => ¬ (s.bots pointer).revives label
  | _ => True

instance (s : StressTest F Key) (label : Label F) : Decidable (s.NoLateConnect label) :=
  match label with
  | .scheduleNextSpawn => isTrue trivial
  | .reconnectTick => isTrue trivial
  | .bot pointer label => inferInstanceAs (Decidable (¬ (s.bots pointer).revives label))

/-- The manager has gone through a run of its own, `sessions_` are the live
    sessions, and the ids are accounted for. -/
structure Refines (target rate : Int) (s : StressTest F Key) : Prop where
  run : ∃ labels, exec StressManager.step (.start target rate) labels = some s.manager
  sessions : ∀ session, session ∈ s.manager.sessions ↔ s.Live session
  bots : s.manager.BotsAccounted target

structure Mirrored (target rate : Int) (s : StressTest F Key) : Prop where
  counted : s.Counted
  accounted : s.manager.Accounted target
  run : ∃ labels, exec StressManager.step (.start target rate) labels = some s.manager
  sessions : ∀ session, session ∈ s.manager.sessions ↔ s.Live session

/-- The manager takes one more step. -/
theorem manager_goes {target rate : Int} {m m' : StressManager} {label : StressManager.Label}
    (h : ∃ labels, exec StressManager.step (.start target rate) labels = some m)
    (hstep : m.step label = some m') :
    ∃ labels, exec StressManager.step (.start target rate) labels = some m' := by
  obtain ⟨labels, hrun⟩ := h
  refine ⟨labels ++ [label], exec_append_some.mpr ⟨m, hrun, ?_⟩⟩
  exact exec_cons_some.mpr ⟨m', hstep, rfl⟩

/-- A spawned bot is one more live session. -/
theorem spawn_sessions {s : StressTest F Key}
    (h : ∀ session, session ∈ s.manager.sessions ↔ s.Live session) (session : StressSession) :
    session ∈ (s.spawn spawnPoint).manager.sessions ↔ (s.spawn spawnPoint).Live session := by
  have hnext := manager_spawn_nextPointer s.manager
  rw [spawn_manager, manager_spawn_sessions, List.mem_insert_iff, h]
  obtain ⟨pointer, accountId⟩ := session
  by_cases hself : pointer = s.manager.nextPointer
  · subst hself
    constructor
    · rintro (hnew | hold)
      · refine ⟨by rw [spawn_manager, hnext]; exact Nat.lt_succ_self _, ?_, ?_⟩
        · rw [hnew]
          simp [sessionAt, spawn, BotSession.start, BotSession.connect]
        · simp [spawn, BotSession.start, BotSession.connect]
      · exact absurd hold.made (Nat.lt_irrefl _)
    · intro hlive
      refine Or.inl (hlive.known.trans ?_)
      simp [sessionAt, spawn, BotSession.start, BotSession.connect]
  · have hother : (s.spawn spawnPoint).bots pointer = s.bots pointer :=
      Function.update_of_ne hself ..
    constructor
    · rintro (hnew | hold)
      · exact absurd (congrArg StressSession.pointer hnew) hself
      · refine ⟨?_, ?_, ?_⟩
        · rw [spawn_manager, hnext]
          exact Nat.lt_succ_of_lt hold.made
        · rw [sessionAt, hother]
          exact hold.known
        · rw [hother]
          exact hold.running
    · intro hlive
      refine Or.inr ⟨?_, ?_, ?_⟩
      · have hmade := hlive.made
        rw [spawn_manager, hnext] at hmade
        exact Nat.lt_of_le_of_ne (Nat.le_of_lt_succ hmade) hself
      · have hknown := hlive.known
        rwa [sessionAt, hother] at hknown
      · have hrunning := hlive.running
        rwa [hother] at hrunning

theorem live_afterBot {s : StressTest F Key} {pointer : Nat} {bot : BotSession F Key}
    {calls : List ManagerCall} (haccount : bot.accountId = (s.bots pointer).accountId)
    {session : StressSession} :
    (s.afterBot pointer bot calls).Live session ↔
      session.pointer < s.manager.nextPointer ∧ session = s.sessionAt session.pointer ∧
        (if session.pointer = pointer then bot.state ≠ .disconnected
          else (s.bots session.pointer).state ≠ .disconnected) := by
  have hnext : (s.afterBot pointer bot calls).manager.nextPointer = s.manager.nextPointer :=
    carryOut_nextPointer _ _ _
  have hparts : (s.afterBot pointer bot calls).Live session ↔
      session.pointer < s.manager.nextPointer ∧
        session = (s.afterBot pointer bot calls).sessionAt session.pointer ∧
        ((s.afterBot pointer bot calls).bots session.pointer).state ≠ .disconnected :=
    ⟨fun h => ⟨hnext ▸ h.made, h.known, h.running⟩, fun h => ⟨hnext ▸ h.1, h.2.1, h.2.2⟩⟩
  rw [hparts]
  split
  · rename_i hself
    simp [sessionAt, afterBot, hself, haccount]
  · rename_i hother
    simp [sessionAt, afterBot, Function.update_of_ne hother]

theorem sessions_nodup {target : Int} {m : StressManager}
    (h : m.Accounted target) : m.sessions.Nodup :=
  (List.nodup_append.mp h.bots.distinct).1.of_map _

/-- A bot's step that does not bring it back is a step of the manager, or none. -/
theorem afterBot_mirrored {target rate : Int} {s : StressTest F Key}
    (h : Mirrored target rate s) {pointer : Nat} (hpointer : pointer < s.manager.nextPointer)
    {label : BotSession.Label F} {bot : BotSession F Key} {calls : List ManagerCall}
    (hstepped : BotSession.Stepped (s.bots pointer) label bot calls)
    (hrevives : ¬ (s.bots pointer).revives label) :
    Mirrored target rate (s.afterBot pointer bot calls) := by
  have hcounted := afterBot_counted h.counted hpointer hstepped
  have hlive : ∀ {calls : List ManagerCall} session,
      (s.afterBot pointer bot calls).Live session ↔ _ :=
    fun session => live_afterBot hstepped.accountId
  cases hstepped.effect with
  | silent game gone =>
      refine ⟨hcounted, h.accounted, h.run, fun session => ?_⟩
      rw [hlive]
      show session ∈ s.manager.sessions ↔ _
      rw [h.sessions]
      split
      · rename_i hself
        have hgone := not_congr (gone hrevives)
        rw [← hself] at hgone
        rw [ne_eq, hgone]
        exact ⟨fun l => ⟨l.made, l.known, l.running⟩, fun l => ⟨l.1, l.2.1, l.2.2⟩⟩
      · exact ⟨fun l => ⟨l.made, l.known, l.running⟩, fun l => ⟨l.1, l.2.1, l.2.2⟩⟩
  | admitted before after =>
      have hstep : s.manager.step .sessionConnected = some s.manager.onSessionConnected := rfl
      refine ⟨hcounted, StressManager.step_accounted h.accounted hstep, manager_goes h.run hstep,
        fun session => ?_⟩
      rw [hlive]
      show session ∈ s.manager.sessions ↔ _
      rw [h.sessions]
      split
      · rename_i hself
        have hbefore : (s.bots session.pointer).state ≠ .disconnected := by
          rw [hself, before]
          exact BotState.noConfusion
        have hafter : bot.state ≠ .disconnected := by
          rw [after]
          exact BotState.noConfusion
        exact ⟨fun l => ⟨l.made, l.known, hafter⟩, fun l => ⟨l.1, l.2.1, hbefore⟩⟩
      · exact ⟨fun l => ⟨l.made, l.known, l.running⟩, fun l => ⟨l.1, l.2.1, l.2.2⟩⟩
  | reported before after =>
      have hmem : s.sessionAt pointer ∈ s.manager.sessions :=
        (h.sessions _).mpr ⟨hpointer, rfl, before⟩
      have hstep : s.manager.step (.sessionDisconnected (s.sessionAt pointer)
          (decide ((s.bots pointer).state = .inGame)))
            = some (s.manager.onSessionDisconnected (s.sessionAt pointer)
                (decide ((s.bots pointer).state = .inGame))) := if_pos hmem
      refine ⟨hcounted, StressManager.step_accounted h.accounted hstep, manager_goes h.run hstep,
        fun session => ?_⟩
      rw [hlive]
      show session ∈ s.manager.sessions.erase (s.sessionAt pointer) ↔ _
      rw [(sessions_nodup h.accounted).mem_erase_iff, h.sessions]
      split
      · rename_i hself
        refine iff_of_false ?_ fun l => l.2.2 after
        rintro ⟨hne, l⟩
        exact hne (hself ▸ l.known)
      · rename_i hother
        refine ⟨fun l => ⟨l.2.made, l.2.known, l.2.running⟩, fun l => ⟨?_, l.1, l.2.1, l.2.2⟩⟩
        rintro rfl
        exact hother rfl

/-! ## Runs -/

variable [Add F] [Zero F]

/-- A step spawns bots, or it is the step of a bot. -/
theorem step_bot {s s' : StressTest F Key} {pointer : Nat} {label : BotSession.Label F}
    (hstep : s.step env spawnPoint (.bot pointer label) = some s') :
    pointer < s.manager.nextPointer ∧ ∃ bot calls,
      (s.bots pointer).step env label = some (bot, calls) ∧ s' = s.afterBot pointer bot calls := by
  simp only [step] at hstep
  split at hstep
  · rename_i hpointer
    split at hstep
    · cases hstep
    · rename_i bot calls hbot
      exact ⟨hpointer, bot, calls, hbot, (Option.some.inj hstep).symm⟩
  · cases hstep

theorem step_counted {s s' : StressTest F Key} {label : Label F} (h : s.Counted)
    (hstep : s.step env spawnPoint label = some s') : s'.Counted := by
  cases label with
  | scheduleNextSpawn =>
      obtain rfl := Option.some.inj hstep
      exact spawnLoop_keeps (fun _ h => spawn_counted h) h _
  | reconnectTick =>
      obtain rfl := Option.some.inj hstep
      exact reconnectTick_keeps (fun _ h => spawn_counted h) h
  | bot pointer label =>
      obtain ⟨hpointer, bot, calls, hbot, rfl⟩ := step_bot hstep
      have hstepped := BotSession.step_stepped env (h.orderly pointer hpointer) hbot
      exact afterBot_counted h hpointer hstepped

/-- The count of the bots in game is right in every state of every run. -/
theorem always_counted (env : BotEnv F Key) (spawnPoint : Nat → F × F) (target rate : Int)
    (nowhere : BotSession F Key) (labels : List (Label F)) :
    Always (step env spawnPoint) (fun s => s.manager.activeConnections = s.inGame.card)
      (start target rate nowhere) labels := by
  have hstart : (start target rate nowhere).Counted :=
    ⟨fun pointer hpointer => absurd hpointer (Nat.not_lt_zero pointer), rfl⟩
  have hmeets : Meets (step env spawnPoint) (fun _ _ => True) (start target rate nowhere) labels :=
    meets_true
  exact (always_of_meets (fun h _ hstep => step_counted h hstep) hstart hmeets).imp
    fun _ h => h.active

theorem step_mirrored {target rate : Int} {s s' : StressTest F Key} {label : Label F}
    (h : Mirrored target rate s) (hlate : s.NoLateConnect label)
    (hstep : s.step env spawnPoint label = some s') : Mirrored target rate s' := by
  cases label with
  | scheduleNextSpawn =>
      have hcounted := step_counted h.counted hstep
      obtain rfl := Option.some.inj hstep
      have hmanager : s.manager.step .scheduleNextSpawn
          = some (s.scheduleNextSpawn spawnPoint).manager :=
        congrArg some (spawnLoop_manager s _).symm
      exact ⟨hcounted, StressManager.step_accounted h.accounted hmanager,
        manager_goes h.run hmanager,
        spawnLoop_keeps (P := fun s => ∀ session, session ∈ s.manager.sessions ↔ s.Live session)
          (fun _ => spawn_sessions) h.sessions _⟩
  | reconnectTick =>
      have hcounted := step_counted h.counted hstep
      obtain rfl := Option.some.inj hstep
      have hmanager : s.manager.step .reconnectTick
          = some (s.reconnectTick spawnPoint).manager := by
        unfold reconnectTick
        simp only [StressManager.step, StressManager.reconnectTick]
        split
        · rw [spawnLoop_manager]
        · rfl
      exact ⟨hcounted, StressManager.step_accounted h.accounted hmanager,
        manager_goes h.run hmanager,
        reconnectTick_keeps (P := fun s => ∀ session, session ∈ s.manager.sessions ↔ s.Live session)
          (fun _ => spawn_sessions) h.sessions⟩
  | bot pointer label =>
      obtain ⟨hpointer, bot, calls, hbot, rfl⟩ := step_bot hstep
      exact afterBot_mirrored h hpointer
        (BotSession.step_stepped env (h.counted.orderly pointer hpointer) hbot) hlate

/-- Without late connects the test is a run of the manager, with the live sessions
    as its sessions. -/
theorem always_refines (env : BotEnv F Key) (spawnPoint : Nat → F × F) (target rate : Int)
    (nowhere : BotSession F Key) (labels : List (Label F))
    (hlate : Meets (step env spawnPoint) NoLateConnect (start target rate nowhere) labels) :
    Always (step env spawnPoint) (Refines target rate) (start target rate nowhere) labels := by
  have hstart : Mirrored target rate (start target rate nowhere) := by
    refine ⟨⟨fun pointer hpointer => absurd hpointer (Nat.not_lt_zero pointer), rfl⟩,
      StressManager.start_accounted target rate, ⟨[], rfl⟩, fun session => ?_⟩
    exact iff_of_false List.not_mem_nil fun hlive => Nat.not_lt_zero _ hlive.made
  exact (always_of_meets (fun h hlate hstep => step_mirrored h hlate hstep) hstart hlate).imp
    fun _ h => ⟨h.run, h.sessions, h.accounted.bots⟩

/-! ## One bot -/

def noBot : BotSession Int Unit := { accountId := "", x := 0, y := 0 }

/-- The bot reads a packet with a payload of one byte. -/
def receive (pktId : UInt16) : List (Label Int) :=
  [.bot 0 (.headerRead ⟨5, pktId⟩), .bot 0 (.payloadRead 1 [0] none)]

/-- The bot writes the one-byte request that it has posted in this buffer. -/
def sendOut (buffer : Nat) (pktId : UInt16) (byte : UInt8) : List (Label Int) :=
  [.bot 0 .runTask, .bot 0 (.writeEnds ⟨buffer, BotSession.frame pktId [byte]⟩ true)]

def toWorldSelect : List (Label Int) :=
  [.scheduleNextSpawn, .bot 0 (.connectEnds .login true none)] ++
    sendOut 0 PacketId.clientLoginLoginReq 1 ++ receive PacketId.loginClientLoginRes

/-- A bot that gets into the game, loses its connection and is replaced. -/
theorem always_refines_reconnect :
    Always (step BotEnv.sample fun _ => (0, 0)) (Refines 1 1) (start 1 1 noBot)
      (toWorldSelect ++ sendOut 1 PacketId.clientLoginWorldSelectReq 10 ++
        receive PacketId.loginClientWorldSelectRes ++
        [.bot 0 (.connectEnds .gateway true none)] ++
        sendOut 2 PacketId.clientGatewayConnectReq 20 ++ receive PacketId.gatewayClientConnectRes ++
        [.bot 0 (.readFails (.readHeader true)), .bot 0 .runTask, .reconnectTick]) :=
  always_refines _ _ _ _ _ _ (by decide +kernel)

/-- A second answer to the login makes a second request, whose write the change
    over to the gateway breaks off. `Stop` runs, then the handler of the connect. -/
example :
    (exec (step BotEnv.sample fun _ => (0, 0)) (start 1 1 noBot)
      (toWorldSelect ++ receive PacketId.loginClientLoginRes ++
        sendOut 1 PacketId.clientLoginWorldSelectReq 10 ++ [.bot 0 .runTask] ++
        receive PacketId.loginClientWorldSelectRes ++
        [.bot 0 (.writeEnds ⟨2, BotSession.frame PacketId.clientLoginWorldSelectReq [10]⟩ false),
          .bot 0 .runTask, .bot 0 (.connectEnds .gateway true none),
          .bot 0 (.readFails (.readHeader false)), .bot 0 .runTask, .bot 0 .runTask])).map
      (fun t => (t.manager.currentSpawned, t.manager.reusableIds))
      = some (-1, ["BOT_STRESS_0", "BOT_STRESS_0"]) := by
  decide +kernel

end StressTest

end MMOServers.StressTestTool

/-
MMOServers.StressTestTool.StressManager — who the bots of a stress test log in as.

Two timers spawn bots, the ramp-up and the reconnect loop, and a bot that loses
its connection hands its id back. All three run with `manager_mtx_` held, so
each is one step, and a run is any order of them. The timers only decide when a
step is taken.

`sessions_` is a set of pointers that is never iterated over; it is a list here,
and a session is its pointer with the id it was made with. `make_shared` returns
a pointer that no live session has. The counters are `int` in the program; none
of them can leave the range of `target_connections_`.
-/
import Mathlib.Logic.Function.Iterate
import Mathlib.Data.List.Basic

namespace MMOServers.StressTestTool

/-- `StressSession`, as far as its manager knows it. -/
structure StressSession where
  pointer : Nat
  accountId : String
  deriving DecidableEq

/-- `class StressManager`. -/
structure StressManager where
  targetConnections : Int
  spawnRatePerSec : Int
  currentSpawned : Int := 0
  totalSpawnCount : Nat := 0
  sessions : List StressSession := []
  reusableIds : List String := []
  activeConnections : Int := 0
  nextPointer : Nat := 0
  deriving DecidableEq

/-- The id of a bot that was never there before. -/
def botId (n : Nat) : String := "BOT_STRESS_" ++ toString n

namespace StressManager

/-- `AcquireBotId`. -/
def acquireBotId (s : StressManager) : String × StressManager :=
  match s.reusableIds with
  | reusedId :: rest => (reusedId, { s with reusableIds := rest })
  | [] => (botId s.totalSpawnCount, { s with totalSpawnCount := s.totalSpawnCount + 1 })

/-- The body of the two spawn loops. -/
def spawn (s : StressManager) : StressManager :=
  let (id, s) := s.acquireBotId
  { s with sessions := s.sessions.insert ⟨s.nextPointer, id⟩
           nextPointer := s.nextPointer + 1
           currentSpawned := s.currentSpawned + 1 }

/-- `for (int i = 0; i < spawn_count; ++i)`. -/
def spawnLoop (s : StressManager) (spawnCount : Int) : StressManager :=
  spawn^[spawnCount.toNat] s

/-- `ScheduleNextSpawn`. -/
def scheduleNextSpawn (s : StressManager) : StressManager :=
  s.spawnLoop (min s.spawnRatePerSec (s.targetConnections - s.currentSpawned))

/-- The handler of `StartReconnectLoop`. -/
def reconnectTick (s : StressManager) : StressManager :=
  let deficit := s.targetConnections - s.currentSpawned
  if deficit > 0 then s.spawnLoop (min s.spawnRatePerSec deficit) else s

/-- `OnSessionConnected`. -/
def onSessionConnected (s : StressManager) : StressManager :=
  { s with activeConnections := s.activeConnections + 1 }

/-- `OnSessionDisconnected`. -/
def onSessionDisconnected (s : StressManager) (session : StressSession) (wasInGame : Bool) :
    StressManager :=
  { s with
      activeConnections := if wasInGame then s.activeConnections - 1 else s.activeConnections
      reusableIds := if session.accountId.isEmpty then s.reusableIds
        else s.reusableIds ++ [session.accountId]
      sessions := s.sessions.erase session
      currentSpawned := s.currentSpawned - 1 }

/-! ## Steps -/

inductive Label where
  | scheduleNextSpawn
  | reconnectTick
  | sessionConnected
  | sessionDisconnected (session : StressSession) (wasInGame : Bool)

/-- `Stop` calls `OnSessionDisconnected` once, so only for a live session. -/
def step (s : StressManager) : Label → Option StressManager
  | .scheduleNextSpawn => some s.scheduleNextSpawn
  | .reconnectTick => some s.reconnectTick
  | .sessionConnected => some s.onSessionConnected
  | .sessionDisconnected session wasInGame =>
      if session ∈ s.sessions then some (s.onSessionDisconnected session wasInGame) else none

/-- The manager as it is constructed. -/
def start (targetConnections spawnRatePerSec : Int) : StressManager :=
  { targetConnections := targetConnections, spawnRatePerSec := spawnRatePerSec }

end StressManager

end MMOServers.StressTestTool

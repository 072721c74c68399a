/-
MMOServers.StressTestTool.StressTest — a manager and all its bots.

The manager knows its sessions by their pointers, and `bots` is what each of
these points to. The steps are those of the manager's timers, which spawn bots,
and those of any bot, whose calls the manager carries out. Two bots run on two
strands, so their steps come in any order.

Seen from the manager the whole test is a run of `StressManager` as long as a
session is reported at most once, which its own steps take for granted
(`step_refines` in `StressTestTheorems`).
-/
import MMOServers.StressTestTool.BotSession
import MMOServers.StressTestTool.StressManager
import Mathlib.Logic.Function.Basic

namespace MMOServers.StressTestTool

structure StressTest (F Key : Type) where
  manager : StressManager
  bots : Nat → BotSession F Key

namespace StressTest

variable {F Key : Type} (env : BotEnv F Key)

/-- `make_shared<StressSession>` at a random place, and `Start`. -/
def spawn (spawnPoint : Nat → F × F) (s : StressTest F Key) : StressTest F Key :=
  let pointer := s.manager.nextPointer
  let bot : BotSession F Key :=
    { accountId := s.manager.acquireBotId.1
      x := (spawnPoint pointer).1
      y := (spawnPoint pointer).2 }
  { manager := s.manager.spawn, bots := Function.update s.bots pointer bot.start }

def spawnLoop (spawnPoint : Nat → F × F) (s : StressTest F Key) (spawnCount : Int) :
    StressTest F Key :=
  (spawn spawnPoint)^[spawnCount.toNat] s

/-- `ScheduleNextSpawn`. -/
def scheduleNextSpawn (spawnPoint : Nat → F × F) (s : StressTest F Key) : StressTest F Key :=
  s.spawnLoop spawnPoint
    (min s.manager.spawnRatePerSec (s.manager.targetConnections - s.manager.currentSpawned))

/-- The handler of `StartReconnectLoop`. -/
def reconnectTick (spawnPoint : Nat → F × F) (s : StressTest F Key) : StressTest F Key :=
  let deficit := s.manager.targetConnections - s.manager.currentSpawned
  if deficit > 0 then s.spawnLoop spawnPoint (min s.manager.spawnRatePerSec deficit) else s

/-- A call of the session at `pointer`. -/
def carryOut (session : StressSession) (m : StressManager) : ManagerCall → StressManager
  | .onSessionConnected => m.onSessionConnected
  | .onSessionDisconnected wasInGame => m.onSessionDisconnected session wasInGame

inductive Label (F : Type) where
  | scheduleNextSpawn
  | reconnectTick
  | bot (pointer : Nat) (label : BotSession.Label F)

/-- The session at a pointer as the manager knows it. -/
def sessionAt (s : StressTest F Key) (pointer : Nat) : StressSession :=
  ⟨pointer, (s.bots pointer).accountId⟩

variable [Add F] [Zero F]

def step (spawnPoint : Nat → F × F) (s : StressTest F Key) :
    Label F → Option (StressTest F Key)
  | .scheduleNextSpawn => some (s.scheduleNextSpawn spawnPoint)
  | .reconnectTick => some (s.reconnectTick spawnPoint)
  | .bot pointer label =>
      if pointer < s.manager.nextPointer then
        match (s.bots pointer).step env label with
        | none => none
        | some (bot, calls) =>
            some { manager := calls.foldl (carryOut (s.sessionAt pointer)) s.manager
                   bots := Function.update s.bots pointer bot }
      else none

/-- A test that was not started yet. Where no session was made nothing is
    pointed to. -/
def start (target rate : Int) (nowhere : BotSession F Key) : StressTest F Key :=
  { manager := .start target rate, bots := fun _ => nowhere }

end StressTest

end MMOServers.StressTestTool

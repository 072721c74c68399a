/-
MMOServers.GameServer.GatewaySession — the sessions of the gateways.

A `GatewaySession` reads in a loop, a header, its payload, the next header. What
it reads becomes a task of `game_strand_`, and so does the clean-up that
`OnDisconnected` asks for. `GameNetworkServer` is the game state with the
sessions and the strand between them; the tasks it runs are the steps of
`GameContext`. Tasks that do not come from a session (of the world server, the
AI, the path search) may run at any time.

`disconnected` is a history variable: whether `OnDisconnected` of the session
has run.

Reading stops in one of two ways. A failed read goes through `OnDisconnected`,
which takes the session out of `gatewaySessions` and posts the clean-up. A header
with a size out of range ends in a bare `return`, and nothing is cleaned up.
-/
import MMOServers.GameServer.GatewayMapTheorems
import MMOServers.Common.PacketHeader

namespace MMOServers.GameServer

open MMOServers.Common Transition

/-- A pending `async_read`. -/
inductive GatewayRead where
  | header
  | payload (size : UInt16)
  deriving DecidableEq

structure GatewaySession where
  accepted : Bool := false
  header : PacketHeader := ⟨0, 0⟩
  reading : Option GatewayRead := none
  disconnected : Bool := false

/-- A task that a session posts to `game_strand_`. -/
inductive GameTask (σ : Type) where
  | dispatch (gw : σ) (id : UInt16) (payload : List UInt8)
  | disconnected (gw : σ)
  deriving DecidableEq

def GameTask.session {σ : Type} : GameTask σ → σ
  | .dispatch gw _ _ => gw
  | .disconnected gw => gw

/-- The step of the game that a task is. -/
def GameTask.label {K σ : Type} (order : IterationOrder) : GameTask σ → GameContext.Label K σ
  | .dispatch gw id payload => .packet gw id payload order
  | .disconnected gw => .gatewayDisconnected gw

structure GameNetworkServer (K σ : Type) where
  game : GameContext K σ
  sessions : σ → GatewaySession := fun _ => {}
  gatewaySessions : List σ := []
  gameStrand : List (GameTask σ) := []

namespace GameNetworkServer

variable {K σ : Type} [DecidableEq σ]

/-! ## Sessions -/

def setSession (s : GameNetworkServer K σ) (gw : σ) (c : GatewaySession) : GameNetworkServer K σ :=
  { s with sessions := Function.update s.sessions gw c }

def post (s : GameNetworkServer K σ) (task : GameTask σ) : GameNetworkServer K σ :=
  { s with gameStrand := s.gameStrand ++ [task] }

/-- `do_accept`. -/
def accept (s : GameNetworkServer K σ) (gw : σ) : GameNetworkServer K σ :=
  { s.setSession gw { s.sessions gw with accepted := true, reading := some .header } with
      gatewaySessions := s.gatewaySessions.insert gw }

/-- `GatewaySession::OnDisconnected`. -/
def onDisconnected (s : GameNetworkServer K σ) (gw : σ) : GameNetworkServer K σ :=
  { (s.setSession gw { s.sessions gw with reading := none, disconnected := true }).post
      (.disconnected gw) with
    gatewaySessions := s.gatewaySessions.filter (· ≠ gw) }

/-- The callback of `ReadHeader`. -/
def headerRead (s : GameNetworkServer K σ) (gw : σ) (h : PacketHeader) : GameNetworkServer K σ :=
  let c := { s.sessions gw with header := h, reading := none }
  let size := PacketHeader.payloadSize h.size
  if h.size.toNat < PacketHeader.byteSize ∨ maxPacketSize < h.size.toNat then s.setSession gw c
  else if size = 0 then
    (s.post (.dispatch gw h.id [])).setSession gw { c with reading := some .header }
  else if !validatePayloadSize size then s.setSession gw c
  else s.setSession gw { c with reading := some (.payload size) }

/-- The callback of `ReadPayload`. -/
def payloadRead (s : GameNetworkServer K σ) (gw : σ) (bytes : List UInt8) : GameNetworkServer K σ :=
  (s.post (.dispatch gw (s.sessions gw).header.id bytes)).setSession gw
    { s.sessions gw with reading := some .header }

/-! ## Steps -/

inductive Label (K σ : Type) where
  | accept (gw : σ)
  | headerRead (gw : σ) (h : PacketHeader)
  | payloadRead (gw : σ) (bytes : List UInt8)
  | readFails (gw : σ)
  /-- The next task that a session has posted. -/
  | runGameStrand (order : IterationOrder)
  /-- A task that no session has posted. -/
  | otherTask (label : GameContext.Label K σ)

variable [Field K] [LinearOrder K] [FloorRing K] [HasSqrt K] (env : GameEnv K)

def step (s : GameNetworkServer K σ) : Label K σ → Option (GameNetworkServer K σ)
  | .accept gw => if (s.sessions gw).accepted then none else some (s.accept gw)
  | .headerRead gw h =>
      if (s.sessions gw).reading = some .header then some (s.headerRead gw h) else none
  | .payloadRead gw bytes =>
      match (s.sessions gw).reading with
      | some (.payload size) =>
          if bytes.length = size.toNat then some (s.payloadRead gw bytes) else none
      | _ => none
  | .readFails gw =>
      if (s.sessions gw).reading = none then none else some (s.onDisconnected gw)
  | .runGameStrand order =>
      match s.gameStrand with
      | [] => none
      | task :: rest =>
          (GameContext.step env s.game (task.label order)).map fun game =>
            { s with game := game, gameStrand := rest }
  | .otherTask (.packet _ _ _ _) => none
  | .otherTask (.gatewayDisconnected _) => none
  | .otherTask label =>
      (GameContext.step env s.game label).map fun game => { s with game := game }

/-- The server before its first `async_accept` completes. -/
def start (spawns : List (MonsterSpawn K)) : GameNetworkServer K σ :=
  { game := GameContext.start spawns }

end GameNetworkServer

end MMOServers.GameServer

/-
MMOServers.StressTestTool.BotSession — one bot of a stress test.

A bot logs in, selects a world, connects to the gateway with the token it was
given and then moves or attacks at random. Its handlers and the tasks it posts
run on its strand, one at a time: a label is one handler with what the operation
ended with, or the next posted task. The random draws of the bot are part of the
label too.

`pending` are the operations of the socket that have been started and whose
handler has not run, writes apart. An operation that was started on an open
socket may end in any way, also after `close`. A read that was started on a closed
socket fails, but for a read of no bytes, which does not look at the socket and
succeeds: `live` are the reads that can succeed. `timers` counts the waits of
`action_timer_`, those that were cancelled included. What a handler tells the
manager is a list of calls, which `StressTest` carries out.

Not modelled are the two packet counters of the manager and the exception of
`make_address` for an address that is none.
-/
import MMOServers.Common.PacketCrypto
import MMOServers.Common.PacketDispatcher
import MMOServers.Common.PacketHeader
import MMOServers.Common.Protocol
import MMOServers.Lib.WriteQueue

namespace MMOServers.StressTestTool

open MMOServers.Common

/-! ## Constants -/

namespace StressConstants

def botPassword : String := "1234"
def defaultWorldId : Int32 := 1
def actionMovePercent : Nat := 70

end StressConstants

/-- The libraries a bot is linked with. -/
structure BotEnv (F Key : Type) where
  bcrypt : BCrypt Key
  parseLoginRes : List UInt8 → Option LoginRes
  parseWorldSelectRes : List UInt8 → Option WorldSelectRes
  parseConnectRes : List UInt8 → Option GatewayConnectRes
  serializeLoginReq : LoginReq → List UInt8
  serializeWorldSelectReq : WorldSelectReq → List UInt8
  serializeConnectReq : GatewayConnectReq → List UInt8
  serializeMoveReq : MoveReq F → List UInt8
  serializeAttackReq : AttackReq → List UInt8

/-- No cipher, a success in answer to everything and requests of one byte. -/
def BotEnv.sample : BotEnv Int Unit where
  bcrypt := .plain
  parseLoginRes _ := some ⟨true⟩
  parseWorldSelectRes _ := some ⟨true, "127.0.0.1", 8888, "t"⟩
  parseConnectRes _ := some ⟨true, ""⟩
  serializeLoginReq _ := [1]
  serializeWorldSelectReq _ := [10]
  serializeConnectReq _ := [20]
  serializeMoveReq _ := [24]
  serializeAttackReq _ := [26]

/-! ## The state of a bot -/

/-- `enum class BotState`. -/
inductive BotState where
  | disconnected
  | connectingLogin
  | waitingLoginRes
  | connectingGateway
  | waitingGatewayRes
  | inGame
  deriving DecidableEq

/-- Where a bot connects to. -/
inductive Server where
  | login
  | gateway
  deriving DecidableEq

/-- A pending `async_connect` or `async_read`. -/
inductive SocketOp where
  | connect (server : Server)
  | readHeader (live : Bool)
  | readPayload (size : UInt16) (live : Bool)
  deriving DecidableEq

def SocketOp.isRead : SocketOp → Bool
  | .connect _ => false
  | _ => true

/-- A task a bot has posted to its `strand_`. -/
inductive BotTask where
  | stop
  | send (p : Packet)
  deriving DecidableEq

/-- What a bot tells its manager. -/
inductive ManagerCall where
  | onSessionConnected
  | onSessionDisconnected (wasInGame : Bool)
  deriving DecidableEq

/-- `class StressSession`. -/
structure BotSession (F Key : Type) where
  accountId : String
  x : F
  y : F
  state : BotState := .disconnected
  sessionToken : String := ""
  header : PacketHeader := ⟨0, 0⟩
  socketOpen : Bool := false
  pending : List SocketOp := []
  timers : Nat := 0
  crypto : PacketCrypto Key := {}
  cryptoEnabled : Bool := false
  writes : WriteQueue Packet := {}
  strand : List BotTask := []
  nextBuffer : Nat := 0

namespace BotSession

variable {F Key : Type} (env : BotEnv F Key)

/-! ## Sending -/

/-- The payload `SendPacket` sends: what `Encrypt` made of the message, or the
    message itself when it is not encrypted or `Encrypt` failed. -/
def encode (b : BotSession F Key) (iv : Option (List UInt8)) (serialized : List UInt8) :
    List UInt8 × BotSession F Key :=
  if b.cryptoEnabled && b.crypto.initialized then
    match b.crypto.encrypt env.bcrypt iv (serialized.take (serialized.length % 65536)) with
    | (.ok data, crypto) => (data, { b with crypto := crypto })
    | (.error _, crypto) => (serialized, { b with crypto := crypto })
  else (serialized, b)

/-- The vector that is sent; its size is that of the header. -/
def frame (pktId : UInt16) (payload : List UInt8) : List UInt8 :=
  let size := UInt16.ofNat (PacketHeader.byteSize + payload.length)
  (PacketHeader.bytes ⟨size, pktId⟩ ++ payload).take size.toNat

/-- `SendPacket` of a serialized message. -/
def sendPacket (b : BotSession F Key) (iv : Option (List UInt8)) (pktId : UInt16)
    (serialized : List UInt8) : BotSession F Key :=
  let (payload, b) := b.encode env iv serialized
  { b with
      strand := b.strand ++ [.send ⟨b.nextBuffer, frame pktId payload⟩]
      nextBuffer := b.nextBuffer + 1 }

/-! ## Connecting and reading -/

/-- `Stop`. -/
def stop (b : BotSession F Key) : BotSession F Key := { b with strand := b.strand ++ [.stop] }

/-- `async_connect`, which opens the socket if it is closed. -/
def connect (b : BotSession F Key) (server : Server) : BotSession F Key :=
  { b with socketOpen := true, pending := b.pending ++ [.connect server] }

/-- `Start`, which is `ConnectToLogin`. -/
def start (b : BotSession F Key) : BotSession F Key :=
  { b with state := .connectingLogin }.connect .login

def readHeader (b : BotSession F Key) : BotSession F Key :=
  { b with pending := b.pending ++ [.readHeader b.socketOpen] }

def readPayload (b : BotSession F Key) (size : UInt16) : BotSession F Key :=
  { b with pending := b.pending ++ [.readPayload size (b.socketOpen || decide (size = 0))] }

/-- The handlers of the two connects, after a success. -/
def connected (b : BotSession F Key) (iv : Option (List UInt8)) :
    Server → BotSession F Key
  | .login =>
      ({ b with state := .waitingLoginRes }.sendPacket env iv PacketId.clientLoginLoginReq
        (env.serializeLoginReq ⟨b.accountId, StressConstants.botPassword, 1⟩)).readHeader
  | .gateway =>
      ({ b with state := .waitingGatewayRes }.sendPacket env iv PacketId.clientGatewayConnectReq
        (env.serializeConnectReq ⟨b.accountId, b.sessionToken⟩)).readHeader

/-- The payload `ReadPayload` hands on; one that does not decrypt is handed on as
    it is. -/
def openPayload (b : BotSession F Key) (bytes : List UInt8) : List UInt8 × BotSession F Key :=
  if b.cryptoEnabled && b.crypto.initialized && decide (0 < bytes.length) then
    match b.crypto.decrypt env.bcrypt bytes with
    | (.ok plain, crypto) => (plain, { b with crypto := crypto })
    | (.error _, crypto) => (bytes, { b with crypto := crypto })
  else (bytes, b)

/-! ## Packets -/

/-- `ScheduleNextAction` up to the wait. -/
def scheduleNextAction (b : BotSession F Key) : BotSession F Key :=
  if b.state ≠ .inGame then b else { b with timers := b.timers + 1 }

def handleLoginRes (b : BotSession F Key) (payload : List UInt8) (iv : Option (List UInt8)) :
    BotSession F Key :=
  match env.parseLoginRes payload with
  | some ⟨true⟩ =>
      b.sendPacket env iv PacketId.clientLoginWorldSelectReq
        (env.serializeWorldSelectReq ⟨StressConstants.defaultWorldId⟩)
  | _ => b

/-- The change over to the gateway. -/
def handleWorldSelectRes (b : BotSession F Key) (payload : List UInt8) : BotSession F Key :=
  match env.parseWorldSelectRes payload with
  | some ⟨true, _, _, token⟩ =>
      { b with sessionToken := token, state := .connectingGateway, socketOpen := false }.connect
        .gateway
  | _ => b

/-- The encryption is switched on only if the key could be made. -/
def enableCrypto (b : BotSession F Key) : BotSession F Key :=
  match b.crypto.initializeWithPassphrase env.bcrypt
      SecurityConstants.sharedPassphrase.toUTF8.toList with
  | (true, crypto) => { b with crypto := crypto, cryptoEnabled := true }
  | (false, crypto) => { b with crypto := crypto }

def handleConnectRes (b : BotSession F Key) (payload : List UInt8) :
    BotSession F Key × List ManagerCall :=
  match env.parseConnectRes payload with
  | some ⟨true, _⟩ =>
      (({ b with state := .inGame }.enableCrypto env).scheduleNextAction, [.onSessionConnected])
  | _ => (b.stop, [])

/-- `HandlePacket`. -/
def handlePacket (b : BotSession F Key) (pktId : UInt16) (payload : List UInt8)
    (iv : Option (List UInt8)) : BotSession F Key × List ManagerCall :=
  if pktId = PacketId.loginClientLoginRes ∧ b.state = .waitingLoginRes then
    (b.handleLoginRes env payload iv, [])
  else if pktId = PacketId.loginClientWorldSelectRes ∧ b.state = .waitingLoginRes then
    (b.handleWorldSelectRes env payload, [])
  else if pktId = PacketId.gatewayClientConnectRes ∧ b.state = .waitingGatewayRes then
    b.handleConnectRes env payload
  else (b, [])

/-- The handler of `ReadPayload`. -/
def payloadRead (b : BotSession F Key) (bytes : List UInt8) (iv : Option (List UInt8)) :
    BotSession F Key × List ManagerCall :=
  let (data, b) := b.openPayload env bytes
  let (b, calls) := b.handlePacket env b.header.id data iv
  if b.state ≠ .disconnected ∧ b.state ≠ .connectingGateway then (b.readHeader, calls)
  else (b, calls)

/-! ## Actions -/

variable [Add F] [Zero F]

/-- What a bot does with `action` of 1 to 100 and the two move draws. -/
def act (b : BotSession F Key) (action : Nat) (dx dy : F) (iv : Option (List UInt8)) :
    BotSession F Key :=
  if action ≤ StressConstants.actionMovePercent then
    let b := { b with x := b.x + dx, y := b.y + dy }
    b.sendPacket env iv PacketId.clientGatewayMoveReq (env.serializeMoveReq ⟨b.x, b.y, 0, 0⟩)
  else b.sendPacket env iv PacketId.clientGatewayAttackReq (env.serializeAttackReq ⟨0⟩)

/-- The handler of `action_timer_`. -/
def timerEnds (b : BotSession F Key) (ok : Bool) (action : Nat) (dx dy : F)
    (iv : Option (List UInt8)) : BotSession F Key :=
  if ok = true ∧ b.state = .inGame then (b.act env action dx dy iv).scheduleNextAction else b

/-! ## Tasks and writes -/

/-- The task of `Stop`. -/
def runStop (b : BotSession F Key) : BotSession F Key × List ManagerCall :=
  let calls :=
    if b.state ≠ .disconnected then
      [ManagerCall.onSessionDisconnected (decide (b.state = .inGame))]
    else []
  ({ b with state := .disconnected, cryptoEnabled := false, socketOpen := false
            writes := b.writes.clear }, calls)

def runTask (b : BotSession F Key) : BotTask → BotSession F Key × List ManagerCall
  | .stop => b.runStop
  | .send p => ({ b with writes := b.writes.push p }, [])

/-- The handler of `DoWrite`. A failed write leaves its packet in the queue. -/
def writeEnds (b : BotSession F Key) (p : Packet) (ok : Bool) : BotSession F Key :=
  if ok then { b with writes := b.writes.complete p }
  else { b with writes := { b.writes with outstanding := b.writes.outstanding.erase p } }.stop

/-! ## Steps -/

inductive Label (F : Type) where
  | connectEnds (server : Server) (ok : Bool) (iv : Option (List UInt8))
  | headerRead (header : PacketHeader)
  | payloadRead (size : UInt16) (bytes : List UInt8) (iv : Option (List UInt8))
  | readFails (op : SocketOp)
  | timerEnds (ok : Bool) (action : Nat) (dx dy : F) (iv : Option (List UInt8))
  | writeEnds (p : Packet) (ok : Bool)
  | runTask

/-- The handler of `op` is about to run. -/
def finished (b : BotSession F Key) (op : SocketOp) : BotSession F Key :=
  { b with pending := b.pending.erase op }

def step (b : BotSession F Key) : Label F → Option (BotSession F Key × List ManagerCall)
  | .connectEnds server ok iv =>
      if .connect server ∈ b.pending then
        let b := b.finished (.connect server)
        some (if ok then b.connected env iv server else b.stop, [])
      else none
  | .headerRead header =>
      if .readHeader true ∈ b.pending then
        some ({ b.finished (.readHeader true) with header := header }.readPayload
          (PacketHeader.payloadSize header.size), [])
      else none
  | .payloadRead size bytes iv =>
      if .readPayload size true ∈ b.pending ∧ bytes.length = size.toNat then
        some ((b.finished (.readPayload size true)).payloadRead env bytes iv)
      else none
  | .readFails op =>
      if op ∈ b.pending ∧ op.isRead = true then some ((b.finished op).stop, []) else none
  | .timerEnds ok action dx dy iv =>
      if 0 < b.timers then
        some ({ b with timers := b.timers - 1 }.timerEnds env ok action dx dy iv, [])
      else none
  | .writeEnds p ok => if p ∈ b.writes.outstanding then some (b.writeEnds p ok, []) else none
  | .runTask =>
      match b.strand with
      | [] => none
      | task :: rest => some ({ b with strand := rest }.runTask task)

end BotSession

end MMOServers.StressTestTool

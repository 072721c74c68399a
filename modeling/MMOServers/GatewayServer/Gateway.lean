/-
MMOServers.GatewayServer.Gateway — a gateway and all its client sessions.

The state is `GatewayContext` with the sessions of the server. A step is one
completed asynchronous operation with the whole callback it runs, so labels say
which operation completed and with what: bytes that arrived, an error, a clock
reading. A read callback with the handler that it dispatches to is one step, so
nothing of another thread falls into it, and runs are orders of completions.
`Handshake` takes the handlers apart whose statements other threads can come
between. Sessions are named by a type `ι` and exist from the start; `accept` sets
one going.

The link to the game server is seen from this side only: `gameOpen` is what
`socket_.is_open()` of `GameConnection` returns, and it may change at any time.

`trace` is a history variable, the newest event first. It records every
successful token verification, every packet dispatched to a handler, every
message handed to the game connection and every call of `OnDisconnected`.
-/
import MMOServers.GatewayServer.ClientSession
import MMOServers.Network.ReconnectingConnection
import Mathlib.Logic.Function.Basic

namespace MMOServers.GatewayServer

open MMOServers.Common

structure PendingToken where
  sessionToken : String
  expireTimeMs : Int

inductive Event (ι F : Type) where
  | verified (i : ι) (accountId : String)
  | dispatched (i : ι) (pktId : UInt16)
  | forwarded (i : ι) (m : ToGame F)
  | disconnected (i : ι)
  deriving DecidableEq

structure Gateway (ι F Key : Type) where
  sessions : ι → ClientSession Key := fun _ => {}
  clientMap : String → Option ι := fun _ => none
  pendingTokens : String → Option PendingToken := fun _ => none
  gameOpen : Bool := false
  ivDraws : Nat := 0
  nextBuffer : Nat := 0
  trace : List (Event ι F) := []

namespace Gateway

variable {ι F Key : Type} [DecidableEq ι] (env : GatewayEnv F Key)

/-! ## Small updates -/

def modify (s : Gateway ι F Key) (i : ι) (f : ClientSession Key → ClientSession Key) :
    Gateway ι F Key :=
  { s with sessions := Function.update s.sessions i (f (s.sessions i)) }

def setReading (s : Gateway ι F Key) (i : ι) (op : Option ReadOp) : Gateway ι F Key :=
  s.modify i fun c => { c with reading := op }

def record (s : Gateway ι F Key) (e : Event ι F) : Gateway ι F Key :=
  { s with trace := e :: s.trace }

/-! ## Tokens -/

/-- `VerifyAndConsumeToken` at the clock reading `nowMs`. -/
def verifyAndConsumeToken (s : Gateway ι F Key) (accountId token : String) (nowMs : Int) :
    Bool × Gateway ι F Key :=
  let consumed := { s with pendingTokens := Function.update s.pendingTokens accountId none }
  match s.pendingTokens accountId with
  | none => (false, s)
  | some pending =>
      if pending.expireTimeMs < nowMs then (false, consumed)
      else if pending.sessionToken ≠ token then (false, s)
      else (true, consumed)

/-- `StorePendingToken`. -/
def storePendingToken (s : Gateway ι F Key) (accountId token : String) (expireMs : Int) :
    Gateway ι F Key :=
  { s with pendingTokens := Function.update s.pendingTokens accountId (some ⟨token, expireMs⟩) }

/-! ## Sending -/

/-- The last step of `Send`: a new buffer for the packet, and its task on the
    strand. -/
def post (s : Gateway ι F Key) (i : ι) (data : List UInt8) : Gateway ι F Key :=
  { s.modify i fun c => { c with strand := c.strand ++ [.send ⟨s.nextBuffer, data⟩] } with
      nextBuffer := s.nextBuffer + 1 }

/-- `ClientSession::Send` of a serialized message. -/
def send (s : Gateway ι F Key) (i : ι) (pktId : UInt16) (serialized : List UInt8) :
    Gateway ι F Key :=
  let (payload, c) := (s.sessions i).encode env (env.randomIv s.ivDraws) serialized
  let s := { s.modify i fun _ => c with ivDraws := s.ivDraws + 1 }
  match payload.bind (ClientSession.frame pktId) with
  | none => s
  | some data => s.post i data

/-- The game connection takes a message: it is open and the packet fits. -/
def gameAccepts (s : Gateway ι F Key) (m : ToGame F) : Bool :=
  s.gameOpen && (Network.gameConnection.frame m.pktId (env.serializeToGame m)).isSome

/-- `gameConnection->Send` on behalf of the session `i`. -/
def gameSend (s : Gateway ι F Key) (i : ι) (m : ToGame F) : Gateway ι F Key :=
  if s.gameAccepts env m then s.record (.forwarded i m) else s

/-! ## Sessions -/

/-- The erased entry of `clientMap`, and the account the session had. -/
def eraseAccount (s : Gateway ι F Key) (i : ι) (accountId : String) : Gateway ι F Key :=
  { s.modify i fun c => { c with accountId := "" } with
      clientMap := Function.update s.clientMap accountId none }

/-- `ClientSession::OnDisconnected`. -/
def onDisconnected (s : Gateway ι F Key) (i : ι) : Gateway ι F Key :=
  let accountId := (s.sessions i).accountId
  if accountId = "" then s.record (.disconnected i)
  else
    ((s.record (.disconnected i)).gameSend env i (.leaveReq accountId)).eraseAccount i accountId

/-- A handler's reaction to a payload that does not parse. -/
def parseFailed (s : Gateway ι F Key) (i : ι) : Gateway ι F Key :=
  let (violated, tracker) := (s.sessions i).parseTracker.onParseFailure
  let s := s.modify i fun c => { c with parseTracker := tracker }
  if violated then s.onDisconnected env i else s

/-- `OnParseSuccess`. -/
def parseSucceeded (s : Gateway ι F Key) (i : ι) : Gateway ι F Key :=
  s.modify i fun c => { c with parseTracker := c.parseTracker.onParseSuccess }

/-! ## Packets of clients -/

/-- `SetAccountId` and the entry in `clientMap`. -/
def authenticate (s : Gateway ι F Key) (i : ι) (accountId : String) : Gateway ι F Key :=
  { s.modify i fun c => { c with accountId := accountId } with
      clientMap := Function.update s.clientMap accountId (some i) }

def handleGatewayConnectReq (s : Gateway ι F Key) (i : ι) (payload : List UInt8)
    (nowMs : Int) : Gateway ι F Key :=
  match env.parseConnectReq payload with
  | none => s.parseFailed env i
  | some req =>
      let s := s.parseSucceeded i
      match s.verifyAndConsumeToken req.accountId req.sessionToken nowMs with
      | (false, s) =>
          s.send env i PacketId.gatewayClientConnectRes
            (env.serializeConnectRes ⟨false, "Invalid or expired session token"⟩)
      | (true, s) =>
          let s := s.record (.verified i req.accountId)
          let s := s.authenticate i req.accountId
          let s := s.send env i PacketId.gatewayClientConnectRes
            (env.serializeConnectRes ⟨true, ""⟩)
          s.modify i fun c => c.enableEncryption env

/-- The three handlers that pass a request on under the session's account. -/
def relay {R : Type} (parse : List UInt8 → Option R) (request : String → R → ToGame F)
    (s : Gateway ι F Key) (i : ι) (payload : List UInt8) : Gateway ι F Key :=
  match parse payload with
  | none => s.parseFailed env i
  | some req =>
      let s := s.parseSucceeded i
      s.gameSend env i (request (s.sessions i).accountId req)

def handleChatReq (s : Gateway ι F Key) (i : ι) (payload : List UInt8) : Gateway ι F Key :=
  relay env env.parseChatReq (fun a req => .chatReq a req.msg) s i payload

def handleMoveReq (s : Gateway ι F Key) (i : ι) (payload : List UInt8) : Gateway ι F Key :=
  relay env env.parseMoveReq (fun a req => .moveReq a req.x req.y req.z req.yaw) s i payload

def handleAttackReq (s : Gateway ι F Key) (i : ι) (payload : List UInt8) : Gateway ι F Key :=
  relay env env.parseAttackReq (fun a _ => .attackReq a) s i payload

/-- `clientDispatcher.Dispatch`. -/
def dispatch (s : Gateway ι F Key) (i : ι) (id : UInt16) (payload : List UInt8)
    (nowMs : Int) : Gateway ι F Key :=
  let s := s.record (.dispatched i id)
  if id = PacketId.clientGatewayConnectReq then s.handleGatewayConnectReq env i payload nowMs
  else if id = PacketId.clientGatewayChatReq then s.handleChatReq env i payload
  else if id = PacketId.clientGatewayMoveReq then s.handleMoveReq env i payload
  else if id = PacketId.clientGatewayAttackReq then s.handleAttackReq env i payload
  else s

/-! ## Packets of the game server -/

/-- The broadcast of the handlers below: every listed account with a session
    in `clientMap` gets the packet. -/
def broadcast (s : Gateway ι F Key) (pktId : UInt16) (serialized : List UInt8) :
    List String → Gateway ι F Key
  | [] => s
  | target :: targets =>
      match s.clientMap target with
      | none => s.broadcast pktId serialized targets
      | some i => (s.send env i pktId serialized).broadcast pktId serialized targets

def handleMoveResFromGame (s : Gateway ι F Key) (payload : List UInt8) : Gateway ι F Key :=
  match env.parseMoveRes payload with
  | none => s
  | some res =>
      s.broadcast env PacketId.gatewayClientMoveRes
        (env.serializeMoveRes ⟨res.accountId, res.x, res.y, res.z, res.yaw⟩)
        res.targetAccountIds

def handleGameGatewayAttackRes (s : Gateway ι F Key) (payload : List UInt8) :
    Gateway ι F Key :=
  match env.parseAttackRes payload with
  | none => s
  | some res =>
      s.broadcast env PacketId.gatewayClientAttackRes
        (env.serializeAttackRes
          ⟨res.attackerUid, res.targetAccountId, res.damage, res.targetRemainHp⟩)
        res.targetAccountIds

def handleTokenNotifyFromGame (s : Gateway ι F Key) (payload : List UInt8) :
    Gateway ι F Key :=
  match env.parseTokenNotify payload with
  | none => s
  | some notify =>
      s.storePendingToken notify.accountId notify.sessionToken notify.expireTimeMs

def handleChatResFromGame (s : Gateway ι F Key) (payload : List UInt8) : Gateway ι F Key :=
  match env.parseChatRes payload with
  | none => s
  | some res =>
      s.broadcast env PacketId.gatewayClientChatRes
        (env.serializeChatRes ⟨res.accountId, res.msg⟩) res.targetAccountIds

/-- `gameDispatcher.Dispatch`. -/
def gameDispatch (s : Gateway ι F Key) (id : UInt16) (payload : List UInt8) :
    Gateway ι F Key :=
  if id = PacketId.gameGatewayMoveRes then s.handleMoveResFromGame env payload
  else if id = PacketId.gameGatewayAttackRes then s.handleGameGatewayAttackRes env payload
  else if id = PacketId.gameGatewayTokenNotify then s.handleTokenNotifyFromGame env payload
  else if id = PacketId.gameGatewayChatRes then s.handleChatResFromGame env payload
  else s

/-! ## Steps -/

inductive Label (ι : Type) where
  | accept (i : ι) (now : Nat)
  | headerRead (i : ι) (h : PacketHeader) (now : Nat) (nowMs : Int)
  | payloadRead (i : ι) (bytes : List UInt8) (nowMs : Int)
  | readFails (i : ι) (ec : ErrorCode)
  | writeEnds (i : ι) (p : Packet) (ec : ErrorCode)
  | runStrand (i : ι)
  | gamePacket (id : UInt16) (payload : List UInt8)
  | gameLink (isOpen : Bool)

def headerRead (s : Gateway ι F Key) (i : ι) (h : PacketHeader) (now : Nat) (nowMs : Int) :
    Gateway ι F Key :=
  let (action, c) := (s.sessions i).inspectHeader h now
  let s := s.modify i fun _ => { c with header := h, reading := none }
  match action with
  | .disconnect => s.onDisconnected env i
  | .skip => s.setReading i (some .header)
  | .drop size => s.setReading i (some (.dropPayload size))
  | .dispatch => (s.dispatch env i h.id [] nowMs).setReading i (some .header)
  | .read size => s.setReading i (some (.payload size))

def payloadRead (s : Gateway ι F Key) (i : ι) (bytes : List UInt8) (nowMs : Int) :
    Gateway ι F Key :=
  let (data, c) := (s.sessions i).openPayload env bytes
  let s := s.modify i fun _ => { c with reading := none }
  match data with
  | none => s.onDisconnected env i
  | some data => (s.dispatch env i c.header.id data nowMs).setReading i (some .header)

/-- A failed read. Only while a payload is being dropped is every error fatal
    to the session; elsewhere an ignored error just ends the loop. -/
def readFails (s : Gateway ι F Key) (i : ι) (op : ReadOp) (ec : ErrorCode) :
    Gateway ι F Key :=
  let s := s.setReading i none
  match op with
  | .dropPayload _ => s.onDisconnected env i
  | _ =>
      if shouldDisconnect ec || classifyError ec ≠ .ignoredError then s.onDisconnected env i
      else s

/-- The completion handler of `DoWrite`. -/
def writeCompleted (s : Gateway ι F Key) (i : ι) (p : Packet) (ec : ErrorCode) :
    Gateway ι F Key :=
  if ec = .success then s.modify i fun c => { c with writes := c.writes.complete p }
  else
    let s := s.modify i fun c => { c with writes := c.writes.fail p }
    if shouldDisconnect ec then s.onDisconnected env i else s

def runTask (s : Gateway ι F Key) (i : ι) : SessionTask → Gateway ι F Key
  | .send p => s.modify i fun c => { c with writes := enqueue c.writes p }
  | .written p ec => s.writeCompleted env i p ec

def step (s : Gateway ι F Key) : Label ι → Option (Gateway ι F Key)
  | .accept i now =>
      if (s.sessions i).accepted then none
      else
        some (s.modify i fun c =>
          { c with accepted := true, reading := some .header, rateLimiter := ⟨now, 0⟩ })
  | .headerRead i h now nowMs =>
      if (s.sessions i).reading = some .header then some (s.headerRead env i h now nowMs)
      else none
  | .payloadRead i bytes nowMs =>
      match (s.sessions i).reading with
      | some (.payload size) =>
          if bytes.length = size.toNat then some (s.payloadRead env i bytes nowMs) else none
      | some (.dropPayload size) =>
          if bytes.length = size.toNat then some (s.setReading i (some .header)) else none
      | _ => none
  | .readFails i ec =>
      match (s.sessions i).reading with
      | none => none
      | some op => if ec = .success then none else some (s.readFails env i op ec)
  | .writeEnds i p ec =>
      let c := s.sessions i
      if p ∈ c.writes.outstanding ∧ p ∉ endedWrites c.strand then
        some (s.modify i fun c => { c with strand := c.strand ++ [.written p ec] })
      else none
  | .runStrand i =>
      if !(s.sessions i).accepted then none
      else
        match (s.sessions i).strand with
        | [] => none
        | task :: rest => some ((s.modify i fun c => { c with strand := rest }).runTask env i task)
  | .gamePacket id payload => some (s.gameDispatch env id payload)
  | .gameLink isOpen => some { s with gameOpen := isOpen }

/-- A gateway that has just started. -/
def start : Gateway ι F Key := {}

end Gateway

end MMOServers.GatewayServer

/-
MMOServers.LoginServer.LoginContext — a login server and all its sessions.

The state is `LoginContext` with the sessions of the server. A step is one
completed asynchronous operation with the whole callback it runs. Sessions are
named by a type `ι` and exist from the start; `accept` sets one going.

A login request becomes a task for the database threads, and `dbTasks` are the
tasks that have not finished. They finish in any order, whatever happened to
their sessions meanwhile. What `ProcessLogin` answers is part of the label; of
`ProcessLogin` itself only its length test matters here, since it bounds the ids
that can be granted while the database is in use. The part of the task that
holds `g_loginMutex` is where it acts, so a task is one step.

`trace` is a history variable, the newest event first. It records every granted
login, every world selection handed to the connection to the world server and
every call of `OnDisconnected`.
-/
import MMOServers.LoginServer.Session
import MMOServers.Network.ReconnectingConnection
import Mathlib.Data.Finset.Basic
import Mathlib.Logic.Function.Basic

namespace MMOServers.LoginServer

open MMOServers.Common

inductive Event (ι : Type) where
  | granted (i : ι) (id : String)
  | forwarded (i : ι) (req : LoginWorldSelectReq)
  | disconnected (i : ι)
  deriving DecidableEq

/-- A posted task with the session and the request it holds. -/
structure DbTask (ι : Type) where
  session : ι
  req : LoginReq
  deriving DecidableEq

/-- What a task finds at the database. -/
inductive DbAnswer where
  /-- `Acquire` timed out. -/
  | noConnection
  | processed (result : LoginResult)

structure LoginContext (ι : Type) where
  sessions : ι → Session := fun _ => {}
  connectedClients : Int := 0
  loggedInUsers : Finset String := ∅
  sessionMap : String → Option ι := fun _ => none
  dbTasks : List (DbTask ι) := []
  /-- `connected_` of the connection to the world server, with its socket open. -/
  worldOpen : Bool := false
  nextBuffer : Nat := 0
  trace : List (Event ι) := []

namespace LoginContext

variable {ι : Type} [DecidableEq ι] (env : ServerEnv)

/-! ## Small updates -/

def modify (s : LoginContext ι) (i : ι) (f : Session → Session) : LoginContext ι :=
  { s with sessions := Function.update s.sessions i (f (s.sessions i)) }

def setReading (s : LoginContext ι) (i : ι) (op : Option ReadOp) : LoginContext ι :=
  s.modify i fun c => { c with reading := op }

def record (s : LoginContext ι) (e : Event ι) : LoginContext ι :=
  { s with trace := e :: s.trace }

/-- `Session::Send` of a serialized message. -/
def send (s : LoginContext ι) (i : ι) (pktId : UInt16) (serialized : List UInt8) :
    LoginContext ι :=
  match Session.frame pktId serialized with
  | none => s
  | some data =>
      { s.modify i fun c => { c with strand := c.strand ++ [.send ⟨s.nextBuffer, data⟩] } with
          nextBuffer := s.nextBuffer + 1 }

/-- `Session::OnDisconnected`. -/
def onDisconnected (s : LoginContext ι) (i : ι) : LoginContext ι :=
  let id := (s.sessions i).loggedInId
  let s := { (s.modify i Session.cancelTimer).record (.disconnected i) with
               connectedClients := s.connectedClients - 1 }
  if id = "" then s
  else
    { s with loggedInUsers := s.loggedInUsers.erase id
             sessionMap := Function.update s.sessionMap id none }

/-! ## Packets of clients -/

/-- `Handle_LoginReq`. -/
def handleLoginReq (s : LoginContext ι) (i : ι) (payload : List UInt8) : LoginContext ι :=
  match env.parseLoginReq payload with
  | none => s
  | some req => { s with dbTasks := s.dbTasks ++ [⟨i, req⟩] }

/-- `Handle_Heartbeat`. -/
def handleHeartbeat (s : LoginContext ι) (i : ι) (payload : List UInt8) (now : Nat) :
    LoginContext ι :=
  if env.parseHeartbeat payload then s.modify i fun c => c.updateHeartbeat now else s

/-- `Handle_WorldSelectReq`. -/
def handleWorldSelectReq (s : LoginContext ι) (i : ι) (payload : List UInt8) :
    LoginContext ι :=
  match env.parseWorldSelectReq payload with
  | none => s
  | some req =>
      let forward : LoginWorldSelectReq := ⟨(s.sessions i).loggedInId, req.worldId⟩
      let accepted := s.worldOpen && (Network.worldConnection.frame
        PacketId.loginWorldSelectReq (env.serializeLoginWorldSelectReq forward)).isSome
      if accepted then s.record (.forwarded i forward) else s

/-- `g_client_dispatcher.Dispatch`. -/
def dispatch (s : LoginContext ι) (i : ι) (id : UInt16) (payload : List UInt8) (now : Nat) :
    LoginContext ι :=
  if id = PacketId.clientLoginLoginReq then s.handleLoginReq env i payload
  else if id = PacketId.clientServerHeartbeat then s.handleHeartbeat env i payload now
  else if id = PacketId.clientLoginWorldSelectReq then s.handleWorldSelectReq env i payload
  else s

/-! ## Packets of the world server -/

def handleS2SWorldSelectRes (s : LoginContext ι) (payload : List UInt8) : LoginContext ι :=
  match env.parseWorldLoginSelectRes payload with
  | none => s
  | some res =>
      match s.sessionMap res.accountId with
      | none => s
      | some i =>
          s.send i PacketId.loginClientWorldSelectRes (env.serializeWorldSelectRes
            ⟨res.success, res.gatewayIp, res.gatewayPort, res.sessionToken⟩)

/-- `g_world_dispatcher.Dispatch`; the handler of the token notice does nothing. -/
def worldDispatch (s : LoginContext ι) (id : UInt16) (payload : List UInt8) :
    LoginContext ι :=
  if id = PacketId.worldLoginSelectRes then s.handleS2SWorldSelectRes env payload else s

/-! ## The database task of a login -/

/-- `ProcessLogin` with the result that its database calls lead to. -/
def processLogin (req : LoginReq) (result : LoginResult) : LoginResult :=
  let args : LoginArgs := ⟨req.id, req.password, req.inputType.toInt⟩
  if args.wellSized then result else .dbError

/-- `is_auth_success`; a task without a connection gives up. -/
def isAuthSuccess (req : LoginReq) : DbAnswer → Bool
  | .noConnection => !env.useDB
  | .processed result =>
      !env.useDB || processLogin req result = .success ||
        processLogin req result = .newRegistered

/-- The entries a granted login makes. -/
def grant (s : LoginContext ι) (i : ι) (id : String) : LoginContext ι :=
  { (s.modify i fun c => { c with loggedInId := id }).record (.granted i id) with
      loggedInUsers := insert id s.loggedInUsers
      sessionMap := Function.update s.sessionMap id (some i) }

/-- The task is granted: the login check accepts it, and its id is not in use. -/
def grants (s : LoginContext ι) (task : DbTask ι) (answer : DbAnswer) : Bool :=
  isAuthSuccess env task.req answer && task.req.id ∉ s.loggedInUsers

def runDbTask (s : LoginContext ι) (task : DbTask ι) (answer : DbAnswer) : LoginContext ι :=
  let success := s.grants env task answer
  let s := if success then s.grant task.session task.req.id else s
  s.send task.session PacketId.loginClientLoginRes (env.serializeLoginRes ⟨success⟩)

/-! ## Steps -/

inductive Label (ι : Type) where
  | accept (i : ι) (now : Nat)
  | headerRead (i : ι) (h : PacketHeader) (now : Nat)
  | payloadRead (i : ι) (bytes : List UInt8) (now : Nat)
  | readFails (i : ι)
  | timerExpires (i : ι)
  | timerRuns (i : ι) (now : Nat)
  | dbTask (n : Nat) (answer : DbAnswer)
  | writeEnds (i : ι) (p : Packet) (ec : ErrorCode)
  | runStrand (i : ι)
  | worldPacket (id : UInt16) (payload : List UInt8)
  | worldLink (isOpen : Bool)

/-- The callback of `ReadHeader`. A header of a size out of range ends the read
    loop, and the session is not disconnected. -/
def headerRead (s : LoginContext ι) (i : ι) (h : PacketHeader) (now : Nat) :
    LoginContext ι :=
  let s := s.modify i fun c => { c with header := h, reading := none }
  let size := PacketHeader.payloadSize h.size
  if h.size.toNat < PacketHeader.byteSize || maxPacketSize < h.size.toNat then s
  else if size = 0 then (s.dispatch env i h.id [] now).setReading i (some .header)
  else if !validatePayloadSize size then s.onDisconnected i
  else s.setReading i (some (.payload size))

/-- The callback of `ReadPayload`. -/
def payloadRead (s : LoginContext ι) (i : ι) (bytes : List UInt8) (now : Nat) :
    LoginContext ι :=
  ((s.setReading i none).dispatch env i (s.sessions i).header.id bytes now).setReading i
    (some .header)

/-- The handler of the heartbeat timer. -/
def timerRuns (s : LoginContext ι) (i : ι) (now : Nat) : LoginContext ι :=
  let s := s.modify i fun c => { c with heartbeatTimer := .idle }
  if (s.sessions i).timedOut now then s.onDisconnected i
  else s.modify i fun c => { c with heartbeatTimer := .waiting }

def runTask (s : LoginContext ι) (i : ι) : SessionTask → LoginContext ι
  | .send p => s.modify i fun c => { c with writes := enqueue c.writes p }
  | .written p ec =>
      s.modify i fun c =>
        { c with writes := if ec = .success then c.writes.complete p else c.writes.fail p }

def step (s : LoginContext ι) : Label ι → Option (LoginContext ι)
  | .accept i now =>
      if (s.sessions i).accepted then none
      else
        some { s.modify i fun c => c.start now with connectedClients := s.connectedClients + 1 }
  | .headerRead i h now =>
      if (s.sessions i).reading = some .header then some (s.headerRead env i h now) else none
  | .payloadRead i bytes now =>
      match (s.sessions i).reading with
      | some (.payload size) =>
          if bytes.length = size.toNat then some (s.payloadRead env i bytes now) else none
      | _ => none
  | .readFails i =>
      if (s.sessions i).reading = none then none
      else some ((s.setReading i none).onDisconnected i)
  | .timerExpires i =>
      if (s.sessions i).heartbeatTimer = .waiting then
        some (s.modify i fun c => { c with heartbeatTimer := .expired })
      else none
  | .timerRuns i now =>
      if (s.sessions i).heartbeatTimer = .expired then some (s.timerRuns i now) else none
  | .dbTask n answer =>
      match s.dbTasks[n]? with
      | none => none
      | some task =>
          some ({ s with dbTasks := s.dbTasks.eraseIdx n }.runDbTask env task answer)
  | .writeEnds i p ec =>
      let c := s.sessions i
      if p ∈ c.writes.outstanding ∧ p ∉ endedWrites c.strand then
        some (s.modify i fun c => { c with strand := c.strand ++ [.written p ec] })
      else none
  | .runStrand i =>
      match (s.sessions i).strand with
      | [] => none
      | task :: rest => some ((s.modify i fun c => { c with strand := rest }).runTask i task)
  | .worldPacket id payload => some (s.worldDispatch env id payload)
  | .worldLink isOpen => some { s with worldOpen := isOpen }

/-- A server that has just started. -/
def start : LoginContext ι := {}

end LoginContext

end MMOServers.LoginServer

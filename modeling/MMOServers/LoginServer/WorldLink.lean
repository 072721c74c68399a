/-
MMOServers.LoginServer.WorldLink — what the login server writes to the world
server, and what the world server reads.

A world selection crosses two encodings. The client's packets bring an id in a
`LoginReq` and a world in a `WorldSelectReq`, and `Handle_WorldSelectReq` puts both
into one `LoginWorldSelectReq`. `Session::ReadHeader` bounds the packets of the
client; `WorldConnection::Send` has no bound of its own.

Of protobuf the format of these messages is relied on (`WireFormat`). The world
server reads with the loop of `Network.Framing`.
-/
import MMOServers.LoginServer.LoginContext
import MMOServers.Network.Framing
import MMOServers.Lib.Protobuf
import MMOServers.Lib.Run

namespace MMOServers.Common

open Protobuf

/-! ## The messages on the wire -/

def LoginReq.wire (req : LoginReq) : List UInt8 :=
  stringField 1 req.id ++ (stringField 2 req.password ++ int32Field 3 req.inputType)

def LoginWorldSelectReq.wire (req : LoginWorldSelectReq) : List UInt8 :=
  stringField 1 req.accountId ++ int32Field 2 req.worldId

end MMOServers.Common

namespace MMOServers.LoginServer

open MMOServers.Common MMOServers.Network Transition Protobuf

/-- An id that was parsed stands in the payload as a field of it. -/
structure WireFormat (env : ServerEnv) : Prop where
  parse : ∀ payload req, env.parseLoginReq payload = some req →
    (stringField 1 req.id).length ≤ payload.length
  serialize : ∀ req, env.serializeLoginWorldSelectReq req = req.wire

/-- `ServerSession::ReadHeader` goes on after a header. -/
def Accepted (h : PacketHeader) : Prop :=
  ∀ r : FrameReader, (r.headerRead .serverSession h).reading ≠ none

/-- The request in a forwarded world selection. -/
def Event.selection {ι : Type} : Event ι → Option LoginWorldSelectReq
  | .forwarded _ req => some req
  | _ => none

namespace LoginContext

variable {ι : Type} (env : ServerEnv)

/-- The world selections handed to the world connection, the oldest first. -/
def selections (s : LoginContext ι) : List LoginWorldSelectReq :=
  s.trace.reverse.filterMap Event.selection

/-- What `WorldConnection::Send` writes for `Handle_WorldSelectReq`. -/
def selectFrames (s : LoginContext ι) : List (List UInt8) :=
  s.selections.filterMap fun req =>
    Network.worldConnection.frame PacketId.loginWorldSelectReq
      (env.serializeLoginWorldSelectReq req)

/-- The header of every frame is accepted, and the world server's read loop does not
    end on them. -/
structure LinkHolds (s : LoginContext ι) : Prop where
  accepted : ∀ frame ∈ s.selectFrames env, Accepted (PacketHeader.ofBytes frame)
  goesOn : ∀ labels r, exec (FrameReader.step .serverSession)
    (FrameReader.start .serverSession (s.selectFrames env).flatten) labels = some r →
      r.reading ≠ none

/-- The session whose world selection is handled, and the request. -/
def selectOf (s : LoginContext ι) : Label ι → Option (ι × WorldSelectReq)
  | .headerRead i h _ =>
      if h.size.toNat = PacketHeader.byteSize ∧ h.id = PacketId.clientLoginWorldSelectReq then
        (env.parseWorldSelectReq []).map fun req => (i, req)
      else none
  | .payloadRead i bytes _ =>
      if (s.sessions i).header.id = PacketId.clientLoginWorldSelectReq then
        (env.parseWorldSelectReq bytes).map fun req => (i, req)
      else none
  | _ => none

/-- The id and the world fit into a packet together, when the link is up. An id of
    4089 bytes fits on its own. -/
def SelectsShort (s : LoginContext ι) (label : Label ι) : Prop :=
  s.worldOpen = true → ∀ i req, selectOf env s label = some (i, req) →
    req.worldId = 0 ∨
      (s.sessions i).loggedInId.utf8ByteSize + (int32Varint req.worldId).length ≤ 4088

end LoginContext

end MMOServers.LoginServer

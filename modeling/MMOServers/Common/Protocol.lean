/-
MMOServers.Common.Protocol — packet ids and messages of `protocol.proto`.

The messages on the paths of a client through login server and gateway to the
game server. `F` is the type of the float fields.
-/
import Mathlib.Data.Nat.Basic

namespace MMOServers.Common

namespace PacketId

def clientLoginLoginReq : UInt16 := 1
def loginClientLoginRes : UInt16 := 2
def clientServerHeartbeat : UInt16 := 7
def clientLoginWorldSelectReq : UInt16 := 10
def loginClientWorldSelectRes : UInt16 := 11
def clientGatewayConnectReq : UInt16 := 20
def gatewayClientConnectRes : UInt16 := 21
def clientGatewayChatReq : UInt16 := 22
def gatewayClientChatRes : UInt16 := 23
def clientGatewayMoveReq : UInt16 := 24
def gatewayClientMoveRes : UInt16 := 25
def clientGatewayAttackReq : UInt16 := 26
def gatewayClientAttackRes : UInt16 := 27
def loginWorldSelectReq : UInt16 := 1010
def worldLoginSelectRes : UInt16 := 1011
def worldGameMonsterBuff : UInt16 := 1012
def gatewayGameMoveReq : UInt16 := 1024
def gameGatewayMoveRes : UInt16 := 1025
def gatewayGameLeaveReq : UInt16 := 1026
def gatewayGameAttackReq : UInt16 := 1027
def gameGatewayAttackRes : UInt16 := 1028
def worldGameTokenNotify : UInt16 := 1030
def gameGatewayTokenNotify : UInt16 := 1031
def gatewayGameChatReq : UInt16 := 1032
def gameGatewayChatRes : UInt16 := 1033

end PacketId

/-! ## Client, login server and world server -/

structure LoginReq where
  id : String
  password : String
  inputType : Int32
  deriving DecidableEq

structure LoginRes where
  success : Bool

structure WorldSelectReq where
  worldId : Int32

structure WorldSelectRes where
  success : Bool
  gatewayIp : String
  gatewayPort : Int32
  sessionToken : String

structure LoginWorldSelectReq where
  accountId : String
  worldId : Int32
  deriving DecidableEq

structure WorldLoginSelectRes where
  accountId : String
  success : Bool
  gatewayIp : String
  gatewayPort : Int32
  sessionToken : String
  deriving DecidableEq

/-! ## Client and gateway -/

structure GatewayConnectReq where
  accountId : String
  sessionToken : String
  deriving DecidableEq

structure GatewayConnectRes where
  success : Bool
  reason : String

structure ChatReq where
  msg : String

structure ChatRes where
  accountId : String
  msg : String

structure MoveReq (F : Type) where
  x : F
  y : F
  z : F
  yaw : F

structure MoveRes (F : Type) where
  accountId : String
  x : F
  y : F
  z : F
  yaw : F

structure AttackReq where
  targetUid : UInt64

structure AttackRes where
  attackerUid : UInt64
  targetAccountId : String
  damage : Int32
  targetRemainHp : Int32

/-! ## Gateway and game -/

/-- The requests of a gateway to the game server. A message is identified with
    the packet id it is sent under. -/
inductive ToGame (F : Type) where
  | moveReq (accountId : String) (x y z yaw : F)
  | leaveReq (accountId : String)
  | attackReq (accountId : String)
  | chatReq (accountId : String) (msg : String)
  deriving DecidableEq

namespace ToGame

variable {F : Type}

def pktId : ToGame F → UInt16
  | .moveReq _ _ _ _ _ => PacketId.gatewayGameMoveReq
  | .leaveReq _ => PacketId.gatewayGameLeaveReq
  | .attackReq _ => PacketId.gatewayGameAttackReq
  | .chatReq _ _ => PacketId.gatewayGameChatReq

def accountId : ToGame F → String
  | .moveReq a _ _ _ _ => a
  | .leaveReq a => a
  | .attackReq a => a
  | .chatReq a _ => a

/-- A message sent because the client asked for it, and not by the gateway on
    its own. -/
def isRequest : ToGame F → Bool
  | .leaveReq _ => false
  | _ => true

end ToGame

structure GatewayGameMoveReq (F : Type) where
  accountId : String
  x : F
  y : F
  z : F
  yaw : F

structure GatewayGameLeaveReq where
  accountId : String

structure GatewayGameAttackReq where
  accountId : String
  targetUid : UInt64

structure GatewayGameChatReq where
  accountId : String
  msg : String

structure GameGatewayMoveRes (F : Type) where
  accountId : String
  x : F
  y : F
  z : F
  yaw : F
  targetAccountIds : List String

structure GameGatewayAttackRes where
  attackerUid : UInt64
  targetUid : UInt64
  damage : Int32
  targetRemainHp : Int32
  targetAccountIds : List String
  targetAccountId : String

structure GameGatewayChatRes where
  accountId : String
  msg : String
  targetAccountIds : List String

structure TokenNotify where
  accountId : String
  sessionToken : String
  expireTimeMs : Int
  deriving DecidableEq

/-! ## World and game -/

structure WorldGameMonsterBuffReq where
  minUid : UInt64
  maxUid : UInt64
  addHp : Int32

end MMOServers.Common

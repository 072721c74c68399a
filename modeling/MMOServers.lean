import MMOServers.Lib.Run
import MMOServers.Lib.LittleEndian
import MMOServers.Lib.WriteQueue
import MMOServers.Lib.TokenLedger
import MMOServers.Common.PacketHeader
import MMOServers.Common.PacketCrypto
import MMOServers.Common.PacketCryptoTheorems
import MMOServers.Common.PacketCryptoDelivery
import MMOServers.Common.PacketDispatcher
import MMOServers.Common.NetworkErrorHandler
import MMOServers.Common.SendStrand
import MMOServers.Common.SendStrandTheorems
import MMOServers.Common.Protocol
import MMOServers.Common.DBManager
import MMOServers.Common.DBManagerTheorems
import MMOServers.Network.ReconnectingConnection
import MMOServers.Network.ReconnectingConnectionTheorems
import MMOServers.GatewayServer.ClientSession
import MMOServers.GatewayServer.Gateway
import MMOServers.GatewayServer.GatewaySteps
import MMOServers.GatewayServer.SessionInvariants
import MMOServers.GatewayServer.AuthenticationTheorems
import MMOServers.GatewayServer.DisconnectTheorems
import MMOServers.GatewayServer.EncryptionTheorems
import MMOServers.GatewayServer.Handshake
import MMOServers.GatewayServer.HandshakeTheorems
import MMOServers.GatewayServer.SendOrder
import MMOServers.GatewayServer.SendOrderTheorems
import MMOServers.GatewayServer.TokenSteps
import MMOServers.GatewayServer.ClientMapTheorems
import MMOServers.LoginServer.Session
import MMOServers.LoginServer.LoginContext
import MMOServers.LoginServer.LoginSteps
import MMOServers.LoginServer.LoginTheorems
import MMOServers.LoginServer.WorldSelectTheorems
import MMOServers.LoginServer.WorldLink
import MMOServers.LoginServer.WorldLinkTheorems
import MMOServers.Lib.Cells
import MMOServers.Common.FloatMath
import MMOServers.Common.Coordinate
import MMOServers.Common.GameConstants
import MMOServers.GameServer.Zone
import MMOServers.GameServer.ZoneTheorems
import MMOServers.GameServer.Monster
import MMOServers.GameServer.GameContext
import MMOServers.GameServer.PlayerFrames
import MMOServers.GameServer.Roster
import MMOServers.GameServer.PlayerTheorems
import MMOServers.GameServer.UidTheorems
import MMOServers.GameServer.GatewayMapTheorems
import MMOServers.GameServer.AudienceTheorems
import MMOServers.GameServer.CoordinateTheorems
import MMOServers.GameServer.GatewaySession
import MMOServers.GameServer.GatewaySessionTheorems
import MMOServers.GameServer.TokenRelay
import MMOServers.Network.StallTheorems
import MMOServers.Network.Framing
import MMOServers.Network.FramingTheorems
import MMOServers.WorldServer.WorldContext
import MMOServers.Servers.Cluster
import MMOServers.Servers.TokenFlow
import MMOServers.Servers.AdmissionTheorems
import MMOServers.Servers.OneTimeTheorems
import MMOServers.Servers.DeliveryTheorems
import MMOServers.GameServer.Herd
import MMOServers.GameServer.MonsterSteps
import MMOServers.GameServer.VitalityTheorems
import MMOServers.GameServer.Pursuit
import MMOServers.GameServer.DeathCycle
import MMOServers.GameServer.MonsterTheorems
import MMOServers.Network.SendBuffer
import MMOServers.GatewayServer.PendingTokens
import MMOServers.Common.DBConnectionPoolTheorems
import MMOServers.GameServer.InterestTheorems
import MMOServers.GameServer.TickPass
import MMOServers.GameServer.RealDistance
import MMOServers.GameServer.StrikeTheorems
import MMOServers.GameServer.MirrorTheorems
import MMOServers.GameServer.Encounter
import MMOServers.GameServer.EngageTheorems
import MMOServers.GameServer.GlideTheorems
import MMOServers.Lib.Stride
import MMOServers.GameServer.ReturnTheorems
import MMOServers.LoginServer.AccountSystem
import MMOServers.LoginServer.AccountTheorems
import MMOServers.LoginServer.ConnectionTheorems
import MMOServers.Common.PasswordTheorems
import MMOServers.GatewayServer.RateLimitTheorems
import MMOServers.StressTestTool.StressManager
import MMOServers.StressTestTool.StressManagerTheorems
import MMOServers.Lib.HexField
import MMOServers.Common.TokenUtils
import MMOServers.WorldServer.SessionTokenTheorems
import MMOServers.Lib.Nearest
import MMOServers.GameServer.AttackTheorems
import MMOServers.GameServer.MoveAnswerTheorems
import MMOServers.GameServer.MessageSizeTheorems
import MMOServers.Lib.Cooldown
import MMOServers.GameServer.CooldownTheorems
import MMOServers.StressTestTool.BotSession
import MMOServers.StressTestTool.StressTest
import MMOServers.StressTestTool.BotSessionTheorems
import MMOServers.StressTestTool.StressTestTheorems
import MMOServers.Network.SendBufferPool
import MMOServers.Network.SendBufferPoolTheorems
import MMOServers.GatewayServer.BroadcastTheorems
import MMOServers.GameServer.ChatRelay
import MMOServers.Servers.Realm
import MMOServers.Servers.ChatTheorems
import MMOServers.GameServer.EarshotTheorems
import MMOServers.Common.RedisManager
import MMOServers.GameServer.RedisTheorems
import MMOServers.GameServer.Whereabouts
import MMOServers.Servers.ResidentTheorems
import MMOServers.GameServer.Telling
import MMOServers.GameServer.NarrationTheorems
import MMOServers.Lib.Monitor
import MMOServers.Common.WakeUpTheorems
import MMOServers.Lib.Potential
import MMOServers.Lib.Blows
import MMOServers.GameServer.TrafficTheorems
import MMOServers.GameServer.TallyTheorems
import MMOServers.GameServer.SightTheorems

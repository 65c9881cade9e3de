import P2pStun.PlainRendezvous
import P2pStun.PlainRepeats
import P2pStun.PsCompletion
import P2pStun.PsHistory
import P2pStun.PsAttempts
import P2pStun.PsDuplicates
import P2pStun.PsIsolation
import P2pStun.PsThirdParty
import P2pStun.ReceiveBuffer
import P2pStun.PsTimes
import P2pStun.ServerSockets
import P2pStun.PredictedPort
import P2pStun.Acceptance
import P2pStun.Established
import P2pStun.HolePunching
import P2pStun.Descriptors
import P2pStun.SocketDescriptors
import P2pStun.StatisticalRunner
import P2pStun.PortDistinct
import P2pStun.PortReset
import P2pStun.FailedSends
import P2pStun.AttemptsEnd
import P2pStun.ResultCauses
import P2pStun.TargetOrigin
import P2pStun.PortDraws
import P2pStun.OneBlock
import P2pStun.ReservedRange
import P2pStun.AlikeCalls
import P2pStun.ToldApart
import P2pStun.AckOrder
import P2pStun.Strangers
import P2pStun.Uninitialised
import P2pStun.ReusedBase
import P2pStun.CStrings
import P2pStun.LogLines
import P2pStun.ScanIntroductions
import P2pStun.ServerLoop
import P2pStun.ServerTraffic
import P2pStun.SharedPorts
import P2pStun.Undisturbed
import P2pStun.CoupleConnects
import P2pStun.TalkPrivate
import P2pStun.CommandLine
import P2pStun.PsConsumption

import Pretzel.Library.Machine
import Pretzel.Library.Json
import Pretzel.Ipc.Protocol
import Pretzel.Config.Store
import Pretzel.Config.Backfill
import Pretzel.Engined.ServiceManager
import Pretzel.Mgmtd.State
import Pretzel.Engined.Pipeline
import Pretzel.Engined.ApplyCommit
import Pretzel.Engined.CommitQueue
import Pretzel.Engined.CommittedBase
import Pretzel.Engined.Convergence
import Pretzel.Config.ApiRefs
import Pretzel.Mgmtd.CommitSchema
import Pretzel.Mgmtd.SettingsController
import Pretzel.Engined.MergedSection
import Pretzel.Engined.Backlog
import Pretzel.Engined.TaskLog
import Pretzel.Fleet.CommitPath
import Pretzel.Library.RingBuffer
import Pretzel.Library.BigEndian
import Pretzel.Library.Framing
import Pretzel.Library.HostPort
import Pretzel.Ipc.Codec
import Pretzel.Ipc.WireForm
import Pretzel.Ipcd.Transmit
import Pretzel.Ipc.Connection
import Pretzel.Ipc.Handler
import Pretzel.Library.Reception
import Pretzel.Ipc.Client
import Pretzel.Ipcd.RuntimeTable
import Pretzel.Ipcd.Server
import Pretzel.Fleet.Links
import Pretzel.Fleet.HandOver
import Pretzel.Fleet.WholeBatch
import Pretzel.Library.KeyedTable
import Pretzel.Collectord.ApiService
import Pretzel.Engined.Inventory
import Pretzel.Probed.IcmpService
import Pretzel.Mgmtd.AcceptedEntries
import Pretzel.Fleet.Consumers
import Pretzel.Library.Xml
import Pretzel.Authd.SamlClient
import Pretzel.Authd.Wrapping
import Pretzel.Ipcd.Broker
import Pretzel.Ipcd.Descriptors
import Pretzel.Ipcd.Routes
import Pretzel.Ipcd.Readiness
import Pretzel.Engined.InStep
import Pretzel.Fleet.ReloadWatch
import Pretzel.Library.EntryLog
import Pretzel.Library.Transaction
import Pretzel.Engined.LogTailService
import Pretzel.Engined.LogIngest
import Pretzel.Engined.LogFaults
import Pretzel.Engined.LogRotation
import Pretzel.Util.PasswordHash
import Pretzel.Config.LocalUsers
import Pretzel.Mgmtd.AuthService
import Pretzel.Engined.AdminService
import Pretzel.Mgmtd.AccountControllers
import Pretzel.Fleet.Accounts
import Pretzel.Fleet.PasswordChange
import Pretzel.Fleet.LastRequest
import Pretzel.Engined.ChatService
import Pretzel.Mgmtd.SsoController
import Pretzel.Fleet.SsoSignIn
import Pretzel.Mgmtd.WebService
import Pretzel.Mgmtd.SessionGate
import Pretzel.Engined.SaseKeys
import Pretzel.Engined.KeysOwed
import Pretzel.Library.Texts
import Pretzel.Library.Draft
import Pretzel.Library.Staged
import Pretzel.Util.Secret
import Pretzel.Collectord.ApiUtil
import Pretzel.Collectord.CredentialController
import Pretzel.Collectord.EndpointControllers
import Pretzel.Collectord.StatusController
import Pretzel.Collectord.StoredSecrets
import Pretzel.Fleet.KeyUpdates
import Pretzel.Fleet.HeldSecrets
import Pretzel.Library.LateFill
import Pretzel.Fleet.KeyMirror
import Pretzel.Fleet.CurrentKeys
import Pretzel.Collectord.TestAnswers
import Pretzel.Collectord.AnsweredOnce
import Pretzel.Engined.ApiCredentialService
import Pretzel.Engined.OneIssuance
import Pretzel.Fleet.KeygenTest
import Pretzel.Engined.HeartbeatService
import Pretzel.Engined.HeartbeatRounds
import Pretzel.Engined.HeartbeatVerdicts
import Pretzel.Authd.OktaClient
import Pretzel.Authd.SignInState
import Pretzel.Authd.ValidityWindow
import Pretzel.Mgmtd.ChatController
import Pretzel.Fleet.ChatAnswers
import Pretzel.Engined.ChatTurn
import Pretzel.Probed.ProbeSessions
import Pretzel.Engined.ProbeService
import Pretzel.Fleet.Reachability
import Pretzel.Mgmtd.CommitReads
import Pretzel.Engined.AiCredential
import Pretzel.Engined.CollectionService
import Pretzel.Engined.PayloadHandlers
import Pretzel.Library.JsonScreen
import Pretzel.Library.JsonNumber
import Pretzel.Mgmtd.AcceptedLists
import Pretzel.Fleet.AcceptedBatch
import Pretzel.Fleet.UserList
import Pretzel.Fleet.CommittedSecrets
import Pretzel.Mgmtd.AiConfig
import Pretzel.Mgmtd.ApplyConfig
import Pretzel.Http.ClientSession
import Pretzel.Mgmtd.GrpcStream
import Pretzel.Mgmtd.RunsEnd
import Pretzel.Library.WorkerPool
import Pretzel.Library.LaggingTable
import Pretzel.Mgmtd.AiController
import Pretzel.Fleet.LatestDeployment
import Pretzel.Mgmtd.RouteTable
import Pretzel.Ipc.Reassembly
import Pretzel.Mgmtd.Throttles
import Pretzel.Mgmtd.LoginAnswers
import Pretzel.Mgmtd.ForcedChange
import Pretzel.Mgmtd.AnswerPolls
import Pretzel.Mgmtd.TurnDelivery
import Pretzel.Collectord.ConnectorController
import Pretzel.Fleet.SaseHealth
import Pretzel.Engined.LogProgress
import Pretzel.Library.LongestSuffix
import Pretzel.Mgmtd.ChatHistory
import Pretzel.Mgmtd.SavedConfigs
import Pretzel.Mgmtd.StreamAccounts
import Pretzel.Util.SealedText
import Pretzel.Library.JsonAccess
import Pretzel.Fleet.HostPorts
import Pretzel.Topologyd.NgfwModel
import Pretzel.Topologyd.Readings
import Pretzel.Topologyd.PeerNames
import Pretzel.Topologyd.TopologyService
import Pretzel.Topologyd.InterfaceRows
import Pretzel.Topologyd.InterfaceRoles
import Pretzel.Topologyd.TunnelJoin
import Pretzel.Algorithm.ByteRingBuffer
import Pretzel.Library.CommonSubsequence
import Pretzel.Mgmtd.ReviewDiff
import Pretzel.Library.FirstHit
import Pretzel.Mgmtd.DanglingRefs
import Pretzel.Library.FormPairs
import Pretzel.Mgmtd.FormFields
import Pretzel.Library.Base64
import Pretzel.Fleet.Base64Texts
import Pretzel.Library.OnesComplement
import Pretzel.Probed.IcmpCodec
import Pretzel.Probed.IcmpEngine
import Pretzel.Library.FileTree
import Pretzel.Http.StaticFileCache

import FreenetCore.Lib.Bytes
import FreenetCore.Lib.MachineInt
import FreenetCore.Lib.LexPath
import FreenetCore.Lib.FileSys
import FreenetCore.Lib.BinarySearch
import FreenetCore.Lib.Vec
import FreenetCore.Lib.Since
import FreenetCore.Lib.KeyedList
import FreenetCore.WasmRuntime.NativeApi
import FreenetCore.WasmRuntime.Store
import FreenetCore.WasmRuntime.StoreCodec
import FreenetCore.WasmRuntime.Compaction
import FreenetCore.WasmRuntime.CodeStores
import FreenetCore.WasmRuntime.SecretsStore
import FreenetCore.WasmRuntime.Delegate
import FreenetCore.Server.PathHandlers
import FreenetCore.Server.Attestation
import FreenetCore.Message
import FreenetCore.Operations.Common
import FreenetCore.Operations.Get
import FreenetCore.Operations.Subscribe
import FreenetCore.Operations.Put
import FreenetCore.Tracing.EventRegister
import FreenetCore.Router.IsotonicEstimator
import FreenetCore.Router.Router
import FreenetCore.Node.Ring
import FreenetCore.Node.Seeding
import FreenetCore.Node.OpManager
import FreenetCore.Node.EventLoop
import FreenetCore.Node.SubscribeNetwork
import FreenetCore.Node.PutNetwork
import FreenetCore.Contract.Executor
import FreenetCore.Lib.Civil
import FreenetCore.Lib.Crypto
import FreenetCore.Lib.Json
import FreenetCore.Stdlib.ContractInterface
import FreenetCore.Antiflood.Interfaces
import FreenetCore.Antiflood.AllocationContract
import FreenetCore.Antiflood.TokenGenerator
import FreenetCore.Antiflood.Codec
import FreenetCore.EmailApp.Inbox
import FreenetCore.Microblogging.Posts
import FreenetCore.Contract.Handler
import FreenetCore.Server.AppPackaging
import FreenetCore.EmailApp.Client
import FreenetCore.Lib.BTreeMap
import FreenetCore.Lib.Circle
import FreenetCore.Topology.Density
import FreenetCore.Topology.Windows
import FreenetCore.Lib.BinaryHeap
import FreenetCore.Router.Selection
import FreenetCore.Lib.FallibleSort
import FreenetCore.Topology.Meter
import FreenetCore.Topology.Manager
import FreenetCore.Util
import FreenetCore.Node.Maintenance
import FreenetCore.Node.ConnectNetwork
import FreenetCore.ClientEvents.Combinator
import FreenetCore.Lib.Cache
import FreenetCore.WasmRuntime.StateStore
import FreenetCore.IdentityManagement.Delegate
import FreenetCore.Antiflood.TokenDelegate
import FreenetCore.Node.ConnectionHandler

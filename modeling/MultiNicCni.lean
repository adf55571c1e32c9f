import MultiNicCni.Go.Text
import MultiNicCni.Go.Bytes
import MultiNicCni.Go.Net
import MultiNicCni.Go.Slice
import MultiNicCni.Compute.Compute
import MultiNicCni.Compute.Arith
import MultiNicCni.Compute.Index
import MultiNicCni.Api
import MultiNicCni.Controller.CidrHandler
import MultiNicCni.Controller.Placement
import MultiNicCni.Controller.Layout
import MultiNicCni.Controller.Stability
import MultiNicCni.Controller.HostSubnet
import MultiNicCni.Daemon.Allocator
import MultiNicCni.Daemon.Address
import MultiNicCni.Daemon.Pool
import MultiNicCni.Excludes
import MultiNicCni.Controller.UpdateCIDR
import MultiNicCni.Controller.PoolRefinement
import MultiNicCni.Cni.Ipam
import MultiNicCni.Controller.Route
import MultiNicCni.Lib.Compact
import MultiNicCni.Cni.Loader
import MultiNicCni.Cni.Addresses
import MultiNicCni.Controller.Synchronizer
import MultiNicCni.Controller.ActivePods
import MultiNicCni.Lib.Version
import MultiNicCni.Acknowledged
import MultiNicCni.Daemon.Request
import MultiNicCni.Daemon.NextIndex
import MultiNicCni.Daemon.Rounds
import MultiNicCni.Daemon.Lock
import MultiNicCni.Cni.Release
import MultiNicCni.Controller.BlockSizes
import MultiNicCni.Controller.UpdateQueue
import MultiNicCni.Controller.QueueRoom
import MultiNicCni.Go.Json
import MultiNicCni.Plugin.Sriov
import MultiNicCni.Cni.Sriov
import MultiNicCni.SriovSettings
import MultiNicCni.Daemon.Hanging
import MultiNicCni.Controller.IndexSearch
import MultiNicCni.Controller.FailedUpdate
import MultiNicCni.Controller.SyncPools
import MultiNicCni.Controller.Turns
import MultiNicCni.Controller.DiedHosts
import MultiNicCni.Lib.Flag
import MultiNicCni.Controller.ChangedFlag
import MultiNicCni.Controller.Reindex
import MultiNicCni.Controller.PoolNames
import MultiNicCni.Controller.Answers
import MultiNicCni.Controller.Convergence
import MultiNicCni.Controller.Mesh
import MultiNicCni.Controller.HostInterfaces
import MultiNicCni.Daemon.Checkpoint
import MultiNicCni.Daemon.NumaMap
import MultiNicCni.Daemon.Selector
import MultiNicCni.Lib.Truncate
import MultiNicCni.Daemon.DevClass
import MultiNicCni.Daemon.NumaAware
import MultiNicCni.Cni.MultiPath
import MultiNicCni.Cni.AddRequest
import MultiNicCni.Plugin.Delivery
import MultiNicCni.Daemon.FreeIndex
import MultiNicCni.AddressIndex
import MultiNicCni.Cni.StaticIPs
import MultiNicCni.Controller.NetworkStatus
import MultiNicCni.Controller.PoolValidity
import MultiNicCni.Go.Lines
import MultiNicCni.Daemon.RtTable
import MultiNicCni.Daemon.TableSearch
import MultiNicCni.Daemon.TableLine
import MultiNicCni.Daemon.TableRule
import MultiNicCni.Daemon.Router
import MultiNicCni.Daemon.TableFile
import MultiNicCni.Daemon.NetworkTables
import MultiNicCni.Daemon.ForcedApply
import MultiNicCni.Cluster.L3Mesh
import MultiNicCni.Cluster.Addresses
import MultiNicCni.Cluster.Greeting
import MultiNicCni.Controller.Startup
import MultiNicCni.Cluster.Lifecycle
import MultiNicCni.Lib.Threads
import MultiNicCni.Controller.HostGuards
import MultiNicCni.Cluster.LivingHost

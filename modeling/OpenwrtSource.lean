import OpenwrtSource.FlowTable.Roaming
import OpenwrtSource.Lib.Run
import OpenwrtSource.Lib.Index
import OpenwrtSource.Fullcone.Tuple
import OpenwrtSource.Fullcone.Mapping
import OpenwrtSource.Fullcone.TableEffects
import OpenwrtSource.Fullcone.PortSearch
import OpenwrtSource.Fullcone.Hooks
import OpenwrtSource.Fullcone.HookEffects
import OpenwrtSource.Fullcone.EventSystem
import OpenwrtSource.Fullcone.Retention
import OpenwrtSource.Fullcone.LinuxKernel
import OpenwrtSource.Fullcone.Representation
import OpenwrtSource.Fullcone.Agreement
import OpenwrtSource.Fullcone.EndpointIndependence
import OpenwrtSource.Fullcone.PoolSelection
import OpenwrtSource.Fullcone.PortChoice
import OpenwrtSource.Fullcone.NotifierLifeCycle
import OpenwrtSource.Fullcone.FailedSetup
import OpenwrtSource.Fullcone.DyingTuples
import OpenwrtSource.Fullcone.Stability
import OpenwrtSource.Fullcone.Noninterference
import OpenwrtSource.Fullcone.Expression
import OpenwrtSource.Hnat.McastEffects
import OpenwrtSource.Hnat.SlotOwnership
import OpenwrtSource.Hnat.McastSteps
import OpenwrtSource.Hnat.GroupList
import OpenwrtSource.Hnat.SlotLookup
import OpenwrtSource.Hnat.BindTranslation
import OpenwrtSource.Hnat.UpdateLens
import OpenwrtSource.Hnat.EntryUpdate
import OpenwrtSource.Hnat.BindEntry
import OpenwrtSource.Hnat.StationTeardown
import OpenwrtSource.Hnat.FlowKeys
import OpenwrtSource.Hnat.SlotView
import OpenwrtSource.Hnat.BoundFlows
import OpenwrtSource.Hnat.FlowList
import OpenwrtSource.Hnat.TwoPhaseBind
import OpenwrtSource.Hnat.EgressUpdate
import OpenwrtSource.Hnat.McastPlaces
import OpenwrtSource.Hnat.McastEvents
import OpenwrtSource.Hnat.EgressCoherence
import OpenwrtSource.Hnat.NeighQueue
import OpenwrtSource.Hnat.BlistMatch
import OpenwrtSource.Hnat.BlistRanges
import OpenwrtSource.Hnat.TableSizing
import OpenwrtSource.Hnat.Prot3Tuple
import OpenwrtSource.Lib.History
import OpenwrtSource.Reconnect.MainLoop
import OpenwrtSource.TxQueue.WakeUp
import OpenwrtSource.Eeprom.Origins
import OpenwrtSource.Eeprom.Composition
import OpenwrtSource.Eeprom.ReadAfterWrite
import OpenwrtSource.Ser.EthReset
import OpenwrtSource.Ser.Handshake
import OpenwrtSource.Ser.Pairing
import OpenwrtSource.Ser.HangSoundness
import OpenwrtSource.Ser.EthPorts
import OpenwrtSource.Ser.DmaUsers
import OpenwrtSource.Ser.FastMode
import OpenwrtSource.Pcs.LinkPoll
import OpenwrtSource.Pcs.Coherence
import OpenwrtSource.Lib.Mutex
import OpenwrtSource.Pcs.PollingLock
import OpenwrtSource.Pcs.PolledState
import OpenwrtSource.PpeOffload.PppqShaper
import OpenwrtSource.Hnat.HookVerdicts
import OpenwrtSource.Lib.Ownership
import OpenwrtSource.Hnat.ExtDevices
import OpenwrtSource.As21xxx.Ipc
import OpenwrtSource.As21xxx.IpcReplies
import OpenwrtSource.As21xxx.CommandParity
import OpenwrtSource.Hnat.DeviceRefs
import OpenwrtSource.Hnat.PingPong
import OpenwrtSource.Hnat.DeviceIdentity
import OpenwrtSource.Mxl862xx.VlanRules
import OpenwrtSource.Mxl862xx.VlanBlock
import OpenwrtSource.Mxl862xx.Driver
import OpenwrtSource.Mxl862xx.RulePool
import OpenwrtSource.Mxl862xx.BlockLedger
import OpenwrtSource.Mxl862xx.VlanLedger
import OpenwrtSource.Mxl862xx.VlanOwnership
import OpenwrtSource.Lib.TableFold
import OpenwrtSource.Mxl862xx.BridgeMaps
import OpenwrtSource.Mxl862xx.BridgeLedger
import OpenwrtSource.Mxl862xx.VlanMembers
import OpenwrtSource.Mxl862xx.VlanFiltering
import OpenwrtSource.Lib.BitField
import OpenwrtSource.Lib.LeadingBits
import OpenwrtSource.Hnat.NeighPurge
import OpenwrtSource.Hnat.FlowMatch
import OpenwrtSource.Hnat.ApiTuple
import OpenwrtSource.Hnat.EngineRouting
import OpenwrtSource.Hnat.SlotExhaustion
import OpenwrtSource.Hnat.IfdownServed
import OpenwrtSource.Hnat.McastAging
import OpenwrtSource.Lib.OnesComplement
import OpenwrtSource.Hnat.ChecksumBase
import OpenwrtSource.Hnat.VlanLayers
import OpenwrtSource.Swconfig.Config
import OpenwrtSource.Swconfig.VlanTable
import OpenwrtSource.Swconfig.An8855
import OpenwrtSource.Swconfig.Mt753x
import OpenwrtSource.Swconfig.Application
import OpenwrtSource.Swconfig.ReadBack
import OpenwrtSource.Mxl862xx.BridgeIsolation
import OpenwrtSource.Mxl862xx.BridgeRuns
import OpenwrtSource.Mxl862xx.BridgeGuarantee
import OpenwrtSource.Hnat.StaticEntry
import OpenwrtSource.Hnat.ExtTeardown
import OpenwrtSource.Reconnect.Stability
import OpenwrtSource.Reconnect.Encryption
import OpenwrtSource.Reconnect.Inference
import OpenwrtSource.Hnat.XlatMap
import OpenwrtSource.Eeprom.CellOverlay
import OpenwrtSource.Eeprom.FlashWrite
import OpenwrtSource.Hnat.TableWalks
import OpenwrtSource.Hnat.XlatHandover
import OpenwrtSource.Lib.Selection
import OpenwrtSource.SpiNand.Casn
import OpenwrtSource.SpiNand.CopySelection
import OpenwrtSource.SpiNand.EccStatus
import OpenwrtSource.Lib.Spans
import OpenwrtSource.SpiNand.OobLayout
import OpenwrtSource.SpiNand.Detect
import OpenwrtSource.EthRings.SramLayout
import OpenwrtSource.EthRings.RxBuffer
import OpenwrtSource.PpeOffload.TunnelTeardown
import OpenwrtSource.Ptp.FrequencyAdjust
import OpenwrtSource.Ptp.TxStamp
import OpenwrtSource.HwLro.DipTable
import OpenwrtSource.Rbus.ConfigSpace
import OpenwrtSource.Mxl862xx.Tag
import OpenwrtSource.Mxl862xx.Mirroring
import OpenwrtSource.PcieGen3.MsiRouting
import OpenwrtSource.PcieGen3.MsiRuns
import OpenwrtSource.Firewall4.ZoneChains
import OpenwrtSource.Mxl862xx.Mailbox
import OpenwrtSource.Mxl862xx.MailboxTransfer
import OpenwrtSource.Mxl862xx.MailboxCalls
import OpenwrtSource.PpeOffload.XlatFlow
import OpenwrtSource.PpeOffload.XlatTarget
import OpenwrtSource.PpeOffload.XlatChecksum
import OpenwrtSource.FlowTable.TrafficClass
import OpenwrtSource.Pwm.Period
import OpenwrtSource.Pwm.DividerSearch
import OpenwrtSource.Pwm.Accuracy
import OpenwrtSource.Lib.Defaults
import OpenwrtSource.Rss.Params
import OpenwrtSource.Rss.Persistence
import OpenwrtSource.FlowTable.RouteSetup
import OpenwrtSource.EthMux.Switching
import OpenwrtSource.Lib.TracedArith
import OpenwrtSource.Zts.Accuracy
import OpenwrtSource.Zts.Fifo
import OpenwrtSource.As21xxx.DebugTransfer
import OpenwrtSource.As21xxx.TransferSafety
import OpenwrtSource.Hnat.ExtIngress
import OpenwrtSource.Hnat.StaleHeadroom
import OpenwrtSource.Lib.ShiftRegister
import OpenwrtSource.SpiNand.ErrorBursts
import OpenwrtSource.Hnat.CacheLines

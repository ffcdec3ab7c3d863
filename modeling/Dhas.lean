import Dhas.Library.Run
import Dhas.Library.BoundedQueue
import Dhas.Library.WaitFor
import Dhas.Program.CString
import Dhas.Program.SprinklersNode
import Dhas.Program.Module
import Dhas.Model.Irrigation
import Dhas.Model.Handshake
import Dhas.Model.ScriptReload
import Dhas.Analysis.SprinklerFollowUp
import Dhas.Analysis.SuspendWindow
import Dhas.Analysis.ReloadDeadlock
import Dhas.Program.InsteonMessages
import Dhas.Program.InsteonModem
import Dhas.Analysis.PlmFraming
import Dhas.Program.InsteonDevices
import Dhas.Program.InsteonModule
import Dhas.Model.InsteonLoop
import Dhas.Library.Trace
import Dhas.Analysis.OneInFlight
import Dhas.Analysis.RecordWait
import Dhas.Model.AckDelivery
import Dhas.Analysis.AckMatching
import Dhas.Library.LinkedList
import Dhas.Program.SoundListParser
import Dhas.Program.Telephony
import Dhas.Model.Phone
import Dhas.Analysis.CallChain
import Dhas.Analysis.ActionMemory
import Dhas.Analysis.CommandEffects
import Dhas.Analysis.ActionChains
import Dhas.Analysis.RunPosted
import Dhas.Analysis.QueuedCommands
import Dhas.Program.RTPSession
import Dhas.Model.PhoneSound
import Dhas.Analysis.SoundsOver
import Dhas.Model.ValveStatus
import Dhas.Analysis.ValveTracking
import Dhas.Program.JSON
import Dhas.Program.Schedule
import Dhas.Model.ScheduleRun
import Dhas.Analysis.ScheduleIds
import Dhas.Analysis.ScheduleStore
import Dhas.Analysis.ScheduleRestart
import Dhas.Analysis.DueEvents
import Dhas.Program.EventProcessor
import Dhas.Model.EventLoop
import Dhas.Analysis.EventDelivery
import Dhas.Analysis.EventLoopSleep
import Dhas.Model.AlarmHandler
import Dhas.Analysis.AlarmLockOut
import Dhas.Model.PlmLine
import Dhas.Analysis.EchoFrames
import Dhas.Library.Progress
import Dhas.Model.LinkRefresh
import Dhas.Analysis.RefreshWalk
import Dhas.Library.RoundRobin
import Dhas.Program.SoundDevice
import Dhas.Program.SoundDeviceFactory
import Dhas.Model.RtpPorts
import Dhas.Analysis.RtpPorts
import Dhas.Program.CallMedia
import Dhas.Model.CallMedia
import Dhas.Analysis.MediaSessions
import Dhas.Model.SoundDevices
import Dhas.Analysis.RtpStream
import Dhas.Model.ClearedDevice
import Dhas.Analysis.DeviceRefinement
import Dhas.Analysis.ClearQueue
import Dhas.Model.SoundWorker
import Dhas.Analysis.SoundWorkerSleep
import Dhas.Program.DHASWifiNodesModule
import Dhas.Model.WifiNodes
import Dhas.Analysis.WifiRegistry
import Dhas.Model.NodeStream
import Dhas.Analysis.NodeSegments
import Dhas.Program.AlarmModule
import Dhas.Analysis.AlarmRecords
import Dhas.Library.Substring
import Dhas.Program.HTTPCommunication
import Dhas.Analysis.PageTexts
import Dhas.Analysis.PageCuts
import Dhas.Library.Windows
import Dhas.Program.OnAlarm
import Dhas.Model.AlarmTicks
import Dhas.Analysis.SunEvents
import Dhas.Library.Sequencer
import Dhas.Model.SequenceCalls
import Dhas.Analysis.SequenceTiming
import Dhas.Analysis.SequenceStrings
import Dhas.Model.ValveStop
import Dhas.Analysis.StopRace
import Dhas.Analysis.RawSend
import Dhas.Library.IndexLoop
import Dhas.Program.IOBoard
import Dhas.Analysis.PinState
import Dhas.Analysis.DuplicateAcks
import Dhas.Model.SwitchLoad
import Dhas.Analysis.SwitchLevel
import Dhas.Model.DeviceFrames
import Dhas.Analysis.ListedLevel
import Dhas.Program.MessageBuffer
import Dhas.Analysis.MessageBytes
import Dhas.Model.DyingLink
import Dhas.Analysis.LinkDeath
import Dhas.Model.CommandRuns
import Dhas.Analysis.DroppedCommands
import Dhas.Analysis.SwitchRate
import Dhas.Library.DaylightClock
import Dhas.Model.LocalClock
import Dhas.Analysis.EventTimeout
import Dhas.Analysis.PlayTokens
import Dhas.Analysis.PlayStrings
import Dhas.Program.SoundModule
import Dhas.Analysis.PlayRequests
import Dhas.Analysis.SilenceLength
import Dhas.Program.AlsaPCM
import Dhas.Analysis.ChunkWrites
import Dhas.Analysis.PlayEnds
import Dhas.Library.TreeCursor
import Dhas.Program.Presence
import Dhas.Analysis.PresenceNote
import Dhas.Program.PhoneModule
import Dhas.Model.CallSessions
import Dhas.Analysis.CallList
import Dhas.Analysis.AlarmActions
import Dhas.Analysis.ZoneLabels
import Dhas.Analysis.PageBodies
import Dhas.Program.BLFList
import Dhas.Model.Subscriptions
import Dhas.Analysis.SubscribedOnce
import Dhas.Program.WeatherModule
import Dhas.Model.WeatherPolls
import Dhas.Analysis.ThermostatModes
import Dhas.Program.Mysql
import Dhas.Model.EventLog
import Dhas.Analysis.LoggedEvents
import Dhas.Model.EventLogging
import Dhas.Analysis.LogOrder
import Dhas.Analysis.LogSleep
import Dhas.Program.HexText
import Dhas.Analysis.ListedModules
import Dhas.Program.RESTInterface
import Dhas.Analysis.ListedEvents
import Dhas.Program.Wiz110sr
import Dhas.Analysis.WizDiscovery
import Dhas.Model.PortSockets
import Dhas.Analysis.PortDescriptors
import Dhas.Library.LoopedReads
import Dhas.Analysis.MusicLoop
import Dhas.Model.UnansweredCalls
import Dhas.Analysis.RingTimeout
import Dhas.Program.WeatherHelper
import Dhas.Model.SunDays
import Dhas.Analysis.SunCalendar
import Dhas.Model.ModuleLife
import Dhas.Analysis.ModuleShutdown
import Dhas.Library.GrowingVector
import Dhas.Model.WeatherThreads
import Dhas.Analysis.DeviceStorage
import Dhas.Model.StateDocuments
import Dhas.Analysis.DocumentPolls
import Dhas.Library.Quoting
import Dhas.Model.LogStatements
import Dhas.Analysis.LogInjection
import Dhas.Library.EdgeTriggered
import Dhas.Model.WifiLoop
import Dhas.Analysis.WifiWakeups
import Dhas.Library.RequestHead
import Dhas.Program.WeatherCallbacks
import Dhas.Model.ThermostatRequests
import Dhas.Analysis.RequestTargets

import CanopenTools.Bridge.CanRecord
import CanopenTools.Bridge.CanToTcp
import CanopenTools.Bridge.ConfigMerge
import CanopenTools.Bridge.Connections
import CanopenTools.Bridge.EndToEnd
import CanopenTools.Bridge.FrameKind
import CanopenTools.Bridge.FramerRuns
import CanopenTools.Bridge.LoadConfig
import CanopenTools.Bridge.MainThread
import CanopenTools.Bridge.Moves
import CanopenTools.Bridge.PairTransport
import CanopenTools.Bridge.SenderCode
import CanopenTools.Bridge.Shutdown
import CanopenTools.Bridge.Startup
import CanopenTools.Bridge.TcpFramer
import CanopenTools.Bridge.TcpToCan
import CanopenTools.Bridge.Unmixed
import CanopenTools.Bridge.WellFormed
import CanopenTools.Cells.RefCell
import CanopenTools.Cells.Watch
import CanopenTools.Client.Board
import CanopenTools.Client.BusForwarding
import CanopenTools.Client.ConnectionManager
import CanopenTools.Client.MainLoop
import CanopenTools.Client.RecordStream
import CanopenTools.Client.RecvAll
import CanopenTools.Client.Resources
import CanopenTools.Client.Simulation
import CanopenTools.Client.TcpParts
import CanopenTools.Client.Traffic
import CanopenTools.Client.WifiTries
import CanopenTools.Effects.Accounts
import CanopenTools.Effects.Contract
import CanopenTools.Effects.Program
import CanopenTools.Effects.Protocol
import CanopenTools.Effects.Residual
import CanopenTools.Effects.Tied
import CanopenTools.Effects.Translate
import CanopenTools.Firmware.DeviceUse
import CanopenTools.Firmware.Ordering
import CanopenTools.Firmware.Polling
import CanopenTools.Firmware.Tool
import CanopenTools.Firmware.UnreadableImage
import CanopenTools.Firmware.Update
import CanopenTools.Framing.Arrivals
import CanopenTools.Framing.BigEndian
import CanopenTools.Framing.FixedLayout
import CanopenTools.Framing.Numbered
import CanopenTools.Framing.PrefixCodec
import CanopenTools.Interactive.Console
import CanopenTools.Interactive.ConsoleEscapes
import CanopenTools.Interactive.ConsoleExit
import CanopenTools.Interactive.EventMonitor
import CanopenTools.Interactive.Menu
import CanopenTools.Interactive.NodeTable
import CanopenTools.Interactive.PdoPayload
import CanopenTools.Interactive.Refresh
import CanopenTools.Interactive.SelectionEnd
import CanopenTools.Interactive.SubscriptionMenu
import CanopenTools.Interop.DataFrames
import CanopenTools.Interop.Decoders
import CanopenTools.Interop.RemoteFrames
import CanopenTools.Interop.TornSends
import CanopenTools.Mappings.Nested
import CanopenTools.Runs.History
import CanopenTools.Runs.Liveness
import CanopenTools.Runs.Windows
import CanopenTools.Tools.Decimal
import CanopenTools.Tools.Host
import CanopenTools.Tools.PyText
import CanopenTools.Viewer.Additional
import CanopenTools.Viewer.App
import CanopenTools.Viewer.Bitrate
import CanopenTools.Viewer.Controls
import CanopenTools.Viewer.Delivery
import CanopenTools.Viewer.Driver
import CanopenTools.Viewer.Filter
import CanopenTools.Viewer.Frames
import CanopenTools.Viewer.Gui
import CanopenTools.Viewer.GuiList
import CanopenTools.Viewer.Panels
import CanopenTools.Viewer.Refinement
import CanopenTools.Viewer.Retention
import CanopenTools.Viewer.Screen
import CanopenTools.Viewer.System
import CanopenTools.Viewer.Widgets
import CanopenTools.Viewer.Window

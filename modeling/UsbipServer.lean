import UsbipServer.Library.Machine
import UsbipServer.Library.Steps
import UsbipServer.Library.Buffer
import UsbipServer.Library.BigEndian
import UsbipServer.Wire.Definitions
import UsbipServer.Tcpip
import UsbipServer.Device.Endpoint
import UsbipServer.Device.Control
import UsbipServer.Protocol.Tables
import UsbipServer.Protocol.Receive
import UsbipServer.System
import UsbipServer.Spec.Mailbox
import UsbipServer.Refine.Frame
import UsbipServer.Spec.Ledger
import UsbipServer.Refine.Sound
import UsbipServer.Refine.Replies
import UsbipServer.Refine.Commands
import UsbipServer.Refine.Progress
import UsbipServer.Properties.ExactlyOnce
import UsbipServer.Refine.Device
import UsbipServer.Refine.Mailbox
import UsbipServer.Properties.ByteStream
import UsbipServer.Refine.Pass
import UsbipServer.Properties.Order
import UsbipServer.Properties.Wakeup
import UsbipServer.Spec.Calls
import UsbipServer.Refine.Calls
import UsbipServer.Properties.ResetIsolation
import UsbipServer.Properties.InputFraming
import UsbipServer.Library.Framing
import UsbipServer.Spec.Client
import UsbipServer.Properties.OutputFraming
import UsbipServer.Properties.OutDelivery
import UsbipServer.Properties.ControlAnswers
import UsbipServer.Library.Pairs
import UsbipServer.Spec.TwoRuns
import UsbipServer.Refine.Filing
import UsbipServer.Refine.Recorded
import UsbipServer.Properties.ReportedLengths
import UsbipServer.Library.Log
import UsbipServer.Library.Pieces
import UsbipServer.Refine.Closing
import UsbipServer.Properties.IsoRoundTrip
import UsbipServer.Library.Timetable
import UsbipServer.Refine.Streams
import UsbipServer.Properties.IsoPacing
import UsbipServer.Properties.InterruptPacing
import UsbipServer.Spec.Chain
import UsbipServer.Properties.OtherSpeed
import UsbipServer.Properties.ConfigDescriptor
import UsbipServer.Library.Sweep
import UsbipServer.Properties.PassProgress
import UsbipServer.Locking
import UsbipServer.Refine.Locks
import UsbipServer.Properties.NoWaitCycle
import UsbipServer.Gud.Display
import UsbipServer.Library.Raster
import UsbipServer.Library.Gather
import UsbipServer.Spec.Updates
import UsbipServer.Refine.Rectangle
import UsbipServer.Refine.Display
import UsbipServer.Properties.DisplayUpdates
import UsbipServer.Properties.EndpointTable
import UsbipServer.Properties.SocketWrites
import UsbipServer.Properties.DeviceList
import UsbipServer.Properties.DescriptorWalks
import UsbipServer.Refine.Requests
import UsbipServer.Properties.CheckedStates
import UsbipServer.Properties.FormatChange
import UsbipServer.Refine.Handled
import UsbipServer.Properties.StringDescriptors
import UsbipServer.Properties.StandardRequests
import UsbipServer.Refine.Alike
import UsbipServer.Refine.InStep
import UsbipServer.Properties.FreshDevice
import UsbipServer.Condvar
import UsbipServer.Properties.Broadcasts
import UsbipServer.Library.FixedArray
import UsbipServer.Memory
import UsbipServer.Properties.StaticArrays
import UsbipServer.Properties.Shutdown
import UsbipServer.Library.Inbox
import UsbipServer.Program
import UsbipServer.Programs.Bulk
import UsbipServer.Programs.Cdc
import UsbipServer.Properties.BulkDevice
import UsbipServer.Programs.Audio
import UsbipServer.Programs.Keyboard
import UsbipServer.Properties.AudioDevice
import UsbipServer.Properties.CdcDevice
import UsbipServer.Properties.KeyboardDevice
import UsbipServer.Properties.IsoRestart

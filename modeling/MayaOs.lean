import MayaOs.Apps.Shell
import MayaOs.Drivers.Ahci
import MayaOs.Drivers.Ata
import MayaOs.Drivers.AtaPio
import MayaOs.Drivers.Keyboard
import MayaOs.Drivers.Mouse
import MayaOs.Drivers.Pci
import MayaOs.Drivers.Rtc
import MayaOs.Drivers.Serial
import MayaOs.Drivers.Timer
import MayaOs.Drivers.Vga
import MayaOs.Fs.Ext2
import MayaOs.Fs.Ext2File
import MayaOs.Fs.Fat32
import MayaOs.Fs.Fat32Mount
import MayaOs.Fs.File
import MayaOs.Gui.Desktop
import MayaOs.Gui.Graphics
import MayaOs.Gui.Input
import MayaOs.Gui.Notepad
import MayaOs.Gui.Notification
import MayaOs.Gui.Render
import MayaOs.Gui.Terminal
import MayaOs.Gui.Widgets
import MayaOs.Gui.Window
import MayaOs.Gui.WindowHeap
import MayaOs.Kernel.Acpi
import MayaOs.Kernel.Apic
import MayaOs.Kernel.CommandLoop
import MayaOs.Kernel.Condition
import MayaOs.Kernel.HeapMemory
import MayaOs.Kernel.InterruptStub
import MayaOs.Kernel.Interrupts
import MayaOs.Kernel.Logging
import MayaOs.Kernel.Memory
import MayaOs.Kernel.MessageQueue
import MayaOs.Kernel.Mutex
import MayaOs.Kernel.Paging
import MayaOs.Kernel.PhysicalMemory
import MayaOs.Kernel.Pipe
import MayaOs.Kernel.Process
import MayaOs.Kernel.Scheduler
import MayaOs.Kernel.Security
import MayaOs.Kernel.Semaphore
import MayaOs.Kernel.SemaphoreNodes
import MayaOs.Kernel.Spinlock
import MayaOs.Kernel.State
import MayaOs.Kernel.Syscall
import MayaOs.Kernel.SyscallTable
import MayaOs.Kernel.UserMemory
import MayaOs.Lib.Alarms
import MayaOs.Lib.BoundedMap
import MayaOs.Lib.ByteMemory
import MayaOs.Lib.Bytes
import MayaOs.Lib.Census
import MayaOs.Lib.Channels
import MayaOs.Lib.ErrorTerm
import MayaOs.Lib.KeyedTable
import MayaOs.Lib.Layers
import MayaOs.Lib.Lines
import MayaOs.Lib.LinkedList
import MayaOs.Lib.Loops
import MayaOs.Lib.MachineInt
import MayaOs.Lib.NumberedArray
import MayaOs.Lib.OnesComplement
import MayaOs.Lib.Outputs
import MayaOs.Lib.Polling
import MayaOs.Lib.Prefix
import MayaOs.Lib.RingBuffer
import MayaOs.Lib.Run
import MayaOs.Lib.StableInsert
import MayaOs.Lib.TypeLengthValue
import MayaOs.Lib.WhileLoop
import MayaOs.Lib.WordStack
import MayaOs.Libc.Stdio
import MayaOs.Net.Arp
import MayaOs.Net.Builders
import MayaOs.Net.Dhcp
import MayaOs.Net.Ethernet
import MayaOs.Net.Host
import MayaOs.Net.Icmp
import MayaOs.Net.Ip
import MayaOs.Net.Lan
import MayaOs.Net.Tcp
import MayaOs.Net.Udp
import MayaOs.Properties.AcpiTables
import MayaOs.Properties.AhciPorts
import MayaOs.Properties.AhciTransfer
import MayaOs.Properties.AlignedBlocks
import MayaOs.Properties.AlphaBlend
import MayaOs.Properties.ArpCache
import MayaOs.Properties.ArpResolution
import MayaOs.Properties.AtaAddress
import MayaOs.Properties.AtaIdentify
import MayaOs.Properties.AtaStore
import MayaOs.Properties.BuilderBounds
import MayaOs.Properties.Capability
import MayaOs.Properties.CapabilityMap
import MayaOs.Properties.ConditionWakeup
import MayaOs.Properties.ConsoleOutput
import MayaOs.Properties.Context
import MayaOs.Properties.DhcpInfo
import MayaOs.Properties.DhcpLease
import MayaOs.Properties.DhcpOptions
import MayaOs.Properties.DhcpRoundtrip
import MayaOs.Properties.Ext2Mount
import MayaOs.Properties.Ext2Read
import MayaOs.Properties.Ext2Safety
import MayaOs.Properties.FatBlocks
import MayaOs.Properties.FatGeometry
import MayaOs.Properties.FatListing
import MayaOs.Properties.FatSearch
import MayaOs.Properties.FatWalk
import MayaOs.Properties.FileDescriptors
import MayaOs.Properties.HeapBlocks
import MayaOs.Properties.HeapConservation
import MayaOs.Properties.HeapLayout
import MayaOs.Properties.HeapRefinement
import MayaOs.Properties.HeapRequests
import MayaOs.Properties.HeapStarts
import MayaOs.Properties.HeapUsage
import MayaOs.Properties.IcmpEcho
import MayaOs.Properties.InputModifiers
import MayaOs.Properties.InputQueue
import MayaOs.Properties.InternetChecksum
import MayaOs.Properties.InterruptFrames
import MayaOs.Properties.InterruptTable
import MayaOs.Properties.KeyDelivery
import MayaOs.Properties.KeyboardQueue
import MayaOs.Properties.LineDrawing
import MayaOs.Properties.LogRing
import MayaOs.Properties.MadtWalk
import MayaOs.Properties.MemoryMap
import MayaOs.Properties.MessageClose
import MayaOs.Properties.MessageFifo
import MayaOs.Properties.MessageShape
import MayaOs.Properties.MessageSteps
import MayaOs.Properties.MessageWakeup
import MayaOs.Properties.MouseButtons
import MayaOs.Properties.MousePackets
import MayaOs.Properties.MutexOwner
import MayaOs.Properties.NotepadSave
import MayaOs.Properties.NotepadText
import MayaOs.Properties.Notifications
import MayaOs.Properties.PacketContents
import MayaOs.Properties.PageTables
import MayaOs.Properties.PciConfig
import MayaOs.Properties.PciScan
import MayaOs.Properties.PipeRing
import MayaOs.Properties.PipeSemaphores
import MayaOs.Properties.PipeWrite
import MayaOs.Properties.PrintNumber
import MayaOs.Properties.ProcessNumbers
import MayaOs.Properties.ProcessTable
import MayaOs.Properties.ReceiveFaults
import MayaOs.Properties.RegionMapping
import MayaOs.Properties.RoundRobin
import MayaOs.Properties.RtcInterrupts
import MayaOs.Properties.RuntimeAccounting
import MayaOs.Properties.SchedulerRotation
import MayaOs.Properties.SchedulerStates
import MayaOs.Properties.ScreenPicture
import MayaOs.Properties.ScreenRegions
import MayaOs.Properties.SemaphoreBound
import MayaOs.Properties.SemaphoreDestroy
import MayaOs.Properties.SemaphoreWakeup
import MayaOs.Properties.SerialLine
import MayaOs.Properties.ShellHistory
import MayaOs.Properties.SpinlockFlags
import MayaOs.Properties.StartMenu
import MayaOs.Properties.SyscallDispatch
import MayaOs.Properties.TaskQueue
import MayaOs.Properties.TaskRefs
import MayaOs.Properties.TcpFault
import MayaOs.Properties.TcpLan
import MayaOs.Properties.TcpPorts
import MayaOs.Properties.TcpSend
import MayaOs.Properties.TcpStream
import MayaOs.Properties.TcpWire
import MayaOs.Properties.TerminalScreen
import MayaOs.Properties.TimerCallbacks
import MayaOs.Properties.TimerSleep
import MayaOs.Properties.TransportChecksum
import MayaOs.Properties.UdpDelivery
import MayaOs.Properties.UdpDynamicPorts
import MayaOs.Properties.UdpSockets
import MayaOs.Properties.UserAccess
import MayaOs.Properties.VgaBounds
import MayaOs.Properties.VgaTerminal
import MayaOs.Properties.Vprintf
import MayaOs.Properties.WindowBuffers
import MayaOs.Properties.WindowDrag
import MayaOs.Properties.WindowKept
import MayaOs.Properties.WindowMaximize
import MayaOs.Properties.WindowOrder
import MayaOs.Properties.WindowPicture
import MayaOs.Properties.WindowRecords
import MayaOs.Properties.WindowShape
import MayaOs.Properties.WindowWidgets

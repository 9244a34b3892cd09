import TildaMk4.Lib.Transition
import TildaMk4.Storage.FlatDisk
import TildaMk4.Storage.SectorImage
import TildaMk4.Storage.Sync
import TildaMk4.Storage.Indicator
import TildaMk4.Usb.Exclusive
import TildaMk4.Usb.UnmountWait
import TildaMk4.Usb.BlockTransfers
import TildaMk4.Sound.Playback
import TildaMk4.Buttons.Debounce
import TildaMk4.Buttons.Keypad
import TildaMk4.Buttons.Keyboard
import TildaMk4.Usb.Eject
import TildaMk4.Clock.Clocks
import TildaMk4.Net.WrapSocket
import TildaMk4.Net.GetAddrInfo
import TildaMk4.Net.SocketModule
import TildaMk4.Neopix.Frames
import TildaMk4.Machine.UartHandles
import TildaMk4.Reset.Undisturbed
import TildaMk4.Reset.OldRun
import TildaMk4.Bootstrap.Reassembly
import TildaMk4.Firmware.Frames
import TildaMk4.Idgen.Ids
import TildaMk4.Storage.FailedLoad
import TildaMk4.Storage.FailedFlush
import TildaMk4.Storage.Wear
import TildaMk4.Net.DottedNotation
import TildaMk4.Wifi.Credentials
import TildaMk4.Sound.Refusal
import TildaMk4.Sound.Wav
import TildaMk4.Sound.PulseWidth
import TildaMk4.Usb.BlockCounting
import TildaMk4.Machine.FailedInit
import TildaMk4.Machine.Registers
import TildaMk4.Bootstrap.Termination
import TildaMk4.Firmware.Update
import TildaMk4.Usb.CtrlC
import TildaMk4.Boot.Selection
import TildaMk4.Ugfx.Polygon
import TildaMk4.Machine.TableIds
import TildaMk4.Machine.PwmDuty
import TildaMk4.Sound.Volume
import TildaMk4.Wifi.Active
import TildaMk4.Wifi.Scan
import TildaMk4.Bootstrap.WifiTimeout
import TildaMk4.Console.Cooked
import TildaMk4.Console.Receive
import TildaMk4.Console.Transmit
import TildaMk4.Usb.StatusProgress
import TildaMk4.Usb.Deferred
import TildaMk4.Usb.SenseData
import TildaMk4.Boot.ResetMode
import TildaMk4.Bootstrap.Directories
import TildaMk4.Bootstrap.Download
import TildaMk4.Bootstrap.AddrInfo

import EseManager.Lib.Machine
import EseManager.Lib.Holds
import EseManager.Basic
import EseManager.PowerManager
import EseManager.Lemmas.Handlers
import EseManager.Device
import EseManager.Registrations
import EseManager.Lib.Mem
import EseManager.ManagerService
import EseManager.Theorems.TeeErrors
import EseManager.Theorems.RefCount
import EseManager.Theorems.DeathLinks
import EseManager.Theorems.Failures
import EseManager.Theorems.Download
import EseManager.Theorems.Noninterference
import EseManager.Clients
import EseManager.Theorems.ClientSessions
import EseManager.Processes
import EseManager.Theorems.PidReuse
import EseManager.Lib.Shuffle
import EseManager.Races
import EseManager.Lemmas.RaceBits
import EseManager.Theorems.Serialisability
import EseManager.Descriptors
import EseManager.Theorems.Authorisation
import EseManager.Theorems.Descriptors
import EseManager.Theorems.OpenNode
import EseManager.Lib.Parcel
import EseManager.PowerRpc
import EseManager.Theorems.PowerRpc
import EseManager.Jni
import EseManager.Lemmas.Jni
import EseManager.ServiceProxy
import EseManager.Theorems.ChipLegality
import EseManager.Theorems.ManagerRpc
import EseManager.Theorems.RequestParsing
import EseManager.Theorems.Requests
import EseManager.Theorems.ResponseCopying
import EseManager.Theorems.ServiceProxy
import EseManager.DemoClient
import EseManager.Lemmas.DemoClient
import EseManager.Lemmas.HexParser
import EseManager.Lib.Resources
import EseManager.Theorems.CrsToggle
import EseManager.Theorems.HexParser
import EseManager.Theorems.LogicalChannels
import EseManager.Theorems.OutputSizes
import EseManager.Theorems.RawApdu
import EseManager.Theorems.ReleasePaths
import EseManager.Theorems.TeeResources
import EseManager.GetCplcTest
import EseManager.Site
import EseManager.Theorems.Coverage
import EseManager.Theorems.CplcTest
import EseManager.Theorems.Quiescence
import EseManager.Theorems.Reset
import EseManager.Theorems.Restarts
import EseManager.FpTest
import EseManager.Lemmas.ReleaseRace
import EseManager.PowerService
import EseManager.Theorems.EsepmClient
import EseManager.Theorems.FpTest
import EseManager.Theorems.ManagerDaemon
import EseManager.Theorems.NativeMethods
import EseManager.Theorems.ReleaseRace
import EseManager.Theorems.SendCommand
import EseManager.Lemmas.Threads
import EseManager.Theorems.Threads
import EseManager.Theorems.Transcript
import EseManager.SpiTest
import EseManager.TestApp
import EseManager.Theorems.SpiTest
import EseManager.Theorems.TestApp
import EseManager.Lib.Frames
import EseManager.SpiFrames
import EseManager.Theorems.SpiFrames

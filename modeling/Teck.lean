import Teck.Library.Delimited
import Teck.Library.Runs
import Teck.Library.TraceSafety
import Teck.Library.Loop
import Teck.Library.Enumeration
import Teck.Library.ByteBuffer
import Teck.MainLoopInput
import Teck.Scene
import Teck.LineStripRoundTrip
import Teck.LineUpload
import Teck.ReaderHistory
import Teck.StartupSchedule
import Teck.Dawn.RingBufferSafety
import Teck.LineUploadQueue
import Teck.Dawn.CommandRoundTrip
import Teck.Dawn.AcceptedCommands
import Teck.Dawn.DefinedCalls
import Teck.Dawn.EventOrder

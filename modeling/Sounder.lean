import Sounder.Basic
import Sounder.Config.Schedule
import Sounder.Config.Input
import Sounder.Config.Calibration
import Sounder.Config.Waveform
import Sounder.Config.Construct
import Sounder.Config.Guards
import Sounder.Config.Sizes
import Sounder.Config.Subframes
import Sounder.Config.UplinkData
import Sounder.Config.Queries
import Sounder.Config.Cells
import Sounder.Recorder.Construct
import Sounder.Recorder.Dispatch
import Sounder.Pipeline.Step
import Sounder.Pipeline.Invariant
import Sounder.Pipeline.Shutdown
import Sounder.Pipeline.Drain
import Sounder.Pipeline.Overload

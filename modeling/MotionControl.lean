import MotionControl.Main
import MotionControl.Motor.Scripted
import MotionControl.Settings.Image
import MotionControl.Proofs.Ledger
import MotionControl.Proofs.Target
import MotionControl.Proofs.Homing
import MotionControl.Proofs.RoundTrip
import MotionControl.Proofs.PrefixFree
import MotionControl.Proofs.FaultLatch
import MotionControl.Proofs.Standstill
import MotionControl.Proofs.Energized
import MotionControl.Proofs.Isolation
import MotionControl.Proofs.Squaring
import MotionControl.Proofs.Arrival
import MotionControl.Proofs.Grammar
import MotionControl.Proofs.Homeable
import MotionControl.Proofs.Script
import MotionControl.Proofs.TimeLimit
import MotionControl.Proofs.Construction
import MotionControl.Proofs.Addressing
import MotionControl.Proofs.Overtaken
import MotionControl.Proofs.Tally
import MotionControl.Proofs.Bookkeeping
import MotionControl.Proofs.TravelLimits
import MotionControl.Proofs.Executable
import MotionControl.Proofs.StopRequest
import MotionControl.Proofs.Deadlines
import MotionControl.Proofs.OwnSignal
import MotionControl.Proofs.Remembered
import MotionControl.Proofs.Effort
import MotionControl.Proofs.Truncation
import MotionControl.Proofs.WholeLines
import MotionControl.Proofs.Braking
import MotionControl.Proofs.Overshoot
import MotionControl.Proofs.HardStops
import MotionControl.Proofs.SplitTime
import MotionControl.Proofs.Entries
import MotionControl.Proofs.Laps

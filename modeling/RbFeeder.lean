import RbFeeder.ModeS.Residue
import RbFeeder.ModeS.Classify
import RbFeeder.ModeS.Feedback
import RbFeeder.ModeS.CommBScores
import RbFeeder.ModeS.Remainder
import RbFeeder.ModeS.Extraction
import RbFeeder.Demod.Station
import RbFeeder.Demod.ModeACReplies
import RbFeeder.Net.Delivery
import RbFeeder.Net.Output
import RbFeeder.Net.FatsvProofs
import RbFeeder.Net.FatsvEvents
import RbFeeder.Net.RawOutput
import RbFeeder.Net.StatsJson
import RbFeeder.Net.History
import RbFeeder.Sdr.Counting
import RbFeeder.Dsp.CountAbove
import RbFeeder.Dsp.MeanPower
import RbFeeder.Adaptive.GainLimits
import RbFeeder.Adaptive.Decoded
import RbFeeder.Adaptive.Percentile
import RbFeeder.Airnav.SendPacket
import RbFeeder.Airnav.SessionProofs
import RbFeeder.Airnav.RateLimit
import RbFeeder.Airnav.Determinism
import RbFeeder.Airnav.AsterixValues
import RbFeeder.Airnav.UatFraming
import RbFeeder.Airnav.Anrb
import RbFeeder.Asterix.TargetId
import RbFeeder.Track.DerivedAltitude
import RbFeeder.Cpr.Global
import RbFeeder.Cpr.Relative
import RbFeeder.Tracker.Altitudes
import RbFeeder.Tracker.AltitudeCodes
import RbFeeder.Tracker.Sweep
import RbFeeder.Tracker.Priority
import RbFeeder.Tracker.PositionSteps
import RbFeeder.Tracker.ModeAC
import RbFeeder.Statistics.Windows
import RbFeeder.Lib.Scanner

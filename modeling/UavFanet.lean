import UavFanet.ClusterRuns
import UavFanet.ReplayProtection
import UavFanet.ReplayRefinement
import UavFanet.KeyAgreement
import UavFanet.ForwardSecrecy
import UavFanet.TelemetryRelay
import UavFanet.PacketDispatch
import UavFanet.GenuineSenders
import UavFanet.KdcLink
import UavFanet.RekeyVersions
import UavFanet.UavKeys
import UavFanet.GroupTokens
import UavFanet.Revocation
import UavFanet.HandoverRuns
import UavFanet.TokenSecrets
import UavFanet.JoinAdmission
import UavFanet.ParameterFiles
import UavFanet.ParserBounds
import UavFanet.PacketRoundTrip
import UavFanet.ParameterFormat
import UavFanet.SkdcHandovers
import UavFanet.RekeyOutcomes
import UavFanet.RekeyAcks
import UavFanet.SlaveSlots
import UavFanet.HandoverRecovery
import UavFanet.TekIntegers
import UavFanet.JsonValidation
import UavFanet.ExponentAdjustment
import UavFanet.TekDerivation
import UavFanet.HandoverCodecs
import UavFanet.BadTokens
import UavFanet.MemberHandovers
import UavFanet.HandoverBalance
import UavFanet.LeaveRotations
import UavFanet.ReplayFrame
import UavFanet.ChineseRemainder
import UavFanet.ModularInverses
import UavFanet.RandomRange
import UavFanet.HexKeys
import UavFanet.ConfigManager
import UavFanet.PayloadLengths
import UavFanet.CanonicalPackets
import UavFanet.AtomicUpdates
import UavFanet.ConfigCounts
import UavFanet.TimingProfiler
import UavFanet.JsonMerge
import UavFanet.DispatchCounts
import UavFanet.CsvLogger
import UavFanet.MetricsSummary
import UavFanet.IntegerCodecs
import UavFanet.EventSchedulers
import UavFanet.SimulatorRuns
import UavFanet.RekeyTimers
import UavFanet.FleetRuns
import UavFanet.OlsrRelays
import UavFanet.OlsrForwarding
import UavFanet.OlsrPackets
import UavFanet.OlsrTopology
import UavFanet.OlsrFlooding
import UavFanet.SchemeAgreement
import UavFanet.FlowBalance
import UavFanet.FlowMetrics

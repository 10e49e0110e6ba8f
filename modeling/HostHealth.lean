import HostHealth.Chain
import HostHealth.Clock
import HostHealth.CommandLine.Arguments
import HostHealth.CommandLine.Report
import HostHealth.CommandLine.Run
import HostHealth.CommandLine.Style
import HostHealth.Config
import HostHealth.Currency
import HostHealth.Dns.Error
import HostHealth.Dns.Name
import HostHealth.Dns.Resolver
import HostHealth.Inspector.Basic
import HostHealth.Inspector.Cooldown
import HostHealth.Inspector.HostTest
import HostHealth.Inspector.Refresh
import HostHealth.Inspector.Service
import HostHealth.Inspector.Session
import HostHealth.Inspector.Source
import HostHealth.Json.Basic
import HostHealth.Json.Reader
import HostHealth.Json.Range
import HostHealth.Json.Record
import HostHealth.Json.Writer
import HostHealth.Main
import HostHealth.Net.Address
import HostHealth.Net.DottedNumbers
import HostHealth.Net.Ip
import HostHealth.Net.Json
import HostHealth.Net.Protocol
import HostHealth.Net.PublicKey
import HostHealth.Net.Target
import HostHealth.Net.Url
import HostHealth.Net.VersionRequest
import HostHealth.Network
import HostHealth.Number.Double
import HostHealth.Number.Single
import HostHealth.Offline
import HostHealth.Probe.Client
import HostHealth.Probe.Failure
import HostHealth.Probe.Reach
import HostHealth.Probe.Report
import HostHealth.Probe.Run
import HostHealth.Proofs.AddressOrder
import HostHealth.Proofs.AddressTexts
import HostHealth.Proofs.AliasTrees
import HostHealth.Proofs.BoundedLookups
import HostHealth.Proofs.CallDiscipline
import HostHealth.Proofs.CancellationCauses
import HostHealth.Proofs.CancelledLookups
import HostHealth.Proofs.CancelledProbes
import HostHealth.Proofs.CancelledTests
import HostHealth.Proofs.ClosedLoops
import HostHealth.Proofs.ClosedTests
import HostHealth.Proofs.CollateralRungs
import HostHealth.Proofs.CooldownRecord
import HostHealth.Proofs.Courses
import HostHealth.Proofs.CrashContainment
import HostHealth.Proofs.Cuts
import HostHealth.Proofs.Deadlines
import HostHealth.Proofs.DerivedProbes
import HostHealth.Proofs.DialFailures
import HostHealth.Proofs.Entries
import HostHealth.Proofs.ExitCodes
import HostHealth.Proofs.Fallbacks
import HostHealth.Proofs.FaultIsolation
import HostHealth.Proofs.FirstReleases
import HostHealth.Proofs.ForeignMembers
import HostHealth.Proofs.HeldNumbers
import HostHealth.Proofs.HexTexts
import HostHealth.Proofs.HostPorts
import HostHealth.Proofs.InferredVersions
import HostHealth.Proofs.Isolation
import HostHealth.Proofs.KeyTexts
import HostHealth.Proofs.LastGoodFetches
import HostHealth.Proofs.LiteralEndpoints
import HostHealth.Proofs.LookupEvents
import HostHealth.Proofs.LookupFailures
import HostHealth.Proofs.Lookups
import HostHealth.Proofs.LostRaces
import HostHealth.Proofs.NetworkUse
import HostHealth.Proofs.Numerals
import HostHealth.Proofs.Outcomes
import HostHealth.Proofs.OutdatedReleases
import HostHealth.Proofs.OwnReports
import HostHealth.Proofs.PositiveTimes
import HostHealth.Proofs.PrintedReports
import HostHealth.Proofs.ProbeStages
import HostHealth.Proofs.Races
import HostHealth.Proofs.Readers
import HostHealth.Proofs.RefreshTimes
import HostHealth.Proofs.ReleaseDisputes
import HostHealth.Proofs.ReleaseTexts
import HostHealth.Proofs.Replies
import HostHealth.Proofs.ReportTallies
import HostHealth.Proofs.RequestLogs
import HostHealth.Proofs.Requests
import HostHealth.Proofs.ServiceSound
import HostHealth.Proofs.ServiceSteps
import HostHealth.Proofs.SharedTerms
import HostHealth.Proofs.Shifts
import HostHealth.Proofs.Shutdown
import HostHealth.Proofs.Successes
import HostHealth.Proofs.TestDeadlines
import HostHealth.Proofs.TestsInStep
import HostHealth.Proofs.Verdicts
import HostHealth.Proofs.VersionOrder
import HostHealth.Proofs.VersionTexts
import HostHealth.Proofs.WrittenAddresses
import HostHealth.Proofs.WrittenJson
import HostHealth.Proofs.WrittenNumbers
import HostHealth.Proofs.WrittenReports
import HostHealth.Settings.Basic
import HostHealth.Settings.Json
import HostHealth.Settings.Validation
import HostHealth.Span
import HostHealth.Text.Blank
import HostHealth.Text.Combining
import HostHealth.Text.Decimal
import HostHealth.Text.Invisible
import HostHealth.Text.Quoted
import HostHealth.Text.Split
import HostHealth.Toml.Basic
import HostHealth.Toml.Reader
import HostHealth.Toml.Scalar
import HostHealth.Version

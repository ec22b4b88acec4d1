import ScadaBridge.Bridge.Session
import ScadaBridge.Bridge.Shared
import ScadaBridge.Settings.File
import ScadaBridge.Settings.Json
import ScadaBridge.Wire.Json
import ScadaBridge.Proofs.Metric.Assign
import ScadaBridge.Proofs.Metric.Content
import ScadaBridge.Proofs.Metric.Delta
import ScadaBridge.Proofs.Metric.RoundTrip
import ScadaBridge.Proofs.Metric.Record
import ScadaBridge.Proofs.Device
import ScadaBridge.Proofs.Bridge.Run
import ScadaBridge.Proofs.Bridge.Turn
import ScadaBridge.Proofs.Bridge.Call
import ScadaBridge.Proofs.Bridge.Account
import ScadaBridge.Proofs.Bridge.BirthFirst
import ScadaBridge.Proofs.Bridge.Mirror
import ScadaBridge.Proofs.Bridge.Sequence
import ScadaBridge.Proofs.Bridge.Identity
import ScadaBridge.Proofs.Bridge.DataMessage
import ScadaBridge.Proofs.Bridge.Lifecycle
import ScadaBridge.Proofs.Bridge.ReportedDeath
import ScadaBridge.Proofs.Bridge.Rejection
import ScadaBridge.Proofs.Bridge.Status
import ScadaBridge.Proofs.Bridge.DeadApps
import ScadaBridge.Proofs.Bridge.Loss
import ScadaBridge.Proofs.Bridge.NodeBirth
import ScadaBridge.Proofs.Bridge.Registry
import ScadaBridge.Proofs.Bridge.Sharing
import ScadaBridge.Proofs.Bridge.SharedRun
import ScadaBridge.Proofs.Validity
import ScadaBridge.Proofs.Metric.Exact
import ScadaBridge.Proofs.Bridge.Command
import ScadaBridge.Proofs.Bridge.Topics
import ScadaBridge.Proofs.Wire.Json
import ScadaBridge.Proofs.Metric.Outcome
import ScadaBridge.Proofs.Metric.Compare
import ScadaBridge.Proofs.Metric.Structure
import ScadaBridge.Proofs.Announcement
import ScadaBridge.Proofs.Interleaving
import ScadaBridge.Proofs.Growth
import ScadaBridge.Proofs.Bridge.Acceptance
import ScadaBridge.Proofs.Bridge.Reading
import ScadaBridge.Proofs.Outage
import ScadaBridge.Proofs.Bridge.Cascade
import ScadaBridge.Proofs.Bridge.Revival
import ScadaBridge.Proofs.Metric.Prune
import ScadaBridge.Proofs.Bridge.Unusable
import ScadaBridge.Proofs.Scalar.Numeral
import ScadaBridge.Proofs.Definitions
import ScadaBridge.Proofs.Topic
import ScadaBridge.Proofs.ChangeSet

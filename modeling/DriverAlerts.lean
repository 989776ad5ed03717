import DriverAlerts.Alert.Basic
import DriverAlerts.Alert.Json
import DriverAlerts.Alert.Presets
import DriverAlerts.Alert.Style
import DriverAlerts.Blake3
import DriverAlerts.Category
import DriverAlerts.Config
import DriverAlerts.Context
import DriverAlerts.Cycles
import DriverAlerts.Error
import DriverAlerts.Event
import DriverAlerts.EventSet
import DriverAlerts.Json.Basic
import DriverAlerts.Json.Decode
import DriverAlerts.Json.Numeral
import DriverAlerts.Json.Quoted
import DriverAlerts.Json.Reader
import DriverAlerts.Json.Token
import DriverAlerts.Json.Writer
import DriverAlerts.Named
import DriverAlerts.Notice
import DriverAlerts.Number.Digit
import DriverAlerts.Number.Exact
import DriverAlerts.Number.Hex
import DriverAlerts.Number.Layout
import DriverAlerts.Number.Shortest
import DriverAlerts.Policy.Layout
import DriverAlerts.Policy.Plan
import DriverAlerts.Policy.Slot
import DriverAlerts.Policy.Standard
import DriverAlerts.Policy.Table
import DriverAlerts.Proofs.Cycles.Saturation
import DriverAlerts.Proofs.EventSet.History
import DriverAlerts.Proofs.EventSet.Persistence
import DriverAlerts.Proofs.EventSet.Run
import DriverAlerts.Proofs.Resolution.Debounce
import DriverAlerts.Proofs.Resolution.Reference
import DriverAlerts.Proofs.Vocabulary
import DriverAlerts.Record
import DriverAlerts.Resolution
import DriverAlerts.Selection
import DriverAlerts.Snapshot
import DriverAlerts.Telemetry
import DriverAlerts.Text.Blank
import DriverAlerts.Text.Catalog
import DriverAlerts.Text.English
import DriverAlerts.Text.Locale
import DriverAlerts.Text.Russian
import DriverAlerts.Text.Speed
import DriverAlerts.Text.Template
import DriverAlerts.Timestamp.Basic
import DriverAlerts.Timestamp.Text
import DriverAlerts.Proofs.Policy.Builder
import DriverAlerts.Proofs.Policy.Layout
import DriverAlerts.Proofs.Policy.Standard
import DriverAlerts.Proofs.Resolution.Standard
import DriverAlerts.Proofs.Json.Numeral
import DriverAlerts.Proofs.Json.Quoted
import DriverAlerts.Proofs.Json.Token
import DriverAlerts.Proofs.Json.Reader
import DriverAlerts.Proofs.Json.Decode
import DriverAlerts.Proofs.Json.Members
import DriverAlerts.Proofs.Snapshot.Fields
import DriverAlerts.Proofs.Snapshot.Codec
import DriverAlerts.Proofs.Snapshot.Receiver
import DriverAlerts.Proofs.Selection
import DriverAlerts.Proofs.Policy.Wording
import DriverAlerts.Proofs.Resolution.Wording
import DriverAlerts.Proofs.Resolution.Escalation
import DriverAlerts.Proofs.EventSet.Order
import DriverAlerts.Proofs.Resolution.Order
import DriverAlerts.Proofs.EventSet.Repetition
import DriverAlerts.Proofs.Resolution.Repetition
import DriverAlerts.Proofs.EventSet.Erasure
import DriverAlerts.Proofs.Resolution.Erasure
import DriverAlerts.Proofs.Resolution.Separate
import DriverAlerts.Proofs.Telemetry.Exchange
import DriverAlerts.Proofs.Telemetry.ControlLoop
import DriverAlerts.Proofs.Resolution.Gate
import DriverAlerts.Proofs.EventSet.Intake
import DriverAlerts.Proofs.Selection.Maximum
import DriverAlerts.Proofs.Policy.Declared
import DriverAlerts.Proofs.Text.Template
import DriverAlerts.Proofs.Resolution.Placeholders
import DriverAlerts.Proofs.Resolution.Rebuilt
import DriverAlerts.Proofs.Number.Rounding
import DriverAlerts.Proofs.Number.Division
import DriverAlerts.Proofs.Number.Double
import DriverAlerts.Proofs.Cycles.Thresholds
import DriverAlerts.Proofs.Json.Double
import DriverAlerts.Proofs.Json.Records
import DriverAlerts.Proofs.EventSet.Notices
import DriverAlerts.Proofs.Resolution.Notices
import DriverAlerts.Proofs.Json.Edits
import DriverAlerts.Proofs.Snapshot.Tolerance

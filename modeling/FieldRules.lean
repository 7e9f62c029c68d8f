import FieldRules.Main
import FieldRules.Proofs.DateForms
import FieldRules.Proofs.DateRoundTrip
import FieldRules.Proofs.ExactReading
import FieldRules.Proofs.FieldIndependence
import FieldRules.Proofs.Interchange
import FieldRules.Proofs.Locator
import FieldRules.Proofs.Mailbox
import FieldRules.Proofs.Noninterference
import FieldRules.Proofs.NumInterval
import FieldRules.Proofs.PatternCache
import FieldRules.Proofs.Presence
import FieldRules.Proofs.ReportGrowth
import FieldRules.Proofs.RequestRoundTrip
import FieldRules.Proofs.SessionHistory
import FieldRules.Proofs.ShapeReading
import FieldRules.Proofs.StarterFile
import FieldRules.Proofs.UnknownRules

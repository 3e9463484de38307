import RecordReport.Main
import RecordReport.Text.Property.Words
import RecordReport.Text.Pattern
import RecordReport.Text.Pattern.Reading
import RecordReport.Proofs.Template.Reading
import RecordReport.Proofs.Csv.RoundTrip
import RecordReport.Proofs.Delivery
import RecordReport.Proofs.Spec.Enumeration
import RecordReport.Proofs.Template.RoundTrip
import RecordReport.Proofs.Distinct
import RecordReport.Proofs.Table.Load
import RecordReport.Proofs.Markup
import RecordReport.Proofs.Report.Links
import RecordReport.Proofs.Report.Warnings
import RecordReport.Proofs.Markup.Events
import RecordReport.Proofs.Markup.Reading
import RecordReport.Proofs.Report.Structure
import RecordReport.Proofs.Report.Writing
import RecordReport.Proofs.Template.Faults
import RecordReport.Proofs.Csv.Lines
import RecordReport.Proofs.Report.Concealment
import RecordReport.Proofs.Csv.Decoding
import RecordReport.Proofs.Csv.EmptyLines
import RecordReport.Proofs.Spec.Tidy
import RecordReport.Proofs.Template.Lines
import RecordReport.Proofs.Template.Rereading
import RecordReport.Proofs.Markup.Selection
import RecordReport.Proofs.Report.Listing
import RecordReport.Proofs.Template.WellFormed
import RecordReport.Proofs.Csv.LineEnds
import RecordReport.Proofs.Csv.Boundaries
import RecordReport.Proofs.Template.Layout
import RecordReport.Proofs.Command.Checking
import RecordReport.Proofs.Command.Defaults
import RecordReport.Proofs.Csv.Loops
import RecordReport.Proofs.Report.Order
import RecordReport.Proofs.Spec.Segments
import RecordReport.Proofs.Report.Summaries
import RecordReport.Proofs.Template.FaultLines
import RecordReport.Proofs.Report.Articles
import RecordReport.Proofs.Template.Inert
import RecordReport.Proofs.Markup.Printing
import RecordReport.Proofs.Report.Sections
import RecordReport.Proofs.Report.Showing
import RecordReport.Proofs.LimitedRoom
import RecordReport.Proofs.OrderMark
import RecordReport.Proofs.Report.Messages
import RecordReport.Proofs.Csv.Offsets

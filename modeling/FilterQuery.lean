import FilterQuery.Descriptor.Basic
import FilterQuery.Descriptor.Payload
import FilterQuery.Double.Basic
import FilterQuery.Double.Layout
import FilterQuery.Double.Shortest
import FilterQuery.Event
import FilterQuery.Failure
import FilterQuery.Filter
import FilterQuery.Json.Basic
import FilterQuery.Json.Fault
import FilterQuery.Json.Number
import FilterQuery.Json.Printer
import FilterQuery.Json.Quoted
import FilterQuery.Json.Reader
import FilterQuery.Page
import FilterQuery.Parameter
import FilterQuery.Percent
import FilterQuery.Proofs.Descriptor.Payload
import FilterQuery.Proofs.Filter.Conditions
import FilterQuery.Proofs.Filter.Extension
import FilterQuery.Proofs.Filter.Flattening
import FilterQuery.Proofs.Filter.Members
import FilterQuery.Proofs.Filter.Sending
import FilterQuery.Proofs.Json.Arrays
import FilterQuery.Proofs.Json.Grammar
import FilterQuery.Proofs.Json.Keys
import FilterQuery.Proofs.Json.Kinds
import FilterQuery.Proofs.Json.Numerals
import FilterQuery.Proofs.Json.Reading
import FilterQuery.Proofs.Json.Soundness
import FilterQuery.Proofs.Json.Strings
import FilterQuery.Proofs.Json.Writing
import FilterQuery.Proofs.Page.Window
import FilterQuery.Proofs.Parameter.Amount
import FilterQuery.Proofs.Parameter.Events
import FilterQuery.Proofs.Parameter.Exclusion
import FilterQuery.Proofs.Parameter.Grammar
import FilterQuery.Proofs.Parameter.Groups
import FilterQuery.Proofs.Parameter.Roles
import FilterQuery.Proofs.Parameter.Values
import FilterQuery.Proofs.Params.Exact
import FilterQuery.Proofs.Params.Number
import FilterQuery.Proofs.Percent.Code
import FilterQuery.Proofs.Percent.Exact
import FilterQuery.Proofs.Percent.Locality
import FilterQuery.Proofs.Percent.RoundTrip
import FilterQuery.Proofs.Query.Controls
import FilterQuery.Proofs.Query.Draft
import FilterQuery.Proofs.Query.Endpoint
import FilterQuery.Proofs.Query.FromParameters
import FilterQuery.Proofs.Query.Order
import FilterQuery.Proofs.Query.Reachable
import FilterQuery.Proofs.Query.Rejected
import FilterQuery.Proofs.Query.Represents
import FilterQuery.Proofs.Query.WellFormed
import FilterQuery.Proofs.QueryString.Growth
import FilterQuery.Proofs.QueryString.Reading
import FilterQuery.Proofs.Search.Expansion
import FilterQuery.Proofs.Settings.Forms
import FilterQuery.Proofs.Settings.Grammar
import FilterQuery.Proofs.Settings.Overlay
import FilterQuery.Proofs.Settings.Reading
import FilterQuery.Proofs.Settings.Usable
import FilterQuery.Proofs.Shortcode.Split
import FilterQuery.Proofs.Sort.Path
import FilterQuery.Proofs.Text.Count
import FilterQuery.Proofs.Text.Pieces
import FilterQuery.Proofs.Text.Tags
import FilterQuery.Proofs.Text.UpperCase
import FilterQuery.Proofs.Utf8.Boundary
import FilterQuery.Proofs.Utf8.Damage
import FilterQuery.Proofs.Utf8.RoundTrip
import FilterQuery.Query.Basic
import FilterQuery.Query.OfParams
import FilterQuery.QueryString
import FilterQuery.Search
import FilterQuery.Settings.Basic
import FilterQuery.Settings.Reader
import FilterQuery.Shortcode
import FilterQuery.Sort
import FilterQuery.Text.Basic
import FilterQuery.Text.Blank
import FilterQuery.Text.CaseRun
import FilterQuery.Text.CasedTable
import FilterQuery.Text.CodeRange
import FilterQuery.Text.Decimal
import FilterQuery.Text.Hex
import FilterQuery.Text.LetterCase
import FilterQuery.Text.LowerTable
import FilterQuery.Text.UpperTable
import FilterQuery.Traced
import FilterQuery.Utf8

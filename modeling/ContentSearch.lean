import ContentSearch.BoundQuery
import ContentSearch.BoundQuery.Description
import ContentSearch.Calendar
import ContentSearch.Clause
import ContentSearch.Clause.Text
import ContentSearch.Decimal.Basic
import ContentSearch.Decimal.Power
import ContentSearch.Decimal.Shortest
import ContentSearch.Draft
import ContentSearch.Draft.Call
import ContentSearch.Fault
import ContentSearch.Field
import ContentSearch.Json
import ContentSearch.Json.Numeral
import ContentSearch.Json.Reading
import ContentSearch.Literal
import ContentSearch.Location
import ContentSearch.Options
import ContentSearch.Options.Choice
import ContentSearch.Options.Description
import ContentSearch.Options.Reading
import ContentSearch.Page
import ContentSearch.Picker
import ContentSearch.Proofs.Addresses
import ContentSearch.Proofs.Binding
import ContentSearch.Proofs.CalendarTexts
import ContentSearch.Proofs.Concatenation
import ContentSearch.Proofs.Containment
import ContentSearch.Proofs.Cutting
import ContentSearch.Proofs.DecimalValues
import ContentSearch.Proofs.DeferredFault
import ContentSearch.Proofs.EmptyGroups
import ContentSearch.Proofs.Envelopes
import ContentSearch.Proofs.EqualDrafts
import ContentSearch.Proofs.EscapedTexts
import ContentSearch.Proofs.Escaping
import ContentSearch.Proofs.Execution
import ContentSearch.Proofs.FieldwiseReading
import ContentSearch.Proofs.FilledOptions
import ContentSearch.Proofs.FormDecoding
import ContentSearch.Proofs.Grammars
import ContentSearch.Proofs.ItemAddresses
import ContentSearch.Proofs.JoinedPaths
import ContentSearch.Proofs.KeyedPaths
import ContentSearch.Proofs.MergedSelections
import ContentSearch.Proofs.Neighbours
import ContentSearch.Proofs.NumeralValues
import ContentSearch.Proofs.Numerals
import ContentSearch.Proofs.OptionEntries
import ContentSearch.Proofs.OptionOrder
import ContentSearch.Proofs.PickerText
import ContentSearch.Proofs.Pickers
import ContentSearch.Proofs.Quotation
import ContentSearch.Proofs.RecordPlaces
import ContentSearch.Proofs.RereadSelections
import ContentSearch.Proofs.SelectionNames
import ContentSearch.Proofs.SentOptions
import ContentSearch.Proofs.Separation
import ContentSearch.Proofs.Sequences
import ContentSearch.Proofs.StoredOptions
import ContentSearch.Proofs.Surroundings
import ContentSearch.Proofs.Tokens
import ContentSearch.Proofs.Trimming
import ContentSearch.Proofs.UniqueReading
import ContentSearch.Proofs.Writing
import ContentSearch.Request
import ContentSearch.Selection
import ContentSearch.Session
import ContentSearch.Settings
import ContentSearch.Text.Blank
import ContentSearch.Text.Digits
import ContentSearch.Text.Invisible
import ContentSearch.Text.Quoted
import ContentSearch.Url.Form
import ContentSearch.Url.Path

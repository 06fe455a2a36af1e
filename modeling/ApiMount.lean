import ApiMount.Text.Blank
import ApiMount.Text.Printable
import ApiMount.Text.Casing
import ApiMount.Text.Utf8
import ApiMount.Table
import ApiMount.Json.Basic
import ApiMount.Decimal.Layout
import ApiMount.Text.Basic
import ApiMount.Json.Literal
import ApiMount.Json.Reader
import ApiMount.Document.Reader
import ApiMount.Document.Writer
import ApiMount.Document.View
import ApiMount.Document.Mandatory
import ApiMount.Document.Mount
import ApiMount.Log.Record
import ApiMount.Vocabulary
import ApiMount.Session
import ApiMount.Json.Inline
import ApiMount.Settings.NameSet
import ApiMount.Settings.Substitution
import ApiMount.Settings.Sources
import ApiMount.Log.Draft
import ApiMount.Lifecycle
import ApiMount.Http.Service
import ApiMount.Proofs.Json.Inside
import ApiMount.Proofs.Json.Grammar
import ApiMount.Proofs.Json.Strings
import ApiMount.Proofs.Json.Completeness
import ApiMount.Proofs.Json.Limits
import ApiMount.Proofs.Document.Reading
import ApiMount.Proofs.Document.Sound
import ApiMount.Proofs.Document.Codec
import ApiMount.Proofs.Session.Sound
import ApiMount.Proofs.Session.RoundTrip
import ApiMount.Proofs.Document.Size
import ApiMount.Proofs.Render.Edit
import ApiMount.Proofs.Document.Acceptance
import ApiMount.Proofs.Document.Faithful
import ApiMount.Proofs.Document.Links
import ApiMount.Proofs.Session.Actions
import ApiMount.Proofs.Session.Sharing
import ApiMount.Proofs.Session.Failure
import ApiMount.Proofs.Document.Composition
import ApiMount.Proofs.Render.Total
import ApiMount.Proofs.Http.Agreement
import ApiMount.Proofs.Session.Isolation
import ApiMount.Proofs.Http.Discretion
import ApiMount.Proofs.Document.SecondNames
import ApiMount.Proofs.Document.Effect
import ApiMount.Proofs.Mounting
import ApiMount.Proofs.Log.Setup
import ApiMount.Proofs.Render.Records
import ApiMount.Proofs.Json.Inline.Atoms
import ApiMount.Proofs.Json.Inline.Values
import ApiMount.Proofs.Json.Written
import ApiMount.Proofs.Json.Overrun
import ApiMount.Proofs.Log.Line
import ApiMount.Proofs.Text.Blank
import ApiMount.Proofs.Settings.Names
import ApiMount.Proofs.Settings.Sources
import ApiMount.Proofs.Http.Names

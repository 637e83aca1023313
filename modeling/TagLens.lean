import TagLens.Assist.Completion
import TagLens.Assist.Hover
import TagLens.Command.Arguments
import TagLens.Command.Check
import TagLens.Command.Fault
import TagLens.Command.Interface
import TagLens.Command.Run
import TagLens.Cursor.Context
import TagLens.Diagnosis.Finding
import TagLens.Diagnosis.Validator
import TagLens.Document.Buffer
import TagLens.Document.Position
import TagLens.Location.FileTree
import TagLens.Location.Path
import TagLens.Location.Uri
import TagLens.Main
import TagLens.Markup.Attribute
import TagLens.Markup.Name
import TagLens.Markup.Nesting
import TagLens.Markup.Tag
import TagLens.Number.Double
import TagLens.Report.Event
import TagLens.Report.Failure
import TagLens.Report.Log
import TagLens.Schema.Basic
import TagLens.Schema.Catalog
import TagLens.Server
import TagLens.Settings.Basic
import TagLens.Settings.Load
import TagLens.Settings.Moment
import TagLens.Settings.Toml.Basic
import TagLens.Settings.Toml.Document
import TagLens.Settings.Toml.Scalar
import TagLens.Settings.Toml.Text
import TagLens.Settings.Toml.Value
import TagLens.Settings.Value
import TagLens.Text.Basic
import TagLens.Text.Blank
import TagLens.Text.Boundaries
import TagLens.Text.Digit
import TagLens.Text.Lines
import TagLens.Text.LowerCase
import TagLens.Text.Printable
import TagLens.Text.Quoted
import TagLens.Text.Utf8
import TagLens.Text.Word
import TagLens.Workspace
import TagLens.Proofs.Markup.Character
import TagLens.Proofs.Markup.Scan
import TagLens.Proofs.Markup.Forest
import TagLens.Proofs.Markup.NearestMatch
import TagLens.Proofs.Markup.Content
import TagLens.Proofs.Cursor.Classification
import TagLens.Proofs.Cursor.LastTag
import TagLens.Proofs.Document.Delivery
import TagLens.Proofs.Document.LineTable
import TagLens.Proofs.Document.StoredTable
import TagLens.Proofs.Document.Undo
import TagLens.Proofs.Workspace.Operation
import TagLens.Proofs.Workspace.BehindCursor
import TagLens.Proofs.Workspace.Independence
import TagLens.Proofs.Workspace.Replacement
import TagLens.Proofs.Server.Publication
import TagLens.Proofs.Markup.AssignedValue
import TagLens.Proofs.Diagnosis.Silence
import TagLens.Proofs.Markup.Resume
import TagLens.Proofs.Assist.ClosingTag
import TagLens.Proofs.Assist.ElementSnippet
import TagLens.Proofs.Cursor.OpenQuote
import TagLens.Proofs.Markup.TypedTag
import TagLens.Proofs.Markup.OpenValue
import TagLens.Proofs.Markup.AssignedName
import TagLens.Proofs.Assist.RequiredAttribute
import TagLens.Proofs.Settings.Handled
import TagLens.Proofs.Markup.CarriageReturn
import TagLens.Proofs.Diagnosis.CarriageReturn
import TagLens.Proofs.Command.CheckedFile
import TagLens.Proofs.Command.InTurn
import TagLens.Proofs.Assist.InsideTag
import TagLens.Proofs.Text.LineSearch
import TagLens.Proofs.Diagnosis.Findings
import TagLens.Proofs.Diagnosis.AttributeValue
import TagLens.Proofs.Diagnosis.Location
import TagLens.Proofs.Diagnosis.UnknownElement
import TagLens.Proofs.Diagnosis.SoughtElement
import TagLens.Proofs.Workspace.Validation
import TagLens.Proofs.Cursor.FinishedTag
import TagLens.Proofs.Markup.Slot
import TagLens.Proofs.Assist.AttributeSite
import TagLens.Proofs.Assist.HoverTarget
import TagLens.Proofs.Settings.Precedence
import TagLens.Proofs.Schema.Construction
import TagLens.Proofs.Server.Reconfiguration
import TagLens.Proofs.Assist.DisplayOrder
import TagLens.Proofs.Markup.Seam

import QuerySnippet.ClassName
import QuerySnippet.CommandLine.Run
import QuerySnippet.Expressions.Language
import QuerySnippet.Main
import QuerySnippet.Request.Json
import QuerySnippet.Section
import QuerySnippet.Segment.Json
import QuerySnippet.Settings.Load
import QuerySnippet.Template.Basic
import QuerySnippet.Proofs.Request.RoundTrip
import QuerySnippet.Proofs.Section
import QuerySnippet.Proofs.Segment.RoundTrip
import QuerySnippet.Proofs.Template.Meaning
import QuerySnippet.Proofs.Template.Canonical
import QuerySnippet.Proofs.Template.Print
import QuerySnippet.Proofs.CommandLine.Source
import QuerySnippet.Proofs.Request.Headers
import QuerySnippet.Proofs.Segment.Lookup
import QuerySnippet.Proofs.Section.View
import QuerySnippet.Proofs.Settings.Preset
import QuerySnippet.Proofs.Document.Members
import QuerySnippet.Proofs.Expressions.Table
import QuerySnippet.Proofs.CommandLine.Session
import QuerySnippet.Proofs.Template.Fault
import QuerySnippet.Proofs.Template.Arity
import QuerySnippet.Proofs.Template.Argument
import QuerySnippet.Proofs.Template.Concat
import QuerySnippet.Proofs.Workspace.Entry
import QuerySnippet.Proofs.Text.Pascal
import QuerySnippet.Proofs.ClassName
import QuerySnippet.Proofs.Clause.Split
import QuerySnippet.Proofs.Segment.Edit
import QuerySnippet.Proofs.Segment.Layers
import QuerySnippet.Proofs.Segment.TypeName
import QuerySnippet.Proofs.Section.Insert
import QuerySnippet.Proofs.Request.Members
import QuerySnippet.Proofs.Request.Lenient
import QuerySnippet.Proofs.Segment.Arrange
import QuerySnippet.Proofs.Request.Number
import QuerySnippet.Proofs.Settings.Strict
import QuerySnippet.Proofs.Template.Equivalence
import QuerySnippet.Proofs.ClassName.Letters
import QuerySnippet.Proofs.Expressions.RoundTrip

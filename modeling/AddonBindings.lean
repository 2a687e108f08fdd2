import AddonBindings.Bindings
import AddonBindings.Boundary.Basic
import AddonBindings.Boundary.Expression
import AddonBindings.Calendar
import AddonBindings.CommandLine.Argument
import AddonBindings.CommandLine.Execution
import AddonBindings.CommandLine.Listing
import AddonBindings.CommandLine.Request
import AddonBindings.CommandLine.Usage
import AddonBindings.Console.Emoji
import AddonBindings.Console.EmojiNames
import AddonBindings.Console.EmojiSymbols
import AddonBindings.Console.Line
import AddonBindings.Console.Markup
import AddonBindings.Console.Report
import AddonBindings.Console.Style
import AddonBindings.Console.Table
import AddonBindings.Datum.Basic
import AddonBindings.Datum.Written
import AddonBindings.Decimal.Reading
import AddonBindings.Decimal.Shortest
import AddonBindings.Declaration.Interface
import AddonBindings.Export.Attachment
import AddonBindings.Export.Comment
import AddonBindings.Export.Extraction
import AddonBindings.Export.File
import AddonBindings.Export.Record
import AddonBindings.Export.Signature
import AddonBindings.Fault
import AddonBindings.Files.Change
import AddonBindings.Files.Fault
import AddonBindings.Files.Glob
import AddonBindings.Files.NamePattern
import AddonBindings.Files.Path
import AddonBindings.Files.Reading
import AddonBindings.Files.Resolution
import AddonBindings.Files.Tree
import AddonBindings.GenerationFault
import AddonBindings.Go.Grammar
import AddonBindings.Go.Lexeme
import AddonBindings.Go.Literal
import AddonBindings.Go.Parameters
import AddonBindings.Go.Pattern
import AddonBindings.Go.Position
import AddonBindings.Go.SourceFile
import AddonBindings.Go.Syntax
import AddonBindings.Go.SyntaxNode
import AddonBindings.Go.Token
import AddonBindings.Main
import AddonBindings.Native.Source
import AddonBindings.Native.Statement
import AddonBindings.Native.Wrapper
import AddonBindings.Output
import AddonBindings.Product
import AddonBindings.Project.Discovery
import AddonBindings.Project.Settings
import AddonBindings.Proofs.CommandLine.FailureNotice
import AddonBindings.Proofs.Console.PlainText
import AddonBindings.Proofs.Files.Change
import AddonBindings.Proofs.Run.AllOrNothing
import AddonBindings.Proofs.Run.Outcome
import AddonBindings.Proofs.Run.Preparation
import AddonBindings.Proofs.Traversal
import AddonBindings.Report
import AddonBindings.Run
import AddonBindings.Sorting
import AddonBindings.Text.Blank
import AddonBindings.Text.CellWidth
import AddonBindings.Text.IdentifierCharacter
import AddonBindings.Text.Layout
import AddonBindings.Text.LetterCase
import AddonBindings.Text.Lines
import AddonBindings.Text.Membership
import AddonBindings.Text.Printable
import AddonBindings.Text.Quoted
import AddonBindings.Text.Similarity
import AddonBindings.Text.Utf8
import AddonBindings.Yaml.Composition
import AddonBindings.Yaml.Cursor
import AddonBindings.Yaml.Document
import AddonBindings.Yaml.Fault
import AddonBindings.Yaml.Graph
import AddonBindings.Yaml.Property
import AddonBindings.Yaml.Scalar
import AddonBindings.Yaml.ScalarValue
import AddonBindings.Yaml.Tag
import AddonBindings.Yaml.Timestamp
import AddonBindings.Yaml.Token
import AddonBindings.Yaml.Tokens
import AddonBindings.Proofs.Text.Token
import AddonBindings.Proofs.Text.Phrase
import AddonBindings.Proofs.Text.Trimming
import AddonBindings.Proofs.Text.Lines
import AddonBindings.Proofs.Export.NormalForm
import AddonBindings.Proofs.Boundary.Classification
import AddonBindings.Proofs.Native.Instruction
import AddonBindings.Proofs.Native.StatementReading
import AddonBindings.Proofs.Signature
import AddonBindings.Proofs.Native.Callback
import AddonBindings.Proofs.Native.SourceReading
import AddonBindings.Proofs.Native.SignatureReading
import AddonBindings.Proofs.Declaration.Comment
import AddonBindings.Proofs.Declaration.DocumentationBlock
import AddonBindings.Proofs.Declaration.Reading
import AddonBindings.Proofs.Agreement
import AddonBindings.Proofs.Native.Machine
import AddonBindings.Proofs.Native.Execution
import AddonBindings.Proofs.Export.Attachment
import AddonBindings.Proofs.Export.Signature
import AddonBindings.Proofs.Export.Extraction
import AddonBindings.Proofs.Go.Reading
import AddonBindings.Proofs.Declaration.Code
import AddonBindings.Proofs.Documentation
import AddonBindings.Proofs.Files.Shape
import AddonBindings.Proofs.Files.Way
import AddonBindings.Proofs.Files.Destination
import AddonBindings.Proofs.Files.Effect
import AddonBindings.Proofs.Files.Ancestors
import AddonBindings.Proofs.Output.FileNames
import AddonBindings.Proofs.Output.Writing
import AddonBindings.Proofs.Output.Frame
import AddonBindings.Proofs.Project.Discovery
import AddonBindings.Proofs.Run.Sources
import AddonBindings.Proofs.Run.History
import AddonBindings.Proofs.Go.FirstToken
import AddonBindings.Proofs.Go.Lexing
import AddonBindings.Proofs.Go.Piece
import AddonBindings.Proofs.Go.Recognition
import AddonBindings.Proofs.Go.Printing
import AddonBindings.Proofs.Go.PrintedReading
import AddonBindings.Proofs.Export.RoundTrip
import AddonBindings.Proofs.Run.Typing
import AddonBindings.Proofs.ScriptNames
import AddonBindings.Proofs.Native.Scope
import AddonBindings.Proofs.Console.Escaping
import AddonBindings.Proofs.Console.Marks
import AddonBindings.Proofs.Console.LiteralText
import AddonBindings.Proofs.Project.Settings
import AddonBindings.Proofs.CommandLine.Ending
import AddonBindings.Proofs.CommandLine.SettingsFailure
import AddonBindings.Proofs.Export.Record
import AddonBindings.Proofs.Export.CommentGroup
import AddonBindings.Proofs.Files.Selection
import AddonBindings.Proofs.Files.PathOrder
import AddonBindings.Proofs.Files.Descent
import AddonBindings.Proofs.Files.Linkless
import AddonBindings.Proofs.Files.Spelling
import AddonBindings.Proofs.Project.Expansion
import AddonBindings.Proofs.Repetition
import AddonBindings.Proofs.Project.PlainDiscovery
import AddonBindings.Proofs.Project.SameFile
import AddonBindings.Proofs.Console.Verbatim
import AddonBindings.Proofs.Console.TableRows
import AddonBindings.Proofs.CommandLine.Listing
import AddonBindings.Proofs.Go.TokenCount
import AddonBindings.Proofs.Go.TypeText
import AddonBindings.Proofs.Go.DeclaredNames
import AddonBindings.Proofs.Run.Bindable
import AddonBindings.Proofs.Run.Documentation
import AddonBindings.Proofs.Export.FileFailure
import AddonBindings.Proofs.AddonNames
import AddonBindings.Proofs.Project.Acceptance
import AddonBindings.Proofs.Export.ParameterNames
import AddonBindings.Proofs.Text.LineBreaks
import AddonBindings.Proofs.Go.Returns.Number
import AddonBindings.Proofs.Go.Returns.Lexeme
import AddonBindings.Proofs.Go.LineEndings
import AddonBindings.Proofs.Go.Alike
import AddonBindings.Proofs.Go.AlikeChildren
import AddonBindings.Proofs.Export.LineEndings
import AddonBindings.Proofs.CommandLine.Messages
import AddonBindings.Proofs.Go.FirstFault

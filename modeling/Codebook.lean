import Codebook.Command
import Codebook.Command.Arguments
import Codebook.Command.Assignments
import Codebook.Command.Generate
import Codebook.Command.Inspect
import Codebook.Command.Settings
import Codebook.Diagnostic
import Codebook.Diagnostic.Report
import Codebook.Document.Data
import Codebook.Document.Json
import Codebook.Document.Markdown
import Codebook.Enumeration.Group
import Codebook.Enumeration.Registry
import Codebook.Enumeration.TagSet
import Codebook.Enumeration.Tags
import Codebook.Files.Path
import Codebook.Files.Volume
import Codebook.Go.Comment
import Codebook.Go.Form
import Codebook.Go.Grammar
import Codebook.Go.Scan
import Codebook.Go.Token
import Codebook.Go.Token.Lexer
import Codebook.Main
import Codebook.Schema
import Codebook.Schema.Catalog
import Codebook.Schema.Table
import Codebook.Sql.ColumnList
import Codebook.Sql.Dialect
import Codebook.Sql.Lexeme
import Codebook.Sql.Lexeme.Lexer
import Codebook.Sql.Name
import Codebook.Sql.Nesting
import Codebook.Sql.Quotation
import Codebook.Sql.Reading
import Codebook.Sql.Statement
import Codebook.Sql.Statement.Split
import Codebook.Survey
import Codebook.Text.Blank
import Codebook.Text.Decode
import Codebook.Text.Gb18030
import Codebook.Text.Gb18030.Index
import Codebook.Text.Hexadecimal
import Codebook.Text.Letter.Alphabetic
import Codebook.Text.Letter.Case
import Codebook.Text.Letter.Cased
import Codebook.Text.Letter.Identifier
import Codebook.Text.Lowercase
import Codebook.Text.Range
import Codebook.Text.Search
import Codebook.Text.Utf8
import Codebook.Proofs.Keyed
import Codebook.Proofs.Schema.Catalog
import Codebook.Proofs.Schema.Table
import Codebook.Proofs.Schema.Waiting
import Codebook.Proofs.Schema.Run
import Codebook.Proofs.Schema.Isolation
import Codebook.Proofs.Schema.CommentOrder
import Codebook.Proofs.Sql.Balance
import Codebook.Proofs.Sql.DottedName
import Codebook.Proofs.Text.Blank
import Codebook.Proofs.Sql.Clause
import Codebook.Proofs.Schema.Creation
import Codebook.Proofs.Sql.Fragment
import Codebook.Proofs.Sql.Line
import Codebook.Proofs.Schema.WrittenComment
import Codebook.Proofs.Schema.Undelivered
import Codebook.Proofs.Schema.LastWord
import Codebook.Proofs.Schema.Seam
import Codebook.Proofs.Sql.Walk
import Codebook.Proofs.Sql.Literal
import Codebook.Proofs.Sql.DefaultValue
import Codebook.Proofs.Schema.DefaultLiteral
import Codebook.Proofs.Command.KeepGoing
import Codebook.Proofs.Schema.QuotedColumn
import Codebook.Proofs.Sql.Folding
import Codebook.Proofs.Sql.CommentLines
import Codebook.Proofs.Go.ConstReading
import Codebook.Proofs.Text.Utf8
import Codebook.Proofs.Text.ByteOrder
import Codebook.Proofs.Go.Matching
import Codebook.Proofs.Go.Lines
import Codebook.Proofs.Go.Siblings
import Codebook.Proofs.Go.MarkedGroup
import Codebook.Proofs.Go.RoundTrip
import Codebook.Proofs.Schema.Reports
import Codebook.Proofs.Schema.Repetition
import Codebook.Proofs.Enumeration.Merge
import Codebook.Proofs.Enumeration.ByName
import Codebook.Proofs.Go.TreeTokens
import Codebook.Proofs.Go.GroupName
import Codebook.Proofs.Survey.Rescan
import Codebook.Proofs.Document.Rows
import Codebook.Proofs.Enumeration.TagWords
import Codebook.Proofs.Go.Origin
import Codebook.Proofs.Survey.MemberNames
import Codebook.Proofs.Sql.Letters
import Codebook.Proofs.Sql.OneLine
import Codebook.Proofs.Document.LineFeeds
import Codebook.Proofs.Survey.Layout
import Codebook.Proofs.Json.Grammar
import Codebook.Proofs.Json.Scalar
import Codebook.Proofs.Json.Reader
import Codebook.Proofs.Json.Exact
import Codebook.Proofs.Json.Printed
import Codebook.Proofs.Document.Contents
import Codebook.Proofs.Schema.Inheritance
import Codebook.Proofs.Schema.Discovery
import Codebook.Proofs.Sql.Blocks
import Codebook.Proofs.Sql.Inert
import Codebook.Proofs.Survey.TagUnion
import Codebook.Proofs.Text.Search
import Codebook.Proofs.Go.MarkedLine
import Codebook.Proofs.Go.Scanning
import Codebook.Proofs.Go.Within
import Codebook.Proofs.Go.Attribution
import Codebook.Proofs.Go.Meaning
import Codebook.Proofs.Go.Depth
import Codebook.Proofs.Go.Places
import Codebook.Proofs.Go.Leading
import Codebook.Proofs.Go.Seam
import Codebook.Proofs.Go.TopLevel
import Codebook.Proofs.Go.Inserted
import Codebook.Proofs.Go.Locality
import Codebook.Proofs.Go.Cut
import Codebook.Proofs.Go.Detached
import Codebook.Proofs.Go.Filled
import Codebook.Proofs.Go.Lowered
import Codebook.Proofs.Go.Aside
import Codebook.Proofs.Go.InertComment
import Codebook.Proofs.Text.Utf8Cut
import Codebook.Proofs.Text.Gb18030
import Codebook.Proofs.Text.LineByLine
import Codebook.Proofs.Text.LineEnds
import Codebook.Proofs.Schema.SourceLine
import Codebook.Proofs.Text.Returned
import Codebook.Proofs.Document.Shown
import Codebook.Proofs.Go.Returned
import Codebook.Proofs.Go.Alike
import Codebook.Proofs.Go.ShownGroups
import Codebook.Proofs.Survey.LineEnds
import Codebook.Proofs.Sql.Unquoted
import Codebook.Proofs.Sql.Body
import Codebook.Proofs.Sql.Cutting

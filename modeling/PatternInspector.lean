import PatternInspector.Component.Block
import PatternInspector.Component.Composable
import PatternInspector.Component.Extract
import PatternInspector.Component.Finding
import PatternInspector.Component.Outline
import PatternInspector.Component.OutlineCheck
import PatternInspector.Component.Pattern
import PatternInspector.Component.Report
import PatternInspector.Component.Rules
import PatternInspector.Component.Split
import PatternInspector.Component.Version
import PatternInspector.Component.Violation
import PatternInspector.Config.Check
import PatternInspector.Config.Issue
import PatternInspector.Config.Load
import PatternInspector.Config.Model
import PatternInspector.Config.Shipped
import PatternInspector.Files.Path
import PatternInspector.Files.Read
import PatternInspector.Files.Tree
import PatternInspector.Finding.Severity
import PatternInspector.Finding.Tally
import PatternInspector.Inspection.Catalog
import PatternInspector.Inspection.Failure
import PatternInspector.Inspection.Service
import PatternInspector.Java.ClassCheck
import PatternInspector.Java.ClassModel
import PatternInspector.Java.Detect
import PatternInspector.Java.Extract
import PatternInspector.Java.Grammar.Declaration
import PatternInspector.Java.Grammar.Expression
import PatternInspector.Java.Grammar.Lexical
import PatternInspector.Java.Grammar.Rule
import PatternInspector.Java.Grammar.Statement
import PatternInspector.Java.Grammar.Type
import PatternInspector.Java.Parse
import PatternInspector.Java.Pattern
import PatternInspector.Java.Report
import PatternInspector.Java.Rule.Architectural
import PatternInspector.Java.Rule.Basic
import PatternInspector.Java.Rule.Behavioral
import PatternInspector.Java.Rule.Creational
import PatternInspector.Java.Rule.Enterprise
import PatternInspector.Java.Rule.Modern
import PatternInspector.Java.Rule.Structural
import PatternInspector.Java.Rules
import PatternInspector.Literal.Entry
import PatternInspector.Literal.Group
import PatternInspector.Literal.Trivia
import PatternInspector.Main
import PatternInspector.Proofs.Component.Evidence
import PatternInspector.Proofs.Component.Gathering
import PatternInspector.Proofs.Component.Location
import PatternInspector.Proofs.Component.Origin
import PatternInspector.Proofs.Component.Placement
import PatternInspector.Proofs.Component.Rendering
import PatternInspector.Proofs.Component.Scan
import PatternInspector.Proofs.Component.ScriptLine
import PatternInspector.Proofs.Component.Shelf
import PatternInspector.Proofs.Component.Switch
import PatternInspector.Proofs.Component.Tag
import PatternInspector.Proofs.Component.Template
import PatternInspector.Proofs.Component.Version
import PatternInspector.Proofs.Config.Reading
import PatternInspector.Proofs.Files.Reading
import PatternInspector.Proofs.Finding.Evidence
import PatternInspector.Proofs.Finding.Switch
import PatternInspector.Proofs.Finding.Tally
import PatternInspector.Proofs.Inspection.Startup
import PatternInspector.Proofs.Java.Antipattern
import PatternInspector.Proofs.Java.Comment
import PatternInspector.Proofs.Java.Configuration
import PatternInspector.Proofs.Java.Context
import PatternInspector.Proofs.Java.Declaration
import PatternInspector.Proofs.Java.Evidence
import PatternInspector.Proofs.Java.Isolation
import PatternInspector.Proofs.Java.Registry
import PatternInspector.Proofs.Literal.Group
import PatternInspector.Proofs.Literal.Key
import PatternInspector.Proofs.Literal.Member
import PatternInspector.Proofs.Literal.Rendering
import PatternInspector.Proofs.Literal.Segment
import PatternInspector.Proofs.Literal.Trivia
import PatternInspector.Proofs.Server.FileTool
import PatternInspector.Proofs.Server.Totals
import PatternInspector.Proofs.Syntax.Enumeration
import PatternInspector.Proofs.Syntax.Place
import PatternInspector.Proofs.Syntax.Removal
import PatternInspector.Proofs.Syntax.Visit
import PatternInspector.Proofs.Text.Basic
import PatternInspector.Proofs.Text.Reader
import PatternInspector.Proofs.Text.Search
import PatternInspector.Proofs.Text.Ways
import PatternInspector.Proofs.TypeScript.Switch
import PatternInspector.Server.Auth
import PatternInspector.Server.Http
import PatternInspector.Server.Launch
import PatternInspector.Server.Resource
import PatternInspector.Server.Settings
import PatternInspector.Server.Tool
import PatternInspector.Syntax.Fault
import PatternInspector.Syntax.Lookahead
import PatternInspector.Syntax.Node
import PatternInspector.Syntax.Parser
import PatternInspector.Text.Basic
import PatternInspector.Text.Case
import PatternInspector.Text.CaseTable
import PatternInspector.Text.Hex
import PatternInspector.Text.IdentifierTable
import PatternInspector.Text.PrintableTable
import PatternInspector.Text.Quoted
import PatternInspector.Text.Reader
import PatternInspector.Text.Utf8
import PatternInspector.Text.WordTable
import PatternInspector.TypeScript.Declared
import PatternInspector.TypeScript.Grammar.Declaration
import PatternInspector.TypeScript.Grammar.Expression
import PatternInspector.TypeScript.Grammar.Lexical
import PatternInspector.TypeScript.Grammar.Markup
import PatternInspector.TypeScript.Grammar.Pattern
import PatternInspector.TypeScript.Grammar.Rule
import PatternInspector.TypeScript.Grammar.Statement
import PatternInspector.TypeScript.Grammar.Type
import PatternInspector.TypeScript.Naming
import PatternInspector.TypeScript.NamingCheck
import PatternInspector.TypeScript.Parse
import PatternInspector.TypeScript.Report
import PatternInspector.TypeScript.Rules
import PatternInspector.TypeScript.SizeCheck
import PatternInspector.TypeScript.SmellCheck
import PatternInspector.TypeScript.Violation
import PatternInspector.Value.Basic
import PatternInspector.Value.Shortest
import PatternInspector.Yaml.Cursor
import PatternInspector.Yaml.Node
import PatternInspector.Yaml.Number
import PatternInspector.Yaml.Plain
import PatternInspector.Yaml.Print
import PatternInspector.Yaml.Read
import PatternInspector.Yaml.Scalar
import PatternInspector.Yaml.Style
import PatternInspector.Yaml.Token
import PatternInspector.Proofs.TypeScript.Size
import PatternInspector.Proofs.TypeScript.Comment
import PatternInspector.Proofs.TypeScript.Unused
import PatternInspector.Proofs.TypeScript.Duplication
import PatternInspector.Proofs.Literal.Nesting
import PatternInspector.Proofs.Component.TypeArgument
import PatternInspector.Proofs.Literal.Position
import PatternInspector.Proofs.Component.Safety
import PatternInspector.Proofs.Component.Options
import PatternInspector.Proofs.Component.Cut
import PatternInspector.Proofs.Component.Fault
import PatternInspector.Proofs.Component.Recase
import PatternInspector.Proofs.Component.AttributeOrder
import PatternInspector.Proofs.Component.Judgement
import PatternInspector.Proofs.TypeScript.Naming
import PatternInspector.Proofs.Config.Merging
import PatternInspector.Proofs.Java.Constructor
import PatternInspector.Proofs.Server.Access
import PatternInspector.Proofs.Component.NameArray
import PatternInspector.Proofs.Component.Call
import PatternInspector.Proofs.Syntax.Walk
import PatternInspector.Proofs.Syntax.FirstFault
import PatternInspector.Proofs.Syntax.Parser
import PatternInspector.Proofs.Java.TypeExpression
import PatternInspector.Proofs.Java.Word
import PatternInspector.Proofs.Java.TypeParts
import PatternInspector.Proofs.Java.TypeReading

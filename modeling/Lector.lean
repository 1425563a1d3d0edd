import Lector.Command.Arguments
import Lector.Command.Run
import Lector.Command.Variables
import Lector.Decimal.Double
import Lector.Decimal.Shortest
import Lector.Directive.Basic
import Lector.Directive.Builtin
import Lector.Directive.Discoverable
import Lector.Directive.Pipeline
import Lector.Directive.Registry
import Lector.Directive.Resolver
import Lector.Document.Describe
import Lector.Document.Json
import Lector.Document.Value
import Lector.Error
import Lector.Files.Basic
import Lector.Files.Path
import Lector.Files.Walk
import Lector.Latex.Convert
import Lector.Latex.Macro
import Lector.Latex.Token
import Lector.Main
import Lector.Output.Name
import Lector.Output.Process
import Lector.Pattern.Extended.Code
import Lector.Pattern.Extended.Machine
import Lector.Pattern.Extended.Parser
import Lector.Pattern.Extended.Reading
import Lector.Pattern.Extended.Tree
import Lector.Pattern.Look
import Lector.Pattern.Match
import Lector.Pattern.Matcher
import Lector.Pattern.Node
import Lector.Pattern.Plain.Bracket
import Lector.Pattern.Plain.Escape
import Lector.Pattern.Plain.Flags
import Lector.Pattern.Plain.Parser
import Lector.Pattern.Program
import Lector.Pattern.Search
import Lector.Proofs.Directive.Coherence
import Lector.Proofs.Directive.Composition
import Lector.Proofs.Directive.Nesting
import Lector.Proofs.Directive.Run
import Lector.Proofs.Latex.Denotation
import Lector.Proofs.Latex.Document
import Lector.Proofs.Latex.Spelling
import Lector.Rule.Fault
import Lector.Rule.Kind
import Lector.Rule.Operation
import Lector.Rule.Options
import Lector.Rule.Row
import Lector.Rule.Template
import Lector.Source.Delimited
import Lector.Source.Format
import Lector.Source.Load
import Lector.Source.Structured
import Lector.Table
import Lector.Text.Basic
import Lector.Text.CharSet
import Lector.Text.Digits
import Lector.Unicode.Age
import Lector.Unicode.Break
import Lector.Unicode.CaseFold
import Lector.Unicode.Category
import Lector.Unicode.Lookup
import Lector.Unicode.Property
import Lector.Unicode.Script
import Lector.Unicode.ScriptExtension
import Lector.Unicode.Value
import Lector.Yaml.Node
import Lector.Yaml.Reader
import Lector.Yaml.Scalar
import Lector.Yaml.Scanner
import Lector.Yaml.Token
import Lector.Proofs.Latex.Balance
import Lector.Proofs.Text.Cutting
import Lector.Proofs.Source.Line
import Lector.Proofs.Source.LineEnds
import Lector.Proofs.Source.Shapes
import Lector.Proofs.Directive.Discovery
import Lector.Proofs.Directive.Identity
import Lector.Proofs.Directive.Histories
import Lector.Proofs.Text.Occurrences
import Lector.Proofs.Rule.Grammar
import Lector.Proofs.Rule.Printing
import Lector.Proofs.Pattern.Literal
import Lector.Proofs.Rule.Escaping
import Lector.Proofs.Files.Frame
import Lector.Proofs.Command.Frame
import Lector.Proofs.Rule.Splicing
import Lector.Proofs.Source.Joining
import Lector.Proofs.Source.Arrangement
import Lector.Proofs.Source.Entries
import Lector.Proofs.Source.FirstFault
import Lector.Proofs.Directive.Loading
import Lector.Proofs.Source.Overrides
import Lector.Proofs.Output.Grammar
import Lector.Proofs.Files.Names
import Lector.Proofs.Output.Placeholders
import Lector.Proofs.Latex.Groups
import Lector.Proofs.Latex.Signs
import Lector.Proofs.Source.Layers
import Lector.Proofs.Rule.Settling
import Lector.Proofs.Command.References
import Lector.Proofs.Latex.Descent
import Lector.Proofs.Latex.Correspondence
import Lector.Proofs.Latex.Effort
import Lector.Proofs.Pattern.EndMarks
import Lector.Proofs.Source.BlankSeparators
import Lector.Proofs.Rule.Soundness
import Lector.Proofs.Directive.Origins

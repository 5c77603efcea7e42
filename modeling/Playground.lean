import Playground.CommandLine.Basic
import Playground.Demo
import Playground.Json.Reader
import Playground.Main
import Playground.Saved.Document
import Playground.Saved.Export
import Playground.Saved.Reading
import Playground.Saved.Rendering
import Playground.Scheduler.Clock
import Playground.Settings.Document
import Playground.Proofs.Decimal.Digits
import Playground.Proofs.Json.Containers
import Playground.Proofs.Json.Reads
import Playground.Proofs.Json.RoundTrip
import Playground.Proofs.Layout
import Playground.Proofs.Markup.Escaped
import Playground.Proofs.Markup.Unescaped
import Playground.Proofs.Nesting
import Playground.Proofs.Nesting.Moves
import Playground.Proofs.Outline
import Playground.Proofs.Output.Literal
import Playground.Proofs.Output.Printed
import Playground.Proofs.Output.Safe
import Playground.Proofs.Output.Terminal
import Playground.Proofs.Provenance
import Playground.Proofs.Pseudocode.Concatenation
import Playground.Proofs.Pseudocode.Correspondence
import Playground.Proofs.Pseudocode.Indentation
import Playground.Proofs.Pseudocode.Lines
import Playground.Proofs.Saved.Document
import Playground.Proofs.Saved.Lossless
import Playground.Proofs.Saved.Reading
import Playground.Proofs.Saved.Rendering
import Playground.Proofs.Saved.YamlLossless
import Playground.Proofs.Scheduler.Conservation
import Playground.Proofs.Scheduler.Event
import Playground.Proofs.Scheduler.History
import Playground.Proofs.Scheduler.Isolation
import Playground.Proofs.Scheduler.Log
import Playground.Proofs.Scheduler.Newest
import Playground.Proofs.Scheduler.SafeDisplay
import Playground.Proofs.Scheduler.Tickets
import Playground.Proofs.Statement.TruthWord
import Playground.Proofs.Text.Flush
import Playground.Proofs.Text.Lines
import Playground.Proofs.Yaml.Breaks
import Playground.Proofs.Yaml.DoubleQuoted
import Playground.Proofs.Yaml.Lines
import Playground.Proofs.Yaml.Node
import Playground.Proofs.Yaml.Number
import Playground.Proofs.Yaml.Plain
import Playground.Proofs.Yaml.Quoted
import Playground.Proofs.Yaml.Rendered
import Playground.Proofs.Yaml.Scan
import Playground.Proofs.Yaml.SingleQuoted
import Playground.Proofs.Statement.Dispatch
import Playground.Proofs.Scheduler.Generations
import Playground.Proofs.Scheduler.ShownRun
import Playground.Proofs.Json.Displayable
import Playground.Proofs.Saved.Refusal
import Playground.Proofs.Pseudocode.IndentUnit
import Playground.Proofs.Settings.Independence
import Playground.Proofs.Settings.Refusal
import Playground.Proofs.Output.Decodable
import Playground.Proofs.Pseudocode.Compound
import Playground.Proofs.CommandLine.Examples

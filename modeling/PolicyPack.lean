import PolicyPack.Artifact
import PolicyPack.Boundary.Argument
import PolicyPack.Boundary.Buffer
import PolicyPack.Boundary.Call
import PolicyPack.BuildManifest
import PolicyPack.BytePath
import PolicyPack.Compile
import PolicyPack.Dictionary
import PolicyPack.Evaluation.PreparedQuery
import PolicyPack.Evaluation.Result
import PolicyPack.Failure
import PolicyPack.Files.Tree
import PolicyPack.Files.Walk
import PolicyPack.Glob.Nesting
import PolicyPack.Glob.Pattern
import PolicyPack.Glob.Reader
import PolicyPack.Ignore
import PolicyPack.Json.Fault
import PolicyPack.Json.Kind
import PolicyPack.Json.Printer
import PolicyPack.Json.Reader
import PolicyPack.Json.Token
import PolicyPack.Json.Typed
import PolicyPack.Json.Value
import PolicyPack.Number.Binary64
import PolicyPack.Number.Decimal
import PolicyPack.Number.Layout
import PolicyPack.Number.Shortest
import PolicyPack.Path
import PolicyPack.Policy.Builtin
import PolicyPack.Policy.Context
import PolicyPack.Policy.Evaluate
import PolicyPack.Policy.Format
import PolicyPack.Policy.Grammar.Cursor
import PolicyPack.Policy.Grammar.Module
import PolicyPack.Policy.Grammar.Query
import PolicyPack.Policy.Grammar.Term
import PolicyPack.Policy.Names
import PolicyPack.Policy.Order
import PolicyPack.Policy.Program
import PolicyPack.Policy.Query
import PolicyPack.Policy.Safety
import PolicyPack.Policy.Scope
import PolicyPack.Policy.Task
import PolicyPack.Policy.Term
import PolicyPack.Policy.Token
import PolicyPack.Policy.Value
import PolicyPack.Proofs.Artifact
import PolicyPack.Proofs.Boundary.Arguments
import PolicyPack.Proofs.Boundary.Calls
import PolicyPack.Proofs.Boundary.Refinement
import PolicyPack.Proofs.Boundary.Results
import PolicyPack.Proofs.BytePath
import PolicyPack.Proofs.Compile
import PolicyPack.Proofs.Dictionary
import PolicyPack.Proofs.Evaluation.Forms
import PolicyPack.Proofs.Evaluation.Results
import PolicyPack.Proofs.FailureCodes
import PolicyPack.Proofs.Files.BaseNames
import PolicyPack.Proofs.Files.Entries
import PolicyPack.Proofs.Files.Follow
import PolicyPack.Proofs.Files.Names
import PolicyPack.Proofs.Files.Prune
import PolicyPack.Proofs.Files.Relative
import PolicyPack.Proofs.Files.Tree
import PolicyPack.Proofs.Json.Containers
import PolicyPack.Proofs.Json.KeyPath
import PolicyPack.Proofs.Json.NumberText
import PolicyPack.Proofs.Json.Numbers
import PolicyPack.Proofs.Json.Printable
import PolicyPack.Proofs.Json.QuotedText
import PolicyPack.Proofs.Json.ReadValues
import PolicyPack.Proofs.Json.RoundTrip
import PolicyPack.Proofs.Json.Values
import PolicyPack.Proofs.Outcome
import PolicyPack.Proofs.Path
import PolicyPack.Proofs.Policy.Scopes
import PolicyPack.Proofs.Policy.Values
import PolicyPack.Proofs.Registry.Lifecycle
import PolicyPack.Proofs.Registry.Runs
import PolicyPack.Proofs.Sources.Assembly
import PolicyPack.Proofs.Sources.Coded
import PolicyPack.Proofs.Sources.Confinement
import PolicyPack.Proofs.Sources.Conflict
import PolicyPack.Proofs.Sources.ExcludedRoots
import PolicyPack.Proofs.Sources.Inventory
import PolicyPack.Proofs.Sources.Irrelevance
import PolicyPack.Proofs.Sources.Keys
import PolicyPack.Proofs.Sources.LoadOrder
import PolicyPack.Proofs.Sources.Merge
import PolicyPack.Proofs.Sources.Narrowing
import PolicyPack.Proofs.Sources.Relocation
import PolicyPack.Proofs.Sources.RootFiles
import PolicyPack.Proofs.Sources.Roots
import PolicyPack.Proofs.Sources.SourceSet
import PolicyPack.Proofs.Sources.TreeAsBundle
import PolicyPack.Proofs.Text.Lenient
import PolicyPack.Proofs.Text.Utf8
import PolicyPack.Proofs.Yaml.ReadData
import PolicyPack.Registry
import PolicyPack.Shape
import PolicyPack.Sources.Bundle
import PolicyPack.Sources.Load
import PolicyPack.Sources.Merge
import PolicyPack.Sources.SourceSet
import PolicyPack.Text.Blank
import PolicyPack.Text.Casing
import PolicyPack.Text.CodeRanges
import PolicyPack.Text.Invisible
import PolicyPack.Text.Numeric
import PolicyPack.Text.Quoted
import PolicyPack.Text.Utf8
import PolicyPack.Text.WordEnd
import PolicyPack.Yaml.Cursor
import PolicyPack.Yaml.Fault
import PolicyPack.Yaml.Node
import PolicyPack.Yaml.Scalar
import PolicyPack.Yaml.ScalarText
import PolicyPack.Yaml.Token
import PolicyPack.Yaml.Typed

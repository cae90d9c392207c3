import ServiceMigration.Api.Answer
import ServiceMigration.Api.Basic
import ServiceMigration.Api.Merge
import ServiceMigration.Cache.Basic
import ServiceMigration.Cache.Key
import ServiceMigration.Cache.Storing
import ServiceMigration.Chunk.Closure
import ServiceMigration.Chunk.Partition
import ServiceMigration.CommandLine.Arguments
import ServiceMigration.CommandLine.Command
import ServiceMigration.Completion.Client
import ServiceMigration.Completion.Fault
import ServiceMigration.Completion.Generator
import ServiceMigration.Completion.Script
import ServiceMigration.Digest.Sha256
import ServiceMigration.Failure
import ServiceMigration.Files.Content
import ServiceMigration.Files.Path
import ServiceMigration.Files.Tree
import ServiceMigration.Json.Error
import ServiceMigration.Json.Reader
import ServiceMigration.Json.Writer
import ServiceMigration.Log
import ServiceMigration.Main
import ServiceMigration.Mapping.Rules
import ServiceMigration.Mapping.TypeName
import ServiceMigration.Migration
import ServiceMigration.ModuleInput
import ServiceMigration.Number.Decimal
import ServiceMigration.Number.Double
import ServiceMigration.Prompt
import ServiceMigration.Proofs.Api.Answer
import ServiceMigration.Proofs.Api.Form
import ServiceMigration.Proofs.Api.Merge
import ServiceMigration.Proofs.Cache.Entry
import ServiceMigration.Proofs.Cache.Key
import ServiceMigration.Proofs.Cache.Lookup
import ServiceMigration.Proofs.Chunk.Closure
import ServiceMigration.Proofs.Chunk.Dangling
import ServiceMigration.Proofs.Chunk.Identifier
import ServiceMigration.Proofs.Chunk.Window
import ServiceMigration.Proofs.Completion.Outcome
import ServiceMigration.Proofs.Json.Number
import ServiceMigration.Proofs.Json.Order
import ServiceMigration.Proofs.Json.Rest
import ServiceMigration.Proofs.Json.RoundTrip
import ServiceMigration.Proofs.Mapping.Reference
import ServiceMigration.Proofs.Number.Decimal
import ServiceMigration.Proofs.Number.Nearest
import ServiceMigration.Proofs.Run.Coverage
import ServiceMigration.Proofs.Run.Fallback
import ServiceMigration.Proofs.Run.Provenance
import ServiceMigration.Proofs.Run.Session
import ServiceMigration.Proofs.Run.Step
import ServiceMigration.Proofs.Service.Form
import ServiceMigration.Proofs.Service.Reading
import ServiceMigration.Proofs.Text.Cut
import ServiceMigration.Proofs.Validation.Reading
import ServiceMigration.Proofs.Value.Document
import ServiceMigration.Run.Progress
import ServiceMigration.Run.Transformer
import ServiceMigration.Run.Work
import ServiceMigration.Service.Analysis
import ServiceMigration.Service.Component
import ServiceMigration.Service.Constraints
import ServiceMigration.Service.Dto
import ServiceMigration.Service.Endpoint
import ServiceMigration.Service.ModuleSpec
import ServiceMigration.Service.TypeRef
import ServiceMigration.Settings
import ServiceMigration.Text.Blank
import ServiceMigration.Text.Case
import ServiceMigration.Text.CaseTable
import ServiceMigration.Text.Cut
import ServiceMigration.Text.Digit
import ServiceMigration.Text.Hex
import ServiceMigration.Text.PrintTable
import ServiceMigration.Text.Word
import ServiceMigration.Text.WordTable
import ServiceMigration.Validation.Checked
import ServiceMigration.Validation.Issue
import ServiceMigration.Validation.Scalars
import ServiceMigration.Value.Basic
import ServiceMigration.Value.Display
import ServiceMigration.Value.Moment
import ServiceMigration.Workspace
import ServiceMigration.Yaml.Cursor
import ServiceMigration.Yaml.Document
import ServiceMigration.Yaml.Node
import ServiceMigration.Yaml.Scalar
import ServiceMigration.Yaml.Tag
import ServiceMigration.Yaml.Token
import ServiceMigration.Yaml.Tokens
import ServiceMigration.Proofs.Run.Effects
import ServiceMigration.Proofs.Run.Bound
import ServiceMigration.Proofs.Files.Tree
import ServiceMigration.Proofs.Files.Content
import ServiceMigration.Proofs.Cache.Storing
import ServiceMigration.Proofs.Cache.Working
import ServiceMigration.Proofs.Run.Storage
import ServiceMigration.Proofs.Run.Rerun
import ServiceMigration.Proofs.Cache.Sharing
import ServiceMigration.Proofs.Run.Budget
import ServiceMigration.Proofs.Migration.Artifacts
import ServiceMigration.Proofs.Cache.Checkout
import ServiceMigration.Proofs.Cache.Footprint
import ServiceMigration.Proofs.Files.Keeping
import ServiceMigration.Proofs.Service.Validated
import ServiceMigration.Proofs.Service.RoundTrip
import ServiceMigration.Proofs.Service.FirstItems
import ServiceMigration.Proofs.Service.Analysis
import ServiceMigration.Proofs.Text.Case
import ServiceMigration.Proofs.Chunk.Distance
import ServiceMigration.Proofs.Chunk.Partition
import ServiceMigration.Proofs.Service.Accumulation
import ServiceMigration.Proofs.Files.Confinement
import ServiceMigration.Proofs.Migration.Refusal
import ServiceMigration.Proofs.Migration.Placement
import ServiceMigration.Proofs.Run.Balance
import ServiceMigration.Proofs.Run.Turns
import ServiceMigration.Proofs.Run.Cancellation
import ServiceMigration.Proofs.Service.NormalForm
import ServiceMigration.Proofs.Mapping.Agreement
import ServiceMigration.Proofs.Run.Fitting
import ServiceMigration.Proofs.Service.Identity
import ServiceMigration.Proofs.Completion.WayBack
import ServiceMigration.Proofs.Cache.AllOrNothing
import ServiceMigration.Proofs.Settings.Layers
import ServiceMigration.Proofs.Service.Accidents
import ServiceMigration.Proofs.Migration.Loading
import ServiceMigration.Proofs.Settings.Loading
import ServiceMigration.Proofs.Number.Extended
import ServiceMigration.Proofs.Service.Bounds
import ServiceMigration.Proofs.Service.JoinedPath
import ServiceMigration.Proofs.Cache.Interleaving
import ServiceMigration.Proofs.Json.Plain
import ServiceMigration.Proofs.Json.Written
import ServiceMigration.Proofs.Run.Account
import ServiceMigration.Proofs.Text.Hex
import ServiceMigration.Proofs.Value.Lookup
import ServiceMigration.Proofs.Json.Given
import ServiceMigration.Proofs.Api.Written
import ServiceMigration.Proofs.Run.Program

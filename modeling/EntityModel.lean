import EntityModel.Main
import EntityModel.Backend.Recorder
import EntityModel.Proofs.Backend.Log
import EntityModel.Proofs.Entity.Columns
import EntityModel.Proofs.Registry.Phases
import EntityModel.Proofs.Registry.Wiring
import EntityModel.Proofs.Registry.Runs
import EntityModel.Proofs.Registry.Consistency
import EntityModel.Proofs.Registry.History
import EntityModel.Proofs.Registry.Frozen
import EntityModel.Proofs.Registry.CallOrder
import EntityModel.Proofs.Backend.Store
import EntityModel.Proofs.Registry.Independence
import EntityModel.Proofs.Registry.Sharing
import EntityModel.Proofs.Entity.Properties
import EntityModel.Proofs.Registry.Restriction
import EntityModel.Proofs.Document.Changes
import EntityModel.Proofs.Registry.Reordering
import EntityModel.Proofs.Storage.Rounded
import EntityModel.Proofs.Entity.Fallbacks
import EntityModel.Proofs.Registry.Diagnostics
import EntityModel.Proofs.Registry.Recovery
import EntityModel.Proofs.Registry.Revisions
import EntityModel.Proofs.Registry.Spellings
import EntityModel.Proofs.Registry.Shapes
import EntityModel.Proofs.TableText.Comments
import EntityModel.Proofs.Registry.Summary
import EntityModel.Proofs.Binary64.Rounding
import EntityModel.Proofs.Entity.Mapping
import EntityModel.Proofs.Entity.Partition
import EntityModel.Proofs.CommandLine.Flags
import EntityModel.Proofs.Files.Tree
import EntityModel.Proofs.CommandLine.Outcomes
import EntityModel.Proofs.Json.Measure
import EntityModel.Proofs.Registry.Nesting
import EntityModel.Proofs.Json.Layout
import EntityModel.Proofs.Binary64.Decimals
import EntityModel.Proofs.Json.Strings
import EntityModel.Proofs.Json.Scaling
import EntityModel.Proofs.Json.Bounds
import EntityModel.Proofs.Json.Reread
import EntityModel.Proofs.CommandLine.Reloading
import EntityModel.Proofs.Text.Delimited
import EntityModel.Proofs.Text.StringLiteral
import EntityModel.Proofs.Storage.Literals
import EntityModel.Proofs.Storage.Types
import EntityModel.Proofs.TableText.Decoding
import EntityModel.Proofs.Entity.Enumerations
import EntityModel.Proofs.TableText.Blocks
import EntityModel.Proofs.Column.Insertions
import EntityModel.Proofs.Backend.Requests
import EntityModel.Proofs.Document.Formats
import EntityModel.Proofs.TableText.Endings

import ApiSchema.Json.Strict
import ApiSchema.Main
import ApiSchema.Proofs.Conversion.Notes
import ApiSchema.Proofs.Check.Record
import ApiSchema.Proofs.Conversion.Slots
import ApiSchema.Proofs.OpenApi.Builders
import ApiSchema.Schema.FromJson
import ApiSchema.Schema.References
import ApiSchema.Schema.Validation
import ApiSchema.Proofs.Schema.Fields
import ApiSchema.Proofs.OpenApi.Operations
import ApiSchema.Proofs.OpenApi.Naming
import ApiSchema.Proofs.Text.SnakeCase
import ApiSchema.Proofs.OpenApi.Trace
import ApiSchema.Proofs.OpenApi.Following
import ApiSchema.Proofs.OpenApi.Schemas
import ApiSchema.Proofs.OpenApi.References
import ApiSchema.Proofs.Json.Scalars
import ApiSchema.Proofs.Json.Floats
import ApiSchema.Proofs.Json.Reading
import ApiSchema.Proofs.Check.Moment
import ApiSchema.Proofs.Schema.Reading
import ApiSchema.Proofs.Schema.Json
import ApiSchema.Proofs.Schema.RoundTrip
import ApiSchema.Proofs.Target.Requests
import ApiSchema.Proofs.Target.Rendering
import ApiSchema.Proofs.Target.History
import ApiSchema.Proofs.Target.Independence
import ApiSchema.Proofs.Conversion.Programs
import ApiSchema.Proofs.Document.Within
import ApiSchema.Proofs.Yaml.Load
import ApiSchema.Proofs.Source.Growth
import ApiSchema.Proofs.Source.Library
import ApiSchema.Proofs.Source.Bundling
import ApiSchema.Proofs.Source.Unfolding
import ApiSchema.Proofs.Target.Catalog
import ApiSchema.Proofs.Target.Constants
import ApiSchema.Proofs.Dialect.Names
import ApiSchema.Proofs.OpenApi.Ending
import ApiSchema.Proofs.Source.Endless
import ApiSchema.Proofs.Schema.Validation
import ApiSchema.Proofs.Target.Shadowing
import ApiSchema.Proofs.Frontend.RoundTrip
import ApiSchema.Proofs.Conversion.Memo
import ApiSchema.Proofs.OpenApi.Composed
import ApiSchema.Proofs.Source.Identity
import ApiSchema.Proofs.Source.Leftovers
import ApiSchema.Proofs.Source.Failures
import ApiSchema.Proofs.Source.Cache
import ApiSchema.Proofs.Schema.Reconciling
import ApiSchema.Proofs.OpenApi.Errors
import ApiSchema.Proofs.OpenApi.Parameters
import ApiSchema.Proofs.OpenApi.Malformed
import ApiSchema.Proofs.Target.Imports
import ApiSchema.Proofs.Target.Boxing
import ApiSchema.Proofs.Target.ReadBack
import ApiSchema.Proofs.Frontend.Explained
import ApiSchema.Proofs.Frontend.Enums
import ApiSchema.Proofs.Command.Isolation

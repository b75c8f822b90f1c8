import DomainSchema.CommandLine.Running
import DomainSchema.Declaration.Loading
import DomainSchema.Diagnostic.Json
import DomainSchema.Drift.Json
import DomainSchema.Emission.Execution
import DomainSchema.Main
import DomainSchema.NestingGraph
import DomainSchema.Samples.Store
import DomainSchema.Schema.Json
import DomainSchema.Settings.Json
import DomainSchema.Settings.Loading
import DomainSchema.Settings.Saving
import DomainSchema.Unit
import DomainSchema.Validation.Json
import DomainSchema.Proofs.Revalidation
import DomainSchema.Proofs.Construction
import DomainSchema.Proofs.Mutation
import DomainSchema.Proofs.SampleStore
import DomainSchema.Proofs.SampleMutation
import DomainSchema.Proofs.SampleConstruction
import DomainSchema.Proofs.SampleLabels
import DomainSchema.Proofs.ErrorPaths
import DomainSchema.Proofs.Accumulation
import DomainSchema.Proofs.Survival
import DomainSchema.Proofs.Completeness
import DomainSchema.Proofs.Isolation
import DomainSchema.Proofs.Reordering
import DomainSchema.Proofs.Verification
import DomainSchema.Proofs.History
import DomainSchema.Proofs.HandEdits
import DomainSchema.Proofs.RoundTrip
import DomainSchema.Proofs.TypeText
import DomainSchema.Proofs.TypeIdentity
import DomainSchema.Proofs.TomlStrings
import DomainSchema.Proofs.TomlTables
import DomainSchema.Proofs.Layering
import DomainSchema.Proofs.Snapshot
import DomainSchema.Proofs.Priority
import DomainSchema.Proofs.Units
import DomainSchema.Proofs.Extraction
import DomainSchema.Proofs.Capture
import DomainSchema.Proofs.Nesting
import DomainSchema.Proofs.Drawing
import DomainSchema.Proofs.Descents
import DomainSchema.Proofs.Loading
import DomainSchema.Proofs.PathLiterals
import DomainSchema.Proofs.RelatedNames

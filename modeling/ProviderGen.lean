import ProviderGen.Main
import ProviderGen.Storage.Tree
import ProviderGen.Document.Encode
import ProviderGen.Resource.Parse
import ProviderGen.Proofs.Termination
import ProviderGen.Proofs.ReferenceGraph
import ProviderGen.Proofs.Inlining
import ProviderGen.Proofs.Discovery
import ProviderGen.Proofs.Pairing
import ProviderGen.Proofs.Faults
import ProviderGen.Proofs.Validators
import ProviderGen.Proofs.Presence
import ProviderGen.Proofs.AttributeNames
import ProviderGen.Proofs.PackageNames
import ProviderGen.Proofs.SchemaKeys
import ProviderGen.Proofs.Identifiers
import ProviderGen.Proofs.EnumConstraints
import ProviderGen.Proofs.PathOrder
import ProviderGen.Proofs.BuiltinTemplates
import ProviderGen.Proofs.DataSourceSchema
import ProviderGen.Proofs.NestedDeclarations
import ProviderGen.Proofs.OutputPaths
import ProviderGen.Proofs.SourceLines
import ProviderGen.Proofs.SourceText
import ProviderGen.Proofs.LenientRun
import ProviderGen.Proofs.ResourceDump
import ProviderGen.Proofs.DocumentTree
import ProviderGen.Proofs.SafeRuns
import ProviderGen.Proofs.ScalarKinds
import ProviderGen.Proofs.AttributeTrees
import ProviderGen.Proofs.Merging
import ProviderGen.Proofs.ResourcePage
import ProviderGen.Proofs.LiteralReading
import ProviderGen.Proofs.Bracketing
import ProviderGen.Proofs.DataSourcePage
import ProviderGen.Proofs.NestedBlocks
import ProviderGen.Proofs.Aliases
import ProviderGen.Proofs.SnakeCase
import ProviderGen.Proofs.PathSegments
import ProviderGen.Proofs.Overrides
import ProviderGen.Proofs.StackFrame

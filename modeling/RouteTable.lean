import RouteTable.LogSettings
import RouteTable.Main
import RouteTable.Proofs.Authorization
import RouteTable.Proofs.Listing
import RouteTable.Proofs.Offences
import RouteTable.Proofs.Inheritance
import RouteTable.Proofs.SingleOperation
import RouteTable.Proofs.Fallthrough
import RouteTable.Proofs.Shadowing
import RouteTable.Proofs.Files
import RouteTable.Proofs.ModuleLoading
import RouteTable.Proofs.ModuleHistory
import RouteTable.Proofs.NormalPaths
import RouteTable.Proofs.Remembering
import RouteTable.Proofs.Recompilation
import RouteTable.Proofs.ModuleVersions
import RouteTable.Proofs.ProperReading
import RouteTable.Proofs.RequestViews
import RouteTable.Proofs.ValidatedValues
import RouteTable.Proofs.MergedView
import RouteTable.Proofs.PathBlocks
import RouteTable.Proofs.BasePath
import RouteTable.Proofs.Mounting
import RouteTable.Proofs.FileNames
import RouteTable.Proofs.DirectoryTree
import RouteTable.Proofs.Registration
import RouteTable.Proofs.MergedParameters
import RouteTable.Proofs.OperationLog
import RouteTable.Proofs.Probing
import RouteTable.Proofs.DistinctKeys
import RouteTable.Proofs.Commands
import RouteTable.Proofs.DecimalIntegers
import RouteTable.Proofs.CollectionFormats
import RouteTable.Proofs.FlatSchemas
import RouteTable.Proofs.ParameterSchemas
import RouteTable.Proofs.Verdicts
import RouteTable.Proofs.IntegerParameters
import RouteTable.Proofs.ReportedIssues
import RouteTable.Proofs.CheckedValues
import RouteTable.Proofs.PathResolution
import RouteTable.Proofs.FileReferences
import RouteTable.Proofs.AuthorizerSources
import RouteTable.Proofs.WrittenParameters
import RouteTable.Proofs.RecordFields
import RouteTable.Proofs.SecurityValues
import RouteTable.Proofs.BearerTokens
import RouteTable.Proofs.ConfigLayers
import RouteTable.Proofs.UnknownKeys
import RouteTable.Proofs.ResponseHeaders
import RouteTable.Proofs.EchoedParameters
import RouteTable.Proofs.ManifestShapes

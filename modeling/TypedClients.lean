import TypedClients.Main
import TypedClients.Proofs.Evaluation
import TypedClients.Proofs.Sequencing
import TypedClients.Proofs.MethodShape
import TypedClients.Proofs.Dispatch
import TypedClients.Proofs.DeclaredTypes
import TypedClients.Proofs.ClientOutline
import TypedClients.Proofs.ImportMeanings
import TypedClients.Proofs.ClientImports
import TypedClients.Proofs.RouteOrigins
import TypedClients.Proofs.RouteFailures
import TypedClients.Proofs.TypeImports
import TypedClients.Proofs.FailedRuns
import TypedClients.Proofs.LoadedProjects
import TypedClients.Proofs.PackageExports
import TypedClients.Proofs.ClientTypes
import TypedClients.Proofs.FaultOrigins
import TypedClients.Proofs.ImportedClasses
import TypedClients.Proofs.EmittedFiles
import TypedClients.Proofs.FurtherSources
import TypedClients.Proofs.ReExports
import TypedClients.Proofs.TableKeys
import TypedClients.Proofs.ConfigurationFaults
import TypedClients.Proofs.ClassScopes
import TypedClients.Proofs.MovedRoutes
import TypedClients.Proofs.InheritedFields
import TypedClients.Proofs.ResolutionOrders
import TypedClients.Proofs.PathTexts
import TypedClients.Proofs.PathConstraints
import TypedClients.Proofs.ImportBlocks
import TypedClients.Proofs.ExpressionEnds
import TypedClients.Proofs.UrlTexts
import TypedClients.Proofs.MethodSignatures
import TypedClients.Proofs.BoundTypes
import TypedClients.Proofs.MovedTags
import TypedClients.Proofs.CarriedTypes
import TypedClients.Proofs.ReadNames
import TypedClients.Proofs.DottedImports
import TypedClients.Proofs.FoundReferences
import TypedClients.Proofs.WritableImports
import TypedClients.Proofs.ImportStyles
import TypedClients.Proofs.PackageOrder
import TypedClients.Proofs.DisplayedPaths
import TypedClients.Proofs.UsableNames

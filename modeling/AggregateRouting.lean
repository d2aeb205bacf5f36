import AggregateRouting.Inspection
import AggregateRouting.Routing
import AggregateRouting.Declaration.Expansion
import AggregateRouting.Shop.Forwarding
import AggregateRouting.Shop.Order
import AggregateRouting.Source.Written
import AggregateRouting.Proofs.Construction
import AggregateRouting.Proofs.InspectedRelations
import AggregateRouting.Proofs.CommandRouting
import AggregateRouting.Shop.Setup
import AggregateRouting.Proofs.EventRouting
import AggregateRouting.Proofs.Completeness
import AggregateRouting.Proofs.AbsentValues
import AggregateRouting.Proofs.Faults
import AggregateRouting.Proofs.InspectionLog
import AggregateRouting.Proofs.Ownership
import AggregateRouting.Proofs.Matching
import AggregateRouting.Proofs.Independence
import AggregateRouting.Proofs.TypeSafety
import AggregateRouting.Proofs.MemberOrder
import AggregateRouting.Proofs.RegistryRuns
import AggregateRouting.Proofs.EnabledKinds
import AggregateRouting.Proofs.KeyExtraction
import AggregateRouting.Proofs.RoutingLog
import AggregateRouting.Proofs.PropertyTables
import AggregateRouting.Proofs.Silencing
import AggregateRouting.Proofs.ByteOrder
import AggregateRouting.Proofs.MetadataGrammar
import AggregateRouting.Proofs.MetadataObjects
import AggregateRouting.Proofs.MetadataForms
import AggregateRouting.Proofs.IdentifierText
import AggregateRouting.Proofs.RoutingValues
import AggregateRouting.Proofs.SnakeCase
import AggregateRouting.Proofs.CamelCase
import AggregateRouting.Proofs.StrategyChains
import AggregateRouting.Proofs.DeclarationFaults
import AggregateRouting.Proofs.CommandDeclarations
import AggregateRouting.Proofs.SnakeCaseLocality

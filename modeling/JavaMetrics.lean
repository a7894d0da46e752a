import JavaMetrics.Facts.Form
import JavaMetrics.Files.Run
import JavaMetrics.Json.Read
import JavaMetrics.Proofs.Dict
import JavaMetrics.Proofs.Results
import JavaMetrics.Proofs.ClassGraph
import JavaMetrics.Proofs.ByteOrder
import JavaMetrics.Proofs.Choice
import JavaMetrics.Proofs.Batch
import JavaMetrics.Proofs.Neighbours
import JavaMetrics.Proofs.Conservation
import JavaMetrics.Proofs.FirstPath
import JavaMetrics.Proofs.OrderIndependence
import JavaMetrics.Proofs.Resolution
import JavaMetrics.Proofs.Children
import JavaMetrics.Proofs.Dependencies
import JavaMetrics.Proofs.Inheritance
import JavaMetrics.Proofs.Growth
import JavaMetrics.Proofs.Coupling
import JavaMetrics.Proofs.Ambiguities
import JavaMetrics.Proofs.Locality
import JavaMetrics.Proofs.Reading
import JavaMetrics.Proofs.RoundTrip
import JavaMetrics.Proofs.References
import JavaMetrics.Proofs.Visits
import JavaMetrics.Proofs.Scopes
import JavaMetrics.Proofs.Receivers
import JavaMetrics.Proofs.Comments
import JavaMetrics.Proofs.CommentedBodies
import JavaMetrics.Proofs.CommentedFacts
import JavaMetrics.Proofs.Addresses
import JavaMetrics.Proofs.Cursor
import JavaMetrics.Proofs.LexicalScopes
import JavaMetrics.Proofs.LexicalWalk
import JavaMetrics.Proofs.Bindings
import JavaMetrics.Proofs.FieldUses
import JavaMetrics.Proofs.QualifiedNames
import JavaMetrics.Proofs.BareNames
import JavaMetrics.Proofs.WrittenTypes
import JavaMetrics.Proofs.SettledNames
import JavaMetrics.Proofs.TypeVariables
import JavaMetrics.Proofs.Cohesion
import JavaMetrics.Proofs.MemberOrder
import JavaMetrics.Proofs.GraphRuns
import JavaMetrics.Proofs.ClassOrder
import JavaMetrics.Proofs.Thresholds
import JavaMetrics.Proofs.Paths
import JavaMetrics.Proofs.CollectedFiles
import JavaMetrics.Proofs.Places
import JavaMetrics.Proofs.ClassCode
import JavaMetrics.Proofs.CountedBodies

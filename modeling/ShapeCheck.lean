import ShapeCheck.Json.Reader
import ShapeCheck.Shape.Custom
import ShapeCheck.Shape.Description
import ShapeCheck.Shape.Refinement
import ShapeCheck.Session
import ShapeCheck.Proofs.GuardDiscipline
import ShapeCheck.Proofs.OpenChecks
import ShapeCheck.Proofs.FailFast
import ShapeCheck.Proofs.Adequacy
import ShapeCheck.Proofs.Identities
import ShapeCheck.Proofs.Containers
import ShapeCheck.Proofs.Relocation
import ShapeCheck.Proofs.Composition
import ShapeCheck.Proofs.Combinators
import ShapeCheck.Proofs.Blame
import ShapeCheck.Proofs.Course
import ShapeCheck.Proofs.Unguarded
import ShapeCheck.Proofs.Locality
import ShapeCheck.Proofs.MachineCourse
import ShapeCheck.Proofs.Predicates
import ShapeCheck.Proofs.Reports
import ShapeCheck.Proofs.Dangling
import ShapeCheck.Proofs.Separation
import ShapeCheck.Proofs.Acceptance
import ShapeCheck.Proofs.Registration
import ShapeCheck.Proofs.DepthLimit
import ShapeCheck.Proofs.Vouching
import ShapeCheck.Proofs.Holding
import ShapeCheck.Proofs.QuietRuns
import ShapeCheck.Proofs.BasicShapes
import ShapeCheck.Proofs.RegistryHistory
import ShapeCheck.Proofs.TypeText
import ShapeCheck.Proofs.Reading
import ShapeCheck.Proofs.Footprint
import ShapeCheck.Proofs.ByName
import ShapeCheck.Proofs.Unresolved
import ShapeCheck.Proofs.Lifetime
import ShapeCheck.Proofs.Keys

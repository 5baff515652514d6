import Stencil.Logger
import Stencil.Proofs.DeepCopies
import Stencil.Proofs.Nesting
import Stencil.Proofs.RenderOutcome
import Stencil.Proofs.Reporting
import Stencil.Proofs.Runs
import Stencil.Proofs.Stepwise
import Stencil.Proofs.Substitution
import Stencil.Routine
import Stencil.Store.Declare
import Stencil.Store.Mutate
import Stencil.Template.Substitute
import Stencil.Template.Methods
import Stencil.Proofs.Assembly
import Stencil.Proofs.Facets
import Stencil.Proofs.KeyOrder
import Stencil.Proofs.Acceptance
import Stencil.Proofs.JsonReading
import Stencil.Proofs.Trees
import Stencil.Proofs.Likeness
import Stencil.Proofs.SameTexts
import Stencil.Proofs.StandardContent
import Stencil.Proofs.Patterns
import Stencil.Proofs.PlainDefaults
import Stencil.Proofs.ByteDefaults
import Stencil.Proofs.FirstFault
import Stencil.Proofs.SubstituteOutcome
import Stencil.Proofs.Snapshots
import Stencil.Proofs.CleanSubstitution
import Stencil.Proofs.CarriedDefaults
import Stencil.Proofs.UndeclaredDefaults
import Stencil.Proofs.Regrouping
import Stencil.Proofs.ByteTexts
import Stencil.Proofs.NestedAcceptance
import Stencil.Proofs.LayeredDefaults
import Stencil.Proofs.CarriageReturns
import Stencil.Proofs.Joining
import Stencil.Proofs.Loggers
import Stencil.Proofs.Exchanging

import Assay.Configuration.File
import Assay.Recipe
import Assay.Proofs.Addressing
import Assay.Proofs.Configuration.Refinement
import Assay.Proofs.Unfolding
import Assay.Proofs.Digits
import Assay.Proofs.Path.Grammar
import Assay.Proofs.Path.Rendering
import Assay.Proofs.Labels.Regrouping
import Assay.Proofs.Labels.Governing
import Assay.Proofs.Labels
import Assay.Proofs.Labels.Recipes
import Assay.Proofs.Growth.Parts
import Assay.Proofs.Growth
import Assay.Proofs.Registry.History
import Assay.Proofs.Inlining
import Assay.Proofs.Configuration.Grouping
import Assay.Proofs.Configuration.Faults
import Assay.Proofs.Configuration.Undeclared
import Assay.Proofs.Assembly
import Assay.Proofs.Transport
import Assay.Proofs.Guards
import Assay.Proofs.Rule.Expression
import Assay.Proofs.Rule.Chaining
import Assay.Proofs.Accumulation
import Assay.Proofs.Configuration.Acceptance
import Assay.Proofs.Items
import Assay.Proofs.Registration
import Assay.Proofs.Checks.Range
import Assay.Proofs.Configuration.Absence
import Assay.Proofs.Combination
import Assay.Proofs.Path.Codes
import Assay.Proofs.Path.Joining
import Assay.Proofs.Pipeline
import Assay.Proofs.Checks.Numerals
import Assay.Proofs.Configuration.Loading
import Assay.Proofs.Configuration.Reports

import Mathlib.Algebra.Group.Int.Defs
import Assay.Proofs.Configuration.Mistakes
import Assay.Proofs.Configuration.Registered

/-! # Faults of configurations

A configuration with the ready-made checks is built, or refused with a fault
of its own, or ends with one of the faults that nothing translates. Those come
from names and types that cannot be written, from names of fields that are no
segments of paths, and from the arguments that a check fails on without
refusing them.
-/

namespace Assay

namespace Configuration

variable {α β : Type} {Q : Fault → Prop} {options : Arguments} {es : List (Data × Data)}

section

variable [Pattern.Edition]

end

end Configuration

end Assay

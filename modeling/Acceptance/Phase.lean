namespace Acceptance

/-! The three phases of a table: what is given, what happens, and what is expected then. -/

inductive Phase where
  | given
  | event
  | expectation
deriving DecidableEq

namespace Phase

def word : Phase → String
  | .given => "Given"
  | .event => "When"
  | .expectation => "Then"

/-- Whether a step of the phase may be continued by further rows. Only one thing happens
between what is given and what is expected. -/
def isContinued : Phase → Bool
  | .given => true
  | .event => false
  | .expectation => true

def inOrder : List Phase :=
  [.given, .event, .expectation]

end Phase

end Acceptance

import Acceptance.Argument
import Acceptance.Sentence.Segments

namespace Acceptance.Sentence

/-! The arguments that a sentence hands to its step. -/

def arguments (sentence : String) : List Argument :=
  (placeholders sentence).map Argument.infer

/-- The signature that a step for the sentence has to have. -/
def signature (sentence : String) : Signature :=
  (arguments sentence).map Argument.kind

end Acceptance.Sentence

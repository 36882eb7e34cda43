/-! # Why rules do not compile -/
set_option autoImplicit false
namespace ModalLexer

inductive Malformed
  | noPattern
  | noAlternative
deriving DecidableEq

namespace Malformed

def message : Malformed → String
  | .noPattern => "a rule needs at least one pattern"
  | .noAlternative => "a choice needs at least one alternative"

end Malformed

/-- Why some modes do not compile to a lexer. -/
inductive ConfigError
  | malformedRule (rule : String) (reason : Malformed)
  | invalidPattern (rule : String)
  | build (mode : String)
  | slotMismatch (mode : String) (expected found : Nat)
  | unknownMode (rule mode : String)
  | duplicateRule (rule mode : String)
  | duplicateMode (mode : String)
  | emptyMode (mode : String)
  | noModes
deriving DecidableEq

namespace ConfigError

/-- The message of an error.  What is wrong inside a pattern is left open. -/
def message : ConfigError → String
  | .malformedRule rule reason => s!"Malformed rule `{rule}`: " ++ reason.message
  | .invalidPattern rule => s!"Invalid pattern in rule `{rule}`: "
  | .build mode => s!"Could not build mode `{mode}`: "
  | .slotMismatch mode expected found =>
      s!"Mode `{mode}` expected {expected} capture slots, the combined pattern has {found}"
  | .unknownMode rule mode => s!"Rule `{rule}` refers to unknown mode `{mode}`"
  | .duplicateRule rule mode => s!"Rule `{rule}` is declared twice in mode `{mode}`"
  | .duplicateMode mode => s!"Mode `{mode}` is declared twice"
  | .emptyMode mode => s!"Mode `{mode}` has no rules"
  | .noModes => "No modes to compile"

end ConfigError

end ModalLexer

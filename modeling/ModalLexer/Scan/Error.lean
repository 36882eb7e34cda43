/-! # Why scanning stops with an error -/
set_option autoImplicit false
namespace ModalLexer

/-- What is wrong with a checkpoint. -/
inductive BadCheckpoint
  | beforeStart
  | pastEnd
  | insideCharacter
deriving DecidableEq

namespace BadCheckpoint

def message : BadCheckpoint → String
  | .beforeStart => "lines and columns start at 1"
  | .pastEnd => "offset is past the end of the buffer"
  | .insideCharacter => "offset is inside a character"

end BadCheckpoint

inductive ScanError
  | popOnEmptyStack (rule : String) (line col : UInt64)
  | emptyMatch (rule : String) (line col : UInt64)
  | invalidCheckpoint (offset : Nat) (line col : UInt64) (reason : BadCheckpoint)
deriving DecidableEq

namespace ScanError

def message : ScanError → String
  | .popOnEmptyStack rule line col => s!"Rule `{rule}` popped an empty mode stack\n\tat {line}:{col}"
  | .emptyMatch rule line col => s!"Rule `{rule}` matched the empty string\n\tat {line}:{col}"
  | .invalidCheckpoint offset line col reason =>
      s!"Cannot resume at offset {offset} ({line}:{col}): " ++ reason.message

end ScanError

end ModalLexer

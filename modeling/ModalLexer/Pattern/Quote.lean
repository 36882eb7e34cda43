import ModalLexer.Pattern.Escape

/-! # Writing a text as a pattern

`quote` writes a text so that, read as a pattern, it stands for itself. -/
set_option autoImplicit false
namespace ModalLexer

def quote (text : List Char) : List Char :=
  text.flatMap fun c => if isMeta c then ['\\', c] else [c]

end ModalLexer

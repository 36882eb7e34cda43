import ModalLexer.Unicode.Category
import ModalLexer.Unicode.Property

/-! # Names in quotes

A name in quotes is shown on one line: quotes, backslashes and controls are escaped, and so are
marks that would join the character before them and whatever has no shape of its own. -/
set_option autoImplicit false
namespace ModalLexer.Quoted

/-- The categories of characters that have no shape of their own. -/
def shapeless : CharSet :=
  .unions (["cc", "cf", "co", "cn", "zl", "zp", "zs"].filterMap Unicode.category?)

def joining : CharSet := (Unicode.property? "graphemeextend").getD .empty

def isPlain (c : Char) : Bool :=
  if c.toNat < 0x7F then 0x20 ≤ c.toNat else !joining.contains c && !shapeless.contains c

/-- The character as it appears between quotes. -/
def escape (c : Char) : List Char :=
  match c with
  | '\x00' => ['\\', '0']
  | '\t' => ['\\', 't']
  | '\r' => ['\\', 'r']
  | '\n' => ['\\', 'n']
  | '\\' => ['\\', '\\']
  | '"' => ['\\', '"']
  | _ =>
      if isPlain c then [c]
      else ['\\', 'u', '\x7b'] ++ Nat.toDigits 16 c.toNat ++ ['\x7d']

def quoted (name : String) : String :=
  .ofList ('"' :: name.toList.flatMap escape ++ ['"'])

end ModalLexer.Quoted

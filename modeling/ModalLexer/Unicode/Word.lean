import ModalLexer.Unicode.Category
import ModalLexer.Unicode.Property

/-! # Word characters, digits and white space -/
set_option autoImplicit false
namespace ModalLexer.Unicode

def named (found : Option CharSet) : CharSet := found.getD .empty

/-- The characters that words are made of: letters, marks, decimal digits, connecting
punctuation and the two characters that control joining. -/
def word : CharSet :=
  .unions [named (property? "alphabetic"), named (category? "mark"), named (category? "nd"),
    named (category? "pc"), named (property? "joincontrol")]

def digit : CharSet := named (category? "nd")

def space : CharSet := named (property? "whitespace")

def asciiWord : CharSet := .ofText "30-39 41-5A 5F 61-7A"

def asciiDigit : CharSet := .range '0' '9'

def asciiSpace : CharSet := .ofText "9-D 20"

/-- Whether a character is part of a word; the ASCII characters are decided without a table. -/
def isWord (c : Char) : Bool :=
  if c.toNat < 0x80 then c.isAlphanum || c = '_' else word.contains c

def isSpace (c : Char) : Bool :=
  if c.toNat < 0x80 then c = ' ' || (9 ≤ c.toNat && c.toNat ≤ 13) else space.contains c

end ModalLexer.Unicode

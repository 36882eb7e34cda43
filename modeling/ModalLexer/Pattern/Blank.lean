import ModalLexer.Unicode.Word

/-! # Blanks and comments inside a pattern

In verbose mode, white space counts for nothing and `#` begins a comment that runs to the end
of its line.  `skipBlank` passes over both; `collect` reads a run of characters with blanks
between them.  Outside verbose mode every character counts. -/
set_option autoImplicit false
namespace ModalLexer.Reading

/-- Passes over white space and comments, from inside a comment if `inComment`. -/
def skipFrom (inComment : Bool) : List Char → List Char
  | [] => []
  | c :: rest =>
      if inComment then skipFrom (c != '\n') rest
      else if Unicode.isSpace c then skipFrom false rest
      else if c = '#' then skipFrom true rest
      else c :: rest

def skipBlank (verbose : Bool) (cs : List Char) : List Char :=
  if verbose then skipFrom false cs else cs

def collectFrom (verbose : Bool) (stops : Char → Bool) (inComment : Bool) :
    List Char → List Char × List Char
  | [] => ([], [])
  | c :: rest =>
      if inComment then collectFrom verbose stops (c != '\n') rest
      else if verbose && Unicode.isSpace c then collectFrom verbose stops false rest
      else if verbose && c = '#' then collectFrom verbose stops true rest
      else if stops c then ([], c :: rest)
      else
        let (read, left) := collectFrom verbose stops false rest
        (c :: read, left)

def collect (verbose : Bool) (stops : Char → Bool) (cs : List Char) : List Char × List Char :=
  collectFrom verbose stops false cs

/-- The first character that is neither white space nor the first comment sign. -/
def peekFrom (inComment : Bool) : List Char → Option Char
  | [] => none
  | c :: rest =>
      if Unicode.isSpace c then peekFrom inComment rest
      else if !inComment && c = '#' then peekFrom true rest
      else some c

/-- The character that a sign looks ahead to.  In verbose mode it looks past white space and one
comment sign, and sees the very next character when nothing else is left. -/
def peekBlank (verbose : Bool) (cs : List Char) : Option Char :=
  if verbose then (peekFrom false cs).or cs.head? else cs.head?

def numeral (base : Nat) (digits : List Nat) : Nat := digits.foldl (fun n d => n * base + d) 0

def largestCount : Nat := 0xFFFFFFFF

def readCount? (verbose : Bool) (cs : List Char) : Option (Nat × List Char) :=
  match collect verbose (!·.isDigit) (cs.dropWhile Unicode.isSpace) with
  | ([], _) => none
  | (digits, left) =>
      let n := numeral 10 (digits.map fun c => c.toNat - '0'.toNat)
      if n ≤ largestCount then some (n, left.dropWhile Unicode.isSpace) else none

end ModalLexer.Reading

import ModalLexer.Proofs.Tree.Fragment
import ModalLexer.Proofs.Tree.Terms

/-! # How texts are written and read

A source that is built of texts alone is written as its texts, quoted, with bars between them, in
whatever way it is nested (`Source.fragment?_of_isLiteral`).  What is written is read again as the
characters of the texts with bars between them (`Literal.lexemes?_written`), and the tree of that is
the choice of the texts (`Literal.ofLexemes?_lexemes`). -/
set_option autoImplicit false
namespace ModalLexer

open Reading

/-! ## The texts of a source -/

namespace Source

mutual

def isLiteral : Source → Bool
  | .literal _ => true
  | .regex _ => false
  | .oneOf alternatives => areLiteral alternatives

def areLiteral : List Source → Bool
  | [] => true
  | first :: rest => first.isLiteral && areLiteral rest

end

mutual

def leaves : Source → List (List Char)
  | .literal text => [text.toList]
  | .regex _ => []
  | .oneOf alternatives => leavesOf alternatives

def leavesOf : List Source → List (List Char)
  | [] => []
  | first :: rest => first.leaves ++ leavesOf rest

end

mutual

theorem writtenTerms_of_isLiteral (source : Source) (literal : source.isLiteral = true) :
    source.writtenTerms = source.leaves.map quote := by
  match source with
  | .literal text => rfl
  | .regex pattern => cases literal
  | .oneOf alternatives =>
      exact (map_written_termsOf alternatives).trans (writtenTerms_of_areLiteral _ literal)

theorem writtenTerms_of_areLiteral (sources : List Source) (literal : areLiteral sources = true) :
    (sources.map writtenTerms).flatten = (leavesOf sources).map quote := by
  match sources with
  | [] => rfl
  | first :: rest =>
      rw [areLiteral, Bool.and_eq_true] at literal
      rw [List.map_cons, List.flatten_cons, writtenTerms_of_isLiteral first literal.1,
        writtenTerms_of_areLiteral rest literal.2, leavesOf, List.map_append]

end

/-- However its texts are nested, a source is written as they are one after the other. -/
theorem fragment?_of_isLiteral (source : Source) {fragment : List Char}
    (literal : source.isLiteral = true) (written : source.fragment? = some fragment) :
    source.leaves ≠ [] ∧ fragment = joinBars (source.leaves.map quote) := by
  have whole := source.fragment?_eq_some written
  rw [source.writtenTerms_of_isLiteral literal] at whole
  exact ⟨fun empty => whole.1 (List.map_eq_nil_iff.2 empty), whole.2⟩

end Source

/-! ## The lexemes of texts -/

namespace Literal

def charLexemes (text : List Char) : List Lexeme := text.map fun c => .atom (.literal c false)

def lexemes : List (List Char) → List Lexeme
  | [] => []
  | [text] => charLexemes text
  | text :: rest => charLexemes text ++ .bar :: lexemes rest

/-- Some texts, quoted, with bars between them. -/
def written (texts : List (List Char)) : List Char := joinBars (texts.map quote)

theorem readLexeme?_meta {c : Char} (special : isMeta c = true) (behind : List Char) :
    readLexeme? false ('\\' :: c :: behind) = some (.atom (.literal c false), behind) := by
  rw [isMeta, List.contains_iff_mem] at special
  simp only [List.mem_cons, List.not_mem_nil, or_false] at special
  rcases special with rfl | rfl | rfl | rfl | rfl | rfl | rfl | rfl | rfl | rfl | rfl | rfl | rfl |
    rfl | rfl | rfl | rfl | rfl <;> rfl

theorem readLexeme?_plain {c : Char} (plain : isMeta c = false) (behind : List Char) :
    readLexeme? false (c :: behind) = some (.atom (.literal c false), behind) := by
  unfold readLexeme?
  split
  · next same => cases same
  · next d rest same =>
      obtain ⟨rfl, rfl⟩ := List.cons.inj same
      split <;> first | rfl | exact absurd plain (by decide)

/-- Quoting a character makes it match itself. -/
theorem reads_quote (text behind : List Char) (outside : List Bool) :
    Reads ⟨false, outside⟩ (quote text ++ behind) (charLexemes text) ⟨false, outside⟩ behind := by
  induction text with
  | nil => exact .done _ _
  | cons c text ih =>
      by_cases special : isMeta c = true
      · have first : quote (c :: text) ++ behind = '\\' :: c :: (quote text ++ behind) := by
          simp [quote, special]
        rw [first]
        exact .step (readLexeme?_meta special _) rfl ih
      · rw [Bool.not_eq_true] at special
        have first : quote (c :: text) ++ behind = c :: (quote text ++ behind) := by
          simp [quote, special]
        rw [first]
        exact .step (readLexeme?_plain special _) rfl ih

theorem reads_written {texts : List (List Char)} (some_text : texts ≠ []) :
    Reads ⟨false, []⟩ (written texts) (lexemes texts) ⟨false, []⟩ [] := by
  induction texts with
  | nil => exact absurd rfl some_text
  | cons text texts ih =>
      cases texts with
      | nil =>
          have alone := reads_quote text [] []
          rwa [List.append_nil] at alone
      | cons next texts =>
          exact (reads_quote text _ []).append (.step rfl rfl (ih (List.cons_ne_nil _ _)))

theorem lexemes?_written {texts : List (List Char)} (some_text : texts ≠ []) :
    lexemes? (written texts) = some (lexemes texts) :=
  lexemes?_eq_some_iff.2 ⟨_, _, reads_written some_text, rfl⟩

/-! ## The tree of texts -/

def charTree : List Char → Tree
  | [] => .nothing
  | [c] => .atom (.literal c false)
  | c :: rest => .sequence (.atom (.literal c false)) (charTree rest)

def tree : List (List Char) → Tree
  | [] => .nothing
  | [text] => charTree text
  | text :: rest => .choice (charTree text) (tree rest)

theorem sequenceOf_concat {parts : List Tree} (some_part : parts ≠ []) (first : Tree) :
    sequenceOf (parts ++ [first]) = .sequence first (sequenceOf parts) := by
  obtain ⟨last, before, rfl⟩ := List.exists_cons_of_ne_nil some_part
  simp only [sequenceOf, List.cons_append, List.foldl_append, List.foldl_cons, List.foldl_nil]

theorem sequenceOf_chars (text : List Char) :
    sequenceOf (text.map fun c => Tree.atom (.literal c false)).reverse = charTree text := by
  induction text with
  | nil => rfl
  | cons c text ih =>
      cases text with
      | nil => rfl
      | cons d text =>
          rw [List.map_cons, List.reverse_cons, sequenceOf_concat (by simp), ih]
          rfl

theorem run?_charLexemes (text : List Char) (b : Builder) :
    b.run? (charLexemes text) = some { b with
      frame := { b.frame with
        parts := (text.map fun c => Tree.atom (.literal c false)).reverse ++ b.frame.parts } } := by
  induction text generalizing b with
  | nil => rfl
  | cons c text ih =>
      rw [charLexemes, List.map_cons, Builder.run?_cons, Builder.step?, Option.bind_some]
      have later := ih { b with frame := b.frame.push (.atom (.literal c false)) }
      rw [charLexemes] at later
      rw [later]
      simp [Frame.push]

theorem run?_lexemes {texts : List (List Char)} (some_text : texts ≠ []) (branches : List Tree) :
    ∃ frame, (Builder.mk ⟨branches, []⟩ []).run? (lexemes texts) = some ⟨frame, []⟩ ∧
      frame.close = choiceOf (tree texts) branches := by
  induction texts generalizing branches with
  | nil => exact absurd rfl some_text
  | cons text texts ih =>
      cases texts with
      | nil =>
          refine ⟨_, run?_charLexemes text _, ?_⟩
          rw [Frame.close, List.append_nil, sequenceOf_chars]
          rfl
      | cons next texts =>
          obtain ⟨frame, ran, closed⟩ := ih (List.cons_ne_nil _ _) (charTree text :: branches)
          refine ⟨frame, ?_, closed⟩
          rw [lexemes, Builder.run?_append, run?_charLexemes, Option.bind_some, Builder.run?_cons]
          · simp only [Builder.step?, Option.bind_some, Frame.endBranch, List.append_nil,
              sequenceOf_chars]
            exact ran
          · intro empty
            cases empty

theorem ofLexemes?_lexemes {texts : List (List Char)} (some_text : texts ≠ []) :
    Tree.ofLexemes? (lexemes texts) = some (tree texts) := by
  obtain ⟨frame, ran, closed⟩ := run?_lexemes some_text []
  exact Tree.ofLexemes?_eq_some_iff.2 ⟨frame, ran, closed⟩

end Literal

end ModalLexer

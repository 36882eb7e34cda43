import ModalLexer.Proofs.Literal.Written
import ModalLexer.Proofs.Pattern.Renumber

/-! # What texts mean

One text means a literal, or nothing if it is empty.  Some texts mean the choice of their literals
in order, or, if each is a single character, a set (`Literal.pattern_cases`). -/
set_option autoImplicit false
namespace ModalLexer

namespace Pattern

theorem sequenceAll_chars {text : List Char} (nonempty : text ≠ []) :
    sequenceAll (text.map fun c => .literal [c]) = .literal text := by
  have merged : ((text.map fun c => Pattern.literal [c]).flatMap parts).foldr consPart [] =
      [.literal text] := by
    induction text with
    | nil => exact absurd rfl nonempty
    | cons c rest ih =>
        by_cases more : rest = []
        · subst more
          rfl
        · rw [List.map_cons, List.flatMap_cons, List.foldr_append, ih more]
          rfl
  rw [sequenceAll, merged, foldSequence]

end Pattern

namespace Literal

def charPattern : List Char → Pattern
  | [] => .nothing
  | c :: rest => .literal (c :: rest)

def pattern (texts : List (List Char)) : Pattern := .choose (texts.map charPattern)

theorem branches_charPattern (text : List Char) :
    (charPattern text).branches = [charPattern text] := by
  cases text <;> rfl

theorem sequenceParts?_charPattern (text : List Char) :
    (charPattern text).sequenceParts? = none := by
  cases text <;> rfl

theorem set?_charPattern (text : List Char) : (charPattern text).set? = none := by
  cases text <;> rfl

theorem onlyChar?_charPattern {text : List Char} {c : Char}
    (only : (charPattern text).onlyChar? = some c) : text = [c] := by
  match text with
  | [] => cases only
  | [d] =>
      obtain rfl := Option.some.inj only
      rfl
  | _ :: _ :: _ => cases only

/-- Texts have no beginning in common that would be set apart. -/
theorem pattern_eq_chooseApart (texts : List (List Char)) (some_text : texts ≠ []) :
    pattern texts = .chooseApart (texts.map charPattern) := by
  have branches : (texts.map charPattern).flatMap Pattern.branches = texts.map charPattern := by
    rw [List.flatMap_map]
    simp only [branches_charPattern]
    rw [← List.map_eq_flatMap]
  obtain ⟨text, rest, rfl⟩ := List.exists_cons_of_ne_nil some_text
  have apart : Pattern.sharedStart? ((text :: rest).map charPattern) = none := by
    simp [Pattern.sharedStart?, List.mapM_cons, sequenceParts?_charPattern]
  simp only [pattern, Pattern.choose, branches, apart]

theorem mapM_onlyChar? {texts : List (List Char)} {chars : List Char}
    (all : (texts.map charPattern).mapM Pattern.onlyChar? = some chars) :
    texts = chars.map fun c => [c] := by
  induction texts generalizing chars with
  | nil =>
      obtain rfl := Option.some.inj all
      rfl
  | cons text texts ih =>
      rw [List.map_cons, List.mapM_cons] at all
      obtain ⟨c, only, all⟩ := Option.bind_eq_some_iff.1 all
      obtain ⟨more, rest, all⟩ := Option.bind_eq_some_iff.1 all
      obtain rfl := Option.some.inj all
      rw [onlyChar?_charPattern only, ih rest]
      rfl

theorem pattern_cases (texts : List (List Char)) (some_text : texts ≠ []) :
    pattern texts = .foldChoice (texts.map charPattern) ∨
      ∃ chars, texts = chars.map (fun c => [c]) ∧ pattern texts = .ofSet (.ofChars chars) := by
  rw [pattern_eq_chooseApart texts some_text]
  match texts with
  | [text] => exact .inl rfl
  | first :: second :: rest =>
      have several : ∀ p, (first :: second :: rest).map charPattern ≠ [p] := by
        intro p single
        cases single
      have no_set : ((first :: second :: rest).map charPattern).mapM Pattern.set? = none := by
        simp [List.mapM_cons, set?_charPattern]
      rw [Pattern.chooseApart_eq several, no_set]
      cases all : ((first :: second :: rest).map charPattern).mapM Pattern.onlyChar? with
      | none => exact .inl rfl
      | some chars => exact .inr ⟨chars, mapM_onlyChar? all, rfl⟩

/-! ## The meaning of the tree -/

theorem piece?_charTree {scope : Scope} (exact : scope.flags.ignoreCase = false)
    (text : List Char) : ∃ piece, (charTree text).piece? scope = some (piece, scope) ∧
      piece.pattern = charPattern text ∧ piece.asBranches = [charPattern text] ∧
      (text ≠ [] → piece.asParts = text.map fun c => .literal [c]) := by
  have atom (c : Char) : (Tree.atom (.literal c false)).piece? scope =
      some (.whole (.literal [c]), scope) := by
    simp [Tree.piece?, Atom.meaning?, Flags.literal, exact]
  induction text with
  | nil => exact ⟨.whole .nothing, rfl, rfl, rfl, fun nonempty => absurd rfl nonempty⟩
  | cons c text ih =>
      cases text with
      | nil => exact ⟨.whole (.literal [c]), atom c, rfl, rfl, fun _ => rfl⟩
      | cons d text =>
          obtain ⟨more, later, -, -, parts⟩ := ih
          have joined : (charTree (c :: d :: text)).piece? scope =
              some (.parts (.literal [c] :: more.asParts), scope) := by
            have unfolded : charTree (c :: d :: text) =
                .sequence (.atom (.literal c false)) (charTree (d :: text)) := rfl
            rw [unfolded, Tree.piece?, atom]
            simp [later, Piece.pattern]
          rw [parts (List.cons_ne_nil d text)] at joined
          have whole : Pattern.sequenceAll ((c :: d :: text).map fun c => .literal [c]) =
              charPattern (c :: d :: text) := Pattern.sequenceAll_chars (List.cons_ne_nil _ _)
          exact ⟨_, joined, whole, congrArg ([·]) whole, fun _ => rfl⟩

theorem piece?_tree (scope : Scope) (exact : scope.flags.ignoreCase = false)
    {texts : List (List Char)} (some_text : texts ≠ []) :
    ∃ piece, (tree texts).piece? scope = some (piece, scope) ∧
      piece.pattern = pattern texts ∧ piece.asBranches = texts.map charPattern := by
  induction texts with
  | nil => exact absurd rfl some_text
  | cons text texts ih =>
      obtain ⟨first, firstMeant, single, alone, -⟩ := piece?_charTree exact text
      cases texts with
      | nil =>
          refine ⟨first, firstMeant, ?_, alone⟩
          rw [single, pattern_eq_chooseApart [text] some_text]
          rfl
      | cons next texts =>
          obtain ⟨more, restMeant, -, branches⟩ := ih (List.cons_ne_nil _ _)
          have joined : (tree (text :: next :: texts)).piece? scope =
              some (.branches (first.pattern :: more.asBranches), scope) := by
            have unfolded : tree (text :: next :: texts) =
                .choice (charTree text) (tree (next :: texts)) := rfl
            rw [unfolded, Tree.piece?, firstMeant]
            simp [restMeant]
          rw [single, branches] at joined
          exact ⟨_, joined, rfl, rfl⟩

theorem meaning?_tree {flags : Flags} (exact : flags.ignoreCase = false)
    {texts : List (List Char)} (some_text : texts ≠ []) :
    (tree texts).meaning? flags = some (pattern texts) := by
  obtain ⟨piece, meant, whole, -⟩ := piece?_tree ⟨flags, 1⟩ exact some_text
  rw [Tree.meaning?, meant, Option.map_some]
  exact congrArg some whole

end Literal

end ModalLexer

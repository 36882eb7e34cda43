import ModalLexer.Proofs.Literal.Mode
import ModalLexer.Proofs.Mode.Dense
import ModalLexer.Proofs.Pattern.Seek

/-! # A choice of sources

A choice is written with bars between its alternatives, so that its pattern is one choice of all their
branches.  It should match as the first alternative that matches by itself, and it does
(`compile_oneOf`) unless one alternative changes the flags for those behind it, or all branches begin
alike with something that can be matched in several ways. -/
set_option autoImplicit false
namespace ModalLexer

open Reading

variable {σ : Type}

/-! ## The pieces of a choice -/

/-- What a written pattern means by itself, not yet put together. -/
def Tree.Means (flags : Flags) (tree : Tree) (piece : Piece) : Prop :=
  ∃ behind, tree.piece? ⟨flags, 1⟩ = some (piece, behind)

theorem Tree.Means.meaning? {flags : Flags} {tree : Tree} {piece : Piece}
    (means : tree.Means flags piece) : tree.meaning? flags = some piece.pattern := by
  obtain ⟨behind, meant⟩ := means
  rw [Tree.meaning?, meant]
  rfl

theorem Tree.Means.of_shifted {flags : Flags} {tree : Tree} {d : Nat} {piece : Piece} {behind : Scope}
    (meant : tree.piece? ⟨flags, 1 + d⟩ = some (piece, behind)) :
    ∃ own, tree.Means flags own ∧ piece = own.shift d := by
  have start : Scope.mk flags (1 + d) = (Scope.mk flags 1).shift d := rfl
  rw [start, Tree.piece?_shift] at meant
  obtain ⟨⟨own, after⟩, found, same⟩ := Option.map_eq_some_iff.1 meant
  obtain ⟨rfl, -⟩ := Prod.mk.inj same
  exact ⟨own, ⟨after, found⟩, rfl⟩

theorem Piece.seek_asBranches_shift {α : Type} (goal : Spot → Option α) (s : Spot) (d : Nat)
    (piece : Piece) : (piece.shift d).asBranches.findSome? (fun p => p.seek goal s) =
      piece.asBranches.findSome? fun p => p.seek goal s := by
  rw [asBranches_shift, List.findSome?_map]
  exact findSome?_congr fun p _ => p.seek_shift goal s d

/-- The branches of written patterns with bars between them are tried pattern by pattern, if the flags
behind each are those in front of it. -/
theorem Tree.exists_pieces {flags : Flags} {trees : List Tree} {d : Nat} {piece : Piece}
    {behind : Scope} (nonempty : trees ≠ [])
    (steady : ∀ t ∈ trees.dropLast, t.flagsBehind flags = flags)
    (meant : (anyOf trees).piece? ⟨flags, 1 + d⟩ = some (piece, behind)) :
    ∃ pieces : List Piece, List.Forall₂ (Means flags) trees pieces ∧
      ∀ {α : Type} (goal : Spot → Option α) (s : Spot),
        piece.asBranches.findSome? (fun p => p.seek goal s) =
          pieces.findSome? fun own => own.asBranches.findSome? fun p => p.seek goal s := by
  induction trees generalizing d piece with
  | nil => exact absurd rfl nonempty
  | cons t trees ih =>
      cases trees with
      | nil =>
          obtain ⟨own, means, rfl⟩ := Means.of_shifted meant
          refine ⟨[own], .cons means .nil, fun goal s => ?_⟩
          rw [List.findSome?_singleton]
          exact own.seek_asBranches_shift goal s d
      | cons u trees =>
          rw [List.dropLast_cons_cons, List.forall_mem_cons] at steady
          obtain ⟨one, between, other, oneMeant, otherMeant, rfl⟩ := piece?_orElse meant
          obtain ⟨own, means, rfl⟩ := Means.of_shifted oneMeant
          have counted := (Tree.groups_piece? oneMeant).2
          have flagged := (flags_piece? oneMeant).trans steady.1
          obtain rfl : between = ⟨flags, 1 + (d + t.captures)⟩ := by
            obtain ⟨flags', next⟩ := between
            dsimp only at flagged counted
            rw [flagged, counted, Nat.add_assoc]
          obtain ⟨pieces, others, tried⟩ := ih (List.cons_ne_nil u trees) steady.2 otherMeant
          refine ⟨own :: pieces, .cons means others, fun goal s => ?_⟩
          rw [Piece.asBranches, List.findSome?_append, own.seek_asBranches_shift, tried,
            List.findSome?_cons]
          cases own.asBranches.findSome? fun p => p.seek goal s <;> rfl

/-! ## Branches of a mode -/

namespace Branch

variable (b : Branch)

def accept? (t : Spot) : Option Spot := if !b.wordBound || t.atWordEdge then some t else none

/-- The branch matches as its fragment does, up to a place where a match may end. -/
theorem seek_pattern {p : Pattern} (meant : b.fragment.tree.meaning? .multiLineCrlf = some p)
    (s : Spot) : ((b.pattern .multiLineCrlf).first? s).map (·.spot) = p.seek b.accept? s := by
  by_cases bound : b.wordBound = true
  · have goal : (Pattern.look (.wordBoundary true)).seek some = b.accept? := by
      funext t
      rw [Pattern.seek_look, accept?, bound, t.holds_wordBoundary]
      rfl
    rw [pattern, b.meaning?_own_of_wordBound bound meant, Option.getD_some, ← Pattern.seek_some,
      Pattern.seek_sequenceAll, Pattern.seekAll, Pattern.seekAll, Pattern.seekAll, goal]
  · have own : b.own = b.fragment.tree := if_neg bound
    have goal : b.accept? = some := by
      funext t
      rw [accept?, Bool.eq_false_iff.2 bound]
      rfl
    rw [pattern, own, meant, Option.getD_some, ← Pattern.seek_some, goal]

theorem exists_means {flags : Flags} {p : Pattern} (meant : b.own.meaning? flags = some p) :
    ∃ piece, b.fragment.tree.Means flags piece := by
  obtain ⟨⟨whole, after⟩, found, -⟩ := Option.map_eq_some_iff.1 meant
  by_cases bound : b.wordBound = true
  · rw [own, if_pos bound] at found
    obtain ⟨⟨first, between⟩, grouped, -⟩ := Option.bind_eq_some_iff.1 found
    obtain ⟨⟨inner, behind⟩, bodyMeant, -⟩ := Option.bind_eq_some_iff.1 grouped
    exact ⟨inner, behind, bodyMeant⟩
  · rw [own, if_neg bound] at found
    exact ⟨whole, after, found⟩

theorem exists_meaning?_own {piece : Piece} (means : b.fragment.tree.Means .multiLineCrlf piece) :
    b.own.meaning? .multiLineCrlf = some (b.pattern .multiLineCrlf) := by
  have some_meaning : ∃ p, b.own.meaning? .multiLineCrlf = some p := by
    by_cases bound : b.wordBound = true
    · exact ⟨_, b.meaning?_own_of_wordBound bound means.meaning?⟩
    · have own : b.own = b.fragment.tree := if_neg bound
      exact ⟨_, own ▸ means.meaning?⟩
  obtain ⟨p, meant⟩ := some_meaning
  rw [pattern, meant]
  rfl

theorem ownLexemes_sublist {f : Fragment} (part : f.lexemes.Sublist b.fragment.lexemes) :
    (Branch.mk b.wordBound f).ownLexemes.Sublist b.ownLexemes := by
  obtain ⟨wordBound, fragment⟩ := b
  cases wordBound with
  | false => exact part
  | true => exact (part.append_right _).cons_cons _

theorem depth_own_mono {f : Fragment} (shallower : f.tree.depth ≤ b.fragment.tree.depth) :
    (Branch.mk b.wordBound f).own.depth ≤ b.own.depth := by
  obtain ⟨wordBound, fragment⟩ := b
  cases wordBound with
  | false => exact shallower
  | true =>
      have deeper : f.tree.depth ≤ fragment.tree.depth := shallower
      simp only [own, if_true, Tree.depth]
      omega

end Branch

/-! ## Variants by their fragments -/

namespace Alternative

def withSource (a : Alternative σ) (source : Source) : Alternative σ := { a with source := source }

variable {a : Alternative σ} {b : Branch}

theorem text?_eq (written : a.source.fragment? = some b.fragment.text)
    (bound : b.wordBound = a.rule.options.wordBound) : a.text? = some b.ownText := by
  rw [text?, written, ← bound]
  rfl

/-- A variant that means something by itself means what its branch does, which has groups of different
names and is not nested too deep. -/
theorem own_of_pattern? (written : a.source.fragment? = some b.fragment.text)
    (bound : b.wordBound = a.rule.options.wordBound) (clean : ¬ Reading.EndsInComment b.fragment.text)
    {p : Pattern} (means : a.pattern? = some p) : (Tree.groupNames b.ownLexemes).Nodup ∧
      b.own.depth ≤ Tree.deepest ∧ b.own.meaning? .multiLineCrlf = some p := by
  rw [pattern?, text?_eq written bound, Option.bind_some] at means
  obtain ⟨tree, read, meant⟩ := Option.bind_eq_some_iff.1 means
  obtain ⟨⟨text, ls, tree', lexed, built⟩, rfl, rfl, distinct, shallow⟩ := Fragment.of_read? read
  obtain rfl := Option.some.inj (lexed.symm.trans (b.lexemes?_ownText clean))
  obtain rfl := Option.some.inj (built.symm.trans b.ofLexemes?_own)
  exact ⟨distinct, shallow, meant⟩

theorem pattern?_eq (written : a.source.fragment? = some b.fragment.text)
    (bound : b.wordBound = a.rule.options.wordBound) (clean : ¬ Reading.EndsInComment b.fragment.text)
    (distinct : (Tree.groupNames b.ownLexemes).Nodup) (shallow : b.own.depth ≤ Tree.deepest)
    {piece : Piece} (means : b.fragment.tree.Means .multiLineCrlf piece) :
    a.pattern? = some (b.pattern .multiLineCrlf) := by
  rw [pattern?, text?_eq written bound, Option.bind_some]
  exact Branch.read?_own clean distinct shallow (b.exists_meaning?_own means)

theorem extent_report? (pattern : a.pattern? = some (b.pattern .multiLineCrlf)) {piece : Piece}
    (means : b.fragment.tree.Means .multiLineCrlf piece) (s : Spot) :
    (a.report? s).map (·.extent) = (piece.pattern.seek b.accept? s).map (Extent.mk s) := by
  rw [← b.seek_pattern means.meaning? s, report?, pattern, Option.bind_some, Option.map_map,
    Option.map_map]
  rfl

theorem extent_report?_congr (a : Alternative σ) {a' : Alternative σ} (source : a'.source = a.source)
    (bound : a'.rule.options.wordBound = a.rule.options.wordBound) (s : Spot) :
    (a'.report? s).map (·.extent) = (a.report? s).map (·.extent) := by
  have pattern : a'.pattern? = a.pattern? := by
    rw [pattern?, pattern?, text?, text?, source, bound]
  rw [report?, report?, pattern]
  cases a.pattern? with
  | none => rfl
  | some p =>
      rw [Option.bind_some, Option.bind_some, Option.map_map, Option.map_map]
      rfl

end Alternative

/-! ## Alternatives -/

namespace Source

def piece? (source : Source) : Option Piece :=
  ((source.fragment?.bind Tree.read?).bind (Tree.piece? ⟨.multiLineCrlf, 1⟩)).map (·.1)

/-- What the branches of a source begin with in common, if they do, can be matched at a place in one
way at most. -/
def SharesOneWay (source : Source) (s : Spot) : Prop :=
  ∀ piece ∈ source.piece?, piece.SharesOneWay s

instance (source : Source) (s : Spot) : Decidable (source.SharesOneWay s) :=
  inferInstanceAs (Decidable (∀ piece ∈ source.piece?, piece.SharesOneWay s))

/-- What is written behind a source is read as it is by itself: the source leaves no comment open,
and all flags as they are. -/
def LeavesFlags (source : Source) : Prop :=
  ∃ text ∈ source.fragment?, ¬ EndsInComment text ∧ ∃ ls ∈ lexemes? text,
    (Verbosity.behind? ⟨false, []⟩ ls).map (·.here) = some false ∧ ∃ tree ∈ Tree.ofLexemes? ls,
      tree.flagsBehind .multiLineCrlf = .multiLineCrlf

instance (source : Source) : Decidable source.LeavesFlags :=
  inferInstanceAs (Decidable (∃ text ∈ source.fragment?, ¬ EndsInComment text ∧
    ∃ ls ∈ lexemes? text, (Verbosity.behind? ⟨false, []⟩ ls).map (·.here) = some false ∧
      ∃ tree ∈ Tree.ofLexemes? ls, tree.flagsBehind .multiLineCrlf = .multiLineCrlf))

structure Spelled (source : Source) (f : Fragment) : Prop where
  written : source.fragment? = some f.text
  read : Tree.read? f.text = some f.tree

theorem valid_of_isSome {source : Source}
    (reads : (source.fragment?.bind (Pattern.read? .standard)).isSome) : source.Valid := by
  obtain ⟨pattern, found⟩ := Option.isSome_iff_exists.1 reads
  obtain ⟨text, written, read⟩ := Option.bind_eq_some_iff.1 found
  exact ⟨text, pattern, written, read⟩

theorem Valid.exists_spelled {source : Source} (valid : source.Valid) :
    ∃ f, source.Spelled f := by
  obtain ⟨text, pattern, written, read⟩ := valid
  obtain ⟨tree, treeRead, -⟩ := Option.bind_eq_some_iff.1 read
  obtain ⟨f, rfl, rfl, -, -⟩ := Fragment.of_read? treeRead
  exact ⟨f, written, treeRead⟩

theorem exists_spelled {sources : List Source} (valid : ∀ source ∈ sources, source.Valid) :
    ∃ fs, List.Forall₂ Spelled sources fs := by
  induction sources with
  | nil => exact ⟨[], .nil⟩
  | cons source sources ih =>
      rw [List.forall_mem_cons] at valid
      obtain ⟨f, first⟩ := valid.1.exists_spelled
      obtain ⟨fs, rest⟩ := ih valid.2
      exact ⟨f :: fs, .cons first rest⟩

theorem fragments?_of_spelled {sources : List Source} {fs : List Fragment}
    (spelled : List.Forall₂ Spelled sources fs) :
    fragments? sources = some (fs.map (·.text)) := by
  induction spelled with
  | nil => rfl
  | cons first _ ih => rw [fragments?, first.written, ih, List.map_cons]

theorem LeavesFlags.of_spelled {source : Source} {f : Fragment} (leaves : source.LeavesFlags)
    (spelled : source.Spelled f) :
    f.Quiet ∧ f.tree.flagsBehind .multiLineCrlf = .multiLineCrlf := by
  obtain ⟨text, written, clean, ls, lexed, plain, tree, built, steady⟩ := leaves
  obtain rfl := Option.some.inj (written.symm.trans spelled.written)
  obtain rfl := Option.some.inj (lexed.symm.trans f.lexed)
  obtain rfl := Option.some.inj (built.symm.trans f.built)
  exact ⟨⟨clean, plain⟩, steady⟩

theorem Spelled.piece?_eq {source : Source} {f : Fragment} (spelled : source.Spelled f)
    {piece : Piece} (means : f.tree.Means .multiLineCrlf piece) : source.piece? = some piece := by
  obtain ⟨behind, meant⟩ := means
  rw [piece?, spelled.written, Option.bind_some, spelled.read, Option.bind_some, meant]
  rfl

end Source

theorem forall_dropLast_of_forall₂ {α β : Type} {r : α → β → Prop} {p : α → Prop} {q : β → Prop}
    {xs : List α} {ys : List β} (each : List.Forall₂ r xs ys)
    (carries : ∀ x y, r x y → p x → q y) (holds : ∀ x ∈ xs.dropLast, p x) :
    ∀ y ∈ ys.dropLast, q y := by
  induction each with
  | nil => exact nofun
  | @cons x y xs ys first rest ih =>
      cases rest with
      | nil => exact nofun
      | cons second rest =>
          rw [List.dropLast_cons_cons, List.forall_mem_cons] at holds ⊢
          exact ⟨carries x y first holds.1, ih holds.2⟩

theorem forall₂_compose {α β γ : Type} {r : α → β → Prop} {q : β → γ → Prop} {t : α → γ → Prop}
    {xs : List α} {ys : List β} {zs : List γ} (first : List.Forall₂ r xs ys)
    (second : List.Forall₂ q ys zs) (both : ∀ x z, ∀ y ∈ ys, r x y → q y z → t x z) :
    List.Forall₂ t xs zs := by
  induction first generalizing zs with
  | nil =>
      cases second
      exact .nil
  | cons head _ ih =>
      cases second with
      | cons head' tail' =>
          refine .cons (both _ _ _ List.mem_cons_self head head') (ih tail' fun x z y member => ?_)
          exact both x z y (List.mem_cons_of_mem _ member)

/-- An alternative of a choice by itself, with what it means. -/
structure Alternative.ByItself (a : Alternative σ) (accept? : Spot → Option Spot) (source : Source)
    (piece : Piece) : Prop where
  piece_eq : source.piece? = some piece
  up : piece.Ordered
  means : (a.withSource source).pattern?.isSome
  extent : ∀ s, ((a.withSource source).report? s).map (·.extent) =
    (piece.pattern.seek accept? s).map (Extent.mk s)

theorem Alternative.ByItself.of_spelled {a : Alternative σ} {b : Branch} {source : Source}
    {piece : Piece} (spelled : source.Spelled b.fragment)
    (means : b.fragment.tree.Means .multiLineCrlf piece)
    (pattern : (a.withSource source).pattern? = some (b.pattern .multiLineCrlf)) :
    a.ByItself b.accept? source piece := by
  refine ⟨spelled.piece?_eq means, ?_, ?_, extent_report? pattern means⟩
  · obtain ⟨behind, meant⟩ := means
    exact Tree.ordered_piece? meant
  · rw [pattern]
    rfl

section Alternatives

variable {a : Alternative σ} {b : Branch} {sources : List Source}
  (whole : a.source.Spelled b.fragment) (bound : b.wordBound = a.rule.options.wordBound)
  (clean : ¬ Reading.EndsInComment b.fragment.text)
  (means : a.pattern? = some (b.pattern .multiLineCrlf)) (choice : a.source = .oneOf sources)
  (valid : ∀ source ∈ sources, source.Valid)
  (steady : ∀ source ∈ sources.dropLast, source.LeavesFlags)

include whole choice in
theorem fragment_of_oneOf {fs : List Fragment} (spelled : List.Forall₂ Source.Spelled sources fs) :
    fs ≠ [] ∧ ∀ joint : Fragment, joint.text = joinBars (fs.map (·.text)) → b.fragment = joint := by
  have written := whole.written
  rw [choice] at written
  cases spelled with
  | nil => cases written
  | cons first rest =>
      rw [Source.fragment?, Source.fragments?_of_spelled (.cons first rest)] at written
      refine ⟨List.cons_ne_nil _ _, fun joint text => ?_⟩
      exact b.fragment.ext_of_text ((Option.some.inj written).symm.trans text.symm)

include whole choice valid steady in
theorem exists_parts : ∃ fs, List.Forall₂ Source.Spelled sources fs ∧ fs ≠ [] ∧
    b.fragment.tree = Tree.anyOf (fs.map (·.tree)) ∧
    (∀ f ∈ fs, f.lexemes.Sublist b.fragment.lexemes) ∧
    (∀ f ∈ fs, Reading.EndsInComment f.text → Reading.EndsInComment b.fragment.text) ∧
    ∀ f ∈ fs.dropLast, f.tree.flagsBehind .multiLineCrlf = .multiLineCrlf := by
  obtain ⟨fs, spelled⟩ := Source.exists_spelled valid
  have quiet : ∀ f ∈ fs.dropLast, f.Quiet ∧ f.tree.flagsBehind .multiLineCrlf = .multiLineCrlf :=
    forall_dropLast_of_forall₂ spelled (fun _ _ one leaves => leaves.of_spelled one) steady
  obtain ⟨some_fragment, joints⟩ := fragment_of_oneOf whole choice spelled
  obtain ⟨joint, text, tree, sublists, comments, -⟩ :=
    Fragment.exists_anyOf some_fragment fun f member => (quiet f member).1
  obtain rfl := joints joint text
  exact ⟨fs, spelled, some_fragment, tree, sublists, comments, fun f member => (quiet f member).2⟩

include whole bound clean means choice valid steady in
/-- Each alternative of a choice means something by itself, and the branches of the choice are those
of its alternatives, one alternative after the other. -/
theorem exists_alternatives : ∃ piece pieces, a.ByItself b.accept? a.source piece ∧
    List.Forall₂ (a.ByItself b.accept?) sources pieces ∧
    ∀ s, piece.asBranches.findSome? (fun p => p.seek b.accept? s) =
      pieces.findSome? fun own => own.asBranches.findSome? fun p => p.seek b.accept? s := by
  obtain ⟨distinct, shallow, meant⟩ :=
    Alternative.own_of_pattern? whole.written bound clean means
  obtain ⟨piece, behind, wholeMeant⟩ := b.exists_means meant
  obtain ⟨fs, spelled, some_fragment, tree, sublists, comments, quiet⟩ :=
    exists_parts whole choice valid steady
  have flags : ∀ t ∈ (fs.map (·.tree)).dropLast, t.flagsBehind .multiLineCrlf = .multiLineCrlf := by
    rw [← List.map_dropLast, List.forall_mem_map]
    exact quiet
  have joined : (Tree.anyOf (fs.map (·.tree))).piece? ⟨.multiLineCrlf, 1 + 0⟩ =
      some (piece, behind) := tree ▸ wholeMeant
  obtain ⟨pieces, each, tried⟩ :=
    Tree.exists_pieces (fun none => some_fragment (List.map_eq_nil_iff.1 none)) flags joined
  refine ⟨piece, pieces, .of_spelled whole ⟨behind, wholeMeant⟩ means, ?_, tried b.accept?⟩
  refine forall₂_compose spelled (List.forall₂_map_left_iff.1 each) ?_
  intro source own f member one ownMeans
  have pattern : (a.withSource source).pattern? =
      some ((Branch.mk b.wordBound f).pattern .multiLineCrlf) := by
    apply Alternative.pattern?_eq (a := a.withSource source) (b := ⟨b.wordBound, f⟩) one.written bound
    · exact fun comment => clean (comments f member comment)
    · exact distinct.sublist ((b.ownLexemes_sublist (sublists f member)).filterMap _)
    · refine (b.depth_own_mono ?_).trans shallow
      rw [tree]
      exact Tree.depth_le_anyOf (List.mem_map_of_mem member)
    · exact ownMeans
  exact Alternative.ByItself.of_spelled (b := ⟨b.wordBound, f⟩) one ownMeans pattern

include whole bound clean means choice valid steady in
/-- Each alternative of a choice compiles as a rule of its own, if the numbers of the groups of the
choice have no gaps and a wrapper around it can be read. -/
theorem exists_compile_alternative (dense : b.fragment.tree.Dense)
    (shallow : b.tree.depth ≤ Tree.deepest) {resolve : String → Option Nat} {j : Jump}
    (found : CompiledMode.jump resolve a.rule = .ok j) (name : String) {source : Source}
    (member : source ∈ sources) :
    ∃ own, CompiledMode.compile name [a.rule.only source] resolve = .ok own := by
  obtain ⟨-, pieces, -, apart, -⟩ :=
    exists_alternatives whole bound clean means choice valid steady
  obtain ⟨piece, -, byItself⟩ := exists_of_forall₂_left apart member
  obtain ⟨p, pattern⟩ := Option.isSome_iff_exists.1 byItself.means
  obtain ⟨fs, spelled, -, tree, -, comments, -⟩ := exists_parts whole choice valid steady
  obtain ⟨f, inFs, one⟩ := exists_of_forall₂_left spelled member
  have inTrees : f.tree ∈ fs.map (·.tree) := List.mem_map_of_mem inFs
  have unended : ¬ Reading.EndsInComment f.text := fun comment => clean (comments f inFs comment)
  let own : Branch := ⟨b.wordBound, f⟩
  obtain ⟨distinct, -, meant⟩ := Alternative.own_of_pattern? (a := a.withSource source) (b := own)
    one.written bound unended pattern
  have lexemes : Tree.groupNames own.lexemes = Tree.groupNames own.ownLexemes := by
    rw [own.lexemes_eq]
    simp [Tree.groupNames]
  have shallower : own.tree.depth ≤ b.tree.depth := by
    refine Nat.succ_le_succ (b.depth_own_mono ?_)
    rw [tree]
    exact Tree.depth_le_anyOf inTrees
  refine CompiledMode.exists_compile_only (b := own) one.written bound (valid source member) unended
    (lexemes ▸ distinct) (shallower.trans shallow) ?_ ?_ found name
  · rw [meant]
    rfl
  · exact Tree.Dense.of_anyOf (tree ▸ dense) f.tree inTrees

include whole bound clean means choice valid steady in
/-- A choice matches what the first of its alternatives matches that matches by itself. -/
theorem extent_report?_oneOf {s : Spot} (oneWay : a.source.SharesOneWay s)
    (each : ∀ source ∈ sources, source.SharesOneWay s) : (a.report? s).map (·.extent) =
      sources.findSome? fun source => ((a.withSource source).report? s).map (·.extent) := by
  obtain ⟨piece, pieces, joint, apart, tried⟩ :=
    exists_alternatives whole bound clean means choice valid steady
  have own : (a.report? s).map (·.extent) = (pieces.findSome? fun own =>
      own.asBranches.findSome? fun p => p.seek b.accept? s).map (Extent.mk s) := by
    rw [← tried, ← Piece.seek_pattern b.accept? s joint.up (oneWay piece joint.piece_eq)]
    exact joint.extent s
  rw [own]
  clear own tried joint choice valid steady
  induction apart with
  | nil => rfl
  | @cons source piece' sources pieces first _ ih =>
      rw [List.forall_mem_cons] at each
      rw [List.findSome?_cons, List.findSome?_cons, first.extent, ← ih each.2,
        ← Piece.seek_pattern b.accept? s first.up (each.1 piece' first.piece_eq)]
      cases piece'.pattern.seek b.accept? s <;> rfl

end Alternatives

/-! ## Literal alternatives -/

theorem Literal.pattern_singleton (text : List Char) : pattern [text] = charPattern text := by
  cases text <;> rfl

theorem Literal.seek_charPattern {α : Type} (goal : Spot → Option α) (s : Spot) (text : List Char) :
    (charPattern text).seek goal s = (s.skip? text).bind goal := by
  cases text with
  | nil => exact Pattern.seek_nothing goal s
  | cons c text => exact Pattern.seek_literal goal s (c :: text)

theorem Source.pattern_of_literal {text : String} {piece : Piece}
    (means : (literal text).piece? = some piece) :
    piece.pattern = Literal.charPattern text.toList := by
  obtain ⟨⟨own, behind⟩, found, rfl⟩ := Option.map_eq_some_iff.1 means
  obtain ⟨tree, read, meant⟩ := Option.bind_eq_some_iff.1 found
  have some_text : [text.toList] ≠ [] := List.cons_ne_nil _ _
  obtain ⟨⟨written, ls, tree', lexed, built⟩, same, rfl, -, -⟩ := Fragment.of_read? read
  obtain rfl : Literal.written [text.toList] = written := same.symm
  obtain rfl := Option.some.inj (lexed.symm.trans (Literal.lexemes?_written some_text))
  obtain rfl := Option.some.inj (built.symm.trans (Literal.ofLexemes?_lexemes some_text))
  have meaning : (Literal.tree [text.toList]).meaning? .multiLineCrlf = some own.pattern :=
    Tree.Means.meaning? ⟨behind, meant⟩
  rw [Literal.meaning?_tree rfl some_text, Literal.pattern_singleton] at meaning
  exact (Option.some.inj meaning).symm

/-- A literal alternative matches its text, where a match may end behind it, and nothing else. -/
theorem Alternative.ByItself.extent_literal {a : Alternative σ} {b : Branch} {text : String}
    {piece : Piece} (bound : b.wordBound = a.rule.options.wordBound)
    (own : a.ByItself b.accept? (.literal text) piece) (s : Spot) :
    ((a.withSource (.literal text)).report? s).map (·.extent) =
      ((s.skip? text.toList).filter a.fits).map (Extent.mk s) := by
  have goal (t : Spot) : b.accept? t = if a.fits t then some t else none := by
    rw [Branch.accept?, bound, fits]
  rw [own.extent, Source.pattern_of_literal own.piece_eq, Literal.seek_charPattern]
  cases s.skip? text.toList with
  | none => rfl
  | some t =>
      rw [Option.bind_some, goal, Option.filter_some]

/-! ## Modes with a choice -/

def Report.key (report : Report) : String × Nat := (report.kind, report.variant)

theorem Row.spelled (r : Row σ) : r.alternative.source.Spelled r.fragment := by
  obtain ⟨tree, read, -⟩ := Option.bind_eq_some_iff.1 r.read
  obtain ⟨f, text, rfl, -, -⟩ := Fragment.of_read? read
  obtain rfl := f.ext_of_text text
  exact ⟨r.source_eq, read⟩

section Reports

variable {mode : CompiledMode σ} {rules : List (Rule σ)} {before rows after : List (Row σ)}
  {r : Row σ} {s : Spot} (separate : Separate mode rules rows) (order : rows = before ++ r :: after)
  (unmatched : ∀ b ∈ before, (b.branch.pattern .multiLineCrlf).first? s = none)

include separate order unmatched

/-- If no variant up to one matches, then the mode reports one behind it, if any. -/
theorem Separate.key_of_report? (none : (r.branch.pattern .multiLineCrlf).first? s = none)
    {report : Report} (found : mode.report? s = some report) :
    ∃ b ∈ after, b.alternative.key = report.key := by
  obtain ⟨path, first, found⟩ := Option.bind_eq_some_iff.1 found
  obtain ⟨d, dispatched, rfl⟩ := Option.map_eq_some_iff.1 found
  have earlier : ∀ b ∈ before ++ [r], (b.branch.pattern .multiLineCrlf).first? s = Option.none :=
    List.forall_mem_append.2 ⟨unmatched, List.forall_mem_singleton.2 none⟩
  cases matched : rows.findSome? fun r => (r.branch.pattern .multiLineCrlf).first? s with
  | none =>
      rw [separate.first?_eq_none (List.findSome?_eq_none_iff.1 matched)] at first
      cases first
  | some own =>
      obtain ⟨before', r', after', order', found', unmatched'⟩ :=
        List.findSome?_eq_some_iff.1 matched
      -- The variant that matches is not among those up to the one that does not.
      obtain ⟨mid, rfl, behind⟩ : ∃ mid, before' = (before ++ [r]) ++ mid ∧
          after = mid ++ r' :: after' := by
        have same : (before ++ [r]) ++ after = before' ++ r' :: after' := by
          rw [List.append_assoc, ← order', order]
          rfl
        rcases List.append_eq_append_iff.1 same with ⟨mid, front, back⟩ | ⟨mid, front, back⟩
        · exact ⟨mid, front, back⟩
        · cases mid with
          | nil => exact ⟨[], by simpa using front.symm, by simpa using back.symm⟩
          | cons c mid =>
              obtain ⟨rfl, -⟩ := List.cons.inj back
              have inFront : r' ∈ before ++ [r] := front ▸ List.mem_append_right _ List.mem_cons_self
              rw [earlier r' inFront] at found'
              cases found'
      rw [separate.first?_eq order' unmatched' found'] at first
      obtain rfl := Option.some.inj first
      rw [dispatch?_wrapMatch separate.toCompiled order' own] at dispatched
      split at dispatched
      · obtain rfl := Option.some.inj dispatched
        refine ⟨r', behind ▸ List.mem_append_right _ List.mem_cons_self, ?_⟩
        exact Prod.ext r'.kind_eq.symm rfl
      · obtain ⟨t, member, hit⟩ := List.exists_of_findSome?_eq_some dispatched
        obtain ⟨extent, -, rfl⟩ := Option.map_eq_some_iff.1 hit
        obtain ⟨⟨b, inAfter, entry, variant⟩, -⟩ := mem_slotted member
        refine ⟨b, behind ▸ List.mem_append_right _ (List.mem_cons_of_mem _ inAfter), ?_⟩
        refine Prod.ext ?_ variant.symm
        exact b.kind_eq.symm.trans (congrArg Entry.kind entry.symm)

/-- If no variant before one matches, and all of them keep their groups, then the mode reports that
one just where it matches by itself. -/
theorem Separate.extent_report? (kept : ∀ b ∈ before, b.alternative.KeepsGroups) :
    ((mode.report? s).filter fun report => report.key = r.alternative.key).map (·.extent) =
      (r.alternative.report? s).map (·.extent) := by
  have member : r ∈ rows := order ▸ List.mem_append_right _ List.mem_cons_self
  rw [separate.report?_eq member]
  cases found : (r.branch.pattern .multiLineCrlf).first? s with
  | some path =>
      have key : (r.reportOf s path).key = r.alternative.key := rfl
      rw [(separate.report?_of_first order unmatched found).2 kept, Option.filter_some, key,
        if_pos (decide_eq_true rfl)]
      rfl
  | none =>
      refine Option.map_eq_none_iff.2 (Option.filter_eq_none_iff.2 fun report reported same => ?_)
      obtain ⟨b, inAfter, key⟩ := separate.key_of_report? order unmatched found reported
      have distinct := separate.distinct
      rw [← separate.alternatives_eq, List.map_map, order, List.map_append, List.map_cons,
        List.nodup_append, List.nodup_cons] at distinct
      refine distinct.2.1.1 (List.mem_map.2 ⟨b, inAfter, ?_⟩)
      exact key.trans (of_decide_eq_true same)

end Reports

theorem extent_report?_only {name : String} {resolve : String → Option Nat} {rule : Rule σ}
    {source : Source} {own : CompiledMode σ}
    (ok : CompiledMode.compile name [rule.only source] resolve = .ok own) (s : Spot) :
    (own.report? s).map (·.extent) =
      ((Alternative.mk (rule.only source) 0 source).report? s).map (·.extent) := by
  have nothing {p : Row σ → Prop} : ∀ b ∈ [], p b := fun b member => absurd member List.not_mem_nil
  obtain ⟨rows, compiled⟩ := compile_rows ok
  obtain ⟨r, rfl⟩ : ∃ r, rows = [r] := by
    have single := congrArg List.length compiled.alternatives_eq
    rw [List.length_map] at single
    exact List.length_eq_one_iff.1 single
  have separate := compiled.separate nothing
  have alternative : r.alternative = ⟨rule.only source, 0, source⟩ :=
    List.head_eq_of_cons_eq compiled.alternatives_eq
  rw [← alternative, separate.report?_eq List.mem_cons_self]
  cases found : (r.branch.pattern .multiLineCrlf).first? s with
  | none =>
      rw [(separate.report?_of_none (List.forall_mem_singleton.2 found)).1]
      rfl
  | some path =>
      have order : [r] = [] ++ r :: [] := rfl
      rw [(separate.report?_of_first order nothing found).2 nothing]
      rfl

/-- A rule of a mode that compiles is a choice of sources that are patterns by themselves.  No variant
of the mode but perhaps the last ends in a comment, and no alternative but perhaps the last changes
how the ones behind it are read.

Then each alternative compiles as a rule of its own, and matches as it does by itself.  Wherever what
the branches begin with in common can be matched in one way at most, the choice matches what the first
of its alternatives matches that matches there by itself.  If no variant before the choice matches, and
all of them keep their groups, this is what the mode reports.  A literal alternative matches its text
and nothing else. -/
theorem compile_oneOf {name : String} {rules : List (Rule σ)} {resolve : String → Option Nat}
    {mode : CompiledMode σ} (ok : CompiledMode.compile name rules resolve = .ok mode)
    (clean : ∀ b ∈ (alternatives rules).dropLast, ¬ b.EndsInComment)
    {before after : List (Alternative σ)} {a : Alternative σ}
    (order : alternatives rules = before ++ a :: after) {sources : List Source}
    (choice : a.source = .oneOf sources) (valid : ∀ source ∈ sources, source.Valid)
    (steady : ∀ source ∈ sources.dropLast, source.LeavesFlags) :
    (∀ source ∈ sources, ∃ own,
      CompiledMode.compile name [a.rule.only source] resolve = .ok own ∧ ∀ s,
        (own.report? s).map (·.extent) = ((a.withSource source).report? s).map (·.extent)) ∧
    (∀ s, a.source.SharesOneWay s → (∀ source ∈ sources, source.SharesOneWay s) →
      (a.report? s).map (·.extent) =
        sources.findSome? fun source => ((a.withSource source).report? s).map (·.extent)) ∧
    (∀ s, (∀ b ∈ before, b.report? s = none ∧ b.KeepsGroups) →
      ((mode.report? s).filter fun report => report.key = a.key).map (·.extent) =
        (a.report? s).map (·.extent)) ∧
    ∀ text, .literal text ∈ sources → ∀ s,
      ((a.withSource (.literal text)).report? s).map (·.extent) =
        ((s.skip? text.toList).filter a.fits).map (Extent.mk s) := by
  obtain ⟨rows, compiled⟩ := compile_rows ok
  have separate := compiled.separate fun r member => by
    have variant : r.alternative ∈ (alternatives rules).dropLast := by
      rw [← compiled.alternatives_eq, ← List.map_dropLast]
      exact List.mem_map_of_mem member
    exact fun comment => clean _ variant ⟨r.fragment.text, r.source_eq, comment⟩
  rw [← compiled.alternatives_eq, List.map_eq_append_iff] at order
  obtain ⟨front, back, rowOrder, frontEq, backEq⟩ := order
  obtain ⟨r, behind, rfl, rfl, rfl⟩ := List.map_eq_cons_iff.1 backEq
  subst frontEq
  have member : r ∈ rows := rowOrder ▸ List.mem_append_right _ List.mem_cons_self
  have own := separate.means r member
  have unended := separate.clean r member
  obtain ⟨piece, pieces, joint, apart, tried⟩ :=
    exists_alternatives r.spelled rfl unended own choice valid steady
  refine ⟨?_, ?_, ?_, ?_⟩
  · intro source inChoice
    have inside : r.alternative ∈ alternatives rules := by
      rw [← separate.alternatives_eq]
      exact List.mem_map_of_mem member
    -- The mode that the rule leads to was found for the whole table, so it is found for the rule alone.
    obtain ⟨j, found⟩ := CompiledMode.exists_jump ok (rule_mem_of_alternative inside)
    have shallow := (Branch.depth_tree_le (List.mem_map_of_mem member)).trans separate.joined.1
    obtain ⟨own, compiles⟩ := exists_compile_alternative r.spelled rfl unended own choice valid
      steady (separate.dense ok r member) shallow found name inChoice
    refine ⟨own, compiles, fun s => ?_⟩
    have same : (Alternative.mk (r.alternative.rule.only source) 0 source).source =
        (r.alternative.withSource source).source := rfl
    rw [extent_report?_only compiles s]
    exact Alternative.extent_report?_congr _ same rfl s
  · exact fun s => extent_report?_oneOf r.spelled rfl unended own choice valid steady
  · intro s passed
    refine separate.extent_report? rowOrder (fun b inFront => ?_) fun b inFront =>
      (passed _ (List.mem_map_of_mem inFront)).2
    have silent := (passed _ (List.mem_map_of_mem inFront)).1
    rw [separate.report?_eq (rowOrder ▸ List.mem_append_left _ inFront)] at silent
    exact Option.map_eq_none_iff.1 silent
  · intro text inChoice s
    obtain ⟨own, -, byItself⟩ := exists_of_forall₂_left apart inChoice
    exact byItself.extent_literal rfl s

def choiceRules : List (Rule Unit) :=
  [.regex "space" " +", .ofSource "item" (.oneOf [.regex "[0-9]+(?:x|y)", .regex "(?i-u:if)",
    .literal "+"])]

theorem choiceRules_oneOf : ∃ mode a before sources,
    CompiledMode.compile "main" choiceRules (fun _ => none) = .ok mode ∧
    alternatives choiceRules = before ++ [a] ∧ a.source = .oneOf sources ∧
    ((mode.report? (.start "IF+".toList)).filter fun report => report.key = a.key).map (·.extent) =
      sources.findSome? fun source =>
        ((a.withSource source).report? (.start "IF+".toList)).map (·.extent) := by
  obtain ⟨mode, ok, -⟩ := exists_of_any (p := fun _ => true)
    (x := CompiledMode.compile "main" choiceRules fun _ => none) (by decide)
  let sources : List Source := [.regex "[0-9]+(?:x|y)", .regex "(?i-u:if)", .literal "+"]
  have order : alternatives choiceRules = [⟨.regex "space" " +", 0, .regex " +"⟩] ++
      ⟨.ofSource "item" (.oneOf sources), 0, .oneOf sources⟩ :: [] := rfl
  have valid : ∀ source ∈ sources, source.Valid := fun source member =>
    Source.valid_of_isSome ((by decide : ∀ source ∈ sources,
      (source.fragment?.bind (Pattern.read? .standard)).isSome) source member)
  obtain ⟨-, first, reported, -⟩ :=
    compile_oneOf ok (by decide) order rfl valid (by decide)
  refine ⟨mode, _, _, sources, ok, order, rfl, ?_⟩
  rw [← first (.start "IF+".toList) (by decide) (by decide)]
  exact reported (.start "IF+".toList) (by decide)

def caselessSources : List Source := [.regex "(?i-u)a", .literal "b"]

def caselessRules : List (Rule Unit) := [.ofSource "t" (.oneOf caselessSources)]

/-- The choice matches where none of its alternatives does. -/
theorem caselessRules_oneOf : ∃ mode : CompiledMode Unit,
    CompiledMode.compile "main" caselessRules (fun _ => none) = .ok mode ∧
    (mode.report? (.start ['B'])).map (·.extent.text) = some ['B'] ∧
    ∀ source ∈ caselessSources, source.Valid ∧ ∃ own : CompiledMode Unit,
      CompiledMode.compile "main" [.ofSource "t" source] (fun _ => none) = .ok own ∧
      own.report? (.start ['B']) = none := by
  obtain ⟨mode, ok, matched⟩ := exists_of_any
    (p := fun mode => (mode.report? (.start ['B'])).map (·.extent.text) = some ['B'])
    (x := CompiledMode.compile "main" caselessRules fun _ => none) (by decide)
  refine ⟨mode, ok, of_decide_eq_true matched, ?_⟩
  have valid : ∀ source ∈ caselessSources,
      (source.fragment?.bind (Pattern.read? .standard)).isSome := by decide
  have unmatched : ∀ source ∈ caselessSources,
      (CompiledMode.compile (σ := Unit) "main" [.ofSource "t" source] fun _ => none).toOption.any
        (fun own => (own.report? (.start ['B'])).isNone) = true := by decide
  intro source member
  obtain ⟨own, compiles, silent⟩ := exists_of_any (unmatched source member)
  exact ⟨Source.valid_of_isSome (valid source member), own, compiles,
    Option.isNone_iff_eq_none.1 silent⟩

end ModalLexer

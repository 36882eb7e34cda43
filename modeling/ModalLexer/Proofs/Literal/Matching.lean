import ModalLexer.Proofs.Literal.Meaning
import ModalLexer.Proofs.Pattern.Reach

/-! # Matching texts

The choice of some texts tries them in order: of the places where they end, the first that fits is
the one found, whatever fitting depends on (`Literal.tries_pattern`). -/
set_option autoImplicit false
namespace ModalLexer

theorem BitSet.contains_insert (s : BitSet) (m n : Nat) :
    (s.insert m).contains n = (s.contains n || m == n) := by
  simp only [contains, insert, Nat.testBit_or, Nat.one_shiftLeft, Nat.testBit_two_pow]
  rfl

theorem find?_firstsFrom {fits : Path → Bool} {ps : List Path} {seen : BitSet}
    (agree : ∀ p ∈ ps, ∀ q ∈ ps, p.offset = q.offset → fits p = fits q)
    (unfit : ∀ p ∈ ps, seen.contains p.offset = true → fits p = false) :
    (firstsFrom seen ps).find? fits = ps.find? fits := by
  induction ps generalizing seen with
  | nil => rfl
  | cons p ps ih =>
      have later : ∀ q ∈ ps, ∀ r ∈ ps, q.offset = r.offset → fits q = fits r :=
        fun q inRest r inRest' => agree q (List.mem_cons_of_mem p inRest) r
          (List.mem_cons_of_mem p inRest')
      rw [firstsFrom]
      by_cases old : seen.contains p.offset = true
      · rw [if_pos old, List.find?_cons_of_neg (by simp [unfit p List.mem_cons_self old])]
        exact ih later fun q member => unfit q (List.mem_cons_of_mem p member)
      · rw [if_neg old]
        by_cases fit : fits p = true
        · rw [List.find?_cons_of_pos fit, List.find?_cons_of_pos fit]
        · rw [List.find?_cons_of_neg fit, List.find?_cons_of_neg fit]
          apply ih later
          intro q member again
          rw [BitSet.contains_insert, Bool.or_eq_true, beq_iff_eq] at again
          rcases again with old' | same
          · exact unfit q (List.mem_cons_of_mem p member) old'
          · rw [← agree p List.mem_cons_self q (List.mem_cons_of_mem p member) same]
            exact Bool.eq_false_iff.2 fit

/-- Of the paths that end at one place the first is enough, if what fits is told by the place. -/
theorem find?_firsts {fits : Path → Bool} {ps : List Path}
    (agree : ∀ p ∈ ps, ∀ q ∈ ps, p.offset = q.offset → fits p = fits q) :
    (firsts ps).find? fits = ps.find? fits := by
  match ps with
  | [] => rfl
  | [p] => rfl
  | p :: q :: rest =>
      refine find?_firstsFrom agree fun r _ old => ?_
      simp [BitSet.contains, BitSet.empty] at old

theorem Spot.eq_of_offset_eq {s t : Spot} (text : s.text = t.text) (offset : s.offset = t.offset) :
    s = t := by
  have first : at? t.text t.offset = some s := at?_eq_some_iff.2 ⟨text, offset⟩
  have second : at? t.text t.offset = some t := at?_eq_some_iff.2 ⟨rfl, rfl⟩
  exact Option.some.inj (first.symm.trans second)

theorem Interval.covers_point_iff {m n : Nat} : (Interval.mk m m).covers n = true ↔ n = m := by
  rw [covers_iff]
  dsimp only
  omega

namespace CharSet

theorem contains_ofChars (chars : List Char) (c : Char) :
    (ofChars chars).contains c = chars.contains c := by
  have up : ∀ i ∈ chars.map fun c => Interval.mk c.toNat c.toNat, i.lo ≤ i.hi := by
    intro i member
    obtain ⟨d, -, rfl⟩ := List.mem_map.1 member
    exact Nat.le_refl _
  have covered := (any_foldr_insertInterval c.toNat _ [] up nofun).1
  rw [ofChars, ofIntervals, contains, covered, List.any_nil, Bool.or_false, List.any_map,
    List.contains_eq_any_beq]
  refine List.any_congr rfl fun d => ?_
  rw [Bool.eq_iff_iff, Function.comp_apply, Interval.covers_point_iff, beq_iff_eq, Char.toNat_inj]

end CharSet

namespace Literal

/-- Where the first of some texts ends that comes next and ends in a place that fits. -/
def firstEnd? (fits : Spot → Bool) (s : Spot) (texts : List (List Char)) : Option Spot :=
  texts.findSome? fun text => (s.skip? text).filter fits

theorem firstEnd?_cons (fits : Spot → Bool) (s : Spot) (text : List Char)
    (texts : List (List Char)) : firstEnd? fits s (text :: texts) =
      ((s.skip? text).filter fits).or (firstEnd? fits s texts) := by
  rw [firstEnd?, List.findSome?_cons, firstEnd?]
  cases (s.skip? text).filter fits <;> rfl

/-- A pattern tries some texts in order, whatever fits behind them. -/
def Tries (pattern : Pattern) (texts : List (List Char)) : Prop :=
  ∀ (fits : Spot → Bool) (p : Path), p.passed = [] →
    (pattern.run none p).find? (fun q => fits q.spot) =
      (firstEnd? fits p.spot texts).map p.moveTo

theorem find?_toList (fits : Spot → Bool) (p : Path) (end? : Option Spot) :
    (end?.map p.moveTo).toList.find? (fun q => fits q.spot) = (end?.filter fits).map p.moveTo := by
  cases end? with
  | none => rfl
  | some s =>
      by_cases fit : fits s = true
      · simp [Path.moveTo, Option.filter, fit]
      · simp [Path.moveTo, Option.filter, fit]

theorem run_charPattern {p : Path} (fresh : p.passed = []) (text : List Char) :
    (charPattern text).run none p = ((p.spot.skip? text).map p.moveTo).toList := by
  cases text with
  | nil =>
      have still : p.moveTo p.spot = p := by
        rw [Path.moveTo, ← fresh]
      rw [charPattern, Pattern.run, Spot.skip?, Option.map_some, still, Option.toList_some]
  | cons c text => rfl

theorem tries_charPattern (text : List Char) : Tries (charPattern text) [text] := by
  intro fits p fresh
  rw [run_charPattern fresh, find?_toList, firstEnd?_cons, firstEnd?, List.findSome?_nil,
    Option.or_none]

theorem agree_of_goesOn {p q r : Path} (fits : Spot → Bool) (one : p.GoesOn q)
    (other : p.GoesOn r) (same : q.offset = r.offset) : fits q.spot = fits r.spot := by
  have texts : q.spot.text = r.spot.text :=
    one.place.leads.text_eq.trans other.place.leads.text_eq.symm
  rw [Spot.eq_of_offset_eq texts same]

theorem Tries.choice {first rest : Pattern} {text : List Char} {texts : List (List Char)}
    (one : Tries first [text]) (others : Tries rest texts) :
    Tries (.choice first rest) (text :: texts) := by
  intro fits p fresh
  have agree : ∀ q ∈ first.run none p ++ rest.run none p,
      ∀ r ∈ first.run none p ++ rest.run none p, q.offset = r.offset →
        fits q.spot = fits r.spot := by
    have onward : ∀ q ∈ first.run none p ++ rest.run none p, p.GoesOn q := by
      intro q member
      rcases List.mem_append.1 member with early | late
      · exact Pattern.run_goesOn first none p q early
      · exact Pattern.run_goesOn rest none p q late
    exact fun q inBoth r inBoth' => agree_of_goesOn fits (onward q inBoth) (onward r inBoth')
  have whole : (Pattern.choice first rest).run none p =
      firsts (first.run none p ++ rest.run none p) := rfl
  rw [whole, find?_firsts agree, List.find?_append, one fits p fresh, others fits p fresh,
    firstEnd?_cons, firstEnd?_cons, firstEnd?, List.findSome?_nil, Option.or_none]
  cases (p.spot.skip? text).filter fits <;> rfl

theorem tries_foldChoice {texts : List (List Char)} (some_text : texts ≠ []) :
    Tries (.foldChoice (texts.map charPattern)) texts := by
  induction texts with
  | nil => exact absurd rfl some_text
  | cons text texts ih =>
      cases texts with
      | nil => exact tries_charPattern text
      | cons next texts => exact (tries_charPattern text).choice (ih (List.cons_ne_nil _ _))

/-! ## Single characters -/

def charEnd? (chars : List Char) (s : Spot) : Option Spot :=
  s.next?.bind fun (c, t) => if chars.contains c then some t else none

theorem skip?_singleton (s : Spot) (c : Char) : s.skip? [c] = charEnd? [c] s := by
  rw [Spot.skip?, charEnd?]
  cases s.next? with
  | none => rfl
  | some found => simp [Spot.skip?]

theorem charEnd?_cons (c : Char) (chars : List Char) (s : Spot) :
    charEnd? (c :: chars) s = (charEnd? [c] s).or (charEnd? chars s) := by
  rw [charEnd?, charEnd?, charEnd?]
  cases s.next? with
  | none => rfl
  | some found =>
      by_cases same : found.1 = c
      · simp [same]
      · simp [same]

theorem next?_of_charEnd? {chars : List Char} {s t : Spot} (found : charEnd? chars s = some t) :
    ∃ c, s.next? = some (c, t) := by
  obtain ⟨⟨c, u⟩, next, inside⟩ := Option.bind_eq_some_iff.1 found
  rw [Option.ite_none_right_eq_some] at inside
  obtain rfl := Option.some.inj inside.2
  exact ⟨c, next⟩

theorem filter_or_filter {fits : Spot → Bool} {x y : Option Spot}
    (agree : ∀ s t, x = some s → y = some t → s = t) :
    (x.filter fits).or (y.filter fits) = (x.or y).filter fits := by
  cases x with
  | none => rfl
  | some s =>
      cases y with
      | none => exact Option.or_none
      | some t =>
          obtain rfl := agree s t rfl rfl
          rw [Option.or_self]
          rfl

theorem firstEnd?_chars (fits : Spot → Bool) (s : Spot) (chars : List Char) :
    firstEnd? fits s (chars.map fun c => [c]) = (charEnd? chars s).filter fits := by
  induction chars with
  | nil =>
      rw [charEnd?]
      cases s.next? <;> rfl
  | cons c chars ih =>
      rw [List.map_cons, firstEnd?_cons, ih, skip?_singleton, charEnd?_cons c chars]
      apply filter_or_filter
      intro t u first later
      obtain ⟨d, here⟩ := next?_of_charEnd? first
      obtain ⟨e, again⟩ := next?_of_charEnd? later
      exact (Prod.mk.inj (Option.some.inj (here.symm.trans again))).2

theorem run_ofSet (chars : List Char) (p : Path) :
    (Pattern.ofSet (.ofChars chars)).run none p =
      ((charEnd? chars p.spot).map p.moveTo).toList := by
  rw [Pattern.ofSet]
  cases only : (CharSet.ofChars chars).only? with
  | some c =>
      have same : charEnd? chars p.spot = charEnd? [c] p.spot := by
        rw [charEnd?, charEnd?]
        simp only [← CharSet.contains_ofChars chars, CharSet.contains_of_only? only,
          List.contains_cons, List.contains_nil, Bool.or_false]
      rw [same, ← skip?_singleton]
      rfl
  | none =>
      simp only [Pattern.run, charEnd?, CharSet.contains_ofChars]
      cases p.spot.next? with
      | none => rfl
      | some found =>
          dsimp only [Option.bind_some]
          split <;> rfl

theorem tries_ofSet (chars : List Char) :
    Tries (.ofSet (.ofChars chars)) (chars.map fun c => [c]) := by
  intro fits p _
  rw [run_ofSet, find?_toList, firstEnd?_chars]

theorem tries_pattern {texts : List (List Char)} (some_text : texts ≠ []) :
    Tries (pattern texts) texts := by
  rcases pattern_cases texts some_text with same | ⟨chars, rfl, same⟩
  · rw [same]
    exact tries_foldChoice some_text
  · rw [same]
    exact tries_ofSet chars

/-! ## At the edge of a word -/

theorem parts_pattern {texts : List (List Char)} (some_text : texts ≠ []) :
    pattern texts = .nothing ∨ (pattern texts).parts = [pattern texts] := by
  rcases pattern_cases texts some_text with same | ⟨chars, -, same⟩
  · rw [same]
    match texts with
    | [[]] => exact .inl rfl
    | [_ :: _] => exact .inr rfl
    | _ :: _ :: _ => exact .inr rfl
  · rw [same, Pattern.ofSet]
    split <;> exact .inr rfl

/-- A pattern in front of an assertion matches where a way through it ends in a place of which the
assertion holds. -/
theorem first?_look {pattern : Pattern} (whole : pattern = .nothing ∨ pattern.parts = [pattern])
    (look : Look) (s : Spot) : (Pattern.sequenceAll [pattern, .look look]).first? s =
      (pattern.run none (.start s)).find? fun q => look.holds q.spot := by
  have checks (ps : List Path) : ps.flatMap ((Pattern.look look).run none) =
      ps.filter fun q => look.holds q.spot := by
    induction ps with
    | nil => rfl
    | cons p ps ih =>
        rw [List.flatMap_cons, ih, Pattern.run, List.filter_cons]
        split <;> rfl
  rw [Pattern.first?_eq_head?]
  rcases whole with rfl | single
  · have alone := checks [.start s]
    rw [List.flatMap_singleton] at alone
    exact (congrArg List.head? alone).trans List.head?_filter
  · have both : Pattern.sequenceAll [pattern, .look look] = .sequence pattern (.look look) := by
      rw [Pattern.sequenceAll, List.flatMap_cons, single]
      cases pattern <;> rfl
    rw [both, Pattern.run, head?_firsts]
    exact (congrArg List.head? (checks _)).trans List.head?_filter

theorem first?_pattern {texts : List (List Char)} (some_text : texts ≠ []) (s : Spot) :
    (pattern texts).first? s =
      (firstEnd? (fun _ => true) s texts).map (Path.start s).moveTo := by
  have tried := tries_pattern some_text (fun _ => true) (.start s) rfl
  rw [← List.head?_filter, List.filter_true] at tried
  rw [Pattern.first?_eq_head?]
  exact tried

theorem first?_pattern_look {texts : List (List Char)} (some_text : texts ≠ []) (look : Look)
    (s : Spot) : (Pattern.sequenceAll [pattern texts, .look look]).first? s =
      (firstEnd? look.holds s texts).map (Path.start s).moveTo := by
  rw [first?_look (parts_pattern some_text)]
  exact tries_pattern some_text look.holds (.start s) rfl

end Literal

end ModalLexer

import ModalLexer.Pattern.Bracket
import ModalLexer.Proofs.Reading.Escape

/-! # Bracketed sets are read alike whatever ends the pattern behind them

A set ends in a closing bracket of its own, so nothing behind it is looked at; but on the way
`[:` is tried as the beginning of a class such as `[:alpha:]`, whose closing sign is searched
for in all of the text.  A bracket in between shows that what is found there is none. -/
set_option autoImplicit false
namespace ModalLexer.Reading

variable {verbose : Bool} {cs left t : List Char}

/-! ## Items -/

theorem posixOfName?_plain {name : List Char} {kind : Posix}
    (known : posixOfName? name = some kind) : ']' ∉ name := by
  obtain ⟨⟨spelling, other⟩, member, same⟩ := List.exists_of_findSome?_eq_some known
  simp only [Option.ite_none_right_eq_some] at same
  obtain ⟨rfl, _⟩ := same
  simp only [List.mem_cons, Prod.mk.injEq, List.not_mem_nil, or_false] at member
  rcases member with ⟨rfl, _⟩ | ⟨rfl, _⟩ | ⟨rfl, _⟩ | ⟨rfl, _⟩ | ⟨rfl, _⟩ | ⟨rfl, _⟩ | ⟨rfl, _⟩ |
    ⟨rfl, _⟩ | ⟨rfl, _⟩ | ⟨rfl, _⟩ | ⟨rfl, _⟩ | ⟨rfl, _⟩ | ⟨rfl, _⟩ | ⟨rfl, _⟩ <;> decide

/-- Reads the name of a class such as `[:alpha:]` and what closes it. -/
def readPosixName? (negated : Bool) (cs : List Char) : Option (Bracket × List Char) :=
  match cutAt? ':' cs with
  | some (name, ']' :: left) => (posixOfName? name).map fun kind => (.posix kind negated, left)
  | _ => none

theorem readPosix?_colon (cs : List Char) : readPosix? (':' :: cs) =
    if cs.head? = some '^' then readPosixName? true cs.tail else readPosixName? false cs := by
  cases cs with
  | nil => rfl
  | cons c rest =>
      by_cases caret : c = '^'
      · subst caret
        rfl
      · have plain : ∀ more, c :: rest ≠ '^' :: more := fun more same =>
          caret (List.cons.inj same).1
        simp only [readPosix?, List.head?_cons, Option.some.injEq, if_neg caret]
        split
        · next read => simp only [readPosixName?, read]
        · next other =>
            unfold readPosixName?
            split
            · next read => exact absurd read (other _ _)
            · rfl

theorem readPosix?_of_ne {c : Char} {rest : List Char} (other : c ≠ ':') :
    readPosix? (c :: rest) = none := by
  unfold readPosix?
  split
  · next same => exact absurd (List.cons.inj same).1 other
  · rfl

theorem readPosixName?_steady (negated : Bool) : Steady (readPosixName? negated) := by
  intro cs a left found
  unfold readPosixName? at found
  split at found
  · next name behind cut =>
      obtain ⟨kind, known, same⟩ := Option.map_eq_some_iff.1 found
      obtain ⟨rfl, rfl⟩ := Prod.mk.inj same
      obtain ⟨shorter, goesOn⟩ := cutAt?_steady ':' cs name _ cut
      refine ⟨(List.suffix_cons _ _).trans shorter, ?_⟩
      intro t ends
      simp [readPosixName?, goesOn t ends, known]
  · cases found

theorem readPosix?_steady : Steady readPosix? := by
  refine .branch ':' rfl ?_ (steady_none (α := Bracket)) fun d rest other => readPosix?_of_ne other
  simp only [readPosix?_colon]
  refine .branch '^' rfl (readPosixName?_steady true) (readPosixName?_steady false) ?_
  intro d rest other
  simp [other]

theorem prefix_of_cutAt? {sep : Char} {name : List Char} (whole : cutAt? sep cs = none)
    (cut : cutAt? sep (cs ++ t) = some (name, left)) : cs <+: name := by
  induction cs generalizing name with
  | nil => exact List.nil_prefix
  | cons c rest ih =>
      by_cases stop : c = sep
      · simp [cutAt?, stop] at whole
      · rw [cutAt?, if_neg stop, Option.map_eq_none_iff] at whole
        rw [List.cons_append, cutAt?, if_neg stop] at cut
        obtain ⟨⟨front, behind⟩, inner, same⟩ := Option.map_eq_some_iff.1 cut
        obtain ⟨rfl, rfl⟩ := Prod.mk.inj same
        exact List.prefix_cons_inj c |>.2 (ih whole inner)

theorem readPosixName?_append_of_none {negated : Bool} (ends : EndsPattern t)
    (other : readPosixName? negated cs = none) (closed : ']' ∈ cs) :
    readPosixName? negated (cs ++ t) = none := by
  rw [Option.eq_none_iff_forall_ne_some]
  intro ⟨a, left⟩ found
  unfold readPosixName? at found
  split at found
  · next name behind cut =>
      obtain ⟨kind, known, _⟩ := Option.map_eq_some_iff.1 found
      cases within : cutAt? ':' cs with
      | none => exact posixOfName?_plain known ((prefix_of_cutAt? within cut).subset closed)
      | some parts =>
          obtain ⟨front, back⟩ := parts
          rw [(cutAt?_steady ':' cs front back within).2 t ends] at cut
          obtain ⟨rfl, same⟩ := Prod.mk.inj (Option.some.inj cut)
          cases back with
          | nil => obtain ⟨rest, rfl | rfl⟩ := ends <;> simp at same
          | cons c back =>
              obtain ⟨rfl, rfl⟩ := List.cons.inj same
              simp [readPosixName?, within, known] at other
  · cases found

/-- A set that is no class such as `[:alpha:]` does not become one by what stands behind it. -/
theorem readPosix?_append_of_none (ends : EndsPattern t) (other : readPosix? cs = none)
    (closed : ']' ∈ cs) : readPosix? (cs ++ t) = none := by
  cases cs with
  | nil => cases closed
  | cons c rest =>
      by_cases colon : c = ':'
      · subst colon
        have closedRest : ']' ∈ rest := by simpa using closed
        rw [readPosix?_colon] at other
        rw [List.cons_append, readPosix?_colon]
        cases rest with
        | nil => cases closedRest
        | cons d more =>
            by_cases caret : d = '^'
            · subst caret
              exact readPosixName?_append_of_none ends other (by simpa using closedRest)
            · simp only [List.head?_cons, Option.some.injEq, if_neg caret] at other
              simp only [List.cons_append, List.head?_cons, Option.some.injEq, if_neg caret]
              exact readPosixName?_append_of_none ends other closedRest
      · rw [List.cons_append, readPosix?_of_ne colon]

theorem readItem?_steady (verbose : Bool) : Steady (readItem? verbose) := by
  have plain := Steady.headThen? fun c => steady_some (Atom.literal c false)
  refine .branch '\\' rfl (readEscape?_steady verbose) plain ?_
  intro d rest other
  simp [readItem?, headThen?]

theorem EndsPattern.peekFrom_eq (ends : EndsPattern t) (inComment : Bool) :
    peekFrom inComment t = t.head? := by
  obtain ⟨rest, rfl | rfl⟩ := ends
  · cases inComment <;> rfl
  · cases inComment <;> rfl

theorem peekFrom_append (ends : EndsPattern t) (inComment : Bool) (cs : List Char) :
    peekFrom inComment (cs ++ t) = (peekFrom inComment cs).or t.head? := by
  fun_induction peekFrom inComment cs with
  | case1 inComment => exact ends.peekFrom_eq inComment
  | case2 inComment c rest blank ih => simpa [peekFrom, blank] using ih
  | case3 inComment c rest solid sign ih => simpa [peekFrom, solid, sign] using ih
  | case4 inComment c rest solid sign => simp [peekFrom, solid, sign]

/-- A sign of a set that is looked ahead to stands in the set. -/
theorem peekBlank_append_iff (ends : EndsPattern t) {c : Char} (sign : c = ']' ∨ c = '-') :
    peekBlank verbose (cs ++ t) = some c ↔ peekBlank verbose cs = some c := by
  have unended : t.head? ≠ some c := by
    obtain ⟨rest, rfl | rfl⟩ := ends <;> rcases sign with rfl | rfl <;> simp
  cases verbose with
  | false =>
      cases cs with
      | nil => simpa [peekBlank] using unended
      | cons d rest => rfl
  | true =>
      simp only [peekBlank, if_true, peekFrom_append ends]
      cases peeked : peekFrom false cs with
      | some d => simp
      | none =>
          have unbegun : cs.head? ≠ some c := by
            intro first
            obtain ⟨rest, rfl⟩ := List.head?_eq_some_iff.1 first
            rcases sign with rfl | rfl <;> simp [peekFrom, Unicode.isSpace] at peeked
          obtain ⟨rest, rfl | rfl⟩ := ends <;> simp_all

/-- Whether a hyphen before a text begins no range. -/
def hyphenEnds (verbose : Bool) (cs : List Char) : Bool :=
  peekBlank verbose cs = some ']' ∨ peekBlank verbose cs = some '-'

theorem hyphenEnds_append (ends : EndsPattern t) :
    hyphenEnds verbose (cs ++ t) = hyphenEnds verbose cs := by
  simp only [hyphenEnds, peekBlank_append_iff ends (Or.inl rfl),
    peekBlank_append_iff ends (Or.inr rfl)]

/-- Reads what follows the first item of a set behind its blanks: the other end of a range, or
nothing. -/
def readRangeEnd? (verbose : Bool) (first : Atom) : List Char → Option (Bracket × List Char)
  | [] => none
  | c :: rest =>
      if c = '-' ∧ hyphenEnds verbose rest = false then
        (readItem? verbose (skipBlank verbose rest)).bind fun (last, left) =>
          (rangeOfAtoms? first last).map fun item => (item, left)
      else (itemOfAtom? first).map fun item => (item, c :: rest)

theorem readRange?_eq (cs : List Char) : readRange? verbose cs =
    (readItem? verbose cs).bind fun (first, behind) =>
      readRangeEnd? verbose first (skipBlank verbose behind) := by
  unfold readRange?
  cases readItem? verbose cs with
  | none => rfl
  | some taken =>
      simp only [Option.bind_eq_bind, Option.bind_some]
      generalize skipBlank verbose taken.2 = behind
      split
      · rfl
      · next rest =>
          split
          · next atEnd =>
              have ending : hyphenEnds verbose rest = true := decide_eq_true atEnd
              simp only [readRangeEnd?, ending, and_false, if_false, Bool.true_eq_false]
              cases itemOfAtom? taken.1 <;> rfl
          · next onward =>
              have ranging : hyphenEnds verbose rest = false := decide_eq_false onward
              simp only [readRangeEnd?, ranging, and_self, if_true]
              split
              · next blank => rw [blank]; rfl
              · refine Option.bind_congr fun x _ => ?_
                cases rangeOfAtoms? taken.1 x.1 <;> rfl
      · next more other =>
          cases behind with
          | nil => exact absurd rfl more
          | cons c rest =>
              have noDash : ¬ c = '-' := fun dash => other rest (by rw [dash])
              simp only [readRangeEnd?, noDash, false_and, if_false]
              cases itemOfAtom? taken.1 <;> rfl

theorem readRangeEnd?_steady (verbose : Bool) (first : Atom) :
    Steady (readRangeEnd? verbose first) := by
  have range : Steady fun rest =>
      (some ((), skipBlank verbose rest)).bind fun (_, endFirst) =>
        (readItem? verbose endFirst).bind fun (last, left) =>
          (rangeOfAtoms? first last).map fun item => (item, left) :=
    (inner_skipBlank verbose).bind_steady
      (fun _ => (readItem?_steady verbose).bind fun last =>
        steady_option (rangeOfAtoms? first last))
      fun _ => rfl
  intro cs a left found
  cases cs with
  | nil => cases found
  | cons c rest =>
      rw [readRangeEnd?] at found
      by_cases onward : c = '-' ∧ hyphenEnds verbose rest = false
      · rw [if_pos onward] at found
        obtain ⟨shorter, goesOn⟩ := range rest a left found
        refine ⟨shorter.trans (List.suffix_cons c rest), ?_⟩
        intro t ends
        rw [List.cons_append, readRangeEnd?, hyphenEnds_append ends, if_pos onward]
        exact goesOn t ends
      · rw [if_neg onward] at found
        obtain ⟨shorter, goesOn⟩ := steady_option (itemOfAtom? first) (c :: rest) a left found
        refine ⟨shorter, ?_⟩
        intro t ends
        rw [List.cons_append, readRangeEnd?, hyphenEnds_append ends, if_neg onward]
        exact goesOn t ends

theorem readRange?_steady (verbose : Bool) : Steady (readRange? verbose) := by
  have behindItem (first : Atom) : Steady fun behind =>
      (some ((), skipBlank verbose behind)).bind fun (_, cs) => readRangeEnd? verbose first cs :=
    (inner_skipBlank verbose).bind_steady (fun _ => readRangeEnd?_steady verbose first) fun _ => rfl
  have whole := (readItem?_steady verbose).bind behindItem
  convert whole using 1
  funext cs
  exact readRange?_eq cs

theorem readRange?_singleton (c : Char) : readRange? verbose [c] = none := by
  rw [readRange?_eq, Option.bind_eq_none_iff]
  rintro ⟨first, behind⟩ taken
  have none_left : behind = [] := by
    unfold readItem? at taken
    split at taken
    · cases taken
    · next rest same =>
      obtain ⟨rfl, rfl⟩ := List.cons.inj same
      cases taken
    · next same =>
      obtain ⟨rfl, rfl⟩ := List.cons.inj same
      exact (Prod.mk.inj (Option.some.inj taken)).2.symm
  rw [none_left]
  cases verbose <;> rfl

/-! ## Sets -/

/-- Reads how the body of a set begins. -/
def beginSet? (verbose negated : Bool) (body : List Char) :
    Option (Bool × SetSoFar × List Char) :=
  match collect verbose (· != '-') body with
  | ([], ']' :: left) => some (negated, ⟨none, [.range ']' ']']⟩, left)
  | (hyphens, left) => some (negated, ⟨none, hyphens.map fun c => .range c c⟩, left)

theorem beginSet?_inner (verbose negated : Bool) {body : List Char}
    {found : Bool × SetSoFar × List Char}
    (read : beginSet? verbose negated body = some found) :
    found.2.2 <:+ body ∧ (found.2.2 ≠ [] →
      beginSet? verbose negated (body ++ t) = some (found.1, found.2.1, found.2.2 ++ t)) := by
  unfold beginSet? at read
  split at read
  · next left collected =>
      obtain rfl := Option.some.inj read
      refine ⟨(List.suffix_cons _ _).trans (collect_suffix collected), ?_⟩
      intro _
      simp [beginSet?, collect_append (t := t) collected (by simp)]
  · next hyphens left other collected =>
      obtain rfl := Option.some.inj read
      refine ⟨collect_suffix collected, ?_⟩
      intro more
      simp only [beginSet?, collect_append (t := t) collected more]
      split
      · next same =>
          obtain ⟨rfl, bracket⟩ := Prod.mk.inj same
          cases left with
          | nil => exact absurd rfl more
          | cons c rest => exact (other rest rfl (by rw [(List.cons.inj bracket).1])).elim
      · next same =>
          obtain ⟨rfl, rfl⟩ := Prod.mk.inj same
          rfl

/-- What stands behind a circumflex, if there is one, and whether there is. -/
def dropCaret : List Char → Bool × List Char
  | '^' :: rest => (true, rest)
  | rest => (false, rest)

theorem dropCaret_of_ne {c : Char} (caret : c ≠ '^') (rest : List Char) :
    dropCaret (c :: rest) = (false, c :: rest) := by
  unfold dropCaret
  split
  · next same => exact absurd (List.cons.inj same).1 caret
  · rfl

theorem openSet?_eq (cs : List Char) : openSet? verbose cs =
    beginSet? verbose (dropCaret (skipBlank verbose cs)).1
      (dropCaret (skipBlank verbose cs)).2 := rfl

theorem dropCaret_suffix (cs : List Char) : (dropCaret cs).2 <:+ cs := by
  unfold dropCaret
  split
  · exact List.suffix_cons _ _
  · exact List.suffix_refl _

theorem dropCaret_append (more : cs ≠ []) :
    dropCaret (cs ++ t) = ((dropCaret cs).1, (dropCaret cs).2 ++ t) := by
  cases cs with
  | nil => exact absurd rfl more
  | cons c rest =>
      by_cases caret : c = '^'
      · subst caret
        rfl
      · rw [List.cons_append, dropCaret_of_ne caret, dropCaret_of_ne caret]
        rfl

theorem openSet?_inner {found : Bool × SetSoFar × List Char}
    (read : openSet? verbose cs = some found) :
    found.2.2 <:+ cs ∧ (found.2.2 ≠ [] →
      openSet? verbose (cs ++ t) = some (found.1, found.2.1, found.2.2 ++ t)) := by
  rw [openSet?_eq] at read
  obtain ⟨shorter, goesOn⟩ := beginSet?_inner (t := t) verbose _ read
  have suffix := (dropCaret_suffix _).trans (skipBlank_suffix verbose cs)
  refine ⟨shorter.trans suffix, ?_⟩
  intro more
  have begun : skipBlank verbose cs ≠ [] := by
    intro blank
    rw [blank] at shorter
    exact more (List.suffix_nil.1 shorter)
  rw [openSet?_eq, skipBlank_append begun, dropCaret_append begun]
  exact goesOn more

theorem readSet?_nil (fuel : Nat) (s : SetSoFar) : readSet? verbose fuel s [] = none := by
  cases fuel with
  | zero => rfl
  | succ fuel => cases verbose <;> rfl

/-- A set goes on with an item: its end and its signs are told apart by two characters. -/
def StartsItem : List Char → Prop
  | c :: d :: _ => c ≠ ']' ∧ c ≠ '[' ∧ ¬ (d = c ∧ (c = '&' ∨ c = '-' ∨ c = '~'))
  | _ => False

theorem StartsItem.append (starts : StartsItem cs) : StartsItem (cs ++ t) := by
  match cs with
  | [] => exact starts.elim
  | [_] => exact starts.elim
  | _ :: _ :: _ => exact starts

theorem StartsItem.ne_nil (starts : StartsItem cs) : cs ≠ [] := by
  rintro rfl
  exact starts

theorem readSet?_item (fuel : Nat) (s : SetSoFar)
    (starts : StartsItem (skipBlank verbose cs)) : readSet? verbose (fuel + 1) s cs =
      (readRange? verbose (skipBlank verbose cs)).bind fun found =>
        readSet? verbose fuel (s.push found.1) found.2 := by
  rw [readSet?]
  generalize skipBlank verbose cs = ds at starts
  match ds with
  | [] => exact starts.elim
  | [_] => exact starts.elim
  | c :: d :: rest =>
      obtain ⟨noClose, noOpen, noSign⟩ := starts
      split
      · next same => cases same
      · next same => exact absurd (List.cons.inj same).1 noClose
      · next same => exact absurd (List.cons.inj same).1 noOpen
      · next same =>
          obtain ⟨first, others⟩ := List.cons.inj same
          exact (noSign ⟨(List.cons.inj others).1.trans first.symm, .inl first⟩).elim
      · next same =>
          obtain ⟨first, others⟩ := List.cons.inj same
          exact (noSign ⟨(List.cons.inj others).1.trans first.symm, .inr (.inl first)⟩).elim
      · next same =>
          obtain ⟨first, others⟩ := List.cons.inj same
          exact (noSign ⟨(List.cons.inj others).1.trans first.symm, .inr (.inr first)⟩).elim
      · rfl

theorem startsItem_of_readRange? {x : Bracket × List Char}
    (ranged : readRange? verbose cs = some x) (more : cs ≠ []) (noClose : ∀ rest, cs ≠ ']' :: rest)
    (noOpen : ∀ rest, cs ≠ '[' :: rest) (noInter : ∀ rest, cs ≠ '&' :: '&' :: rest)
    (noDiff : ∀ rest, cs ≠ '-' :: '-' :: rest) (noSymm : ∀ rest, cs ≠ '~' :: '~' :: rest) :
    StartsItem cs := by
  match cs with
  | [] => exact absurd rfl more
  | [c] =>
      rw [readRange?_singleton] at ranged
      cases ranged
  | c :: d :: rest =>
      refine ⟨?_, ?_, ?_⟩
      · rintro rfl
        exact noClose _ rfl
      · rintro rfl
        exact noOpen _ rfl
      · rintro ⟨rfl, rfl | rfl | rfl⟩
        · exact noInter rest rfl
        · exact noDiff rest rfl
        · exact noSymm rest rfl

theorem readSet?_append (ends : EndsPattern t) (fuel : Nat) (s : SetSoFar) (cs : List Char)
    {set : Bracket} {left : List Char} (read : readSet? verbose fuel s cs = some (set, left)) :
    (']' ∈ cs ∧ left <:+ cs) ∧
      ∀ more, readSet? verbose (fuel + more) s (cs ++ t) = some (set, left ++ t) := by
  induction fuel generalizing s cs set left with
  | zero => cases read
  | succ fuel ih =>
      rw [readSet?] at read
      have inside (ds : List Char) (begun : skipBlank verbose cs = ds) : ds <:+ cs :=
        begun ▸ skipBlank_suffix verbose cs
      have appended {c : Char} {ds : List Char} (begun : skipBlank verbose cs = c :: ds) :
          skipBlank verbose (cs ++ t) = c :: (ds ++ t) := by
        rw [skipBlank_append (begun ▸ List.cons_ne_nil _ _), begun, List.cons_append]
      -- A later part of the set is read as before, and the sign in front of it as well.
      have onward {s' : SetSoFar} {ds es : List Char} (begun : skipBlank verbose cs = ds)
          (later : es <:+ ds) (rest : readSet? verbose fuel s' es = some (set, left)) :
          (']' ∈ cs ∧ left <:+ cs) := by
        obtain ⟨⟨closed, shorter⟩, _⟩ := ih s' es rest
        exact ⟨(later.trans (inside ds begun)).subset closed,
          shorter.trans (later.trans (inside ds begun))⟩
      have operator {op : SetOp} {c d : Char} {rest : List Char}
          (begun : skipBlank verbose cs = c :: d :: rest)
          (read : readSet? verbose fuel (s.operate op) rest = some (set, left))
          (step : ∀ n, readSet? verbose (n + 1) s (cs ++ t) =
            readSet? verbose n (s.operate op) (rest ++ t)) : (']' ∈ cs ∧ left <:+ cs) ∧
            ∀ more, readSet? verbose (fuel + 1 + more) s (cs ++ t) = some (set, left ++ t) := by
        refine ⟨onward begun ((List.suffix_cons _ _).trans (List.suffix_cons _ _)) read, ?_⟩
        intro more
        rw [Nat.succ_add, step]
        exact (ih _ rest read).2 more
      split at read
      · cases read
      · next rest begun =>
          obtain ⟨rfl, rfl⟩ := Prod.mk.inj (Option.some.inj read)
          refine ⟨⟨(inside _ begun).subset List.mem_cons_self,
            (List.suffix_cons _ _).trans (inside _ begun)⟩, ?_⟩
          intro more
          rw [Nat.succ_add, readSet?, appended begun]
          rfl
      · next body begun =>
          split at read
          · next item rest posix =>
              obtain ⟨shorter, goesOn⟩ := readPosix?_steady body item rest posix
              refine ⟨onward begun (shorter.trans (List.suffix_cons _ _)) read, ?_⟩
              intro more
              rw [Nat.succ_add, readSet?, appended begun]
              simp only [goesOn t ends]
              exact (ih _ rest read).2 more
          · next noPosix =>
              simp only [Option.bind_eq_bind] at read
              obtain ⟨⟨negated, start, inner⟩, opened, read⟩ := Option.bind_eq_some_iff.1 read
              obtain ⟨⟨nested, behind⟩, filled, read⟩ := Option.bind_eq_some_iff.1 read
              obtain ⟨shorter, goesOn⟩ := openSet?_inner (t := t) opened
              obtain ⟨⟨closed, shorterStill⟩, fillsOn⟩ := ih _ inner filled
              have innerMore : inner ≠ [] := fun nil => by rw [nil] at closed; cases closed
              refine ⟨onward begun (shorterStill.trans (shorter.trans (List.suffix_cons _ _))) read,
                ?_⟩
              intro more
              rw [Nat.succ_add, readSet?, appended begun]
              have noPosixOn := readPosix?_append_of_none ends noPosix (shorter.subset closed)
              simp only [noPosixOn, goesOn innerMore, Option.bind_eq_bind, Option.bind_some,
                fillsOn more]
              exact (ih _ behind read).2 more
      · next rest begun =>
          refine operator begun read fun n => ?_
          rw [readSet?, appended begun]
          rfl
      · next rest begun =>
          refine operator begun read fun n => ?_
          rw [readSet?, appended begun]
          rfl
      · next rest begun =>
          refine operator begun read fun n => ?_
          rw [readSet?, appended begun]
          rfl
      · next noEnd noClose noOpen noInter noDiff noSymm =>
          simp only [Option.bind_eq_bind] at read
          obtain ⟨⟨item, behind⟩, ranged, read⟩ := Option.bind_eq_some_iff.1 read
          obtain ⟨shorter, goesOn⟩ := readRange?_steady verbose _ item behind ranged
          have starts : StartsItem (skipBlank verbose cs) :=
            startsItem_of_readRange? ranged noEnd noClose noOpen noInter noDiff noSymm
          refine ⟨onward rfl shorter read, ?_⟩
          intro more
          have startsOn : StartsItem (skipBlank verbose (cs ++ t)) := by
            rw [skipBlank_append starts.ne_nil]
            exact starts.append
          rw [Nat.succ_add, readSet?_item _ _ startsOn, skipBlank_append starts.ne_nil,
            goesOn t ends]
          exact (ih _ behind read).2 more

theorem readBracket?_steady (verbose : Bool) : Steady (readBracket? verbose) := by
  intro cs a left found
  simp only [readBracket?, Option.bind_eq_bind] at found
  obtain ⟨⟨negated, start, body⟩, opened, found⟩ := Option.bind_eq_some_iff.1 found
  obtain ⟨⟨set, behind⟩, filled, found⟩ := Option.bind_eq_some_iff.1 found
  obtain ⟨rfl, rfl⟩ := Prod.mk.inj (Option.some.inj found)
  have suffixes : body <:+ cs ∧ behind <:+ body :=
    ⟨(openSet?_inner (t := [')']) opened).1, (readSet?_append ⟨[], Or.inl rfl⟩ _ _ _ filled).1.2⟩
  refine ⟨suffixes.2.trans suffixes.1, ?_⟩
  intro t ends
  have bodyMore : body ≠ [] := fun nil => by rw [nil, readSet?_nil] at filled; cases filled
  have fillsOn := (readSet?_append ends _ _ _ filled).2 t.length
  rw [Nat.add_right_comm, ← List.length_append] at fillsOn
  simp only [readBracket?, (openSet?_inner (t := t) opened).2 bodyMore, Option.bind_eq_bind,
    Option.bind_some, fillsOn]
  rfl

end ModalLexer.Reading

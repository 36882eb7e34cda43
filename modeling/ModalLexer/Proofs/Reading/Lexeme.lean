import ModalLexer.Pattern.Reader
import ModalLexer.Proofs.Reading.Bracket

/-! # Lexemes are read alike whatever ends the pattern behind them

There are two exceptions.  An opening parenthesis looks at the sign behind it; but a fragment
with an open parenthesis at its end is refused anyway.  A counted repetition looks for a
question mark past the blanks behind it, and so into a comment that is left open there. -/
set_option autoImplicit false
namespace ModalLexer.Reading

variable {verbose : Bool} {cs left t : List Char}

/-! ## Groups and flags -/

theorem readFlags?_append {flags : FlagText} {seen : FlagChange} {on afterHyphen : Bool}
    (read : readFlags? seen on afterHyphen cs = some flags) :
    (flags.left <:+ cs ∧ flags.left ≠ cs) ∧
      readFlags? seen on afterHyphen (cs ++ t) = some { flags with left := flags.left ++ t } := by
  induction cs generalizing seen on afterHyphen with
  | nil => cases read
  | cons c rest ih =>
      have onward (shorter : flags.left <:+ rest ∧ flags.left ≠ rest) :
          flags.left <:+ c :: rest ∧ flags.left ≠ c :: rest := by
        refine ⟨shorter.1.trans (List.suffix_cons c rest), ?_⟩
        intro same
        have := shorter.1.length_le
        rw [same, List.length_cons] at this
        omega
      rw [readFlags?] at read
      rw [List.cons_append, readFlags?]
      by_cases ended : c = ':' ∨ c = ')'
      · rw [if_pos ended] at read ⊢
        split at read
        · cases read
        · next after =>
            obtain rfl := Option.some.inj read
            refine ⟨⟨List.suffix_cons c rest, fun same => ?_⟩, by rw [if_neg after]⟩
            exact absurd (congrArg List.length same) (by simp)
      · rw [if_neg ended] at read ⊢
        by_cases hyphen : c = '-'
        · rw [if_pos hyphen] at read ⊢
          split at read
          · next turnedOn =>
              rw [if_pos turnedOn]
              exact ⟨onward (ih read).1, (ih read).2⟩
          · cases read
        · rw [if_neg hyphen] at read ⊢
          split at read
          · cases read
          · next flag known =>
              split at read
              · cases read
              · next fresh =>
                  rw [if_neg fresh]
                  exact ⟨onward (ih read).1, (ih read).2⟩

theorem readName?_steady : Steady readName? := by
  intro cs a left found
  unfold readName? at found
  split at found
  · cases found
  · next name behind cut =>
      split at found
      · next named =>
          obtain ⟨rfl, rfl⟩ := Prod.mk.inj (Option.some.inj found)
          obtain ⟨shorter, goesOn⟩ := cutAt?_steady '>' cs name behind cut
          exact ⟨shorter, fun t ends => by simp only [readName?, goesOn t ends, named, if_true]⟩
      · cases found

/-- Reads the flags of a group or of a flag directive. -/
def readFlagGroup? (cs : List Char) : Option (Lexeme × List Char) :=
  match readFlags? [] true false cs with
  | none => none
  | some ⟨change, true, left⟩ => some (.opening (.plain change), left)
  | some ⟨change, false, left⟩ => if change.isEmpty then none else some (.flags change, left)

theorem readFlagGroup?_steady : Steady readFlagGroup? := by
  intro cs a left found
  unfold readFlagGroup? at found
  split at found
  · cases found
  · next change behind read =>
      obtain ⟨rfl, rfl⟩ := Prod.mk.inj (Option.some.inj found)
      refine ⟨(readFlags?_append (t := []) read).1.1, fun t _ => ?_⟩
      simp only [readFlagGroup?, (readFlags?_append (t := t) read).2]
  · next change behind read =>
      split at found
      · cases found
      · next some =>
          obtain ⟨rfl, rfl⟩ := Prod.mk.inj (Option.some.inj found)
          refine ⟨(readFlags?_append (t := []) read).1.1, fun t _ => ?_⟩
          simp only [readFlagGroup?, (readFlags?_append (t := t) read).2, if_neg some]

/-- Reads what follows `(?`. -/
def readQuery? (cs : List Char) : Option (Lexeme × List Char) :=
  match cs with
  | '=' :: _ => none
  | '!' :: _ => none
  | '<' :: '=' :: _ => none
  | '<' :: '!' :: _ => none
  | 'P' :: '<' :: rest => readName? rest
  | '<' :: rest => readName? rest
  | rest => readFlagGroup? rest

theorem readOpening?_query (cs : List Char) : readOpening? ('?' :: cs) = readQuery? cs := by
  unfold readOpening? readQuery?
  split <;> split <;> simp_all [readFlagGroup?] <;> subst_vars <;> simp_all

theorem readOpening?_capture (other : ∀ rest, cs ≠ '?' :: rest) :
    readOpening? cs = some (.opening (.capture none), cs) := by
  unfold readOpening?
  split
  all_goals first | rfl | exact absurd rfl (other _)

theorem readFlagGroup?_cons_steady (c : Char) : Steady fun rest => readFlagGroup? (c :: rest) := by
  intro cs a left found
  obtain ⟨shorter, goesOn⟩ := readFlagGroup?_steady (c :: cs) a left found
  refine ⟨(List.suffix_cons_iff.1 shorter).resolve_left ?_, goesOn⟩
  intro same
  simp only [readFlagGroup?] at found
  split at found
  · cases found
  · next change behind read =>
      obtain ⟨_, rfl⟩ := Prod.mk.inj (Option.some.inj found)
      exact (readFlags?_append (t := []) read).1.2 same
  · next change behind read =>
      split at found
      · cases found
      · obtain ⟨_, rfl⟩ := Prod.mk.inj (Option.some.inj found)
        exact (readFlags?_append (t := []) read).1.2 same

theorem readAngle?_steady : Steady fun rest => readQuery? ('<' :: rest) := by
  have noBehind : Steady fun cs => if cs.head? = some '!' then none else readName? cs :=
    .branch '!' rfl steady_none readName?_steady fun d rest other => by simp [other]
  refine .branch '=' rfl steady_none noBehind ?_
  intro d rest other
  by_cases behind : d = '!'
  · subst behind
    rfl
  · simp [readQuery?, other, behind]

theorem readQuery?_steady : Steady readQuery? := by
  refine .of_cons rfl ?_
  intro c
  by_cases ahead : c = '=' ∨ c = '!'
  · convert steady_none (α := Lexeme) using 2 with rest
    rcases ahead with rfl | rfl <;> rfl
  · obtain ⟨noAhead, noAheadNot⟩ := not_or.1 ahead
    by_cases angle : c = '<'
    · subst angle
      exact readAngle?_steady
    · by_cases python : c = 'P'
      · subst python
        refine .branch '<' rfl readName?_steady (readFlagGroup?_cons_steady 'P') ?_
        intro d rest other
        simp [readQuery?, other]
      · convert readFlagGroup?_cons_steady c using 2 with rest
        simp [readQuery?, noAhead, noAheadNot, angle, python]

theorem readOpening?_steady : Steady readOpening? := by
  intro cs a left found
  by_cases query : ∃ rest, cs = '?' :: rest
  · obtain ⟨rest, rfl⟩ := query
    rw [readOpening?_query] at found
    obtain ⟨shorter, goesOn⟩ := readQuery?_steady rest a left found
    refine ⟨shorter.trans (List.suffix_cons _ rest), ?_⟩
    intro t ends
    rw [List.cons_append, readOpening?_query]
    exact goesOn t ends
  · have plain : ∀ rest, cs ≠ '?' :: rest := fun rest same => query ⟨rest, same⟩
    rw [readOpening?_capture plain] at found
    obtain ⟨rfl, rfl⟩ := Prod.mk.inj (Option.some.inj found)
    refine ⟨List.suffix_refl _, fun t ends => readOpening?_capture fun rest same => ?_⟩
    cases cs with
    | nil => obtain ⟨more, rfl | rfl⟩ := ends <;> simp at same
    | cons c cs => exact plain cs (by rw [(List.cons.inj same).1])

/-! ## Repetitions -/

theorem readGreed_steady (least : Nat) (most : Option Nat) :
    Steady fun cs => some (readGreed least most cs) := by
  have greedy {ds : List Char} (other : ∀ rest, ds ≠ '?' :: rest) :
      readGreed least most ds = (.repetition least most true, ds) := by
    unfold readGreed
    split
    · exact absurd rfl (other _)
    · rfl
  intro cs a left found
  by_cases lazy : ∃ rest, cs = '?' :: rest
  · obtain ⟨rest, rfl⟩ := lazy
    obtain ⟨rfl, rfl⟩ := Prod.mk.inj (Option.some.inj found)
    exact ⟨List.suffix_cons _ _, fun t _ => rfl⟩
  · have plain : ∀ rest, cs ≠ '?' :: rest := fun rest same => lazy ⟨rest, same⟩
    obtain ⟨rfl, rfl⟩ := Prod.mk.inj ((greedy plain).symm.trans (Option.some.inj found))
    refine ⟨List.suffix_refl _, fun t ends => congrArg some (greedy ?_)⟩
    intro rest same
    cases cs with
    | nil => obtain ⟨more, rfl | rfl⟩ := ends <;> simp at same
    | cons c cs => exact plain cs (by rw [(List.cons.inj same).1])

theorem inner_readCount? (verbose : Bool) : Inner (readCount? verbose) :=
  fun _ _ _ found => ⟨readCount?_suffix found, fun more _ _ => readCount?_append found more⟩

/-- Reads the bounds of a counted repetition behind the lower one. -/
def readMost? (verbose : Bool) (least : Nat) :
    List Char → Option ((Nat × Option Nat) × List Char)
  | [] => none
  | c :: rest =>
      if c = ',' then
        if (skipBlank verbose rest).head? = some '\x7d' then
          some ((least, none), skipBlank verbose rest)
        else
          (readCount? verbose (skipBlank verbose rest)).map fun (most, left) =>
            ((least, some most), left)
      else some ((least, some least), c :: rest)

/-- Reads the bounds of a counted repetition. -/
def readBounds? (verbose : Bool) (cs : List Char) : Option ((Nat × Option Nat) × List Char) :=
  (readCount? verbose (skipBlank verbose cs)).bind fun (least, behind) =>
    readMost? verbose least behind

theorem readMost?_inner (verbose : Bool) (least : Nat) : Inner (readMost? verbose least) := by
  intro cs a left found
  cases cs with
  | nil => cases found
  | cons c rest =>
      by_cases comma : c = ','
      · subst comma
        simp only [readMost?, if_true] at found
        split at found
        · next ended =>
            obtain ⟨rfl, rfl⟩ := Prod.mk.inj (Option.some.inj found)
            refine ⟨(skipBlank_suffix verbose rest).trans (List.suffix_cons _ rest),
              ?_⟩
            intro more t ends
            have headed : (skipBlank verbose rest ++ t).head? = some '\x7d' := by
              rw [List.head?_append, ended]
              rfl
            simp only [List.cons_append, readMost?, if_true, skipBlank_append more, headed]
        · next counted =>
            obtain ⟨⟨most, behind⟩, read, same⟩ := Option.map_eq_some_iff.1 found
            obtain ⟨rfl, rfl⟩ := Prod.mk.inj same
            have begun : skipBlank verbose rest ≠ [] := by
              intro blank
              rw [blank] at read
              cases verbose <;> cases read
            refine ⟨((readCount?_suffix read).trans (skipBlank_suffix verbose rest)).trans
              (List.suffix_cons _ rest), fun more t ends => ?_⟩
            have headed : (skipBlank verbose rest ++ t).head? ≠ some '\x7d' := by
              rw [List.head?_append_of_ne_nil _ begun]
              exact counted
            simp only [List.cons_append, readMost?, if_true, skipBlank_append begun, if_neg headed,
              readCount?_append read more, Option.map_some]
      · simp only [readMost?, if_neg comma] at found
        obtain ⟨rfl, rfl⟩ := Prod.mk.inj (Option.some.inj found)
        refine ⟨List.suffix_refl _, ?_⟩
        intro more t ends
        simp only [List.cons_append, readMost?, if_neg comma]

theorem readBounds?_inner (verbose : Bool) : Inner (readBounds? verbose) :=
  (inner_skipBlank verbose).bind fun _ =>
    (inner_readCount? verbose).bind fun least => readMost?_inner verbose least

theorem readCounted?_eq (cs : List Char) : readCounted? verbose cs =
    (readBounds? verbose cs).bind fun (bounds, left) =>
      readCountEnd? verbose bounds.1 bounds.2 left := by
  unfold readCounted? readBounds?
  cases readCount? verbose (skipBlank verbose cs) with
  | none => rfl
  | some taken =>
      obtain ⟨least, behind⟩ := taken
      simp only [Option.bind_eq_bind, Option.bind_some]
      split
      · next rest =>
          simp only [readMost?, if_true]
          split
          · next more closed => simp [closed]
          · next counted =>
              have headed : (skipBlank verbose rest).head? ≠ some '\x7d' := by
                intro first
                obtain ⟨more, same⟩ := List.head?_eq_some_iff.1 first
                exact counted more same
              rw [if_neg headed, Option.bind_map]
              rfl
      · next other =>
          cases behind with
          | nil => rfl
          | cons c rest =>
              have comma : c ≠ ',' := fun same => other rest (by rw [same])
              simp [readMost?, comma]

/-- A counted repetition looks for a question mark past the blanks behind it, and so into a
comment that they leave open. -/
theorem readCounted?_append {l : Lexeme} (read : readCounted? verbose cs = some (l, left)) :
    left <:+ cs ∧ ((∀ t, EndsPattern t → readCounted? verbose (cs ++ t) = some (l, left ++ t)) ∨
      (verbose = true ∧ left = [] ∧ ∃ least most, l = .repetition least most true ∧
        ∀ t, EndsPattern t →
          readCounted? verbose (cs ++ t) = some (readGreed least most (skipFrom true t)))) := by
  rw [readCounted?_eq] at read
  obtain ⟨⟨⟨least, most⟩, behind⟩, bounds, ended⟩ := Option.bind_eq_some_iff.1 read
  obtain ⟨shorter, goesOn⟩ := readBounds?_inner verbose cs _ behind bounds
  simp only [readCountEnd?] at ended
  split at ended
  · next rest =>
      split at ended
      · next ordered =>
          have onward (t : List Char) (ends : EndsPattern t) : readCounted? verbose (cs ++ t) =
              some (readGreed least most (skipBlank verbose (rest ++ t))) := by
            rw [readCounted?_eq, goesOn (by simp) t ends]
            simp [readCountEnd?, ordered]
          have greed := readGreed_steady least most (skipBlank verbose rest) l left ended
          refine ⟨(greed.1.trans (skipBlank_suffix verbose rest)).trans
            ((List.suffix_cons _ rest).trans shorter), ?_⟩
          by_cases blank : skipBlank verbose rest = []
          · rw [blank] at ended greed
            obtain ⟨rfl, rfl⟩ := Prod.mk.inj (Option.some.inj ended)
            rcases skipBlank_append_of_nil blank with clean | ⟨rfl, commented⟩
            · apply Or.inl
              intro t ends
              rw [onward t ends, clean t ends]
              exact greed.2 t ends
            · refine Or.inr ⟨rfl, rfl, least, most, rfl, ?_⟩
              intro t ends
              rw [onward t ends, commented]
          · apply Or.inl
            intro t ends
            rw [onward t ends, skipBlank_append blank]
            exact greed.2 t ends
      · cases ended
  · cases ended

/-! ## Lexemes -/

/-- What becomes of the last lexeme of a text when the text leaves a comment open: it goes on
in whatever stands behind the comment, and stays the same if nothing does. -/
def GoesIntoComment (verbose : Bool) (cs : List Char) (l : Lexeme) : Prop :=
  verbose = true ∧ ∀ t, EndsPattern t → ∃ other left,
    readLexeme? verbose (cs ++ t) = some (other, left) ∧ left <:+ skipFrom true t ∧
      (skipFrom true t = [] → other = l)

theorem readGreed_suffix (least : Nat) (most : Option Nat) (cs : List Char) :
    (readGreed least most cs).2 <:+ cs :=
  (readGreed_steady least most cs _ _ rfl).1

theorem readLexeme?_cons_steady {c : Char} (paren : c ≠ '(') (brace : c ≠ '\x7b') :
    Steady fun rest => readLexeme? verbose (c :: rest) := by
  simp only [readLexeme?]
  split
  · exact absurd rfl paren
  · exact steady_some _
  · exact steady_some _
  · exact (readBracket?_steady verbose).map Lexeme.atom
  · exact readGreed_steady 0 (some 1)
  · exact readGreed_steady 0 none
  · exact readGreed_steady 1 none
  · exact absurd rfl brace
  · exact (readEscape?_steady verbose).map Lexeme.atom
  · exact steady_some _
  · exact steady_some _
  · exact steady_some _
  · exact steady_some _

/-- The lexeme is the same, and what is left is what was left and the text behind. -/
def StaysSteady (verbose : Bool) (cs : List Char) (l : Lexeme) (left : List Char) : Prop :=
  ∀ t, EndsPattern t → readLexeme? verbose (cs ++ t) = some (l, left ++ t)

theorem readLexeme?_suffix {l : Lexeme} (read : readLexeme? verbose cs = some (l, left)) :
    left <:+ cs ∧ left.length < cs.length := by
  cases cs with
  | nil => cases read
  | cons c rest =>
      have shorter : left <:+ rest := by
        by_cases paren : c = '('
        · subst paren
          exact (readOpening?_steady _ l left read).1.trans (skipBlank_suffix verbose rest)
        · by_cases brace : c = '\x7b'
          · subst brace
            exact (readCounted?_append read).1
          · exact (readLexeme?_cons_steady paren brace rest l left read).1
      exact ⟨shorter.trans (List.suffix_cons c rest), Nat.lt_succ_of_le shorter.length_le⟩

/-- An opening parenthesis that is not the last sign of a text is read alike whatever stands
behind the text. -/
theorem readLexeme?_opening_append {l : Lexeme}
    (read : readLexeme? verbose ('(' :: cs) = some (l, left))
    (closed : left = [] → ∀ grouping, l ≠ .opening grouping) :
    StaysSteady verbose ('(' :: cs) l left := by
  have read : readOpening? (skipBlank verbose cs) = some (l, left) := read
  obtain ⟨shorter, goesOn⟩ := readOpening?_steady _ l left read
  have begun : skipBlank verbose cs ≠ [] := by
    intro blank
    rw [blank] at read shorter
    obtain ⟨rfl, _⟩ := Prod.mk.inj (Option.some.inj read)
    exact closed (List.suffix_nil.1 shorter) _ rfl
  intro t ends
  change readOpening? (skipBlank verbose (cs ++ t)) = _
  rw [skipBlank_append begun]
  exact goesOn t ends

theorem readLexeme?_counted_append {l : Lexeme}
    (read : readLexeme? verbose ('\x7b' :: cs) = some (l, left)) :
    StaysSteady verbose ('\x7b' :: cs) l left ∨
      (left = [] ∧ GoesIntoComment verbose ('\x7b' :: cs) l) := by
  obtain ⟨-, steady | ⟨comments, empty, least, most, rfl, onward⟩⟩ := readCounted?_append read
  · exact Or.inl steady
  · refine Or.inr ⟨empty, comments, ?_⟩
    intro t ends
    refine ⟨_, _, onward t ends, readGreed_suffix least most _, ?_⟩
    intro nothing
    rw [nothing]

/-- A lexeme is read alike whatever ends the pattern behind it, unless it takes the whole text
and the text leaves a comment open. -/
theorem readLexeme?_append {l : Lexeme} (read : readLexeme? verbose cs = some (l, left))
    (closed : left = [] → ∀ grouping, l ≠ .opening grouping) :
    StaysSteady verbose cs l left ∨ (left = [] ∧ GoesIntoComment verbose cs l) := by
  cases cs with
  | nil => cases read
  | cons c rest =>
      by_cases paren : c = '('
      · subst paren
        exact Or.inl (readLexeme?_opening_append read closed)
      · by_cases brace : c = '\x7b'
        · subst brace
          exact readLexeme?_counted_append read
        · exact Or.inl (readLexeme?_cons_steady paren brace rest l left read).2

end ModalLexer.Reading

import ModalLexer.Proofs.Reading.Lexeme

/-! # Runs of the reader

`Reads v cs ls w left` says that the lexemes `ls` are read off a text, one after the other, and
what is left of it.  A run is determined by its text: of two runs over one text the shorter one
begins the longer (`Reads.compare`), and no two of their lexemes begin at one place
(`Reads.eq_of_place`).

A fragment that reads by itself is read alike in front of what ends a pattern, or else it leaves a
comment open and swallows what stands behind it up to the end of the line
(`Reads.through_or_swallows`). -/
set_option autoImplicit false
namespace ModalLexer.Reading

/-- From the beginning of a text, with verbose mode as it is there, some lexemes are read; then
verbose mode is as given, and a rest of the text is left. -/
inductive Reads : Verbosity → List Char → List Lexeme → Verbosity → List Char → Prop
  | done (v : Verbosity) (cs : List Char) : Reads v cs [] v cs
  | step {v between w : Verbosity} {cs behind left : List Char} {l : Lexeme} {ls : List Lexeme}
      (first : readLexeme? v.here (skipBlank v.here cs) = some (l, behind))
      (after : v.after? l = some between) (rest : Reads between behind ls w left) :
      Reads v cs (l :: ls) w left

def Verbosity.place (v : Verbosity) (cs : List Char) : List Char := skipBlank v.here cs

variable {v w u : Verbosity} {cs left mid : List Char} {ls more : List Lexeme}

/-! ## The reader and its runs -/

theorem lexemesFrom?_reads {fuel : Nat} (read : lexemesFrom? fuel v cs = some ls) :
    ∃ w left, Reads v cs ls w left ∧ w.place left = [] := by
  induction fuel generalizing v cs ls with
  | zero =>
      simp only [lexemesFrom?, Option.ite_none_right_eq_some, List.isEmpty_iff] at read
      obtain ⟨blank, same⟩ := read
      obtain rfl := Option.some.inj same
      exact ⟨v, cs, .done v cs, blank⟩
  | succ fuel ih =>
      simp only [lexemesFrom?] at read
      split at read
      · next blank =>
          obtain rfl := Option.some.inj read
          exact ⟨v, cs, .done v cs, blank⟩
      · next c rest begun =>
          obtain ⟨⟨l, behind⟩, first, read⟩ := Option.bind_eq_some_iff.1 read
          obtain ⟨between, after, read⟩ := Option.bind_eq_some_iff.1 read
          obtain ⟨more, later, same⟩ := Option.bind_eq_some_iff.1 read
          obtain rfl := Option.some.inj same
          obtain ⟨w, left, reads, blank⟩ := ih later
          exact ⟨w, left, .step (by rw [begun]; exact first) after reads, blank⟩

theorem Reads.lexemesFrom? (reads : Reads v cs ls w left) (blank : w.place left = [])
    {fuel : Nat} (enough : cs.length ≤ fuel) : lexemesFrom? fuel v cs = some ls := by
  induction reads generalizing fuel with
  | done v cs =>
      have blank : skipBlank v.here cs = [] := blank
      cases fuel with
      | zero => simp [Reading.lexemesFrom?, blank]
      | succ fuel => simp [Reading.lexemesFrom?, blank]
  | @step v between w cs behind left l ls first after rest ih =>
      have shorter := (readLexeme?_suffix first).2
      have within := (skipBlank_suffix v.here cs).length_le
      cases fuel with
      | zero => omega
      | succ fuel =>
          have enough' : behind.length ≤ fuel := by omega
          have later := ih blank enough'
          cases begun : skipBlank v.here cs with
          | nil => rw [begun] at shorter; cases shorter
          | cons c ds =>
              rw [begun] at first
              simp [Reading.lexemesFrom?, begun, first, after, later]

theorem lexemes?_eq_some_iff : lexemes? cs = some ls ↔
    ∃ w left, Reads ⟨false, []⟩ cs ls w left ∧ w.place left = [] :=
  ⟨lexemesFrom?_reads, fun ⟨_, _, reads, blank⟩ => reads.lexemesFrom? blank (Nat.le_refl _)⟩

namespace Reads

theorem next {between : Verbosity} {l : Lexeme} (behind : List Char)
    (first : readLexeme? v.here (v.place cs) = some (l, behind)) (after : v.after? l = some between)
    (rest : Reads between behind ls w left) : Reads v cs (l :: ls) w left :=
  .step first after rest

theorem append (first : Reads v cs ls w mid) (later : Reads w mid more u left) :
    Reads v cs (ls ++ more) u left := by
  induction first with
  | done v cs => exact later
  | step first after _ ih => exact .step first after (ih later)

theorem place_suffix (reads : Reads v cs ls w left) : w.place left <:+ v.place cs := by
  induction reads with
  | done v cs => exact List.suffix_refl _
  | step first _ _ ih =>
      exact (ih.trans (skipBlank_suffix _ _)).trans (readLexeme?_suffix first).1

theorem place_lt (reads : Reads v cs ls w left) (read : ls ≠ []) :
    (w.place left).length < (v.place cs).length := by
  cases reads with
  | done => exact absurd rfl read
  | step first _ rest =>
      have onward := (rest.place_suffix.trans (skipBlank_suffix _ _)).length_le
      exact Nat.lt_of_le_of_lt onward (readLexeme?_suffix first).2

/-- Of two runs over one text the shorter one begins the longer. -/
theorem compare {w' : Verbosity} {left' : List Char} {ls' : List Lexeme}
    (one : Reads v cs ls w left) (other : Reads v cs ls' w' left') :
    (∃ more, ls' = ls ++ more ∧ Reads w left more w' left') ∨
      (∃ more, ls = ls' ++ more ∧ Reads w' left' more w left) := by
  induction one generalizing w' left' ls' with
  | done v cs => exact Or.inl ⟨ls', rfl, other⟩
  | @step v between w cs behind left l ls first after rest ih =>
      cases other with
      | done => exact Or.inr ⟨l :: ls, rfl, .step first after rest⟩
      | step first' after' rest' =>
          obtain ⟨rfl, rfl⟩ := Prod.mk.inj (Option.some.inj (first.symm.trans first'))
          obtain rfl := Option.some.inj (after.symm.trans after')
          rcases ih rest' with ⟨more, rfl, onward⟩ | ⟨more, rfl, onward⟩
          · exact Or.inl ⟨more, rfl, onward⟩
          · exact Or.inr ⟨more, rfl, onward⟩

theorem eq_of_place {w' : Verbosity} {left' : List Char} {ls' : List Lexeme}
    (one : Reads v cs ls w left) (other : Reads v cs ls' w' left')
    (same : w.place left = w'.place left') : ls = ls' ∧ w = w' := by
  rcases one.compare other with ⟨more, rfl, onward⟩ | ⟨more, rfl, onward⟩
  · cases onward with
    | done => exact ⟨(List.append_nil ls).symm, rfl⟩
    | step first after rest =>
        have further := (Reads.step first after rest).place_lt (List.cons_ne_nil _ _)
        rw [same] at further
        exact absurd further (Nat.lt_irrefl _)
  · cases onward with
    | done => exact ⟨List.append_nil ls', rfl⟩
    | step first after rest =>
        have further := (Reads.step first after rest).place_lt (List.cons_ne_nil _ _)
        rw [same] at further
        exact absurd further (Nat.lt_irrefl _)

end Reads

/-! ## Runs inside groups -/

/-- Verbose mode with further groups open on the outside. -/
def Verbosity.inside (v : Verbosity) (outer : List Bool) : Verbosity := ⟨v.here, v.outside ++ outer⟩

@[simp] theorem Verbosity.inside_here (v : Verbosity) (outer : List Bool) :
    (v.inside outer).here = v.here := rfl

@[simp] theorem Verbosity.inside_place (v : Verbosity) (outer : List Bool) :
    (v.inside outer).place = v.place := rfl

theorem Verbosity.after?_inside {l : Lexeme} (after : v.after? l = some w) (outer : List Bool) :
    (v.inside outer).after? l = some (w.inside outer) := by
  obtain ⟨here, outside⟩ := v
  cases l with
  | opening grouping =>
      cases grouping <;>
        (obtain rfl := Option.some.inj after; rfl)
  | closing =>
      cases outside with
      | nil => cases after
      | cons before outside =>
          obtain rfl := Option.some.inj after
          rfl
  | flags change => obtain rfl := Option.some.inj after; rfl
  | atom a => obtain rfl := Option.some.inj after; rfl
  | bar => obtain rfl := Option.some.inj after; rfl
  | repetition least most greedy => obtain rfl := Option.some.inj after; rfl

theorem Reads.eq_nil_of_nil (reads : Reads v [] ls w left) : ls = [] ∧ w = v := by
  cases reads with
  | done => exact ⟨rfl, rfl⟩
  | step first _ _ =>
      have shorter := (readLexeme?_suffix first).2
      have within := (skipBlank_suffix v.here []).length_le
      simp only [List.length_nil] at within
      omega

/-- In front of what ends a pattern a text is read as it is by itself. -/
def ReadsThrough (v : Verbosity) (cs : List Char) (ls : List Lexeme) (w : Verbosity) : Prop :=
  ∀ t, EndsPattern t → ∃ mid, Reads v (cs ++ t) ls w mid ∧ w.place mid = t

/-- A text leaves a comment open: in front of what ends a pattern no lexeme begins between the end
of the text and the end of the comment.  If nothing stands behind the comment, all is read as the
text by itself. -/
structure Swallows (v : Verbosity) (cs : List Char) (ls : List Lexeme) (w : Verbosity) :
    Prop where
  passes : ∀ t, EndsPattern t → ∀ ls' w' mid, Reads v (cs ++ t) ls' w' mid →
    t.length < (w'.place mid).length ∨ w'.place mid <:+ skipFrom true t
  absorbs : ∀ t, EndsPattern t → skipFrom true t = [] →
    ∃ mid, Reads v (cs ++ t) ls w mid ∧ w.place mid = []
  verbose : ∃ front back w' mid, ls = front ++ back ∧ Reads v cs front w' mid ∧ w'.here = true

section Step

variable {between : Verbosity} {behind : List Char} {l : Lexeme}

theorem skipBlank_append_of_read
    (first : readLexeme? v.here (skipBlank v.here cs) = some (l, behind)) (t : List Char) :
    skipBlank v.here (cs ++ t) = skipBlank v.here cs ++ t := by
  apply skipBlank_append
  intro blank
  rw [blank] at first
  cases first

/-- The first lexeme of a run that is read alike hands on what becomes of the rest. -/
theorem ReadsThrough.step (first : readLexeme? v.here (skipBlank v.here cs) = some (l, behind))
    (after : v.after? l = some between)
    (steady : StaysSteady v.here (skipBlank v.here cs) l behind)
    (later : ReadsThrough between behind ls w) : ReadsThrough v cs (l :: ls) w := by
  intro t ends
  obtain ⟨mid, reads, place⟩ := later t ends
  refine ⟨mid, .step ?_ after reads, place⟩
  rw [skipBlank_append_of_read first]
  exact steady t ends

theorem Swallows.step (first : readLexeme? v.here (skipBlank v.here cs) = some (l, behind))
    (after : v.after? l = some between)
    (steady : StaysSteady v.here (skipBlank v.here cs) l behind)
    (later : Swallows between behind ls w) : Swallows v cs (l :: ls) w := by
  have onward (t : List Char) (ends : EndsPattern t) :
      readLexeme? v.here (skipBlank v.here (cs ++ t)) = some (l, behind ++ t) := by
    rw [skipBlank_append_of_read first]
    exact steady t ends
  refine ⟨?_, ?_, ?_⟩
  · intro t ends ls' w' mid reads
    cases reads with
    | done =>
        refine Or.inl (Nat.lt_of_le_of_lt ?_ (readLexeme?_suffix (onward t ends)).2)
        rw [List.length_append]
        omega
    | step first' after' rest =>
        obtain ⟨rfl, rfl⟩ := Prod.mk.inj (Option.some.inj ((onward t ends).symm.trans first'))
        obtain rfl := Option.some.inj (after.symm.trans after')
        exact later.passes t ends _ _ _ rest
  · intro t ends nothing
    obtain ⟨mid, reads, place⟩ := later.absorbs t ends nothing
    exact ⟨mid, .step (onward t ends) after reads, place⟩
  · obtain ⟨front, back, w', mid, rfl, reads, verbose⟩ := later.verbose
    exact ⟨l :: front, back, w', mid, rfl, .step first after reads, verbose⟩

theorem Swallows.last (first : readLexeme? v.here (skipBlank v.here cs) = some (l, behind))
    (after : v.after? l = some between)
    (comment : GoesIntoComment v.here (skipBlank v.here cs) l) : Swallows v cs [l] between := by
  obtain ⟨verbose, comment⟩ := comment
  refine ⟨?_, ?_, ?_⟩
  · intro t ends ls' w' mid reads
    obtain ⟨other, rest, onward, shorter, -⟩ := comment t ends
    rw [← skipBlank_append_of_read first] at onward
    cases reads with
    | done =>
        refine Or.inl ?_
        rw [Verbosity.place, skipBlank_append_of_read first, List.length_append]
        have := (readLexeme?_suffix first).2
        omega
    | step first' after' rest' =>
        obtain ⟨rfl, rfl⟩ := Prod.mk.inj (Option.some.inj (onward.symm.trans first'))
        exact Or.inr ((rest'.place_suffix.trans (skipBlank_suffix _ _)).trans shorter)
  · intro t ends nothing
    obtain ⟨other, rest, onward, shorter, same⟩ := comment t ends
    rw [← skipBlank_append_of_read first] at onward
    rw [nothing] at shorter
    obtain rfl := List.suffix_nil.1 shorter
    obtain rfl := same nothing
    refine ⟨[], .step onward after (.done _ _), ?_⟩
    exact List.suffix_nil.1 (skipBlank_suffix _ _)
  · exact ⟨[], [l], v, cs, rfl, .done v cs, verbose⟩

end Step

/-- What is read by itself to its end, with all groups closed, is read alike in front of what ends
a pattern, however many groups are open around it, or it leaves a comment open. -/
theorem Reads.through_or_swallows (reads : Reads v cs ls w left) (blank : w.place left = [])
    (closed : w.outside = []) :
    (∀ outer, ReadsThrough (v.inside outer) cs ls (w.inside outer)) ∨
      (∀ outer, Swallows (v.inside outer) cs ls (w.inside outer)) := by
  -- Only the blanks at the end and the last lexeme can go on into what stands behind.
  induction reads with
  | done v cs =>
      rcases skipBlank_append_of_nil (show skipBlank v.here cs = [] from blank) with
        clean | ⟨verbose, comment⟩
      · exact Or.inl fun outer t ends => ⟨cs ++ t, .done _ _, clean t ends⟩
      · refine Or.inr fun outer => ⟨fun t ends ls' w' mid reads => Or.inr ?_,
          fun t ends nothing => ⟨cs ++ t, .done _ _, (comment t).trans nothing⟩,
          [], [], v.inside outer, cs, rfl, .done _ _, verbose⟩
        rw [← comment t]
        exact reads.place_suffix
  | @step v between w cs behind left l ls first after rest ih =>
      have opens : behind = [] → ∀ grouping, l ≠ .opening grouping := by
        rintro rfl grouping rfl
        obtain ⟨-, rfl⟩ := rest.eq_nil_of_nil
        cases grouping <;> (obtain rfl := Option.some.inj after; cases closed)
      rcases readLexeme?_append first opens with steady | ⟨rfl, comment⟩
      · rcases ih blank closed with through | swallows
        · exact Or.inl fun outer =>
            (through outer).step first (Verbosity.after?_inside after outer) steady
        · exact Or.inr fun outer =>
            (swallows outer).step first (Verbosity.after?_inside after outer) steady
      · obtain ⟨rfl, rfl⟩ := rest.eq_nil_of_nil
        exact Or.inr fun outer => .last first (Verbosity.after?_inside after outer) comment

/-- A run that comes to a lexeme of a text comes to it whatever ends the pattern behind the text,
however many groups are open around it. -/
theorem Reads.append_of_place (reads : Reads v cs ls w left) (more : w.place left ≠ [])
    (outer : List Bool) {t : List Char} (ends : EndsPattern t) :
    Reads (v.inside outer) (cs ++ t) ls (w.inside outer) (left ++ t) ∧
      w.place (left ++ t) = w.place left ++ t := by
  induction reads with
  | done v cs => exact ⟨.done _ _, skipBlank_append more⟩
  | @step v between w cs behind left l ls first after rest ih =>
      obtain ⟨later, place⟩ := ih more
      have behindMore : behind ≠ [] := by
        rintro rfl
        obtain ⟨rfl, rfl⟩ := rest.eq_nil_of_nil
        cases rest
        exact more (List.suffix_nil.1 (skipBlank_suffix _ _))
      rcases readLexeme?_append first fun empty => absurd empty behindMore with
        steady | ⟨empty, -⟩
      · refine ⟨.step ?_ (Verbosity.after?_inside after outer) later, place⟩
        rw [Verbosity.inside_here, skipBlank_append_of_read first]
        exact steady t ends
      · exact absurd empty behindMore

theorem Reads.split {front back : List Lexeme} {l : Lexeme}
    (reads : Reads v cs (front ++ l :: back) w left) :
    ∃ u mid behind after, Reads v cs front u mid ∧
      readLexeme? u.here (u.place mid) = some (l, behind) ∧ u.after? l = some after ∧
      Reads after behind back w left := by
  induction front generalizing v cs with
  | nil =>
      cases reads with
      | step first after rest => exact ⟨v, cs, _, _, .done v cs, first, after, rest⟩
  | cons l' front ih =>
      cases reads with
      | step first after rest =>
          obtain ⟨u, mid, behind, between, before, next, stepped, later⟩ := ih rest
          exact ⟨u, mid, behind, between, .step first after before, next, stepped, later⟩

end ModalLexer.Reading

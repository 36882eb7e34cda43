import ModalLexer.Proofs.Json.Compact
import ModalLexer.Proofs.Json.Reader
import ModalLexer.Scan.Written

/-! # Checkpoints as text

A checkpoint is read back from the text that is written for it, and from any text of an object that
has its three fields in some order among fields of other names (`Checkpoint.read?_spelled`).  That the
order does not matter is true of all objects (`Checkpoint.ofJson?_perm`). -/
set_option autoImplicit false
namespace ModalLexer.Checkpoint

/-! ## Fields in any order -/

inductive Field
  | line
  | col
  | offset
deriving DecidableEq

def Field.ofName? (name : List Char) : Option Field :=
  if name = "line".toList then some .line
  else if name = "col".toList then some .col
  else if name = "offset".toList then some .offset
  else none

/-- The field that a name in a JSON text names, if it is one of the three.  A name that holds half of a
pair alone is none at all. -/
def Field.ofUnits? (name : List StringUnit) : Option (Option Field) :=
  (Json.text? name).map Field.ofName?

namespace Found

variable (f : Found) (k m : Field) (n : Nat)

def get : Field → Option Nat
  | .line => f.line
  | .col => f.col
  | .offset => f.offset

def put : Field → Found
  | .line => { f with line := some n }
  | .col => { f with col := some n }
  | .offset => { f with offset := some n }

@[simp] theorem get_put_self : (f.put n k).get k = some n := by cases k <;> rfl

theorem get_put_of_ne {k m : Field} (different : k ≠ m) : (f.put n k).get m = f.get m := by
  cases k <;> cases m <;> first | rfl | exact absurd rfl different

theorem put_comm {k m : Field} (different : k ≠ m) (i : Nat) :
    (f.put n k).put i m = (f.put i m).put n k := by
  cases k <;> cases m <;> first | rfl | exact absurd rfl different

def fresh? (value : Json) : Option Nat := if (f.get k).isSome then none else fieldOfJson? value

theorem fresh?_put_self (value : Json) : (f.put n k).fresh? k value = none := by
  rw [fresh?, get_put_self, Option.isSome_some, if_pos rfl]

theorem fresh?_put_of_ne {k m : Field} (different : k ≠ m) (value : Json) :
    (f.put n k).fresh? m value = f.fresh? m value := by
  rw [fresh?, get_put_of_ne f n different, fresh?]

def fill? (value : Json) : Option Found := (f.fresh? k value).map (f.put · k)

theorem fill?_eq (value : Json) : f.fill? k value =
    if (f.get k).isSome then none else (fieldOfJson? value).map (f.put · k) := by
  rw [fill?, fresh?]
  split <;> rfl

theorem add?_eq (name : List StringUnit) (value : Json) : f.add? name value =
    match Field.ofUnits? name with
    | none => none
    | some none => some f
    | some (some k) => f.fill? k value := by
  rw [add?, Field.ofUnits?]
  cases Json.text? name with
  | none => rfl
  | some text =>
      simp only [Option.map_some, Field.ofName?]
      by_cases line : text = "line".toList
      · simp only [if_pos line, fill?_eq]
        rfl
      · by_cases col : text = "col".toList
        · simp only [if_neg line, if_pos col, fill?_eq]
          rfl
        · by_cases offset : text = "offset".toList
          · simp only [if_neg line, if_neg col, if_pos offset, fill?_eq]
            rfl
          · simp only [if_neg line, if_neg col, if_neg offset]

theorem fill?_twice (value other : Json) :
    (f.fill? k value).bind (·.fill? k other) = none := by
  rw [fill?]
  cases f.fresh? k value with
  | none => rfl
  | some n => rw [Option.map_some, Option.bind_some, fill?, fresh?_put_self, Option.map_none]

theorem fill?_comm (value other : Json) : (f.fill? k value).bind (·.fill? m other) =
    (f.fill? m other).bind (·.fill? k value) := by
  by_cases same : k = m
  · obtain rfl := same
    rw [fill?_twice, fill?_twice]
  · have here (n : Nat) := f.fresh?_put_of_ne n same other
    have there (n : Nat) := f.fresh?_put_of_ne n (Ne.symm same) value
    simp only [fill?, Option.bind_map, Function.comp_def, here, there]
    cases f.fresh? k value with
    | none => simp
    | some n => cases f.fresh? m other <;> simp [put_comm f n same]

theorem add?_comm (name name' : List StringUnit) (value value' : Json) :
    (f.add? name value).bind (·.add? name' value') =
      (f.add? name' value').bind (·.add? name value) := by
  simp only [add?_eq]
  rcases Field.ofUnits? name with _ | _ | k <;> rcases Field.ofUnits? name' with _ | _ | m <;>
    simp [fill?_comm]

end Found

theorem foldlM_perm {α β : Type} {f : β → α → Option β}
    (comm : ∀ b x y, (f b x).bind (f · y) = (f b y).bind (f · x)) {xs ys : List α}
    (perm : xs.Perm ys) (b : β) : xs.foldlM f b = ys.foldlM f b := by
  induction perm generalizing b with
  | nil => rfl
  | cons x perm ih =>
      simp only [List.foldlM_cons]
      exact congrArg ((f b x).bind ·) (funext ih)
  | swap x y rest =>
      simp only [List.foldlM_cons, bind, ← Option.bind_assoc]
      rw [comm]
  | trans first second ih ih' => exact (ih b).trans (ih' b)

/-- An object is read in the same way whatever the order of its fields. -/
theorem ofJson?_perm {fields fields' : List (List StringUnit × Json)}
    (perm : fields.Perm fields') : ofJson? (.object fields) = ofJson? (.object fields') := by
  have folded := foldlM_perm (f := fun f (name, value) => Found.add? f name value)
    (fun f x y => f.add?_comm x.1 y.1 x.2 y.2) perm ⟨none, none, none⟩
  exact congrArg (·.bind Found.checkpoint?) folded

/-! ## Reading what is written -/

theorem fieldOfJson?_ofNat {n : Nat} (fits : n ≤ largestField) :
    fieldOfJson? (.ofNat n) = some n := by
  have digits : (Nat.toDigits 10 n).all Char.isDigit = true :=
    List.all_eq_true.2 (Json.digits_toDigits n).2
  have value : (Nat.toDigits 10 n).foldl (fun n c => n * 10 + (c.toNat - '0'.toNat)) 0 = n := by
    have same := Nat.ofDigitChars_toDigits (b := 10) (n := n) (by decide) (by decide)
    rw [Nat.ofDigitChars_eq_foldl] at same
    simpa only [Nat.mul_comm 10] using same
  simp only [Json.ofNat, fieldOfJson?, digits, value, if_true, if_pos fits]

theorem toNat_le_largestField (n : UInt64) : n.toNat ≤ largestField :=
  Nat.le_of_lt_succ n.toNat_lt

variable (c : Checkpoint)

def fields : List (List StringUnit × Json) :=
  [("line", c.line.toNat), ("col", c.col.toNat), ("offset", c.offset)].map fun (name, n) =>
    (Json.units name, .ofNat n)

theorem spellsUnits_fields : ∀ f ∈ c.fields, ∀ left,
    Json.SpellsUnits f.1 (f.1.flatMap Json.writeUnit ++ '"' :: left) left := by
  have printable : ∀ f ∈ [("line", c.line.toNat), ("col", c.col.toNat), ("offset", c.offset)],
      f.1.toList.all (0x20 ≤ ·.toNat) = true := by
    simp only [List.forall_mem_cons]
    exact ⟨rfl, rfl, rfl, nofun⟩
  exact List.forall_mem_map.2 fun f member => Json.spellsUnits_writeString (printable f member)

theorem spells_fields : ∀ f ∈ c.fields, ∀ left,
    Json.Spells (.value f.2) (f.2.compact ++ left) left :=
  List.forall_mem_map.2 fun f _ => Json.spells_ofNat f.2

/-- The compact text of a checkpoint writes its object. -/
theorem writes_compact : Json.Writes c.toJson.compact c.toJson := by
  have writes := Json.writes_compact_object c.spellsUnits_fields c.spells_fields
    (List.cons_ne_nil _ _) [] [] nofun nofun
  rwa [List.nil_append, List.append_nil] at writes

def Unknown (name : List StringUnit) : Prop :=
  ∃ text, Json.text? name = some text ∧ text ∉ ["line".toList, "col".toList, "offset".toList]

theorem Unknown.ofUnits?_eq {name : List StringUnit} (unknown : Unknown name) :
    Field.ofUnits? name = some none := by
  obtain ⟨text, named, other⟩ := unknown
  simp only [List.mem_cons, List.not_mem_nil, or_false, not_or] at other
  rw [Field.ofUnits?, named, Option.map_some, Field.ofName?, if_neg other.1, if_neg other.2.1,
    if_neg other.2.2]

/-- Fields of other names are passed over. -/
theorem foldlM_unknown {others : List (List StringUnit × Json)}
    (unknown : ∀ f ∈ others, Unknown f.1) (f : Found) :
    others.foldlM (fun f (name, value) => Found.add? f name value) f = some f := by
  induction others with
  | nil => rfl
  | cons other others ih =>
      rw [List.forall_mem_cons] at unknown
      have passed : f.add? other.1 other.2 = some f := by rw [Found.add?_eq, unknown.1.ofUnits?_eq]
      rw [List.foldlM_cons]
      exact Option.bind_eq_some_iff.2 ⟨f, passed, ih unknown.2⟩

section Fits

variable {c : Checkpoint} (offset : c.offset ≤ largestField)

include offset

theorem foldlM_fields :
    c.fields.foldlM (fun f (name, value) => Found.add? f name value) ⟨none, none, none⟩ =
      some ⟨some c.line.toNat, some c.col.toNat, some c.offset⟩ := by
  have lineName : Field.ofUnits? (Json.units "line") = some (some .line) := by decide
  have colName : Field.ofUnits? (Json.units "col") = some (some .col) := by decide
  have offsetName : Field.ofUnits? (Json.units "offset") = some (some .offset) := by decide
  have line := fieldOfJson?_ofNat (toNat_le_largestField c.line)
  have col := fieldOfJson?_ofNat (toNat_le_largestField c.col)
  simp only [fields, List.map_cons, List.map_nil, List.foldlM_cons, List.foldlM_nil,
    Found.add?_eq, lineName, colName, offsetName]
  simp [Found.fill?, Found.fresh?, Found.get, Found.put, line, col, fieldOfJson?_ofNat offset]

theorem ofJson?_of_perm {fields others : List (List StringUnit × Json)}
    (perm : fields.Perm (c.fields ++ others)) (unknown : ∀ f ∈ others, Unknown f.1) :
    ofJson? (.object fields) = some c := by
  rw [ofJson?_perm perm, ofJson?, List.foldlM_append, foldlM_fields offset]
  simp only [bind, Option.bind_some, foldlM_unknown unknown, Found.checkpoint?,
    UInt64.ofNat_toNat]

end Fits

/-- A checkpoint whose offset fits into 64 bits is read from the compact text that is written for it.
It is read from each text of an object that has its three fields in some order among fields of other
names, whatever their values, with white space between the tokens.  And a scanner that is turned to
what was read is turned to the checkpoint. -/
theorem read?_spelled {c : Checkpoint} (offset : c.offset ≤ largestField) :
    read? (.ofList c.toJson.compact) = some c ∧
      (∀ (fields others : List (List StringUnit × Json)) (text : String),
        fields.Perm (c.fields ++ others) → (∀ f ∈ others, Unknown f.1) →
          Json.Writes text.toList (.object fields) → read? text = some c) ∧
      ∀ (r : Scanner) (buffer : List Char),
        (read? (.ofList c.toJson.compact)).map (fun d => r.reset buffer (some d)) =
          some (r.reset buffer (some c)) := by
  have written {fields others : List (List StringUnit × Json)} {text : String}
      (perm : fields.Perm (c.fields ++ others)) (unknown : ∀ f ∈ others, Unknown f.1)
      (writes : Json.Writes text.toList (.object fields)) : read? text = some c := by
    rw [read?, Json.read?_eq_some_iff.2 writes, Option.bind_some]
    exact ofJson?_of_perm offset perm unknown
  have compact : read? (.ofList c.toJson.compact) = some c := by
    apply written (.of_eq (List.append_nil c.fields).symm) nofun
    rw [String.toList_ofList]
    exact c.writes_compact
  refine ⟨compact, fun fields others text => written, ?_⟩
  intro r buffer
  rw [compact]
  rfl

/-- Fields in another order, white space, and half of a pair alone in the value of another field. -/
example :
    read? " \x7b\"offset\": 7 , \"note\":[\"\\uD800\"],\n\"line\":0,\"col\":1\x7d " =
      some ⟨0, 1, 7⟩ := by decide +kernel

def farCheckpoint : Checkpoint := ⟨0, 18446744073709551615, 7⟩

def noteField : List StringUnit × Json := (Json.units "note", .array [.null])

/-- The checkpoint is read from its text, and from one in another order with a field more. -/
theorem farCheckpoint_spelled : farCheckpoint.offset ≤ largestField ∧
    read? (.ofList farCheckpoint.toJson.compact) = some farCheckpoint ∧
      read? (.ofList ([' '] ++ (Json.object (noteField :: farCheckpoint.fields.reverse)).compact ++
        ['\n'])) = some farCheckpoint := by
  obtain ⟨compact, spelled, -⟩ := read?_spelled (c := farCheckpoint) (by decide)
  have perm : (noteField :: farCheckpoint.fields.reverse).Perm
      (farCheckpoint.fields ++ [noteField]) :=
    ((List.reverse_perm _).cons noteField).trans (List.perm_append_singleton _ _).symm
  have unknown : ∀ f ∈ [noteField], Unknown f.1 :=
    List.forall_mem_singleton.2 ⟨"note".toList, rfl, by decide⟩
  refine ⟨by decide, compact, spelled _ _ _ perm unknown ?_⟩
  rw [String.toList_ofList]
  apply Json.writes_compact_object _ _ (List.cons_ne_nil _ _) _ _
    (List.forall_mem_singleton.2 rfl) (List.forall_mem_singleton.2 rfl)
  · rw [List.forall_mem_cons]
    refine ⟨Json.spellsUnits_writeString rfl, ?_⟩
    exact fun f member => farCheckpoint.spellsUnits_fields f (List.mem_reverse.1 member)
  · rw [List.forall_mem_cons]
    refine ⟨fun left => .array (.none _) (.lastItem (.null _) (.none _)), ?_⟩
    exact fun f member => farCheckpoint.spells_fields f (List.mem_reverse.1 member)

end ModalLexer.Checkpoint

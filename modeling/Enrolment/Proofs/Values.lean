import Enrolment.Proofs.Grammar

/-!
# Enrolment.Proofs.Values

Values that every payload format can express, and the JSON texts that spell them. A spelling is
free in the blanks between tokens and in the escapes of strings.

* `read?_spelled`: a text that spells a value is read as that value, to its end.
* `spells_compactObject`: what is written for an object spells it.
-/

namespace Enrolment

/-- A value without fractions. The integers are those with a magnitude of 64 bits. -/
inductive Value
  | null
  | boolean (b : Bool)
  | unsigned (n : UInt64)
  /-- The integer `-1 - n`. -/
  | negative (n : UInt64)
  | text (s : String)
  | list (items : List Value)
  | object (members : List (String × Value))

namespace Value

mutual

/-- The tree that a value is read as. A negative integer that does not fit 64 bits with its sign is
a number like any other. -/
def document : Value → Document
  | null => .null
  | boolean b => .boolean b
  | unsigned n => .integer n.toNat
  | negative n =>
    if n.toNat < 0x8000000000000000 then .integer (-(n.toNat + 1 : Nat)) else .other
  | text s => .text s
  | list items => .list (documents items)
  | object members => .table (entries members)

def documents : List Value → List Document
  | [] => []
  | v :: rest => v.document :: documents rest

def entries : List (String × Value) → List (Option String × Document)
  | [] => []
  | (key, v) :: rest => (some key, v.document) :: entries rest

end

def text? : Value → Option String
  | text s => some s
  | _ => none

end Value

namespace Json

/-! ## Spelling -/

mutual

/-- The bytes are a JSON text of the value, from its first byte to its last. -/
inductive Spells : Value → Bytes → Prop
  | null : Spells .null (utf8 "null")
  | boolean (b : Bool) : Spells (.boolean b) (utf8 (if b then "true" else "false"))
  | unsigned (n : UInt64) : Spells (.unsigned n) (signed false n.toNat)
  | negative (n : UInt64) : Spells (.negative n) (signed true (n.toNat + 1))
  | text {s : String} {b : Bytes} (h : Quotes s b) : Spells (.text s) b
  | list {items : List Value} {b : Bytes} (h : SpellsItems items b) :
      Spells (.list items) (ascii '[' :: (b ++ [ascii ']']))
  | object {members : List (String × Value)} {b : Bytes} (h : SpellsMembers members b) :
      Spells (.object members) (ascii '\x7b' :: (b ++ [ascii '\x7d']))

/-- The same, with blanks around the value. -/
inductive SpellsPadded : Value → Bytes → Prop
  | mk {v : Value} {w b w' : Bytes} (before : Blanks w) (h : Spells v b) (behind : Blanks w') :
      SpellsPadded v (w ++ (b ++ w'))

inductive SpellsItems : List Value → Bytes → Prop
  | none {w : Bytes} (h : Blanks w) : SpellsItems [] w
  | last {v : Value} {b : Bytes} (h : SpellsPadded v b) : SpellsItems [v] b
  | more {v v' : Value} {items : List Value} {b b' : Bytes} (h : SpellsPadded v b)
      (rest : SpellsItems (v' :: items) b') : SpellsItems (v :: v' :: items) (b ++ ascii ',' :: b')

/-- A key, the colon and the value. -/
inductive SpellsMember : String → Value → Bytes → Prop
  | mk {key : String} {v : Value} {w k w' b : Bytes} (before : Blanks w) (hkey : Quotes key k)
      (behind : Blanks w') (h : SpellsPadded v b) :
      SpellsMember key v (w ++ (k ++ (w' ++ ascii ':' :: b)))

inductive SpellsMembers : List (String × Value) → Bytes → Prop
  | none {w : Bytes} (h : Blanks w) : SpellsMembers [] w
  | last {m : String × Value} {b : Bytes} (h : SpellsMember m.1 m.2 b) : SpellsMembers [m] b
  | more {m m' : String × Value} {members : List (String × Value)} {b b' : Bytes}
      (h : SpellsMember m.1 m.2 b) (rest : SpellsMembers (m' :: members) b') :
      SpellsMembers (m :: m' :: members) (b ++ ascii ',' :: b')

end

/-! ## Reading -/

theorem Numeral.document_unsigned (n : UInt64) :
    (⟨false, decimalDigits n.toNat, none, none⟩ : Numeral).document =
      (Value.unsigned n).document := by
  have hn : n.toNat < 0x10000000000000000 := n.toNat_lt
  rw [document_decimal false (le_of_lt hn), if_neg Bool.false_ne_true, if_pos hn, Value.document]

theorem Numeral.document_negative (n : UInt64) :
    (⟨true, decimalDigits (n.toNat + 1), none, none⟩ : Numeral).document =
      (Value.negative n).document := by
  have hn : n.toNat < 0x10000000000000000 := n.toNat_lt
  rw [document_decimal true hn, if_pos rfl, Value.document]
  split
  · next h => rw [if_pos (by omega)]
  · next h => rw [if_neg (by omega)]

theorem writes_integer (negative : Bool) (n : Nat) {d : Document}
    (h : (⟨negative, decimalDigits n, none, none⟩ : Numeral).document = d) :
    Writes d (signed negative n) :=
  h ▸ .number (spellsNumeral_signed negative n)

mutual

/-- What spells a value is written for its tree. -/
theorem Spells.writes : ∀ {v : Value} {b : Bytes}, Spells v b → Writes v.document b
  | _, _, .null => .null
  | _, _, .boolean b => .boolean b
  | _, _, .unsigned n => writes_integer false n.toNat (Numeral.document_unsigned n)
  | _, _, .negative n => writes_integer true (n.toNat + 1) (Numeral.document_negative n)
  | _, _, .text h => .string (.text h)
  | _, _, .list h => .list h.writes
  | _, _, .object h => .table h.writes

theorem SpellsPadded.writes : ∀ {v : Value} {b : Bytes}, SpellsPadded v b →
    WritesPadded v.document b
  | _, _, .mk before h behind => .mk before h.writes behind

theorem SpellsItems.writes : ∀ {vs : List Value} {b : Bytes}, SpellsItems vs b →
    WritesItems (Value.documents vs) b
  | _, _, .none h => .none h
  | _, _, .last h => .last h.writes
  | _, _, .more h rest => .more h.writes (List.cons_ne_nil _ _) rest.writes

theorem SpellsMember.writes : ∀ {key : String} {v : Value} {b : Bytes}, SpellsMember key v b →
    WritesMember (some key) v.document b
  | _, _, _, .mk before hkey behind h => .mk before (.text hkey) behind h.writes

theorem SpellsMembers.writes : ∀ {ms : List (String × Value)} {b : Bytes}, SpellsMembers ms b →
    WritesMembers (Value.entries ms) b
  | _, _, .none h => .none h
  | _, _, .last h => .last h.writes
  | _, _, .more h rest => .more h.writes (List.cons_ne_nil _ _) rest.writes

end

/-- A text that spells a value is read as that value. -/
theorem read?_spelled {v : Value} {b : Bytes} (h : SpellsPadded v b) :
    read? b = some v.document :=
  h.writes.reads

/-! ## Writing -/

theorem Spells.padded {v : Value} {b : Bytes} (h : Spells v b) : SpellsPadded v b := by
  have hpadded := SpellsPadded.mk blanks_nil h blanks_nil
  rwa [List.nil_append, List.append_nil] at hpadded

theorem spells_string (s : String) : Spells (.text s) (utf8 (string s)) := .text (quotes_string s)

/-- A member as `compactObject` writes it. -/
theorem spellsMember_written {key text : String} {v : Value} (h : Spells v (utf8 text)) :
    SpellsMember key v (utf8 (string key ++ ":" ++ text)) := by
  have hmember := SpellsMember.mk blanks_nil (quotes_string key) blanks_nil h.padded
  have hcolon : utf8 ":" = [ascii ':'] := by decide
  rwa [utf8_append, utf8_append, hcolon, List.append_assoc, List.singleton_append]

mutual

theorem exists_spells : (v : Value) → ∃ b, Spells v b
  | .null => ⟨_, .null⟩
  | .boolean b => ⟨_, .boolean b⟩
  | .unsigned n => ⟨_, .unsigned n⟩
  | .negative n => ⟨_, .negative n⟩
  | .text s => ⟨_, spells_string s⟩
  | .list vs =>
    let ⟨_, h⟩ := exists_spellsItems vs
    ⟨_, .list h⟩
  | .object ms =>
    let ⟨_, h⟩ := exists_spellsMembers ms
    ⟨_, .object h⟩

theorem exists_spellsItems : (vs : List Value) → ∃ b, SpellsItems vs b
  | [] => ⟨[], .none blanks_nil⟩
  | [v] =>
    let ⟨_, h⟩ := exists_spells v
    ⟨_, .last h.padded⟩
  | v :: v' :: vs =>
    let ⟨_, h⟩ := exists_spells v
    let ⟨_, hrest⟩ := exists_spellsItems (v' :: vs)
    ⟨_, .more h.padded hrest⟩

theorem exists_spellsMembers : (ms : List (String × Value)) → ∃ b, SpellsMembers ms b
  | [] => ⟨[], .none blanks_nil⟩
  | [(key, v)] =>
    let ⟨_, h⟩ := exists_spells v
    ⟨_, .last (.mk blanks_nil (quotes_string key) blanks_nil h.padded)⟩
  | (key, v) :: m' :: ms =>
    let ⟨_, h⟩ := exists_spells v
    let ⟨_, hrest⟩ := exists_spellsMembers (m' :: ms)
    ⟨_, .more (.mk blanks_nil (quotes_string key) blanks_nil h.padded) hrest⟩

end

/-- The texts are written for the members, one for each. -/
def Written : List (String × String) → List (String × Value) → Prop :=
  List.Forall₂ fun w m => w.1 = m.1 ∧ Spells m.2 (utf8 w.2)

theorem spellsMembers_written {written : List (String × String)} {ms : List (String × Value)}
    (h : Written written ms) :
    SpellsMembers ms
      (utf8 (String.intercalate "," (written.map fun w => string w.1 ++ ":" ++ w.2))) := by
  induction h with
  | nil => exact .none blanks_nil
  | @cons w m written ms hm hrest ih =>
    have hmember : SpellsMember m.1 m.2 (utf8 (string w.1 ++ ":" ++ w.2)) := by
      rw [hm.1]
      exact spellsMember_written hm.2
    cases hrest with
    | nil => exact .last hmember
    | cons =>
      have hcomma : utf8 "," = [ascii ','] := by decide
      rw [List.map_cons, List.map_cons, String.intercalate_cons_cons, utf8_append, utf8_append,
        hcomma, List.append_assoc, List.singleton_append]
      exact .more hmember ih

theorem spells_compactObject {written : List (String × String)} {ms : List (String × Value)}
    (h : Written written ms) : Spells (.object ms) (utf8 (compactObject written)) := by
  have hobject := Spells.object (spellsMembers_written h)
  have hopening : utf8 "\x7b" = [ascii '\x7b'] := by decide
  have hclosing : utf8 "\x7d" = [ascii '\x7d'] := by decide
  rwa [compactObject, utf8_append, utf8_append, hopening, hclosing, List.append_assoc]

end Json

end Enrolment

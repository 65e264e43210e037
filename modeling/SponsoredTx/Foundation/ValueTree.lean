import Mathlib.Data.Int.Notation
import Mathlib.Data.List.Basic
import Mathlib.Tactic.Common

/-!
# Values decoded without knowing their type

A dynamic decoder returns a tree: composites and variants with named or unnamed fields, bit
sequences and primitives (`Value`). How a field is looked up by its name, a number is read and a
value is printed belongs to the library of the decoder: these are the operations of `ValueReader`,
and `ValueReader.Documented` is what is relied on.

`Value.walk` visits every node before its children and threads a state through, which is what a
recursive search over such a tree does; `walk_eq_foldl` says in which order, and `walk_of_ignored`
that a subtree without anything to see changes nothing.
-/

set_option autoImplicit false
set_option relaxedAutoImplicit false

namespace SponsoredTx.Foundation.ValueTree

/-! ### Values -/

/-- The leaves of a value. Numbers beyond 128 bits are kept as bytes. -/
inductive Primitive
  | bool (b : Bool)
  | char (c : Char)
  | string (text : String)
  | u128 (n : ℕ)
  | i128 (n : ℤ)
  | u256 (bytes : List UInt8)
  | i256 (bytes : List UInt8)

mutual

/-- A decoded value. -/
inductive Value
  | composite (values : Composite)
  | variant (name : String) (values : Composite)
  | bitSequence (bits : List Bool)
  | primitive (leaf : Primitive)

/-- The fields of a composite or of a variant. -/
inductive Composite
  | named (fields : List (String × Value))
  | unnamed (values : List Value)

end

/-! ### Reading values -/

/-- The operations of a library of dynamic values: the field with a name, of some fields and of a
value, the number in a value, and the text of a value. -/
structure ValueReader where
  fieldAt : Composite → String → Option Value
  valueAt : Value → String → Option Value
  asU128 : Value → Option ℕ
  display : Value → String

/-- A letter, then letters, digits and underscores. -/
def isIdentifier (name : String) : Bool :=
  match name.toList with
  | [] => false
  | first :: rest => first.isAlpha && rest.all fun c ↦ c.isAlphanum || c == '_'

/-- What the library documents about them. A name finds the first field under it. A variant is
printed as its name and its fields; names that are no identifiers are printed in another way. -/
structure ValueReader.Documented (reader : ValueReader) : Prop where
  fieldAt_nil : ∀ asked, reader.fieldAt (.named []) asked = none
  fieldAt_cons : ∀ name value rest asked, reader.fieldAt (.named ((name, value) :: rest)) asked =
    if name = asked then some value else reader.fieldAt (.named rest) asked
  fieldAt_unnamed : ∀ values asked, reader.fieldAt (.unnamed values) asked = none
  valueAt_composite : ∀ values asked,
    reader.valueAt (.composite values) asked = reader.fieldAt values asked
  valueAt_variant : ∀ name values asked,
    reader.valueAt (.variant name values) asked = reader.fieldAt values asked
  valueAt_primitive : ∀ leaf asked, reader.valueAt (.primitive leaf) asked = none
  asU128_u128 : ∀ n, reader.asU128 (.primitive (.u128 n)) = some n
  display_variant : ∀ name values, isIdentifier name = true →
    reader.display (.variant name (.unnamed values)) =
      name ++ " (" ++ String.intercalate ", " (values.map reader.display) ++ ")"

section Reference

variable (other : Value → String)

mutual

/-- The text of unnamed fields and of variants with unnamed fields; the text of anything else is
left open. -/
def Value.print : Value → String
  | .variant name (.unnamed values) =>
    name ++ " (" ++ String.intercalate ", " (printValues values) ++ ")"
  | .composite (.unnamed values) => "(" ++ String.intercalate ", " (printValues values) ++ ")"
  | value => other value

/-- The texts of some values. -/
def printValues : List Value → List String
  | [] => []
  | value :: rest => value.print :: printValues rest

end

theorem printValues_eq_map (values : List Value) :
    printValues other values = values.map (Value.print other) := by
  induction values with
  | nil => rfl
  | cons value rest ih => rw [printValues, List.map_cons, ih]

/-- The first field with a name; unnamed fields have none. -/
def Composite.find : Composite → String → Option Value
  | .named fields, asked => (fields.find? fun field ↦ field.1 = asked).map Prod.snd
  | .unnamed _, _ => none

/-- A reader that behaves as documented. -/
def referenceReader : ValueReader where
  fieldAt := Composite.find
  valueAt
    | .composite values, asked => values.find asked
    | .variant _ values, asked => values.find asked
    | _, _ => none
  asU128
    | .primitive (.u128 n) => some n
    | .primitive (.i128 n) => if 0 ≤ n then some n.toNat else none
    | _ => none
  display := Value.print other

theorem referenceReader_documented : (referenceReader other).Documented where
  fieldAt_nil := fun _ ↦ rfl
  fieldAt_cons := by
    intro name value rest asked
    by_cases hname : name = asked <;>
      simp [referenceReader, Composite.find, hname]
  fieldAt_unnamed := fun _ _ ↦ rfl
  valueAt_composite := fun _ _ ↦ rfl
  valueAt_variant := fun _ _ _ ↦ rfl
  valueAt_primitive := fun _ _ ↦ rfl
  asU128_u128 := fun _ ↦ rfl
  display_variant := by
    intro name values _
    simp only [referenceReader, Value.print, printValues_eq_map]

end Reference

/-! ### Walks -/

section Walk

variable {σ : Type} (visit : σ → Value → σ)

mutual

/-- Visit a node, then walk through its children. -/
def Value.walk : Value → σ → σ
  | .composite values, s => values.walk (visit s (.composite values))
  | .variant name values, s => values.walk (visit s (.variant name values))
  | .bitSequence bits, s => visit s (.bitSequence bits)
  | .primitive leaf, s => visit s (.primitive leaf)

/-- Walk through the fields in their order. -/
def Composite.walk : Composite → σ → σ
  | .named fields, s => walkFields fields s
  | .unnamed values, s => walkValues values s

/-- Walk through named fields. -/
def walkFields : List (String × Value) → σ → σ
  | [], s => s
  | (_, child) :: rest, s => walkFields rest (child.walk s)

/-- Walk through unnamed fields. -/
def walkValues : List Value → σ → σ
  | [], s => s
  | child :: rest, s => walkValues rest (child.walk s)

end

mutual

/-- The nodes of a value, each before its children. -/
def Value.nodes : Value → List Value
  | .composite values => .composite values :: values.nodes
  | .variant name values => .variant name values :: values.nodes
  | .bitSequence bits => [.bitSequence bits]
  | .primitive leaf => [.primitive leaf]

/-- The nodes of some fields. -/
def Composite.nodes : Composite → List Value
  | .named fields => nodesOfFields fields
  | .unnamed values => nodesOfValues values

/-- The nodes of named fields. -/
def nodesOfFields : List (String × Value) → List Value
  | [] => []
  | (_, child) :: rest => child.nodes ++ nodesOfFields rest

/-- The nodes of unnamed fields. -/
def nodesOfValues : List Value → List Value
  | [] => []
  | child :: rest => child.nodes ++ nodesOfValues rest

end

mutual

/-- A walk visits the nodes in their order, by induction on the value. -/
theorem Value.walk_eq_foldl (value : Value) (s : σ) :
    value.walk visit s = value.nodes.foldl visit s := by
  cases value with
  | composite values =>
    rw [Value.walk, Value.nodes, List.foldl_cons]
    exact values.walk_eq_foldl _
  | variant name values =>
    rw [Value.walk, Value.nodes, List.foldl_cons]
    exact values.walk_eq_foldl _
  | bitSequence bits => rw [Value.walk, Value.nodes, List.foldl_cons, List.foldl_nil]
  | primitive leaf => rw [Value.walk, Value.nodes, List.foldl_cons, List.foldl_nil]

/-- A walk through some fields visits their nodes in their order. -/
theorem Composite.walk_eq_foldl (values : Composite) (s : σ) :
    values.walk visit s = values.nodes.foldl visit s := by
  cases values with
  | named fields =>
    rw [Composite.walk, Composite.nodes]
    exact walkFields_eq_foldl fields s
  | unnamed values =>
    rw [Composite.walk, Composite.nodes]
    exact walkValues_eq_foldl values s

theorem walkFields_eq_foldl (fields : List (String × Value)) (s : σ) :
    walkFields visit fields s = (nodesOfFields fields).foldl visit s := by
  cases fields with
  | nil => rw [walkFields, nodesOfFields, List.foldl_nil]
  | cons field rest =>
    rw [walkFields, nodesOfFields, List.foldl_append, Value.walk_eq_foldl field.2 s]
    exact walkFields_eq_foldl rest _

theorem walkValues_eq_foldl (values : List Value) (s : σ) :
    walkValues visit values s = (nodesOfValues values).foldl visit s := by
  cases values with
  | nil => rw [walkValues, nodesOfValues, List.foldl_nil]
  | cons child rest =>
    rw [walkValues, nodesOfValues, List.foldl_append, Value.walk_eq_foldl child s]
    exact walkValues_eq_foldl rest _

end

/-- A value whose nodes all leave a state as it is leaves it as it is. -/
theorem Value.walk_of_ignored {visit : σ → Value → σ} {value : Value} {s : σ}
    (hignored : ∀ node ∈ value.nodes, visit s node = s) : value.walk visit s = s := by
  rw [Value.walk_eq_foldl]
  generalize value.nodes = nodes at hignored ⊢
  induction nodes with
  | nil => rfl
  | cons node rest ih =>
    rw [List.foldl_cons, hignored node List.mem_cons_self]
    exact ih fun other hother ↦ hignored other (List.mem_cons_of_mem node hother)

end Walk

end SponsoredTx.Foundation.ValueTree

import SchemaMarkup.Calendar
import SchemaMarkup.Number.Numeral
import SchemaMarkup.Number.Shortest

set_option autoImplicit false

/-!
# Values

The values that a structured document, such as a vocabulary file, can hold.

## Main definitions

* `SchemaMarkup.Value` — the values.
* `SchemaMarkup.Value.isBlank` — the values that stand for nothing.
* `SchemaMarkup.Value.items?` — what a value holds, one after the other.
* `SchemaMarkup.Value.label` — a value as a name.

## Main results

* `SchemaMarkup.Value.label_text` — a text is its own name.
* `SchemaMarkup.Value.items?_list` — a list holds its items.
-/

namespace SchemaMarkup

/-- A value of a structured document. -/
inductive Value where
  | null
  | bool (b : Bool)
  | int (n : Int)
  | float (x : Double)
  | date (d : Date)
  | moment (m : Moment)
  | bytes (bs : List UInt8)
  | text (s : String)
  | list (vs : List Value)
  | pair (first second : Value)
  /-- A set: numbers by their size, other members in the order in which they were first written. -/
  | set (vs : List Value)
  | map (entries : List (Value × Value))
  deriving Repr, Inhabited

namespace Value

/-- The value stands for nothing: it is absent, false, zero or empty. -/
def isBlank : Value → Bool
  | null => true
  | bool b => !b
  | int n => n == 0
  | float x => x.isZero
  | date _ | moment _ | pair _ _ => false
  | bytes bs => bs.isEmpty
  | text s => s == ""
  | list vs | set vs => vs.isEmpty
  | map es => es.isEmpty

/-- What a value holds, one after the other: the items of a list, the characters of a text, the keys
of a map. A number, a day and the like hold nothing. -/
def items? : Value → Option (List Value)
  | list vs | set vs => some vs
  | pair a b => some [a, b]
  | map es => some (es.map Prod.fst)
  | text s => some (s.toList.map fun c => text (String.singleton c))
  | bytes bs => some (bs.map fun b => int b.toNat)
  | _ => none

mutual

/-- How a value is shown inside another. -/
def shown : Value → List Char
  | null => "None".toList
  | bool b => if b then "True".toList else "False".toList
  | int n => (toString n).toList
  | float x => x.text.toList
  | date d => d.text.toList
  | moment m => m.text.toList
  | bytes bs => Text.bytesLiteral bs
  | text s => Text.literal s.toList
  | list vs => '[' :: shownAll vs ++ [']']
  | pair a b => '(' :: shown a ++ [',', ' '] ++ shown b ++ [')']
  | set [] => "set()".toList
  | set vs => '\x7b' :: shownAll vs ++ ['\x7d']
  | map es => '\x7b' :: shownEntries es ++ ['\x7d']

/-- Values with commas between them. -/
def shownAll : List Value → List Char
  | [] => []
  | [v] => shown v
  | v :: vs => shown v ++ [',', ' '] ++ shownAll vs

/-- Entries with commas between them. -/
def shownEntries : List (Value × Value) → List Char
  | [] => []
  | [(k, v)] => shown k ++ [':', ' '] ++ shown v
  | (k, v) :: es => shown k ++ [':', ' '] ++ shown v ++ [',', ' '] ++ shownEntries es

end

/-- A value as a name. A text is its own name; any other value is named as it is shown. -/
def label : Value → String
  | text s => s
  | v => String.ofList v.shown

/-- The value has a whole number in it with more digits than are ever written. -/
def isUnwritable : Value → Bool
  | int n => Nat.pow 10 Numeral.digitLimit ≤ n.natAbs
  | pair a b => a.isUnwritable || b.isUnwritable
  | _ => false

/-- The entry of a map at a textual key. -/
def entry? (key : String) : List (Value × Value) → Option Value
  | [] => none
  | (text k, v) :: es => if k = key then some v else entry? key es
  | _ :: es => entry? key es

/-- A text is its own name. -/
@[simp] theorem label_text (s : String) : (text s).label = s := rfl

/-- A list holds its items. -/
@[simp] theorem items?_list (vs : List Value) : (list vs).items? = some vs := rfl

end Value

end SchemaMarkup

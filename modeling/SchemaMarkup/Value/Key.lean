import SchemaMarkup.Table
import SchemaMarkup.Value.Basic

set_option autoImplicit false

/-!
# Keys

Two values are the same key when they are equal as numbers, as texts, as moments and so on, however
they are written: the truth values are the numbers zero and one, and moments on different clocks are
compared in universal time. A list, a set and a map are no keys.

## Main definitions

* `SchemaMarkup.Key` — the keys, each in one form.
* `SchemaMarkup.Value.key?` — the key that a value is.
* `SchemaMarkup.Value.enter` — write an entry of a map.
* `SchemaMarkup.Value.entries?` — the entries of a map that is written entry by entry.

## Main results

* `SchemaMarkup.Value.keys_enter` — what writing an entry does to the keys.
-/

namespace SchemaMarkup

/-- A key, in the one form that equal values share. -/
inductive Key where
  | text (s : String)
  | null
  /-- The whole number `n` over two to the power `k`, in lowest terms. -/
  | number (n : Int) (k : Nat)
  | infinite (negative : Bool)
  | nan
  | date (d : Date)
  /-- A moment in microseconds, and whether its clock is known. -/
  | moment (zoned : Bool) (instant : Int)
  | bytes (bs : List UInt8)
  | pair (first second : Key)
  deriving DecidableEq, Repr, Inhabited

namespace Key

/-- Compare two numbers, each a whole number over a power of two. -/
def numberPrecedes (n : Int) (k : Nat) (n' : Int) (k' : Nat) : Bool :=
  n * Int.pow 2 k' ≤ n' * Int.pow 2 k

/-- The first key is a number that does not stand behind the second one, a number too. -/
def isNumberBefore : Key → Key → Bool
  | number n k, number n' k' => numberPrecedes n k n' k'
  | _, _ => false

end Key

namespace Value

/-- The key that a value is, if it is one. -/
def key? : Value → Option Key
  | null => some .null
  | bool b => some (.number (if b then 1 else 0) 0)
  | int n => some (.number n 0)
  | float (.finite negative m q) =>
    some (.number (Double.lowest negative m q).1 (Double.lowest negative m q).2)
  | float (.infinite negative) => some (.infinite negative)
  | float .nan => some .nan
  | date d => some (.date d)
  | moment m => some (.moment m.zone.isSome m.instant)
  | bytes bs => some (.bytes bs)
  | text s => some (.text s)
  | pair a b =>
    match a.key?, b.key? with
    | some k, some l => some (.pair k l)
    | _, _ => none
  | list _ | set _ | map _ => none

/-- A text is the key that it is written as. -/
@[simp] theorem key?_text (s : String) : (text s).key? = some (.text s) := by simp [key?]

/-- Write an entry of a map. A key that is there already keeps its place and the form in which it
was first written. -/
def enter (key : Key) (k v : Value) (t : List (Key × Value × Value)) :
    List (Key × Value × Value) :=
  Table.put key (((t.lookup key).map Prod.fst).getD k, v) t

/-- Writing an entry adds its key at the end unless it is there already. -/
theorem keys_enter (key : Key) (k v : Value) (t : List (Key × Value × Value)) :
    Table.keys (enter key k v t) =
      if key ∈ Table.keys t then Table.keys t else Table.keys t ++ [key] :=
  Table.keys_put key _ t

/-- The entries of a map that is written entry by entry, each with its key, unless one of them has
no key. -/
def entries? (es : List (Value × Value)) : Option (List (Key × Value × Value)) :=
  es.foldlM (fun t e => e.1.key?.map fun key => enter key e.1 e.2 t) []

/-- The values of a set that is written value by value, numbers by their size. -/
def members? (vs : List Value) : Option (List Value) :=
  (entries? (vs.map fun v => (v, null))).map fun t =>
    let numbers := t.all fun e => e.1.isNumberBefore e.1
    let t := if numbers then t.mergeSort fun e e' => e.1.isNumberBefore e'.1 else t
    t.map fun e => e.2.1

end Value

end SchemaMarkup

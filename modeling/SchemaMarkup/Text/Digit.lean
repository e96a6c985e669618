set_option autoImplicit false

/-!
# Decimal digits

The characters that write a decimal digit, in every script that has digits of its own. The ten
digits of a script follow one another, so the digit for zero tells where they are.

## Main definitions

* `SchemaMarkup.Text.digitZeros` — the digits for zero.
* `SchemaMarkup.Text.digit?` — the number that a digit stands for.

## Main results

* `SchemaMarkup.Text.digit?_lt_ten` — a digit stands for a number below ten.
* `SchemaMarkup.Text.digit?_of_isDigit` — the usual digits are among them.
-/

namespace SchemaMarkup.Text

/-- The code points of the digits for zero, after the fourteenth edition of the character
database. -/
def digitZeros : List Nat := [
  0x30, 0x660, 0x6F0, 0x7C0, 0x966, 0x9E6, 0xA66, 0xAE6, 0xB66, 0xBE6, 0xC66, 0xCE6, 0xD66,
  0xDE6, 0xE50, 0xED0, 0xF20, 0x1040, 0x1090, 0x17E0, 0x1810, 0x1946, 0x19D0, 0x1A80, 0x1A90,
  0x1B50, 0x1BB0, 0x1C40, 0x1C50, 0xA620, 0xA8D0, 0xA900, 0xA9D0, 0xA9F0, 0xAA50, 0xABF0, 0xFF10,
  0x104A0, 0x10D30, 0x11066, 0x110F0, 0x11136, 0x111D0, 0x112F0, 0x11450, 0x114D0, 0x11650,
  0x116C0, 0x11730, 0x118E0, 0x11950, 0x11C50, 0x11D50, 0x11DA0, 0x16A60, 0x16AC0, 0x16B50,
  0x1D7CE, 0x1D7D8, 0x1D7E2, 0x1D7EC, 0x1D7F6, 0x1E140, 0x1E2F0, 0x1E950, 0x1FBF0]

/-- The number that a decimal digit stands for. -/
def digit? (c : Char) : Option Nat :=
  (digitZeros.find? fun z => z ≤ c.toNat && c.toNat < z + 10).map fun z => c.toNat - z

/-- The character is a decimal digit. -/
def isDecimal (c : Char) : Bool := (digit? c).isSome

/-- A digit stands for a number below ten. -/
theorem digit?_lt_ten {c : Char} {n : Nat} (h : digit? c = some n) : n < 10 := by
  obtain ⟨z, hz, rfl⟩ := Option.map_eq_some_iff.1 h
  have := List.find?_some hz
  simp only [Bool.and_eq_true, decide_eq_true_eq] at this
  omega

/-- The usual digits are decimal digits. -/
theorem digit?_of_isDigit {c : Char} (h : c.isDigit = true) :
    digit? c = some (c.toNat - '0'.toNat) := by
  simp only [Char.isDigit, Bool.and_eq_true, decide_eq_true_eq] at h
  have h1 : 0x30 ≤ c.toNat := h.1
  have h2 : c.toNat < 0x30 + 10 := Nat.lt_succ_of_le h.2
  simp only [digit?, digitZeros]
  rw [List.find?_cons_of_pos (by simp only [h1, h2, decide_true, Bool.and_self])]
  rfl

end SchemaMarkup.Text

set_option autoImplicit false

/-!
# Text files

The bytes of a text file and the text they hold. A file that is not well-formed is refused with the
reason and the place of its first faulty sequence. A line may end in a carriage return, a line feed
or both; the text has a line feed at each.

## Main definitions

* `SchemaMarkup.Text.Utf8.Fault` — why and where the bytes are no text.
* `SchemaMarkup.Text.Utf8.decode` — the characters of a byte sequence.
* `SchemaMarkup.Text.joinLineEnds` — every line end as a line feed.
* `SchemaMarkup.Text.ofFile` — the text of a file.
-/

namespace SchemaMarkup.Text

namespace Utf8

/-- The ways in which a sequence of bytes is no character. -/
inductive Reason where
  /-- The first byte begins no character. -/
  | startByte
  /-- A byte that should continue the character does not. -/
  | continuationByte
  /-- The bytes end inside the character. -/
  | endOfData
  deriving DecidableEq, Repr

/-- The reason in words. -/
def Reason.message : Reason → String
  | .startByte => "invalid start byte"
  | .continuationByte => "invalid continuation byte"
  | .endOfData => "unexpected end of data"

/-- The first faulty sequence of a file: what is wrong with it, the offset of its first byte, and
its bytes. -/
structure Fault where
  reason : Reason
  offset : Nat
  bytes : List Nat
  deriving DecidableEq, Repr

/-- A fault in words. -/
def Fault.message (f : Fault) : String :=
  let reason := f.reason.message
  let offset := f.offset
  s!"not valid UTF-8 ({reason} at byte {offset})"

/-- A fault in full, for a file that is decoded while it is read. Bytes at the end of the file are
decoded on their own, so that they are counted from the first of them. -/
def Fault.account (f : Fault) : String :=
  let reason := f.reason.message
  let first := if f.reason = .endOfData then 0 else f.offset
  let last := first + f.bytes.length - 1
  match f.bytes with
  | [b] =>
    let digits := String.ofList ((Nat.toDigits 16 (0x100 + b)).drop 1)
    s!"'utf-8' codec can't decode byte 0x{digits} in position {first}: {reason}"
  | _ => s!"'utf-8' codec can't decode bytes in position {first}-{last}: {reason}"

/-- The byte continues a character. -/
def isTail (b : Nat) : Bool := 0x80 ≤ b && b ≤ 0xBF

/-- The byte may come second after the first byte `a`: the shortest form is the only one, surrogates
have none, and nothing lies beyond the last code point. -/
def isSecond (a b : Nat) : Bool :=
  isTail b && !(a == 0xE0 && b < 0xA0) && !(a == 0xED && 0xA0 ≤ b) && !(a == 0xF0 && b < 0x90) &&
    !(a == 0xF4 && 0x90 ≤ b)

/-- How many bytes follow the first byte of a character, if it begins one. -/
def tailCount? (a : Nat) : Option Nat :=
  if a < 0x80 then some 0
  else if 0xC2 ≤ a && a ≤ 0xDF then some 1
  else if 0xE0 ≤ a && a ≤ 0xEF then some 2
  else if 0xF0 ≤ a && a ≤ 0xF4 then some 3
  else none

/-- Read the `n` bytes that continue a character whose bits so far are `acc`. -/
def readTail : Nat → Nat → List Nat → Except Reason (Nat × List Nat)
  | 0, acc, bs => .ok (acc, bs)
  | _ + 1, _, [] => .error .endOfData
  | n + 1, acc, b :: bs =>
    if isTail b then readTail n (acc * 64 + (b - 0x80)) bs else .error .continuationByte

/-- Read one character, whose first byte is `a`, from the bytes that follow it. -/
def readChar (a : Nat) (bs : List Nat) : Except Reason (Char × List Nat) :=
  match tailCount? a with
  | none => .error .startByte
  | some 0 => .ok (Char.ofNat a, bs)
  | some (n + 1) =>
    match bs with
    | [] => .error .endOfData
    | b :: rest =>
      if isSecond a b then
        let first := a % Nat.pow 2 (5 - n)
        (readTail n (first * 64 + (b - 0x80)) rest).map fun r => (Char.ofNat r.1, r.2)
      else
        .error .continuationByte

theorem length_le_of_readTail {n acc m : Nat} {bs rest : List Nat}
    (h : readTail n acc bs = .ok (m, rest)) : rest.length ≤ bs.length := by
  induction n generalizing acc bs with
  | zero =>
    simp only [readTail, Except.ok.injEq, Prod.mk.injEq] at h
    simp [h.2]
  | succ n ih =>
    cases bs with
    | nil => simp [readTail] at h
    | cons b bs =>
      rw [readTail] at h
      split at h
      · exact Nat.le_succ_of_le (ih h)
      · simp at h

/-- Reading a character never lengthens what is left. -/
theorem length_le_of_readChar {a : Nat} {c : Char} {bs rest : List Nat}
    (h : readChar a bs = .ok (c, rest)) : rest.length ≤ bs.length := by
  rw [readChar] at h
  split at h
  · simp at h
  · simp only [Except.ok.injEq, Prod.mk.injEq] at h
    simp [h.2]
  · split at h
    · simp at h
    · rename_i _ n _ _ b tl
      simp only at h
      split at h
      · cases hr : readTail n (a % Nat.pow 2 (5 - n) * 64 + (b - 0x80)) tl with
        | error e =>
          rw [hr] at h
          simp [Except.map] at h
        | ok r =>
          simp only [hr, Except.map, Except.ok.injEq, Prod.mk.injEq] at h
          have := length_le_of_readTail (hr.trans (congrArg _ (Prod.eta r).symm))
          rw [h.2] at this
          exact Nat.le_succ_of_le this
      · simp at h

/-- The bytes of a faulty sequence, given all bytes from its first one on: those that could have
been part of a character. -/
def faultyBytes (a : Nat) (bs : List Nat) : Reason → List Nat
  | .startByte => [a]
  | .endOfData => a :: bs
  | .continuationByte =>
    if bs.head?.any (isSecond a) then a :: bs.takeWhile isTail else [a]

/-- How many bytes a character has whose first byte is given. -/
def byteCount (a : Nat) : Nat := (tailCount? a).getD 0 + 1

/-- The characters of the bytes that begin at the offset `start`, in front of them the characters
`acc` backwards. -/
def decodeFrom (acc : List Char) (start : Nat) (bytes : List Nat) : Except Fault (List Char) :=
  match bytes with
  | [] => .ok acc.reverse
  | a :: bs =>
    match _ : readChar a bs with
    | .error reason => .error ⟨reason, start, faultyBytes a bs reason⟩
    | .ok (c, rest) => decodeFrom (c :: acc) (start + byteCount a) rest
termination_by bytes.length
decreasing_by
  have := length_le_of_readChar ‹readChar a bs = _›
  simp only [List.length_cons]
  omega

/-- The characters of a byte sequence, or its first fault. -/
def decode (bytes : List Nat) : Except Fault (List Char) := decodeFrom [] 0 bytes

end Utf8

/-- Every line end as a line feed: a carriage return becomes one, together with the line feed after
it if there is one. -/
def joinLineEnds : List Char → List Char
  | [] => []
  | '\r' :: '\n' :: cs => '\n' :: joinLineEnds cs
  | '\r' :: cs => '\n' :: joinLineEnds cs
  | c :: cs => c :: joinLineEnds cs

/-- The text of a file, its line ends joined. -/
def ofFile (bytes : List UInt8) : Except Utf8.Fault String :=
  (Utf8.decode (bytes.map (·.toNat))).map fun cs => String.ofList (joinLineEnds cs)

/-- The bytes of a file that holds the text. -/
def toFile (s : String) : List UInt8 := s.toUTF8.toList

/-- A text read from a file has no carriage return. -/
theorem not_mem_joinLineEnds (s : List Char) : '\r' ∉ joinLineEnds s := by
  fun_induction joinLineEnds s with
  | case1 => simp
  | case2 cs ih => simpa using ih
  | case3 cs _ ih => simpa using ih
  | case4 c cs _ hc ih =>
    simp only [List.mem_cons, not_or]
    exact ⟨fun h => hc h.symm, ih⟩

end SchemaMarkup.Text

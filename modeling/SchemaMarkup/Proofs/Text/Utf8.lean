import Mathlib.Tactic.SplitIfs
import SchemaMarkup.Proofs.Text.LineEnds

set_option autoImplicit false

/-!
# The texts of files

Reading bytes undoes writing them: the bytes that are read as characters are those that the
characters are written in, and no others. So a file holds a text exactly if its bytes are those of a
text, whose line ends are then joined.

## Main definitions

* `SchemaMarkup.Text.Utf8.encodeChar` — the bytes of a character.

## Main results

* `SchemaMarkup.Text.Utf8.readChar_encodeChar`, `SchemaMarkup.Text.Utf8.eq_encodeChar_of_readChar` —
  a character is read from its bytes, and from no others.
* `SchemaMarkup.Text.Utf8.decode_eq_ok_iff` — the bytes that are read as given characters.
* `SchemaMarkup.Text.ofFile_eq_ok_iff` — the files that hold a given text.
-/

namespace SchemaMarkup.Text

namespace Utf8

variable {a b n m acc : Nat} {bs rest bytes : List Nat} {c : Char} {cs : List Char}

/-! ## Bytes and characters -/

/-- The bytes of a character. -/
def encodeChar (c : Char) : List Nat := (String.utf8EncodeChar c).map UInt8.toNat

/-- A character is no surrogate, and not beyond the last code point. -/
lemma toNat_lt_or (c : Char) : c.toNat < 0xD800 ∨ 0xDFFF < c.toNat ∧ c.toNat < 0x110000 :=
  c.valid

lemma toNat_ofNat (h : m < 0xD800 ∨ 0xDFFF < m ∧ m < 0x110000) : (Char.ofNat m).toNat = m := by
  have hvalid : m.isValidChar := h
  rw [Char.ofNat, dif_pos hvalid]
  rfl

/-- The bytes of a character by the number of its bits. -/
lemma encodeChar_eq (c : Char) :
    encodeChar c =
      if c.toNat < 0x80 then [c.toNat]
      else if c.toNat < 0x800 then [0xC0 + c.toNat / 64, 0x80 + c.toNat % 64]
      else if c.toNat < 0x10000 then
        [0xE0 + c.toNat / 4096, 0x80 + c.toNat / 64 % 64, 0x80 + c.toNat % 64]
      else
        [0xF0 + c.toNat / 262144, 0x80 + c.toNat / 4096 % 64, 0x80 + c.toNat / 64 % 64,
          0x80 + c.toNat % 64] := by
  have hbounds := toNat_lt_or c
  rw [encodeChar, String.utf8EncodeChar, ← Char.toNat]
  simp only [Nat.lt_succ_iff.symm]
  split_ifs <;>
    simp only [List.map_cons, List.map_nil, UInt8.toNat_ofNat', List.cons.injEq, and_true] <;> omega

lemma isTail_eq_true_iff : isTail b = true ↔ 0x80 ≤ b ∧ b ≤ 0xBF := by
  simp [isTail]

lemma isSecond_eq_true_iff : isSecond a b = true ↔
    (0x80 ≤ b ∧ b ≤ 0xBF) ∧ (a = 0xE0 → 0xA0 ≤ b) ∧ (a = 0xED → b < 0xA0) ∧
      (a = 0xF0 → 0x90 ≤ b) ∧ (a = 0xF4 → b < 0x90) := by
  simp only [isSecond, isTail, Bool.and_eq_true, Bool.not_eq_true', Bool.and_eq_false_iff,
    beq_eq_false_iff_ne, decide_eq_true_eq, decide_eq_false_iff_not]
  omega

lemma tailCount?_eq_some_iff : tailCount? a = some n ↔
    a < 0x80 ∧ n = 0 ∨ 0xC2 ≤ a ∧ a ≤ 0xDF ∧ n = 1 ∨ 0xE0 ≤ a ∧ a ≤ 0xEF ∧ n = 2 ∨
      0xF0 ≤ a ∧ a ≤ 0xF4 ∧ n = 3 := by
  simp only [tailCount?, Bool.and_eq_true, decide_eq_true_eq]
  split_ifs with hone htwo hthree hfour
  · rw [Option.some.injEq]
    omega
  · rw [Option.some.injEq]
    omega
  · rw [Option.some.injEq]
    omega
  · rw [Option.some.injEq]
    omega
  · rw [false_iff]
    omega

lemma exists_of_readTail (h : readTail (n + 1) acc bs = .ok (m, rest)) :
    ∃ b bs', bs = b :: bs' ∧ isTail b = true ∧
      readTail n (acc * 64 + (b - 0x80)) bs' = .ok (m, rest) := by
  cases bs with
  | nil => simp [readTail] at h
  | cons b bs' =>
    rw [readTail] at h
    split_ifs at h with htail
    exact ⟨b, bs', rfl, htail, h⟩

/-- How a character is read: from its first byte alone, or from a first byte, a second and more. -/
lemma exists_of_readChar (h : readChar a bs = .ok (c, rest)) :
    (tailCount? a = some 0 ∧ Char.ofNat a = c ∧ bs = rest) ∨
      ∃ n b bs' m, tailCount? a = some (n + 1) ∧ bs = b :: bs' ∧ isSecond a b = true ∧
        readTail n (a % Nat.pow 2 (5 - n) * 64 + (b - 0x80)) bs' = .ok (m, rest) ∧
        Char.ofNat m = c := by
  rw [readChar] at h
  split at h
  · simp at h
  · rename_i htail
    exact .inl ⟨htail, by simpa using h⟩
  · rename_i n htail
    cases bs with
    | nil => simp at h
    | cons b bs' =>
      simp only at h
      split_ifs at h with hsecond
      cases hread : readTail n (a % Nat.pow 2 (5 - n) * 64 + (b - 0x80)) bs' with
      | error e => simp only [hread, Except.map, reduceCtorEq] at h
      | ok r =>
        simp only [hread, Except.map, Except.ok.injEq, Prod.mk.injEq] at h
        obtain ⟨hchar, rfl⟩ := h
        exact .inr ⟨n, b, bs', r.1, htail, rfl, hsecond, hread, hchar⟩

/-- **A character is read from its bytes.** -/
theorem readChar_encodeChar (c : Char) (rest : List Nat) :
    ∃ a bs, encodeChar c ++ rest = a :: bs ∧ readChar a bs = .ok (c, rest) := by
  have hbounds := toNat_lt_or c
  rw [encodeChar_eq]
  split_ifs with hone htwo hthree
  · have htail : tailCount? c.toNat = some 0 := tailCount?_eq_some_iff.2 (by omega)
    exact ⟨_, _, rfl, by simp [readChar, htail]⟩
  · have htail : tailCount? (0xC0 + c.toNat / 64) = some 1 := tailCount?_eq_some_iff.2 (by omega)
    have hsecond : isSecond (0xC0 + c.toNat / 64) (0x80 + c.toNat % 64) = true :=
      isSecond_eq_true_iff.2 (by omega)
    have hvalue : (0xC0 + c.toNat / 64) % 32 * 64 + c.toNat % 64 = c.toNat := by omega
    exact ⟨_, _, rfl, by simp [readChar, htail, hsecond, readTail, Except.map, hvalue]⟩
  · have htail : tailCount? (0xE0 + c.toNat / 4096) = some 2 := tailCount?_eq_some_iff.2 (by omega)
    have hsecond : isSecond (0xE0 + c.toNat / 4096) (0x80 + c.toNat / 64 % 64) = true :=
      isSecond_eq_true_iff.2 (by omega)
    have hthird : isTail (0x80 + c.toNat % 64) = true := isTail_eq_true_iff.2 (by omega)
    have hvalue : ((0xE0 + c.toNat / 4096) % 16 * 64 + c.toNat / 64 % 64) * 64 + c.toNat % 64 =
        c.toNat := by omega
    exact ⟨_, _, rfl, by simp [readChar, htail, hsecond, readTail, hthird, Except.map, hvalue]⟩
  · have htail : tailCount? (0xF0 + c.toNat / 262144) = some 3 :=
      tailCount?_eq_some_iff.2 (by omega)
    have hsecond : isSecond (0xF0 + c.toNat / 262144) (0x80 + c.toNat / 4096 % 64) = true :=
      isSecond_eq_true_iff.2 (by omega)
    have hthird : isTail (0x80 + c.toNat / 64 % 64) = true := isTail_eq_true_iff.2 (by omega)
    have hfourth : isTail (0x80 + c.toNat % 64) = true := isTail_eq_true_iff.2 (by omega)
    have hvalue : (((0xF0 + c.toNat / 262144) % 8 * 64 + c.toNat / 4096 % 64) * 64 +
        c.toNat / 64 % 64) * 64 + c.toNat % 64 = c.toNat := by omega
    exact ⟨_, _, rfl,
      by simp [readChar, htail, hsecond, readTail, hthird, hfourth, Except.map, hvalue]⟩

/-- **A character is read from its bytes only.** The bounds on the second byte leave the shortest
form only, and no surrogate. -/
theorem eq_encodeChar_of_readChar (h : readChar a bs = .ok (c, rest)) :
    a :: bs = encodeChar c ++ rest := by
  rw [encodeChar_eq]
  rcases exists_of_readChar h with
    ⟨htail, rfl, rfl⟩ | ⟨n, b, bs, m, htail, rfl, hsecond, hread, rfl⟩
  · have ha := tailCount?_eq_some_iff.1 htail
    rw [toNat_ofNat (by omega), if_pos (by omega)]
    rfl
  · have ha := tailCount?_eq_some_iff.1 htail
    rw [isSecond_eq_true_iff] at hsecond
    match n with
    | 0 =>
      have hbits : Nat.pow 2 (5 - 0) = 32 := rfl
      simp only [readTail, hbits, Except.ok.injEq, Prod.mk.injEq] at hread
      obtain ⟨hm, rfl⟩ := hread
      rw [toNat_ofNat (by omega), if_neg (by omega), if_pos (by omega)]
      simp only [List.cons_append, List.nil_append, List.cons.injEq, and_true]
      omega
    | 1 =>
      have hbits : Nat.pow 2 (5 - 1) = 16 := rfl
      obtain ⟨b', bs', rfl, hthird, hread⟩ := exists_of_readTail hread
      rw [isTail_eq_true_iff] at hthird
      simp only [readTail, hbits, Except.ok.injEq, Prod.mk.injEq] at hread
      obtain ⟨hm, rfl⟩ := hread
      rw [toNat_ofNat (by omega), if_neg (by omega), if_neg (by omega), if_pos (by omega)]
      simp only [List.cons_append, List.nil_append, List.cons.injEq, and_true]
      omega
    | 2 =>
      have hbits : Nat.pow 2 (5 - 2) = 8 := rfl
      obtain ⟨b', bs', rfl, hthird, hread⟩ := exists_of_readTail hread
      obtain ⟨b'', bs', rfl, hfourth, hread⟩ := exists_of_readTail hread
      rw [isTail_eq_true_iff] at hthird hfourth
      simp only [readTail, hbits, Except.ok.injEq, Prod.mk.injEq] at hread
      obtain ⟨hm, rfl⟩ := hread
      rw [toNat_ofNat (by omega), if_neg (by omega), if_neg (by omega), if_neg (by omega)]
      simp only [List.cons_append, List.nil_append, List.cons.injEq, and_true]
      omega
    | n + 3 => omega

/-! ## Sequences -/

lemma decodeFrom_flatMap (cs acc : List Char) (start : Nat) :
    decodeFrom acc start (cs.flatMap encodeChar) = .ok (acc.reverse ++ cs) := by
  induction cs generalizing acc start with
  | nil => simp [decodeFrom]
  | cons c cs ih =>
    obtain ⟨a, bs, hbytes, hread⟩ := readChar_encodeChar c (cs.flatMap encodeChar)
    rw [List.flatMap_cons, hbytes, decodeFrom]
    split
    · rename_i reason herror
      rw [hread] at herror
      simp at herror
    · rename_i c' rest hok
      obtain ⟨rfl, rfl⟩ := Prod.mk.inj (Except.ok.inj (hread.symm.trans hok))
      rw [ih]
      simp

lemma exists_of_decodeFrom {acc : List Char} {start : Nat}
    (h : decodeFrom acc start bytes = .ok cs) :
    ∃ cs', cs = acc.reverse ++ cs' ∧ bytes = cs'.flatMap encodeChar := by
  fun_induction decodeFrom acc start bytes with
  | case1 acc => exact ⟨[], by simpa using h.symm, rfl⟩
  | case2 => simp at h
  | case3 acc start a bs c rest hread ih =>
    obtain ⟨cs', rfl, rfl⟩ := ih h
    exact ⟨c :: cs', by simp, eq_encodeChar_of_readChar hread⟩

/-- **The bytes that are read as given characters** are those that the characters are written in. -/
theorem decode_eq_ok_iff : decode bytes = .ok cs ↔ bytes = cs.flatMap encodeChar := by
  refine ⟨fun h => ?_, fun h => h ▸ decodeFrom_flatMap cs [] 0⟩
  obtain ⟨cs', rfl, rfl⟩ := exists_of_decodeFrom h
  rfl

end Utf8

/-! ## Files -/

variable {bytes : List UInt8} {text : String}

lemma toList_loop_eq (bytes : ByteArray) (i : Nat) (before : List UInt8) :
    ByteArray.toList.loop bytes i before = before.reverse ++ bytes.data.toList.drop i := by
  fun_induction ByteArray.toList.loop bytes i before with
  | case1 i before h ih =>
    have hi : i < bytes.data.toList.length := by simpa using h
    rw [ih, List.drop_eq_getElem_cons hi]
    simp [ByteArray.get!, h]
  | case2 i before h =>
    rw [List.drop_eq_nil_of_le (by simpa using Nat.le_of_not_lt h), List.append_nil]

/-- The bytes of a text are those of its characters. -/
lemma map_toNat_toFile (s : String) :
    (toFile s).map UInt8.toNat = s.toList.flatMap Utf8.encodeChar := by
  have hbytes : toFile s = s.toList.flatMap String.utf8EncodeChar := by
    rw [toFile, ByteArray.toList, toList_loop_eq, String.toUTF8_eq_toByteArray,
      ← String.utf8Encode_toList, List.utf8Encode]
    simp
  rw [hbytes, List.map_flatMap]
  rfl

/-- **The files that hold a given text**: their bytes are those of a text that becomes it when its
line ends are joined. -/
theorem ofFile_eq_ok_iff :
    ofFile bytes = .ok text ↔ ∃ s, bytes = toFile s ∧ LineEndsJoined s.toList text.toList := by
  rw [ofFile]
  constructor
  · intro h
    cases hdecode : Utf8.decode (bytes.map UInt8.toNat) with
    | error fault => simp [hdecode, Except.map] at h
    | ok cs =>
      simp only [hdecode, Except.map, Except.ok.injEq] at h
      refine ⟨String.ofList cs, ?_, ?_⟩
      · have hmap : bytes.map UInt8.toNat = (toFile (String.ofList cs)).map UInt8.toNat := by
          rw [map_toNat_toFile, String.toList_ofList, Utf8.decode_eq_ok_iff.1 hdecode]
        exact (List.map_inj_right fun _ _ => UInt8.toNat_inj.1).1 hmap
      · rw [← h, String.toList_ofList, String.toList_ofList]
        exact lineEndsJoined_joinLineEnds cs
  · rintro ⟨s, rfl, hjoined⟩
    rw [map_toNat_toFile, Utf8.decode_eq_ok_iff.2 rfl]
    simp only [Except.map, joinLineEnds_eq_iff.2 hjoined, String.ofList_toList]

/-- **The files that hold no text.** -/
lemma exists_ofFile_eq_error_iff :
    (∃ fault, ofFile bytes = .error fault) ↔ ∀ s, bytes ≠ toFile s := by
  constructor
  · rintro ⟨fault, h⟩ s hs
    have hok : ofFile bytes = .ok (String.ofList (joinLineEnds s.toList)) := by
      refine ofFile_eq_ok_iff.2 ⟨s, hs, ?_⟩
      rw [String.toList_ofList]
      exact lineEndsJoined_joinLineEnds s.toList
    rw [h] at hok
    simp at hok
  · intro h
    cases hfile : ofFile bytes with
    | error fault => exact ⟨fault, rfl⟩
    | ok text =>
      obtain ⟨s, hs, -⟩ := ofFile_eq_ok_iff.1 hfile
      exact absurd hs (h s)

end SchemaMarkup.Text

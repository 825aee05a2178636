import Mathlib.Algebra.BigOperators.Group.List.Basic
import Mathlib.Data.Nat.Digits.Defs
import Mathlib.Data.String.Basic

/-!
# `OciRuntime.Lib.Json` — compact JSON texts and their length

The values a message is made of, the bytes of their compact text (no blanks, fields in the order
they are given), and how long that text is.

## Contents
- **Texts.** `Json`, `Json.render`.
- **Lengths.** `size_array`, `size_object` and bounds for numbers and strings.
-/

/-! ## Texts -/

/-- A JSON value. Numbers are whole, and the fields of an object have an order. -/
inductive Json
  | number (value : Nat)
  | negative (magnitude : Nat)
  | bool (value : Bool)
  | string (value : String)
  | array (items : List Json)
  | object (fields : List (String × Json))

namespace Json

/-- UTF-8 bytes of a text. -/
def utf8 (text : List Char) : List UInt8 := text.flatMap String.utf8EncodeChar

def decimal (n : Nat) : List UInt8 := utf8 (Nat.toDigits 10 n)

/-- A character inside a string: quotes, backslashes and control characters are escaped. -/
def escape (c : Char) : List UInt8 :=
  if c = '\x22' then utf8 ['\x5c', '\x22']
  else if c = '\x5c' then utf8 ['\x5c', '\x5c']
  else if c = '\x08' then utf8 ['\x5c', 'b']
  else if c = '\x0c' then utf8 ['\x5c', 'f']
  else if c = '\x0a' then utf8 ['\x5c', 'n']
  else if c = '\x0d' then utf8 ['\x5c', 'r']
  else if c = '\x09' then utf8 ['\x5c', 't']
  else if c.toNat < 32 then
    utf8 ['\x5c', 'u', '0', '0', Nat.digitChar (c.toNat / 16), Nat.digitChar (c.toNat % 16)]
  else String.utf8EncodeChar c

def quoted (text : String) : List UInt8 :=
  utf8 ['\x22'] ++ text.toList.flatMap escape ++ utf8 ['\x22']

/-- Parts with a comma between any two. -/
def separated : List (List UInt8) → List UInt8
  | [] => []
  | [part] => part
  | part :: rest => part ++ utf8 [','] ++ separated rest

mutual

/-- The compact text of a value. -/
def render : Json → List UInt8
  | .number n => decimal n
  | .negative n => utf8 ['-'] ++ decimal n
  | .bool true => utf8 ['t', 'r', 'u', 'e']
  | .bool false => utf8 ['f', 'a', 'l', 's', 'e']
  | .string text => quoted text
  | .array items => utf8 ['['] ++ separated (renderItems items) ++ utf8 [']']
  | .object fields => utf8 ['\x7b'] ++ separated (renderFields fields) ++ utf8 ['\x7d']

def renderItems : List Json → List (List UInt8)
  | [] => []
  | item :: items => item.render :: renderItems items

def renderFields : List (String × Json) → List (List UInt8)
  | [] => []
  | (name, value) :: fields => (quoted name ++ utf8 [':'] ++ value.render) :: renderFields fields

end

/-- A field that is left out when there is no value. -/
def optionalField (name : String) (value : Option Json) : List (String × Json) :=
  (value.map fun value => (name, value)).toList

/-! ## Lengths -/

/-- How long a value's text is. -/
def size (value : Json) : Nat := value.render.length

/-- How many digits a number has. -/
def digitCount (n : Nat) : Nat := (Nat.toDigits 10 n).length

/-- How long a string is between its quotes. -/
def textSize (text : String) : Nat := (text.toList.flatMap escape).length

theorem length_utf8 (text : List Char) : (utf8 text).length = (text.map Char.utf8Size).sum := by
  simp only [utf8, List.length_flatMap, String.length_utf8EncodeChar]

theorem length_decimal (n : Nat) : (decimal n).length = digitCount n := by
  have ho : (Nat.toDigits 10 n).map Char.utf8Size = (Nat.toDigits 10 n).map fun _ => 1 := by
    refine List.map_congr_left fun c hc => ?_
    have hd := Nat.isDigit_of_mem_toDigits (by decide) (by decide) hc
    rw [Char.isDigit_iff_toNat] at hd
    exact Char.utf8Size_eq_one_iff.mpr (by
      exact hd.2.trans (by decide))
  rw [decimal, length_utf8, ho, List.map_const', List.sum_replicate, digitCount]
  simp

theorem length_quoted (text : String) : (quoted text).length = textSize text + 2 := by
  have hq : (utf8 ['\x22']).length = 1 := by decide
  rw [quoted, List.length_append, List.length_append, hq, textSize]
  omega

theorem length_separated : ∀ parts : List (List UInt8),
    (separated parts).length = (parts.map fun part => part.length + 1).sum - 1
  | [] => rfl
  | [part] => by simp [separated]
  | part :: next :: rest => by
    have hr := length_separated (next :: rest)
    rw [separated, List.length_append, List.length_append, hr]
    · simp only [List.map_cons, List.sum_cons, length_utf8, List.map_nil, List.sum_nil]
      have : Char.utf8Size ',' = 1 := by decide
      omega
    · simp

theorem renderItems_eq (items : List Json) : renderItems items = items.map render := by
  induction items with
  | nil => rfl
  | cons item items ih => rw [renderItems, ih, List.map_cons]

theorem renderFields_eq (fields : List (String × Json)) : renderFields fields =
    fields.map fun field => quoted field.1 ++ utf8 [':'] ++ field.2.render := by
  induction fields with
  | nil => rfl
  | cons field fields ih => rw [renderFields, ih, List.map_cons]

@[simp] theorem size_number (n : Nat) : (number n).size = digitCount n := by
  rw [size, render, length_decimal]

@[simp] theorem size_true : (bool true).size = 4 := by decide

@[simp] theorem size_false : (bool false).size = 5 := by decide

@[simp] theorem size_string (text : String) : (string text).size = textSize text + 2 := by
  rw [size, render, length_quoted]

/-! ## Bounds -/

theorem digitCount_le (hk : 0 < k) (h : n < 10 ^ k) : digitCount n ≤ k :=
  (Nat.length_toDigits_le_iff (by decide) hk).mpr h

theorem digitCount_byte_le (byte : UInt8) : digitCount byte.toNat ≤ 3 :=
  digitCount_le (by decide) (byte.toNat_lt.trans (by decide))

/-- Characters that a string holds as one byte each. -/
def Plain (c : Char) : Prop := 32 ≤ c.toNat ∧ c.toNat < 128 ∧ c ≠ '\x22' ∧ c ≠ '\x5c'

/-- What is neither a control character nor a quote or a backslash stands for itself. -/
theorem escape_self (hc : ¬ c.toNat < 32) (hq : c ≠ '\x22') (hs : c ≠ '\x5c') :
    escape c = String.utf8EncodeChar c := by
  have ht {d : Char} (hd : d.toNat < 32) : c ≠ d := by
    rintro rfl
    exact hc hd
  rw [escape, if_neg hq, if_neg hs, if_neg (ht (by decide)),
    if_neg (ht (by decide)), if_neg (ht (by decide)), if_neg (ht (by decide)),
    if_neg (ht (by decide)), if_neg hc]

theorem escape_plain (h : Plain c) : (escape c).length = 1 := by
  obtain ⟨hl, hh, hq, hs⟩ := h
  rw [escape_self (by omega) hq hs, String.length_utf8EncodeChar,
    Char.utf8Size_eq_one_iff, UInt32.le_iff_toNat_le]
  exact Nat.le_of_lt_succ hh

theorem escape_control : ∀ n < 32, (escape (Char.ofNat n)).length ≤ 6 := by decide

/-- Escaping takes at most six bytes for a byte. -/
theorem escape_le (c : Char) : (escape c).length ≤ 6 * c.utf8Size := by
  have hp := c.utf8Size_pos
  by_cases hc : c.toNat < 32
  · have hs := escape_control c.toNat hc
    rw [Char.ofNat_toNat] at hs
    omega
  · by_cases hq : c = '\x22'
    · subst hq
      decide
    · by_cases hsl : c = '\x5c'
      · subst hsl
        decide
      · rw [escape_self hc hq hsl, String.length_utf8EncodeChar]
        omega

theorem textSize_plain (h : ∀ c ∈ text.toList, Plain c) : textSize text = text.length := by
  have ho : (text.toList.map fun c => (escape c).length) = text.toList.map fun _ => 1 :=
    List.map_congr_left fun c hc => escape_plain (h c hc)
  rw [textSize, List.length_flatMap, ho, List.map_const', List.sum_replicate,
    nsmul_one, Nat.cast_id, String.length_toList]

theorem utf8ByteSize_eq_sum (text : String) :
    text.utf8ByteSize = (text.toList.map Char.utf8Size).sum := by
  conv_lhs => rw [← String.ofList_toList (s := text)]
  induction text.toList with
  | nil => rfl
  | cons c rest ih => simp [ih]

theorem length_le_utf8ByteSize (text : String) : text.length ≤ text.utf8ByteSize := by
  rw [utf8ByteSize_eq_sum, ← String.length_toList]
  induction text.toList with
  | nil => exact Nat.le.refl
  | cons c rest ih =>
    have hc := c.utf8Size_pos
    simp only [List.map_cons, List.sum_cons, List.length_cons]
    omega

theorem textSize_le (text : String) : textSize text ≤ 6 * text.utf8ByteSize := by
  rw [textSize, List.length_flatMap, utf8ByteSize_eq_sum]
  induction text.toList with
  | nil => decide
  | cons c rest ih =>
    have hc := escape_le c
    simp only [List.map_cons, List.sum_cons]
    omega

/-! ## Arrays and objects -/

/-- Every item but the last is followed by a comma. -/
@[simp] theorem size_array (items : List Json) :
    (array items).size = (items.map fun item => item.size + 1).sum - 1 + 2 := by
  rw [size, render, renderItems_eq, List.length_append, List.length_append, length_separated,
    List.map_map]
  have hp : (utf8 ['[']).length = 1 := by decide
  have hc : (utf8 [']']).length = 1 := by decide
  simp only [Function.comp_def, size]
  omega

/-- A field is its quoted name, a colon and its value. -/
@[simp] theorem size_object (fields : List (String × Json)) : (object fields).size =
    (fields.map fun field => textSize field.1 + field.2.size + 4).sum - 1 + 2 := by
  have hc : (utf8 [':']).length = 1 := by decide
  have hp : (utf8 ['\x7b']).length = 1 := by decide
  have hcl : (utf8 ['\x7d']).length = 1 := by decide
  have hf : (fields.map fun field =>
      (quoted field.1 ++ utf8 [':'] ++ field.2.render).length + 1) =
      fields.map fun field => textSize field.1 + field.2.size + 4 := by
    refine List.map_congr_left fun field _ => ?_
    rw [List.length_append, List.length_append, length_quoted, hc, size]
    omega
  rw [size, render, renderFields_eq, List.length_append, List.length_append, length_separated,
    List.map_map]
  simp only [Function.comp_def, hf]
  omega

end Json

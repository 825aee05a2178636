import Mathlib.Algebra.Order.BigOperators.Group.List
import OciRuntime.Lib.Json

/-!
# `OciRuntime.Lib.PrettyJson` — indented JSON texts and their length

The text that puts every item of an array and every field of an object on a line of its own,
indented by two blanks for each level. How long it is depends on how deep a value lies.

## Contents
- **Texts.** `Json.prettyAt`, `Json.pretty`.
- **Lengths.** `Json.prettySize`, computed without the text; `Json.length_pretty`.
-/

namespace Json

/-! ## Texts -/

/-- A line break and the indentation of the next line. -/
def newline (depth : Nat) : List UInt8 := utf8 ('\x0a' :: List.replicate (2 * depth) ' ')

/-- Lines between two brackets; without lines the brackets stand next to each other. -/
def block (opening closing : Char) (depth : Nat) (lines : List (List UInt8)) : List UInt8 :=
  match lines with
  | [] => utf8 [opening, closing]
  | line :: rest =>
    utf8 [opening] ++ separated ((line :: rest).map fun line => newline (depth + 1) ++ line) ++
      newline depth ++ utf8 [closing]

mutual

/-- The indented text of a value at a depth. -/
def prettyAt (depth : Nat) : Json → List UInt8
  | .array items => block '[' ']' depth (prettyItems (depth + 1) items)
  | .object fields => block '\x7b' '\x7d' depth (prettyFields (depth + 1) fields)
  | .number n => render (.number n)
  | .negative n => render (.negative n)
  | .bool b => render (.bool b)
  | .string text => render (.string text)

def prettyItems (depth : Nat) : List Json → List (List UInt8)
  | [] => []
  | item :: items => item.prettyAt depth :: prettyItems depth items

def prettyFields (depth : Nat) : List (String × Json) → List (List UInt8)
  | [] => []
  | (name, value) :: fields =>
    (quoted name ++ utf8 [':', ' '] ++ value.prettyAt depth) :: prettyFields depth fields

end

def pretty (value : Json) : List UInt8 := value.prettyAt 0

/-! ## Lengths -/

/-- The length of lines of the given lengths between two brackets: every line takes its indentation,
    a line break and a comma. -/
def blockSize (depth : Nat) (sizes : List Nat) : Nat :=
  if sizes = [] then 2 else (sizes.map (· + 2 * depth + 4)).sum + 2 * depth + 2

mutual

/-- How long the indented text of a value is. -/
def prettySize (depth : Nat) : Json → Nat
  | .array items => blockSize depth (itemSizes (depth + 1) items)
  | .object fields => blockSize depth (fieldSizes (depth + 1) fields)
  | .number n => digitCount n
  | .negative n => digitCount n + 1
  | .bool b => if b then 4 else 5
  | .string text => textSize text + 2

def itemSizes (depth : Nat) : List Json → List Nat
  | [] => []
  | item :: items => item.prettySize depth :: itemSizes depth items

def fieldSizes (depth : Nat) : List (String × Json) → List Nat
  | [] => []
  | (name, value) :: fields => (textSize name + value.prettySize depth + 4) :: fieldSizes depth fields

end

theorem length_newline (depth : Nat) : (newline depth).length = 2 * depth + 1 := by
  have hb : Char.utf8Size ' ' = 1 := by decide
  have hbr : Char.utf8Size '\x0a' = 1 := by decide
  rw [newline, length_utf8, List.map_cons, List.map_replicate, List.sum_cons, List.sum_replicate,
    hb, hbr, nsmul_one, Nat.cast_id, Nat.add_comm]

/-- The last line has no comma, which the closing line break makes up for. -/
theorem length_block (ho : opening.utf8Size = 1) (hc : closing.utf8Size = 1)
    (depth : Nat) (lines : List (List UInt8)) :
    (block opening closing depth lines).length = blockSize depth (lines.map List.length) := by
  have hp : (utf8 [opening]).length = 1 := by simp [length_utf8, ho]
  have hcl : (utf8 [closing]).length = 1 := by simp [length_utf8, hc]
  cases lines with
  | nil => simp [block, blockSize, length_utf8, ho, hc]
  | cons line rest =>
    have hl : (((line :: rest).map fun line => newline (depth + 1) ++ line).map
        fun part => part.length + 1) =
        ((line :: rest).map List.length).map (· + 2 * depth + 4) := by
      rw [List.map_map, List.map_map]
      refine List.map_congr_left fun line _ => ?_
      simp only [Function.comp_apply, List.length_append, length_newline]
      omega
    rw [block, List.length_append, List.length_append, List.length_append, length_separated,
      hl, length_newline, hp, hcl, blockSize, if_neg (by simp)]
    simp only [List.map_cons, List.sum_cons]
    omega

mutual

/-- **The length of an indented text.** -/
theorem length_prettyAt (depth : Nat) : ∀ value : Json,
    (value.prettyAt depth).length = value.prettySize depth
  | .array items => by
    rw [prettyAt, prettySize, length_block (by decide) (by decide), length_prettyItems]
  | .object fields => by
    rw [prettyAt, prettySize, length_block (by decide) (by decide), length_prettyFields]
  | .number n => by rw [prettyAt, prettySize, render, length_decimal]
  | .negative n => by
    have hm : (utf8 ['-']).length = 1 := by decide
    rw [prettyAt, prettySize, render, List.length_append, length_decimal, hm, Nat.add_comm]
  | .bool b => by
    cases b
    · simp only [prettyAt, prettySize, render]
      decide
    · simp only [prettyAt, prettySize, render]
      decide
  | .string text => by rw [prettyAt, prettySize, render, length_quoted]

theorem length_prettyItems (depth : Nat) : ∀ items : List Json,
    (prettyItems depth items).map List.length = itemSizes depth items
  | [] => rfl
  | item :: items => by
    rw [prettyItems, itemSizes, List.map_cons, length_prettyAt, length_prettyItems]

theorem length_prettyFields (depth : Nat) : ∀ fields : List (String × Json),
    (prettyFields depth fields).map List.length = fieldSizes depth fields
  | [] => rfl
  | (name, value) :: fields => by
    have hc : (utf8 [':', ' ']).length = 2 := by decide
    rw [prettyFields, fieldSizes, List.map_cons, length_prettyFields, List.length_append,
      List.length_append, length_quoted, hc, length_prettyAt]
    congr 1
    omega

end

theorem length_pretty (value : Json) : value.pretty.length = value.prettySize 0 :=
  length_prettyAt 0 value

theorem itemSizes_eq (depth : Nat) (items : List Json) :
    itemSizes depth items = items.map (prettySize depth) := by
  induction items with
  | nil => rfl
  | cons item items ih => rw [itemSizes, ih, List.map_cons]

theorem fieldSizes_eq (depth : Nat) (fields : List (String × Json)) : fieldSizes depth fields =
    fields.map fun field => textSize field.1 + field.2.prettySize depth + 4 := by
  induction fields with
  | nil => rfl
  | cons field fields ih => rw [fieldSizes, ih, List.map_cons]

theorem sum_le_blockSize (depth : Nat) (sizes : List Nat) :
    (sizes.map (· + 2 * depth + 4)).sum ≤ blockSize depth sizes := by
  unfold blockSize
  split
  · rename_i he
    rw [he]
    exact Nat.zero_le _
  · omega

theorem le_blockSize (depth : Nat) {size : Nat} (h : size ∈ sizes) :
    size ≤ blockSize depth sizes := by
  have hm : size + 2 * depth + 4 ∈ sizes.map (· + 2 * depth + 4) := List.mem_map_of_mem h
  have hl := List.single_le_sum (fun _ _ => Nat.zero_le _) _ hm
  have hb := sum_le_blockSize depth sizes
  omega

/-- An array is at least as long as its items together. -/
theorem sum_le_prettySize_array (depth : Nat) (items : List Json) :
    (items.map fun item => item.prettySize (depth + 1) + 2 * depth + 4).sum ≤
      (array items).prettySize depth := by
  have hl := sum_le_blockSize depth (itemSizes (depth + 1) items)
  rw [itemSizes_eq, List.map_map] at hl
  rw [prettySize, itemSizes_eq]
  exact hl

/-- A field is never longer than the object that holds it. -/
theorem prettySize_field_le (depth : Nat) (name : String) {value : Json}
    (h : (name, value) ∈ fields) :
    value.prettySize (depth + 1) ≤ (object fields).prettySize depth := by
  have hm : textSize name + value.prettySize (depth + 1) + 4 ∈ fieldSizes (depth + 1) fields := by
    rw [fieldSizes_eq]
    exact List.mem_map.mpr ⟨(name, value), h, rfl⟩
  have hl := le_blockSize depth hm
  rw [prettySize]
  omega

end Json

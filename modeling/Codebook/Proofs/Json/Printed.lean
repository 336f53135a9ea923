import Codebook.Document.Json
import Codebook.Proofs.Json.Grammar

/-!
# What is printed is JSON

The text of a value is in the grammar, and what it says is the value: escapes give back the
characters they stand for, and between the marks of the layout there are only blanks.

What is here: `datum`, what the text of a value is to say; `denotes_quote`, for strings;
`denotes_pretty`, for values at any level; and `isText_text`, for whole texts.
-/

set_option autoImplicit false

namespace Codebook.Json

open Text

/-! ## What a value says -/

mutual

/-- What the text of a value is to say. -/
def datum : Json → Datum
  | null => .null
  | number n => .number (toString n)
  | string s => .string s
  | array items => .array (itemData items)
  | object fields => .object (fieldData fields)

/-- What the items of an array are to say. -/
def itemData : List Json → List Datum
  | [] => []
  | item :: items => item.datum :: itemData items

/-- What the fields of an object are to say. -/
def fieldData : List (String × Json) → List (String × Datum)
  | [] => []
  | (key, value) :: fields => (key, value.datum) :: fieldData fields

end

theorem itemData_eq_map (items : List Json) : itemData items = items.map datum := by
  induction items with
  | nil => rfl
  | cons item items ih => rw [itemData, ih, List.map_cons]

/-! ## Strings -/

theorem hexFrom?_hexDigit {n : Nat} (h : n < 0x20) :
    hexFrom? 0 ['0', '0', hexDigit (n / 16), hexDigit (n % 16)] = some n := by
  revert n
  decide

/-- An escape gives back its character. -/
theorem isBody_escapeChar (c : Char) {cs s : List Char} (h : IsBody cs s) :
    IsBody (escapeChar c ++ cs) (c :: s) := by
  unfold escapeChar
  -- The escapes by a letter come first: one case for each.
  iterate 7
    split
    · subst c
      exact .named (by decide) h
  split
  · rename_i hcontrol
    have hunit : ∀ n < 0x20, isHighUnit n = false ∧ isLowUnit n = false := by decide
    obtain ⟨hhigh, hlow⟩ := hunit c.toNat hcontrol
    have hbody := IsBody.unit (hexFrom?_hexDigit hcontrol) hhigh hlow h
    rwa [Char.ofNat_toNat] at hbody
  · exact .plain (by omega) ‹c ≠ '"'› ‹c ≠ '\\'› h

theorem isBody_flatMap (s : List Char) : IsBody (s.flatMap escapeChar) s := by
  induction s with
  | nil => exact .nil
  | cons c s ih => exact isBody_escapeChar c ih

theorem toList_quote (s : String) :
    (quote s).toList = '"' :: (s.toList.flatMap escapeChar ++ ['"']) := by
  simp [quote]

theorem denotes_quote (s : String) : Denotes (quote s).toList (.value (.string s)) := by
  have h := Denotes.string (isBody_flatMap s.toList)
  rwa [← toList_quote, String.ofList_toList] at h

/-! ## Numbers -/

theorem isDigits_toDigits (n : Nat) : IsDigits (Nat.toDigits 10 n) :=
  ⟨Nat.toDigits_ne_nil, fun _ hc => Nat.isDigit_of_mem_toDigits (by decide) (by decide) hc⟩

/-- Only zero starts with a zero. -/
theorem head?_toDigits {n : Nat} (h : n ≠ 0) : (Nat.toDigits 10 n).head? ≠ some '0' := by
  induction n using Nat.strongRecOn with
  | ind n ih =>
    by_cases hn : n < 10
    · have hdigit : ∀ n < 10, n ≠ 0 → Nat.digitChar n ≠ '0' := by decide
      rw [Nat.toDigits_of_lt_base hn, List.head?_cons]
      exact fun heq => hdigit n hn h (Option.some.inj heq)
    · have hhead := ih (n / 10) (by omega) (by omega)
      obtain ⟨c, cs, hcs⟩ := List.exists_cons_of_ne_nil (@Nat.toDigits_ne_nil (n / 10) 10)
      rw [hcs] at hhead
      rwa [Nat.toDigits_of_base_le (by decide) (by omega), hcs]

theorem isWhole_toDigits (n : Nat) : IsWhole (Nat.toDigits 10 n) := by
  by_cases h : n = 0
  · subst h
    exact .zero
  · exact .digits (isDigits_toDigits n) (head?_toDigits h)

theorem isNumber_toString (n : Nat) : IsNumber (toString n).toList := by
  have h : IsNumber ([] ++ (Nat.toDigits 10 n ++ ([] ++ []))) :=
    .mk (by simp) (isWhole_toDigits n) .none .none
  rw [Nat.toString_eq_ofList_toDigits, String.toList_ofList]
  simpa using h

/-! ## Values -/

theorem isBlank_indent (level : Nat) : IsBlank (indent level).toList := by
  intro c hc
  simp only [indent, String.toList_append, String.toList_ofList, List.mem_append,
    List.mem_replicate] at hc
  rcases hc with hc | ⟨-, rfl⟩
  · obtain rfl : c = '\n' := by simpa using hc
    rfl
  · rfl

/-- The space between a colon and a value. -/
theorem isBlank_space : IsBlank [' '] := isBlank_nil.cons rfl

/-- A key on a line of its own. -/
theorem isKey_quote (level : Nat) (key : String) :
    IsKey ((indent level).toList ++ (quote key).toList) key := by
  have h := IsKey.mk (isBlank_indent level) (isBody_flatMap key.toList) isBlank_nil
  rwa [← toList_quote, String.ofList_toList] at h

mutual

theorem denotes_pretty (level : Nat) : ∀ j : Json, Denotes (pretty level j).toList (.value j.datum)
  | null => .bare .nullWord
  | number n => by
    have h := Denotes.bare (.number (isNumber_toString n))
    rwa [String.ofList_toList] at h
  | string s => denotes_quote s
  | array [] => by
    have h := Denotes.emptyArray isBlank_nil
    simpa [pretty, datum, itemData] using h
  | array (item :: items) => by
    have h := Denotes.array (denotes_items (isBlank_indent (level + 1))
      (denotes_pretty (level + 1) item)
      (isTail_prettyItems (level + 1) (isBlank_indent level) items))
    simpa [pretty, datum, itemData] using h
  | object [] => by
    have h := Denotes.emptyObject isBlank_nil
    simpa [pretty, datum, fieldData] using h
  | object ((key, value) :: fields) => by
    have h := Denotes.object (denotes_fields (isKey_quote (level + 1) key) isBlank_space
      (denotes_pretty (level + 1) value)
      (isTail_prettyFields (level + 1) (isBlank_indent level) fields))
    simpa [pretty, datum, fieldData] using h

/-- The items after the first one, up to the end of the array. -/
theorem isTail_prettyItems (level : Nat) {after : List Char} (hafter : IsBlank after) :
    ∀ items : List Json,
      IsTail .items ((prettyItems level items).toList ++ after) (itemData items)
  | [] => .last hafter
  | item :: items => by
    have h := IsTail.more isBlank_nil (denotes_items (isBlank_indent level)
      (denotes_pretty level item) (isTail_prettyItems level hafter items))
    simpa [prettyItems, itemData] using h

/-- The fields after the first one, up to the end of the object. -/
theorem isTail_prettyFields (level : Nat) {after : List Char} (hafter : IsBlank after) :
    ∀ fields : List (String × Json),
      IsTail .fields ((prettyFields level fields).toList ++ after) (fieldData fields)
  | [] => .last hafter
  | (key, value) :: fields => by
    have h := IsTail.more isBlank_nil (denotes_fields (isKey_quote level key) isBlank_space
      (denotes_pretty level value) (isTail_prettyFields level hafter fields))
    simpa [prettyFields, fieldData] using h

end

/-- **The text of a value is JSON**, and says the value. -/
theorem isText_text (j : Json) : IsText j.text.toList j.datum := by
  have h : IsText ([] ++ (j.text.toList ++ [])) j.datum :=
    .mk isBlank_nil (denotes_pretty 0 j) isBlank_nil
  simpa using h

end Codebook.Json

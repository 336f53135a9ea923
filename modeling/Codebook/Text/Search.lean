/-!
# Searching in a text

The first occurrence of one text in another, and what stands before and after it.
-/

set_option autoImplicit false

namespace Codebook.Text

/-- What follows `start` in a text that begins with it. -/
def afterPrefix? : List Char → List Char → Option (List Char)
  | [], cs => some cs
  | _ :: _, [] => none
  | s :: start, c :: cs => if c = s then afterPrefix? start cs else none

/-- A text that begins with `start` is that and the rest. -/
theorem afterPrefix?_eq_some_iff (start cs rest : List Char) :
    afterPrefix? start cs = some rest ↔ cs = start ++ rest := by
  induction start generalizing cs with
  | nil => simp [afterPrefix?]
  | cons s start ih =>
    cases cs with
    | nil => simp [afterPrefix?]
    | cons c cs =>
      rw [afterPrefix?]
      split
      · rename_i h
        subst h
        simp [ih]
      · rename_i h
        simp [h]

/-- The text before and after the first occurrence of `needle`. -/
def breakAtText (needle : List Char) : List Char → Option (List Char × List Char)
  | [] => if needle.isEmpty then some ([], []) else none
  | c :: cs =>
    match afterPrefix? needle (c :: cs) with
    | some rest => some ([], rest)
    | none => (breakAtText needle cs).map fun (before, rest) => (c :: before, rest)

/-- Whether `needle` occurs in a text. -/
def containsText (needle cs : List Char) : Bool := (breakAtText needle cs).isSome

/-- The text without the first occurrence of `needle`. -/
def removeFirst (needle cs : List Char) : List Char :=
  match breakAtText needle cs with
  | some (before, rest) => before ++ rest
  | none => cs

/-- What is found is an occurrence. -/
theorem eq_of_breakAtText {needle cs before rest : List Char}
    (h : breakAtText needle cs = some (before, rest)) : cs = before ++ needle ++ rest := by
  induction cs generalizing before with
  | nil =>
    cases needle with
    | nil => simp [breakAtText] at h; simp [h]
    | cons c cs => simp [breakAtText] at h
  | cons c cs ih =>
    rw [breakAtText] at h
    split at h
    · rename_i r hr
      obtain ⟨rfl, rfl⟩ : [] = before ∧ r = rest := by simpa using h
      simpa using (afterPrefix?_eq_some_iff needle _ _).1 hr
    · obtain ⟨⟨b, r⟩, hb, heq⟩ := Option.map_eq_some_iff.1 h
      obtain ⟨rfl, rfl⟩ : c :: b = before ∧ r = rest := by simpa using heq
      simpa using ih hb

end Codebook.Text

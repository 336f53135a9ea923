import Codebook.Proofs.Text.LineEnds
import Codebook.Proofs.Text.Search

/-!
# A text with carriage returns before its line feeds

What bytes with carriage returns before their line feeds are decoded to is the text with carriage
returns before its line feeds.

What is here: `returned`, that text; `decode?_addReturns`; and `afterPrefix?_returned`, what follows
a start that has no line ends.
-/

set_option autoImplicit false

namespace Codebook.Text

/-- A text with a carriage return before each line feed. -/
def returned : List Char → List Char
  | [] => []
  | c :: cs => if c = '\n' then '\r' :: '\n' :: returned cs else c :: returned cs

variable {cs : List Char}

@[simp] theorem returned_nil : returned [] = [] := rfl

@[simp] theorem returned_newline (cs : List Char) :
    returned ('\n' :: cs) = '\r' :: '\n' :: returned cs := rfl

theorem returned_cons {c : Char} (hc : c ≠ '\n') (cs : List Char) :
    returned (c :: cs) = c :: returned cs := if_neg hc

theorem returned_append (cs ds : List Char) : returned (cs ++ ds) = returned cs ++ returned ds := by
  induction cs with
  | nil => rfl
  | cons c cs ih =>
    rw [List.cons_append, returned, returned, ih]
    split <;> rfl

/-- A text without line feeds stays as it is. -/
theorem returned_of_not_mem (h : '\n' ∉ cs) : returned cs = cs := by
  induction cs with
  | nil => rfl
  | cons c cs ih =>
    rw [List.mem_cons, not_or] at h
    rw [returned_cons (Ne.symm h.1), ih h.2]

/-- It has the same line feeds. -/
theorem count_returned (cs : List Char) : (returned cs).count '\n' = cs.count '\n' := by
  induction cs with
  | nil => rfl
  | cons c cs ih =>
    rw [returned]
    split
    · rename_i hc
      rw [hc, List.count_cons_of_ne (by decide), List.count_cons_self, List.count_cons_self, ih]
    · rename_i hc
      rw [List.count_cons_of_ne hc, List.count_cons_of_ne hc, ih]

/-- The longer a text, the longer it gets. -/
theorem length_returned_le {ds : List Char} (h : cs <:+ ds) :
    (returned cs).length ≤ (returned ds).length := by
  obtain ⟨front, rfl⟩ := h
  rw [returned_append, List.length_append]
  exact Nat.le_add_left _ _

/-! ## Decoding -/

theorem return_not_mem_of_decode? {bytes : List UInt8} (h : Utf8.decode? bytes = some cs)
    (hbytes : 0x0D ∉ bytes) : '\r' ∉ cs := by
  intro hmem
  have hunit : some '\r' ∈ Utf8.units bytes := by
    rw [Utf8.map_some_of_allCharacters? h]
    exact List.mem_map_of_mem hmem
  obtain ⟨b, hb, hreturn⟩ := Utf8.exists_mem_of_some_mem_units hunit (by decide) (by decide)
  obtain rfl : b = 0x0D := UInt8.toNat_inj.1 hreturn
  exact hbytes hb

/-- **Carriage returns among the bytes are carriage returns in the text.** -/
theorem decode?_addReturns (bytes : List UInt8) :
    Utf8.decode? (addReturns (fun _ => true) bytes) = (Utf8.decode? bytes).map returned := by
  induction bytes using byteLines_induction with
  | last line hline =>
    rw [addReturns_of_not_mem _ hline]
    cases h : Utf8.decode? line with
    | none => rfl
    | some cs => rw [Option.map_some, returned_of_not_mem (newline_not_mem_of_decode? h hline)]
  | line line rest hline ih =>
    have hreturn : Utf8.decode? (line ++ [0x0D]) = (Utf8.decode? line).map (· ++ ['\r']) := by
      rw [Utf8.decode?_append_ascii line (by decide)]
      cases Utf8.decode? line <;> rfl
    rw [addReturns_append _ hline, if_pos rfl, Utf8.decode?_append_newline, ih, hreturn,
      Utf8.decode?_append_newline]
    cases h : Utf8.decode? line with
    | none => rfl
    | some cs =>
      cases Utf8.decode? rest with
      | none => rfl
      | some ds =>
        have hcs := returned_of_not_mem (newline_not_mem_of_decode? h hline)
        simp [returned_append, hcs]

/-! ## Starts -/

/-- Whether a text starts with a text without line ends, and what follows. -/
theorem afterPrefix?_returned {start : List Char} (hfeed : '\n' ∉ start) (hreturn : '\r' ∉ start)
    (cs : List Char) : afterPrefix? start (returned cs) = (afterPrefix? start cs).map returned := by
  induction start generalizing cs with
  | nil => rfl
  | cons s start ih =>
    rw [List.mem_cons, not_or] at hfeed hreturn
    cases cs with
    | nil => rfl
    | cons c cs =>
      rw [returned]
      split
      · rename_i hc
        rw [hc, afterPrefix?, if_neg hreturn.1, afterPrefix?, if_neg hfeed.1]
        rfl
      · rw [afterPrefix?, afterPrefix?, ih hfeed.2 hreturn.2]
        split <;> rfl

end Codebook.Text

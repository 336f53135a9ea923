import Codebook.Proofs.Text.Ascii
import Codebook.Text.Utf8

/-!
# UTF-8 may be cut at a character of ASCII

All bytes of a character of several bytes are 0x80 or greater.  So a lesser byte is a character by
itself wherever it stands, also where the bytes around it are malformed, and no other byte yields
its character.  What comes before the byte and what comes after it are decoded each by itself.

What is here: `step`, what one byte does, and `step_sound`, what is true of it in a state that the
decoder can reach; `units_append_ascii` and `decode?_append_ascii`, the cut; and
`exists_mem_of_some_mem_units` and `getLast?_of_decode?`, which byte a character comes from.
-/

set_option autoImplicit false

namespace Codebook.Text.Utf8

/-! ## One byte -/

/-- The units that a byte ends, and the character that it leaves begun. -/
def Progress.parts : Progress → List (Option Char) × Option Partial
  | .unit u => ([u], none)
  | .more p => ([], some p)

/-- The units that one byte ends where a character may have been started, and the character that is
started after it. -/
def step : Option Partial → UInt8 → List (Option Char) × Option Partial
  | none, b => (start b.toNat).parts
  | some p, b =>
    match p.continue? b.toNat with
    | some q => q.parts
    | none => (none :: (start b.toNat).parts.1, (start b.toNat).parts.2)

theorem unitsFrom_cons (o : Option Partial) (b : UInt8) (bs : List UInt8) :
    unitsFrom o (b :: bs) = (step o b).1 ++ unitsFrom (step o b).2 bs := by
  cases o with
  | none =>
    rw [unitsFrom, step]
    cases start b.toNat <;> rfl
  | some p =>
    rw [unitsFrom, step]
    cases p.continue? b.toNat with
    | some q => cases q <;> rfl
    | none => cases start b.toNat <;> rfl

/-- What is true of a character that the decoder has started: the next byte is none of ASCII, and
the character will not be one of ASCII. -/
structure Partial.IsProper (p : Partial) : Prop where
  /-- The least next byte is none of ASCII. -/
  low : 0x80 ≤ p.low
  /-- The bits, with those of the next byte if that is not the last one, are two at least. -/
  least : 2 ≤ p.bits ∨ p.missing ≠ 1 ∧ 2 ≤ p.bits * 64 + (p.low - 0x80)

/-- What is true of a step at a byte: the characters of ASCII that it ends are that byte, and what
it leaves begun is proper.  The character U+0000 is left out, for it stands for the numbers that are
no characters as well. -/
structure IsSound (b : Nat) (r : List (Option Char) × Option Partial) : Prop where
  /-- A character of ASCII is the byte. -/
  ascii : ∀ c : Char, some c ∈ r.1 → 0 < c.toNat → c.toNat < 0x80 → b = c.toNat
  /-- What is begun is proper. -/
  proper : ∀ p ∈ r.2, p.IsProper

theorem isSound_none (b : Nat) : IsSound b ([none], none) := ⟨by simp, by simp⟩

theorem isSound_more (b : Nat) {missing low high bits : Nat} (hlow : 0x80 ≤ low)
    (hleast : 2 ≤ bits ∨ missing ≠ 1 ∧ 2 ≤ bits * 64 + (low - 0x80)) :
    IsSound b ([], some ⟨missing, low, high, bits⟩) :=
  ⟨by simp, fun _ hp => Option.some.inj hp ▸ ⟨hlow, hleast⟩⟩

theorem isSound_unit {b n : Nat} (h : n < 0x80 → b = n) :
    IsSound b ([some (Char.ofNat n)], none) := by
  refine ⟨fun c hc hpos hlt => ?_, by simp⟩
  simp only [List.mem_singleton, Option.some.injEq] at hc
  obtain rfl := (ofNat_eq_iff hpos).1 hc.symm
  exact h hlt

theorem isSound_start (b : Nat) : IsSound b (start b).parts := by
  unfold start
  split
  · exact isSound_unit fun _ => rfl
  split
  · exact isSound_none b
  split
  · exact isSound_more b (by omega) (by omega)
  split
  · exact isSound_more b (by omega) (by omega)
  split
  · exact isSound_more b (by omega) (by omega)
  split
  · exact isSound_more b (by omega) (by omega)
  split
  · exact isSound_more b (by omega) (by omega)
  split
  · exact isSound_more b (by omega) (by omega)
  split
  · exact isSound_more b (by omega) (by omega)
  · exact isSound_none b

theorem isSound_continue? {p : Partial} (hp : p.IsProper) {b : Nat} {q : Progress}
    (h : p.continue? b = some q) : IsSound b q.parts := by
  unfold Partial.continue? at h
  split at h
  · rename_i hb
    have hlow := hp.low
    have hleast := hp.least
    obtain rfl := Option.some.inj h
    split
    · exact isSound_unit fun _ => by omega
    · exact isSound_more b (by omega) (by omega)
  · cases h

/-- **A step is sound in every state that the decoder can reach.** -/
theorem step_sound {o : Option Partial} (ho : ∀ p ∈ o, p.IsProper) (b : UInt8) :
    IsSound b.toNat (step o b) := by
  cases o with
  | none => exact isSound_start b.toNat
  | some p =>
    rw [step]
    split
    · exact isSound_continue? (ho p rfl) ‹_›
    · have hstart := isSound_start b.toNat
      exact ⟨fun c hc => hstart.ascii c (by simpa using hc), hstart.proper⟩

/-- A byte of ASCII ends what was begun, and is a character. -/
theorem step_ascii {o : Option Partial} (ho : ∀ p ∈ o, p.IsProper) {b : UInt8}
    (hb : b.toNat < 0x80) :
    step o b = (unitsFrom o [] ++ [some (Char.ofNat b.toNat)], none) := by
  have hstart : start b.toNat = .unit (some (Char.ofNat b.toNat)) := by rw [start, if_pos hb]
  cases o with
  | none => rw [step, hstart]; rfl
  | some p =>
    have hlow := (ho p rfl).low
    have hcontinue : p.continue? b.toNat = none := by rw [Partial.continue?, if_neg (by omega)]
    rw [step, hcontinue, hstart]
    rfl

/-! ## A text -/

variable {bs rest : List UInt8} {cs : List Char} {c : Char} {b : UInt8}

theorem unitsFrom_append_ascii {o : Option Partial} (ho : ∀ p ∈ o, p.IsProper) (bs : List UInt8)
    (hb : b.toNat < 0x80) (rest : List UInt8) :
    unitsFrom o (bs ++ b :: rest) =
      unitsFrom o bs ++ some (Char.ofNat b.toNat) :: unitsFrom none rest := by
  induction bs generalizing o with
  | nil => rw [List.nil_append, unitsFrom_cons, step_ascii ho hb, List.append_assoc]; rfl
  | cons a bs ih =>
    rw [List.cons_append, unitsFrom_cons, unitsFrom_cons, ih (step_sound ho a).proper,
      List.append_assoc]

/-- **The units of a text that is cut at a byte of ASCII.** -/
theorem units_append_ascii (bs : List UInt8) (hb : b.toNat < 0x80) (rest : List UInt8) :
    units (bs ++ b :: rest) = units bs ++ some (Char.ofNat b.toNat) :: units rest :=
  unitsFrom_append_ascii (by simp) bs hb rest

theorem allCharacters?_append (us vs : List (Option Char)) :
    allCharacters? (us ++ vs) =
      (allCharacters? us).bind fun cs => (allCharacters? vs).map (cs ++ ·) := by
  induction us with
  | nil => simp [allCharacters?]
  | cons u us ih =>
    cases u with
    | none => rfl
    | some c =>
      rw [List.cons_append, allCharacters?, allCharacters?, ih]
      cases allCharacters? us <;> cases allCharacters? vs <;> rfl

/-- **A text is valid if it is so on both sides of a byte of ASCII.** -/
theorem decode?_append_ascii (bs : List UInt8) (hb : b.toNat < 0x80) (rest : List UInt8) :
    decode? (bs ++ b :: rest) =
      (decode? bs).bind fun cs => (decode? rest).map (cs ++ Char.ofNat b.toNat :: ·) := by
  rw [decode?, units_append_ascii bs hb rest, allCharacters?_append, allCharacters?]
  simp only [Option.map_map]
  rfl

/-- A line feed is such a byte. -/
theorem decode?_append_newline (bs rest : List UInt8) :
    decode? (bs ++ 0x0A :: rest) =
      (decode? bs).bind fun cs => (decode? rest).map (cs ++ '\n' :: ·) :=
  decode?_append_ascii bs (by decide) rest

theorem exists_mem_of_some_mem_unitsFrom {o : Option Partial} (ho : ∀ p ∈ o, p.IsProper)
    (h : some c ∈ unitsFrom o bs) (hpos : 0 < c.toNat) (hc : c.toNat < 0x80) :
    ∃ b ∈ bs, b.toNat = c.toNat := by
  induction bs generalizing o with
  | nil =>
    cases o with
    | none => cases h
    | some p => simp [unitsFrom] at h
  | cons a bs ih =>
    have hstep := step_sound ho a
    rw [unitsFrom_cons, List.mem_append] at h
    rcases h with h | h
    · exact ⟨a, List.mem_cons_self, hstep.ascii c h hpos hc⟩
    · obtain ⟨b, hb, heq⟩ := ih hstep.proper h
      exact ⟨b, List.mem_cons_of_mem a hb, heq⟩

/-- **A character of ASCII comes from its own byte only.** -/
theorem exists_mem_of_some_mem_units (h : some c ∈ units bs) (hpos : 0 < c.toNat)
    (hc : c.toNat < 0x80) : ∃ b ∈ bs, b.toNat = c.toNat :=
  exists_mem_of_some_mem_unitsFrom (by simp) h hpos hc

theorem unitsFrom_ne_nil (o : Option Partial) (hbs : bs ≠ []) : unitsFrom o bs ≠ [] := by
  induction bs generalizing o with
  | nil => exact absurd rfl hbs
  | cons b bs ih =>
    rw [unitsFrom_cons]
    intro hnil
    obtain ⟨hunits, hrest⟩ := List.append_eq_nil_iff.1 hnil
    by_cases hnone : bs = []
    · subst hnone
      cases hbegun : (step o b).2 with
      | some p => rw [hbegun] at hrest; cases hrest
      | none =>
        -- a step that begins nothing ends something
        have hparts (q : Progress) (h : q.parts.2 = none) : q.parts.1 ≠ [] := by
          cases q with
          | unit u => exact List.cons_ne_nil u []
          | more p => cases h
        cases o with
        | none => exact hparts _ hbegun hunits
        | some p =>
          rw [step] at hbegun hunits
          split at hunits
          · rename_i q hq
            rw [hq] at hbegun
            exact hparts q hbegun hunits
          · cases hunits
    · exact ih _ hnone hrest

/-- The last character of a text is the last byte, if it is one of ASCII. -/
theorem getLast?_of_getLast?_unitsFrom {o : Option Partial} (ho : ∀ p ∈ o, p.IsProper)
    (h : (unitsFrom o bs).getLast? = some (some c)) (hpos : 0 < c.toNat) (hc : c.toNat < 0x80) :
    bs.getLast?.map UInt8.toNat = some c.toNat := by
  induction bs generalizing o with
  | nil =>
    cases o with
    | none => cases h
    | some p => simp [unitsFrom] at h
  | cons a bs ih =>
    have hstep := step_sound ho a
    rw [unitsFrom_cons] at h
    by_cases hbs : bs = []
    · subst hbs
      have hmem : some c ∈ (step o a).1 ++ unitsFrom (step o a).2 [] := List.mem_of_getLast? h
      rcases List.mem_append.1 hmem with hmem | hmem
      · exact congrArg some (hstep.ascii c hmem hpos hc)
      · cases hbegun : (step o a).2 <;> simp [hbegun, unitsFrom] at hmem
    · rw [List.getLast?_append, Option.or_of_isSome
        (by simpa using unitsFrom_ne_nil _ hbs)] at h
      obtain ⟨x, xs, rfl⟩ := List.exists_cons_of_ne_nil hbs
      rw [List.getLast?_cons_cons, ih hstep.proper h]

theorem map_some_of_allCharacters? {us : List (Option Char)} (h : allCharacters? us = some cs) :
    us = cs.map some := by
  induction us generalizing cs with
  | nil => cases h; rfl
  | cons u us ih =>
    cases u with
    | none => cases h
    | some d =>
      obtain ⟨ds, hds, rfl⟩ := Option.map_eq_some_iff.1 h
      rw [ih hds, List.map_cons]

/-- **A valid text that ends in a character of ASCII ends in its byte.** -/
theorem getLast?_of_decode? (h : decode? bs = some cs) (hlast : cs.getLast? = some c)
    (hpos : 0 < c.toNat) (hc : c.toNat < 0x80) : bs.getLast?.map UInt8.toNat = some c.toNat := by
  refine getLast?_of_getLast?_unitsFrom (o := none) (by simp) ?_ hpos hc
  show (units bs).getLast? = some (some c)
  rw [map_some_of_allCharacters? h, List.getLast?_map, hlast, Option.map_some]

end Codebook.Text.Utf8

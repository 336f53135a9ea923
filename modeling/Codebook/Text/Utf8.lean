/-!
# Decoding UTF-8

Bytes are read from left to right into *units*.  A unit is a character, or a maximal malformed
part: a byte that starts nothing, or the longest beginning of a character that the following byte
does not continue.  A text is valid when all of its units are characters, and the lossy reading puts
U+FFFD for each of the others.

What is here: `units`, `decode?` and `decodeLossy`.
-/

set_option autoImplicit false

namespace Codebook.Text.Utf8

/-- A character that has been started: how many bytes are missing, between which bounds the next
one has to lie, and the bits read so far. -/
structure Partial where
  /-- The number of missing bytes. -/
  missing : Nat
  /-- The least next byte. -/
  low : Nat
  /-- The greatest next byte. -/
  high : Nat
  /-- The bits read so far. -/
  bits : Nat

/-- What one byte leads to. -/
inductive Progress where
  /-- It ends a unit. -/
  | unit (u : Option Char)
  /-- It starts or continues a character. -/
  | more (p : Partial)

/-- What a byte leads to at the start of a unit.  The bounds of the second byte keep out overlong
forms, surrogates and numbers beyond U+10FFFF. -/
def start (b : Nat) : Progress :=
  if b < 0x80 then .unit (some (Char.ofNat b))
  else if b < 0xC2 then .unit none
  else if b < 0xE0 then .more ⟨1, 0x80, 0xBF, b - 0xC0⟩
  else if b = 0xE0 then .more ⟨2, 0xA0, 0xBF, 0⟩
  else if b = 0xED then .more ⟨2, 0x80, 0x9F, 0xD⟩
  else if b < 0xF0 then .more ⟨2, 0x80, 0xBF, b - 0xE0⟩
  else if b = 0xF0 then .more ⟨3, 0x90, 0xBF, 0⟩
  else if b < 0xF4 then .more ⟨3, 0x80, 0xBF, b - 0xF0⟩
  else if b = 0xF4 then .more ⟨3, 0x80, 0x8F, 4⟩
  else .unit none

/-- What a byte leads to within a character, if it continues it. -/
def Partial.continue? (p : Partial) (b : Nat) : Option Progress :=
  if p.low ≤ b ∧ b ≤ p.high then
    let bits := p.bits * 64 + (b - 0x80)
    some (if p.missing = 1 then .unit (some (Char.ofNat bits))
      else .more ⟨p.missing - 1, 0x80, 0xBF, bits⟩)
  else none

/-- The units of a text of which a character may have been started. -/
def unitsFrom : Option Partial → List UInt8 → List (Option Char)
  | none, [] => []
  | some _, [] => [none]
  | none, b :: bs =>
    match start b.toNat with
    | .unit u => u :: unitsFrom none bs
    | .more p => unitsFrom (some p) bs
  | some p, b :: bs =>
    match p.continue? b.toNat with
    | some (.unit u) => u :: unitsFrom none bs
    | some (.more q) => unitsFrom (some q) bs
    | none =>
      none ::
        match start b.toNat with
        | .unit u => u :: unitsFrom none bs
        | .more q => unitsFrom (some q) bs

/-- The units of a text. -/
def units (bs : List UInt8) : List (Option Char) := unitsFrom none bs

/-- The characters of a list of units that are all characters. -/
def allCharacters? : List (Option Char) → Option (List Char)
  | [] => some []
  | some c :: us => (allCharacters? us).map (c :: ·)
  | none :: _ => none

/-- The text, if it is valid. -/
def decode? (bs : List UInt8) : Option (List Char) := allCharacters? (units bs)

/-- The text with U+FFFD in place of every malformed part. -/
def decodeLossy (bs : List UInt8) : List Char := (units bs).map fun u => u.getD '\uFFFD'

/-- The two readings agree on a valid text. -/
theorem decodeLossy_of_decode? {bs : List UInt8} {cs : List Char} (h : decode? bs = some cs) :
    decodeLossy bs = cs := by
  unfold decodeLossy
  unfold decode? at h
  generalize units bs = us at h
  induction us generalizing cs with
  | nil => simpa [allCharacters?] using h
  | cons u us ih =>
    cases u with
    | none => simp [allCharacters?] at h
    | some c =>
      obtain ⟨ds, hd, rfl⟩ := Option.map_eq_some_iff.1 h
      simp [ih hd]

end Codebook.Text.Utf8

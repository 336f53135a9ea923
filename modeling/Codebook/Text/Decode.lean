import Codebook.Text.Blank
import Codebook.Text.Gb18030
import Codebook.Text.Utf8

/-!
# From the bytes of a file to its text

A text is UTF-8 if it can be, else GB18030 if it can be, else UTF-8 with its malformed parts
replaced.  SQL files are often put together from sources of both kinds, so a file that is not valid
UTF-8 as a whole is decoded line by line.

Other East Asian encodings have nothing to add after GB18030: every two-byte code that they know is
one of GB18030 as well.
-/

set_option autoImplicit false

namespace Codebook.Text

/-- The text of some bytes. -/
def decode (bs : List UInt8) : List Char :=
  match Utf8.decode? bs with
  | some cs => cs
  | none => (Gb18030.decode bs).getD (Utf8.decodeLossy bs)

/-- The bytes without a byte-order mark at the front. -/
def dropByteOrderMark : List UInt8 → List UInt8
  | 0xEF :: 0xBB :: 0xBF :: rest => rest
  | bs => bs

/-- The line-feed separated parts of some bytes. -/
def byteLines : List UInt8 → List (List UInt8)
  | [] => [[]]
  | b :: bs =>
    if b = 0x0A then [] :: byteLines bs
    else
      match byteLines bs with
      | [] => [[b]]
      | line :: lines => (b :: line) :: lines

/-- A line without one carriage return at its end. -/
def dropCarriageReturn : List UInt8 → List UInt8
  | [] => []
  | [b] => if b = 0x0D then [] else [b]
  | b :: c :: bs => b :: dropCarriageReturn (c :: bs)

/-- The text with every pair of carriage return and line feed made a line feed. -/
def unifyLineEnds : List Char → List Char
  | [] => []
  | '\r' :: '\n' :: cs => '\n' :: unifyLineEnds cs
  | c :: cs => c :: unifyLineEnds cs

/-- The text of a file, with line feeds at the ends of its lines.  A byte-order mark at the front is
no part of it.  Each line of a file that is not UTF-8 throughout is decoded by itself. -/
def decodeLines (bytes : List UInt8) : List Char :=
  let bs := dropByteOrderMark bytes
  match Utf8.decode? bs with
  | some cs => unifyLineEnds cs
  | none => joinWith ['\n'] ((byteLines bs).map fun line => decode (dropCarriageReturn line))

end Codebook.Text

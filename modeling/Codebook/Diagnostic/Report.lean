import Codebook.Diagnostic
import Codebook.Document.Json

/-!
# Reporting diagnostics

Diagnostics are written for people, in colour and with the text that they are about, or as JSON.
-/

set_option autoImplicit false

namespace Codebook

/-! ## For people -/

/-- A severity in its colour. -/
def Severity.coloured : Severity → String
  | .error => "\x1b[31merror\x1b[0m"
  | .warning => "\x1b[33mwarning\x1b[0m"

namespace Diagnostic

/-- A number in at least so many places. -/
def padded (width n : Nat) : String :=
  let digits := toString n
  String.ofList (List.replicate (width - digits.length) ' ') ++ digits

/-- A diagnostic for people. -/
def human (d : Diagnostic) : String :=
  d.severity.coloured ++ "[" ++ d.kind.code ++ "]: " ++ d.message ++ "\n" ++
    (match d.file, d.span with
      | some file, some span =>
        "  --> " ++ file ++ ":" ++ toString span.line ++ ":" ++ toString span.column ++ "\n"
      | some file, none => "  --> " ++ file ++ "\n"
      | none, _ => "") ++
    (match d.statement with
      | some statement =>
        let line := match d.span with
          | some span => span.line
          | none => 0
        "   |\n" ++ padded 3 line ++ " | " ++ statement ++ "\n"
      | none => "") ++
    (match d.help with
      | some help => "   = help: " ++ help ++ "\n"
      | none => "") ++
    "\n"

/-! ## As JSON -/

/-- A diagnostic as it is reported, with its fields in alphabetical order. -/
def toJson (d : Diagnostic) : Json :=
  .object
    [("code", .string d.kind.code), ("file", .ofOption d.file), ("help", .ofOption d.help),
      ("message", .string d.message), ("rule", .string d.kind.rule),
      ("severity", .string d.severity.name),
      ("span", match d.span with
        | some s => .object
          [("column", .number s.column), ("length", .number s.length), ("line", .number s.line),
            ("offset", .number s.offset)]
        | none => .null),
      ("statement", .ofOption d.statement)]

/-- A diagnostic as it is stored, with its fields in the order of the type. -/
def toStoredJson (d : Diagnostic) : Json :=
  .object
    [("kind", .string d.kind.label), ("severity", .string d.severity.name),
      ("message", .string d.message), ("file", .ofOption d.file),
      ("span", match d.span with
        | some s => .object
          [("offset", .number s.offset), ("length", .number s.length), ("line", .number s.line),
            ("column", .number s.column)]
        | none => .null),
      ("statement", .ofOption d.statement), ("help", .ofOption d.help)]

/-- The stored form of a diagnostic as text. -/
def serialized (d : Diagnostic) : String := d.toStoredJson.compact

end Diagnostic

/-- How diagnostics are written. -/
inductive MessageFormat where
  | human
  | json
deriving DecidableEq, Repr

/-- Some diagnostics in a format; nothing is written if there are none. -/
def MessageFormat.write (format : MessageFormat) (ds : List Diagnostic) : String :=
  if ds.isEmpty then ""
  else
    match format with
    | .human => ds.foldr (fun d text => d.human ++ text) ""
    | .json =>
      (Json.object [("diagnostics", .array (ds.map Diagnostic.toJson))]).text ++ "\n"

end Codebook

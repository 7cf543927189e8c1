import AdtCompiler.Source.File

/-!
# Diagnostics

A diagnostic carries a severity, a stable code, a message and the span it is about, and notes
that point to further places. Severities and codes are open ranges of numbers: what is not on
the list has a name of its own.
-/

namespace AdtCompiler

/-- How serious a diagnostic is; a greater number is more serious. -/
structure Severity where
  level : UInt8
deriving Repr, DecidableEq

namespace Severity

/-- Something to know. -/
def info : Severity := ⟨0⟩

/-- Something to look at. -/
def warning : Severity := ⟨1⟩

/-- Something that stops the work. -/
def error : Severity := ⟨2⟩

/-- The name of a severity. -/
def name (s : Severity) : Text :=
  if s = info then "INFO"
  else if s = warning then "WARNING"
  else if s = error then "ERROR"
  else "UNKNOWN"

end Severity

/-- The number of a kind of diagnostic. -/
structure DiagnosticCode where
  number : UInt16
deriving Repr, DecidableEq

namespace DiagnosticCode

/-- A code outside the list. -/
def unknown : DiagnosticCode := ⟨0⟩

/-- A token that is none of the language. -/
def unknownToken : DiagnosticCode := ⟨1001⟩

/-- A token where another one was expected. -/
def unexpectedToken : DiagnosticCode := ⟨2001⟩

/-- Two data types or constructors of one name. -/
def duplicateName : DiagnosticCode := ⟨3001⟩

/-- Two fields of one name. -/
def duplicateField : DiagnosticCode := ⟨3002⟩

/-- A type parameter that occurs twice. -/
def duplicateParam : DiagnosticCode := ⟨3003⟩

/-- A type parameter that hides a type. -/
def shadowingParam : DiagnosticCode := ⟨3004⟩

/-- A declared name that clashes with a generated one. -/
def generatedClash : DiagnosticCode := ⟨3005⟩

/-- The thousand of a code names the phase that reports it. -/
def id (c : DiagnosticCode) : Text :=
  let numeral := Text.decimal c.number.toNat
  match c.number.toNat / 1000 with
  | 1 => "LEX" ++ numeral
  | 2 => "SYN" ++ numeral
  | 3 => "SEM" ++ numeral
  | 4 => "IO" ++ numeral
  | _ => "E0000"

/-- The title of a code. -/
def title (c : DiagnosticCode) : Text :=
  match c.number.toNat with
  | 1001 => "Unrecognized token"
  | 2001 => "Unexpected token"
  | 3001 => "Duplicate data type or constructor name"
  | 3002 => "Duplicate field name"
  | 3003 => "Duplicate type parameter"
  | 3004 => "Type parameter hides a type"
  | 3005 => "Name clashes with generated code"
  | 4001 => "I/O load file error"
  | 4002 => "I/O emit error"
  | _ => "Unknown error"

/-- The code with its title. -/
def text (c : DiagnosticCode) : Text := "[" ++ c.id ++ "]: " ++ c.title

end DiagnosticCode

/-- A remark about a further place. -/
structure Note where
  span : Span
  message : Text
deriving Repr, DecidableEq

/-- A message about a place in a source file. -/
structure Diagnostic where
  severity : Severity
  code : DiagnosticCode
  span : Span
  message : Text
  notes : List Note
deriving Repr, DecidableEq

namespace Diagnostic

/-- An error without notes. -/
def error (code : DiagnosticCode) (span : Span) (message : Text) : Diagnostic :=
  ⟨.error, code, span, message, []⟩

/-- The order of reports: by file, start and end, the more serious first, then by code and
message. -/
def compare (a b : Diagnostic) : Ordering :=
  (Ord.compare a.span.file b.span.file).then <|
    (Ord.compare a.span.start b.span.start).then <|
      (Ord.compare a.span.stop b.span.stop).then <|
        (Ord.compare b.severity.level a.severity.level).then <|
          (Ord.compare a.code.number b.code.number).then (Text.compare a.message b.message)

/-- Whether the first diagnostic may be reported before the second. -/
def le (a b : Diagnostic) : Bool := a.compare b != .gt

/-- What a diagnostic says and of which place, as one text. -/
def key (d : Diagnostic) : Text := d.code.id ++ ":" ++ d.span.text ++ ":" ++ d.message

/-- Whether two diagnostics say the same about the same place. -/
def repeats (a b : Diagnostic) : Bool := a.key == b.key

end Diagnostic

end AdtCompiler

import AdtCompiler.Check.Finding
import AdtCompiler.Diagnostic.Bag
import AdtCompiler.Syntax.Parser
import AdtCompiler.Text.Quoted

/-!
# Diagnostics of a source

Errors of the phases as diagnostics. A document does not hold the places of its names, so a
finding is located through the words of the source that spell its name: at the second of them,
with a note about the first, or at the only one.
-/

namespace AdtCompiler

/-- The diagnostic of a syntax error. -/
def SyntaxError.diagnostic (e : SyntaxError) : Diagnostic :=
  .error .unexpectedToken e.token.span e.brief

/-- The code of a kind of finding. -/
def FindingKind.diagnosticCode : FindingKind → DiagnosticCode
  | .duplicateName => .duplicateName
  | .duplicateField => .duplicateField
  | .duplicateParam => .duplicateParam
  | .shadowingParam => .shadowingParam
  | .generatedClash => .generatedClash
  | .unlisted _ _ => .unknown

namespace SourceFile

/-- The spans of the words that spell a name, in order. -/
def occurrences (file : SourceFile) (table : WordTable) (name : Text) : List Span :=
  ((file.tokens table).1.filter fun t => t.kind == .ident && t.text == name).map (·.span)

end SourceFile

/-- The diagnostic of a finding, given the places where its name is spelled. -/
def Finding.diagnostic (f : Finding) (file : UInt32) (places : List Span) : Diagnostic :=
  let code := f.kind.diagnosticCode
  match places with
  | [] => .error code ⟨file, 0, 0⟩ f.message
  | [only] => .error code only f.message
  | first :: second :: _ =>
    { Diagnostic.error code second f.message with
      notes := [⟨first, f.name ++ " also appears here"⟩] }

/-- The diagnostics of all findings, in the order of reports. -/
def FindingSet.diagnostics (s : FindingSet) (file : SourceFile) (table : WordTable) :
    List Diagnostic :=
  s.sorted.map fun f => f.diagnostic file.id (file.occurrences table f.name)

/-- The warning about a token that is none. -/
def Token.unknownDiagnostic (t : Token) : Diagnostic :=
  ⟨.warning, .unknownToken, t.span, "unrecognized token " ++ t.text.quoted, []⟩

end AdtCompiler

import MermaidTidy.Layout.Format
import MermaidTidy.Log.Record
import MermaidTidy.Markdown.Format

/-!
# What formatting logs

The records that belong to formatting a text, in order. They are computed beside the result, so that
formatting itself knows nothing of the log. A fault ends the account where it ends the work.
-/

namespace MermaidTidy.Log

/-- The record about a declaration without a known keyword. -/
def unrecognised (declaration : Text) : Record :=
  ⟨part "builder", .debug, "Unrecognized diagram declaration ".toList ++ Text.quoted declaration ++
    ", treating as flowchart".toList⟩

/-- The record about the declaration of a source, if its keyword is not known. -/
def declarationRecords (t : Text) : List Record :=
  let declared := ((Text.splitLines t).zip (Source.read false t).statements).filter
    fun (_, s) => s.declared?.isSome
  (declared.map fun (raw, _) => Text.stripBlanks raw).filterMap fun line =>
    match DiagramType.recognise? line with
    | some _ => none
    | none => some (unrecognised line)

/-- The records of parsing a source. -/
def parseRecords (messages : Bool) (t : Text) : List Record :=
  if t = [] then []
  else
    declarationRecords t ++
      match Source.parse messages t with
      | .ok d => [⟨part "parser", .debug, "Parsed ".toList ++ Text.decimal d.statements.length ++
          " statements".toList⟩]
      | .error _ => []

/-- The record about a diagram that is passed through. -/
def passedThrough (type : DiagramType) : Record :=
  ⟨part "formatter", .debug, "Leaving ".toList ++ type.format ++
    " diagram unformatted".toList⟩

/-- The records of formatting a source. -/
def formatRecords (settings : Settings) (t : Text) : List Record :=
  if settings.preserveIndentSensitive then
    declarationRecords t ++
      match Source.detect t with
      | .error _ => []
      | .ok (some type) =>
        if type.isIndentSensitive then [passedThrough type]
        else parseRecords settings.normalizeMessages t
      | .ok none => parseRecords settings.normalizeMessages t
  else parseRecords settings.normalizeMessages t

/-- The records of formatting blocks up to the first fault, and whether there is none. -/
def blockRecords (memory : Nat) (settings : Settings) : List Markdown.CodeBlock → List Record × Bool
  | [] => ([], true)
  | b :: bs =>
    let own := formatRecords settings b.source
    match formatInRoom memory settings b.source with
    | .error _ => (own, false)
    | .ok _ =>
      let (rest, fine) := blockRecords memory settings bs
      (own ++ rest, fine)

/-- The record about a fence that is never closed. -/
def unclosedFence (line : Nat) : Record :=
  ⟨part "markdown", .warning, "Unclosed code fence starting at line ".toList ++ Text.decimal line ++
    " left as is".toList⟩

/-- The records of formatting a markdown document. -/
def markdownRecords (memory : Nat) (settings : Settings) (t : Text) : List Record :=
  let source := Text.unifyLineEnds t
  let open? := (Markdown.scan source).unclosed.map unclosedFence
  open?.toList ++
    match Markdown.mermaidBlocks source with
    | [] => []
    | blocks =>
      let (records, fine) := blockRecords memory settings blocks
      records ++
        if fine then
          [⟨part "markdown", .debug, "Formatted ".toList ++ Text.decimal blocks.length ++
            " mermaid block(s)".toList⟩]
        else []

end MermaidTidy.Log

import MermaidTidy.Diagnostic
import MermaidTidy.Text.Quoted

/-!
# Closed vocabularies

Keywords and arrows come from closed vocabularies. A token is decoded by exact comparison with the
spellings of the members, and a token outside the vocabulary is reported with its place in the line.
-/

namespace MermaidTidy

/-- A type whose members have fixed spellings. -/
class Vocabulary (α : Type) where
  /-- What a member is called in messages. -/
  title : Text
  /-- All members, in the order in which they are suggested. -/
  members : List α
  /-- How a member is written. -/
  spelling : α → Text

namespace Vocabulary

variable {α : Type} [Vocabulary α]

/-- The member that is written `token`. -/
def decode? (token : Text) : Option α :=
  (members : List α).find? (spelling · == token)

theorem spelling_of_decode? {token : Text} {a : α} (h : decode? token = some a) :
    spelling a = token := by
  simpa using List.find?_some h

/-- Where `token` stands in the line `context`, counting from one, and 0 when it is not there or one
of them is empty. -/
def columnIn (context : Option Text) (token : Text) : Int :=
  match Diagnostic.present? context with
  | none => 0
  | some line =>
    if token = [] then 0
    else
      match Text.indexOf? token line with
      | some i => i + 1
      | none => 0

/-- The report that `token` is no member of `α`. -/
def unknown (α : Type) [Vocabulary α] (token : Text) (line : Int) (context : Option Text) :
    Diagnostic where
  kind := .decode token
  message := "Unknown ".toList ++ title α ++ " ".toList ++ Text.quoted token
  line := line
  column := columnIn context token
  context := context
  suggestion := some <| "Expected one of: ".toList ++
    Text.joinWith ", ".toList ((members : List α).map spelling)

/-- The member that is written `token`, or a report about the token. -/
def decode (token : Text) (line : Int) (context : Option Text) : Except Diagnostic α :=
  match decode? token with
  | some a => .ok a
  | none => .error (unknown α token line context)

end Vocabulary

end MermaidTidy

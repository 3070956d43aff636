import MermaidTidy.Json.Value
import MermaidTidy.Settings.Basic
import MermaidTidy.Settings.Numeral

/-!
# Validation of settings

Settings are given as JSON values under names. Values of other types are taken where they plainly
stand for the wanted one, such as `"4"` for a width or `1` for a switch.

* `Settings.Field` names the four settings;
* `Settings.Problem` is a value that is not accepted, and why;
* `Settings.validate` gives the settings, or all problems in the order of the settings.
-/

namespace MermaidTidy.Settings

/-- The settings by name. -/
inductive Field
  | indentUnit
  | indentWidth
  | normalizeMessages
  | preserveIndentSensitive
deriving DecidableEq, Repr

namespace Field

/-- The name of a setting. -/
def name : Field → Text
  | .indentUnit => "indent_unit".toList
  | .indentWidth => "indent_width".toList
  | .normalizeMessages => "normalize_messages".toList
  | .preserveIndentSensitive => "preserve_indent_sensitive".toList

/-- All settings, in the order in which they are checked. -/
def all : List Field := [.indentUnit, .indentWidth, .normalizeMessages, .preserveIndentSensitive]

/-- The setting of the given name. -/
def ofName? (n : Text) : Option Field := all.find? (·.name == n)

theorem ofName?_name (f : Field) : ofName? f.name = some f := by cases f <;> rfl

end Field

/-- Why a value is not accepted. -/
inductive Cause
  /-- No unit of indentation. -/
  | unit
  /-- A value that can be no integer. -/
  | integerType
  /-- A text that is no integer. -/
  | integerText
  /-- A number between two integers. -/
  | fraction
  /-- An integer that is out of range. -/
  | size
  /-- An infinite or undefined number. -/
  | notFinite
  /-- An integer that is not positive. -/
  | notPositive
  /-- A value that can be no switch. -/
  | switchType
  /-- A text or integer that is no switch. -/
  | switchText
  /-- A string that is no text. -/
  | brokenText
  /-- A name that is no setting. -/
  | unknownName
deriving DecidableEq, Repr

/-- The name of a cause. -/
def Cause.name : Cause → Text
  | .unit => "enum".toList
  | .integerType => "int_type".toList
  | .integerText => "int_parsing".toList
  | .fraction => "int_from_float".toList
  | .size => "int_parsing_size".toList
  | .notFinite => "finite_number".toList
  | .notPositive => "greater_than".toList
  | .switchType => "bool_type".toList
  | .switchText => "bool_parsing".toList
  | .brokenText => "string_unicode".toList
  | .unknownName => "extra_forbidden".toList

/-- A cause in words. -/
def Cause.message : Cause → Text
  | .unit => "Input should be 'spaces' or 'tabs'".toList
  | .integerType => "Input should be a valid integer".toList
  | .integerText =>
    "Input should be a valid integer, unable to parse string as an integer".toList
  | .fraction => "Input should be a valid integer, got a number with a fractional part".toList
  | .size => "Unable to parse input string as an integer, exceeded maximum size".toList
  | .notFinite => "Input should be a finite number".toList
  | .notPositive => "Input should be greater than 0".toList
  | .switchType => "Input should be a valid boolean".toList
  | .switchText => "Input should be a valid boolean, unable to interpret input".toList
  | .brokenText =>
    "Input should be a valid string, unable to parse raw data as a unicode string".toList
  | .unknownName => "Extra inputs are not permitted".toList

/-- A value that is not accepted: the name it is given under, and why. -/
structure Problem where
  name : Text
  cause : Cause
deriving DecidableEq, Repr

/-- The line that announces problems. -/
def problemHeader (problems : List Problem) : Text :=
  Text.decimal problems.length ++
    (if problems.length = 1 then " validation error".toList else " validation errors".toList) ++
    " for FormatConfig".toList

/-! ### Single values -/

/-- The unit that a value stands for. -/
def unitOf : Json → Except Cause IndentUnit
  | .string t =>
    match Vocabulary.decode? t with
    | some u => .ok u
    | none => .error .unit
  | .brokenString => .error .brokenText
  | _ => .error .unit

/-- The bound of the integers that a number with a point may stand for: two to the power of 63. -/
def realBound : Int := 9223372036854775808

/-- The integer that a number with a point stands for. -/
def integerOfReal (x : Binary64) : Except Cause Int :=
  if x.isFinite then
    match x.integer? with
    | none => .error .fraction
    | some n => if -realBound < n && n < realBound then .ok n else .error .size
  else .error .notFinite

/-- The integer that a text stands for. -/
def integerOfText (t : Text) : Except Cause Int :=
  match Numeral.read t with
  | .ok n => .ok n
  | .error .malformed => .error .integerText
  | .error .tooLong => .error .size

/-- The integer that a value stands for. -/
def integerOf : Json → Except Cause Int
  | .integer n => .ok n
  | .bool b => .ok (if b then 1 else 0)
  | .real x => integerOfReal x
  | .string t => integerOfText t
  | .brokenString => .error .brokenText
  | .null | .array _ | .object _ => .error .integerType

/-- A width: a positive number. -/
abbrev Width := { n : Nat // 0 < n }

/-- The width that a value stands for. -/
def widthOf (v : Json) : Except Cause Width :=
  match integerOf v with
  | .error cause => .error cause
  | .ok n => if h : 0 < n.toNat then .ok ⟨n.toNat, h⟩ else .error .notPositive

/-- Texts that turn a switch off. -/
def offTexts : List Text := ["0", "off", "f", "false", "n", "no"].map String.toList

/-- Texts that turn a switch on. -/
def onTexts : List Text := ["1", "on", "t", "true", "y", "yes"].map String.toList

/-- The switch that a text stands for; upper case letters count as lower case ones. -/
def switchOfText (t : Text) : Except Cause Bool :=
  let word := t.map Char.toLower
  if offTexts.contains word then .ok false
  else if onTexts.contains word then .ok true
  else .error .switchText

/-- The switch that an integer stands for. An integer of more than 64 bits is of a wrong type. -/
def switchOfInteger (n : Int) : Except Cause Bool :=
  if n = 0 then .ok false
  else if n = 1 then .ok true
  else if -realBound ≤ n && n < realBound then .error .switchText
  else .error .switchType

/-- The switch that a number with a point stands for. -/
def switchOfReal (x : Binary64) : Except Cause Bool :=
  match integerOfReal x with
  | .ok n => switchOfInteger n
  | .error _ => .error .switchType

/-- The switch that a value stands for. -/
def switchOf : Json → Except Cause Bool
  | .bool b => .ok b
  | .integer n => switchOfInteger n
  | .real x => switchOfReal x
  | .string t => switchOfText t
  | .brokenString => .error .brokenText
  | .null | .array _ | .object _ => .error .switchType

/-! ### All values -/

/-- What is given for a setting. -/
def given? (values : List (Text × Json)) (f : Field) : Option Json := Json.lookup? f.name values

/-- The setting `f` as read by `read`, or its default when nothing is given. -/
def check {α : Type} (read : Json → Except Cause α) (default : α) (values : List (Text × Json))
    (f : Field) : Except Problem α :=
  match given? values f with
  | none => .ok default
  | some v =>
    match read v with
    | .ok a => .ok a
    | .error cause => .error ⟨f.name, cause⟩

/-- The problem of a check that failed. -/
def problem? {α : Type} : Except Problem α → List Problem
  | .ok _ => []
  | .error p => [p]

/-- The given names that are no settings, each once, by code points. -/
def unknownNames (values : List (Text × Json)) : List Text :=
  let names := (values.map (·.1)).filter fun n => (Field.ofName? n).isNone
  names.eraseDups.mergeSort Text.comesBefore

/-- The settings with the given values, or all problems with them. -/
def validate (values : List (Text × Json)) : Except (List Problem) Settings :=
  let standard : Settings := {}
  let unit := check unitOf standard.indentUnit values .indentUnit
  let width := check widthOf ⟨standard.indentWidth, standard.indentWidth_pos⟩ values .indentWidth
  let messages := check switchOf standard.normalizeMessages values .normalizeMessages
  let preserve := check switchOf standard.preserveIndentSensitive values .preserveIndentSensitive
  match unit, width, messages, preserve, unknownNames values with
  | .ok u, .ok w, .ok m, .ok p, [] =>
    .ok
      { indentUnit := u
        indentWidth := w.val
        normalizeMessages := m
        preserveIndentSensitive := p
        indentWidth_pos := w.property }
  | unit, width, messages, preserve, unknown =>
    .error <| problem? unit ++ problem? width ++ problem? messages ++ problem? preserve ++
      unknown.map (⟨·, .unknownName⟩)

end MermaidTidy.Settings

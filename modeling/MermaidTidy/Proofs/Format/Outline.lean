import Mathlib.Tactic
import MermaidTidy.Proofs.Format.Stability
import MermaidTidy.Proofs.Layout.Parts

/-!
# Formatting and the layout of the source

What a source is formatted to does not depend on how it is laid out: on indentation, on line ends and
on the number of blank lines.

* `detect_placeless`, `isPassedThrough_placeless`: sources with the same outline have the same type;
* `formatInRoom_placeless`: they have the same text, or faults that differ in their places only.
-/

namespace MermaidTidy

open Text Source

variable {memory : Nat} {settings : Settings} {t₁ t₂ : Text}

/-! ### Results up to the places of faults -/

/-- The fault without its place. -/
def FormatFault.placeless : FormatFault → FormatFault
  | .source f => .source f.placeless
  | .room fault => .room fault

section mapError

variable {ε ε' α : Type} {g : ε → ε'} {r₁ r₂ : Except ε α}

theorem eq_ok_of_mapError_eq {a : α} (h : r₁.mapError g = r₂.mapError g) (hr : r₁ = .ok a) :
    r₂ = .ok a := by
  subst hr
  cases r₂ with
  | error f => cases h
  | ok b => cases h; rfl

theorem exists_error_of_mapError_eq {f₁ : ε} (h : r₁.mapError g = r₂.mapError g)
    (hr : r₁ = .error f₁) : ∃ f₂, r₂ = .error f₂ ∧ g f₁ = g f₂ := by
  subst hr
  cases r₂ with
  | error f₂ => exact ⟨f₂, rfl, Except.error.inj h⟩
  | ok b => cases h

end mapError

/-! ### Types -/

theorem detect_placeless (h : outline t₁ = outline t₂)
    (hspan : frontmatterSpan (splitLines t₁) = none) :
    (detect t₁).mapError Fault.placeless = (detect t₂).mapError Fault.placeless := by
  obtain ⟨hstatements, hfault⟩ := nonBlank_read_of_outline_eq h hspan false
  have hdeclared : (Source.read false t₁).statements.findSome? Statement.declared? =
      (Source.read false t₂).statements.findSome? Statement.declared? := by
    rw [← findSome?_declared?_nonBlank, hstatements, findSome?_declared?_nonBlank]
  unfold detect
  dsimp only
  rw [hdeclared]
  cases (Source.read false t₂).statements.findSome? Statement.declared? with
  | some type => rfl
  | none =>
    generalize (Source.read false t₁).fault = fault₁ at hfault
    generalize (Source.read false t₂).fault = fault₂ at hfault
    cases fault₁ <;> cases fault₂
    · rfl
    · cases hfault
    · cases hfault
    · exact congrArg Except.error (Option.some.inj hfault)

theorem isPassedThrough_placeless (h : outline t₁ = outline t₂)
    (hspan : frontmatterSpan (splitLines t₁) = none) (settings : Settings) :
    (isPassedThrough settings t₁).mapError Fault.placeless =
      (isPassedThrough settings t₂).mapError Fault.placeless := by
  have hdetect := detect_placeless h hspan
  unfold isPassedThrough
  split_ifs
  · cases h₁ : detect t₁ with
    | ok type? =>
      rw [eq_ok_of_mapError_eq hdetect h₁]
    | error f₁ =>
      obtain ⟨f₂, h₂, hf⟩ := exists_error_of_mapError_eq hdetect h₁
      rw [h₂]
      exact congrArg Except.error hf
  · rfl

/-! ### Texts -/

/-- Sources that are laid out and have the same outline have the same text, or faults that differ in
their places only. -/
theorem formatInRoom_placeless (memory : Nat) (houtline : outline t₁ = outline t₂)
    (hspan : frontmatterSpan (splitLines t₁) = none)
    (hpass : isPassedThrough settings t₁ ≠ .ok true) :
    (formatInRoom memory settings t₁).mapError FormatFault.placeless =
      (formatInRoom memory settings t₂).mapError FormatFault.placeless := by
  -- a fault of the source is the fault of its formatting
  have hsource {f₁ f₂ : Fault} (h₁ : format settings t₁ = .error f₁) (h₂ : format settings t₂ = .error f₂)
      (hf : f₁.placeless = f₂.placeless) :
      (formatInRoom memory settings t₁).mapError FormatFault.placeless =
        (formatInRoom memory settings t₂).mapError FormatFault.placeless := by
    rw [formatInRoom_eq_source_iff.2 h₁, formatInRoom_eq_source_iff.2 h₂]
    exact congrArg (fun f => Except.error (FormatFault.source f)) hf
  have hplaceless := isPassedThrough_placeless houtline hspan settings
  cases hpass₁ : isPassedThrough settings t₁ with
  | error f₁ =>
    obtain ⟨f₂, hpass₂, hf⟩ := exists_error_of_mapError_eq hplaceless hpass₁
    exact hsource (format_eq_error_iff.2 (.inl hpass₁)) (format_eq_error_iff.2 (.inl hpass₂)) hf
  | ok passed =>
    have hfalse : passed = false := by
      by_contra htrue
      exact hpass (by rw [hpass₁, Bool.eq_true_of_not_eq_false htrue])
    subst hfalse
    have hpass₂ := eq_ok_of_mapError_eq hplaceless hpass₁
    obtain ⟨hstatements, hfault⟩ :=
      nonBlank_read_of_outline_eq houtline hspan settings.normalizeMessages
    rcases hr₁ : Source.read settings.normalizeMessages t₁ with ⟨ss₁, fault₁⟩
    rcases hr₂ : Source.read settings.normalizeMessages t₂ with ⟨ss₂, fault₂⟩
    rw [hr₁, hr₂] at hstatements hfault
    cases fault₁ with
    | none =>
      cases fault₂ with
      | none =>
        -- both are read to the end: their statements have one outline, which decides text and room
        have hroom : Diagram.roomFault? memory settings ⟨ss₁⟩ =
            Diagram.roomFault? memory settings ⟨ss₂⟩ := by
          unfold Diagram.roomFault?
          rw [← depthsFrom_nonBlank, hstatements, depthsFrom_nonBlank]
        have htext : Diagram.format settings ⟨ss₁⟩ = Diagram.format settings ⟨ss₂⟩ := by
          rw [← format_outlineBy, outlineBy_read_of_outline_eq houtline hspan hr₁ hr₂, format_outlineBy]
        rw [formatInRoom_of_read memory hpass₁ hr₁, formatInRoom_of_read memory hpass₂ hr₂, hroom, htext]
      | some f₂ => cases hfault
    | some f₁ =>
      cases fault₂ with
      | none => cases hfault
      | some f₂ =>
        exact hsource (format_of_fault hpass₁ hr₁) (format_of_fault hpass₂ hr₂)
          (Option.some.inj hfault)

/-! ### Faults -/

/-- Every fault of formatting is a fault of reading the source, with messages or without. -/
theorem exists_fault_of_format {t : Text} {f : Fault} (h : format settings t = .error f) :
    ∃ messages, (Source.read messages t).fault = some f := by
  rcases format_eq_error_iff.1 h with hpass | ⟨-, hparse⟩
  · exact ⟨false, fault_of_detect (isPassedThrough_eq_error_iff.1 hpass).2⟩
  · exact ⟨_, fault_of_parse hparse⟩

/-- Every fault of formatting is a report about a line. -/
theorem exists_diagnostic_of_format {t : Text} {f : Fault} (h : format settings t = .error f) :
    ∃ d, f = .diagnostic d := by
  obtain ⟨messages, hfault⟩ := exists_fault_of_format h
  obtain ⟨d, hd, -⟩ := exists_diagnostic_of_fault hfault
  exact ⟨d, hd⟩

/-- Formatting does not depend on the layout of the source. Two sources with the same outline, of
which the first has no frontmatter and is not passed through, have the same formatted text, or are
both rejected for the same reason, or lack the same room. -/
theorem formatInRoom_of_outline_eq (memory : Nat) (settings : Settings) (t₁ t₂ : Text)
    (houtline : outline t₁ = outline t₂) (hspan : frontmatterSpan (splitLines t₁) = none)
    (hpass : settings.preserveIndentSensitive = false ∨
      ∀ type, detect t₁ = .ok (some type) → type.isIndentSensitive = false) :
    (∃ out, formatInRoom memory settings t₁ = .ok out ∧ formatInRoom memory settings t₂ = .ok out) ∨
    (∃ d₁ d₂, formatInRoom memory settings t₁ = .error (.source (.diagnostic d₁)) ∧
      formatInRoom memory settings t₂ = .error (.source (.diagnostic d₂)) ∧
        d₁.kind = d₂.kind ∧ d₁.message = d₂.message) ∨
    ∃ fault, formatInRoom memory settings t₁ = .error (.room fault) ∧
      formatInRoom memory settings t₂ = .error (.room fault) := by
  have hlaidOut : isPassedThrough settings t₁ ≠ .ok true := by
    intro htrue
    obtain ⟨hon, type, htype, hsensitive⟩ := isPassedThrough_eq_true_iff.1 htrue
    rcases hpass with hoff | hfree
    · rw [hoff] at hon
      cases hon
    · rw [hfree type htype] at hsensitive
      cases hsensitive
  have hplaceless := formatInRoom_placeless memory houtline hspan hlaidOut
  cases h₁ : formatInRoom memory settings t₁ with
  | ok out => exact .inl ⟨out, rfl, eq_ok_of_mapError_eq hplaceless h₁⟩
  | error f₁ =>
    obtain ⟨f₂, h₂, hf⟩ := exists_error_of_mapError_eq hplaceless h₁
    rw [h₂]
    cases f₁ with
    | source f₁ =>
      cases f₂ with
      | source f₂ =>
        obtain ⟨d₁, rfl⟩ := exists_diagnostic_of_format (formatInRoom_eq_source_iff.1 h₁)
        obtain ⟨d₂, rfl⟩ := exists_diagnostic_of_format (formatInRoom_eq_source_iff.1 h₂)
        have hd : d₁.placeless = d₂.placeless := Fault.diagnostic.inj (FormatFault.source.inj hf)
        have hkind : d₁.placeless.kind = d₂.placeless.kind := by rw [hd]
        have hmessage : d₁.placeless.message = d₂.placeless.message := by rw [hd]
        exact .inr (.inl ⟨d₁, d₂, rfl, rfl, hkind, hmessage⟩)
      | room fault => cases hf
    | room fault =>
      cases f₂ with
      | source f₂ => cases hf
      | room fault' =>
        cases hf
        exact .inr (.inr ⟨fault, rfl, rfl⟩)

/-- The second source has other line ends, other indentation and other blank lines. The white space
in the first line is no blank, so that this line is not empty. -/
theorem formatInRoom_of_outline_eq_sequence :
    let settings : Settings := { normalizeMessages := true }
    let t₁ := "\n \u00a0\nsequenceDiagram\n\tA->>B : x \n\n\t\nloop  a\nend".toList
    let t₂ := "   \u00a0\t\r\n sequenceDiagram\r\nA->>B : x\r\n \r\n    loop  a\r\n\tend\r\n\r\n".toList
    (outline t₁ = outline t₂ ∧ frontmatterSpan (splitLines t₁) = none ∧
      ∀ type, detect t₁ = .ok (some type) → type.isIndentSensitive = false) ∧
    t₁ ≠ t₂ ∧ ∃ out, formatInRoom maxLength settings t₁ = .ok out ∧
      formatInRoom maxLength settings t₂ = .ok out := by
  intro settings t₁ t₂
  have houtline : outline t₁ = outline t₂ := by decide +kernel
  have hspan : frontmatterSpan (splitLines t₁) = none := by decide +kernel
  have hdetect : detect t₁ = .ok (some { kind := .sequenceDiagram }) := by decide +kernel
  have hfree : ∀ type, detect t₁ = .ok (some type) → type.isIndentSensitive = false := by
    intro type htype
    rw [hdetect] at htype
    cases htype
    rfl
  have hok : (formatInRoom maxLength settings t₁).toBool = true := by decide +kernel
  refine ⟨⟨houtline, hspan, hfree⟩, by decide +kernel, ?_⟩
  rcases formatInRoom_of_outline_eq maxLength settings t₁ t₂ houtline hspan (.inr hfree) with
    h | ⟨d₁, d₂, h₁, -⟩ | ⟨fault, h₁, -⟩
  · exact h
  · rw [h₁] at hok
    cases hok
  · rw [h₁] at hok
    cases hok

end MermaidTidy

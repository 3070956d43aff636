import Mathlib.Tactic
import MermaidTidy.Proofs.Format.Outline

/-!
# Formatting does not look ahead

A source is formatted from its first line to its last. What is read and laid out of its beginning
stays as it is, whatever follows; only frontmatter has to be closed by a later line.

* `frontmatterSpan_of_find?`: a source that does not begin with a delimiter has no frontmatter;
* `read_append_of_fault`, `read_append`: the reading of a beginning is the beginning of the reading;
* `formatInRoom_append_cases`: so a fault or a text of a beginning stays when more lines follow.
-/

namespace MermaidTidy

open Text Source

variable {memory : Nat} {settings : Settings} {t₁ t₂ : Text}

/-! ### Readings -/

theorem frontmatterSpan_of_find? {lines : List Text}
    (h : ∀ l ∈ lines.find? (strip · ≠ []), strip l ≠ "---".toList) : frontmatterSpan lines = none := by
  have hwhite : (fun l => decide (strip l ≠ [])) = fun l => !isWhite l := by
    funext l
    simp [isWhite]
  rw [frontmatterSpan_eq_none_iff]
  intro opening rest hfilter hopening
  have hfind : lines.find? (strip · ≠ []) = some opening := by
    rw [hwhite, ← List.head?_filter, hfilter, List.head?_cons]
  exact absurd (of_decide_eq_true hopening) (h opening hfind)

theorem find?_of_append {lines more : List Text} {p : Text → Bool} {q : Text → Prop}
    (h : ∀ l ∈ (lines ++ more).find? p, q l) : ∀ l ∈ lines.find? p, q l := by
  intro l hl
  apply h
  rw [List.find?_append, Option.mem_def.1 hl]
  rfl

section read

variable {messages : Bool} {ss : List Statement}

/-- A fault in the beginning of a source is the fault of the source. -/
theorem read_append_of_fault {f : Fault} (hlines : splitLines (t₁ ++ t₂) = splitLines t₁ ++ splitLines t₂)
    (h₁ : frontmatterSpan (splitLines t₁) = none) (h : frontmatterSpan (splitLines (t₁ ++ t₂)) = none)
    (hread : Source.read messages t₁ = ⟨ss, some f⟩) :
    Source.read messages (t₁ ++ t₂) = ⟨ss, some f⟩ := by
  rw [read_of_plain h₁] at hread
  rw [read_of_plain h, hlines, readLines_append, hread]

/-- What follows a beginning without fault is read with the progress behind it. -/
theorem read_append (hlines : splitLines (t₁ ++ t₂) = splitLines t₁ ++ splitLines t₂)
    (h₁ : frontmatterSpan (splitLines t₁) = none) (h : frontmatterSpan (splitLines (t₁ ++ t₂)) = none)
    (hread : Source.read messages t₁ = ⟨ss, none⟩) {more : Reading}
    (hmore : readLines messages none (Progress.after {} ss) (splitLines t₁).length (splitLines t₂) =
      more) :
    Source.read messages (t₁ ++ t₂) = ⟨ss ++ more.statements, more.fault⟩ := by
  subst hmore
  rw [read_of_plain h₁] at hread
  rw [read_of_plain h, hlines, readLines_append, hread, Nat.zero_add]

end read

/-! ### Cuts of a source -/

theorem isPassedThrough_of_off (hoff : settings.preserveIndentSensitive = false) (t : Text) :
    isPassedThrough settings t = .ok false := by
  unfold isPassedThrough
  rw [hoff]
  rfl

theorem formatInRoom_nil (hoff : settings.preserveIndentSensitive = false) :
    formatInRoom memory settings [] = .ok [] :=
  formatInRoom_of_room (isPassedThrough_of_off hoff []) rfl rfl

/-- What becomes of the result for a beginning when more lines follow: a fault stays, a lack of room
stays unless a later line is at fault, and a text is continued if there is a text at all. -/
theorem formatInRoom_append_cases (hoff : settings.preserveIndentSensitive = false)
    (hlines : splitLines (t₁ ++ t₂) = splitLines t₁ ++ splitLines t₂)
    (h₁ : frontmatterSpan (splitLines t₁) = none)
    (h : frontmatterSpan (splitLines (t₁ ++ t₂)) = none) :
    (∃ f, formatInRoom memory settings t₁ = .error (.source f) ∧
      formatInRoom memory settings (t₁ ++ t₂) = .error (.source f)) ∨
    (∃ fault, formatInRoom memory settings t₁ = .error (.room fault) ∧
      (formatInRoom memory settings (t₁ ++ t₂) = .error (.room fault) ∨
        ∃ d, formatInRoom memory settings (t₁ ++ t₂) = .error (.source (.diagnostic d)) ∧
          (splitLines t₁).length < d.line)) ∨
    ∃ out₁, formatInRoom memory settings t₁ = .ok out₁ ∧
      ∀ out, formatInRoom memory settings (t₁ ++ t₂) = .ok out → out₁ <+: out := by
  have hpass₁ := isPassedThrough_of_off hoff t₁
  have hpass := isPassedThrough_of_off hoff (t₁ ++ t₂)
  rcases hread₁ : Source.read settings.normalizeMessages t₁ with ⟨ss, fault₁⟩
  cases fault₁ with
  | some f =>
    have hread := read_append_of_fault hlines h₁ h hread₁
    exact .inl ⟨f, formatInRoom_eq_source_iff.2 (format_of_fault hpass₁ hread₁),
      formatInRoom_eq_source_iff.2 (format_of_fault hpass hread)⟩
  | none =>
    obtain ⟨⟨ss', fault⟩, hmore⟩ : ∃ more, readLines settings.normalizeMessages none
      (Progress.after {} ss) (splitLines t₁).length (splitLines t₂) = more := ⟨_, rfl⟩
    have hread := read_append hlines h₁ h hread₁ hmore
    cases fault with
    | some f =>
      -- a line that follows is at fault
      have hsource : formatInRoom memory settings (t₁ ++ t₂) = .error (.source f) :=
        formatInRoom_eq_source_iff.2 (format_of_fault hpass hread)
      cases hroom₁ : Diagram.roomFault? memory settings ⟨ss⟩ with
      | some fault =>
        obtain ⟨d, rfl, hline, -⟩ := exists_diagnostic_of_fault (congrArg Reading.fault hmore)
        exact .inr (.inl ⟨fault, formatInRoom_of_roomFault hpass₁ hread₁ hroom₁,
          .inr ⟨d, hsource, hline⟩⟩)
      | none =>
        refine .inr (.inr ⟨_, formatInRoom_of_room hpass₁ hread₁ hroom₁, fun out hout => ?_⟩)
        rw [hsource] at hout
        cases hout
    | none =>
      cases hroom₁ : Diagram.roomFault? memory settings ⟨ss⟩ with
      | some fault =>
        exact .inr (.inl ⟨fault, formatInRoom_of_roomFault hpass₁ hread₁ hroom₁,
          .inl (formatInRoom_of_roomFault hpass hread (roomFault?_append hroom₁ ss'))⟩)
      | none =>
        refine .inr (.inr ⟨_, formatInRoom_of_room hpass₁ hread₁ hroom₁, fun out hout => ?_⟩)
        cases hroom : Diagram.roomFault? memory settings ⟨ss ++ ss'⟩ with
        | some fault =>
          rw [formatInRoom_of_roomFault hpass hread hroom] at hout
          cases hout
        | none =>
          rw [formatInRoom_of_room hpass hread hroom] at hout
          cases hout
          exact format_prefix settings ss ss'

/-- A source can be read unless its formatting reports that it is at fault. -/
theorem exists_parse_iff (memory : Nat) (hoff : settings.preserveIndentSensitive = false) (t : Text) :
    (∃ d, parse settings.normalizeMessages t = .ok d) ↔
      ∀ f, formatInRoom memory settings t ≠ .error (.source f) := by
  have hpass := isPassedThrough_of_off hoff t
  cases hd : parse settings.normalizeMessages t <;>
    simp [formatInRoom_eq_source_iff, format_eq_error_iff, hpass, hd]

/-- Formatting does not look ahead. The text of a beginning that ends at a line end begins the text
of the whole, and a fault in it is the fault of the whole. Where the beginning lacks room, the whole
lacks the same room if it can be read; otherwise a later line is at fault, and that is what is
reported. -/
theorem formatInRoom_append (memory : Nat) (settings : Settings) (t₁ t₂ : Text)
    (hend : t₁ = [] ∨ t₁.getLast? = some '\n')
    (hfirst : ∀ l ∈ (splitLines (t₁ ++ t₂)).find? (strip · ≠ []), strip l ≠ "---".toList)
    (hoff : settings.preserveIndentSensitive = false) :
    (∀ out, formatInRoom memory settings (t₁ ++ t₂) = .ok out →
      ∃ out₁, formatInRoom memory settings t₁ = .ok out₁ ∧ out₁ <+: out) ∧
    (∀ f, formatInRoom memory settings t₁ = .error (.source f) →
      formatInRoom memory settings (t₁ ++ t₂) = .error (.source f)) ∧
    ∀ fault, formatInRoom memory settings t₁ = .error (.room fault) →
      (formatInRoom memory settings (t₁ ++ t₂) = .error (.room fault) ↔
        ∃ d, parse settings.normalizeMessages (t₁ ++ t₂) = .ok d) ∧
      (formatInRoom memory settings (t₁ ++ t₂) = .error (.room fault) ∨
        ∃ d, formatInRoom memory settings (t₁ ++ t₂) = .error (.source (.diagnostic d)) ∧
          (splitLines t₁).length < d.line) := by
  have hspan : frontmatterSpan (splitLines (t₁ ++ t₂)) = none := frontmatterSpan_of_find? hfirst
  have hcases : (t₁ = [] ∨ t₂ = []) ∨ splitLines (t₁ ++ t₂) = splitLines t₁ ++ splitLines t₂ := by
    by_cases ht₂ : t₂ = []
    · exact .inl (.inr ht₂)
    · rcases hend with hnil | hend
      · exact .inl (.inl hnil)
      · exact .inr (splitLines_append hend ht₂)
  rcases hcases with (rfl | rfl) | hlines
  · rw [formatInRoom_nil hoff]
    exact ⟨fun out _ => ⟨[], rfl, List.nil_prefix⟩, nofun, nofun⟩
  · rw [List.append_nil]
    refine ⟨fun out h => ⟨out, h, List.prefix_rfl⟩, fun f h => h, fun fault h => ⟨?_, .inl h⟩⟩
    rw [exists_parse_iff memory hoff, h]
    exact iff_of_true rfl nofun
  · have hspan₁ : frontmatterSpan (splitLines t₁) = none := by
      rw [hlines] at hfirst
      exact frontmatterSpan_of_find? (find?_of_append hfirst)
    rcases formatInRoom_append_cases hoff hlines hspan₁ hspan with
      ⟨g, h₁, h⟩ | ⟨lack, h₁, h⟩ | ⟨out₁, h₁, h⟩
    · rw [h₁, h]
      exact ⟨nofun, fun f hf => hf, nofun⟩
    · rw [h₁]
      refine ⟨fun out hout => ?_, nofun, fun fault hf => ?_⟩
      · rcases h with h | ⟨d, h, -⟩
        · rw [h] at hout
          cases hout
        · rw [h] at hout
          cases hout
      · cases hf
        rw [exists_parse_iff memory hoff]
        rcases h with h | ⟨d, h, hline⟩
        · rw [h]
          exact ⟨iff_of_true rfl nofun, .inl rfl⟩
        · rw [h]
          exact ⟨iff_of_false nofun fun hno => hno _ rfl, .inr ⟨d, rfl, hline⟩⟩
    · rw [h₁]
      exact ⟨fun out hout => ⟨out₁, rfl, h out hout⟩, nofun, nofun⟩

/-- The blank line before the cut is dropped from the text of the beginning and kept in that of the
whole. -/
theorem formatInRoom_append_blank_line :
    let settings : Settings := { preserveIndentSensitive := false }
    let t₁ := "mindmap\r\n\tA\n\n".toList
    let t₂ := "alt x".toList
    (t₁.getLast? = some '\n' ∧
      (∀ l ∈ (splitLines (t₁ ++ t₂)).find? (strip · ≠ []), strip l ≠ "---".toList) ∧
      settings.preserveIndentSensitive = false) ∧
    ∃ out₁ out, formatInRoom maxLength settings t₁ = .ok out₁ ∧
      formatInRoom maxLength settings (t₁ ++ t₂) = .ok out ∧ out₁ <+: out := by
  intro settings t₁ t₂
  have hend : t₁.getLast? = some '\n' := by decide +kernel
  have hfirst : ∀ l ∈ (splitLines (t₁ ++ t₂)).find? (strip · ≠ []), strip l ≠ "---".toList := by
    decide +kernel
  have hok : formatInRoom maxLength settings (t₁ ++ t₂) = .ok "mindmap\n    A\n\nalt x\n".toList := by
    decide +kernel
  obtain ⟨out₁, hout₁, hprefix⟩ :=
    (formatInRoom_append maxLength settings t₁ t₂ (.inr hend) hfirst rfl).1 _ hok
  exact ⟨⟨hend, hfirst, rfl⟩, out₁, _, hout₁, hok, hprefix⟩

/-- A line that cannot be indented is reported only if the lines behind it can be read. -/
theorem formatInRoom_lack_hidden_by_fault :
    let settings : Settings :=
      { indentWidth := 100000000000000000000, preserveIndentSensitive := false }
    let t₁ := "graph TD\nA\n".toList
    let t₂ := "\x01".toList
    formatInRoom maxLength settings t₁ = .error (.room .length) ∧
      formatInRoom maxLength settings (t₁ ++ t₂) = .error (.source (.diagnostic
        { kind := .grammar, message := "Unexpected character '\\x01'".toList, line := 3, column := 1,
          context := some "\x01".toList,
          suggestion := some "Remove control characters from the line".toList })) := by
  decide +kernel

end MermaidTidy

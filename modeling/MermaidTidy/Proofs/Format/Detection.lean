import Mathlib.Tactic
import MermaidTidy.Proofs.Format.Forward
import MermaidTidy.Proofs.Format.Verbatim

/-!
# Detection before formatting

The type of a source is detected by a reading of its own, without messages and with an end at the
declaration. Messages are looked for behind the declaration of a sequence diagram only, so that this
reading meets the lines before the declaration in the same way as any other.

* `readLine_of_dialect`, `readLines_of_undeclared`: where nothing has been declared, messages make
  no difference;
* `read_of_detect`: a fault that detection finds is found by every reading;
* `formatInRoom_congr`: formatting depends on detection only through what is passed through;
* `detect_agrees`: detection finds the type of the diagram, and whether it runs at all matters for
  sources only that are passed through.
-/

namespace MermaidTidy

open Text Source

/-! ### Lines before the declaration -/

theorem Statement.ofLine_of_dialect {dialect : Option DiagramKind} (h : dialect ≠ some .sequenceDiagram)
    (messages : Bool) (l : ClassifiedLine) : ofLine messages dialect l = ofLine false dialect l := by
  have hgeneric (messages : Bool) : genericOf messages dialect l = .ok (.generic l.text) :=
    if_neg (by simp [h])
  unfold ofLine
  rw [hgeneric, hgeneric]

namespace Source

variable {messages : Bool} {p : Progress}

theorem readLine_of_dialect (h : p.dialect ≠ some .sequenceDiagram) (index : Nat) (raw : Text) :
    readLine messages p index raw = readLine false p index raw := by
  unfold readLine
  simp only [Statement.ofLine_of_dialect h messages]

/-- Lines that declare nothing are read in the same way with and without messages. -/
theorem readLines_of_undeclared {span : Option (Nat × Nat)} {index : Nat} {raws : List Text}
    (hp : p.dialect ≠ some .sequenceDiagram)
    (h : ∀ s ∈ (readLines false span p index raws).statements, s.declared? = none) :
    readLines messages span p index raws = readLines false span p index raws := by
  induction raws generalizing p index with
  | nil => rfl
  | cons raw raws ih =>
    rw [readLines] at h
    rw [readLines, readLines, readLine_of_dialect hp]
    split_ifs at h ⊢
    · rw [ih hp fun s hs => h s (List.mem_cons_of_mem _ hs)]
    · cases hl : readLine false p index raw with
      | error f => rfl
      | ok s =>
        rw [hl] at h
        -- the dialect stays, since the statement is no declaration
        have hnext : (p.next s).dialect ≠ some .sequenceDiagram := by
          rcases p.dialect_next s with hsame | ⟨type, rfl, -⟩
          · rwa [hsame]
          · cases h _ List.mem_cons_self
        simp only [ih hnext fun s' hs' => h s' (List.mem_cons_of_mem _ hs')]

/-- Detection fails only if nothing is declared before the first fault. -/
theorem declared?_of_detect {t : Text} {f : Fault} (h : detect t = .error f) :
    ∀ s ∈ (read false t).statements, s.declared? = none := by
  intro s hs
  cases hd : s.declared? with
  | none => rfl
  | some type =>
    rw [detect_of_mem_read hs hd] at h
    cases h

/-- A fault that detection finds is found by every reading. -/
theorem read_of_detect {t : Text} {f : Fault} (h : detect t = .error f) (messages : Bool) :
    (read messages t).fault = some f := by
  rw [← fault_of_detect h]
  exact congrArg Reading.fault (readLines_of_undeclared (by simp) (declared?_of_detect h))

end Source

/-! ### Formatting with and without detection -/

/-- Settings that indent in the same way and treat messages in the same way format a source in the
same way, provided that both pass it through or both lay it out. -/
theorem formatInRoom_congr (memory : Nat) {settings settings' : Settings} {t : Text}
    (h : isPassedThrough settings' t = isPassedThrough settings t)
    (hindent : settings'.indent = settings.indent)
    (hlength : settings'.indentLength = settings.indentLength)
    (hmessages : settings'.normalizeMessages = settings.normalizeMessages) :
    formatInRoom memory settings' t = formatInRoom memory settings t := by
  have hdepth : settings'.roomFault? memory = settings.roomFault? memory := by
    funext depth
    unfold Settings.roomFault?
    rw [hlength]
  have hroom (d : Diagram) : d.roomFault? memory settings' = d.roomFault? memory settings := by
    unfold Diagram.roomFault?
    rw [hdepth]
  have hformat (d : Diagram) : d.format settings' = d.format settings :=
    congrArg serialize (layoutFrom_congr hindent {} d.statements)
  have hdiagram (d : Diagram) : d.formatInRoom memory settings' = d.formatInRoom memory settings := by
    rw [d.formatInRoom_eq, d.formatInRoom_eq, hroom, hformat]
  unfold formatInRoom
  simp only [h, hmessages, hdiagram]

/-- **Detection agrees with reading.** The detected type of a source without faults is the type of its
diagram. And unless the detected type is one whose diagrams are passed through, formatting gives the
same text or the same fault whether such diagrams are to be passed through or not: a fault that detection
meets first is the one that reading would have met. -/
theorem detect_agrees (memory : Nat) (settings : Settings) (t : Text) :
    (∀ d, parse settings.normalizeMessages t = .ok d → detect t = .ok d.type?) ∧
    ((∀ type, detect t = .ok (some type) → type.kind ≠ .mindmap ∧ type.kind ≠ .timeline) →
      formatInRoom memory { settings with preserveIndentSensitive := true } t =
        formatInRoom memory { settings with preserveIndentSensitive := false } t) := by
  refine ⟨fun d hd => detect_eq_of_parse hd, fun hkind => ?_⟩
  set on : Settings := { settings with preserveIndentSensitive := true }
  set off : Settings := { settings with preserveIndentSensitive := false }
  have hoff : isPassedThrough off t = .ok false := isPassedThrough_of_off rfl t
  cases hon : isPassedThrough on t with
  | error f =>
    obtain ⟨-, hdetect⟩ := isPassedThrough_eq_error_iff.1 hon
    rw [formatInRoom_eq_source_iff.2 (format_eq_error_iff.2 (.inl hon)),
      formatInRoom_of_fault memory hoff (read_of_detect hdetect _)]
  | ok passed =>
    have hlaidOut : passed = false := by
      refine Bool.eq_false_iff.2 fun htrue => ?_
      obtain ⟨-, type, htype, hsensitive⟩ := isPassedThrough_eq_true_iff.1 (htrue ▸ hon)
      obtain ⟨hmindmap, htimeline⟩ := hkind type htype
      exact (DiagramType.isIndentSensitive_iff.1 hsensitive).elim hmindmap htimeline
    have hsame : isPassedThrough on t = isPassedThrough off t := by rw [hon, hoff, hlaidOut]
    exact formatInRoom_congr memory hsame rfl rfl rfl

/-- A declaration behind content, where detection stops before the messages, and a source whose fault
stands before a declaration that would have it passed through. -/
theorem detect_agrees_before_declaration :
    let settings : Settings := { normalizeMessages := true }
    let t := "---\nmindmap\n---\nA--->B: x\n sequenceDiagram\n\tA->>B: x\n".toList
    let u := "A--->B: x\n\tB\x01\nmindmap\n  A".toList
    (∃ d, parse settings.normalizeMessages t = .ok d ∧ detect t = .ok d.type?) ∧
    (∀ type, detect u = .ok (some type) → type.kind ≠ .mindmap ∧ type.kind ≠ .timeline) ∧
    ∃ f, formatInRoom maxLength { settings with preserveIndentSensitive := true } u = .error f ∧
      formatInRoom maxLength { settings with preserveIndentSensitive := false } u = .error f := by
  intro settings t u
  have hparse : (parse true t).toBool = true := by decide +kernel
  have hdetect : (detect u).toBool = false := by decide +kernel
  have hkind : ∀ type, detect u = .ok (some type) → type.kind ≠ .mindmap ∧ type.kind ≠ .timeline := by
    intro type htype
    rw [htype] at hdetect
    cases hdetect
  have hfault : (formatInRoom maxLength { settings with preserveIndentSensitive := true } u).toBool =
      false := by
    decide +kernel
  refine ⟨?_, hkind, ?_⟩
  · cases hd : parse true t with
    | ok d => exact ⟨d, rfl, (detect_agrees maxLength settings t).1 d hd⟩
    | error f =>
      rw [hd] at hparse
      cases hparse
  · have hsame := (detect_agrees maxLength settings u).2 hkind
    cases hf : formatInRoom maxLength { settings with preserveIndentSensitive := true } u with
    | ok out =>
      rw [hf] at hfault
      cases hfault
    | error f => exact ⟨f, rfl, hsame.symm.trans hf⟩

end MermaidTidy

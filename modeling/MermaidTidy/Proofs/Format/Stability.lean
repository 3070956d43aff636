import Mathlib.Tactic
import MermaidTidy.Proofs.Format.Room

/-!
# Formatting without messages

Formatting changes the blank lines, the indentation and the spacing of generic lines, and no more
than once.

* `formatInRoom_preserves_statements_iff`: if there is room, the formatted text has the statements of
  the source, where generic lines are in normal spacing and blank lines may differ;
* `Interchangeable settings t t'` says that formatting makes no difference between `t` and `t'`. A
  source and its formatted text are interchangeable (`interchangeable_format`), also where they are
  passed through (`detect_serialize`);
* `format_format`: so formatting a formatted text is formatting the source, whatever the indentation
  of the two.
-/

namespace MermaidTidy

open Text Line Respacing Source

variable {settings : Settings} {t : Text} {d : Diagram}

/-! ### The statements of a formatted text -/

/-- Without messages the text of a diagram has its canonical statements. -/
theorem parse_format_respaced (ht : IsPlainlySpaced t) (h : parse false t = .ok d)
    (settings : Settings) :
    parse false (d.format settings) = .ok ⟨(canonical d.statements).map Statement.respaced⟩ := by
  have hlegible := legibleSource_of_parse ht h
  rw [parse_format_eq_ok_iff hlegible]
  exact hlegible.readsSource_respaced

/-- **Formatting preserves the statements of a source, if there is room for its lines.** Blank lines
aside, the formatted text has the statements of the source, where generic lines are brought into normal
spacing. A source that is read without fault is formatted just if there is room for the indentation of
each of its lines, and a lack of room is all that is reported otherwise. -/
theorem formatInRoom_preserves_statements_iff (memory : Nat) (ht : IsPlainlySpaced t)
    (hoff : settings.normalizeMessages = false) (h : parse settings.normalizeMessages t = .ok d)
    (hkind : settings.preserveIndentSensitive = false ∨
      ∀ type, d.type? = some type → type.kind ≠ .mindmap ∧ type.kind ≠ .timeline) :
    ((∃ out d', formatInRoom memory settings t = .ok out ∧
        parse settings.normalizeMessages out = .ok d' ∧
        nonBlank d'.statements = (nonBlank d.statements).map Statement.respaced) ↔
      d.HasRoom memory settings) ∧
    ∀ f, formatInRoom memory settings t = .error f → ∃ fault, f = .room fault := by
  have hpassed : isPassedThrough settings t = .ok false := by
    rw [isPassedThrough_of_parse h, Except.ok.injEq, Bool.and_eq_false_iff]
    refine hkind.imp_right fun hk => ?_
    cases htype : d.type? with
    | none => rfl
    | some type =>
      obtain ⟨hmindmap, htimeline⟩ := hk type htype
      rw [Option.any_some, Bool.eq_false_iff, Ne, DiagramType.isIndentSensitive_iff]
      exact not_or.2 ⟨hmindmap, htimeline⟩
  rw [formatInRoom_of_parse memory hpassed h, ← Diagram.roomFault?_eq_none_iff]
  cases d.roomFault? memory settings with
  | some fault =>
    refine ⟨iff_of_false ?_ nofun, ?_⟩
    · rintro ⟨out, d', hout, -⟩
      cases hout
    · rintro f ⟨⟩
      exact ⟨fault, rfl⟩
  | none =>
    refine ⟨iff_of_true ⟨_, ⟨(canonical d.statements).map Statement.respaced⟩, rfl, ?_, ?_⟩ rfl, nofun⟩
    · rw [hoff] at h ⊢
      exact parse_format_respaced ht h settings
    · rw [nonBlank_map_respaced, nonBlank_canonical]

/-- A source with frontmatter, a line end with a carriage return, and a line that is indented. The
memory holds one indentation and no more. -/
theorem formatInRoom_preserves_statements_iff_frontmatter :
    let t := "---\na: ( b )\n---\n\n\nsequenceDiagram\r\n\tloop x\n A->>[ B ]: y\n  end".toList
    ∃ d, IsPlainlySpaced t ∧ parse false t = .ok d ∧ d.HasRoom 4 {} ∧
      ∃ out d', formatInRoom 4 {} t = .ok out ∧ parse false out = .ok d' ∧
        nonBlank d'.statements = (nonBlank d.statements).map Statement.respaced := by
  intro t
  let d : Diagram := ⟨[.frontmatter "---".toList, .frontmatter "a: ( b )".toList,
    .frontmatter "---".toList, .blank, .blank, .declaration { kind := .sequenceDiagram },
    .blockStart .loop (some "x".toList), .generic "A->>[ B ]: y".toList, .blockEnd]⟩
  have hspaced : IsPlainlySpaced t := by decide +kernel
  have hd : parse false t = .ok d := by decide +kernel
  have hroom : d.HasRoom 4 {} := by decide
  have hkind : ∀ type, d.type? = some type → type.kind ≠ .mindmap ∧ type.kind ≠ .timeline := by
    rintro type ⟨⟩
    decide
  exact ⟨d, hspaced, hd, hroom,
    (formatInRoom_preserves_statements_iff 4 hspaced rfl hd (.inr hkind)).1.2 hroom⟩

/-- A source is read without fault, but one indentation is longer than any text. -/
theorem formatInRoom_lacks_indentation :
    let settings : Settings := { indentWidth := 100000000000000000000 }
    let t := "graph TD\nA\n".toList
    ∃ d, IsPlainlySpaced t ∧ parse false t = .ok d ∧
      (∀ type, d.type? = some type → type.kind ≠ .mindmap ∧ type.kind ≠ .timeline) ∧
      ¬d.HasRoom maxLength settings ∧
      ∀ memory, formatInRoom memory settings t = .error (.room .length) := by
  intro settings t
  let d : Diagram := ⟨[.declaration { kind := .graph, direction := some "TD".toList }, .generic ['A']]⟩
  have hd : parse false t = .ok d := by decide +kernel
  have hdepths : depthsFrom {} d.statements = [0, 1] := by decide
  have hzero : settings.indentLength 0 = 0 := by decide
  have hlong : maxLength < settings.indentLength 1 := by decide
  refine ⟨d, by decide +kernel, hd, ?_, by decide, fun memory => ?_⟩
  · rintro type ⟨⟩
    decide
  · have hroom : d.roomFault? memory settings = some .length := by
      unfold Diagram.roomFault? Settings.roomFault?
      simp [hdepths, hzero, hlong]
    rw [formatInRoom_of_parse memory (by decide +kernel) hd, hroom]
    rfl

/-! ### Diagrams in canonical form -/

theorem canonical_respaced (ss : List Statement) :
    canonical ((canonical ss).map Statement.respaced) = (canonical ss).map Statement.respaced := by
  refine canonical_eq_self (Alike.isSpaced (forall₂_alike_respaced _) rfl (isSpaced_canonical ss)) ?_
  rw [List.getLast?_map]
  intro s hs
  obtain ⟨s', hs', rfl⟩ := Option.map_eq_some_iff.1 hs
  rw [ne_eq, s'.respaced_eq_blank_iff]
  exact getLast?_canonical ss s' hs'

/-- A diagram and its canonical form have the same text. -/
theorem format_respaced {ss : List Statement} (h : NoEmptyContent (canonical ss)) (settings : Settings) :
    Diagram.format settings ⟨(canonical ss).map Statement.respaced⟩ = Diagram.format settings ⟨ss⟩ := by
  have hrespaced : NoEmptyContent ((canonical ss).map Statement.respaced) := by
    intro s hs hne hrender
    obtain ⟨s', hs', rfl⟩ := List.mem_map.1 hs
    rw [Statement.render_respaced] at hrender
    rw [s'.alike_respaced.placement]
    exact h s' hs' (fun hb => hne (s'.respaced_eq_blank_iff.2 hb)) hrender
  rw [format_eq_serialize hrespaced, format_eq_serialize (noEmptyContent_of_canonical h),
    canonical_respaced, Alike.placedFrom (forall₂_alike_respaced _)]

/-! ### Texts that are passed through -/

theorem serialize_splitLines {lines : List Text} (hn : ∀ l ∈ lines, '\n' ∉ l)
    (hr : ∀ l ∈ lines, '\r' ∉ l) :
    serialize (splitLines (serialize lines)) = serialize lines := by
  obtain ⟨kept, white, rfl, -, hlast, hser⟩ := exists_serialize_eq lines
  rw [hser]
  split_ifs with hnil
  · rfl
  · rw [splitLines_unlines hnil (fun l hl => hn l (List.mem_append_left _ hl))
      fun l hl => hr l (List.mem_append_left _ hl), serialize_of_getLast? hnil hlast]

theorem declared?_of_isWhite {lines : List Text} (hplain : ∀ l ∈ lines, IsPlainLine l)
    (hwhite : ∀ l ∈ lines, strip l = []) (messages : Bool) (span : Option (Nat × Nat)) (p : Progress)
    (index : Nat) :
    ∀ s ∈ (readLines messages span p index lines).statements, s.declared? = none := by
  induction lines generalizing p index with
  | nil => simp [readLines]
  | cons l lines ih =>
    have hblank : readLine messages p index l = .ok .blank := by
      rw [readLine_eq_ok_iff, (hplain l List.mem_cons_self).stripBlanks_eq_nil
        (hwhite l List.mem_cons_self)]
      exact ⟨by simp, .blank⟩
    have hrest (p : Progress) := ih (fun l' hl' => hplain l' (List.mem_cons_of_mem l hl'))
      (fun l' hl' => hwhite l' (List.mem_cons_of_mem l hl')) p (index + 1)
    rw [readLines, hblank]
    split_ifs
    · rintro s (_ | ⟨_, hs⟩)
      · rfl
      · exact hrest p s hs
    · rintro s (_ | ⟨_, hs⟩)
      · rfl
      · exact hrest _ s hs

/-- A text that is passed through keeps its declared type. -/
theorem detect_serialize (ht : IsPlainlySpaced t) {type : DiagramType}
    (h : detect t = .ok (some type)) : detect (serialize (splitLines t)) = .ok (some type) := by
  obtain ⟨kept, white, hlines, hwhite, -, hser⟩ := exists_serialize_eq (splitLines t)
  have hplain : ∀ l ∈ kept ++ white, IsPlainLine l := fun l hl => ht.isPlainLine (hlines ▸ hl)
  -- the type is declared in a line that is kept
  have hkept : (readLines false (frontmatterSpan kept) {} 0 kept).statements.findSome?
      Statement.declared? = some type := by
    obtain ⟨more, p, index, hmore, hsub⟩ := exists_statements_append 0 kept white
    have hnone : more.findSome? Statement.declared? = none :=
      List.findSome?_eq_none_iff.2 fun s hs => declared?_of_isWhite
        (fun l hl => hplain l (List.mem_append_right _ hl)) hwhite false (frontmatterSpan kept) p index
        s (hsub hs)
    rw [detect_eq_some_iff, Source.read] at h
    simp only [hlines, frontmatterSpan_append_white fun l hl => decide_eq_true (hwhite l hl)] at h
    rwa [hmore, List.findSome?_append, hnone, Option.or_none] at h
  have hne : kept ≠ [] := by
    rintro rfl
    cases hkept
  have hsplit : splitLines (serialize (splitLines t)) = kept := by
    rw [hser, if_neg hne]
    refine splitLines_unlines hne (fun l hl => newline_not_mem_of_mem_splitLines (t := t) ?_)
      fun l hl => ht.carriageReturn_not_mem ?_
    · exact hlines ▸ List.mem_append_left _ hl
    · exact hlines ▸ List.mem_append_left _ hl
  rw [detect_eq_some_iff, Source.read, hsplit]
  exact hkept

/-- A text that is passed through is passed through again, as it is. -/
theorem isPassedThrough_serialize (ht : IsPlainlySpaced t) (h : isPassedThrough settings t = .ok true) :
    isPassedThrough settings (serialize (splitLines t)) = .ok true ∧
      serialize (splitLines (serialize (splitLines t))) = serialize (splitLines t) := by
  obtain ⟨hpreserve, type, htype, hsensitive⟩ := isPassedThrough_eq_true_iff.1 h
  constructor
  · exact isPassedThrough_eq_true_iff.2 ⟨hpreserve, type, detect_serialize ht htype, hsensitive⟩
  · exact serialize_splitLines (fun l hl => newline_not_mem_of_mem_splitLines hl)
      fun l hl => ht.carriageReturn_not_mem hl

/-! ### Formatting twice -/

/-- A diagram and its canonical form need the same room. -/
theorem roomFault?_respaced (memory : Nat) (settings : Settings) (ss : List Statement) :
    Diagram.roomFault? memory settings ⟨(canonical ss).map Statement.respaced⟩ =
      Diagram.roomFault? memory settings ⟨ss⟩ := by
  unfold Diagram.roomFault?
  rw [PlacedAlike.depthsFrom ((forall₂_alike_respaced _).imp fun _ _ h => h.toPlacedAlike),
    ← depthsFrom_nonBlank, nonBlank_canonical, depthsFrom_nonBlank]

/-- Formatting makes no difference between the two texts. -/
inductive Interchangeable (settings : Settings) (t t' : Text) : Prop
  | passedThrough (h : isPassedThrough settings t = .ok true)
      (h' : isPassedThrough settings t' = .ok true)
      (hlines : serialize (splitLines t') = serialize (splitLines t)) : Interchangeable settings t t'
  | laidOut {d d' : Diagram} (h : isPassedThrough settings t = .ok false)
      (h' : isPassedThrough settings t' = .ok false)
      (hd : parse settings.normalizeMessages t = .ok d)
      (hd' : parse settings.normalizeMessages t' = .ok d')
      (hformat : d'.format settings = d.format settings)
      (hroom : ∀ memory, d'.roomFault? memory settings = d.roomFault? memory settings) :
      Interchangeable settings t t'

section interchangeable

variable {t' u : Text}

theorem Interchangeable.format_eq (h : Interchangeable settings t t') :
    ∃ final, format settings t = .ok final ∧ format settings t' = .ok final := by
  cases h with
  | passedThrough h h' hlines =>
    exact ⟨_, format_eq_ok_iff.2 (.inl ⟨h, rfl⟩), format_eq_ok_iff.2 (.inl ⟨h', hlines.symm⟩)⟩
  | laidOut h h' hd hd' hformat _ =>
    exact ⟨_, format_eq_ok_iff.2 (.inr ⟨h, _, hd, rfl⟩),
      format_eq_ok_iff.2 (.inr ⟨h', _, hd', hformat.symm⟩)⟩

theorem Interchangeable.formatInRoom_eq (h : Interchangeable settings t t') (memory : Nat) :
    formatInRoom memory settings t' = formatInRoom memory settings t := by
  cases h with
  | passedThrough h h' hlines =>
    rw [formatInRoom_of_isPassedThrough memory h, formatInRoom_of_isPassedThrough memory h', hlines]
  | laidOut h h' hd hd' hformat hroom =>
    rw [formatInRoom_of_parse memory h hd, formatInRoom_of_parse memory h' hd', hformat, hroom]

/-- A source and its formatted text are interchangeable. -/
theorem interchangeable_format {first second : Settings} (ht : IsPlainlySpaced t)
    (hfirst : first.normalizeMessages = false) (hsecond : second.normalizeMessages = false)
    (hpreserve : first.preserveIndentSensitive = second.preserveIndentSensitive)
    (h : format first t = .ok u) : Interchangeable second t u := by
  have hsame : isPassedThrough first t = isPassedThrough second t := by
    unfold isPassedThrough
    rw [hpreserve]
  rcases format_eq_ok_iff.1 h with ⟨hpassed, rfl⟩ | ⟨hpassed, d, hd, rfl⟩
  · rw [hsame] at hpassed
    obtain ⟨hagain, hser⟩ := isPassedThrough_serialize ht hpassed
    exact .passedThrough hpassed hagain hser
  · rw [hsame] at hpassed
    rw [hfirst, ← hsecond] at hd
    have hlegible := legibleSource_of_parse ht hd
    have hagain : isPassedThrough second (d.format first) = .ok false := by
      rw [isPassedThrough_format hlegible, ← hpassed, isPassedThrough_of_parse hd]
    rw [hsecond] at hd
    -- the second run reads the canonical statements, and their canonical form is their own
    refine .laidOut hpassed hagain (hsecond ▸ hd) (hsecond ▸ parse_format_respaced ht hd first) ?_ ?_
    · exact format_respaced hlegible.noEmptyContent second
    · exact fun memory => roomFault?_respaced memory second d.statements

end interchangeable

/-- Formatting a formatted text is formatting the source: the indentation of the first run does not
matter. The second run needs the same room, too. -/
theorem format_format {first second : Settings} {out : Text} (ht : IsPlainlySpaced t)
    (hfirst : first.normalizeMessages = false) (hsecond : second.normalizeMessages = false)
    (hpreserve : first.preserveIndentSensitive = second.preserveIndentSensitive)
    (h : format first t = .ok out) :
    (∃ final, format second t = .ok final ∧ format second out = .ok final) ∧
      ∀ memory, formatInRoom memory second out = formatInRoom memory second t := by
  have hsame := interchangeable_format ht hfirst hsecond hpreserve h
  exact ⟨hsame.format_eq, hsame.formatInRoom_eq⟩

theorem format_format_brace_blocks :
    ∃ out final,
      format { indentUnit := .tabs }
        "\n stateDiagram-v2\nA-->B\nstate A\x7b\n\n\n  [ C ]\n\x7d\n\x7d".toList = .ok out ∧
      format { indentWidth := 2 }
        "\n stateDiagram-v2\nA-->B\nstate A\x7b\n\n\n  [ C ]\n\x7d\n\x7d".toList = .ok final ∧
      format { indentWidth := 2 } out = .ok final := by
  have h : format { indentUnit := .tabs }
      "\n stateDiagram-v2\nA-->B\nstate A\x7b\n\n\n  [ C ]\n\x7d\n\x7d".toList =
        .ok "stateDiagram-v2\n\tA-->B\n\nstate A \x7b\n\n\t[C]\n\x7d\n\x7d\n".toList := by decide +kernel
  have hspaced : IsPlainlySpaced
      "\n stateDiagram-v2\nA-->B\nstate A\x7b\n\n\n  [ C ]\n\x7d\n\x7d".toList := by decide +kernel
  have hfirst : ({ indentUnit := .tabs } : Settings).normalizeMessages = false := rfl
  have hsecond : ({ indentWidth := 2 } : Settings).normalizeMessages = false := rfl
  obtain ⟨final, hfinal⟩ := (format_format hspaced hfirst hsecond rfl h).1
  exact ⟨_, final, h, hfinal⟩

end MermaidTidy

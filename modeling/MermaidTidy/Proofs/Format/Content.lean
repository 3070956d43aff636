import Mathlib.Tactic
import MermaidTidy.Proofs.Format.Reread

/-!
# What formatting keeps

Formatting moves lines and changes white space. Line by line it keeps all visible characters, and the
order of the lines.

* `ReadsSource.contents_render`: the statements of a source show what its lines show, where a line
  that declares a diagram without a known keyword shows `flowchart`;
* `contents_layoutFrom`, `contents_serialize`: laying out and putting lines together loses nothing;
* `contents_format`: so does formatting, for all settings.
-/

namespace MermaidTidy

open Text Line Respacing Source

/-! ### Lines and their statements -/

/-- The line of a statement, or `flowchart` if it declares a diagram without a known keyword. -/
def Statement.declaredLine (s : Statement) (l : Text) : Text :=
  if s.declared?.isSome && (DiagramKind.leading? (stripBlanks l)).isNone then "flowchart".toList else l

/-- The lines of some statements; lines behind the last statement stay as they are. -/
def declaredLines : List Statement → List Text → List Text
  | s :: ss, l :: ls => s.declaredLine l :: declaredLines ss ls
  | [], ls => ls
  | _ :: _, [] => []

theorem declaredLines_append {ss : List Statement} {ls : List Text} (h : ss.length = ls.length)
    (ss' : List Statement) (ls' : List Text) :
    declaredLines (ss ++ ss') (ls ++ ls') = declaredLines ss ls ++ declaredLines ss' ls' := by
  induction ss generalizing ls with
  | nil =>
    rw [List.length_eq_zero_iff.1 h.symm]
    rfl
  | cons s ss ih =>
    cases ls with
    | nil => cases h
    | cons l ls => exact congrArg _ (ih (Nat.succ.inj h))

theorem declaredLines_frontmatter (front : List Text) :
    declaredLines (front.map .frontmatter) front = front := by
  induction front with
  | nil => rfl
  | cons l front ih => exact congrArg _ ih

/-! ### Statements show what their lines show -/

/-- There is no white space above `U+007F`. -/
def IsAsciiSpaced (t : Text) : Prop := ∀ c ∈ t, isSpace c = true → c.toNat ≤ 0x7F

theorem isBlank_of_isSpace {c : Char} (hs : isSpace c = true) (hc : c.toNat ≤ 0x7F)
    (hcontrol : isControl c = false) : isBlank c = true := by
  by_cases htab : c = '\t'
  · rw [htab]
    rfl
  · have hspace : c.toNat = ' '.toNat := by
      simp only [isControl, Bool.or_eq_false_iff, Bool.and_eq_false_iff, decide_eq_false_iff_not,
        bne_eq_false_iff_eq, htab, or_false] at hcontrol
      simp only [isSpace, Bool.or_eq_true, Bool.and_eq_true, decide_eq_true_eq, beq_iff_eq] at hs
      have : ' '.toNat = 0x20 := rfl
      omega
    rw [Char.toNat_inj.1 hspace]
    rfl

theorem isBlankSpaced_stripBlanks {l : Text} (h : IsAsciiSpaced l)
    (hc : ∀ c ∈ stripBlanks l, isControl c = false) : IsBlankSpaced (stripBlanks l) where
  trimmed := isTrimmed_trim isBlank l
  blank c hcl hs := isBlank_of_isSpace hs (h c (mem_of_mem_trim hcl) hs) (hc c hcl)

section reads

variable {messages : Bool} {p : Progress} {raws : List Text} {ss : List Statement}

theorem visible_declaredLine {l : Text} {s : Statement} (hl : IsAsciiSpaced l)
    (hc : ∀ c ∈ stripBlanks l, isControl c = false) (hs : Reads messages p (stripBlanks l) s) :
    visible (s.declaredLine l) = visible s.render := by
  rw [visible_render (isBlankSpaced_stripBlanks hl hc) hs, visible_stripBlanks]
  unfold Statement.declaredLine
  split_ifs
  · decide
  · rfl

/-- The visible characters of the statements are those of their lines. -/
theorem Source.ReadsAll.map_visible (h : ReadsAll messages p raws ss)
    (hraws : ∀ l ∈ raws, IsAsciiSpaced l) :
    (ss.map Statement.render).map visible = (declaredLines ss raws).map visible ∧
      ∀ s ∈ ss, '\n' ∉ s.render := by
  induction h with
  | nil => exact ⟨rfl, by simp⟩
  | @cons p raw raws s ss hc hs _ ih =>
    have hraw : IsAsciiSpaced raw := hraws raw List.mem_cons_self
    obtain ⟨hvisible, hn⟩ := ih fun l hl => hraws l (List.mem_cons_of_mem raw hl)
    refine ⟨?_, List.forall_mem_cons.2 ⟨?_, hn⟩⟩
    · rw [declaredLines, List.map_cons, List.map_cons, List.map_cons, hvisible,
        visible_declaredLine hraw hc hs]
    · exact newline_not_mem_render (isBlankSpaced_stripBlanks hraw hc).newline_not_mem hs

theorem Source.ReadsSource.map_visible {lines : List Text} (h : ReadsSource messages lines ss)
    (hlines : ∀ l ∈ lines, IsAsciiSpaced l) (hn : ∀ l ∈ lines, '\n' ∉ l) :
    (ss.map Statement.render).map visible = (declaredLines ss lines).map visible ∧
      ∀ s ∈ ss, '\n' ∉ s.render := by
  cases h with
  | plain _ h => exact h.map_visible hlines
  | @frontmatter white front rest ws ss _ _ hw h =>
    simp only [List.forall_mem_append] at hlines hn ⊢
    obtain ⟨hvisible, hnw⟩ := hw.map_visible hlines.1
    obtain ⟨hvisible', hnr⟩ := h.map_visible hlines.2.2
    refine ⟨?_, hnw, ?_, hnr⟩
    · rw [declaredLines_append hw.length_eq, declaredLines_append (List.length_map _),
        declaredLines_frontmatter, List.map_append, map_render_frontmatter]
      simp only [List.map_append, hvisible, hvisible']
    · intro s hs
      obtain ⟨l, hl, rfl⟩ := List.mem_map.1 hs
      exact hn.2.1 l hl

end reads

/-! ### Laying out -/

section layout

variable {settings : Settings} {ss : List Statement}

theorem contents_cons (l : Text) (ls : List Text) : contents (l :: ls) = contents [l] ++ contents ls :=
  contents_append [l] ls

theorem Pass.visible_line (settings : Settings) (q : Pass) (s : Statement) :
    visible (q.line settings s) = visible s.render := by
  rw [Pass.line, visible_append, visible_eq_nil_iff.2 fun c hc =>
    isSpace_of_isBlank (Settings.isBlank_of_mem_indent hc), List.nil_append]

/-- A pass shows its statements: blank lines and indentation show nothing. -/
theorem contents_layoutFrom (settings : Settings) (q : Pass) (ss : List Statement) :
    contents (layoutFrom settings q ss) = contents (ss.map Statement.render) := by
  have hempty (ls : List Text) : contents ([] :: ls) = contents ls := rfl
  -- the pass may be in any state: neither its depth nor its blank lines show
  induction ss generalizing q with
  | nil => rfl
  | cons s ss ih =>
    by_cases hs : s = .blank
    · subst hs
      rw [layoutFrom, List.map_cons]
      split_ifs
      · exact (hempty _).trans ((ih _).trans (hempty _).symm)
      · exact (ih _).trans (hempty _).symm
    · have hgap : contents (if q.gapBefore s then [[]] else []) = [] := by split_ifs <;> rfl
      rw [layoutFrom_cons hs, contents_append, hgap, List.nil_append, List.map_cons, contents_cons,
        contents_cons s.render, ih]
      simp only [contents, List.map_cons, q.visible_line]

/-- The statements of a source are rendered without line feeds. -/
theorem newline_not_mem_render_of_read {messages : Bool} {t : Text}
    (h : Source.read messages t = ⟨ss, none⟩) : ∀ s ∈ ss, '\n' ∉ s.render := by
  intro s hs
  obtain ⟨l, hl, rfl | ⟨q, hq⟩⟩ := (read_eq_iff.1 h).exists_of_mem hs
  · exact newline_not_mem_of_mem_splitLines hl
  · refine newline_not_mem_render (fun hmem => ?_) hq
    exact newline_not_mem_of_mem_splitLines hl (mem_of_mem_trim hmem)

theorem newline_not_mem_layoutFrom (hn : ∀ s ∈ ss, '\n' ∉ s.render) (q : Pass) :
    ∀ l ∈ layoutFrom settings q ss, '\n' ∉ l := by
  intro l hl
  rcases exists_of_mem_layoutFrom hl with rfl | ⟨s, hs, depth, rfl⟩
  · simp
  · intro hmem
    rcases List.mem_append.1 hmem with hmem | hmem
    · exact absurd (Settings.isBlank_of_mem_indent hmem) (by decide)
    · exact hn s hs hmem

/-- Lines are found again in their text. -/
theorem contents_serialize {lines : List Text} (hn : ∀ l ∈ lines, '\n' ∉ l) :
    contents (splitLines (serialize lines)) = contents lines := by
  obtain ⟨kept, white, rfl, hwhite, -, hser⟩ := exists_serialize_eq lines
  rw [hser, contents_splitLines, contents_append, contents_eq_nil hwhite, List.append_nil]
  split_ifs with hnil
  · rw [hnil]
    rfl
  · rw [pieces_append_singleton, pieces_unlines hnil fun l hl => hn l (List.mem_append_left _ hl),
      contents_append]
    exact List.append_nil _

end layout

/-! ### Texts that are passed through -/

section passedThrough

variable {messages : Bool} {p : Progress}

/-- A line that declares a diagram which lives by its indentation has a known keyword. -/
theorem declaredLine_eq_self {l : Text} {s : Statement} (hl : IsAsciiSpaced l)
    (hc : ∀ c ∈ stripBlanks l, isControl c = false) (hs : Reads messages p (stripBlanks l) s)
    (htype : ∀ type, s.declared? = some type → type.isIndentSensitive = true) :
    s.declaredLine l = l := by
  refine if_neg fun h => ?_
  obtain ⟨hsome, hnone⟩ := Bool.and_eq_true_iff.1 h
  generalize ht : stripBlanks l = t at hs
  cases hs with
  | declaration _ _ =>
    have htrim := (isBlankSpaced_stripBlanks hl hc).isTrimmed_isSpace
    have hsensitive := htype _ rfl
    rw [← ht, decode_of_leading?_eq_none htrim (Option.isNone_iff_eq_none.1 hnone)] at hsensitive
    cases hsensitive
  | _ => cases hsome

theorem declaredLines_readLines {span : Option (Nat × Nat)} {index : Nat} {raws : List Text}
    (hraws : ∀ l ∈ raws, IsAsciiSpaced l)
    (htype : ∀ s ∈ (readLines messages span p index raws).statements, ∀ type,
      s.declared? = some type → type.isIndentSensitive = true) :
    declaredLines (readLines messages span p index raws).statements raws = raws := by
  induction raws generalizing p index with
  | nil => rfl
  | cons raw raws ih =>
    obtain ⟨hraw, hraws⟩ := List.forall_mem_cons.1 hraws
    rw [readLines] at htype ⊢
    split_ifs at htype ⊢
    · exact congrArg _ (ih hraws fun s hs => htype s (List.mem_cons_of_mem _ hs))
    · cases hl : readLine messages p index raw with
      | error f => rfl
      | ok s =>
        rw [hl] at htype
        obtain ⟨hc, hs⟩ := readLine_eq_ok_iff.1 hl
        show s.declaredLine raw :: declaredLines _ raws = raw :: raws
        rw [declaredLine_eq_self hraw hc hs (htype s List.mem_cons_self),
          ih hraws fun s' hs' => htype s' (List.mem_cons_of_mem _ hs')]

/-- A text that is passed through keeps its declaration. -/
theorem declaredLines_of_isPassedThrough {settings : Settings} {t : Text}
    (h : isPassedThrough settings t = .ok true) (hlines : ∀ l ∈ splitLines t, IsAsciiSpaced l)
    (messages : Bool) :
    declaredLines (Source.read messages t).statements (splitLines t) = splitLines t := by
  refine declaredLines_readLines hlines fun s hs type hd => ?_
  obtain ⟨-, type', hdetect, hsensitive⟩ := isPassedThrough_eq_true_iff.1 h
  rw [detect_of_mem_read hs hd] at hdetect
  cases hdetect
  exact hsensitive

end passedThrough

/-! ### Formatting -/

/-- **Formatting keeps the contents of all lines, in their order**, except that a line which declares
a diagram without a known keyword becomes `flowchart`. -/
theorem contents_format {settings : Settings} {t out : Text} (ht : IsAsciiSpaced t)
    (h : format settings t = .ok out) :
    contents (splitLines out) =
      contents (declaredLines (Source.read settings.normalizeMessages t).statements (splitLines t)) := by
  have hn : ∀ l ∈ splitLines t, '\n' ∉ l := fun l hl => newline_not_mem_of_mem_splitLines hl
  have hlines : ∀ l ∈ splitLines t, IsAsciiSpaced l := by
    intro l hl c hc
    obtain ⟨x, y, rfl, -⟩ := exists_of_mem_splitLines hl
    exact ht c (by simp [hc])
  rcases format_eq_ok_iff.1 h with ⟨hpassed, rfl⟩ | ⟨-, d, hd, rfl⟩
  · rw [contents_serialize hn, declaredLines_of_isPassedThrough hpassed hlines]
  · by_cases hnil : t = []
    · subst hnil
      cases hd
      rfl
    · have hread := (parse_eq_ok_iff hnil).1 hd
      obtain ⟨hvisible, hn'⟩ := hread.map_visible hlines hn
      rw [Diagram.format, layoutLines, contents_serialize (newline_not_mem_layoutFrom hn' _),
        contents_layoutFrom, read_eq_iff.2 hread]
      unfold contents
      rw [hvisible]

theorem contents_format_unknown_keyword :
    ∃ out, format {} "%% x\r\n custom\n\n\tstate\tA\x7b\n a  [\tb ]\n\x7d\n\n".toList = .ok out ∧
      contents (splitLines out) =
        ["%%x".toList, "flowchart".toList, "stateA\x7b".toList, "a[b]".toList, "\x7d".toList] := by
  have h : format {} "%% x\r\n custom\n\n\tstate\tA\x7b\n a  [\tb ]\n\x7d\n\n".toList =
      .ok "%% x\nflowchart\n\nstate A \x7b\n    a [\tb ]\n\x7d\n".toList := by decide +kernel
  refine ⟨_, h, (contents_format (by unfold IsAsciiSpaced; decide +kernel) h).trans ?_⟩
  decide +kernel

end MermaidTidy

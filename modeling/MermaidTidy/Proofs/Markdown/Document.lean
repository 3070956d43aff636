import Mathlib.Tactic
import MermaidTidy.Markdown.Fence
import MermaidTidy.Proofs.Text.Lines

/-!
# Documents and their sections

The lines of a document are sections, each of which ends with a closed block, and a rest in which
no block is closed. Lines are kept as they stand in the text, so one may end with a carriage return
that belongs to its line end.

* `chop l` is a line without that carriage return. No fence depends on it (`opening?_chop`,
  `closes_chop`);
* `Section`, `Rest` and `Document` say of every line which part it plays, with the reason for it;
* `exists_document`: any lines are those of a document;
* `scan_of_lines`: what a scan of a text finds is read off its document.
-/

namespace MermaidTidy.Markdown

open Text

/-! ### Line ends -/

/-- A line without the carriage return of its line end. -/
def chop (l : Text) : Text := if l.getLast? = some '\r' then l.dropLast else l

theorem eq_chop_or (l : Text) : l = chop l ∨ l = chop l ++ ['\r'] := by
  unfold chop
  split_ifs with h
  · obtain ⟨l, rfl⟩ := List.getLast?_eq_some_iff.1 h
    exact .inr (by rw [List.dropLast_concat])
  · exact .inl rfl

theorem chop_eq_self {l : Text} (h : '\r' ∉ l) : chop l = l :=
  if_neg fun hlast => h (List.mem_of_mem_getLast? hlast)

theorem mem_of_mem_chop {l : Text} {c : Char} (h : c ∈ chop l) : c ∈ l := by
  rcases eq_chop_or l with hl | hl <;> rw [hl]
  · exact h
  · exact List.mem_append_left _ h

/-- The line ends are unified by chopping every line but the last one, which has no line end. -/
theorem pieces_unifyLineEnds (t : Text) :
    ∃ ls l, pieces t = ls ++ [l] ∧ pieces (unifyLineEnds t) = ls.map chop ++ [l] := by
  fun_induction unifyLineEnds t with
  | case1 => exact ⟨[], [], rfl, rfl⟩
  | case2 r ih =>
    obtain ⟨ls, l, hr, hu⟩ := ih
    refine ⟨['\r'] :: ls, l, ?_, ?_⟩
    · rw [pieces_cons_of_ne (by decide), pieces_newline, hr]
      rfl
    · rw [pieces_newline, hu]
      rfl
  | case3 c r hno ih =>
    obtain ⟨ls, l, hr, hu⟩ := ih
    by_cases hc : c = '\n'
    · subst hc
      exact ⟨[] :: ls, l, by rw [pieces_newline, hr]; rfl, by rw [pieces_newline, hu]; rfl⟩
    · rw [pieces_cons_of_ne hc, pieces_cons_of_ne hc, hr, hu]
      cases ls with
      | nil => exact ⟨[], c :: l, rfl, rfl⟩
      | cons p ls =>
        refine ⟨(c :: p) :: ls, l, rfl, ?_⟩
        have hchop : chop (c :: p) = c :: chop p := by
          cases p with
          | nil =>
            -- a carriage return here would stand before a line feed
            have hne : c ≠ '\r' := by
              rintro rfl
              rw [← unlines_pieces r, hr] at hno
              obtain ⟨q, qs, hqs⟩ := List.exists_cons_of_ne_nil
                (List.append_ne_nil_of_right_ne_nil ls (List.cons_ne_nil l []))
              rw [List.cons_append, hqs] at hno
              exact hno _ rfl (unlines_cons_cons [] q qs)
            exact if_neg (by simpa using hne)
          | cons d p =>
            simp only [chop, List.getLast?_cons_cons, List.dropLast_cons_cons]
            split_ifs <;> rfl
        rw [List.map_cons, List.map_cons, hchop]
        rfl

/-! ### Fences -/

/-- What every opening fence is like. -/
structure Opening.IsProper (o : Opening) : Prop where
  indent : ∀ c ∈ o.indent, isBlank c = true
  char : o.char = '\x60' ∨ o.char = '~'
  length : 3 ≤ o.length

theorem isProper_of_opening? {l : Text} {o : Opening} (h : opening? l = some o) : o.IsProper := by
  unfold opening? at h
  dsimp only at h
  split at h
  · cases h
  · obtain ⟨hc, ho⟩ := Option.ite_none_right_eq_some.1 h
    cases ho
    simp only [Bool.and_eq_true, Bool.or_eq_true, beq_iff_eq, decide_eq_true_eq] at hc
    exact ⟨fun c hc => List.mem_takeWhile_imp hc, hc.1, hc.2⟩

theorem opening?_nil : opening? [] = none := rfl

theorem opening?_append_carriageReturn (l : Text) : opening? (l ++ ['\r']) = opening? l := by
  unfold opening?
  rw [takeWhile_append_cons (by decide), dropWhile_append_cons (by decide)]
  dsimp only
  cases l.dropWhile isBlank with
  | nil => rfl
  | cons c r =>
    rw [List.cons_append]
    dsimp only
    by_cases hc : (c == '\x60' || c == '~') = true
    · have hne : ('\r' == c) = false := by
        rcases (by simpa using hc : c = '\x60' ∨ c = '~') with rfl | rfl <;> rfl
      rw [← List.cons_append, takeWhile_append_cons (p := (· == c)) hne,
        dropWhile_append_cons (p := (· == c)) hne, takeWhile_append_cons (by decide)]
    · simp only [hc, Bool.false_and, Bool.false_eq_true, if_false]

@[simp] theorem opening?_chop (l : Text) : opening? (chop l) = opening? l := by
  rcases eq_chop_or l with hl | hl
  · rw [← hl]
  · conv_rhs => rw [hl, opening?_append_carriageReturn]

theorem closes_congr {l l' : Text} (h : strip l = strip l') (o : Opening) :
    closes o l = closes o l' := by
  unfold closes
  rw [h]

theorem strip_chop (l : Text) : strip (chop l) = strip l := by
  rcases eq_chop_or l with hl | hl
  · rw [← hl]
  · conv_rhs => rw [hl, strip, trim_append_right (by decide)]
    rfl

@[simp] theorem closes_chop (o : Opening) (l : Text) : closes o (chop l) = closes o l :=
  closes_congr (strip_chop l) o

theorem Opening.IsProper.closes_nil {o : Opening} (h : o.IsProper) : closes o [] = false := by
  have := h.length
  refine Bool.eq_false_iff.2 fun hc => ?_
  simp [closes, strip, trim, trimRight] at hc
  omega

/-! ### Sections -/

/-- Lines up to the end of a closed block. -/
structure Section where
  /-- The lines before the block. -/
  before : List Text
  /-- The line of the opening fence. -/
  fence : Text
  opening : Opening
  /-- The lines between the fences. -/
  inside : List Text
  /-- The line of the closing fence. -/
  closing : Text
  opening?_before : ∀ l ∈ before, opening? l = none
  opening?_fence : opening? fence = some opening
  closes_inside : ∀ l ∈ inside, closes opening l = false
  newline_not_mem_inside : ∀ l ∈ inside, '\n' ∉ l
  closes_closing : closes opening closing = true

/-- Lines behind the last closed block. -/
inductive Rest
  | plain (lines : List Text) (h : ∀ l ∈ lines, opening? l = none)
  | unclosed (before : List Text) (fence : Text) (opening : Opening) (inside : List Text)
      (hbefore : ∀ l ∈ before, opening? l = none) (hfence : opening? fence = some opening)
      (hinside : ∀ l ∈ inside, closes opening l = false)

/-- The lines of a document by the parts they play. -/
structure Document where
  sections : List Section
  rest : Rest

namespace Section

/-- The lines of a section. -/
def lines (s : Section) : List Text := s.before ++ s.fence :: (s.inside ++ [s.closing])

/-- The text between the fences. -/
def content (s : Section) : Text := unlines (s.inside.map chop)

/-- The block of a section whose first line has the given number. -/
def block (number : Nat) (s : Section) : CodeBlock where
  language := s.opening.language
  content := s.content
  startLine := number + s.before.length
  endLine := number + s.before.length + s.inside.length + 1
  indent := s.opening.indent

/-- The section with other lines between its fences. -/
def withInside (s : Section) (inside : List Text) (hclose : ∀ l ∈ inside, closes s.opening l = false)
    (hn : ∀ l ∈ inside, '\n' ∉ l) : Section :=
  { s with inside, closes_inside := hclose, newline_not_mem_inside := hn }

theorem lines_withInside (s : Section) {inside : List Text}
    (hclose : ∀ l ∈ inside, closes s.opening l = false) (hn : ∀ l ∈ inside, '\n' ∉ l) :
    (s.withInside inside hclose hn).lines = s.before ++ s.fence :: (inside ++ [s.closing]) := rfl

theorem isProper_opening (s : Section) : s.opening.IsProper := isProper_of_opening? s.opening?_fence

theorem length_lines (s : Section) : s.lines.length = s.before.length + s.inside.length + 2 := by
  simp [lines]
  omega

/-- Behind `n` lines and the lines `pending`, the block of a section starts at the fence. -/
theorem startLine_block (s : Section) (n : Nat) (pending : List Text) :
    (s.block (n + pending.length + 1)).startLine =
      n + (pending ++ (s.before ++ [s.fence])).length := by
  simp [block]
  omega

/-- The line behind a section has a number that is counted from its block, too. -/
theorem number_behind (s : Section) (n : Nat) (pending : List Text) :
    n + pending.length + 1 + s.lines.length =
      (s.block (n + pending.length + 1)).startLine + s.inside.length + [s.closing].length + 1 := by
  simp [block, length_lines]
  omega

end Section

/-- The blocks of sections whose first line has the given number. -/
def blocksFrom : Nat → List Section → List CodeBlock
  | _, [] => []
  | number, s :: ss => s.block number :: blocksFrom (number + s.lines.length) ss

namespace Rest

/-- The lines of a rest. -/
def lines : Rest → List Text
  | plain lines _ => lines
  | unclosed before fence _ inside _ _ _ => before ++ fence :: inside

/-- The line of the fence that is never closed, where the first line has the given number. -/
def unclosedLine (number : Nat) : Rest → Option Nat
  | plain _ _ => none
  | unclosed before _ _ _ _ _ _ => some (number + before.length)

end Rest

/-- The lines of a document. -/
def Document.lines (d : Document) : List Text := d.sections.flatMap Section.lines ++ d.rest.lines

/-- Any lines are those of a document. -/
theorem exists_document {lines : List Text} (hn : ∀ l ∈ lines, '\n' ∉ l) :
    ∃ d : Document, d.lines = lines := by
  induction hlen : lines.length using Nat.strong_induction_on generalizing lines with
  | _ n ih =>
  subst hlen
  -- the lines before the first opening fence, then those before the line that closes it
  have hsplit := List.takeWhile_append_dropWhile (p := fun l => (opening? l).isNone) (l := lines)
  have hbefore : ∀ l ∈ lines.takeWhile (fun l => (opening? l).isNone), opening? l = none :=
    fun l hl => by simpa using List.mem_takeWhile_imp hl
  cases hrest : lines.dropWhile (fun l => (opening? l).isNone) with
  | nil =>
    rw [hrest, List.append_nil] at hsplit
    exact ⟨⟨[], .plain lines (hsplit ▸ hbefore)⟩, rfl⟩
  | cons fence rest =>
    obtain ⟨o, ho⟩ : ∃ o, opening? fence = some o := by
      have hfence := List.head?_dropWhile_not (fun l => (opening? l).isNone) lines
      rw [hrest] at hfence
      exact Option.isSome_iff_exists.1 (by simpa using hfence)
    have hsplit' := List.takeWhile_append_dropWhile (p := fun l => !closes o l) (l := rest)
    have hinside : ∀ l ∈ rest.takeWhile (fun l => !closes o l), closes o l = false :=
      fun l hl => by simpa using List.mem_takeWhile_imp hl
    rw [hrest] at hsplit
    cases hrest' : rest.dropWhile (fun l => !closes o l) with
    | nil =>
      rw [hrest', List.append_nil] at hsplit'
      exact ⟨⟨[], .unclosed _ fence o rest hbefore ho (hsplit' ▸ hinside)⟩, hsplit⟩
    | cons closing rest' =>
      have hclosing : closes o closing = true := by
        have hhead := List.head?_dropWhile_not (fun l => !closes o l) rest
        rw [hrest'] at hhead
        simpa using hhead
      rw [hrest'] at hsplit'
      rw [← hsplit, ← hsplit'] at hn ih
      obtain ⟨d, hd⟩ := ih rest'.length (by simp; omega) (fun l hl => hn l (by simp [hl])) rfl
      refine ⟨⟨⟨_, fence, o, _, closing, hbefore, ho, hinside, fun l hl => hn l (by simp [hl]),
        hclosing⟩ :: d.sections, d.rest⟩, ?_⟩
      rw [Document.lines, List.flatMap_cons, List.append_assoc, ← Document.lines, hd]
      conv_rhs => rw [← hsplit, ← hsplit']
      simp [Section.lines]

/-! ### Scans -/

theorem scanFrom_before {before : List Text} (h : ∀ l ∈ before, opening? l = none) (number : Nat)
    (rest : List Text) :
    scanFrom none number (before ++ rest) = scanFrom none (number + before.length) rest := by
  induction before generalizing number with
  | nil => rfl
  | cons l before ih =>
    rw [List.cons_append, scanFrom, h l List.mem_cons_self]
    simp only [Option.map_none]
    rw [ih (fun l' hl' => h l' (List.mem_cons_of_mem l hl')), List.length_cons]
    congr 1
    omega

theorem scanFrom_inside {b : OpenBlock} {inside : List Text}
    (h : ∀ l ∈ inside, closes b.opening l = false) (number : Nat) (rest : List Text) :
    scanFrom (some b) number (inside ++ rest) =
      scanFrom (some { b with content := inside.reverse ++ b.content }) (number + inside.length)
        rest := by
  induction inside generalizing b number with
  | nil => rfl
  | cons l inside ih =>
    rw [List.cons_append, scanFrom, if_neg (by simp [h l List.mem_cons_self]), ih]
    · simp only [List.length_cons, List.reverse_cons, List.append_assoc, List.singleton_append]
      congr 1
      omega
    · exact fun l' hl' => h l' (List.mem_cons_of_mem l hl')

/-- A section is scanned as its block. -/
theorem scanFrom_section (s : Section) (number : Nat) (rest : List Text) :
    scanFrom none number (s.lines.map chop ++ rest) =
      { scanFrom none (number + s.lines.length) rest with
        blocks := s.block number :: (scanFrom none (number + s.lines.length) rest).blocks } := by
  have hbefore : ∀ l ∈ s.before.map chop, opening? l = none := by
    simpa using s.opening?_before
  have hinside : ∀ l ∈ s.inside.map chop, closes s.opening l = false := by
    simpa using s.closes_inside
  have hlines : s.lines.map chop ++ rest =
      s.before.map chop ++ (chop s.fence :: (s.inside.map chop ++ (chop s.closing :: rest))) := by
    simp [Section.lines]
  have hend : number + s.before.length + 1 + s.inside.length =
      number + s.before.length + s.inside.length + 1 := by omega
  have hnext : number + (s.before.length + s.inside.length + 2) =
      number + s.before.length + s.inside.length + 1 + 1 := by omega
  rw [hlines, scanFrom_before hbefore, scanFrom, opening?_chop, s.opening?_fence, Option.map_some,
    scanFrom_inside hinside, scanFrom, if_pos (by simpa using s.closes_closing)]
  simp only [List.length_map, List.append_nil, List.reverse_reverse, s.length_lines, Section.block,
    Section.content, hend, hnext]

theorem scanFrom_rest (r : Rest) (number : Nat) :
    scanFrom none number (r.lines.map chop) = { unclosed := r.unclosedLine number } := by
  cases r with
  | plain lines h =>
    have hplain : ∀ l ∈ lines.map chop, opening? l = none := by simpa using h
    have hscan := scanFrom_before hplain number []
    rwa [List.append_nil] at hscan
  | unclosed before fence opening inside hbefore hfence hinside =>
    have hbefore' : ∀ l ∈ before.map chop, opening? l = none := by simpa using hbefore
    have hinside' : ∀ l ∈ inside.map chop, closes opening l = false := by simpa using hinside
    have hlines : (before ++ fence :: inside).map chop =
        before.map chop ++ (chop fence :: (inside.map chop ++ [])) := by simp
    rw [Rest.lines, hlines, scanFrom_before hbefore', scanFrom, opening?_chop, hfence,
      Option.map_some, scanFrom_inside hinside', scanFrom, List.length_map]
    rfl

theorem scanFrom_document (sections : List Section) (rest : Rest) (number : Nat) :
    scanFrom none number ((sections.flatMap Section.lines ++ rest.lines).map chop) =
      { blocks := blocksFrom number sections
        unclosed := rest.unclosedLine (number + (sections.flatMap Section.lines).length) } := by
  induction sections generalizing number with
  | nil => exact scanFrom_rest rest number
  | cons s sections ih =>
    rw [List.flatMap_cons, List.append_assoc, List.map_append, scanFrom_section, ih, blocksFrom,
      List.length_append, Nat.add_assoc]

/-- The last line may be chopped or not, and one more empty line does not matter: whether it stands
in an open block or not, it neither opens nor closes one. -/
theorem scanFrom_last (state : Option OpenBlock) (hstate : ∀ b ∈ state, b.opening.IsProper)
    (number : Nat) (ls : List Text) (l : Text) :
    scanFrom state number (ls ++ [chop l]) = scanFrom state number (ls ++ [l]) ∧
      scanFrom state number (ls ++ [[]]) = scanFrom state number ls := by
  induction ls generalizing state number with
  | nil =>
    cases state with
    | none => simp [scanFrom, opening?_nil]
    | some b =>
      have hnil := (hstate b rfl).closes_nil
      simp only [List.nil_append, scanFrom, closes_chop, hnil, Bool.false_eq_true, if_false, and_true]
  | cons l' ls ih =>
    cases state with
    | none =>
      simp only [List.cons_append, scanFrom]
      refine ih _ (fun b hb => ?_) _
      obtain ⟨o, ho, rfl⟩ := Option.map_eq_some_iff.1 hb
      exact isProper_of_opening? ho
    | some b =>
      simp only [List.cons_append, scanFrom]
      split_ifs
      · obtain ⟨hchop, hnil⟩ := ih none (by simp) (number + 1)
        exact ⟨by rw [hchop], by rw [hnil]⟩
      · refine ih _ (fun b' hb' => ?_) _
        cases hb'
        exact hstate b rfl

theorem scan_eq_scanFrom_pieces (t : Text) : scan t = scanFrom none 1 ((pieces t).map chop) := by
  have hscan : scan t = scanFrom none 1 (pieces (unifyLineEnds t)) := by
    unfold scan splitLines
    dsimp only
    split_ifs with hlast
    · obtain ⟨u, hu⟩ := List.getLast?_eq_some_iff.1 hlast
      rw [hu, pieces_append_singleton, List.dropLast_concat]
      exact (scanFrom_last none (by simp) 1 _ []).2.symm
    · rfl
  obtain ⟨ls, l, hp, hu⟩ := pieces_unifyLineEnds t
  rw [hscan, hu, hp, List.map_append, List.map_singleton]
  exact (scanFrom_last none (by simp) 1 _ l).1.symm

/-- What a scan finds is read off the document. -/
theorem scan_of_lines {d : Document} {t : Text} (h : d.lines = pieces t) :
    scan t = { blocks := blocksFrom 1 d.sections
               unclosed := d.rest.unclosedLine (1 + (d.sections.flatMap Section.lines).length) } := by
  rw [scan_eq_scanFrom_pieces, ← h]
  exact scanFrom_document d.sections d.rest 1

end MermaidTidy.Markdown

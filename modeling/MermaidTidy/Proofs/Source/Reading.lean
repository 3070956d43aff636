import Mathlib.Tactic
import MermaidTidy.Proofs.Source.Frontmatter
import MermaidTidy.Proofs.Source.Reads

/-!
# The statements of a source

`ReadsAll` reads lines one after the other by the rules of `Reads`; `ReadsSource` takes the
frontmatter out first. A source without faults is read by these rules (`parse_eq_ok_iff`).

* `ReadsAll.messages_off`: up to its messages a source is read in the same way without them;
* `detect_eq_of_parse`: the detected type of a source without faults is that of its diagram.
-/

namespace MermaidTidy.Source

open Text Line

/-! ### Progress -/

/-- The progress behind some statements. -/
def Progress.after (p : Progress) (ss : List Statement) : Progress := ss.foldl Progress.next p

@[simp] theorem Progress.after_nil (p : Progress) : p.after [] = p := rfl

@[simp] theorem Progress.after_cons (p : Progress) (s : Statement) (ss : List Statement) :
    p.after (s :: ss) = (p.next s).after ss := rfl

/-- Preamble changes nothing. -/
theorem Progress.next_of_isPreamble {p : Progress} {s : Statement} (h : isPreamble s = true) :
    p.next s = p := by
  have hd : s.declared? = none := by cases s <;> simp_all [isPreamble, Statement.declared?]
  unfold Progress.next
  split
  · simp [hd, h]
  · simp [hd, h]
  · rfl
  · rfl

@[simp] theorem Progress.next_blank (p : Progress) : p.next .blank = p := next_of_isPreamble rfl

theorem Progress.after_map_frontmatter (p : Progress) (front : List Text) :
    p.after (front.map .frontmatter) = p := by
  induction front with
  | nil => rfl
  | cons l front ih => rw [List.map_cons, after_cons, next_of_isPreamble rfl, ih]

/-- Only a declaration changes the dialect. -/
theorem Progress.dialect_next (p : Progress) (s : Statement) :
    (p.next s).dialect = p.dialect ∨
      ∃ type, s = .declaration type ∧ (p.next s).dialect = some type.kind := by
  cases s with
  | declaration type =>
    unfold Progress.next
    split
    · exact .inr ⟨type, rfl, rfl⟩
    · exact .inr ⟨type, rfl, rfl⟩
    · exact .inl rfl
    · exact .inl rfl
  | _ =>
    left
    unfold Progress.next
    simp only [Statement.declared?]
    split <;> rfl

theorem Progress.next_of_declared {p : Progress} (h : p.mode = .body ∨ p.mode = .sequence)
    (s : Statement) : p.next s = p := by
  unfold Progress.next
  rcases h with h | h <;> rw [h]

theorem Progress.next_of_sequence {p : Progress} (h : p.mode = .sequence) (s : Statement) :
    p.next s = p := next_of_declared (.inr h) s

/-- The lines of a sequence diagram are read in its own mode. -/
theorem Progress.mode_next (p : Progress) (h : p.dialect = some .sequenceDiagram → p.mode = .sequence)
    (s : Statement) :
    (p.next s).dialect = some .sequenceDiagram → (p.next s).mode = .sequence := by
  intro hd
  by_cases hmode : p.mode = .sequence
  · rwa [next_of_sequence hmode]
  · rcases p.dialect_next s with hold | ⟨type, rfl, hnew⟩
    · exact absurd (h (hold ▸ hd)) hmode
    · have hkind : type.kind = .sequenceDiagram := Option.some.inj (hnew.symm.trans hd)
      unfold Progress.next at hd ⊢
      cases hm : p.mode with
      | sequence => exact absurd hm hmode
      | body =>
        rw [hm] at hd
        exact absurd (h hd) hmode
      | _ => exact if_pos hkind

theorem Progress.mode_next_of_declared {s : Statement} (h : s.declared? ≠ none) (p : Progress) :
    (p.next s).mode = .body ∨ (p.next s).mode = .sequence := by
  obtain ⟨type, htype⟩ := Option.ne_none_iff_exists'.1 h
  unfold Progress.next
  cases hm : p.mode with
  | body => exact .inl hm
  | sequence => exact .inr hm
  | _ =>
    simp only [htype]
    split_ifs <;> simp

/-- The dialect is the kind of the first declaration. -/
theorem Progress.dialect_after {p : Progress} (hmode : p.mode = .leading ∨ p.mode = .pending)
    (hd : p.dialect = none) (ss : List Statement) :
    (p.after ss).dialect = (Diagram.type? ⟨ss⟩).map DiagramType.kind := by
  induction ss generalizing p with
  | nil => exact hd
  | cons s ss ih =>
    rw [after_cons]
    cases hs : s.declared? with
    | none =>
      have hnext : p.next s = if isPreamble s then p else { p with mode := .pending } := by
        rcases hmode with h | h <;> simp only [next, h, hs]
      have htype : Diagram.type? ⟨s :: ss⟩ = Diagram.type? ⟨ss⟩ := by
        simp only [Diagram.type?, List.findSome?_cons, hs]
      rw [hnext, htype]
      split_ifs
      · exact ih hmode hd
      · exact ih (.inr rfl) hd
    | some type =>
      -- the mode that the declaration brings about never changes again
      have hnext : p.next s = ⟨if type.kind = .sequenceDiagram then .sequence else .body,
          some type.kind⟩ := by
        rcases hmode with h | h <;> simp only [next, h, hs]
      have hfix : (p.next s).after ss = p.next s := by
        rw [hnext]
        clear hs hnext ih
        induction ss with
        | nil => rfl
        | cons s' ss ih => rwa [after_cons, next_of_declared (by split_ifs <;> simp)]
      rw [hfix, hnext]
      simp only [Diagram.type?, List.findSome?_cons, hs, Option.map_some]

/-! ### Lines one after the other -/

/-- `ss` are the statements of the lines that are read from `p` on. -/
inductive ReadsAll (messages : Bool) : Progress → List Text → List Statement → Prop
  | nil {p : Progress} : ReadsAll messages p [] []
  | cons {p : Progress} {raw : Text} {raws : List Text} {s : Statement} {ss : List Statement}
      (hc : ∀ c ∈ stripBlanks raw, isControl c = false) (hs : Reads messages p (stripBlanks raw) s)
      (h : ReadsAll messages (p.next s) raws ss) : ReadsAll messages p (raw :: raws) (s :: ss)

variable {messages : Bool} {p : Progress}

theorem readLine_eq_ok_iff {index : Nat} {raw : Text} {s : Statement} :
    readLine messages p index raw = .ok s ↔
      (∀ c ∈ stripBlanks raw, isControl c = false) ∧ Reads messages p (stripBlanks raw) s := by
  cases ho : obstacle? (stripBlanks raw) with
  | none =>
    rw [readLine_of_obstacle?_eq_none ho, statementOf_eq_ok_iff]
    exact (and_iff_right (obstacle?_eq_none_iff.1 ho)).symm
  | some o =>
    refine iff_of_false ?_ ?_
    · unfold readLine classify
      simp [ho]
    · rintro ⟨hc, -⟩
      rw [obstacle?_eq_none_iff.2 hc] at ho
      cases ho

theorem ReadsAll.length_eq {raws : List Text} {ss : List Statement} (h : ReadsAll messages p raws ss) :
    ss.length = raws.length := by
  induction h with
  | nil => rfl
  | cons _ _ _ ih => rw [List.length_cons, List.length_cons, ih]

theorem ReadsAll.exists_of_mem {raws : List Text} {ss : List Statement}
    (h : ReadsAll messages p raws ss) {s : Statement} (hs : s ∈ ss) :
    ∃ raw ∈ raws, ∃ q, Reads messages q (stripBlanks raw) s := by
  induction h with
  | nil => cases hs
  | @cons p raw raws s' ss _ hread _ ih =>
    rcases List.mem_cons.1 hs with rfl | hs
    · exact ⟨raw, List.mem_cons_self, p, hread⟩
    · obtain ⟨raw', hraw', hread'⟩ := ih hs
      exact ⟨raw', List.mem_cons_of_mem raw hraw', hread'⟩

theorem ReadsAll.getLast?_ne_blank {raws : List Text} {ss : List Statement}
    (h : ReadsAll messages p raws ss) (hlast : ∀ l ∈ raws.getLast?, strip l ≠ []) :
    ∀ s ∈ ss.getLast?, s ≠ .blank := by
  induction h with
  | nil => simp
  | @cons p raw raws s ss _ hs h ih =>
    by_cases hnil : raws = []
    · subst hnil
      cases h
      rintro s' ⟨⟩ rfl
      generalize ht : stripBlanks raw = t at hs
      cases hs
      refine hlast raw rfl ?_
      rw [← strip_stripBlanks, ht]
      rfl
    · have hnil' : ss ≠ [] := by
        rw [← List.length_pos_iff, h.length_eq]
        exact List.length_pos_iff.2 hnil
      rw [List.getLast?_cons_of_ne_nil hnil] at hlast
      rw [List.getLast?_cons_of_ne_nil hnil']
      exact ih hlast

/-! ### The loop over the lines -/

variable {span : Option (Nat × Nat)}

/-- Lines outside the frontmatter are read by the rules. -/
theorem readLines_eq_iff {index : Nat} {raws : List Text} {ss : List Statement}
    (hspan : ∀ i, index ≤ i → i < index + raws.length → inSpan span i = false) :
    readLines messages span p index raws = ⟨ss, none⟩ ↔ ReadsAll messages p raws ss := by
  induction raws generalizing p index ss with
  | nil =>
    rw [readLines]
    constructor
    · intro h
      cases h
      exact .nil
    · rintro ⟨⟩
      rfl
  | cons raw raws ih =>
    have hspan' : ∀ i, index + 1 ≤ i → i < index + 1 + raws.length → inSpan span i = false :=
      fun i hi hlt => hspan i (by omega) (by rw [List.length_cons]; omega)
    rw [readLines, if_neg (by simp [hspan index le_rfl (by simp)])]
    constructor
    · intro h
      cases hl : readLine messages p index raw with
      | error f =>
        rw [hl] at h
        cases h
      | ok s =>
        rw [hl] at h
        obtain ⟨hc, hs⟩ := readLine_eq_ok_iff.1 hl
        cases ss with
        | nil => cases h
        | cons s' ss =>
          simp only [Reading.cons, Reading.mk.injEq, List.cons.injEq] at h
          obtain ⟨⟨rfl, hss⟩, hf⟩ := h
          refine .cons hc hs ((ih hspan').1 ?_)
          rw [← hss, ← hf]
    · rintro ⟨⟩
      rename_i s ss hc hs h
      rw [readLine_eq_ok_iff.2 ⟨hc, hs⟩]
      simp only [(ih hspan').2 h, Reading.cons]

/-- Lines of the frontmatter are kept. -/
theorem readLines_of_inSpan {index : Nat} {raws : List Text}
    (hspan : ∀ i, index ≤ i → i < index + raws.length → inSpan span i = true) :
    readLines messages span p index raws = ⟨raws.map .frontmatter, none⟩ := by
  induction raws generalizing index with
  | nil => rfl
  | cons raw raws ih =>
    rw [readLines, if_pos (hspan index le_rfl (by simp)),
      ih fun i hi hlt => hspan i (by omega) (by rw [List.length_cons]; omega)]
    rfl

/-- What is read of some lines is the start of what is read of these and more lines. -/
theorem readLines_append (index : Nat) (raws raws' : List Text) :
    readLines messages span p index (raws ++ raws') =
      match readLines messages span p index raws with
      | ⟨ss, some f⟩ => ⟨ss, some f⟩
      | ⟨ss, none⟩ =>
        { readLines messages span (p.after ss) (index + raws.length) raws' with
          statements := ss ++
            (readLines messages span (p.after ss) (index + raws.length) raws').statements } := by
  induction raws generalizing p index with
  | nil => simp [readLines]
  | cons raw raws ih =>
    have hlen : index + (raw :: raws).length = index + 1 + raws.length := by
      rw [List.length_cons]
      omega
    rw [List.cons_append, readLines, readLines, hlen]
    split_ifs with hin
    · have hnext : p.next (.frontmatter raw) = p := Progress.next_of_isPreamble rfl
      rw [ih]
      rcases readLines messages span p (index + 1) raws with ⟨ss, _ | f⟩
      · simp only [Reading.cons, Progress.after_cons, hnext, List.cons_append]
      · rfl
    · cases readLine messages p index raw with
      | error f => rfl
      | ok s =>
        simp only [ih]
        rcases readLines messages span (p.next s) (index + 1) raws with ⟨ss, _ | f⟩ <;> rfl

theorem exists_statements_append (index : Nat) (raws raws' : List Text) :
    ∃ more p' index', (readLines messages span p index (raws ++ raws')).statements =
      (readLines messages span p index raws).statements ++ more ∧
        more ⊆ (readLines messages span p' index' raws').statements := by
  rw [readLines_append]
  rcases readLines messages span p index raws with ⟨ss, _ | f⟩
  · exact ⟨_, p.after ss, index + raws.length, rfl, List.Subset.refl _⟩
  · exact ⟨[], p, index, (List.append_nil ss).symm, List.nil_subset _⟩

/-! ### Whole sources -/

/-- `ss` are the statements of a source with the given lines. -/
inductive ReadsSource (messages : Bool) : List Text → List Statement → Prop
  | plain {lines : List Text} {ss : List Statement} (hspan : frontmatterSpan lines = none)
      (h : ReadsAll messages {} lines ss) : ReadsSource messages lines ss
  | frontmatter {white front rest : List Text} {ws ss : List Statement}
      (hwhite : ∀ l ∈ white, isWhite l = true) (hfront : IsFrontmatter front)
      (hw : ReadsAll messages {} white ws)
      (h : ReadsAll messages (Progress.after {} ws) rest ss) :
      ReadsSource messages (white ++ (front ++ rest)) (ws ++ (front.map .frontmatter ++ ss))

/-- The reading of white lines, frontmatter and other lines. -/
theorem readLines_frontmatter {white front rest : List Text} {first last : Nat}
    (hfirst : first = white.length) (hlast : last + 1 = first + front.length)
    {ss : List Statement} :
    readLines messages (some (first, last)) {} 0 (white ++ (front ++ rest)) = ⟨ss, none⟩ ↔
      ∃ ws ss', ss = ws ++ (front.map .frontmatter ++ ss') ∧ ReadsAll messages {} white ws ∧
        ReadsAll messages (Progress.after {} ws) rest ss' := by
  have hwhite : ∀ i, 0 ≤ i → i < 0 + white.length → inSpan (some (first, last)) i = false := by
    intro i _ hi
    simp only [inSpan, Bool.and_eq_false_iff, decide_eq_false_iff_not]
    omega
  have hin : ∀ i, 0 + white.length ≤ i → i < 0 + white.length + front.length →
      inSpan (some (first, last)) i = true := by
    intro i hi hlt
    simp only [inSpan, Bool.and_eq_true, decide_eq_true_eq]
    omega
  have hrest : ∀ i, 0 + white.length + front.length ≤ i →
      i < 0 + white.length + front.length + rest.length → inSpan (some (first, last)) i = false := by
    intro i hi _
    simp only [inSpan, Bool.and_eq_false_iff, decide_eq_false_iff_not]
    omega
  rw [readLines_append]
  constructor
  · intro h
    rcases hw : readLines messages (some (first, last)) {} 0 white with ⟨ws, _ | f⟩
    · rw [hw] at h
      simp only [readLines_append, readLines_of_inSpan hin, Progress.after_map_frontmatter,
        Reading.mk.injEq] at h
      obtain ⟨rfl, hfault⟩ := h
      refine ⟨ws, _, rfl, (readLines_eq_iff hwhite).1 hw, (readLines_eq_iff hrest).1 ?_⟩
      rw [← hfault]
    · rw [hw] at h
      cases h
  · rintro ⟨ws, ss', rfl, hw, h⟩
    rw [(readLines_eq_iff hwhite).2 hw]
    simp only [readLines_append, readLines_of_inSpan hin, Progress.after_map_frontmatter]
    rw [(readLines_eq_iff hrest).2 h]

/-- A source is read without faults by the rules. -/
theorem read_eq_iff {t : Text} {ss : List Statement} :
    read messages t = ⟨ss, none⟩ ↔ ReadsSource messages (splitLines t) ss := by
  unfold read
  constructor
  · intro h
    cases hspan : frontmatterSpan (splitLines t) with
    | none =>
      simp only [hspan] at h
      exact .plain hspan ((readLines_eq_iff fun _ _ _ => rfl).1 h)
    | some bounds =>
      obtain ⟨first, last⟩ := bounds
      obtain ⟨white, front, rest, hlines, hwhite, hfront, hfirst, hlast⟩ :=
        frontmatterSpan_eq_some_iff.1 hspan
      simp only [hspan] at h
      rw [hlines] at h ⊢
      obtain ⟨ws, ss', rfl, hw, hr⟩ := (readLines_frontmatter hfirst hlast).1 h
      exact .frontmatter hwhite hfront hw hr
  · generalize splitLines t = lines
    rintro (⟨hspan, h⟩ | ⟨hwhite, hfront, hw, h⟩)
    · simp only [hspan]
      exact (readLines_eq_iff fun _ _ _ => rfl).2 h
    · rename_i white front rest ws ss
      simp only [frontmatterSpan_frontmatter hwhite hfront]
      refine (readLines_frontmatter rfl ?_).2 ⟨ws, ss, rfl, hw, h⟩
      exact Nat.sub_add_cancel (Nat.add_pos_right _ (List.length_pos_iff.2 hfront.ne_nil))

theorem readsSource_plain_iff {lines : List Text} {ss : List Statement}
    (hspan : frontmatterSpan lines = none) :
    ReadsSource messages lines ss ↔ ReadsAll messages {} lines ss := by
  refine ⟨fun h => ?_, .plain hspan⟩
  cases h with
  | plain _ h => exact h
  | frontmatter hwhite hfront _ _ =>
    rw [frontmatterSpan_frontmatter hwhite hfront] at hspan
    cases hspan

theorem readsSource_frontmatter_iff {front rest : List Text} {ss : List Statement}
    (hfront : IsFrontmatter front) :
    ReadsSource messages (front ++ rest) ss ↔
      ∃ ss', ss = front.map .frontmatter ++ ss' ∧ ReadsAll messages {} rest ss' := by
  have hspan : frontmatterSpan (front ++ rest) = some (0, 0 + front.length - 1) :=
    frontmatterSpan_frontmatter (by simp : ∀ l ∈ [], isWhite l = true) hfront rest
  constructor
  · intro h
    generalize hl : front ++ rest = lines at h hspan
    cases h with
    | plain hnone _ =>
      rw [hnone] at hspan
      cases hspan
    | @frontmatter white front' rest' ws ss hw hf hws h =>
      -- the span fixes where the frontmatter begins
      rw [frontmatterSpan_frontmatter hw hf, Option.some.injEq, Prod.mk.injEq,
        List.length_eq_zero_iff] at hspan
      obtain ⟨rfl, -⟩ := hspan
      obtain ⟨rfl, rfl⟩ := hf.append_inj hfront hl
      cases hws
      exact ⟨ss, rfl, h⟩
  · rintro ⟨ss', rfl, h⟩
    have hread : ReadsSource messages ([] ++ (front ++ rest)) ([] ++ (front.map .frontmatter ++ ss')) :=
      .frontmatter (by simp) hfront .nil h
    exact hread

/-- Every statement is that of a line, which may belong to the frontmatter. -/
theorem ReadsSource.exists_of_mem {lines : List Text} {ss : List Statement}
    (h : ReadsSource messages lines ss) {s : Statement} (hs : s ∈ ss) :
    ∃ l ∈ lines, s = .frontmatter l ∨ ∃ q, Reads messages q (stripBlanks l) s := by
  cases h with
  | plain _ h =>
    obtain ⟨l, hl, hread⟩ := h.exists_of_mem hs
    exact ⟨l, hl, .inr hread⟩
  | @frontmatter white front rest ws ss _ _ hw h =>
    simp only [List.mem_append] at hs ⊢
    rcases hs with hs | hs | hs
    · obtain ⟨l, hl, hread⟩ := hw.exists_of_mem hs
      exact ⟨l, .inl hl, .inr hread⟩
    · obtain ⟨l, hl, rfl⟩ := List.mem_map.1 hs
      exact ⟨l, .inr (.inl hl), .inl rfl⟩
    · obtain ⟨l, hl, hread⟩ := h.exists_of_mem hs
      exact ⟨l, .inr (.inr hl), .inr hread⟩

/-- A source whose last line is not white ends with no blank statement. -/
theorem ReadsSource.getLast?_ne_blank {lines : List Text} {ss : List Statement}
    (h : ReadsSource messages lines ss) (hlast : ∀ l ∈ lines.getLast?, strip l ≠ []) :
    ∀ s ∈ ss.getLast?, s ≠ .blank := by
  cases h with
  | plain _ h => exact h.getLast?_ne_blank hlast
  | @frontmatter white front rest ws ss _ hfront _ h =>
    by_cases hnil : ss = []
    · have hmap : front.map Statement.frontmatter ≠ [] := by simpa using hfront.ne_nil
      rw [hnil, List.append_nil, List.getLast?_append_of_ne_nil _ hmap]
      intro s hs
      obtain ⟨l, -, rfl⟩ := List.mem_map.1 (List.mem_of_mem_getLast? hs)
      simp
    · have hrest : rest ≠ [] := by
        rw [← List.length_pos_iff, ← h.length_eq]
        exact List.length_pos_iff.2 hnil
      rw [← List.append_assoc, List.getLast?_append_of_ne_nil _ hrest] at hlast
      rw [← List.append_assoc, List.getLast?_append_of_ne_nil _ hnil]
      exact h.getLast?_ne_blank hlast

/-- The diagram of a source that is not empty. -/
theorem parse_eq_ok_iff {t : Text} (ht : t ≠ []) {d : Diagram} :
    parse messages t = .ok d ↔ ReadsSource messages (splitLines t) d.statements := by
  unfold parse
  rw [if_neg ht, ← read_eq_iff]
  rcases read messages t with ⟨ss, _ | f⟩
  · cases d
    simp
  · simp

/-! ### Reading without messages -/

/-- Progress depends on declarations and on what is preamble only. -/
theorem Progress.next_congr {s s' : Statement} (hd : s'.declared? = s.declared?)
    (hp : isPreamble s' = isPreamble s) (p : Progress) : p.next s' = p.next s := by
  unfold Progress.next
  rw [hd, hp]

/-- Without messages a message is a generic line, and all else stays. -/
theorem reads_messages_off {t : Text} {s : Statement} (h : Reads messages p t s) :
    ∃ s', Reads false p t s' ∧ s'.declared? = s.declared? ∧ isPreamble s' = isPreamble s ∧
      (s' = s ∨ ∃ m, s = .message m ∧ s' = .generic t ∧ ReadsMessage t m) := by
  cases h with
  | blank => exact ⟨_, .blank, rfl, rfl, .inl rfl⟩
  | directive h => exact ⟨_, .directive h, rfl, rfl, .inl rfl⟩
  | comment h h' => exact ⟨_, .comment h h', rfl, rfl, .inl rfl⟩
  | participant k h h' => exact ⟨_, .participant k h h', rfl, rfl, .inl rfl⟩
  | blockStart b h => exact ⟨_, .blockStart b h, rfl, rfl, .inl rfl⟩
  | braceBlockStart b h h' => exact ⟨_, .braceBlockStart b h h', rfl, rfl, .inl rfl⟩
  | blockOption h h' => exact ⟨_, .blockOption h h', rfl, rfl, .inl rfl⟩
  | blockElse h h' => exact ⟨_, .blockElse h h', rfl, rfl, .inl rfl⟩
  | blockAnd h h' => exact ⟨_, .blockAnd h h', rfl, rfl, .inl rfl⟩
  | blockEnd => exact ⟨_, .blockEnd, rfl, rfl, .inl rfl⟩
  | braceBlockEnd => exact ⟨_, .braceBlockEnd, rfl, rfl, .inl rfl⟩
  | note h => exact ⟨_, .note h, rfl, rfl, .inl rfl⟩
  | declaration hu hd => exact ⟨_, .declaration hu hd, rfl, rfl, .inl rfl⟩
  | message hu hd _ _ hm =>
    exact ⟨.generic t, .generic hu hd (by simp), rfl, rfl, .inr ⟨_, rfl, rfl, hm⟩⟩
  | generic hu hd _ => exact ⟨_, .generic hu hd (by simp), rfl, rfl, .inl rfl⟩

theorem ReadsAll.messages_off {raws : List Text} {ss : List Statement}
    (h : ReadsAll messages p raws ss) :
    ∃ ss', ReadsAll false p raws ss' ∧ ss'.map Statement.declared? = ss.map Statement.declared? ∧
      p.after ss' = p.after ss := by
  induction h with
  | nil => exact ⟨[], .nil, rfl, rfl⟩
  | @cons p raw raws s ss hc hs _ ih =>
    obtain ⟨s', hs', hd, hp, -⟩ := reads_messages_off hs
    obtain ⟨ss', hss', hds, hafter⟩ := ih
    have hnext : p.next s' = p.next s := Progress.next_congr hd hp p
    refine ⟨s' :: ss', .cons hc hs' (hnext ▸ hss'), by simp [hd, hds], ?_⟩
    rw [Progress.after_cons, hnext, hafter, Progress.after_cons]

theorem ReadsSource.messages_off {lines : List Text} {ss : List Statement}
    (h : ReadsSource messages lines ss) :
    ∃ ss', ReadsSource false lines ss' ∧ ss'.map Statement.declared? = ss.map Statement.declared? := by
  cases h with
  | plain hspan h =>
    obtain ⟨ss', h', hd, -⟩ := h.messages_off
    exact ⟨ss', .plain hspan h', hd⟩
  | frontmatter hwhite hfront hw h =>
    obtain ⟨ws', hw', hdw, hafter⟩ := hw.messages_off
    obtain ⟨ss', h', hd, -⟩ := h.messages_off
    exact ⟨_, .frontmatter hwhite hfront hw' (hafter ▸ h'), by simp [hdw, hd]⟩

theorem detect_eq_some_iff {t : Text} {type : DiagramType} :
    detect t = .ok (some type) ↔
      (read false t).statements.findSome? Statement.declared? = some type := by
  unfold detect
  rcases read false t with ⟨ss, fault⟩
  generalize hfound : ss.findSome? Statement.declared? = found
  cases found <;> cases fault <;> simp [hfound]

theorem type?_congr {ss ss' : List Statement}
    (h : ss'.map Statement.declared? = ss.map Statement.declared?) :
    Diagram.type? ⟨ss'⟩ = Diagram.type? ⟨ss⟩ := by
  have hfind (l : List Statement) :
      Diagram.type? ⟨l⟩ = (l.map Statement.declared?).findSome? id := by
    rw [List.findSome?_map]
    rfl
  rw [hfind, hfind, h]

/-- The detected type of a source without faults is the type of its diagram. -/
theorem detect_eq_of_parse {t : Text} {d : Diagram} (h : parse messages t = .ok d) :
    detect t = .ok d.type? := by
  by_cases ht : t = []
  · subst ht
    cases h
    rfl
  · obtain ⟨ss', h', hd⟩ := ((parse_eq_ok_iff ht).1 h).messages_off
    have htype : ss'.findSome? Statement.declared? = d.type? := type?_congr hd
    unfold detect
    simp only [read_eq_iff.2 h', htype]
    cases d.type? <;> rfl

/-! ### Declarations -/

/-- Behind a declaration no line declares a diagram. -/
theorem declared?_eq_none {t : Text} {s : Statement} (hmode : p.mode = .body ∨ p.mode = .sequence)
    (hs : Reads messages p t s) : s.declared? = none := by
  cases hs with
  | declaration _ hd =>
    rcases hmode with h | h <;> exact absurd (by rw [h]; rfl) hd
  | _ => rfl

theorem declared?_of_mem_readLines {index : Nat} {raws : List Text}
    (hmode : p.mode = .body ∨ p.mode = .sequence) :
    ∀ s ∈ (readLines messages span p index raws).statements, s.declared? = none := by
  induction raws generalizing index with
  | nil => simp [readLines]
  | cons raw raws ih =>
    rw [readLines]
    split_ifs
    · exact List.forall_mem_cons.2 ⟨rfl, ih⟩
    · cases hl : readLine messages p index raw with
      | error f => simp
      | ok s =>
        refine List.forall_mem_cons.2 ⟨declared?_eq_none hmode (readLine_eq_ok_iff.1 hl).2, ?_⟩
        rw [Progress.next_of_declared hmode]
        exact ih

/-- With and without messages, lines declare one type at most, and it is the same. -/
theorem findSome?_of_mem_readLines {index : Nat} {raws : List Text} {s : Statement}
    {type : DiagramType} (hs : s ∈ (readLines messages span p index raws).statements)
    (hd : s.declared? = some type) :
    (readLines false span p index raws).statements.findSome? Statement.declared? = some type := by
  induction raws generalizing p index with
  | nil => simp [readLines] at hs
  | cons raw raws ih =>
    rw [readLines] at hs ⊢
    split_ifs at hs ⊢
    · rcases List.mem_cons.1 hs with rfl | hs
      · cases hd
      · exact ih hs
    · cases hl : readLine messages p index raw with
      | error f => simp [hl] at hs
      | ok s₀ =>
        rw [hl] at hs
        obtain ⟨hc, hread⟩ := readLine_eq_ok_iff.1 hl
        obtain ⟨s₁, hread₁, hd₁, hp₁, -⟩ := reads_messages_off hread
        rw [readLine_eq_ok_iff.2 ⟨hc, hread₁⟩]
        simp only [Reading.cons, List.findSome?_cons, hd₁, Progress.next_congr hd₁ hp₁]
        rcases List.mem_cons.1 hs with rfl | hs
        · rw [hd]
        · cases hd₀ : s₀.declared? with
          | none => exact ih hs
          | some type₀ =>
            -- nothing behind `s₀` declares a type
            have hnone := declared?_of_mem_readLines
              (p.mode_next_of_declared (s := s₀) (by simp [hd₀])) s hs
            rw [hnone] at hd
            cases hd

/-- What a line declares is the detected type. -/
theorem detect_of_mem_read {t : Text} {s : Statement} {type : DiagramType}
    (hs : s ∈ (read messages t).statements) (hd : s.declared? = some type) :
    detect t = .ok (some type) :=
  detect_eq_some_iff.2 (findSome?_of_mem_readLines hs hd)

end MermaidTidy.Source

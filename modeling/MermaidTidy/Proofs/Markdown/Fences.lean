import Mathlib.Tactic
import MermaidTidy.Proofs.Markdown.Document

/-!
# Where the blocks of a document stand

The blocks of a document are told by its lines alone: a block starts at the next line that opens a
fence and ends at the next line that closes it. Lines have numbers from one on.

* `IsOpeningFence c n l` and `IsClosingFence c n l` say of the characters of a line that it is a fence;
* `IsNextLine lines P n k`: of the lines behind line `n`, line `k` is the first one of which `P` holds;
* `Fenced lines n spans unclosed`: behind line `n` stand the blocks `spans`, and then perhaps a fence
  that is never closed;
* `scan_fenced_iff`: a scan finds exactly these blocks and this fence.
-/

namespace MermaidTidy.Markdown

open Text

/-! ### Fences -/

/-- A line that opens a fence: behind blanks a backtick or a tilde, `n` times in all and at least three
times, and then anything. -/
def IsOpeningFence (c : Char) (n : Nat) (l : Text) : Prop :=
  (c = '\x60' ∨ c = '~') ∧ 3 ≤ n ∧ ∃ indent rest, l = indent ++ (List.replicate n c ++ rest) ∧
    (∀ b ∈ indent, isBlank b = true) ∧ rest.head? ≠ some c

/-- A line that closes a fence of `n` times `c`: up to white space around it, it is `c` alone, at least
as often. -/
def IsClosingFence (c : Char) (n : Nat) (l : Text) : Prop :=
  ∃ m, n ≤ m ∧ strip l = List.replicate m c

/-- A line that opens some fence. -/
def OpensFence (l : Text) : Prop := ∃ c n, IsOpeningFence c n l

theorem isOpeningFence_of_opening? {l : Text} {o : Opening} (h : opening? l = some o) :
    IsOpeningFence o.char o.length l := by
  obtain ⟨-, hchar, hlength⟩ := isProper_of_opening? h
  refine ⟨hchar, hlength, l.takeWhile isBlank, (l.dropWhile isBlank).dropWhile (· == o.char), ?_,
    fun b hb => List.mem_takeWhile_imp hb, fun hhead => ?_⟩
  · have hrun : (l.dropWhile isBlank).takeWhile (· == o.char) = List.replicate o.length o.char := by
      unfold opening? at h
      dsimp only at h
      split at h
      · cases h
      · rename_i c r hr
        obtain ⟨-, ho⟩ := Option.ite_none_right_eq_some.1 h
        cases ho
        rw [hr]
        exact List.eq_replicate_iff.2 ⟨rfl, fun d hd => by simpa using List.mem_takeWhile_imp hd⟩
    rw [← hrun, List.takeWhile_append_dropWhile, List.takeWhile_append_dropWhile]
  · have hnot := head?_dropWhile (· == o.char) (l.dropWhile isBlank) _ hhead
    simp at hnot

theorem exists_opening?_of_isOpeningFence {c : Char} {n : Nat} {l : Text} (h : IsOpeningFence c n l) :
    ∃ o, opening? l = some o ∧ o.char = c ∧ o.length = n := by
  obtain ⟨hc, hn, indent, rest, rfl, hindent, hrest⟩ := h
  obtain ⟨m, rfl⟩ : ∃ m, n = m + 1 := ⟨n - 1, by omega⟩
  have hblank : isBlank c = false := by
    rcases hc with rfl | rfl <;> decide
  -- the blanks end before the run, and the run ends before the rest
  have hdrop : (indent ++ (List.replicate (m + 1) c ++ rest)).dropWhile isBlank =
      c :: (List.replicate m c ++ rest) := by
    rw [List.dropWhile_append_of_pos hindent, List.replicate_succ, List.cons_append,
      List.dropWhile_cons_of_neg (by simp [hblank])]
  have hrun : (c :: (List.replicate m c ++ rest)).takeWhile (· == c) = List.replicate (m + 1) c := by
    rw [← List.cons_append, ← List.replicate_succ, List.takeWhile_append_of_pos (by simp),
      takeWhile_eq_nil fun d hd => ?_, List.append_nil]
    refine beq_eq_false_iff_ne.2 fun hdc => hrest ?_
    rw [← hdc]
    exact hd
  unfold opening?
  simp only [hdrop, hrun, List.length_replicate]
  rw [if_pos (by simpa [hn] using hc)]
  exact ⟨_, rfl, rfl, rfl⟩

theorem not_opensFence_iff {l : Text} : ¬OpensFence l ↔ opening? l = none := by
  constructor
  · intro h
    by_contra hne
    obtain ⟨o, ho⟩ := Option.ne_none_iff_exists'.1 hne
    exact h ⟨_, _, isOpeningFence_of_opening? ho⟩
  · rintro h ⟨c, n, hfence⟩
    obtain ⟨o, ho, -⟩ := exists_opening?_of_isOpeningFence hfence
    rw [h] at ho
    cases ho

theorem isClosingFence_iff {o : Opening} {l : Text} :
    IsClosingFence o.char o.length l ↔ closes o l = true := by
  simp only [closes, Bool.and_eq_true, decide_eq_true_eq, List.all_eq_true, beq_iff_eq]
  constructor
  · rintro ⟨m, hm, hl⟩
    rw [hl, List.length_replicate]
    exact ⟨hm, fun d hd => List.eq_of_mem_replicate hd⟩
  · rintro ⟨hlen, hall⟩
    exact ⟨_, hlen, List.eq_replicate_iff.2 ⟨rfl, hall⟩⟩

theorem not_isClosingFence_iff {o : Opening} {l : Text} :
    ¬IsClosingFence o.char o.length l ↔ closes o l = false := by
  rw [isClosingFence_iff, Bool.not_eq_true]

/-! ### Lines by their numbers -/

/-- Of the lines behind line `n`, line `k` is the first one of which `P` holds. -/
def IsNextLine (lines : List Text) (P : Text → Prop) (n k : Nat) : Prop :=
  IsLeast {k | n < k ∧ ∃ l ∈ lines[k - 1]?, P l} k

/-- Of no line behind line `n` does `P` hold. -/
def NoNextLine (lines : List Text) (P : Text → Prop) (n : Nat) : Prop :=
  ∀ k, n < k → ∀ l ∈ lines[k - 1]?, ¬P l

section lines

variable {lines : List Text} {P : Text → Prop} {n k : Nat}

theorem exists_isNextLine (h : ¬NoNextLine lines P n) : ∃ k, IsNextLine lines P n k := by
  unfold NoNextLine at h
  push Not at h
  obtain ⟨k, hk, l, hl, hP⟩ := h
  exact ⟨_, isLeast_csInf ⟨k, hk, l, hl, hP⟩⟩

theorem getElem?_of_mem_drop {l : Text} {i : Nat} (h : (lines.drop n)[i]? = some l) :
    lines[n + i + 1 - 1]? = some l := by
  rwa [Nat.add_sub_cancel, ← List.getElem?_drop]

theorem NoNextLine.of_mem_drop (h : NoNextLine lines P n) : ∀ l ∈ lines.drop n, ¬P l := by
  intro l hl
  obtain ⟨i, hi⟩ := List.mem_iff_getElem?.1 hl
  exact h (n + i + 1) (by omega) l (getElem?_of_mem_drop hi)

/-- The lines from `n` on are those before the next line, that line and the lines behind it. -/
theorem IsNextLine.exists_drop_eq (h : IsNextLine lines P n k) :
    ∃ before l, lines.drop n = before ++ l :: lines.drop k ∧ (∀ l' ∈ before, ¬P l') ∧
      lines[k - 1]? = some l ∧ P l ∧ k = n + before.length + 1 := by
  obtain ⟨⟨hnk, l, hl, hP⟩, hleast⟩ := h
  obtain ⟨i, rfl⟩ : ∃ i, k = n + i + 1 := ⟨k - n - 1, by omega⟩
  have hl' : (lines.drop n)[i]? = some l := by
    rwa [List.getElem?_drop, ← Nat.add_sub_cancel (n := n + i) (m := 1)]
  obtain ⟨hlt, hget⟩ := List.getElem?_eq_some_iff.1 hl'
  have hlen : ((lines.drop n).take i).length = i := by
    rw [List.length_take]
    omega
  refine ⟨(lines.drop n).take i, l, ?_, fun l' hmem hP' => ?_, hl, hP, by rw [hlen]⟩
  · rw [Nat.add_assoc, ← List.drop_drop, ← hget, List.getElem_cons_drop, List.take_append_drop]
  · obtain ⟨j, hj⟩ := List.mem_iff_getElem?.1 hmem
    rw [List.getElem?_take] at hj
    split_ifs at hj with hji
    have hle := hleast ⟨by omega, l', getElem?_of_mem_drop hj, hP'⟩
    omega

theorem IsNextLine.lt (h : IsNextLine lines P n k) : n < k := h.1.1

theorem IsNextLine.le_length (h : IsNextLine lines P n k) : k ≤ lines.length := by
  obtain ⟨⟨-, l, hl, -⟩, -⟩ := h
  obtain ⟨hlt, -⟩ := List.getElem?_eq_some_iff.1 hl
  omega

end lines

/-! ### Blocks by their lines -/

/-- Where a block stands: the lines of its fences, and the text between them. -/
structure Span where
  startLine : Nat
  endLine : Nat
  content : Text
deriving DecidableEq, Repr

/-- Where a block stands. -/
def CodeBlock.span (b : CodeBlock) : Span := ⟨b.startLine, b.endLine, b.content⟩

/-- Behind line `n` stand the blocks `spans`. Each one starts at the next line that opens a fence and
ends at the next line that closes it. Behind the last one no fence is opened, or the next one that is
opened, in the line `unclosed`, is never closed. -/
inductive Fenced (lines : List Text) : Nat → List Span → Option Nat → Prop
  | plain {n : Nat} (h : NoNextLine lines OpensFence n) : Fenced lines n [] none
  | unclosed {n start : Nat} {fence : Text} {c : Char} {length : Nat}
      (hstart : IsNextLine lines OpensFence n start) (hfence : lines[start - 1]? = some fence)
      (hopen : IsOpeningFence c length fence)
      (h : NoNextLine lines (IsClosingFence c length) start) : Fenced lines n [] (some start)
  | block {n start stop : Nat} {fence : Text} {c : Char} {length : Nat} {spans : List Span}
      {unclosed : Option Nat} (hstart : IsNextLine lines OpensFence n start)
      (hfence : lines[start - 1]? = some fence) (hopen : IsOpeningFence c length fence)
      (hstop : IsNextLine lines (IsClosingFence c length) start stop)
      (h : Fenced lines stop spans unclosed) :
      Fenced lines n (⟨start, stop, unlines ((lines.take (stop - 1)).drop start)⟩ :: spans) unclosed

section fenced

variable {lines : List Text} {n : Nat} {spans : List Span} {unclosed : Option Nat}

/-- Any lines have their blocks. The blocks behind a block are those of fewer lines. -/
theorem exists_fenced (lines : List Text) (n : Nat) :
    ∃ spans unclosed, Fenced lines n spans unclosed := by
  induction hm : lines.length - n using Nat.strong_induction_on generalizing n with
  | _ m ih =>
  subst hm
  by_cases hplain : NoNextLine lines OpensFence n
  · exact ⟨[], none, .plain hplain⟩
  · obtain ⟨start, hstart⟩ := exists_isNextLine hplain
    obtain ⟨-, fence, -, -, hfence, ⟨c, length, hopen⟩, -⟩ := hstart.exists_drop_eq
    by_cases hnone : NoNextLine lines (IsClosingFence c length) start
    · exact ⟨[], some start, .unclosed hstart hfence hopen hnone⟩
    · obtain ⟨stop, hstop⟩ := exists_isNextLine hnone
      have hfewer : lines.length - stop < lines.length - n := by
        have hn := hstart.lt
        have hs := hstop.lt
        have hle := hstop.le_length
        omega
      obtain ⟨spans, unclosed, h⟩ := ih _ hfewer stop rfl
      exact ⟨_, unclosed, .block hstart hfence hopen hstop h⟩

/-- The next line that opens a fence starts a block of the scan. -/
theorem scanFrom_of_isNextLine {start : Nat} {fence : Text} {o : Opening}
    (hstart : IsNextLine lines OpensFence n start) (hfence : lines[start - 1]? = some fence)
    (ho : opening? fence = some o) :
    scanFrom none (n + 1) (lines.drop n) =
      scanFrom (some { opening := o, startLine := start }) (start + 1) (lines.drop start) := by
  obtain ⟨before, l, hdrop, hbefore, hl, -, hnumber⟩ := hstart.exists_drop_eq
  obtain rfl : l = fence := Option.some.inj (hl.symm.trans hfence)
  have hnone : ∀ l' ∈ before, opening? l' = none := fun l' hl' =>
    not_opensFence_iff.1 (hbefore l' hl')
  have hline : n + 1 + before.length = start := by omega
  rw [hdrop, scanFrom_before hnone, scanFrom, ho, hline]
  rfl

/-- What a scan finds behind line `n` are the blocks there. -/
theorem Fenced.scanFrom_eq (h : Fenced lines n spans unclosed) :
    (scanFrom none (n + 1) (lines.drop n)).blocks.map CodeBlock.span = spans ∧
      (scanFrom none (n + 1) (lines.drop n)).unclosed = unclosed := by
  induction h with
  | @plain n h =>
    have hnone : ∀ l ∈ lines.drop n, opening? l = none := fun l hl =>
      not_opensFence_iff.1 (h.of_mem_drop l hl)
    have hscan := scanFrom_before hnone (n + 1) []
    rw [List.append_nil] at hscan
    rw [hscan]
    exact ⟨rfl, rfl⟩
  | @unclosed n start fence c length hstart hfence hopen h =>
    obtain ⟨o, ho, rfl, rfl⟩ := exists_opening?_of_isOpeningFence hopen
    have hinside : ∀ l ∈ lines.drop start, closes o l = false := fun l hl =>
      not_isClosingFence_iff.1 (h.of_mem_drop l hl)
    have hscan := scanFrom_inside (b := { opening := o, startLine := start }) hinside (start + 1) []
    rw [List.append_nil] at hscan
    rw [scanFrom_of_isNextLine hstart hfence ho, hscan]
    exact ⟨rfl, rfl⟩
  | @block n start stop fence c length spans unclosed hstart hfence hopen hstop _ ih =>
    obtain ⟨o, ho, rfl, rfl⟩ := exists_opening?_of_isOpeningFence hopen
    obtain ⟨inside, closing, hdrop, hinside, -, hclosing, hnumber⟩ := hstop.exists_drop_eq
    -- the lines that the scan has kept are the lines between the fences
    have hcontent : (lines.take (stop - 1)).drop start = inside := by
      have hlen : stop - 1 - start = inside.length := by omega
      rw [List.drop_take, hdrop, hlen, List.take_left]
    have hkept : ∀ l ∈ inside, closes o l = false := fun l hl =>
      not_isClosingFence_iff.1 (hinside l hl)
    have hline : start + 1 + inside.length = stop := by omega
    rw [scanFrom_of_isNextLine hstart hfence ho, hdrop,
      scanFrom_inside (b := { opening := o, startLine := start }) hkept, scanFrom,
      if_pos (isClosingFence_iff.1 hclosing), hline, hcontent]
    simp only [List.append_nil, List.reverse_reverse, List.map_cons, ih.1, ih.2]
    exact ⟨rfl, trivial⟩

/-- The fences of the blocks follow each other. -/
theorem Fenced.isChain (h : Fenced lines n spans unclosed) :
    List.IsChain (· < ·) (n :: spans.flatMap fun s => [s.startLine, s.endLine]) := by
  induction h with
  | plain => exact .singleton _
  | unclosed => exact .singleton _
  | block hstart _ _ hstop _ ih => exact .cons_cons hstart.lt (.cons_cons hstop.lt ih)

/-- **A scan finds exactly the fenced blocks.** The lines of the fences are in order, and what is found
are the blocks that the lines of the document have, with the first fence behind them that is never
closed. -/
theorem scan_fenced_iff (t : Text) :
    List.IsChain (· < ·) ((scan t).blocks.flatMap fun b => [b.startLine, b.endLine]) ∧
    ∀ spans unclosed, Fenced (splitLines t) 0 spans unclosed ↔
      spans = (scan t).blocks.map CodeBlock.span ∧ unclosed = (scan t).unclosed := by
  obtain ⟨spans, unclosed, h⟩ := exists_fenced (splitLines t) 0
  have hfound {spans : List Span} {unclosed : Option Nat} (h : Fenced (splitLines t) 0 spans unclosed) :
      (scan t).blocks.map CodeBlock.span = spans ∧ (scan t).unclosed = unclosed := h.scanFrom_eq
  obtain ⟨hspans, hunclosed⟩ := hfound h
  constructor
  · have hchain := h.isChain.tail
    rwa [← hspans, List.tail_cons, List.flatMap_map] at hchain
  · intro spans' unclosed'
    constructor
    · intro h'
      exact ⟨(hfound h').1.symm, (hfound h').2.symm⟩
    · rintro ⟨rfl, rfl⟩
      rwa [hspans, hunclosed]

/-- A longer fence holds a shorter one, and the last fence is never closed. -/
example :
    let s := scan "~~~~x\n```\n~~~\n ~~~~~ \n\n ```\n~~~".toList
    s.blocks.map CodeBlock.span = [⟨1, 4, "```\n~~~".toList⟩] ∧ s.unclosed = some 6 := by
  decide +kernel

end fenced

end MermaidTidy.Markdown

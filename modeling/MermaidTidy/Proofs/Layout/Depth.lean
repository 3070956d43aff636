import Mathlib.Data.Nat.Find
import Mathlib.Tactic
import MermaidTidy.Proofs.Layout.BlankLines

/-!
# How deep statements stand

A pass counts the open brace blocks, and a closer without an open block leaves the count at zero. Here
the count is said in terms of braces that belong together.

* `Diagram.Encloses d i j` says that the brace at place `j` closes the block that is opened at `i`, and
  `Diagram.openBefore d n` are the openers before `n` whose block is not closed before `n`;
* `encloses_iff`: a block is closed where the count is back for the first time;
* `card_openBefore`: the count before a place is the number of blocks that are open there;
* `Diagram.lineIndex` finds the line of a statement among the lines of its diagram.
-/

namespace MermaidTidy

/-! ### The line of a statement -/

theorem Pass.state_through (settings : Settings) (q : Pass) (ss : List Statement) :
    (q.through settings ss).state = ss.foldl LayoutState.next q.state := by
  induction ss generalizing q with
  | nil => rfl
  | cons s ss ih =>
    rw [through_cons, ih, List.foldl_cons]
    by_cases hs : s = .blank
    · subst hs
      rfl
    · rw [past_of_ne hs]
      rfl

namespace Diagram

variable {settings : Settings} {d : Diagram} {s : Statement} {i j k n : Nat}

/-- The index of the line of the statement at place `n`: of the lines that the statements up to this
place have, it is the last one. -/
def lineIndex (settings : Settings) (d : Diagram) (n : Nat) : Nat :=
  (layoutLines settings ⟨d.statements.take (n + 1)⟩).length - 1

/-- The lines of a diagram are cut at the line of a statement. -/
theorem getElem?_lineIndex (settings : Settings) (hs : d.statements[n]? = some s) (hne : s ≠ .blank) :
    (layoutLines settings d)[d.lineIndex settings n]? = some (d.lineAt settings (s, n)) := by
  obtain ⟨rest, hrest⟩ : ∃ rest, d.statements.drop n = s :: rest :=
    ⟨_, Text.drop_eq_cons_iff.2 ⟨hs, rfl⟩⟩
  have htake : d.statements.take (n + 1) = d.statements.take n ++ [s] := by
    rw [List.take_add_one, hs, Option.toList_some]
  have hsplit : d.statements = d.statements.take n ++ s :: rest := by
    rw [← hrest, List.take_append_drop]
  set q : Pass := Pass.through settings {} (d.statements.take n) with hq
  have hline : q.line settings s = d.lineAt settings (s, n) := by
    have hstate : q.state = d.stateBefore n := Pass.state_through settings {} _
    rw [lineAt, ← hstate]
    rfl
  have hlines (ss : List Statement) : layoutFrom settings {} (d.statements.take n ++ s :: ss) =
      (layoutFrom settings {} (d.statements.take n) ++ if q.gapBefore s then [[]] else []) ++
        q.line settings s :: layoutFrom settings (q.next settings s) ss := by
    rw [layoutFrom_append, layoutFrom_cons hne, List.append_assoc]
  have hindex : d.lineIndex settings n = (layoutFrom settings {} (d.statements.take n) ++
      if q.gapBefore s then [[]] else []).length := by
    unfold lineIndex layoutLines
    rw [htake, hlines [], List.length_append]
    rfl
  have hall : layoutLines settings d = _ := (congrArg (layoutFrom settings {}) hsplit).trans (hlines rest)
  rw [hall, hindex, List.getElem?_append_right le_rfl, Nat.sub_self, List.getElem?_cons_zero, hline]

/-! ### Braces that belong together -/

/-- The kind of the statement at a place. -/
def kindAt (d : Diagram) (n : Nat) : Option StatementKind := d.statements[n]?.map Statement.kind

/-- How many statements of a kind stand behind place `i` and before place `j`. -/
def countBetween (d : Diagram) (kind : StatementKind) (i j : Nat) : Nat :=
  ((d.statements.take j).drop (i + 1)).countP (·.kind = kind)

/-- The brace at place `j` closes the block that is opened at place `i`: between them there are as many
openers as closers, and up to no place there are more closers. -/
@[mk_iff encloses_iff_and]
structure Encloses (d : Diagram) (i j : Nat) : Prop where
  lt : i < j
  opens : d.kindAt i = some .braceBlockStart
  closes : d.kindAt j = some .braceBlockEnd
  balanced : d.countBetween .braceBlockStart i j = d.countBetween .braceBlockEnd i j
  ahead : ∀ m ≤ j, i < m → d.countBetween .braceBlockEnd i m ≤ d.countBetween .braceBlockStart i m

instance (d : Diagram) (i j : Nat) : Decidable (d.Encloses i j) :=
  decidable_of_iff' _ (encloses_iff_and d i j)

/-- The openers before a place whose block is not closed before this place. -/
def openBefore (d : Diagram) (n : Nat) : Finset Nat :=
  {i ∈ Finset.range n | d.kindAt i = some .braceBlockStart ∧ ∀ j < n, ¬d.Encloses i j}

/-- Place `k` lies between the braces at `i` and `j`, and inside no block between them. -/
def IsDirectlyInside (d : Diagram) (i j k : Nat) : Prop :=
  i < k ∧ k < j ∧ ∀ a < k, ∀ b < j, i < a → k < b → ¬d.Encloses a b

instance (d : Diagram) (i j k : Nat) : Decidable (d.IsDirectlyInside i j k) :=
  inferInstanceAs (Decidable (_ ∧ _ ∧ _))

/-- The diagram is declared before a place. -/
def IsDeclaredBefore (d : Diagram) (n : Nat) : Prop := ∃ m < n, d.kindAt m = some .declaration

instance (d : Diagram) (n : Nat) : Decidable (d.IsDeclaredBefore n) :=
  inferInstanceAs (Decidable (∃ m < n, d.kindAt m = some .declaration))

theorem kindAt_eq_some_iff {kind : StatementKind} :
    d.kindAt n = some kind ↔ ∃ s, d.statements[n]? = some s ∧ s.kind = kind := Option.map_eq_some_iff

theorem countBetween_self (d : Diagram) (kind : StatementKind) (i : Nat) :
    d.countBetween kind i (i + 1) = 0 := by
  rw [countBetween, List.drop_eq_nil_of_le (List.length_take_le _ _), List.countP_nil]

theorem countBetween_succ (d : Diagram) (kind : StatementKind) (h : i < n) :
    d.countBetween kind i (n + 1) =
      d.countBetween kind i n + if d.kindAt n = some kind then 1 else 0 := by
  unfold countBetween kindAt
  cases hs : d.statements[n]? with
  | none =>
    have hlen : d.statements.length ≤ n := List.getElem?_eq_none_iff.1 hs
    rw [List.take_of_length_le hlen, List.take_of_length_le (by omega)]
    simp
  | some s =>
    obtain ⟨hlt, -⟩ := List.getElem?_eq_some_iff.1 hs
    have hlen : i + 1 ≤ (d.statements.take n).length := by
      rw [List.length_take]
      omega
    rw [List.take_add_one, hs, Option.toList_some, List.drop_append_of_le_length hlen, List.countP_append,
      List.countP_singleton]
    simp

/-! ### The count of open blocks -/

theorem stateBefore_succ_of_none (h : d.statements[n]? = none) :
    d.stateBefore (n + 1) = d.stateBefore n := by
  have hlen : d.statements.length ≤ n := List.getElem?_eq_none_iff.1 h
  unfold stateBefore
  rw [List.take_of_length_le hlen, List.take_of_length_le (by omega)]

/-- How many brace blocks a pass has open before a place. -/
def bracesBefore (d : Diagram) (n : Nat) : Nat := (d.stateBefore n).braces

@[simp] theorem bracesBefore_zero (d : Diagram) : d.bracesBefore 0 = 0 := rfl

/-- What one statement does to the count. -/
theorem bracesBefore_succ_cases (d : Diagram) (n : Nat) :
    (d.kindAt n = some .braceBlockStart ∧ d.bracesBefore (n + 1) = d.bracesBefore n + 1) ∨
    (d.kindAt n = some .braceBlockEnd ∧ d.bracesBefore (n + 1) = d.bracesBefore n - 1) ∨
    (d.kindAt n ≠ some .braceBlockStart ∧ d.kindAt n ≠ some .braceBlockEnd ∧
      d.bracesBefore (n + 1) = d.bracesBefore n) := by
  unfold bracesBefore kindAt
  cases hs : d.statements[n]? with
  | none =>
    rw [stateBefore_succ_of_none hs]
    simp
  | some s =>
    rw [stateBefore_succ hs]
    cases s with
    | braceBlockStart b name => exact .inl ⟨rfl, rfl⟩
    | braceBlockEnd => exact .inr (.inl ⟨rfl, rfl⟩)
    | _ => exact .inr (.inr ⟨by simp [Statement.kind], by simp [Statement.kind], rfl⟩)

theorem bracesBefore_succ_of_closes (h : d.kindAt n = some .braceBlockEnd) :
    d.bracesBefore (n + 1) = d.bracesBefore n - 1 := by
  rcases d.bracesBefore_succ_cases n with ⟨hk, -⟩ | ⟨-, hb⟩ | ⟨-, hk, -⟩
  · rw [h] at hk
    cases hk
  · exact hb
  · exact absurd h hk

/-- The count rises at openers only, and by one. -/
theorem opens_of_lt (h : d.bracesBefore n < d.bracesBefore (n + 1)) :
    d.kindAt n = some .braceBlockStart ∧ d.bracesBefore (n + 1) = d.bracesBefore n + 1 := by
  rcases d.bracesBefore_succ_cases n with hopen | ⟨-, hb⟩ | ⟨-, -, hb⟩
  · exact hopen
  · omega
  · omega

/-- The count falls at closers only, and by one. -/
theorem closes_of_lt (h : d.bracesBefore (n + 1) < d.bracesBefore n) :
    d.kindAt n = some .braceBlockEnd ∧ d.bracesBefore n = d.bracesBefore (n + 1) + 1 := by
  rcases d.bracesBefore_succ_cases n with ⟨-, hb⟩ | ⟨hclose, hb⟩ | ⟨-, -, hb⟩
  · omega
  · exact ⟨hclose, by omega⟩
  · omega

/-- Behind an opener the count follows the braces, as long as the closers do not outnumber the openers
or the count stays above what it was. -/
theorem bracesBefore_add (hi : d.bracesBefore (i + 1) = d.bracesBefore i + 1)
    (h : ∀ m ≤ j, i < m →
      d.countBetween .braceBlockEnd i m ≤ d.countBetween .braceBlockStart i m ∨
        d.bracesBefore i < d.bracesBefore m) :
    ∀ m ≤ j, i < m → d.bracesBefore m + d.countBetween .braceBlockEnd i m =
      d.bracesBefore i + 1 + d.countBetween .braceBlockStart i m := by
  intro m hm him
  induction m, (show i + 1 ≤ m from him) using Nat.le_induction with
  | base => rw [countBetween_self, countBetween_self, hi]
  | succ m hle ih =>
    have ih := ih (by omega) hle
    rw [countBetween_succ d _ hle, countBetween_succ d _ hle]
    rcases d.bracesBefore_succ_cases m with ⟨hk, hb⟩ | ⟨hk, hb⟩ | ⟨hk, hk', hb⟩
    · rw [if_pos hk, if_neg (by simp [hk]), hb]
      omega
    · -- the count before a closer is not zero, or the closers would outnumber the openers behind it
      have hstep := h (m + 1) hm him
      rw [countBetween_succ d _ hle, countBetween_succ d _ hle, if_pos hk, if_neg (by simp [hk]),
        hb] at hstep
      rw [if_pos hk, if_neg (by simp [hk]), hb]
      omega
    · rw [if_neg hk, if_neg hk', hb]
      omega

/-- A block is closed where the count is back for the first time. -/
theorem encloses_iff : d.Encloses i j ↔ i < j ∧ d.kindAt j = some .braceBlockEnd ∧
    d.bracesBefore j = d.bracesBefore i + 1 ∧
      ∀ m ≤ j, i < m → d.bracesBefore i < d.bracesBefore m := by
  constructor
  · rintro ⟨hlt, hopens, hcloses, hbalanced, hahead⟩
    have hi : d.bracesBefore (i + 1) = d.bracesBefore i + 1 := by
      rcases d.bracesBefore_succ_cases i with ⟨-, hb⟩ | ⟨hk, -⟩ | ⟨hk, -⟩
      · exact hb
      · rw [hopens] at hk
        cases hk
      · exact absurd hopens hk
    have hadd := bracesBefore_add hi fun m hm him => .inl (hahead m hm him)
    refine ⟨hlt, hcloses, ?_, fun m hm him => ?_⟩
    · have := hadd j le_rfl hlt
      omega
    · have := hadd m hm him
      have := hahead m hm him
      omega
  · rintro ⟨hlt, hcloses, hback, habove⟩
    obtain ⟨hopens, hi⟩ := opens_of_lt (habove (i + 1) hlt (Nat.lt_succ_self i))
    have hadd := bracesBefore_add hi fun m hm him => .inr (habove m hm him)
    refine ⟨hlt, hopens, hcloses, ?_, fun m hm him => ?_⟩
    · have := hadd j le_rfl hlt
      omega
    · have := hadd m hm him
      have := habove m hm him
      omega

/-! ### Blocks around a place -/

/-- Where the count is not zero, it stood one lower before the last opener that is still open. -/
theorem exists_opener (h : 0 < d.bracesBefore n) :
    ∃ a < n, d.bracesBefore a + 1 = d.bracesBefore n ∧
      ∀ m ≤ n, a < m → d.bracesBefore n ≤ d.bracesBefore m := by
  set a := Nat.findGreatest (d.bracesBefore · < d.bracesBefore n) n with ha
  have hlower : d.bracesBefore a < d.bracesBefore n :=
    Nat.findGreatest_spec (P := (d.bracesBefore · < d.bracesBefore n)) (Nat.zero_le n) h
  have hgreatest : ∀ m ≤ n, a < m → d.bracesBefore n ≤ d.bracesBefore m := fun m hm ham =>
    not_lt.1 (Nat.findGreatest_is_greatest (P := (d.bracesBefore · < d.bracesBefore n)) ham hm)
  have han : a < n := by
    refine lt_of_le_of_ne (Nat.findGreatest_le n) fun hne => ?_
    rw [hne] at hlower
    exact lt_irrefl _ hlower
  refine ⟨a, han, ?_, hgreatest⟩
  have hnext := hgreatest (a + 1) han (Nat.lt_succ_self a)
  obtain ⟨-, hb⟩ := opens_of_lt (lt_of_lt_of_le hlower hnext)
  omega

/-- Where the count falls below what it was, it does so first at a closer. -/
theorem exists_closer (hkj : k ≤ j) (h : d.bracesBefore j < d.bracesBefore k) :
    ∃ b < j, k ≤ b ∧ d.kindAt b = some .braceBlockEnd ∧ d.bracesBefore b = d.bracesBefore k ∧
      ∀ m ≤ b, k ≤ m → d.bracesBefore k ≤ d.bracesBefore m := by
  have hex : ∃ m, k ≤ m ∧ d.bracesBefore m < d.bracesBefore k := ⟨j, hkj, h⟩
  obtain ⟨hkm, hlower⟩ := Nat.find_spec hex
  have hleast : ∀ m < Nat.find hex, k ≤ m → d.bracesBefore k ≤ d.bracesBefore m := fun m hm hk =>
    not_lt.1 fun hlt => Nat.find_min hex hm ⟨hk, hlt⟩
  have hj : Nat.find hex ≤ j := Nat.find_min' hex ⟨hkj, h⟩
  obtain ⟨b, hb⟩ : ∃ b, Nat.find hex = b + 1 := by
    refine Nat.exists_eq_succ_of_ne_zero fun hzero => ?_
    rw [hzero] at hkm hlower
    rw [Nat.le_zero.1 hkm] at hlower
    exact lt_irrefl _ hlower
  rw [hb] at hkm hlower hleast hj
  have hkb : k ≤ b := by
    by_contra hlt
    rw [show b + 1 = k by omega] at hlower
    exact lt_irrefl _ hlower
  have habove := hleast b (Nat.lt_succ_self b) hkb
  obtain ⟨hcloses, hstep⟩ := closes_of_lt (lt_of_lt_of_le hlower habove)
  exact ⟨b, hj, hkb, hcloses, by omega, fun m hm hk => hleast m (Nat.lt_succ_of_le hm) hk⟩

/-- A closer has an opener if a block is open before it. -/
theorem exists_encloses (hcloses : d.kindAt n = some .braceBlockEnd) (h : 0 < d.bracesBefore n) :
    ∃ a, d.Encloses a n := by
  obtain ⟨a, han, hlower, habove⟩ := exists_opener h
  refine ⟨a, encloses_iff.2 ⟨han, hcloses, by omega, fun m hm ham => ?_⟩⟩
  have := habove m hm ham
  omega

/-- A place between two braces where the count is higher than behind the first one lies in a block
between them, or closes one. -/
theorem exists_encloses_around (h : d.Encloses i j) (hik : i < k) (hkj : k < j)
    (hk : d.bracesBefore i + 1 < d.bracesBefore k) :
    ∃ a b, d.Encloses a b ∧ i < a ∧ a < k ∧ k ≤ b ∧ b < j := by
  obtain ⟨-, -, hback, -⟩ := encloses_iff.1 h
  obtain ⟨a, hak, hlower, hbefore⟩ := exists_opener (d := d) (n := k) (by omega)
  obtain ⟨b, hbj, hkb, hcloses, hsame, hbehind⟩ := exists_closer (d := d) hkj.le (by omega)
  have hia : i < a := by
    by_contra hle
    obtain ⟨-, hi⟩ := opens_of_lt ((encloses_iff.1 h).2.2.2 (i + 1) (by omega) (Nat.lt_succ_self i))
    have := hbefore (i + 1) hik (by omega)
    omega
  refine ⟨a, b, encloses_iff.2 ⟨by omega, hcloses, by omega, fun m hm ham => ?_⟩, hia, hak, hkb, hbj⟩
  rcases le_total m k with hmk | hkm
  · have := hbefore m hmk ham
    omega
  · have := hbehind m hm hkm
    omega

/-! ### Open blocks -/

theorem mem_openBefore_succ_iff :
    i ∈ d.openBefore (n + 1) ↔
      (i ∈ d.openBefore n ∨ i = n ∧ d.kindAt n = some .braceBlockStart) ∧ ¬d.Encloses i n := by
  simp only [openBefore, Finset.mem_filter, Finset.mem_range]
  constructor
  · rintro ⟨hlt, hopens, hnot⟩
    refine ⟨?_, hnot n (Nat.lt_succ_self n)⟩
    rcases Nat.lt_succ_iff_lt_or_eq.1 hlt with hlt | rfl
    · exact .inl ⟨hlt, hopens, fun j hj => hnot j (by omega)⟩
    · exact .inr ⟨rfl, hopens⟩
  · rintro ⟨⟨hlt, hopens, hnot⟩ | ⟨rfl, hopens⟩, hn⟩
    · refine ⟨by omega, hopens, fun j hj => ?_⟩
      rcases Nat.lt_succ_iff_lt_or_eq.1 hj with hj | rfl
      · exact hnot j hj
      · exact hn
    · exact ⟨by omega, hopens, fun j hj h => by have := h.lt; omega⟩

/-- The opener of a closer is open before it. -/
theorem Encloses.mem_openBefore (h : d.Encloses i j) : i ∈ d.openBefore j := by
  obtain ⟨hlt, -, -, habove⟩ := encloses_iff.1 h
  rw [openBefore, Finset.mem_filter, Finset.mem_range]
  refine ⟨hlt, h.opens, fun b hb h' => ?_⟩
  -- behind an earlier closer the count would be back
  obtain ⟨hib, hcloses, hback, -⟩ := encloses_iff.1 h'
  have := habove (b + 1) hb (by omega)
  have := bracesBefore_succ_of_closes hcloses
  omega

/-- No two blocks are closed by one brace. -/
theorem Encloses.unique (h : d.Encloses i n) (h' : d.Encloses j n) : i = j := by
  obtain ⟨hi, -, hback, habove⟩ := encloses_iff.1 h
  obtain ⟨hj, -, hback', habove'⟩ := encloses_iff.1 h'
  rcases lt_trichotomy i j with hlt | heq | hlt
  · have := habove j hj.le hlt
    omega
  · exact heq
  · have := habove' i hi.le hlt
    omega

/-- The count before a place is the number of blocks that are open there. -/
theorem card_openBefore (d : Diagram) (n : Nat) : (d.openBefore n).card = d.bracesBefore n := by
  induction n with
  | zero => rfl
  | succ n ih =>
    rcases d.bracesBefore_succ_cases n with ⟨hk, hb⟩ | ⟨hk, hb⟩ | ⟨hk, hk', hb⟩
    · have hinsert : d.openBefore (n + 1) = insert n (d.openBefore n) := by
        ext i
        have hnot : ¬d.Encloses i n := fun h => by cases hk.symm.trans h.closes
        rw [mem_openBefore_succ_iff, Finset.mem_insert]
        tauto
      have hfresh : n ∉ d.openBefore n := by simp [openBefore]
      rw [hinsert, Finset.card_insert_of_notMem hfresh, ih, hb]
    · have hmem {i : Nat} : i ∈ d.openBefore (n + 1) ↔ i ∈ d.openBefore n ∧ ¬d.Encloses i n := by
        rw [mem_openBefore_succ_iff]
        simp [hk]
      rcases Nat.eq_zero_or_pos (d.bracesBefore n) with hzero | hpos
      · have hnone : d.openBefore n = ∅ := Finset.card_eq_zero.1 (ih.trans hzero)
        have hnone' : d.openBefore (n + 1) = ∅ := by
          refine Finset.eq_empty_of_forall_notMem fun i hi => ?_
          rw [hmem, hnone] at hi
          exact absurd hi.1 (Finset.notMem_empty i)
        rw [hnone', Finset.card_empty, hb, hzero]
      · obtain ⟨a, ha⟩ := exists_encloses hk hpos
        have herase : d.openBefore (n + 1) = (d.openBefore n).erase a := by
          ext i
          rw [hmem, Finset.mem_erase, and_comm]
          refine and_congr_left fun _ => not_congr ⟨fun h => h.unique ha, ?_⟩
          rintro rfl
          exact ha
        rw [herase, Finset.card_erase_of_mem ha.mem_openBefore, ih, hb]
    · have hsame : d.openBefore (n + 1) = d.openBefore n := by
        ext i
        have hnot : ¬d.Encloses i n := fun h => hk' h.closes
        rw [mem_openBefore_succ_iff]
        tauto
      rw [hsame, ih, hb]

/-! ### Depths -/

theorem declared_stateBefore (h : d.IsDeclaredBefore n) : (d.stateBefore n).declared = true := by
  obtain ⟨m, hm, hk⟩ := h
  induction n, (show m + 1 ≤ n from hm) using Nat.le_induction with
  | base =>
    obtain ⟨s, hs, hkind⟩ := kindAt_eq_some_iff.1 hk
    rw [stateBefore_succ hs]
    cases s with
    | declaration type => rfl
    | _ => cases hkind
  | succ n hmn ih =>
    have ih := ih hmn
    cases hs : d.statements[n]? with
    | none => rwa [stateBefore_succ_of_none hs]
    | some s =>
      rw [stateBefore_succ hs]
      exact declared_next ih s

/-- The statement at place `n` is shown on its own line, indented to the given depth. -/
def IsIndented (settings : Settings) (d : Diagram) (n depth : Nat) : Prop :=
  ∃ s, d.statements[n]? = some s ∧
    (layoutLines settings d)[d.lineIndex settings n]? = some (settings.indent depth ++ s.render)

/-- The kinds of statements that stand inside the innermost open block. -/
def contentKinds : List StatementKind := [.participant, .note, .comment, .generic, .message]

theorem isIndented_of_opens (settings : Settings) (hk : d.kindAt n = some .braceBlockStart)
    (hd : d.IsDeclaredBefore n) : d.IsIndented settings n (d.bracesBefore n) := by
  obtain ⟨s, hs, hkind⟩ := kindAt_eq_some_iff.1 hk
  cases s with
  | braceBlockStart b name =>
    refine ⟨_, hs, ?_⟩
    rw [getElem?_lineIndex settings hs (by simp), lineAt,
      depthOf_braceBlockStart (declared_stateBefore hd)]
    rfl
  | _ => cases hkind

theorem isIndented_of_closes (settings : Settings) (hk : d.kindAt n = some .braceBlockEnd)
    (hd : d.IsDeclaredBefore n ∨ d.bracesBefore n = 0) :
    d.IsIndented settings n (d.bracesBefore n - 1) := by
  obtain ⟨s, hs, hkind⟩ := kindAt_eq_some_iff.1 hk
  cases s with
  | braceBlockEnd =>
    refine ⟨_, hs, ?_⟩
    rw [getElem?_lineIndex settings hs (by simp), lineAt,
      depthOf_braceBlockEnd (hd.imp_left declared_stateBefore)]
    rfl
  | _ => cases hkind

theorem isIndented_of_content (settings : Settings) {kind : StatementKind}
    (hk : d.kindAt n = some kind) (hkind : kind ∈ contentKinds) (hd : d.IsDeclaredBefore n) :
    d.IsIndented settings n (max (d.bracesBefore n) 1) := by
  obtain ⟨s, hs, rfl⟩ := kindAt_eq_some_iff.1 hk
  have hplace : s.placement = .content ∧ s ≠ .blank := by
    cases s <;> simp [contentKinds, Statement.kind, Statement.placement] at hkind ⊢
  refine ⟨_, hs, ?_⟩
  rw [getElem?_lineIndex settings hs hplace.2, lineAt,
    depthOf_of_content (declared_stateBefore hd) hplace.1]
  rfl

/-- Directly inside a pair of braces the count is one higher than before it; a closer there is counted
with the block that it closes. -/
theorem bracesBefore_of_isDirectlyInside (h : d.Encloses i j) (hk : d.IsDirectlyInside i j k) :
    d.bracesBefore k =
      if d.kindAt k = some .braceBlockEnd then d.bracesBefore i + 2 else d.bracesBefore i + 1 := by
  obtain ⟨hik, hkj, hdirect⟩ := hk
  obtain ⟨-, -, hback, habove⟩ := encloses_iff.1 h
  have hik' := habove k hkj.le hik
  split_ifs with hcloses
  · -- the place behind the closer is in no block between the braces either
    have hstep := bracesBefore_succ_of_closes hcloses
    have hnext := habove (k + 1) hkj (by omega)
    by_contra hne
    have hkj' : k + 1 < j := by
      refine lt_of_le_of_ne hkj fun heq => ?_
      rw [heq] at hstep
      omega
    obtain ⟨a, b, hab, hia, hak, hkb, hbj⟩ :=
      exists_encloses_around h (k := k + 1) (by omega) hkj' (by omega)
    have hne' : a ≠ k := by
      rintro rfl
      cases hcloses.symm.trans hab.opens
    exact hdirect a (by omega) b hbj hia (by omega) hab
  · by_contra hne
    obtain ⟨a, b, hab, hia, hak, hkb, hbj⟩ := exists_encloses_around h hik hkj (by omega)
    have hne' : k ≠ b := by
      rintro rfl
      exact hcloses hab.closes
    exact hdirect a hak b hbj hia (by omega) hab

end Diagram

/-- Matching braces line up and their contents stand one level deeper. Behind the declaration an opener
and its closer are at the depth that counts the blocks open before them, and what stands directly
between them is one level deeper. A closer without an open block is at the margin. Where no block is
open, content stands one level in. The lines are the same where room may be short, if there is room for
all of them. -/
theorem layoutLines_indents_blocks (settings : Settings) (d : Diagram) :
    (∀ i j, d.Encloses i j → d.IsDeclaredBefore i →
      d.IsIndented settings i (d.openBefore i).card ∧ d.IsIndented settings j (d.openBefore i).card ∧
        ∀ k, d.IsDirectlyInside i j k →
          (∃ kind ∈ d.kindAt k, kind ∈ .braceBlockStart :: .braceBlockEnd :: Diagram.contentKinds) →
            d.IsIndented settings k ((d.openBefore i).card + 1)) ∧
    (∀ j, d.kindAt j = some .braceBlockEnd → d.openBefore j = ∅ → d.IsIndented settings j 0) ∧
    (∀ k, d.IsDeclaredBefore k → d.openBefore k = ∅ →
      (∃ kind ∈ d.kindAt k, kind ∈ Diagram.contentKinds) → d.IsIndented settings k 1) ∧
    ∀ memory lines, layoutLinesInRoom memory settings d = .ok lines ↔
      d.HasRoom memory settings ∧ lines = layoutLines settings d := by
  have hcount {n : Nat} (hnone : d.openBefore n = ∅) : d.bracesBefore n = 0 := by
    rw [← d.card_openBefore, hnone, Finset.card_empty]
  refine ⟨fun i j h hd => ?_, fun j hk hnone => ?_, ?_, fun memory lines => layoutLinesInRoom_eq_ok_iff⟩
  · rw [d.card_openBefore]
    have hd' {n : Nat} (hn : i < n) : d.IsDeclaredBefore n := by
      obtain ⟨m, hm, hdecl⟩ := hd
      exact ⟨m, by omega, hdecl⟩
    refine ⟨Diagram.isIndented_of_opens settings h.opens hd, ?_, ?_⟩
    · have hclose := Diagram.isIndented_of_closes settings h.closes (.inl (hd' h.lt))
      rwa [(Diagram.encloses_iff.1 h).2.2.1] at hclose
    · rintro k hk ⟨kind, hkind, hmem⟩
      have hbraces := Diagram.bracesBefore_of_isDirectlyInside h hk
      rw [hkind] at hbraces
      rcases List.mem_cons.1 hmem with rfl | hmem
      · have hopen := Diagram.isIndented_of_opens settings hkind (hd' hk.1)
        rwa [hbraces] at hopen
      rcases List.mem_cons.1 hmem with rfl | hmem
      · have hclose := Diagram.isIndented_of_closes settings hkind (.inl (hd' hk.1))
        rwa [hbraces] at hclose
      · have hcontent := Diagram.isIndented_of_content settings hkind hmem (hd' hk.1)
        have hne : kind ≠ .braceBlockEnd := by
          rintro rfl
          exact absurd hmem (by decide)
        rwa [hbraces, if_neg (by simpa using hne), max_eq_left (by omega)] at hcontent
  · have hclose := Diagram.isIndented_of_closes settings hk (.inr (hcount hnone))
    rwa [hcount hnone] at hclose
  · rintro k hd hnone ⟨kind, hkind, hmem⟩
    have hcontent := Diagram.isIndented_of_content settings hkind hmem hd
    rwa [hcount hnone] at hcontent

/-- A closer without an open block, a block that is opened before the declaration, and a pair of braces
with another one in it. -/
theorem layoutLines_indents_blocks_unbalanced :
    let d : Diagram := ⟨[.braceBlockEnd, .braceBlockStart .stateBlock ['Z'],
      .declaration { kind := .stateDiagram }, .braceBlockStart .stateBlock ['A'], .generic ['a'],
      .braceBlockStart .stateBlock ['B'], .blank, .note "note n".toList, .braceBlockEnd,
      .comment "%%".toList, .braceBlockEnd, .braceBlockEnd, .braceBlockEnd, .generic ['b']]⟩
    (d.Encloses 3 10 ∧ d.IsDeclaredBefore 3 ∧ d.openBefore 3 = {1} ∧ d.IsDirectlyInside 3 10 8 ∧
      d.openBefore 12 = ∅ ∧ d.openBefore 13 = ∅) ∧
    d.IsIndented {} 3 1 ∧ d.IsIndented {} 10 1 ∧ d.IsIndented {} 8 2 ∧ d.IsIndented {} 12 0 ∧
      d.IsIndented {} 13 1 := by
  intro d
  have hpair : d.Encloses 3 10 := by decide
  have hdeclared : d.IsDeclaredBefore 3 := by decide
  have hopen : d.openBefore 3 = {1} := by decide
  have hdirect : d.IsDirectlyInside 3 10 8 := by decide
  have hnone : d.openBefore 12 = ∅ := by decide
  have hnone' : d.openBefore 13 = ∅ := by decide
  obtain ⟨hblocks, hclosers, hcontent, -⟩ := layoutLines_indents_blocks {} d
  obtain ⟨h₃, h₁₀, hinside⟩ := hblocks 3 10 hpair hdeclared
  rw [hopen] at h₃ h₁₀ hinside
  exact ⟨⟨hpair, hdeclared, hopen, hdirect, hnone, hnone'⟩, h₃, h₁₀,
    hinside 8 hdirect ⟨_, rfl, by decide⟩, hclosers 12 rfl hnone,
    hcontent 13 (by decide) hnone' ⟨_, rfl, by decide⟩⟩

end MermaidTidy

/-!
# Text

Source text is handled as the list of its characters, so that every rule about it is a recursion
or a statement about lists.

* `Text` is a list of characters;
* `isBlank` is a space or a tab, `isSpace` is any white space;
* `trim` removes characters from both ends, `strip` white space, `stripBlanks` spaces and tabs;
* `indexOf?` and `splitAround?` look for the first occurrence of a text in another;
* `firstWord?` is the first run of characters other than white space;
* `cut` separates a text at a character and `joinWith` puts texts together;
* `decimal` writes an integer;
* `inRanges` looks a code point up in a table of ranges: a property of characters outside ASCII is
  given by the ranges of code points that have it.
-/

namespace MermaidTidy

/-- A piece of source text: its characters in order. -/
abbrev Text := List Char

-- Properties of the characters of a text are decided by going through the text: these instances come
-- before those that go through all characters there are.
section decidable

variable {p : Char → Prop} [DecidablePred p]

instance (priority := 1100) Text.decidableForallMem (t : Text) : Decidable (∀ c ∈ t, p c) :=
  t.decidableBAll p

instance (priority := 1100) Text.decidableExistsMem (t : Text) : Decidable (∃ c ∈ t, p c) :=
  t.decidableBEx p

instance (priority := 1100) Text.decidableForallMemOption (c? : Option Char) :
    Decidable (∀ c ∈ c?, p c) := c?.decidableForallMem

instance (priority := 1100) Text.decidableExistsMemOption (c? : Option Char) :
    Decidable (∃ c ∈ c?, p c) := c?.decidableExistsMem

end decidable

/-- A blank is a space or a tab. -/
def isBlank (c : Char) : Bool := c == ' ' || c == '\t'

/-- White space: the space, the tab, the line and paragraph breaks, the information separators and
the typographic spaces. The zero-width space and the byte order mark are not white space. -/
def isSpace (c : Char) : Bool :=
  let n := c.toNat
  (0x09 ≤ n && n ≤ 0x0D) || (0x1C ≤ n && n ≤ 0x20) || n == 0x85 || n == 0xA0 || n == 0x1680 ||
    (0x2000 ≤ n && n ≤ 0x200A) || n == 0x2028 || n == 0x2029 || n == 0x202F || n == 0x205F ||
    n == 0x3000

theorem isSpace_of_isBlank {c : Char} (h : isBlank c = true) : isSpace c = true := by
  rcases (by simpa [isBlank] using h : c = ' ' ∨ c = '\t') with rfl | rfl <;> decide

namespace Text

/-- The text without the characters at its end that satisfy `p`. -/
def trimRight (p : Char → Bool) (t : Text) : Text := (t.reverse.dropWhile p).reverse

/-- The text without the characters at either end that satisfy `p`. -/
def trim (p : Char → Bool) (t : Text) : Text := trimRight p (t.dropWhile p)

/-- The text without white space at either end. -/
def strip (t : Text) : Text := trim isSpace t

/-- The text without blanks at either end. -/
def stripBlanks (t : Text) : Text := trim isBlank t

/-- The text without white space at either end, or nothing when no character is left. -/
def stripped? (t : Text) : Option Text := if strip t = [] then none else some (strip t)

/-- The first word: the first run of characters that are not white space. -/
def firstWord? (t : Text) : Option Text :=
  match (t.dropWhile isSpace).takeWhile (!isSpace ·) with
  | [] => none
  | w => some w

/-- Where `needle` first occurs in a text. The empty text occurs at the start. -/
def indexOf? (needle : Text) : Text → Option Nat
  | [] => if needle = [] then some 0 else none
  | c :: r => if needle.isPrefixOf (c :: r) then some 0 else (indexOf? needle r).map (· + 1)

/-- What stands before and after the first occurrence of `sep`. -/
def splitAround? (sep : Text) : Text → Option (Text × Text)
  | [] => if sep = [] then some ([], []) else none
  | c :: r =>
    match sep.isPrefixOf? (c :: r) with
    | some after => some ([], after)
    | none => (splitAround? sep r).map fun (before, after) => (c :: before, after)

/-- The decimal digits of an integer, with a minus sign in front of a negative one. -/
def decimal (n : Int) : Text := (toString n).toList

/-- The texts one after the other with `sep` between them. -/
def joinWith (sep : Text) (ts : List Text) : Text := List.intercalate sep ts

/-- The texts with `c` in front of the first one. -/
def consFirst (c : Char) : List Text → List Text
  | [] => [[c]]
  | p :: ps => (c :: p) :: ps

/-- The parts of a text between its occurrences of `sep`: one more than there are occurrences. -/
def cut (sep : Char) : Text → List Text
  | [] => [[]]
  | c :: r => if c = sep then [] :: cut sep r else consFirst c (cut sep r)

/-- Whether `a` comes before `b`, or is the same, in the order by code points. -/
def comesBefore : Text → Text → Bool
  | [], _ => true
  | _ :: _, [] => false
  | c :: r, d :: s => c.toNat < d.toNat || (c = d && comesBefore r s)

/-- Whether the code point `n` lies in one of the given closed ranges. -/
def inRanges (ranges : List (Nat × Nat)) (n : Nat) : Bool :=
  ranges.any fun (first, last) => first ≤ n && n ≤ last

@[simp] theorem trimRight_nil (p : Char → Bool) : trimRight p [] = [] := rfl

@[simp] theorem trim_nil (p : Char → Bool) : trim p [] = [] := rfl

theorem trimRight_append_singleton (p : Char → Bool) (t : Text) (c : Char) :
    trimRight p (t ++ [c]) = if p c then trimRight p t else t ++ [c] := by
  by_cases h : p c <;> simp [trimRight, h]

theorem length_dropWhile_le (p : Char → Bool) (t : Text) : (t.dropWhile p).length ≤ t.length := by
  induction t with
  | nil => simp
  | cons c r ih =>
    by_cases h : p c
    · simp only [List.dropWhile_cons, h, if_true, List.length_cons]
      omega
    · simp [h]

/-- A text that starts with `l` is `l` followed by the rest. -/
theorem isPrefixOf?_eq_some_iff {l t rest : Text} :
    l.isPrefixOf? t = some rest ↔ t = l ++ rest := by
  induction l generalizing t with
  | nil =>
    show some t = some rest ↔ t = [] ++ rest
    simp
  | cons a l ih =>
    cases t with
    | nil =>
      show none = some rest ↔ [] = a :: l ++ rest
      simp
    | cons b t =>
      show (if a == b then l.isPrefixOf? t else none) = some rest ↔ b :: t = a :: l ++ rest
      by_cases h : a = b
      · simp [h, ih]
      · simp [h, Ne.symm h]

theorem isPrefixOf?_eq_none_iff {l t : Text} : l.isPrefixOf? t = none ↔ ¬l <+: t := by
  rw [← Option.not_isSome_iff_eq_none, Option.isSome_iff_exists, not_congr]
  constructor
  · rintro ⟨rest, h⟩
    exact ⟨rest, (isPrefixOf?_eq_some_iff.1 h).symm⟩
  · rintro ⟨rest, h⟩
    exact ⟨rest, isPrefixOf?_eq_some_iff.2 h.symm⟩

theorem cut_ne_nil (sep : Char) (t : Text) : cut sep t ≠ [] := by
  cases t with
  | nil => simp [cut]
  | cons c r =>
    by_cases h : c = sep
    · simp [cut, h]
    · cases hp : cut sep r <;> simp [cut, h, hp, consFirst]

/-- Cutting loses nothing. -/
theorem joinWith_cut (sep : Char) (t : Text) : joinWith [sep] (cut sep t) = t := by
  induction t with
  | nil => rfl
  | cons c r ih =>
    cases hp : cut sep r with
    | nil => exact absurd hp (cut_ne_nil sep r)
    | cons p ps =>
      rw [hp] at ih
      by_cases h : c = sep
      · subst h
        simpa [cut, hp, joinWith, List.intercalate] using ih
      · cases ps <;> simpa [cut, h, hp, consFirst, joinWith, List.intercalate] using ih

theorem indexOf?_self_append (needle rest : Text) : indexOf? needle (needle ++ rest) = some 0 := by
  cases needle with
  | nil => cases rest <;> simp [indexOf?]
  | cons c r => simp [indexOf?]

end Text

end MermaidTidy

import MermaidTidy.Respacing.Brackets

/-!
# Normal spacing

Lines without structure of their own are brought into normal spacing: runs of white space are
shortened, then padded brackets and edge labels are trimmed.

* `collapseSpaces` keeps one of several spaces, and `collapseAfterColon` makes two or more
  white-space characters behind a colon one space;
* `trimEdgeLabels` trims the labels of edges: pipes pair up around them from left to right, and a
  label whose opening pipe is followed by a space is trimmed;
* `normalize` is all rules one after the other.
-/

namespace MermaidTidy.Respacing

/-- Of every run of spaces one is kept. -/
def collapseSpaces : Text → Text
  | [] => []
  | [c] => [c]
  | c :: d :: r =>
    if c = ' ' ∧ d = ' ' then collapseSpaces (d :: r) else c :: collapseSpaces (d :: r)

/-- Two or more white-space characters behind a colon become one space. -/
def collapseAfterColon : Text → Text
  | [] => []
  | c :: r =>
    if c = ':' ∧ 2 ≤ (r.takeWhile isSpace).length then
      ':' :: ' ' :: collapseAfterColon (r.dropWhile isSpace)
    else c :: collapseAfterColon r
termination_by t => t.length
decreasing_by
  · have := Text.length_dropWhile_le isSpace r
    simp only [List.length_cons]
    omega
  · simp

/-- The text before and after the first pipe. -/
def splitAtPipe : Text → Option (Text × Text)
  | [] => none
  | c :: r =>
    if c = '|' then some ([], r)
    else (splitAtPipe r).map fun (before, after) => (c :: before, after)

theorem length_of_splitAtPipe {t before after : Text} (h : splitAtPipe t = some (before, after)) :
    before.length + after.length + 1 = t.length := by
  induction t generalizing before after with
  | nil => simp [splitAtPipe] at h
  | cons c r ih =>
    unfold splitAtPipe at h
    split at h
    · cases h
      simp
    · obtain ⟨⟨b, a⟩, hb, he⟩ := Option.map_eq_some_iff.1 h
      cases he
      have := ih hb
      simp only [List.length_cons]
      omega

/-- A label without its padding. -/
def trimLabel (label : Text) : Text := if label.head? = some ' ' then Text.strip label else label

/-- The text with its padded edge labels trimmed. -/
def trimEdgeLabels (t : Text) : Text :=
  match h : splitAtPipe t with
  | none => t
  | some (before, r) =>
    match h' : splitAtPipe r with
    | none => t
    | some (label, rest) =>
      have := length_of_splitAtPipe h
      have := length_of_splitAtPipe h'
      before ++ '|' :: (trimLabel label ++ '|' :: trimEdgeLabels rest)
termination_by t.length
decreasing_by omega

/-- The text with the inside of all padded brackets trimmed. -/
def trimBrackets (t : Text) : Text := BracketPair.standard.foldl (fun s b => b.trim s) t

/-- The text in normal spacing. -/
def normalize (t : Text) : Text :=
  trimEdgeLabels (trimBrackets (collapseAfterColon (collapseSpaces t)))

end MermaidTidy.Respacing

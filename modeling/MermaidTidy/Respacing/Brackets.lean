import MermaidTidy.Text.Basic

/-!
# Padded brackets

A bracket that is followed by a space is padded. The inside of a padded bracket is trimmed up to the
matching closing bracket, where nesting counts. Brackets that are not padded, or not closed, stay as
they are.
-/

namespace MermaidTidy

/-- A pair of brackets. -/
structure BracketPair where
  opener : Char
  closer : Char
deriving DecidableEq, Repr

namespace BracketPair

/-- The three pairs of brackets that are tightened, in this order. -/
def standard : List BracketPair := [⟨'[', ']'⟩, ⟨'(', ')'⟩, ⟨'\x7b', '\x7d'⟩]

/-- The text up to the closer that brings the nesting count from `depth` to zero, and the text
behind that closer. An opener always counts as an opener. -/
def splitAtCloser (b : BracketPair) : Nat → Text → Option (Text × Text)
  | _, [] => none
  | depth, c :: r =>
    if c = b.opener then
      (splitAtCloser b (depth + 1) r).map fun (inner, rest) => (c :: inner, rest)
    else if c = b.closer then
      if depth ≤ 1 then some ([], r)
      else (splitAtCloser b (depth - 1) r).map fun (inner, rest) => (c :: inner, rest)
    else (splitAtCloser b depth r).map fun (inner, rest) => (c :: inner, rest)

theorem length_of_splitAtCloser {b : BracketPair} {depth : Nat} {t inner rest : Text}
    (h : b.splitAtCloser depth t = some (inner, rest)) :
    inner.length + rest.length + 1 = t.length := by
  induction t generalizing depth inner rest with
  | nil => simp [splitAtCloser] at h
  | cons c r ih =>
    have step : ∀ {depth' : Nat},
        (b.splitAtCloser depth' r).map (fun (p : Text × Text) => (c :: p.1, p.2)) =
          some (inner, rest) → inner.length + rest.length + 1 = (c :: r).length := by
      intro depth' h'
      obtain ⟨⟨i, s⟩, hi, he⟩ := Option.map_eq_some_iff.1 h'
      cases he
      have := ih hi
      simp only [List.length_cons]
      omega
    unfold splitAtCloser at h
    split at h
    · exact step h
    · split at h
      · split at h
        · cases h
          simp
        · exact step h
      · exact step h

/-- What a bracket holds, and what follows it, if the bracket is padded and closed. `r` is the text
behind the opener. -/
def padded? (b : BracketPair) (r : Text) : Option (Text × Text) :=
  if r.head? = some ' ' then b.splitAtCloser 1 r else none

theorem length_of_padded? {b : BracketPair} {r inner rest : Text}
    (h : b.padded? r = some (inner, rest)) : inner.length + rest.length + 1 = r.length := by
  unfold padded? at h
  split at h
  · exact length_of_splitAtCloser h
  · simp at h

/-- The text with the inside of its padded brackets trimmed, the inner ones first. -/
def trim (b : BracketPair) (t : Text) : Text :=
  match t with
  | [] => []
  | c :: r =>
    if c = b.opener then
      match h : b.padded? r with
      | some (inner, rest) =>
        have := length_of_padded? h
        b.opener :: (Text.strip (b.trim inner) ++ b.closer :: b.trim rest)
      | none => c :: b.trim r
    else c :: b.trim r
termination_by t.length
decreasing_by
  all_goals simp only [List.length_cons]; omega

/-- The pair of brackets that two texts name: each must be a single character. -/
def ofTexts? (opener closer : Text) : Option BracketPair :=
  match opener, closer with
  | [o], [c] => some ⟨o, c⟩
  | _, _ => none

/-- Trimming for brackets given as texts. Texts that name no brackets change nothing. -/
def trimNamed (opener closer t : Text) : Text :=
  match ofTexts? opener closer with
  | some b => b.trim t
  | none => t

end BracketPair

end MermaidTidy

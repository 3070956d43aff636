import Mathlib.Tactic
import MermaidTidy.Proofs.Format.Reread
import MermaidTidy.Proofs.Layout.Room

/-!
# Formatting where room may be short

Room matters for a source that is read without fault and laid out, and for no other.

* `formatInRoom_of_parse`: such a source has the text of its diagram, unless the diagram lacks room;
* `formatInRoom_eq_source_iff`: the faults of a source are the same with and without bounds;
* `format_of_formatInRoom`: where there is room, the formatted text is the same, too.
-/

namespace MermaidTidy

open Text Source

variable {memory : Nat} {settings : Settings} {t out : Text} {d : Diagram} {ss : List Statement}
variable {fault : RoomFault}

theorem formatInRoom_of_isPassedThrough (memory : Nat) (h : isPassedThrough settings t = .ok true) :
    formatInRoom memory settings t = .ok (serialize (splitLines t)) := by
  unfold formatInRoom
  rw [h]
  rfl

/-- A source that is laid out has the text of its diagram, unless that lacks room. -/
theorem formatInRoom_of_parse (memory : Nat) (h : isPassedThrough settings t = .ok false)
    (hd : parse settings.normalizeMessages t = .ok d) :
    formatInRoom memory settings t =
      (d.roomFault? memory settings).elim (.ok (d.format settings)) fun fault =>
        .error (.room fault) := by
  unfold formatInRoom
  rw [h, hd]
  show (d.formatInRoom memory settings).mapError FormatFault.room = _
  rw [d.formatInRoom_eq]
  cases d.roomFault? memory settings <;> rfl

/-- A source at fault needs no room. -/
theorem formatInRoom_eq_source_iff {f : Fault} :
    formatInRoom memory settings t = .error (.source f) ↔ format settings t = .error f := by
  rw [format_eq_error_iff]
  cases hpass : isPassedThrough settings t with
  | error g =>
    unfold formatInRoom
    rw [hpass]
    simp [Except.mapError, bind, Except.bind]
  | ok passed =>
    cases passed with
    | true => simp [formatInRoom_of_isPassedThrough memory hpass]
    | false =>
      cases hd : parse settings.normalizeMessages t with
      | error g =>
        unfold formatInRoom
        rw [hpass, hd]
        simp [Except.mapError, bind, Except.bind]
      | ok d =>
        rw [formatInRoom_of_parse memory hpass hd]
        cases d.roomFault? memory settings <;> simp

/-- Room does not change what a source is formatted to. -/
theorem format_of_formatInRoom (h : formatInRoom memory settings t = .ok out) :
    format settings t = .ok out := by
  rw [format_eq_ok_iff]
  cases hformat : format settings t with
  | error f =>
    rw [formatInRoom_eq_source_iff.2 hformat] at h
    cases h
  | ok u =>
    rcases format_eq_ok_iff.1 hformat with ⟨hpass, -⟩ | ⟨hpass, d, hd, -⟩
    · rw [formatInRoom_of_isPassedThrough memory hpass] at h
      cases h
      exact .inl ⟨hpass, rfl⟩
    · rw [formatInRoom_of_parse memory hpass hd] at h
      cases hroom : d.roomFault? memory settings with
      | some fault =>
        rw [hroom] at h
        cases h
      | none =>
        rw [hroom] at h
        cases h
        exact .inr ⟨hpass, d, hd, rfl⟩

/-- A source that is laid out has the text of its statements, unless they lack room. -/
theorem formatInRoom_of_read (memory : Nat) (h : isPassedThrough settings t = .ok false)
    (hread : Source.read settings.normalizeMessages t = ⟨ss, none⟩) :
    formatInRoom memory settings t = (Diagram.roomFault? memory settings ⟨ss⟩).elim
      (.ok (Diagram.format settings ⟨ss⟩)) fun fault => .error (.room fault) := by
  by_cases ht : t = []
  · -- the empty source has no statements, although its one line is read as blank
    subst ht
    have hss : ss = [.blank] := congrArg Reading.statements hread.symm
    rw [formatInRoom_of_parse memory h rfl, hss]
    rfl
  · refine formatInRoom_of_parse memory h ?_
    rw [parse, if_neg ht, hread]

theorem formatInRoom_of_room (h : isPassedThrough settings t = .ok false)
    (hread : Source.read settings.normalizeMessages t = ⟨ss, none⟩)
    (hroom : Diagram.roomFault? memory settings ⟨ss⟩ = none) :
    formatInRoom memory settings t = .ok (Diagram.format settings ⟨ss⟩) := by
  rw [formatInRoom_of_read memory h hread, hroom, Option.elim_none]

theorem formatInRoom_of_roomFault (h : isPassedThrough settings t = .ok false)
    (hread : Source.read settings.normalizeMessages t = ⟨ss, none⟩)
    (hroom : Diagram.roomFault? memory settings ⟨ss⟩ = some fault) :
    formatInRoom memory settings t = .error (.room fault) := by
  rw [formatInRoom_of_read memory h hread, hroom, Option.elim_some]

theorem formatInRoom_of_fault {f : Fault} (memory : Nat) (h : isPassedThrough settings t = .ok false)
    (hf : (Source.read settings.normalizeMessages t).fault = some f) :
    formatInRoom memory settings t = .error (.source f) := by
  rcases hread : Source.read settings.normalizeMessages t with ⟨ss, fault⟩
  rw [hread] at hf
  obtain rfl : fault = some f := hf
  exact formatInRoom_eq_source_iff.2 (format_of_fault h hread)

end MermaidTidy

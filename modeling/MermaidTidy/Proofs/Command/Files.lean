import Mathlib.Data.Set.Insert
import Mathlib.Tactic
import MermaidTidy.Command.Run
import MermaidTidy.Proofs.Files.Frame
import MermaidTidy.Proofs.Markdown.Faults

/-!
# Files that are written back

What becomes of a file is decided by what is read from it, and nothing but the file and the log
changes on the way.

* `World.AgreeOutside`: two worlds log to the same place, and their files agree outside some
  locations;
* `outcome` is what becomes of a file, by what is read from it, and `runFile_cases` says that a run
  over one file does just that;
* `runEach_cases`: over files at different places, a run does to each what it would do at the start;
* `isHandled_iff`: a file leads to no crash if it can be decoded, there is room for its text and it may
  be written if it changes, or if it cannot be read at all.
-/

namespace MermaidTidy

/-! ### Worlds -/

namespace World

/-- The location of the log file. -/
def logged (w : World) : Set Location := {l | w.logger.file = some l}

/-- If there is a log file, it can be written. -/
def IsLogReady (w : World) : Prop := ∀ l ∈ w.logged, ∃ bytes, w.files.entryAt? l = some (.file bytes)

/-- The worlds log to the same places, and their files agree outside `s`. -/
structure AgreeOutside (s : Set Location) (w v : World) : Prop where
  logger : w.logger = v.logger
  files : w.files.AgreeOutside s v.files

variable {s t : Set Location} {u v w : World}

namespace AgreeOutside

theorem refl (s : Set Location) (w : World) : AgreeOutside s w w := ⟨rfl, .refl s w.files⟩

theorem trans (h : AgreeOutside s u v) (h' : AgreeOutside s v w) : AgreeOutside s u w :=
  ⟨h.logger.trans h'.logger, h.files.trans h'.files⟩

theorem mono (h : AgreeOutside s v w) (hst : s ⊆ t) : AgreeOutside t v w :=
  ⟨h.logger, h.files.mono hst⟩

theorem logged (h : AgreeOutside s v w) : v.logged = w.logged := by
  unfold World.logged
  rw [h.logger]

theorem isLogReady (h : AgreeOutside s v w) (hv : v.IsLogReady) : w.IsLogReady := by
  intro l hl
  rw [← h.logged] at hl
  obtain ⟨bytes, hbytes⟩ := hv l hl
  exact h.files.exists_file hbytes

end AgreeOutside

/-- What logging a record can do. -/
theorem log_cases (w : World) (r : Log.Record) :
    (w.log r).logger = w.logger ∧ ((w.log r).files = w.files ∨
      ∃ l ∈ w.logged, ∃ bytes, (w.log r).files = w.files.append l bytes) := by
  unfold log
  by_cases hshows : w.logger.shows r = true
  · rw [if_pos hshows]
    dsimp only
    generalize hv : (if w.logger.console = true then w.writeError (r.line w.stamp) else w) = v
    -- showing the record on the error stream changes neither files nor logger
    obtain ⟨hlogger, hfiles⟩ : v.logger = w.logger ∧ v.files = w.files := by
      subst hv
      split_ifs
      · exact ⟨rfl, rfl⟩
      · exact ⟨rfl, rfl⟩
    rw [hlogger]
    cases hfile : w.logger.file with
    | none => exact ⟨hlogger, .inl hfiles⟩
    | some l =>
      refine ⟨rfl, .inr ⟨l, hfile, Text.encodeUtf8 (r.line w.stamp), ?_⟩⟩
      dsimp only
      rw [hfiles]
  · rw [if_neg hshows]
    exact ⟨rfl, .inl rfl⟩

/-- A record changes the log file only. -/
theorem agreeOutside_log (hw : w.IsLogReady) (r : Log.Record) : AgreeOutside w.logged w (w.log r) := by
  obtain ⟨hlogger, hfiles | ⟨l, hl, bytes, hfiles⟩⟩ := w.log_cases r
  · refine ⟨hlogger.symm, ?_⟩
    rw [hfiles]
    exact .refl _ w.files
  · obtain ⟨old, hold⟩ := hw l hl
    refine ⟨hlogger.symm, ?_⟩
    rw [hfiles]
    exact (FileTree.agreeOutside_append hold bytes).mono (Set.singleton_subset_iff.2 hl)

theorem agreeOutside_logAll (hw : w.IsLogReady) (rs : List Log.Record) :
    AgreeOutside w.logged w (w.logAll rs) := by
  induction rs generalizing w with
  | nil => exact .refl _ w
  | cons r rs ih =>
    have hlog := agreeOutside_log hw r
    have hrest := ih (hlog.isLogReady hw)
    rw [← hlog.logged] at hrest
    exact hlog.trans hrest

end World

namespace Command

open World

variable {s : Set Location} {memory : Nat} {o : Options} {settings : Settings} {w : World} {p : Path}

theorem agreeOutside_print (s : Set Location) (w : World) (t : Text) : AgreeOutside s w (print w t) :=
  ⟨rfl, .refl s w.files⟩

theorem agreeOutside_printDiagnostic (s : Set Location) (w : World) (source : Text) (d : Diagnostic) :
    AgreeOutside s w (printDiagnostic w source d) := by
  unfold printDiagnostic
  cases Diagnostic.present? d.context <;> cases Diagnostic.present? d.suggestion <;>
    exact ⟨rfl, .refl s w.files⟩

/-! ### One file -/

/-- The formatted text of a markdown document or of a diagram source. -/
def formatAs (memory : Nat) (settings : Settings) (markdown : Bool) (t : Text) :
    Except FormatFault Text :=
  if markdown then Markdown.formatInRoom memory settings t else formatInRoom memory settings t

theorem exists_formatText_eq (memory : Nat) (settings : Settings) (markdown : Bool) (t : Text)
    (w : World) :
    ∃ records, formatText memory settings markdown t w =
      (formatAs memory settings markdown t, w.logAll records) := by
  unfold formatText formatAs
  cases markdown with
  | false => exact ⟨_, rfl⟩
  | true => exact ⟨_, rfl⟩

/-- What becomes of a file, by what is read from it and what is permitted: the result, and the bytes that
are written if it changes. -/
def outcome (memory : Nat) (o : Options) (settings : Settings) (f : FileTree) (p : Path) :
    Except Crash (FileResult × Option (List UInt8)) :=
  match f.readText p with
  | .error (.file _) => .ok (.failed, none)
  | .error fault => .error (.read fault)
  | .ok text =>
    match formatAs memory settings (isMarkdown o p) text with
    | .error (.source (.diagnostic _)) => .ok (.failed, none)
    | .error fault => .error (crashOf fault)
    | .ok formatted =>
      if formatted = text then .ok (.unchanged, none)
      else if f.permits .write (f.absolute p) then .ok (.changed, some (Text.encodeUtf8 formatted))
      else .error (.write (f.fault p .notPermitted))

theorem exists_readBytes_of_readText {f : FileTree} {text : Text} (h : f.readText p = .ok text) :
    ∃ bytes, f.readBytes p = .ok bytes := by
  unfold FileTree.readText at h
  split_ifs at h
  cases hread : f.readBytes p with
  | error fault =>
    rw [hread] at h
    cases h
  | ok bytes => exact ⟨bytes, rfl⟩

theorem deliver_eq (hwrite : o.write = true) (hcheck : o.check = false) {text formatted : Text}
    (hne : formatted ≠ text) {old : List UInt8} (hold : w.files.readBytes p = .ok old)
    (hpermits : w.files.permits .write (w.files.absolute p) = true) :
    deliver o p text formatted w = (.ok .changed,
      log { w with files := w.files.put (w.files.absolute p) (.file (Text.encodeUtf8 formatted)) }
        ⟨Log.part "cli", .info, "Reformatted ".toList ++ w.files.pathText p⟩) := by
  unfold deliver
  dsimp only
  rw [hwrite, hcheck, if_neg hne, FileTree.write_of_readBytes hold, if_pos hpermits]
  rfl

/-- A file that may not be written ends the run. -/
theorem deliver_of_denied (hwrite : o.write = true) (hcheck : o.check = false) {text formatted : Text}
    (hne : formatted ≠ text) {old : List UInt8} (hold : w.files.readBytes p = .ok old)
    (hpermits : w.files.permits .write (w.files.absolute p) ≠ true) :
    deliver o p text formatted w = (.error (.write (w.files.fault p .notPermitted)), w) := by
  unfold deliver
  dsimp only
  rw [hwrite, hcheck, if_neg hne, FileTree.write_of_readBytes hold, if_neg hpermits]
  rfl

/-- Writing back changes the file and the log. -/
theorem deliver_of_ne (hwrite : o.write = true) (hcheck : o.check = false) (hw : w.IsLogReady)
    (hp : w.files.absolute p ∉ w.logged) {text formatted : Text} (hne : formatted ≠ text)
    (hread : w.files.readText p = .ok text)
    (hpermits : w.files.permits .write (w.files.absolute p) = true) :
    ∃ v, deliver o p text formatted w = (.ok .changed, v) ∧
      w.AgreeOutside (insert (w.files.absolute p) w.logged) v ∧
        v.files.bytesAt? (w.files.absolute p) = some (Text.encodeUtf8 formatted) := by
  obtain ⟨old, hold⟩ := exists_readBytes_of_readText hread
  have hfile := (FileTree.readBytes_eq_ok_iff.1 hold).2.1
  -- the file stays a file, so that the log is ready for the record about it
  have hwritten : w.AgreeOutside {w.files.absolute p}
      { w with files := w.files.put (w.files.absolute p) (.file (Text.encodeUtf8 formatted)) } :=
    ⟨rfl, FileTree.agreeOutside_put hfile _⟩
  have hlog := agreeOutside_log (hwritten.isLogReady hw)
    ⟨Log.part "cli", .info, "Reformatted ".toList ++ w.files.pathText p⟩
  rw [← hwritten.logged] at hlog
  refine ⟨_, deliver_eq hwrite hcheck hne hold hpermits, ?_, ?_⟩
  · exact (hwritten.mono (Set.singleton_subset_iff.2 (Set.mem_insert _ _))).trans
      (hlog.mono (Set.subset_insert _ _))
  · rw [← hlog.files.bytesAt? hp, FileTree.bytesAt?_put_self]

theorem deliver_of_eq (hwrite : o.write = true) (p : Path) (text : Text) (w : World) :
    deliver o p text text w = (.ok .unchanged, w) := by
  unfold deliver
  rw [hwrite, Bool.or_true, if_pos rfl, if_pos rfl]

/-- One file is dealt with as its outcome says: the run ends in a crash and leaves all but the log as it
was, or the file has the new bytes and all else but the log is as it was. -/
theorem runFile_cases (memory : Nat) (settings : Settings) (hwrite : o.write = true)
    (hcheck : o.check = false) (hw : w.IsLogReady) (hp : w.files.absolute p ∉ w.logged) :
    (∃ c v, outcome memory o settings w.files p = .error c ∧
      runFile memory o settings p w = (.error c, v) ∧ w.AgreeOutside w.logged v) ∨
    ∃ result new v, outcome memory o settings w.files p = .ok (result, new) ∧
      runFile memory o settings p w = (.ok result, v) ∧
      w.AgreeOutside (insert (w.files.absolute p) w.logged) v ∧
        v.files.bytesAt? (w.files.absolute p) = new.or (w.files.bytesAt? (w.files.absolute p)) := by
  have hinsert : w.logged ⊆ insert (w.files.absolute p) w.logged := Set.subset_insert _ _
  unfold runFile outcome
  cases hread : w.files.readText p with
  | error fault =>
    cases fault with
    | file fault => exact .inr ⟨.failed, none, _, rfl, rfl, agreeOutside_print _ w _, rfl⟩
    | nullInPath => exact .inl ⟨_, _, rfl, rfl, .refl _ w⟩
    | encoding fault => exact .inl ⟨_, _, rfl, rfl, .refl _ w⟩
  | ok text =>
    obtain ⟨records, hformat⟩ := exists_formatText_eq memory settings (isMarkdown o p) text w
    have hlog := agreeOutside_logAll hw records
    have hsame : (w.logAll records).files.bytesAt? (w.files.absolute p) =
        w.files.bytesAt? (w.files.absolute p) := (hlog.files.bytesAt? hp).symm
    dsimp only
    rw [hformat]
    cases hformatted : formatAs memory settings (isMarkdown o p) text with
    | error fault =>
      cases fault with
      | source fault =>
        cases fault with
        | diagnostic d =>
          have hprint := agreeOutside_printDiagnostic ∅ (w.logAll records) (w.files.pathText p) d
          exact .inr ⟨.failed, none, _, rfl, rfl,
            (hlog.mono hinsert).trans (hprint.mono (Set.empty_subset _)),
            (hprint.files.bytesAt? (Set.notMem_empty _)).symm.trans hsame⟩
        | _ => exact .inl ⟨_, _, rfl, rfl, hlog⟩
      | room fault => exact .inl ⟨_, _, rfl, rfl, hlog⟩
    | ok formatted =>
      dsimp only
      by_cases hne : formatted = text
      · rw [hne, if_pos rfl, deliver_of_eq hwrite]
        exact .inr ⟨.unchanged, none, _, rfl, rfl, hlog.mono hinsert, hsame⟩
      rw [if_neg hne]
      -- the file is written when the records have been logged, which permits what was permitted
      have hpath := hlog.files.absolute p
      have hpermits := hlog.files.permits .write (w.files.absolute p)
      rw [hlog.files.readText_eq hp] at hread
      by_cases hwritable : w.files.permits .write (w.files.absolute p) = true
      · rw [hpath, hlog.logged] at hp
        rw [if_pos hwritable]
        rw [hpermits, hpath] at hwritable
        obtain ⟨v, hdeliver, hv, hbytes⟩ :=
          deliver_of_ne hwrite hcheck (hlog.isLogReady hw) hp hne hread hwritable
        rw [← hpath, ← hlog.logged] at hv
        rw [← hpath] at hbytes
        rw [hdeliver]
        exact .inr ⟨.changed, some _, v, rfl, rfl, (hlog.mono hinsert).trans hv, hbytes⟩
      · obtain ⟨old, hold⟩ := exists_readBytes_of_readText hread
        rw [if_neg hwritable]
        rw [hpermits, hpath] at hwritable
        rw [deliver_of_denied hwrite hcheck hne hold hwritable, FileTree.fault, FileTree.fault,
          hlog.files.pathText]
        exact .inl ⟨_, _, rfl, rfl, hlog⟩

/-! ### Files one after the other -/

/-- Over files at different places, a run does to each what it would do at the start, and changes
nothing else but the log. -/
theorem runEach_cases (memory : Nat) (settings : Settings) {w₀ : World} {ps : List Path}
    (hwrite : o.write = true) (hcheck : o.check = false) (h₀ : w₀.IsLogReady) (hlog : w₀.logged ⊆ s)
    (h : w₀.AgreeOutside s w) (hps : ∀ p ∈ ps, w₀.files.absolute p ∉ s)
    (hnodup : (ps.map w₀.files.absolute).Nodup) :
    (∃ p ∈ ps, ∃ c, outcome memory o settings w₀.files p = .error c ∧
      (runEach memory o settings ps w).1 = .error c) ∨
    ∃ results v, runEach memory o settings ps w = (.ok results, v) ∧
      (.failed ∈ results ↔ ∃ p ∈ ps, ∃ new, outcome memory o settings w₀.files p = .ok (.failed, new)) ∧
      w.AgreeOutside {l | l ∈ w₀.logged ∨ ∃ p ∈ ps, w₀.files.absolute p = l} v ∧
      ∀ p ∈ ps, ∃ result new, outcome memory o settings w₀.files p = .ok (result, new) ∧
        v.files.bytesAt? (w₀.files.absolute p) = new.or (w₀.files.bytesAt? (w₀.files.absolute p)) := by
  induction ps generalizing w s with
  | nil => exact .inr ⟨[], w, rfl, by simp, .refl _ w, fun p hp => by cases hp⟩
  | cons p ps ih =>
    obtain ⟨hfresh, hnodup⟩ := List.nodup_cons.1 hnodup
    have hp : w₀.files.absolute p ∉ s := hps p List.mem_cons_self
    have houtcome : outcome memory o settings w.files p = outcome memory o settings w₀.files p := by
      unfold outcome FileTree.fault
      rw [h.files.readText_eq hp, h.files.permits, h.files.absolute, h.files.pathText]
    have hplace : w.files.absolute p = w₀.files.absolute p := (h.files.absolute p).symm
    have hout : w.files.absolute p ∉ w.logged := by
      rw [hplace, ← h.logged]
      exact fun hmem => hp (hlog hmem)
    rw [runEach]
    rcases runFile_cases memory settings hwrite hcheck (h.isLogReady h₀) hout with
      ⟨c, v, hc, hrun, -⟩ | ⟨result, new, w₁, hresult, hrun, hw₁, hbytes⟩
    · rw [hrun]
      exact .inl ⟨p, List.mem_cons_self, c, houtcome ▸ hc, rfl⟩
    · rw [hrun]
      dsimp only
      rw [houtcome] at hresult
      rw [hplace, ← h.logged] at hw₁
      rw [hplace, ← h.files.bytesAt? hp] at hbytes
      -- the rest runs in a world that agrees with the start outside of one more place
      have hagree : w₀.AgreeOutside (insert (w₀.files.absolute p) s) w₁ :=
        (h.mono (Set.subset_insert _ s)).trans (hw₁.mono (Set.insert_subset_insert hlog))
      have hrest : ∀ q ∈ ps, w₀.files.absolute q ∉ insert (w₀.files.absolute p) s := by
        intro q hq
        rw [Set.mem_insert_iff, not_or]
        refine ⟨fun heq => hfresh ?_, hps q (List.mem_cons_of_mem p hq)⟩
        rw [← heq]
        exact List.mem_map_of_mem hq
      rcases ih (hlog.trans (Set.subset_insert _ s)) hagree hrest hnodup with
        ⟨q, hq, c, hc, hrun'⟩ | ⟨results, v, hrun', hfailed, hv, hbytes'⟩
      · refine .inl ⟨q, List.mem_cons_of_mem p hq, c, hc, ?_⟩
        rw [hrun']
        rfl
      · refine .inr ⟨result :: results, v, ?_, ?_, ?_, ?_⟩
        · rw [hrun']
          rfl
        · rw [List.mem_cons, hfailed, List.exists_mem_cons_iff, hresult]
          refine or_congr_left ⟨?_, ?_⟩
          · rintro rfl
            exact ⟨new, rfl⟩
          · rintro ⟨new', heq⟩
            cases heq
            rfl
        · refine (hw₁.mono ?_).trans (hv.mono ?_)
          · rintro l (rfl | hl)
            · exact .inr ⟨p, List.mem_cons_self, rfl⟩
            · exact .inl hl
          · rintro l (hl | ⟨q, hq, rfl⟩)
            · exact .inl hl
            · exact .inr ⟨q, List.mem_cons_of_mem p hq, rfl⟩
        · intro q hq
          rcases List.mem_cons.1 hq with rfl | hq
          · refine ⟨result, new, hresult, ?_⟩
            rw [← hbytes]
            refine (hv.files.bytesAt? ?_).symm
            rintro (hl | ⟨q', hq', heq⟩)
            · exact hp (hlog hl)
            · exact hfresh (heq ▸ List.mem_map_of_mem hq')
          · exact hbytes' q hq

/-! ### Crashes -/

/-- A fault in a document is a report about a line. -/
theorem exists_diagnostic_of_markdown {t : Text} {f : Fault}
    (h : Markdown.formatInRoom memory settings t = .error (.source f)) : ∃ d, f = .diagnostic d := by
  obtain ⟨b, -, hb⟩ := List.exists_of_findSome?_eq_some (Markdown.formatInRoom_eq_error_iff.1 h)
  obtain ⟨g, hg, hf⟩ := Markdown.CodeBlock.fault?_eq_some_iff.1 hb
  cases g with
  | room fault => cases hf
  | source g =>
    obtain ⟨d, rfl⟩ := exists_diagnostic_of_format (formatInRoom_eq_source_iff.1 hg)
    exact ⟨d.shift b.startLine, FormatFault.source.inj hf⟩

theorem exists_diagnostic_of_formatAs {markdown : Bool} {t : Text} {f : Fault}
    (h : formatAs memory settings markdown t = .error (.source f)) : ∃ d, f = .diagnostic d := by
  unfold formatAs at h
  split_ifs at h
  · exact exists_diagnostic_of_markdown h
  · exact exists_diagnostic_of_format (formatInRoom_eq_source_iff.1 h)

/-- A file that leads to no crash: its path has no null character, and if it can be read, its bytes
can be decoded, there is room for its formatted text, and if this differs the file may be written. -/
def IsHandled (memory : Nat) (o : Options) (settings : Settings) (f : FileTree) (p : Path) : Prop :=
  p.hasNull = false ∧ ∀ bytes, f.readBytes p = .ok bytes →
    ∃ t, textOfBytes bytes = .ok t ∧
      (∀ fault, formatAs memory settings (isMarkdown o p) t ≠ .error (.room fault)) ∧
      ∀ formatted, formatAs memory settings (isMarkdown o p) t = .ok formatted → formatted ≠ t →
        f.permits .write (f.absolute p) = true

theorem isHandled_iff {f : FileTree} :
    IsHandled memory o settings f p ↔
      ∃ result new, outcome memory o settings f p = .ok (result, new) := by
  unfold IsHandled outcome FileTree.readText
  by_cases hnull : p.hasNull = true
  · rw [if_pos hnull]
    simp [hnull]
  · rw [if_neg hnull]
    simp only [Bool.not_eq_true] at hnull
    cases f.readBytes p with
    | error fault => simp [hnull]
    | ok bytes =>
      cases htext : textOfBytes bytes with
      | error fault => simp [htext]
      | ok t =>
        simp only [hnull, htext, Except.ok.injEq, true_and, forall_eq', exists_eq_left']
        cases hformat : formatAs memory settings (isMarkdown o p) t with
        | ok formatted =>
          by_cases heq : formatted = t
          · simp [heq]
          · by_cases hwritable : f.permits .write (f.absolute p) = true <;> simp [heq, hwritable]
        | error fault =>
          cases fault with
          | room fault => simp
          | source fault =>
            obtain ⟨d, rfl⟩ := exists_diagnostic_of_formatAs hformat
            simp

end Command

end MermaidTidy

import Mathlib.Tactic
import MermaidTidy.Proofs.Command.Independence
import MermaidTidy.Proofs.Format.Characters
import MermaidTidy.Proofs.Text.Utf8

/-!
# What becomes of a file that is written back or checked

A file is compared with its formatted text after its line ends have been unified. So a file with
carriage returns whose text is formatted otherwise is left as it is, and a check finds nothing to do.

* `delivering` are the options of a run that writes one file back or checks it, and `run_delivering`
  says which arguments ask for it;
* `run_eq_of_formatted`: how such a run ends and which bytes it leaves;
* `bytes_eq_iff`: when a file has the bytes of its formatted text;
* `run_write_check_iff`: when writing back gives these bytes and a check looks for them.
-/

namespace MermaidTidy.Command

open World

variable {around : Surroundings} {memory : Nat} {w : World} {settings : Settings} {f : FileTree}
variable {p : Path} {a text formatted : Text} {bytes : List UInt8}

/-! ### Arguments -/

/-- The options of a run that writes a file back or, where `check` is set, checks it. -/
def delivering (check markdown : Bool) (p : Path) : Options :=
  { files := [p], write := !check, check, markdown }

theorem isPlain_delivering (check markdown : Bool) (p : Path) : (delivering check markdown p).IsPlain :=
  ⟨rfl, rfl, rfl⟩

/-- The switches of such a run. -/
def deliverySwitches (check markdown : Bool) : List Text :=
  (if check then "--check".toList else "--write".toList) ::
    if markdown then ["--markdown".toList] else []

theorem run_delivering (h : a ≠ Argument.twoDashes ∧ Argument.ofText a = .ok (.operand a))
    (check markdown : Bool) (around : Surroundings) (w : World) :
    run around (deliverySwitches check markdown ++ [a]) w =
      runOptions around (delivering check markdown (.ofText a)) w := by
  have hoperand : Argument.ofTexts [a] = .ok [.operand a] := ofTexts_eq (by simpa using h)
  have hrest : Argument.ofTexts ((if markdown then ["--markdown".toList] else []) ++ [a]) =
      .ok ((if markdown then [.long .markdown none] else []) ++ [.operand a]) := by
    cases markdown with
    | false => exact hoperand
    | true => exact ofTexts_switch (by decide) (by decide) hoperand
  have hlooks : Argument.ofTexts (deliverySwitches check markdown ++ [a]) =
      .ok (.long (if check then .check else .write) none ::
        ((if markdown then [.long .markdown none] else []) ++ [.operand a])) := by
    cases check with
    | false => exact ofTexts_switch (by decide) (by decide) hrest
    | true => exact ofTexts_switch (by decide) (by decide) hrest
  have hrequest : Request.ofArguments (deliverySwitches check markdown ++ [a]) =
      .ok (.run (delivering check markdown (.ofText a))) := by
    unfold Request.ofArguments
    rw [hlooks]
    cases check <;> cases markdown <;> rfl
  unfold run
  rw [hrequest]

/-! ### One file -/

theorem outcome_of_formatted {o : Options} (hread : f.readText p = .ok text)
    (hformat : formatAs memory settings (isMarkdown o p) text = .ok formatted) :
    outcome memory o settings f p = if formatted = text then .ok (.unchanged, none)
      else if f.permits .write (f.absolute p) then .ok (.changed, some (Text.encodeUtf8 formatted))
      else .error (.write (f.fault p .notPermitted)) := by
  unfold outcome
  rw [hread]
  dsimp only
  rw [hformat]

/-- A check leaves the files as they are. -/
theorem deliver_of_check {o : Options} (hcheck : o.check = true) (p : Path) (text formatted : Text)
    (w : World) :
    ∃ v, deliver o p text formatted w = (.ok (if formatted = text then .unchanged else .changed), v) ∧
      v.files = w.files := by
  unfold deliver
  dsimp only
  rw [hcheck, Bool.true_or, if_pos rfl]
  by_cases heq : formatted = text
  · rw [if_pos heq, if_pos heq]
    exact ⟨w, rfl, rfl⟩
  · rw [if_neg heq, if_neg heq, if_pos rfl]
    exact ⟨_, rfl, rfl⟩

/-- What becomes of a file whose text is formatted. If it would change and may not be written, writing
it back leads to a crash. -/
theorem runFile_of_formatted (check markdown : Bool) (hw : w.IsLogReady)
    (hp : w.files.absolute p ∉ w.logged) (hread : w.files.readText p = .ok text)
    (hformat : formatAs memory settings (isMarkdown (delivering check markdown p) p) text =
      .ok formatted) :
    ∃ v, runFile memory (delivering check markdown p) settings p w =
        (if formatted = text then .ok .unchanged
          else if check = true ∨ w.files.permits .write (w.files.absolute p) = true then .ok .changed
          else .error (.write (w.files.fault p .notPermitted)), v) ∧
      v.files.bytesAt? (w.files.absolute p) =
        if formatted = text ∨ check = true ∨ ¬w.files.permits .write (w.files.absolute p) = true then
          w.files.bytesAt? (w.files.absolute p)
        else some (Text.encodeUtf8 formatted) := by
  cases check with
  | false =>
    have houtcome := outcome_of_formatted hread hformat
    rcases runFile_cases (o := delivering false markdown p) memory settings rfl rfl hw hp with
      ⟨c, v, hc, hrun, hagree⟩ | ⟨result, new, v, hresult, hrun, -, hbytes⟩
    · -- only a file that would change and may not be written leads to a crash
      rw [houtcome] at hc
      split_ifs at hc with heq hwritable
      cases hc
      refine ⟨v, ?_, ?_⟩
      · rw [hrun, if_neg heq, if_neg (by simpa using hwritable)]
      · rw [if_pos (.inr (.inr hwritable))]
        exact (hagree.files.bytesAt? hp).symm
    · rw [houtcome] at hresult
      refine ⟨v, ?_⟩
      rw [hrun, hbytes]
      split_ifs at hresult with heq hwritable
      · cases hresult
        simp [heq]
      · cases hresult
        simp [heq, hwritable]
  | true =>
    obtain ⟨records, hlog⟩ :=
      exists_formatText_eq memory settings (isMarkdown (delivering true markdown p) p) text w
    obtain ⟨v, hv, hfiles⟩ := deliver_of_check (o := delivering true markdown p) rfl p text formatted
      (w.logAll records)
    refine ⟨v, ?_, ?_⟩
    · unfold runFile
      dsimp only
      rw [hread]
      dsimp only
      rw [hlog, hformat, if_pos (.inl rfl : true = true ∨ _), ← apply_ite Except.ok]
      exact hv
    · rw [hfiles, if_pos (.inr (.inl rfl))]
      exact ((agreeOutside_logAll hw records).files.bytesAt? hp).symm

theorem runFiles_of_file {o : Options} (hfiles : o.files = [p]) (hverbose : o.verbose = false)
    {result : FileResult} {v : World} (h : runFile memory o settings p w = (.ok result, v)) :
    runFiles memory o settings w =
      (.code (if result = .failed ∨ o.check = true ∧ result = .changed then 1 else 0), v) := by
  have heach : runEach memory o settings [p] w = (.ok [result], v) := by
    rw [runEach, h]
    rfl
  unfold runFiles
  rw [hfiles, heach]
  cases result <;> cases o.check <;> simp [hverbose, success, failure]

theorem runFiles_of_crash {o : Options} (hfiles : o.files = [p]) {c : Crash} {v : World}
    (h : runFile memory o settings p w = (.error c, v)) :
    runFiles memory o settings w = (.crash c, v) := by
  unfold runFiles
  rw [hfiles, runEach, h]

/-! ### A whole run -/

theorem readText_of_readBytes {u : Text} (hnull : p.hasNull = false) (hbytes : f.readBytes p = .ok bytes)
    (hutf8 : Text.decodeUtf8 bytes = .ok u) : f.readText p = .ok (Text.universalNewlines u) := by
  have htext : textOfBytes bytes = .ok (Text.universalNewlines u) := by
    unfold textOfBytes
    rw [hutf8]
    rfl
  unfold FileTree.readText
  rw [hnull, if_neg (by decide), hbytes]
  dsimp only
  rw [htext]

/-- How a run over one file ends whose text is formatted, and which bytes it leaves. -/
theorem run_eq_of_formatted {u : Text} (around : Surroundings) (f : FileTree) (stamp : Text)
    (check markdown : Bool)
    (hoperand : a ≠ Argument.twoDashes ∧ Argument.ofText a = .ok (.operand a))
    (hnull : (Path.ofText a).hasNull = false) (hbytes : f.readBytes (.ofText a) = .ok bytes)
    (hutf8 : Text.decodeUtf8 bytes = .ok u)
    (hsettings : (loaded around { files := f, stamp := stamp }).1 = .ok settings)
    (hformat : formatAs around.memory settings (isMarkdown { markdown } (.ofText a))
      (Text.universalNewlines u) = .ok formatted)
    (hlog : logPlace? around f ≠ some (f.absolute (.ofText a))) :
    ∃ v, run around (deliverySwitches check markdown ++ [a]) { files := f, stamp := stamp } =
        (if formatted = Text.universalNewlines u then .code 0
          else if check = true then .code 1
          else if f.permits .write (f.absolute (.ofText a)) = true then .code 0
          else .crash (.write (f.fault (.ofText a) .notPermitted)), v) ∧
      v.files.bytesAt? (f.absolute (.ofText a)) =
        some (if formatted = Text.universalNewlines u ∨ check = true ∨
            ¬f.permits .write (f.absolute (.ofText a)) = true then bytes
          else Text.encodeUtf8 formatted) := by
  obtain ⟨hready, hlogged, hkeeps, hsame⟩ := ready_spec around f stamp
  have hread := hkeeps.readBytes (hsame _ hlog) hbytes
  have hplace : (ready around { files := f, stamp := stamp }).files.absolute (.ofText a) ∉
      (ready around { files := f, stamp := stamp }).logged := by
    rw [← hkeeps.absolute]
    exact fun hmem => hlog (hlogged hmem)
  have hfault : (ready around { files := f, stamp := stamp }).files.fault (.ofText a) .notPermitted =
      f.fault (.ofText a) .notPermitted := by
    unfold FileTree.fault FileTree.pathText
    rw [hkeeps.homeName]
  obtain ⟨v, hrun, hv⟩ := runFile_of_formatted check markdown hready hplace
    (readText_of_readBytes hnull hread hutf8) hformat
  rw [FileTree.bytesAt?_eq_some_iff.2 (FileTree.readBytes_eq_ok_iff.1 hread).2.1] at hv
  rw [← FileTree.permits_congr hkeeps.denied, ← hkeeps.absolute] at hrun hv
  rw [hfault] at hrun
  refine ⟨v, ?_, by rw [hv, apply_ite some]⟩
  rw [run_delivering hoperand, runOptions_of_settings (isPlain_delivering check markdown _) hsettings
    (List.cons_ne_nil _ _)]
  by_cases heq : formatted = Text.universalNewlines u
  · rw [if_pos heq] at hrun
    rw [runFiles_of_file rfl rfl hrun, if_pos heq]
    simp
  · rw [if_neg heq] at hrun
    rw [if_neg heq]
    cases check with
    | true =>
      rw [if_pos (.inl rfl)] at hrun
      exact runFiles_of_file rfl rfl hrun
    | false =>
      by_cases hwritable : f.permits .write (f.absolute (.ofText a)) = true
      · rw [if_pos (.inr hwritable)] at hrun
        rw [runFiles_of_file rfl rfl hrun, if_pos hwritable]
        rfl
      · rw [if_neg (by simpa using hwritable)] at hrun
        rw [runFiles_of_crash rfl hrun, if_neg hwritable]
        rfl

/-! ### The bytes of the formatted text -/

/-- A file has the bytes of a text without carriage returns if the text is the one that is read and
the file has none either. -/
theorem bytes_eq_iff {u : Text} (hutf8 : Text.decodeUtf8 bytes = .ok u) (hformatted : '\r' ∉ formatted) :
    bytes = Text.encodeUtf8 formatted ↔ formatted = Text.universalNewlines u ∧ '\r' ∉ u := by
  rw [← Text.encodeUtf8_of_decodeUtf8 hutf8, Text.encodeUtf8_injective.eq_iff]
  constructor
  · rintro rfl
    exact ⟨(Text.universalNewlines_eq_self hformatted).symm, hformatted⟩
  · rintro ⟨heq, hu⟩
    rw [heq, Text.universalNewlines_eq_self hu]

theorem not_mem_formatAs {c : Char} {markdown : Bool} (hc : c ∉ broughtIn) (ht : c ∉ text)
    (h : formatAs memory settings markdown text = .ok formatted) : c ∉ formatted := by
  unfold formatAs at h
  split_ifs at h
  · exact Markdown.not_mem_format hc ht (Markdown.format_of_formatInRoom h).1
  · exact not_mem_format hc ht (format_of_formatInRoom h)

/-- When writing a file back and checking it keep to the bytes of its formatted text. Let the operand
name a file, other than the log file, whose bytes are UTF-8 and whose text can be formatted. Then a check
ends with 0 or 1, and writing the file back succeeds just if the text that was read is formatted already
or the file may be written; otherwise it ends in a crash and the file stays as it is. After a success the
file has the bytes of its formatted text, and the check has ended with 0 just if it had them before,
unless the text that was read is formatted already and the file has carriage returns: then it keeps its
bytes, and the check ends with 0. -/
theorem run_write_check_iff (around : Surroundings) (f : FileTree) (stamp : Text) (markdown : Bool)
    (a : Text) (bytes : List UInt8) (u : Text) (settings : Settings) (formatted : Text)
    (hoperand : a ≠ Argument.twoDashes ∧ Argument.ofText a = .ok (.operand a))
    (hnull : (Path.ofText a).hasNull = false) (hbytes : f.readBytes (.ofText a) = .ok bytes)
    (hutf8 : Text.decodeUtf8 bytes = .ok u)
    (hsettings : (loaded around { files := f, stamp := stamp }).1 = .ok settings)
    (hformat : formatAs around.memory settings (isMarkdown { markdown } (.ofText a))
      (Text.universalNewlines u) = .ok formatted)
    (hlog : logPlace? around f ≠ some (f.absolute (.ofText a))) :
    let start : World := { files := f, stamp := stamp }
    let switches : List Text := if markdown then ["--markdown".toList] else []
    let written := run around ("--write".toList :: (switches ++ [a])) start
    let checked := run around ("--check".toList :: (switches ++ [a])) start
    let place := f.absolute (.ofText a)
    let asRead := formatted = Text.universalNewlines u
    '\r' ∉ formatted ∧ (checked.1 = .code 0 ∨ checked.1 = .code 1) ∧
    checked.2.files.bytesAt? place = some bytes ∧
    ((checked.1 = .code 0 ↔ bytes = Text.encodeUtf8 formatted) ↔ (asRead → '\r' ∉ u)) ∧
    (written.1 = .code 0 ↔ asRead ∨ f.permits .write place = true) ∧
    (written.1 = .code 0 →
      (written.2.files.bytesAt? place = some (Text.encodeUtf8 formatted) ↔ (asRead → '\r' ∉ u))) ∧
    (written.1 ≠ .code 0 → written.1 = .crash (.write (f.fault (.ofText a) .notPermitted)) ∧
      written.2.files.bytesAt? place = some bytes) ∧
    (asRead → checked.1 = .code 0 ∧ written.2.files.bytesAt? place = some bytes) := by
  intro start switches written checked place asRead
  have hreturn : '\r' ∉ formatted :=
    not_mem_formatAs (by decide) (Text.carriageReturn_not_mem_universalNewlines u) hformat
  have hencoded := bytes_eq_iff hutf8 hreturn
  have hends (check : Bool) := run_eq_of_formatted around f stamp check markdown hoperand hnull hbytes
    hutf8 hsettings hformat hlog
  obtain ⟨v', hchecked, hkept⟩ := hends true
  obtain ⟨v, hwritten, hleft⟩ := hends false
  replace hchecked : checked = _ := hchecked
  replace hwritten : written = _ := hwritten
  rw [if_pos (.inr (.inl rfl))] at hkept
  rw [hchecked, hwritten, hencoded]
  by_cases heq : asRead
  · -- nothing is written, whatever the line ends are
    rw [if_pos (.inl heq)] at hleft
    rw [if_pos heq, if_pos heq, hleft, Option.some.injEq, hencoded]
    refine ⟨hreturn, .inl rfl, hkept, ?_, iff_of_true rfl (.inl heq), fun _ => ?_,
      fun h => absurd rfl h, fun _ => ⟨rfl, rfl⟩⟩
    · exact ⟨fun h _ => (h.1 rfl).2, fun h => iff_of_true rfl ⟨heq, h heq⟩⟩
    · exact ⟨fun h _ => h.2, fun h => ⟨heq, h heq⟩⟩
  · -- the check finds that the file would change, and it does if it may be written
    rw [if_neg heq, if_neg heq, if_pos rfl, if_neg Bool.false_ne_true]
    refine ⟨hreturn, .inr rfl, hkept, ?_, ?_, fun hcode => ?_, fun hcode => ?_, fun h => absurd h heq⟩
    · exact iff_of_true (iff_of_false (by simp) fun h => heq h.1) fun h => absurd h heq
    · rw [or_iff_right heq]
      split_ifs with hwritable
      · exact iff_of_true rfl hwritable
      · exact iff_of_false nofun hwritable
    · split_ifs at hcode with hwritable
      have hneg : ¬(asRead ∨ false = true ∨ ¬f.permits .write place = true) := by
        rintro (h | h | h)
        exacts [heq h, Bool.false_ne_true h, h hwritable]
      rw [hleft, if_neg hneg]
      exact iff_of_true rfl fun h => absurd h heq
    · split_ifs at hcode ⊢ with hwritable
      · exact absurd rfl hcode
      · rw [hleft, if_pos (.inr (.inr hwritable))]
        exact ⟨rfl, rfl⟩

/-- A document with carriage returns that is not formatted, under a name that does not tell markdown;
the log goes to a directory that is made for it. -/
theorem run_write_check_iff_markdown :
    let around : Surroundings :=
      { environment := [("MERMAID_FMT_LOG_FILE".toList, "logs/a.log".toList)] }
    let a := "d/notes.txt".toList
    let source := "```mermaid\r\ngraph TD\r\nA[é]\r\n```\r\n".toList
    let formatted := "```mermaid\ngraph TD\n    A[é]\n```\n".toList
    let f : FileTree :=
      { homeName := "/w".toList
        entries := [(["d".toList, "notes.txt".toList], .file (Text.encodeUtf8 source))] }
    let start : World := { files := f, stamp := [] }
    let written := run around ["--write".toList, "--markdown".toList, a] start
    let checked := run around ["--check".toList, "--markdown".toList, a] start
    (a ≠ Argument.twoDashes ∧ Argument.ofText a = .ok (.operand a)) ∧
    (Path.ofText a).hasNull = false ∧ f.readBytes (.ofText a) = .ok (Text.encodeUtf8 source) ∧
    Text.decodeUtf8 (Text.encodeUtf8 source) = .ok source ∧
    (loaded around start).1 = .ok {} ∧
    formatAs around.memory {} (isMarkdown { markdown := true } (.ofText a))
      (Text.universalNewlines source) = .ok formatted ∧
    logPlace? around f ≠ some (f.absolute (.ofText a)) ∧ written.1 = .code 0 ∧
    written.2.files.bytesAt? (f.absolute (.ofText a)) = some (Text.encodeUtf8 formatted) ∧
    (checked.1 = .code 0 ↔ Text.encodeUtf8 source = Text.encodeUtf8 formatted) := by
  intro around a source formatted f start written checked
  have hoperand : a ≠ Argument.twoDashes ∧ Argument.ofText a = .ok (.operand a) := by decide +kernel
  have hnull : (Path.ofText a).hasNull = false := by decide +kernel
  have hbytes : f.readBytes (.ofText a) = .ok (Text.encodeUtf8 source) := by decide +kernel
  have hutf8 : Text.decodeUtf8 (Text.encodeUtf8 source) = .ok source := by decide +kernel
  have hsettings : (loaded around start).1 = .ok {} := by
    have hsome : (loaded around start).1.toOption = some {} := by decide +kernel
    generalize (loaded around start).1 = r at hsome
    cases r with
    | error fault => cases hsome
    | ok settings => exact congrArg Except.ok (Option.some.inj hsome)
  have hformat : formatAs around.memory {} (isMarkdown { markdown := true } (.ofText a))
      (Text.universalNewlines source) = .ok formatted := by decide +kernel
  have hlog : logPlace? around f ≠ some (f.absolute (.ofText a)) := by decide +kernel
  have hchanged : formatted ≠ Text.universalNewlines source := by decide +kernel
  have hwritable : f.permits .write (f.absolute (.ofText a)) = true := by decide +kernel
  obtain ⟨-, -, -, hchecked, hsuccess, hwritten, -⟩ := run_write_check_iff around f [] true a
    (Text.encodeUtf8 source) source {} formatted hoperand hnull hbytes hutf8 hsettings hformat hlog
  have hcode := hsuccess.2 (.inr hwritable)
  have hnew := (hwritten hcode).2 fun h => absurd h hchanged
  have hcheck := hchecked.2 fun h => absurd h hchanged
  -- The runs are brought to one form on both sides, or comparing them evaluates them.
  rw [if_pos rfl, List.singleton_append] at hcode hnew hcheck
  unfold written checked start
  exact ⟨hoperand, hnull, hbytes, hutf8, hsettings, hformat, hlog, hcode, hnew, hcheck⟩

/-- A formatted file with carriage returns keeps them, and a check finds nothing to do. A file that is
the log file at the same time gets the records of the run. -/
theorem run_write_keeps_carriageReturns :
    let text := "flowchart TD\n    A-->B\n".toList
    let bytes := Text.encodeUtf8 "flowchart TD\r\n    A-->B\r\n".toList
    let f : FileTree := { homeName := "/w".toList, entries := [(["a.mmd".toList], .file bytes)] }
    let written := run {} ["--write".toList, "a.mmd".toList] { files := f, stamp := [] }
    let checked := run {} ["--check".toList, "a.mmd".toList] { files := f, stamp := [] }
    let unclosed := "```\n".toList
    let g : FileTree :=
      { homeName := "/w".toList, entries := [(["a.md".toList], .file (Text.encodeUtf8 unclosed))] }
    let logged := run { environment := [("MERMAID_FMT_LOG_FILE".toList, "a.md".toList)] }
      ["--write".toList, "a.md".toList] { files := g, stamp := [] }
    (formatAs maxLength {} false text = .ok text ∧ written.1 = .code 0 ∧ checked.1 = .code 0 ∧
      written.2.files.bytesAt? ["a.mmd".toList] = some bytes ∧ bytes ≠ Text.encodeUtf8 text) ∧
    formatAs maxLength {} true unclosed = .ok unclosed ∧ logged.1 = .code 0 ∧
      logged.2.files.bytesAt? ["a.md".toList] ≠ some (Text.encodeUtf8 unclosed) := by
  decide +kernel

end MermaidTidy.Command

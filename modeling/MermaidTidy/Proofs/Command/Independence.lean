import Mathlib.Data.List.Nodup
import Mathlib.Tactic
import MermaidTidy.Proofs.Command.Files

/-!
# Files are written back independently

A run over several files does to each of them what a run over that file alone would do, as long as no
file leads to a crash.

* `run_write`: what the arguments of such a run ask for;
* `opened`, `loaded`, `ready`: what all such runs have in common before they turn to their files.
  Only the log file has changed by then (`opened_spec`);
* `runFiles_cases`: how the run ends and what it leaves.
-/

namespace MermaidTidy.Command

open World

variable {around : Surroundings} {w : World} {arguments : List Text} {ps : List Path}
variable {memory : Nat} {settings : Settings} {f g : FileTree} {l : Location} {p : Path}

/-! ### Arguments -/

/-- The options of a run that writes files back. -/
def writing (ps : List Path) : Options := { files := ps, write := true }

/-- No switch touches the settings or the log. -/
structure Options.IsPlain (o : Options) : Prop where
  config : o.config = none
  overrides : Command.overrides o = []
  verbose : o.verbose = false

theorem isPlain_writing (ps : List Path) : (writing ps).IsPlain := ⟨rfl, rfl, rfl⟩

theorem ofTexts_eq (h : ∀ a ∈ arguments, a ≠ Argument.twoDashes ∧ Argument.ofText a = .ok (.operand a)) :
    Argument.ofTexts arguments = .ok (arguments.map .operand) := by
  induction arguments with
  | nil => rfl
  | cons a rest ih =>
    obtain ⟨hdashes, hoperand⟩ := h a List.mem_cons_self
    rw [Argument.ofTexts, if_neg hdashes, hoperand, ih fun b hb => h b (List.mem_cons_of_mem a hb)]
    rfl

theorem ofTexts_switch {t : Text} {s : Switch} {ts : List Text} {looks : List Argument}
    (ht : t ≠ Argument.twoDashes) (hs : Argument.ofText t = .ok (.long s none))
    (hts : Argument.ofTexts ts = .ok looks) :
    Argument.ofTexts (t :: ts) = .ok (.long s none :: looks) := by
  rw [Argument.ofTexts, if_neg ht, hs, hts]
  rfl

theorem addOperand_of_ne {c : Collected} (h : c.place ≠ .behind) (a : Text) :
    c.addOperand a = { c with
      place := .here
      options := { c.options with files := c.options.files ++ [.ofText a] } } := by
  unfold Collected.addOperand
  cases hplace : c.place with
  | behind => exact absurd hplace h
  | ahead => rfl
  | here => rfl

/-- Operands are collected as files. -/
theorem collect_operands {c : Collected} (h : c.place ≠ .behind) (a : Text) (rest : List Text) :
    c.collect ((a :: rest).map .operand) = Collected.finish { c with
      place := .here
      options := { c.options with files := c.options.files ++ (a :: rest).map .ofText } } := by
  induction rest generalizing c a with
  | nil =>
    rw [List.map_cons, List.map_nil, Collected.collect, Collected.collect, addOperand_of_ne h]
    rfl
  | cons b rest ih =>
    have hhere : (c.addOperand a).place ≠ .behind := by
      rw [addOperand_of_ne h]
      exact nofun
    rw [List.map_cons, Collected.collect, ih hhere, addOperand_of_ne h]
    simp

/-- A run that writes files back. -/
theorem run_write (hne : arguments ≠ [])
    (h : ∀ a ∈ arguments, a ≠ Argument.twoDashes ∧ Argument.ofText a = .ok (.operand a))
    (around : Surroundings) (w : World) :
    run around ("--write".toList :: arguments) w =
      runOptions around (writing (arguments.map .ofText)) w := by
  have hrequest : Request.ofArguments ("--write".toList :: arguments) =
      .ok (.run (writing (arguments.map .ofText))) := by
    have hswitch : Argument.ofText "--write".toList = .ok (.long .write none) := by decide
    obtain ⟨a, rest, rfl⟩ := List.exists_cons_of_ne_nil hne
    unfold Request.ofArguments
    rw [ofTexts_switch (by decide) hswitch (ofTexts_eq h)]
    show Collected.collect { options := { write := true } } ((a :: rest).map .operand) = _
    rw [collect_operands (by decide)]
    rfl
  unfold run
  rw [hrequest]

/-! ### What all runs have in common -/

/-- The world with the log opened. -/
def opened (around : Surroundings) (w : World) : World :=
  w.configureLogging (around.environment.value? logFileVariable) false

/-- The settings of a run without switches for them, and what is logged about them. -/
def loaded (around : Surroundings) (w : World) : Except LoadFault Settings × List Log.Record :=
  Settings.load (opened around w).files around.environment { anchor := .home } none []

/-- The world in which the files are dealt with. -/
def ready (around : Surroundings) (w : World) : World :=
  (opened around w).logAll (loaded around w).2

/-- The place of the log file. -/
def logPlace? (around : Surroundings) (f : FileTree) : Option Location :=
  (around.environment.value? logFileVariable).map fun name => f.absolute (.ofText name)

theorem load_of_loaded {r : Except LoadFault Settings} (h : (loaded around w).1 = r) {o : Options}
    (ho : o.IsPlain) :
    Settings.load (opened around w).files around.environment { anchor := .home } none (overrides o) =
      (r, (loaded around w).2) := by
  rw [ho.overrides]
  exact Prod.ext h rfl

theorem runOptions_eq_runWith {o : Options} (ho : o.IsPlain) (around : Surroundings) (w : World) :
    runOptions around o w = runWith around o none (opened around w) := by
  unfold runOptions
  rw [ho.config, ho.verbose]
  rfl

/-- With settings the files are dealt with. -/
theorem runOptions_of_settings {o : Options} (ho : o.IsPlain) (h : (loaded around w).1 = .ok settings)
    (hne : o.files ≠ []) :
    runOptions around o w = runFiles around.memory o settings (ready around w) := by
  rw [runOptions_eq_runWith ho]
  unfold runWith
  dsimp only
  rw [load_of_loaded h ho]
  exact if_neg hne

@[simp]
theorem files_print (w : World) (t : Text) : (print w t).files = w.files := rfl

/-- Settings at fault are reported. -/
theorem runOptions_of_config {fault : ConfigFault} (h : (loaded around w).1 = .error (.config fault))
    (ps : List Path) :
    ∃ t, runOptions around (writing ps) w = (.code failure, print (ready around w) t) := by
  refine ⟨"Configuration error: ".toList ++ Console.quote fault.message, ?_⟩
  rw [runOptions_eq_runWith (isPlain_writing ps)]
  unfold runWith
  dsimp only
  rw [load_of_loaded h (isPlain_writing ps)]
  rfl

/-- Any other fault about settings is a crash. -/
theorem runOptions_of_fault {fault : LoadFault} (h : (loaded around w).1 = .error fault)
    (hfault : ∀ c, fault ≠ .config c) (ps : List Path) :
    ∃ c, (runOptions around (writing ps) w).1 = .crash c := by
  rw [runOptions_eq_runWith (isPlain_writing ps)]
  unfold runWith
  dsimp only
  rw [load_of_loaded h (isPlain_writing ps)]
  cases fault with
  | config c => exact absurd rfl (hfault c)
  | read fault => exact ⟨_, rfl⟩
  | longInteger digits => exact ⟨_, rfl⟩

/-! ### The log file -/

/-- Opening a log file changes no other file. -/
theorem openLog_spec (h : openLog f p = .ok (g, l)) :
    l = f.absolute p ∧ f.Keeps g ∧ (∃ bytes, g.entryAt? l = some (.file bytes)) ∧
      ∀ k, l ≠ k → g.bytesAt? k = f.bytesAt? k := by
  unfold openLog at h
  cases hdirs : f.makeDirs p.parent with
  | error fault =>
    rw [hdirs] at h
    cases h
  | ok made =>
    have hsame := FileTree.sameFiles_makeDirs hdirs
    rw [hdirs] at h
    dsimp only [bind, Except.bind] at h
    cases hfollow : made.follow [] (made.absolute p) with
    | error cause =>
      rw [hfollow] at h
      cases h
    | ok reached =>
      rw [hfollow] at h
      dsimp only at h
      split_ifs at h with hdirectory hwritable
      cases h
      obtain ⟨bytes, happend⟩ := made.exists_append_eq (made.absolute p) []
      rw [happend]
      have hkeeps : f.Keeps (made.put (made.absolute p) (.file bytes)) :=
        (FileTree.keeps_makeDirs hdirs).trans (FileTree.keeps_put fun hl => absurd hl hdirectory)
      refine ⟨(hsame.absolute p).symm, hkeeps, ⟨bytes, FileTree.entryAt?_put_self _ _ _⟩, ?_⟩
      intro k hk
      rw [FileTree.bytesAt?_put_of_ne hk, hsame.bytesAt?]

/-- When the log is opened, it can be written, and no other file has changed. -/
theorem opened_spec (around : Surroundings) (f : FileTree) (stamp : Text) :
    (opened around { files := f, stamp := stamp }).IsLogReady ∧
    (opened around { files := f, stamp := stamp }).logged ⊆ {l | logPlace? around f = some l} ∧
    f.Keeps (opened around { files := f, stamp := stamp }).files ∧
    ∀ l, logPlace? around f ≠ some l →
      (opened around { files := f, stamp := stamp }).files.bytesAt? l = f.bytesAt? l := by
  unfold opened configureLogging logPlace?
  cases around.environment.value? logFileVariable with
  | none => exact ⟨fun l hl => (by cases hl), fun l hl => (by cases hl), .refl f, fun l _ => rfl⟩
  | some name =>
    dsimp only
    unfold attachLogFile
    dsimp only
    cases hopen : openLog f (.ofText name) with
    | error fault =>
      exact ⟨fun l hl => (by cases hl), fun l hl => (by cases hl), .refl f, fun l _ => rfl⟩
    | ok opened =>
      obtain ⟨g, l⟩ := opened
      obtain ⟨hl, hkeeps, hfile, hbytes⟩ := openLog_spec hopen
      refine ⟨?_, ?_, hkeeps, ?_⟩
      · intro k hk
        cases hk
        exact hfile
      · intro k hk
        cases hk
        exact congrArg some hl.symm
      · intro k hk
        apply hbytes
        rintro rfl
        exact hk (congrArg some hl.symm)

/-- The same when the settings are loaded. -/
theorem ready_spec (around : Surroundings) (f : FileTree) (stamp : Text) :
    (ready around { files := f, stamp := stamp }).IsLogReady ∧
    (ready around { files := f, stamp := stamp }).logged ⊆ {l | logPlace? around f = some l} ∧
    f.Keeps (ready around { files := f, stamp := stamp }).files ∧
    ∀ l, logPlace? around f ≠ some l →
      (ready around { files := f, stamp := stamp }).files.bytesAt? l = f.bytesAt? l := by
  obtain ⟨hready, hlogged, hkeeps, hbytes⟩ := opened_spec around f stamp
  have hagree := agreeOutside_logAll hready (loaded around { files := f, stamp := stamp }).2
  refine ⟨hagree.isLogReady hready, hagree.logged ▸ hlogged, hkeeps.trans hagree.files.keeps,
    fun l hl => ?_⟩
  rw [ready, ← hagree.files.bytesAt? fun hmem => hl (hlogged hmem), hbytes l hl]

/-! ### The end of a run -/

theorem runFiles_of_error {c : Crash} (h : (runEach memory (writing ps) settings ps w).1 = .error c) :
    (runFiles memory (writing ps) settings w).1 = .crash c := by
  rcases hrun : runEach memory (writing ps) settings ps w with ⟨r, v⟩
  rw [hrun] at h
  subst h
  unfold runFiles
  rw [show runEach memory (writing ps) settings (writing ps).files w = _ from hrun]

theorem runFiles_of_ok {results : List FileResult} {v : World}
    (h : runEach memory (writing ps) settings ps w = (.ok results, v)) :
    runFiles memory (writing ps) settings w = (.code (if .failed ∈ results then 1 else 0), v) := by
  unfold runFiles
  rw [show runEach memory (writing ps) settings (writing ps).files w = _ from h]
  simp [writing, failure, success]

/-- A run over files at different places crashes at one of them, or it returns 1 if one of them
fails and 0 otherwise, and each has become what its outcome says. -/
theorem runFiles_cases (memory : Nat) (settings : Settings) (hw : w.IsLogReady)
    (hps : ∀ p ∈ ps, w.files.absolute p ∉ w.logged) (hnodup : (ps.map w.files.absolute).Nodup) :
    (∃ p ∈ ps, ∃ c, outcome memory {} settings w.files p = .error c ∧
      (runFiles memory (writing ps) settings w).1 = .crash c) ∨
    ∃ n v, runFiles memory (writing ps) settings w = (.code n, v) ∧ (n = 0 ∨ n = 1) ∧
      (n = 1 ↔ ∃ p ∈ ps, ∃ new, outcome memory {} settings w.files p = .ok (.failed, new)) ∧
      (∀ p ∈ ps, ∃ result new, outcome memory {} settings w.files p = .ok (result, new) ∧
        v.files.bytesAt? (w.files.absolute p) = new.or (w.files.bytesAt? (w.files.absolute p))) ∧
      w.AgreeOutside {l | l ∈ w.logged ∨ ∃ p ∈ ps, w.files.absolute p = l} v := by
  rcases runEach_cases (o := writing ps) memory settings rfl rfl hw subset_rfl (.refl _ w) hps hnodup with
    ⟨p, hp, c, hc, hrun⟩ | ⟨results, v, hrun, hfailed, hv, hbytes⟩
  · exact .inl ⟨p, hp, c, hc, runFiles_of_error hrun⟩
  · refine .inr ⟨_, v, runFiles_of_ok hrun, ?_, ?_, hbytes, hv⟩
    · split_ifs
      · exact .inr rfl
      · exact .inl rfl
    · refine Iff.trans ?_ hfailed
      split_ifs with hmem
      · exact iff_of_true rfl hmem
      · exact iff_of_false (by decide) hmem

/-- What is logged about the settings does not matter to the files. -/
theorem isHandled_ready {o : Options} (hp : (ready around w).files.absolute p ∉ (ready around w).logged)
    (hopened : (opened around w).IsLogReady) :
    IsHandled memory o settings (opened around w).files p ↔
      IsHandled memory o settings (ready around w).files p := by
  have hagree := agreeOutside_logAll hopened (loaded around w).2
  rw [ready, ← hagree.files.absolute, ← hagree.logged] at hp
  unfold IsHandled ready
  rw [hagree.files.readBytes hp, hagree.files.permits, hagree.files.absolute]

/-- A run over files at different places returns an exit code if each of them is handled. -/
theorem exists_code_iff (hw : w.IsLogReady) (hps : ∀ p ∈ ps, w.files.absolute p ∉ w.logged)
    (hnodup : (ps.map w.files.absolute).Nodup) :
    (∃ n, (runFiles memory (writing ps) settings w).1 = .code n) ↔
      ∀ p ∈ ps, IsHandled memory {} settings w.files p := by
  rcases runFiles_cases memory settings hw hps hnodup with
    ⟨p, hp, c, hc, hcrash⟩ | ⟨n, v, hrun, -, -, hall, -⟩
  · refine iff_of_false ?_ fun h => ?_
    · rw [hcrash]
      exact nofun
    · obtain ⟨result, new, hresult⟩ := isHandled_iff.1 (h p hp)
      rw [hc] at hresult
      cases hresult
  · refine iff_of_true ⟨n, by rw [hrun]⟩ fun p hp => ?_
    obtain ⟨result, new, hresult, -⟩ := hall p hp
    exact isHandled_iff.2 ⟨result, new, hresult⟩

/-- A run over files at different places that returns an exit code does to each what a run over it
alone does. -/
theorem runFiles_independent (hw : w.IsLogReady) (hps : ∀ p ∈ ps, w.files.absolute p ∉ w.logged)
    (hnodup : (ps.map w.files.absolute).Nodup) {n : Nat} {v : World}
    (hrun : runFiles memory (writing ps) settings w = (.code n, v)) :
    (n = 0 ∨ n = 1) ∧ (n = 1 ↔ ∃ p ∈ ps, (runFiles memory (writing [p]) settings w).1 = .code 1) ∧
    (∀ p ∈ ps, v.files.bytesAt? (w.files.absolute p) =
      (runFiles memory (writing [p]) settings w).2.files.bytesAt? (w.files.absolute p)) ∧
    ∀ l ∉ w.logged, (∀ p ∈ ps, w.files.absolute p ≠ l) → v.files.bytesAt? l = w.files.bytesAt? l := by
  rcases runFiles_cases memory settings hw hps hnodup with
    ⟨p, -, c, -, hcrash⟩ | ⟨n', v', hrun', hn, hone, hall, hv⟩
  · rw [hrun] at hcrash
    cases hcrash
  · rw [hrun] at hrun'
    cases hrun'
    -- alone, each file has the outcome that it has among the others
    have halone : ∀ p ∈ ps, ∃ m u result new, runFiles memory (writing [p]) settings w = (.code m, u) ∧
        outcome memory {} settings w.files p = .ok (result, new) ∧ (m = 1 ↔ result = .failed) ∧
        u.files.bytesAt? (w.files.absolute p) = new.or (w.files.bytesAt? (w.files.absolute p)) := by
      intro p hp
      obtain ⟨result, new, hresult, -⟩ := hall p hp
      have hplace : ∀ q ∈ [p], w.files.absolute q ∉ w.logged := by simpa using hps p hp
      rcases runFiles_cases memory settings hw hplace (by simp) with
        ⟨q, hq, c, hc, -⟩ | ⟨m, u, hm, -, hmone, hu, -⟩
      · rw [List.mem_singleton.1 hq, hresult] at hc
        cases hc
      · obtain ⟨result', new', hresult', hbytes⟩ := hu p (List.mem_singleton_self p)
        rw [hresult] at hresult'
        cases hresult'
        refine ⟨m, u, result, new, hm, hresult, ?_, hbytes⟩
        rw [hmone]
        simp [hresult]
    refine ⟨hn, hone.trans ?_, fun p hp => ?_, fun l hl hother => ?_⟩
    · refine exists_congr fun p => and_congr_right fun hp => ?_
      obtain ⟨m, u, result, new, hm, hresult, hfailed, -⟩ := halone p hp
      rw [hm, hresult]
      simp [hfailed]
    · obtain ⟨m, u, result, new, hm, hresult, -, hbytes⟩ := halone p hp
      obtain ⟨result', new', hresult', hbytes'⟩ := hall p hp
      rw [hresult] at hresult'
      cases hresult'
      rw [hm, hbytes', hbytes]
    · refine (hv.files.bytesAt? ?_).symm
      rintro (hmem | ⟨p, hp, hplace⟩)
      · exact hl hmem
      · exact hother p hp hplace

/-- What is asked of the places before the run holds when the files are dealt with. -/
theorem places_ready (around : Surroundings) (f : FileTree) (stamp : Text)
    (hplaces : (ps.map f.absolute).Nodup) (hlog : ∀ p ∈ ps, logPlace? around f ≠ some (f.absolute p)) :
    (∀ p ∈ ps, (ready around { files := f, stamp := stamp }).files.absolute p ∉
      (ready around { files := f, stamp := stamp }).logged) ∧
    (ps.map (ready around { files := f, stamp := stamp }).files.absolute).Nodup := by
  obtain ⟨-, hlogged, hkeeps, -⟩ := ready_spec around f stamp
  constructor
  · intro p hp hmem
    rw [← hkeeps.absolute] at hmem
    exact hlog p hp (hlogged hmem)
  · rw [← funext hkeeps.absolute]
    exact hplaces

/-- A run returns an exit code if its settings are at fault, or if each file is handled. -/
theorem exists_code_runOptions_iff (around : Surroundings) (f : FileTree) (stamp : Text) (hne : ps ≠ [])
    (hplaces : (ps.map f.absolute).Nodup) (hlog : ∀ p ∈ ps, logPlace? around f ≠ some (f.absolute p)) :
    (∃ n, (runOptions around (writing ps) { files := f, stamp := stamp }).1 = .code n) ↔
      (∃ fault, (loaded around { files := f, stamp := stamp }).1 = .error (.config fault)) ∨
      ∃ settings, (loaded around { files := f, stamp := stamp }).1 = .ok settings ∧
        ∀ p ∈ ps, IsHandled around.memory {} settings
          (opened around { files := f, stamp := stamp }).files p := by
  obtain ⟨hplace, hnodup⟩ := places_ready around f stamp hplaces hlog
  rcases hloaded : (loaded around { files := f, stamp := stamp }).1 with fault | settings
  · by_cases hconfig : ∃ c, fault = .config c
    · obtain ⟨c, rfl⟩ := hconfig
      obtain ⟨t, ht⟩ := runOptions_of_config hloaded ps
      exact iff_of_true ⟨failure, by rw [ht]⟩ (.inl ⟨c, rfl⟩)
    · obtain ⟨c, hc⟩ := runOptions_of_fault hloaded (not_exists.1 hconfig) ps
      refine iff_of_false (fun ⟨n, hn⟩ => ?_) ?_
      · rw [hc] at hn
        cases hn
      · rintro (⟨c, hfault⟩ | ⟨settings, hsettings, -⟩)
        · cases hfault
          exact hconfig ⟨c, rfl⟩
        · cases hsettings
  · have hhandled (p : Path) (hp : p ∈ ps) :
        IsHandled around.memory {} settings (opened around { files := f, stamp := stamp }).files p ↔
          IsHandled around.memory {} settings (ready around { files := f, stamp := stamp }).files p :=
      isHandled_ready (hplace p hp) (opened_spec around f stamp).1
    rw [runOptions_of_settings (isPlain_writing ps) hloaded hne,
      exists_code_iff (ready_spec around f stamp).1 hplace hnodup]
    constructor
    · intro h
      exact .inr ⟨settings, rfl, fun p hp => (hhandled p hp).2 (h p hp)⟩
    · rintro (⟨c, hc⟩ | ⟨settings', hsettings, h⟩)
      · cases hc
      · cases hsettings
        exact fun p hp => (hhandled p hp).1 (h p hp)

/-- A run that returns an exit code does to each file what a run over it alone does. -/
theorem runOptions_independent (around : Surroundings) (f : FileTree) (stamp : Text) (hne : ps ≠ [])
    (hplaces : (ps.map f.absolute).Nodup) (hlog : ∀ p ∈ ps, logPlace? around f ≠ some (f.absolute p))
    {n : Nat} {v : World}
    (hrun : runOptions around (writing ps) { files := f, stamp := stamp } = (.code n, v)) :
    (n = 0 ∨ n = 1) ∧
    (n = 1 ↔ ∃ p ∈ ps, (runOptions around (writing [p]) { files := f, stamp := stamp }).1 = .code 1) ∧
    (∀ p ∈ ps, v.files.bytesAt? (f.absolute p) =
      (runOptions around (writing [p]) { files := f, stamp := stamp }).2.files.bytesAt? (f.absolute p)) ∧
    ∀ l, (∀ p ∈ ps, f.absolute p ≠ l) → logPlace? around f ≠ some l →
      v.files.bytesAt? l = f.bytesAt? l := by
  obtain ⟨hready, hlogged, hkeeps, hbytes⟩ := ready_spec around f stamp
  rcases hloaded : (loaded around { files := f, stamp := stamp }).1 with fault | settings
  · by_cases hconfig : ∃ c, fault = .config c
    · -- every run ends the same way, and none has turned to its files
      obtain ⟨c, rfl⟩ := hconfig
      obtain ⟨t, ht⟩ := runOptions_of_config hloaded ps
      rw [ht] at hrun
      cases hrun
      refine ⟨.inr rfl, iff_of_true rfl ?_, fun p _ => ?_, fun l _ hl => ?_⟩
      · obtain ⟨p, hp⟩ := List.exists_mem_of_ne_nil ps hne
        obtain ⟨t, ht⟩ := runOptions_of_config hloaded [p]
        exact ⟨p, hp, by rw [ht]; rfl⟩
      · obtain ⟨t, ht⟩ := runOptions_of_config hloaded [p]
        rw [ht, files_print, files_print]
      · rw [files_print]
        exact hbytes l hl
    · obtain ⟨c, hc⟩ := runOptions_of_fault hloaded (not_exists.1 hconfig) ps
      rw [hrun] at hc
      cases hc
  · obtain ⟨hplace, hnodup⟩ := places_ready around f stamp hplaces hlog
    have hsingle (p : Path) :=
      runOptions_of_settings (isPlain_writing [p]) hloaded (List.cons_ne_nil p [])
    rw [runOptions_of_settings (isPlain_writing ps) hloaded hne] at hrun
    obtain ⟨hn, hone, hall, hother⟩ := runFiles_independent hready hplace hnodup hrun
    simp only [← hkeeps.absolute] at hall hother
    refine ⟨hn, ?_, fun p hp => ?_, fun l hl hlogl => ?_⟩
    · simp only [hsingle]
      exact hone
    · rw [hsingle]
      exact hall p hp
    · rw [← hbytes l hlogl]
      exact hother l (fun hmem => hlogl (hlogged hmem)) hl

/-- The files of a run are written back independently. Let the operands name different places, none of
them that of the log file. Then a run over all of them returns an exit code unless the settings
cannot be read or a file leads to a crash. If it returns one, this is 1 or 0 according to whether a
run over one of the files alone returns 1; every file has the bytes that a run over it alone leaves;
and all other files, the log file apart, are as they were. -/
theorem run_write_independent (around : Surroundings) (f : FileTree) (stamp : Text)
    (arguments : List Text) (hne : arguments ≠ [])
    (hoperand : ∀ a ∈ arguments, a ≠ Argument.twoDashes ∧ Argument.ofText a = .ok (.operand a))
    (hplaces : (arguments.map fun a => f.absolute (.ofText a)).Nodup)
    (hlog : ∀ a ∈ arguments, logPlace? around f ≠ some (f.absolute (.ofText a))) :
    let start : World := { files := f, stamp := stamp }
    let together := run around ("--write".toList :: arguments) start
    let alone (a : Text) := run around ["--write".toList, a] start
    ((∃ n, together.1 = .code n) ↔
      (∃ fault, (loaded around start).1 = .error (.config fault)) ∨
      ∃ settings, (loaded around start).1 = .ok settings ∧
        ∀ a ∈ arguments, IsHandled around.memory {} settings (opened around start).files (.ofText a)) ∧
    ∀ n, together.1 = .code n →
      (n = 0 ∨ n = 1) ∧ (n = 1 ↔ ∃ a ∈ arguments, (alone a).1 = .code 1) ∧
      (∀ a ∈ arguments, together.2.files.bytesAt? (f.absolute (.ofText a)) =
        (alone a).2.files.bytesAt? (f.absolute (.ofText a))) ∧
      ∀ l, (∀ a ∈ arguments, l ≠ f.absolute (.ofText a)) → logPlace? around f ≠ some l →
        together.2.files.bytesAt? l = f.bytesAt? l := by
  intro start together alone
  have htogether : together = runOptions around (writing (arguments.map .ofText)) start :=
    run_write hne hoperand around start
  have halone : ∀ a ∈ arguments, alone a = runOptions around (writing [.ofText a]) start := by
    intro a ha
    exact run_write (List.cons_ne_nil a []) (by simpa using hoperand a ha) around start
  have hne : arguments.map Path.ofText ≠ [] := by simpa using hne
  have hplaces : ((arguments.map Path.ofText).map f.absolute).Nodup := by
    rw [List.map_map]
    exact hplaces
  have hlog : ∀ p ∈ arguments.map Path.ofText, logPlace? around f ≠ some (f.absolute p) :=
    List.forall_mem_map.2 hlog
  refine ⟨?_, fun n hn => ?_⟩
  · rw [htogether, exists_code_runOptions_iff around f stamp hne hplaces hlog]
    simp only [List.forall_mem_map]
    rfl
  · obtain ⟨hcode, hone, hall, hother⟩ := runOptions_independent around f stamp hne hplaces hlog
      (htogether.symm.trans (Prod.ext hn rfl))
    refine ⟨hcode, ?_, fun a ha => ?_, fun l hl hlogl => ?_⟩
    · rw [hone]
      simp only [List.mem_map, exists_exists_and_eq_and]
      refine exists_congr fun a => and_congr_right fun ha => ?_
      rw [halone a ha]
    · rw [halone a ha]
      exact hall (.ofText a) (List.mem_map_of_mem ha)
    · exact hother l (List.forall_mem_map.2 fun a ha => (hl a ha).symm) hlogl

/-- A file with a control character and one that does not exist keep none from being formatted; the
log goes to a directory that is made for it. -/
theorem run_write_independent_past_failures :
    let around : Surroundings :=
      { environment := [("MERMAID_FMT_LOG_FILE".toList, "logs/a.log".toList)] }
    let f : FileTree :=
      { homeName := "/w".toList
        entries := [(["a.mmd".toList], .file [1]),
          (["d".toList, "b.md".toList],
            .file (Text.encodeUtf8 "```mermaid\ngraph TD\nA-->B\n```\n".toList))] }
    let arguments : List Text := ["a.mmd".toList, "gone.mmd".toList, "./d/b.md".toList]
    let together := run around ("--write".toList :: arguments) { files := f, stamp := [] }
    (∀ a ∈ arguments, a ≠ Argument.twoDashes ∧ Argument.ofText a = .ok (.operand a)) ∧
    (arguments.map fun a => f.absolute (.ofText a)).Nodup ∧
    (∀ a ∈ arguments, logPlace? around f ≠ some (f.absolute (.ofText a))) ∧
    together.1 = .code 1 ∧
    (∃ a ∈ arguments, (run around ["--write".toList, a] { files := f, stamp := [] }).1 = .code 1) ∧
    together.2.files.bytesAt? (f.absolute (.ofText "./d/b.md".toList)) =
      (run around ["--write".toList, "./d/b.md".toList] { files := f, stamp := [] }).2.files.bytesAt?
        (f.absolute (.ofText "./d/b.md".toList)) := by
  intro around f arguments together
  have hoperand : ∀ a ∈ arguments, a ≠ Argument.twoDashes ∧ Argument.ofText a = .ok (.operand a) := by
    decide +kernel
  have hplaces : (arguments.map fun a => f.absolute (.ofText a)).Nodup := by decide +kernel
  have hlog : ∀ a ∈ arguments, logPlace? around f ≠ some (f.absolute (.ofText a)) := by decide +kernel
  have hcode : together.1 = .code 1 := by decide +kernel
  have hmem : "./d/b.md".toList ∈ arguments := by decide +kernel
  obtain ⟨-, hone, hbytes, -⟩ :=
    (run_write_independent around f [] arguments (List.cons_ne_nil _ _) hoperand hplaces hlog).2 1 hcode
  have hformatted := hbytes "./d/b.md".toList hmem
  -- The runs are brought to one form on both sides, or comparing them evaluates them.
  beta_reduce at hone hformatted
  unfold together
  exact ⟨hoperand, hplaces, hlog, hcode, hone.1 rfl, hformatted⟩

/-- A file that cannot be decoded keeps those behind it from being formatted. -/
theorem run_write_stops_at_undecodable :
    let f : FileTree :=
      { homeName := "/w".toList
        entries := [(["a.mmd".toList], .file [0xff]),
          (["b.mmd".toList], .file (Text.encodeUtf8 "graph TD\nA-->B".toList))] }
    let together := run {} ["--write".toList, "a.mmd".toList, "b.mmd".toList] { files := f, stamp := [] }
    let alone := run {} ["--write".toList, "b.mmd".toList] { files := f, stamp := [] }
    together.1 = .crash (.read (.encoding ⟨0, [0xff], .start⟩)) ∧ alone.1 = .code 0 ∧
      together.2.files.bytesAt? ["b.mmd".toList] = some (Text.encodeUtf8 "graph TD\nA-->B".toList) ∧
      alone.2.files.bytesAt? ["b.mmd".toList] =
        some (Text.encodeUtf8 "graph TD\n    A-->B\n".toList) := by
  decide +kernel

end MermaidTidy.Command

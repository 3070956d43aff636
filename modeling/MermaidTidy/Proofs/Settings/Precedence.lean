import Mathlib.Tactic
import MermaidTidy.Proofs.Files.Frame
import MermaidTidy.Settings.Loader

/-!
# Which place a setting is taken from

A loader is asked to load files, one after another, and then to build settings.

* `Attempt` is a request to load a file, and `Loader.run` makes requests one after another;
* `Attempt.on_of_finds` and `Attempt.on_of_not_finds`: an object replaces all that the loader
  remembers, and every other request leaves the loader as it was;
* `validate_eq_ok_iff` and `validate_eq_error_iff`: each setting is checked on its own;
* `Supply.Gives` says, place by place, what is given for a setting;
* `build_takes_first`: each setting is taken from the first place that gives it, whatever the places
  behind that one hold.
-/

namespace MermaidTidy

namespace Settings

/-! ### Loading one file after another -/

/-- A request to load a file: the files as they are at that time, the path, and whether the file is
required. -/
structure Attempt where
  files : FileTree
  path : Path
  required : Bool

namespace Attempt

/-- At the path is a file that holds an object with the given members. -/
def Finds (a : Attempt) (members : List (Text × Json)) : Prop :=
  ∃ text, a.files.readText a.path = .ok text ∧ Json.read text = .ok (.object members)

/-- The request made of a loader. -/
def on (a : Attempt) (l : Loader) : Loader.Loaded := l.loadFile a.files a.path a.required

variable {a : Attempt} {l : Loader} {members : List (Text × Json)}

theorem on_of_finds (h : a.Finds members) :
    (a.on l).result = .ok true ∧ (a.on l).loader = { values := members, path := some a.path } := by
  obtain ⟨text, ht, hm⟩ := h
  simp [on, Loader.loadFile, FileTree.contains_of_readText ht, ht, Loader.take, hm]

/-- Nothing else than an object is remembered, or reported as loaded. -/
theorem on_of_not_finds (h : ∀ members, ¬a.Finds members) :
    (a.on l).result ≠ .ok true ∧ (a.on l).loader = l := by
  unfold on Loader.loadFile
  cases hc : a.files.contains a.path with
  | error fault => simp
  | ok found =>
    cases found with
    | false => cases hr : a.required <;> simp
    | true =>
      cases ht : a.files.readText a.path with
      | error fault => simp
      | ok text =>
        simp only [Loader.take]
        cases hj : Json.read text with
        | error fault =>
          cases fault with
          | longInteger digits => simp
          | malformed fault => cases hr : a.required <;> simp
        | ok v =>
          cases v with
          | object members => exact absurd ⟨text, ht, hj⟩ (h members)
          | _ => simp

end Attempt

/-- The loader after requests made one after another, where one that fails is followed by the next. -/
def Loader.run (l : Loader) (attempts : List Attempt) : Loader :=
  attempts.foldl (fun l a => (a.on l).loader) l

/-- Of the requests, `a` is the last that finds an object, with the given members. -/
def LastFound (attempts : List Attempt) (a : Attempt) (members : List (Text × Json)) : Prop :=
  ∃ before after, attempts = before ++ a :: after ∧ a.Finds members ∧
    ∀ b ∈ after, ∀ others, ¬b.Finds others

namespace Loader

variable {l : Loader} {a : Attempt} {attempts before after : List Attempt}

theorem run_append (l : Loader) (before after : List Attempt) :
    l.run (before ++ after) = (l.run before).run after :=
  List.foldl_append

theorem run_cons (l : Loader) (a : Attempt) (after : List Attempt) :
    l.run (a :: after) = (a.on l).loader.run after :=
  List.foldl_cons ..

/-- Requests that find nothing leave the loader as it was. -/
theorem run_of_not_finds (h : ∀ b ∈ attempts, ∀ members, ¬b.Finds members) : l.run attempts = l := by
  induction attempts with
  | nil => rfl
  | cons b after ih =>
    rw [run_cons, (Attempt.on_of_not_finds (h b List.mem_cons_self)).2]
    exact ih fun c hc => h c (List.mem_cons_of_mem b hc)

/-- The loader remembers the object that was found last. -/
theorem run_of_lastFound {members : List (Text × Json)} (h : LastFound attempts a members) :
    l.run attempts = { values := members, path := some a.path } := by
  obtain ⟨before, after, rfl, hfound, hnone⟩ := h
  rw [run_append, run_cons, (Attempt.on_of_finds hfound).2, run_of_not_finds hnone]

/-- Either nothing was found, or one object was found last. -/
theorem not_finds_or_lastFound (attempts : List Attempt) :
    (∀ b ∈ attempts, ∀ members, ¬b.Finds members) ∨ ∃ a members, LastFound attempts a members := by
  induction attempts with
  | nil => simp
  | cons b rest ih =>
    rcases ih with hnone | ⟨a, members, before, after, rfl, hfound⟩
    · by_cases hb : ∃ members, b.Finds members
      · obtain ⟨members, hb⟩ := hb
        exact .inr ⟨b, members, [], rest, rfl, hb, hnone⟩
      · exact .inl (List.forall_mem_cons.2 ⟨not_exists.1 hb, hnone⟩)
    · exact .inr ⟨a, members, b :: before, after, rfl, hfound⟩

/-- What is remembered of a setting is what the object found last holds. -/
theorem given?_run_eq_some_iff {f : Field} {v : Json} :
    given? (run {} attempts).values f = some v ↔
      ∃ a members, LastFound attempts a members ∧ Json.lookup? f.name members = some v := by
  constructor
  · intro h
    rcases not_finds_or_lastFound attempts with hnone | ⟨a, members, hlast⟩
    · rw [run_of_not_finds hnone] at h
      cases h
    · rw [run_of_lastFound hlast] at h
      exact ⟨a, members, hlast, h⟩
  · rintro ⟨a, members, hlast, h⟩
    rw [run_of_lastFound hlast]
    exact h

/-- A request that fails, or that finds no file, might as well not have been made. -/
theorem run_append_cons_of_ne (h : (a.on (l.run before)).result ≠ .ok true) :
    l.run (before ++ a :: after) = l.run (before ++ after) := by
  have hnone : ∀ members, ¬a.Finds members := fun members hfound => h (Attempt.on_of_finds hfound).1
  rw [run_append, run_cons, (Attempt.on_of_not_finds hnone).2, run_append]

end Loader

/-! ### Checking each setting on its own -/

namespace Field

/-- What a setting is set to. -/
def Value : Field → Type
  | .indentUnit => IndentUnit
  | .indentWidth => Width
  | .normalizeMessages | .preserveIndentSensitive => Bool

/-- What a JSON value sets the setting to. -/
def read : (f : Field) → Json → Except Cause f.Value
  | .indentUnit => unitOf
  | .indentWidth => widthOf
  | .normalizeMessages | .preserveIndentSensitive => switchOf

/-- What the setting is set to in `s`. -/
def setTo (s : Settings) : (f : Field) → f.Value
  | .indentUnit => s.indentUnit
  | .indentWidth => ⟨s.indentWidth, s.indentWidth_pos⟩
  | .normalizeMessages => s.normalizeMessages
  | .preserveIndentSensitive => s.preserveIndentSensitive

/-- The value that stands for the default of the setting. -/
def standard : Field → Json
  | .indentUnit => .string "spaces".toList
  | .indentWidth => .integer 4
  | .normalizeMessages => .bool false
  | .preserveIndentSensitive => .bool true

/-- The problem with a value of the setting. -/
def problem? (f : Field) (v : Json) : Option Problem :=
  match f.read v with
  | .ok _ => none
  | .error cause => some ⟨f.name, cause⟩

/-- Every default passes its own check. -/
theorem read_standard (f : Field) : f.read f.standard = .ok (f.setTo {}) := by
  cases f <;> rfl

theorem mem_all (f : Field) : f ∈ all := by cases f <;> decide

theorem forall_iff {P : Field → Prop} :
    (∀ f, P f) ↔ P .indentUnit ∧ P .indentWidth ∧ P .normalizeMessages ∧
      P .preserveIndentSensitive := by
  constructor
  · intro h
    exact ⟨h _, h _, h _, h _⟩
  · rintro ⟨hunit, hwidth, hmessages, hpreserve⟩ f
    cases f <;> assumption

end Field

/-- All problems with the values of the settings, in the order of the settings. -/
def problems (value : Field → Json) : List Problem :=
  Field.all.filterMap fun f => f.problem? (value f)

/-- A check reads the value that is given, or the one that stands for the default. -/
theorem check_eq (values : List (Text × Json)) (f : Field) :
    check f.read (f.setTo {}) values f =
      (f.read ((given? values f).getD f.standard)).mapError (⟨f.name, ·⟩) := by
  unfold check
  cases given? values f with
  | none =>
    rw [Option.getD_none, f.read_standard]
    rfl
  | some v =>
    rw [Option.getD_some]
    cases h : f.read v <;> simp [h, Except.mapError]

theorem eq_of_setTo_eq {s t : Settings} (h : ∀ f, Field.setTo s f = Field.setTo t f) : s = t := by
  have hwidth : s.indentWidth = t.indentWidth := congrArg Subtype.val (h .indentWidth)
  cases s
  cases t
  cases h .indentUnit
  cases hwidth
  cases h .normalizeMessages
  cases h .preserveIndentSensitive
  rfl

theorem problems_eq_nil {value : Field → Json} {s : Settings}
    (h : ∀ f : Field, f.read (value f) = .ok (f.setTo s)) : problems value = [] := by
  simp [problems, Field.problem?, h]

section Validate

variable {values : List (Text × Json)} {value : Field → Json}

/-- Without unknown names there is nothing but the four checks. -/
theorem validate_cases (hnames : unknownNames values = [])
    (hvalue : ∀ f : Field, (given? values f).getD f.standard = value f) :
    (∃ s, validate values = .ok s ∧ ∀ f : Field, f.read (value f) = .ok (f.setTo s)) ∨
      validate values = .error (problems value) ∧ problems value ≠ [] := by
  have hcheck (f : Field) : check f.read (f.setTo {}) values f =
      (f.read (value f)).mapError (⟨f.name, ·⟩) := by
    rw [check_eq, hvalue]
  have hunit : check unitOf _ values .indentUnit = _ := hcheck .indentUnit
  have hwidth : check widthOf _ values .indentWidth = _ := hcheck .indentWidth
  have hmessages : check switchOf _ values .normalizeMessages = _ := hcheck .normalizeMessages
  have hpreserve : check switchOf _ values .preserveIndentSensitive = _ :=
    hcheck .preserveIndentSensitive
  simp only [Field.setTo, Field.read] at hunit hwidth hmessages hpreserve
  simp only [validate, hunit, hwidth, hmessages, hpreserve, hnames, Field.forall_iff]
  simp only [problems, Field.all, List.filterMap_cons, List.filterMap_nil]
  simp only [Field.problem?, Field.read, Field.setTo]
  cases unitOf (value .indentUnit) <;> cases widthOf (value .indentWidth) <;>
    cases switchOf (value .normalizeMessages) <;>
    cases switchOf (value .preserveIndentSensitive) <;>
    simp [Except.mapError, Settings.problem?]
  -- what is left is the case in which all four are accepted
  exact ⟨rfl, rfl, rfl, rfl⟩

variable (hnames : unknownNames values = [])
  (hvalue : ∀ f : Field, (given? values f).getD f.standard = value f)
include hnames hvalue

/-- Settings are accepted as they are read, each on its own. -/
theorem validate_eq_ok_iff {s : Settings} :
    validate values = .ok s ↔ ∀ f : Field, f.read (value f) = .ok (f.setTo s) := by
  rcases validate_cases hnames hvalue with ⟨t, ht, hread⟩ | ⟨herror, hne⟩
  · rw [ht, Except.ok.injEq]
    constructor
    · rintro rfl
      exact hread
    · exact fun h => eq_of_setTo_eq fun f => Except.ok.inj ((hread f).symm.trans (h f))
  · rw [herror]
    exact ⟨nofun, fun h => absurd (problems_eq_nil h) hne⟩

/-- All problems are reported, each with the setting that has it. -/
theorem validate_eq_error_iff {found : List Problem} :
    validate values = .error found ↔ found = problems value ∧ problems value ≠ [] := by
  rcases validate_cases hnames hvalue with ⟨t, ht, hread⟩ | ⟨herror, hne⟩
  · rw [ht]
    exact ⟨nofun, fun h => absurd (problems_eq_nil hread) h.2⟩
  · rw [herror, Except.error.injEq]
    exact ⟨fun h => ⟨h.symm, hne⟩, fun h => h.1.symm⟩

end Validate

/-! ### The values that are put together -/

theorem Field.name_inj {f g : Field} : f.name = g.name ↔ f = g := by
  constructor
  · intro h
    exact Option.some.inj (by rw [← ofName?_name f, h, ofName?_name])
  · rintro rfl
    rfl

section Assembled

variable (value? : Field → Option Json)

/-- The members that are given for the settings in a list. -/
def assembled (fs : List Field) : List (Text × Json) :=
  fs.filterMap fun f => (value? f).map (f.name, ·)

theorem given?_assembled (fs : List Field) (f : Field) :
    given? (assembled value? fs) f = if f ∈ fs then value? f else none := by
  unfold given? assembled
  induction fs with
  | nil => rfl
  | cons g fs ih =>
    rw [List.filterMap_cons]
    cases hg : value? g with
    | none =>
      by_cases hf : f = g
      · subst hf
        simp [ih, hg]
      · simp [ih, hf]
    | some v =>
      simp only [Option.map_some]
      rw [Json.lookup?_cons, ih]
      by_cases hf : f = g
      · subst hf
        by_cases hmem : f ∈ fs <;> simp [hg, hmem]
      · simp [hf, Field.name_inj, Ne.symm hf]

theorem unknownNames_assembled (fs : List Field) : unknownNames (assembled value? fs) = [] := by
  have hknown : ((assembled value? fs).map (·.1)).filter (fun n => (Field.ofName? n).isNone) = [] := by
    rw [List.filter_eq_nil_iff]
    intro n hn
    obtain ⟨member, hmem, rfl⟩ := List.mem_map.1 hn
    obtain ⟨f, -, hf⟩ := List.mem_filterMap.1 hmem
    obtain ⟨v, -, rfl⟩ := Option.map_eq_some_iff.1 hf
    simp [Field.ofName?_name]
  simp [unknownNames, hknown]

end Assembled

theorem Loader.build_eq (l : Loader) (env : Environment) (overrides : List (Text × Json)) :
    (l.build env overrides).1 =
      (validate (assembled (fun f => (l.valueOf env overrides f).1) Field.all)).mapError .invalid := by
  unfold build
  dsimp only
  rw [List.filterMap_map]
  split
  · rename_i s hs
    have hvalid : validate (assembled (fun f => (l.valueOf env overrides f).1) Field.all) = .ok s := hs
    rw [hvalid]
    rfl
  · rename_i found hfound
    have hinvalid :
        validate (assembled (fun f => (l.valueOf env overrides f).1) Field.all) = .error found := hfound
    rw [hinvalid]
    rfl

/-! ### Places -/

/-- Where a setting may come from, first things first. -/
inductive Place
  /-- The caller. -/
  | caller
  /-- The environment. -/
  | environment
  /-- The file that was loaded last. -/
  | file
  /-- The defaults. -/
  | standard
deriving DecidableEq, Repr

/-- How many places come before it. -/
def Place.rank : Place → Nat
  | .caller => 0
  | .environment => 1
  | .file => 2
  | .standard => 3

theorem Place.rank_injective : Function.Injective Place.rank := by
  intro p q h
  cases p <;> cases q <;> simp_all [rank]

/-- All that settings are put together from. -/
structure Supply where
  attempts : List Attempt
  environment : Environment
  overrides : List (Text × Json)

namespace Supply

/-- The outcome of the requests to load files, and of building settings after them. -/
def outcome (s : Supply) : Except ConfigFault Settings :=
  ((Loader.run {} s.attempts).build s.environment s.overrides).1

/-- What a place gives for a setting. -/
inductive Gives (s : Supply) : Place → Field → Json → Prop
  /-- The caller gives a value other than null. -/
  | caller {f : Field} {v : Json} (h : Json.lookup? f.name s.overrides = some v) (hv : v ≠ .null) :
    Gives s .caller f v
  /-- A variable that is not empty gives a unit, whatever its value. -/
  | unit {t : Text} (h : s.environment.lookup Field.indentUnit.environmentName = some t)
    (ht : t ≠ []) : Gives s .environment .indentUnit (.string t)
  /-- A variable gives a width if its value is an integer. -/
  | width {t : Text} {n : Int} (h : s.environment.lookup Field.indentWidth.environmentName = some t)
    (ht : t ≠ []) (hn : Text.integer? t = some n) : Gives s .environment .indentWidth (.integer n)
  /-- A variable that is not empty gives a switch, whatever its value. -/
  | switch {f : Field} {t : Text} (hf : f = .normalizeMessages ∨ f = .preserveIndentSensitive)
    (h : s.environment.lookup f.environmentName = some t) (ht : t ≠ []) :
    Gives s .environment f (.bool (Text.lowercase t ∈ environmentOn))
  /-- The object that was found last gives what it holds, also null. -/
  | file {f : Field} {v : Json} {a : Attempt} {members : List (Text × Json)}
    (h : LastFound s.attempts a members) (hv : Json.lookup? f.name members = some v) :
    Gives s .file f v
  /-- The defaults give every setting. -/
  | standard (f : Field) : Gives s .standard f f.standard

/-- The value is given by the first place that gives one. -/
def Takes (s : Supply) (f : Field) (v : Json) : Prop :=
  ∃ p, s.Gives p f v ∧ ∀ q : Place, q.rank < p.rank → ∀ w, ¬s.Gives q f w

/-- What a place gives for a setting, as it is looked up. -/
def value? (s : Supply) (f : Field) : Place → Option Json
  | .caller => override? s.overrides f
  | .environment => (fromEnvironment s.environment f).1
  | .file => given? (Loader.run {} s.attempts).values f
  | .standard => some f.standard

theorem gives_caller_iff {s : Supply} {f : Field} {v : Json} :
    s.Gives .caller f v ↔ override? s.overrides f = some v := by
  have hoverride : override? s.overrides f = some v ↔
      Json.lookup? f.name s.overrides = some v ∧ v ≠ .null := by
    unfold override? given?
    split
    · rename_i h
      simp [h, eq_comm]
    · rename_i h
      constructor
      · intro hv
        exact ⟨hv, fun hnull => h (hnull ▸ hv)⟩
      · exact fun hv => hv.1
  rw [hoverride]
  constructor
  · rintro ⟨h, hv⟩
    exact ⟨h, hv⟩
  · exact fun h => .caller h.1 h.2

theorem value?_eq_some_iff {env : Environment} {name t : Text} :
    env.value? name = some t ↔ env.lookup name = some t ∧ t ≠ [] := by
  have hlookup : env.lookup name = (env.find? (·.1 = name)).map (·.2) := by
    induction env with
    | nil => rfl
    | cons entry rest ih =>
      obtain ⟨key, value⟩ := entry
      by_cases h : key = name
      · simp [h]
      · have hkey : (name == key) = false := beq_false_of_ne (Ne.symm h)
        simp [List.lookup_cons, h, hkey, ih]
  rw [hlookup, Environment.value?, Option.filter_eq_some_iff, decide_eq_true_iff]

theorem gives_environment_iff {s : Supply} {f : Field} {v : Json} :
    s.Gives .environment f v ↔ (fromEnvironment s.environment f).1 = some v := by
  have henv : (fromEnvironment s.environment f).1 = some v ↔
      ∃ t, s.environment.value? f.environmentName = some t ∧ fromVariable? f t = some v := by
    unfold fromEnvironment
    cases s.environment.value? f.environmentName with
    | none => simp
    | some t => cases h : fromVariable? f t <;> simp [h]
  rw [henv]
  constructor
  · rintro (_ | ⟨h, ht⟩ | ⟨h, ht, hn⟩ | ⟨hf, h, ht⟩)
    · exact ⟨_, value?_eq_some_iff.2 ⟨h, ht⟩, rfl⟩
    · exact ⟨_, value?_eq_some_iff.2 ⟨h, ht⟩, by simp [fromVariable?, hn]⟩
    · refine ⟨_, value?_eq_some_iff.2 ⟨h, ht⟩, ?_⟩
      rcases hf with rfl | rfl <;> simp [fromVariable?, List.contains_eq_mem]
  · rintro ⟨t, h, hv⟩
    obtain ⟨hlookup, hne⟩ := value?_eq_some_iff.1 h
    cases f with
    | indentUnit =>
      cases hv
      exact .unit hlookup hne
    | indentWidth =>
      obtain ⟨n, hn, rfl⟩ := Option.map_eq_some_iff.1 hv
      exact .width hlookup hne hn
    | normalizeMessages =>
      rw [fromVariable?, List.contains_eq_mem] at hv
      cases hv
      exact .switch (.inl rfl) hlookup hne
    | preserveIndentSensitive =>
      rw [fromVariable?, List.contains_eq_mem] at hv
      cases hv
      exact .switch (.inr rfl) hlookup hne

/-- A place gives what is looked up there. -/
theorem gives_iff {s : Supply} {p : Place} {f : Field} {v : Json} :
    s.Gives p f v ↔ s.value? f p = some v := by
  cases p with
  | caller => exact gives_caller_iff
  | environment => exact gives_environment_iff
  | file =>
    rw [value?, Loader.given?_run_eq_some_iff]
    constructor
    · rintro (_ | _ | _ | _ | ⟨h, hv⟩)
      exact ⟨_, _, h, hv⟩
    · rintro ⟨a, members, h, hv⟩
      exact .file h hv
  | standard =>
    rw [value?, Option.some.injEq]
    constructor
    · rintro ⟨⟩
      rfl
    · rintro rfl
      exact .standard f

variable {s s' : Supply} {f : Field} {v w : Json}

theorem Takes.unique (h : s.Takes f v) (h' : s.Takes f w) : v = w := by
  obtain ⟨p, hp, hfirst⟩ := h
  obtain ⟨q, hq, hfirst'⟩ := h'
  have hrank : p.rank = q.rank :=
    Nat.le_antisymm (Nat.le_of_not_lt fun h => hfirst q h w hq)
      (Nat.le_of_not_lt fun h => hfirst' p h v hp)
  cases Place.rank_injective hrank
  exact Option.some.inj ((gives_iff.1 hp).symm.trans (gives_iff.1 hq))

theorem takes_of_value? {p : Place} (h : s.value? f p = some v)
    (hfirst : ∀ q : Place, q.rank < p.rank → s.value? f q = none) : s.Takes f v := by
  refine ⟨p, gives_iff.2 h, fun q hq w => ?_⟩
  rw [gives_iff, hfirst q hq]
  simp

/-- What a loader finds for a setting. -/
def found? (s : Supply) (f : Field) : Option Json :=
  ((Loader.run {} s.attempts).valueOf s.environment s.overrides f).1

theorem found?_eq (s : Supply) (f : Field) :
    s.found? f = ((s.value? f .caller).or (s.value? f .environment)).or (s.value? f .file) := by
  unfold found? Loader.valueOf value?
  cases override? s.overrides f <;> simp

/-- A loader takes every setting from the first place that gives it. -/
theorem takes_found? (s : Supply) (f : Field) : s.Takes f ((s.found? f).getD f.standard) := by
  rw [found?_eq]
  cases hcaller : s.value? f .caller with
  | some v => exact takes_of_value? hcaller nofun
  | none =>
    cases henv : s.value? f .environment with
    | some v =>
      refine takes_of_value? henv ?_
      rintro (_ | _ | _ | _) hq
      exacts [hcaller, absurd hq (by decide), absurd hq (by decide), absurd hq (by decide)]
    | none =>
      cases hfile : s.value? f .file with
      | some v =>
        refine takes_of_value? hfile ?_
        rintro (_ | _ | _ | _) hq
        exacts [hcaller, henv, absurd hq (by decide), absurd hq (by decide)]
      | none =>
        refine takes_of_value? (p := .standard) rfl ?_
        rintro (_ | _ | _ | _) hq
        exacts [hcaller, henv, hfile, absurd hq (by decide)]

theorem outcome_eq (s : Supply) :
    s.outcome = (validate (assembled s.found? Field.all)).mapError .invalid :=
  Loader.build_eq ..

/-- The values that are taken decide the outcome, each setting on its own. -/
theorem outcome_iff {value : Field → Json} (h : ∀ f, s.Takes f (value f)) :
    (∀ t, s.outcome = .ok t ↔ ∀ f : Field, f.read (value f) = .ok (f.setTo t)) ∧
      ∀ fault, s.outcome = .error fault ↔
        fault = .invalid (problems value) ∧ problems value ≠ [] := by
  have hnames := unknownNames_assembled s.found? Field.all
  have hvalue (f : Field) :
      (given? (assembled s.found? Field.all) f).getD f.standard = value f := by
    rw [given?_assembled, if_pos f.mem_all]
    exact (s.takes_found? f).unique (h f)
  constructor
  · intro t
    rw [outcome_eq, ← validate_eq_ok_iff hnames hvalue]
    cases validate (assembled s.found? Field.all) <;> simp [Except.mapError]
  · intro fault
    rw [outcome_eq]
    constructor
    · intro hf
      cases hv : validate (assembled s.found? Field.all) with
      | ok t =>
        rw [hv] at hf
        cases hf
      | error found =>
        rw [hv] at hf
        cases hf
        obtain ⟨rfl, hne⟩ := (validate_eq_error_iff hnames hvalue).1 hv
        exact ⟨rfl, hne⟩
    · rintro ⟨rfl, hne⟩
      rw [(validate_eq_error_iff hnames hvalue).2 ⟨rfl, hne⟩]
      rfl

/-- Two supplies that agree on each setting down to a place that gives it have one outcome. -/
theorem outcome_eq_of_agree
    (h : ∀ f, ∃ p v, s.Gives p f v ∧
      ∀ q : Place, q.rank ≤ p.rank → ∀ w, s'.Gives q f w ↔ s.Gives q f w) :
    s'.outcome = s.outcome := by
  have htakes (f : Field) : s'.Takes f ((s.found? f).getD f.standard) := by
    obtain ⟨p, v, hp, hagree⟩ := h f
    obtain ⟨q, hq, hfirst⟩ := s.takes_found? f
    -- the first place that gives the setting does not come behind `p`, so that both agree on it
    have hqp : q.rank ≤ p.rank := Nat.le_of_not_lt fun hlt => hfirst p hlt v hp
    refine ⟨q, (hagree q hqp _).2 hq, fun r hr w hw => ?_⟩
    exact hfirst r hr w ((hagree r (hr.le.trans hqp) w).1 hw)
  obtain ⟨hok, herror⟩ := outcome_iff (takes_found? s)
  obtain ⟨hok', herror'⟩ := outcome_iff htakes
  cases ho : s.outcome with
  | ok t => exact (hok' t).2 ((hok t).1 ho)
  | error fault => exact (herror' fault).2 ((herror fault).1 ho)

end Supply

/-- **Precedence of the places.** For each setting the value of the first place that gives one is
checked, each on its own, whatever was asked of the loader before. A request that fails or finds no
file changes nothing. So the outcome depends on no place behind the first that gives a setting. -/
theorem build_takes_first (s : Supply) :
    (∃! value : Field → Json, ∀ f, s.Takes f (value f)) ∧
    (∀ value : Field → Json, (∀ f, s.Takes f (value f)) →
      (∀ t, s.outcome = .ok t ↔ ∀ f : Field, f.read (value f) = .ok (f.setTo t)) ∧
      ∀ fault, s.outcome = .error fault ↔
        fault = .invalid (problems value) ∧ problems value ≠ []) ∧
    (∀ before a after, s.attempts = before ++ a :: after →
      (a.on (Loader.run {} before)).result ≠ .ok true →
      Loader.run {} s.attempts = Loader.run {} (before ++ after)) ∧
    ∀ s' : Supply,
      (∀ f, ∃ p v, s.Gives p f v ∧
        ∀ q : Place, q.rank ≤ p.rank → ∀ w, s'.Gives q f w ↔ s.Gives q f w) →
      s'.outcome = s.outcome := by
  refine ⟨?_, fun value h => Supply.outcome_iff h, ?_, fun s' h => Supply.outcome_eq_of_agree h⟩
  · refine ⟨fun f => (s.found? f).getD f.standard, s.takes_found?, fun value h => ?_⟩
    exact funext fun f => (h f).unique (s.takes_found? f)
  · intro before a after hattempts hfailed
    rw [hattempts]
    exact Loader.run_append_cons_of_ne hfailed

/-- A request to load a file that holds the given text. -/
def requestOf (text : String) (required : Bool) : Attempt where
  files := { homeName := [], entries := [([['s']], .file (Text.encodeUtf8 text.toList))] }
  path := { parts := [['s']] }
  required := required

/-- A value that stands for tabs is their name. -/
theorem eq_some_string_of_unitOf {v? : Option Json} (h : v?.map unitOf = some (.ok .tabs)) :
    v? = some (.string "tabs".toList) := by
  obtain ⟨v, rfl, hv⟩ := Option.map_eq_some_iff.1 h
  cases v with
  | string t =>
    rw [unitOf] at hv
    cases hdecode : Vocabulary.decode? (α := IndentUnit) t with
    | none =>
      rw [hdecode] at hv
      cases hv
    | some u =>
      rw [hdecode] at hv
      cases hv
      rw [← Vocabulary.spelling_of_decode? hdecode]
      rfl
  | _ => cases hv

/-- A required file that is cut off, loaded after a good one, and a width that the caller gives
before two other places, whose values may be good or bad. -/
theorem build_takes_first_masked_width :
    let good := requestOf "\x7b\"indent_unit\":\"tabs\",\"indent_width\":6\x7d" false
    let other := requestOf "\x7b\"indent_unit\":\"tabs\",\"indent_width\":null\x7d" false
    let cutOff := requestOf "[" true
    let overrides := [("indent_width".toList, Json.integer 2), ("indent_unit".toList, .null)]
    let s : Supply := ⟨[good, cutOff], [("MERMAID_FMT_INDENT_WIDTH".toList, "8".toList)], overrides⟩
    let s' : Supply := ⟨[other], [("MERMAID_FMT_INDENT_WIDTH".toList, "-3".toList)], overrides⟩
    (cutOff.on (Loader.run {} [good])).result ≠ .ok true ∧
      Loader.run {} s.attempts = Loader.run {} [good] ∧
      s.outcome = .ok { indentUnit := .tabs, indentWidth := 2 } ∧ s'.outcome = s.outcome := by
  intro good other cutOff overrides s s'
  obtain ⟨-, hvalue, hkeep, hmask⟩ := build_takes_first s
  have hfailed : (cutOff.on (Loader.run {} [good])).result ≠ .ok true := by
    have hnone : (cutOff.on (Loader.run {} [good])).result.toOption = none := by decide +kernel
    intro h
    rw [h] at hnone
    cases hnone
  have hunit : s.value? .indentUnit .file = some (.string "tabs".toList) ∧
      s'.value? .indentUnit .file = some (.string "tabs".toList) :=
    ⟨eq_some_string_of_unitOf (by decide +kernel), eq_some_string_of_unitOf (by decide +kernel)⟩
  have hmessages : s.value? .normalizeMessages .file = none ∧
      s'.value? .normalizeMessages .file = none := by
    rw [← Option.isNone_iff_eq_none, ← Option.isNone_iff_eq_none]
    decide +kernel
  have hpreserve : s.value? .preserveIndentSensitive .file = none ∧
      s'.value? .preserveIndentSensitive .file = none := by
    rw [← Option.isNone_iff_eq_none, ← Option.isNone_iff_eq_none]
    decide +kernel
  refine ⟨hfailed, hkeep [good] cutOff [] rfl hfailed, ?_, hmask s' fun f => ?_⟩
  · refine ((hvalue _ s.takes_found?).1 _).2 fun f => ?_
    rw [Supply.found?_eq]
    cases f with
    | indentUnit =>
      rw [hunit.1]
      rfl
    | indentWidth => rfl
    | normalizeMessages =>
      rw [hmessages.1]
      rfl
    | preserveIndentSensitive =>
      rw [hpreserve.1]
      rfl
  · simp only [Supply.gives_iff]
    by_cases hf : f = .indentWidth
    · subst hf
      refine ⟨.caller, .integer 2, rfl, ?_⟩
      intro q hq w
      cases q with
      | caller => simp only [Supply.value?, s, s']
      | _ => exact absurd hq (by decide)
    · -- every other setting is given alike by all places
      have hsame (q : Place) : s'.value? f q = s.value? f q := by
        cases q with
        | file =>
          cases f with
          | indentWidth => exact absurd rfl hf
          | indentUnit => exact hunit.2.trans hunit.1.symm
          | normalizeMessages => exact hmessages.2.trans hmessages.1.symm
          | preserveIndentSensitive => exact hpreserve.2.trans hpreserve.1.symm
        | _ =>
          unfold Supply.value?
          cases f with
          | indentWidth => exact absurd rfl hf
          | _ => rfl
      exact ⟨.standard, f.standard, rfl, fun q _ w => by rw [hsame]⟩

end Settings

end MermaidTidy

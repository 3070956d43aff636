import Mathlib.Data.Set.Insert
import Mathlib.Tactic
import MermaidTidy.Files.Tree

/-!
# What file operations leave as it is

* `FileTree.bytesAt?` are the bytes of the file at a location;
* `FileTree.AgreeOutside s f g`: the trees `f` and `g` have files and directories at the same places,
  permit the same and hold the same outside the locations `s`. Paths are followed in the same way in
  both, and what a path outside `s` leads to is read in the same way (`AgreeOutside.readText_eq`);
* a file that is written over stays a file, so that a tree agrees outside of it with what it was
  (`agreeOutside_put`, `agreeOutside_append`);
* `sameFiles_makeDirs`: making directories changes no file;
* `Keeps f g`: directories of `f` are directories of `g`, so that paths lead where they led
  (`Keeps.resolve`).
-/

namespace MermaidTidy

/-- Whether something is a file. -/
def FileEntry.isFile : FileEntry → Bool
  | .file _ => true
  | .directory => false

namespace FileTree

/-- The bytes of the file at a location. -/
def bytesAt? (f : FileTree) (l : Location) : Option (List UInt8) :=
  match f.entryAt? l with
  | some (.file bytes) => some bytes
  | _ => none

variable {f g : FileTree} {l k : Location} {bytes : List UInt8} {p : Path}

theorem absolute_congr (h : f.home = g.home) (p : Path) : f.absolute p = g.absolute p := by
  unfold absolute start
  rw [h]

theorem permits_congr (h : f.denied = g.denied) (a : Access) (l : Location) :
    f.permits a l = g.permits a l := by
  unfold permits
  rw [h]

/-! ### Entries -/

theorem entryAt?_of_listed? {e : FileEntry} (h : f.listed? l = some e) : f.entryAt? l = some e := by
  unfold entryAt?
  rw [h]

/-- Files are listed. -/
theorem entryAt?_eq_file_iff : f.entryAt? l = some (.file bytes) ↔ f.listed? l = some (.file bytes) := by
  constructor
  · intro h
    unfold entryAt? at h
    cases hl : f.listed? l with
    | some e =>
      rw [hl] at h
      exact h
    | none =>
      rw [hl] at h
      dsimp only at h
      split_ifs at h
      cases h
  · exact entryAt?_of_listed?

theorem bytesAt?_eq_some_iff : f.bytesAt? l = some bytes ↔ f.entryAt? l = some (.file bytes) := by
  unfold bytesAt?
  rcases f.entryAt? l with _ | ⟨_ | _⟩ <;> simp

/-- The file at a location depends on what is listed there. -/
theorem bytesAt?_congr (h : f.listed? l = g.listed? l) : f.bytesAt? l = g.bytesAt? l := by
  apply Option.ext
  intro bytes
  rw [bytesAt?_eq_some_iff, bytesAt?_eq_some_iff, entryAt?_eq_file_iff, entryAt?_eq_file_iff, h]

@[simp] theorem bytesAt?_put_self (f : FileTree) (l : Location) (bytes : List UInt8) :
    (f.put l (.file bytes)).bytesAt? l = some bytes := by
  rw [bytesAt?_eq_some_iff, entryAt?_put_self]

theorem bytesAt?_put_of_ne (h : l ≠ k) (f : FileTree) (e : FileEntry) :
    (f.put l e).bytesAt? k = f.bytesAt? k := by
  apply bytesAt?_congr
  rw [listed?_put, if_neg h]

theorem map_fst_setEntry {entries : List (Location × FileEntry)} (h : l ∈ entries.map Prod.fst)
    (e : FileEntry) : (setEntry l e entries).map Prod.fst = entries.map Prod.fst := by
  induction entries with
  | nil => cases h
  | cons entry rest ih =>
    rw [setEntry]
    split_ifs with hl
    · rw [List.map_cons, List.map_cons, hl]
    · rw [List.map_cons, List.mem_cons] at h
      rw [List.map_cons, List.map_cons, ih (h.resolve_left fun heq => hl heq.symm)]

/-! ### Agreement -/

/-- The trees have files and directories at the same places, permit the same, and hold the same
outside `s`. -/
structure AgreeOutside (s : Set Location) (f g : FileTree) : Prop where
  home : f.home = g.home
  homeName : f.homeName = g.homeName
  denied : f.denied = g.denied
  isFile (l : Location) : (f.entryAt? l).map FileEntry.isFile = (g.entryAt? l).map FileEntry.isFile
  entryAt? (l : Location) : l ∉ s → f.entryAt? l = g.entryAt? l

namespace AgreeOutside

variable {s t : Set Location} {e : FileTree}

theorem refl (s : Set Location) (f : FileTree) : AgreeOutside s f f :=
  ⟨rfl, rfl, rfl, fun _ => rfl, fun _ _ => rfl⟩

theorem trans (h : AgreeOutside s e f) (h' : AgreeOutside s f g) : AgreeOutside s e g where
  home := h.home.trans h'.home
  homeName := h.homeName.trans h'.homeName
  denied := h.denied.trans h'.denied
  isFile l := (h.isFile l).trans (h'.isFile l)
  entryAt? l hl := (h.entryAt? l hl).trans (h'.entryAt? l hl)

theorem mono (h : AgreeOutside s f g) (hst : s ⊆ t) : AgreeOutside t f g :=
  ⟨h.home, h.homeName, h.denied, h.isFile, fun l hl => h.entryAt? l fun hs => hl (hst hs)⟩

theorem bytesAt? (h : AgreeOutside s f g) (hl : l ∉ s) : f.bytesAt? l = g.bytesAt? l := by
  unfold FileTree.bytesAt?
  rw [h.entryAt? l hl]

theorem exists_file (h : AgreeOutside s f g) {bytes : List UInt8} (hl : f.entryAt? l = some (.file bytes)) :
    ∃ bytes, g.entryAt? l = some (.file bytes) := by
  have hfile := h.isFile l
  rw [hl] at hfile
  obtain ⟨e, he, hkind⟩ := Option.map_eq_some_iff.1 hfile.symm
  cases e with
  | file bytes => exact ⟨bytes, he⟩
  | directory => cases hkind

theorem absolute (h : AgreeOutside s f g) (p : Path) : f.absolute p = g.absolute p :=
  absolute_congr h.home p

theorem pathText (h : AgreeOutside s f g) (p : Path) : f.pathText p = g.pathText p := by
  unfold FileTree.pathText
  rw [h.homeName]

theorem permits (h : AgreeOutside s f g) (a : Access) (l : Location) : f.permits a l = g.permits a l :=
  permits_congr h.denied a l

/-- Names are looked up in the same directories. -/
theorem follow (h : AgreeOutside s f g) (l : Location) (parts : List Text) :
    f.follow l parts = g.follow l parts := by
  induction parts generalizing l with
  | nil => rfl
  | cons part parts ih =>
    have hl := h.isFile l
    rw [FileTree.follow, FileTree.follow, ih]
    rcases hf : f.entryAt? l with _ | e
    · have hg : g.entryAt? l = none := by simpa [hf] using hl.symm
      rw [hg]
    · obtain ⟨e', hg, he⟩ : ∃ e', g.entryAt? l = some e' ∧ e'.isFile = e.isFile := by
        rw [hf] at hl
        exact Option.map_eq_some_iff.1 hl.symm
      rw [hg]
      cases e with
      | file =>
        cases e' with
        | file => rfl
        | directory => cases he
      | directory =>
        cases e' with
        | file => cases he
        | directory => rfl

theorem resolve (h : AgreeOutside s f g) (p : Path) : f.resolve p = g.resolve p := by
  unfold FileTree.resolve start
  rw [h.pathText, h.follow, h.home]

end AgreeOutside

/-! ### Paths -/

theorem walk_of_follow {parts : List Text} (h : f.follow l parts = .ok k) : k = l.walk parts := by
  induction parts generalizing l with
  | nil =>
    cases h
    rfl
  | cons part parts ih =>
    rw [follow] at h
    rcases hl : f.entryAt? l with _ | ⟨_ | _⟩
    · rw [hl] at h
      cases h
    · rw [hl] at h
      cases h
    · rw [hl] at h
      dsimp only at h
      split_ifs at h
      exact ih h

/-- A path that leads somewhere leads where its names say. -/
theorem absolute_of_resolve (h : f.resolve p = .ok l) : l = f.absolute p := by
  unfold resolve at h
  split_ifs at h
  exact walk_of_follow h

theorem readBytes_eq_ok_iff :
    f.readBytes p = .ok bytes ↔
      f.resolve p = .ok (f.absolute p) ∧ f.entryAt? (f.absolute p) = some (.file bytes) ∧
        f.permits .read (f.absolute p) = true := by
  unfold readBytes
  cases hresolve : f.resolve p with
  | error cause => simp
  | ok l =>
    rw [absolute_of_resolve hresolve]
    dsimp only
    rcases f.entryAt? (f.absolute p) with _ | ⟨_ | _⟩
    · simp
    · by_cases hread : f.permits .read (f.absolute p) = true <;> simp [hread]
    · simp

/-- What can be read can be written over if that is permitted. -/
theorem write_of_readBytes {old : List UInt8} (h : f.readBytes p = .ok old) (bytes : List UInt8) :
    f.write p bytes = if f.permits .write (f.absolute p) then .ok (f.put (f.absolute p) (.file bytes))
      else .error (f.fault p .notPermitted) := by
  obtain ⟨hresolve, hentry, -⟩ := readBytes_eq_ok_iff.1 h
  unfold write canWrite
  rw [hresolve]
  dsimp only
  rw [hentry]

/-- A file that can be read exists. -/
theorem contains_of_readText {text : Text} (h : f.readText p = .ok text) : f.contains p = .ok true := by
  unfold readText at h
  unfold contains
  by_cases hnull : p.hasNull
  · simp [hnull] at h
  · simp only [hnull, Bool.false_eq_true, if_false] at h ⊢
    cases hl : f.resolve p with
    | error cause => simp [readBytes, hl] at h
    | ok l =>
      cases he : f.entryAt? l with
      | none => simp [readBytes, hl, he] at h
      | some e => simp [he]

theorem AgreeOutside.readBytes {s : Set Location} (h : AgreeOutside s f g) (hp : f.absolute p ∉ s) :
    f.readBytes p = g.readBytes p := by
  unfold FileTree.readBytes fault
  rw [← h.resolve, ← h.pathText]
  cases hresolve : f.resolve p with
  | error cause => rfl
  | ok l =>
    rw [← absolute_of_resolve hresolve] at hp
    dsimp only
    rw [h.entryAt? l hp, h.permits]

/-- What lies outside is read in the same way. -/
theorem AgreeOutside.readText_eq {s : Set Location} (h : AgreeOutside s f g) (hp : f.absolute p ∉ s) :
    f.readText p = g.readText p := by
  unfold readText
  rw [h.readBytes hp]

/-! ### Files that are written over -/

/-- A file with other bytes is a file as before. -/
theorem agreeOutside_put {old : List UInt8} (h : f.entryAt? l = some (.file old)) (bytes : List UInt8) :
    AgreeOutside {l} f (f.put l (.file bytes)) := by
  have hmem : l ∈ f.entries.map Prod.fst := by
    have hlisted := entryAt?_eq_file_iff.1 h
    unfold listed? at hlisted
    obtain ⟨entry, hfind, -⟩ := Option.map_eq_some_iff.1 hlisted
    have hl : entry.1 = l := by simpa using List.find?_some hfind
    exact hl ▸ List.mem_map_of_mem (List.mem_of_find?_eq_some hfind)
  have hany (k : Location) : (f.put l (.file bytes)).entries.any (k.isPrefixOf ·.1) =
      f.entries.any (k.isPrefixOf ·.1) := by
    have hmap (entries : List (Location × FileEntry)) :
        entries.any (k.isPrefixOf ·.1) = (entries.map Prod.fst).any k.isPrefixOf := by
      rw [List.any_map]
      rfl
    rw [hmap, hmap, put, map_fst_setEntry hmem]
  have hother {k : Location} (hk : k ≠ l) : f.entryAt? k = (f.put l (.file bytes)).entryAt? k := by
    unfold entryAt?
    rw [hany, listed?_put, if_neg hk.symm]
    rfl
  refine ⟨rfl, rfl, rfl, fun k => ?_, fun k hk => hother hk⟩
  by_cases hk : k = l
  · rw [hk, h, entryAt?_put_self]
    rfl
  · rw [hother hk]

/-- Adding bytes leaves a file. -/
theorem exists_append_eq (f : FileTree) (l : Location) (bytes : List UInt8) :
    ∃ bytes', f.append l bytes = f.put l (.file bytes') := by
  unfold append
  split
  · exact ⟨_, rfl⟩
  · exact ⟨_, rfl⟩

theorem agreeOutside_append {old : List UInt8} (h : f.entryAt? l = some (.file old))
    (bytes : List UInt8) : AgreeOutside {l} f (f.append l bytes) := by
  unfold append
  rw [h]
  exact agreeOutside_put h (old ++ bytes)

/-! ### Directories that are made -/

/-- The trees have the same files and the same working directory. -/
structure SameFiles (f g : FileTree) : Prop where
  home : f.home = g.home
  bytesAt? (l : Location) : f.bytesAt? l = g.bytesAt? l

theorem sameFiles_put_directory (h : f.entryAt? l = none) : SameFiles f (f.put l .directory) := by
  refine ⟨rfl, fun k => ?_⟩
  by_cases hk : l = k
  · subst hk
    unfold bytesAt?
    rw [h, entryAt?_put_self]
  · rw [bytesAt?_put_of_ne hk]

theorem SameFiles.refl (f : FileTree) : SameFiles f f := ⟨rfl, fun _ => rfl⟩

theorem SameFiles.absolute (h : SameFiles f g) (p : Path) : f.absolute p = g.absolute p :=
  absolute_congr h.home p

theorem SameFiles.trans {e : FileTree} (h : SameFiles e f) (h' : SameFiles f g) : SameFiles e g :=
  ⟨h.home.trans h'.home, fun l => (h.bytesAt? l).trans (h'.bytesAt? l)⟩

/-- The tree with a directory at a path; the directory above must exist. -/
def makeDir (f : FileTree) (path : Path) : Except FileFault FileTree :=
  match f.resolve path with
  | .error cause => .error (f.fault path cause)
  | .ok l =>
    match f.entryAt? l with
    | none =>
      if f.canWrite l then .ok (f.put l .directory) else .error (f.fault path .notPermitted)
    | some .directory => .ok f
    | some (.file _) => .error (f.fault path .alreadyExists)

/-- A directory is there already, or it is put where nothing is. -/
theorem makeDir_cases (h : f.makeDir p = .ok g) :
    g = f ∨ ∃ l, f.entryAt? l = none ∧ g = f.put l .directory := by
  unfold makeDir at h
  cases hresolve : f.resolve p with
  | error cause =>
    rw [hresolve] at h
    cases h
  | ok l =>
    rw [hresolve] at h
    dsimp only at h
    rcases hentry : f.entryAt? l with _ | ⟨_ | _⟩
    · rw [hentry] at h
      dsimp only at h
      split_ifs at h
      cases h
      exact .inr ⟨l, hentry, rfl⟩
    · rw [hentry] at h
      cases h
    · rw [hentry] at h
      cases h
      exact .inl rfl

/-- A directory is made directly, or after the directories above it. -/
theorem makeDirsUp_cons (anchor : Path.Anchor) (part : Text) (up : List Text) :
    f.makeDirsUp anchor (part :: up) = f.makeDir ⟨anchor, (part :: up).reverse⟩ ∨
      f.makeDirsUp anchor (part :: up) =
        f.makeDirsUp anchor up >>= (makeDir · ⟨anchor, (part :: up).reverse⟩) := by
  rw [makeDirsUp]
  split
  · exact .inr rfl
  · exact .inl rfl

/-- What putting a directory where nothing is keeps is kept when directories are made. -/
theorem makeDirs_induction {R : FileTree → FileTree → Prop} (hrefl : ∀ f, R f f)
    (htrans : ∀ {e f g}, R e f → R f g → R e g)
    (hput : ∀ {f l}, f.entryAt? l = none → R f (f.put l .directory)) (h : f.makeDirs p = .ok g) :
    R f g := by
  have hmake {f g : FileTree} {p : Path} (h : f.makeDir p = .ok g) : R f g := by
    rcases makeDir_cases h with rfl | ⟨l, hl, rfl⟩
    · exact hrefl g
    · exact hput hl
  have hup {anchor : Path.Anchor} {up : List Text} {f g : FileTree}
      (h : f.makeDirsUp anchor up = .ok g) : R f g := by
    induction up generalizing f g with
    | nil =>
      cases h
      exact hrefl f
    | cons part up ih =>
      rcases makeDirsUp_cons (f := f) anchor part up with hcons | hcons
      · rw [hcons] at h
        exact hmake h
      · rw [hcons] at h
        cases hup : f.makeDirsUp anchor up with
        | error fault =>
          rw [hup] at h
          cases h
        | ok above =>
          rw [hup] at h
          exact htrans (ih hup) (hmake h)
  exact hup h

/-- Making directories changes no file. -/
theorem sameFiles_makeDirs (h : f.makeDirs p = .ok g) : SameFiles f g :=
  makeDirs_induction SameFiles.refl SameFiles.trans sameFiles_put_directory h

/-! ### Directories that stay -/

/-- The trees have the same working directory and permit the same, and the directories of the first
are directories of the second. -/
structure Keeps (f g : FileTree) : Prop where
  home : f.home = g.home
  homeName : f.homeName = g.homeName
  denied : f.denied = g.denied
  directory (l : Location) : f.entryAt? l = some .directory → g.entryAt? l = some .directory

namespace Keeps

theorem refl (f : FileTree) : Keeps f f := ⟨rfl, rfl, rfl, fun _ h => h⟩

theorem trans {e : FileTree} (h : Keeps e f) (h' : Keeps f g) : Keeps e g where
  home := h.home.trans h'.home
  homeName := h.homeName.trans h'.homeName
  denied := h.denied.trans h'.denied
  directory l hl := h'.directory l (h.directory l hl)

theorem absolute (h : Keeps f g) (p : Path) : f.absolute p = g.absolute p :=
  absolute_congr h.home p

theorem follow (h : Keeps f g) {parts : List Text} (hf : f.follow l parts = .ok k) :
    g.follow l parts = .ok k := by
  induction parts generalizing l with
  | nil => exact hf
  | cons part parts ih =>
    rw [FileTree.follow] at hf ⊢
    rcases hl : f.entryAt? l with _ | ⟨_ | _⟩
    · rw [hl] at hf
      cases hf
    · rw [hl] at hf
      cases hf
    · rw [hl] at hf
      rw [h.directory l hl]
      dsimp only at hf ⊢
      split_ifs at hf ⊢
      exact ih hf

/-- A path leads where it led. -/
theorem resolve (h : Keeps f g) (hf : f.resolve p = .ok l) : g.resolve p = .ok l := by
  unfold FileTree.resolve FileTree.pathText start at hf ⊢
  rw [← h.homeName, ← h.home]
  split_ifs at hf ⊢
  exact h.follow hf

/-- A file that is as it was is read as it was. -/
theorem readBytes (h : Keeps f g) (hbytes : g.bytesAt? (f.absolute p) = f.bytesAt? (f.absolute p))
    (hf : f.readBytes p = .ok bytes) : g.readBytes p = .ok bytes := by
  obtain ⟨hresolve, hentry, hread⟩ := readBytes_eq_ok_iff.1 hf
  rw [bytesAt?_eq_some_iff.2 hentry, bytesAt?_eq_some_iff] at hbytes
  rw [readBytes_eq_ok_iff, ← h.absolute, ← permits_congr h.denied]
  exact ⟨h.resolve hresolve, hbytes, hread⟩

end Keeps

theorem AgreeOutside.keeps {s : Set Location} (h : AgreeOutside s f g) : Keeps f g where
  home := h.home
  homeName := h.homeName
  denied := h.denied
  directory l hl := by
    have hfile := h.isFile l
    rw [hl] at hfile
    obtain ⟨e, he, hkind⟩ := Option.map_eq_some_iff.1 hfile.symm
    cases e with
    | file bytes => cases hkind
    | directory => exact he

theorem mem_map_fst_setEntry {entries : List (Location × FileEntry)} (e : FileEntry)
    (hk : k ∈ entries.map Prod.fst) : k ∈ (setEntry l e entries).map Prod.fst := by
  induction entries with
  | nil => cases hk
  | cons entry rest ih =>
    rw [List.map_cons, List.mem_cons] at hk
    rw [setEntry]
    split_ifs with hl
    · rwa [List.map_cons, List.mem_cons, ← hl]
    · rw [List.map_cons, List.mem_cons]
      exact hk.imp_right ih

/-- What is put over no directory, or is one itself, leaves all directories. -/
theorem keeps_put {e : FileEntry} (h : f.entryAt? l = some .directory → e = .directory) :
    Keeps f (f.put l e) := by
  refine ⟨rfl, rfl, rfl, fun k hk => ?_⟩
  by_cases hl : l = k
  · subst hl
    rw [entryAt?_put_self, h hk]
  · unfold entryAt? at hk ⊢
    rw [listed?_put, if_neg hl]
    cases hlisted : f.listed? k with
    | some e' =>
      rw [hlisted] at hk
      exact hk
    | none =>
      rw [hlisted] at hk
      dsimp only at hk ⊢
      split_ifs at hk with hany
      refine if_pos ?_
      -- everything that lies below stays where it is
      rw [Bool.or_eq_true, List.any_eq_true] at hany ⊢
      refine hany.imp_right fun ⟨entry, hmem, hentry⟩ => ?_
      obtain ⟨entry', hmem', heq⟩ := List.mem_map.1
        (mem_map_fst_setEntry (l := l) e (List.mem_map_of_mem (f := Prod.fst) hmem))
      exact ⟨entry', hmem', heq ▸ hentry⟩

theorem keeps_makeDirs (h : f.makeDirs p = .ok g) : Keeps f g :=
  makeDirs_induction Keeps.refl Keeps.trans (fun _ => keeps_put fun _ => rfl) h

end FileTree

end MermaidTidy

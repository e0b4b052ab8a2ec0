import Mathlib.Tactic.Common
import MiniApp.Archive.Package
import MiniApp.Proofs.Slug

set_option autoImplicit false

namespace MiniApp

open ArchivePath

namespace Archive

def paths (a : Archive) : List String := a.entries.map ArchiveEntry.path

theorem contains_eq_false_iff (a : Archive) (path : String) :
    a.contains path = false ↔ path ∉ a.paths := by
  simp [contains, paths]

theorem checkPath_eq_ok_iff (path : String) : checkPath path = .ok () ↔ fault? path = none := by
  rw [checkPath]
  cases fault? path <;> simp

theorem add_eq_ok_iff (a b : Archive) (path content : String) :
    a.add path content = .ok b ↔
      fault? path = none ∧ path ∉ a.paths ∧ b = ⟨a.entries ++ [⟨path, content⟩]⟩ := by
  rw [add, ← checkPath_eq_ok_iff, ← contains_eq_false_iff]
  cases checkPath path with
  | error e => simp
  | ok _ => cases a.contains path <;> simp [eq_comm]

def packed (folder : String) (f : SourceFile) : ArchiveEntry := ⟨folder ++ "/" ++ f.path, f.content⟩

theorem addFiles_cons_iff (folder : String) (a b : Archive) (f : SourceFile) (fs : List SourceFile) :
    addFiles folder a (f :: fs) = .ok b ↔ fault? f.path = none ∧
      ∃ next, a.add (folder ++ "/" ++ f.path) f.content = .ok next ∧
        addFiles folder next fs = .ok b := by
  rw [addFiles, ← checkPath_eq_ok_iff]
  cases checkPath f.path with
  | error e => simp
  | ok _ => cases a.add (folder ++ "/" ++ f.path) f.content <;> simp

/-- What some files add, by induction on them: an entry for each. The paths that are taken grow with
the archive, so a file must differ from those packed before it and from the ones in front of it. -/
theorem addFiles_eq_ok_iff (folder : String) (a b : Archive) (fs : List SourceFile) :
    addFiles folder a fs = .ok b ↔
      (∀ f ∈ fs, fault? f.path = none ∧ fault? folder = none ∧ folder ++ "/" ++ f.path ∉ a.paths) ∧
        (fs.map SourceFile.path).Nodup ∧ b = ⟨a.entries ++ fs.map (packed folder)⟩ := by
  induction fs generalizing a with
  | nil => simp [addFiles, eq_comm]
  | cons f fs ih =>
    have taken (g : SourceFile) (next : Archive)
        (grown : next = ⟨a.entries ++ [packed folder f]⟩) :
        folder ++ "/" ++ g.path ∉ next.paths ↔
          folder ++ "/" ++ g.path ∉ a.paths ∧ g.path ≠ f.path := by
      simp only [grown, paths, packed, List.map_append, List.map_cons, List.map_nil, List.mem_append,
        List.mem_singleton, join_inj, not_or, ne_eq]
    rw [addFiles_cons_iff]
    constructor
    · rintro ⟨sound, next, added, rest⟩
      obtain ⟨joined, new, grown⟩ := (add_eq_ok_iff ..).1 added
      obtain ⟨all, apart, result⟩ := (ih next).1 rest
      refine ⟨List.forall_mem_cons.2 ⟨⟨sound, ((fault?_join_eq_none_iff ..).1 joined).1, new⟩, ?_⟩,
        List.nodup_cons.2 ⟨?_, apart⟩, ?_⟩
      · intro g hg
        obtain ⟨sound', folderSound, new'⟩ := all g hg
        exact ⟨sound', folderSound, ((taken g next grown).1 new').1⟩
      · rintro hf
        obtain ⟨g, hg, same⟩ := List.mem_map.1 hf
        exact ((taken g next grown).1 (all g hg).2.2).2 same
      · rw [result, grown, List.append_assoc]
        rfl
    · rintro ⟨all, apart, result⟩
      obtain ⟨⟨sound, folderSound, new⟩, all⟩ := List.forall_mem_cons.1 all
      obtain ⟨fresh, apart⟩ := List.nodup_cons.1 apart
      refine ⟨sound, ⟨a.entries ++ [packed folder f]⟩, (add_eq_ok_iff ..).2
        ⟨(fault?_join_eq_none_iff ..).2 ⟨folderSound, sound⟩, new, rfl⟩, (ih _).2 ⟨?_, apart, ?_⟩⟩
      · intro g hg
        obtain ⟨sound', _, new'⟩ := all g hg
        refine ⟨sound', folderSound, (taken g _ rfl).2 ⟨new', fun same => fresh ?_⟩⟩
        exact List.mem_map.2 ⟨g, hg, same⟩
      · rw [result, List.append_assoc]
        rfl

end Archive

namespace Project

structure Packable (p : Project) : Prop where
  shows : p.files ≠ []
  sound : ∀ path ∈ p.paths, fault? path = none
  folder : fault? p.folder = none
  apart : p.paths.Nodup

end Project

theorem Archive.ofProject_eq_ok_iff (p : Project) (a : Archive) :
    ofProject p = .ok a ↔ p.Packable ∧ a = ⟨p.files.map (packed p.folder)⟩ := by
  rw [ofProject]
  split
  case isTrue none =>
    have noFiles : ¬ p.Packable := fun h => h.shows (List.isEmpty_iff.1 none)
    simp [noFiles]
  case isFalse some =>
    have shows : p.files ≠ [] := fun h => some (List.isEmpty_iff.2 h)
    rw [addFiles_eq_ok_iff]
    constructor
    · rintro ⟨all, apart, result⟩
      obtain ⟨f, hf⟩ := List.exists_mem_of_ne_nil _ shows
      exact ⟨⟨shows, List.forall_mem_map.2 fun g hg => (all g hg).1, (all f hf).2.1, apart⟩, result⟩
    · rintro ⟨packable, result⟩
      exact ⟨fun f hf => ⟨packable.sound _ (List.mem_map_of_mem hf), packable.folder,
        List.not_mem_nil⟩, packable.apart, result⟩

namespace Project

def scaffoldPaths (submission : Bool) : List String :=
  ["package.json", "tsconfig.json", "vite.config.ts", "index.html", "README.md", "src/main.tsx",
    "src/App.tsx", "src/index.css", "src/bridge.ts", "src/components.tsx"] ++
  if submission then ["src/pages/PrivacyPolicy.tsx"] else []

theorem map_path_scaffold (o : ProjectOptions) (slug : String) (app : AppSource) :
    (scaffold o slug app).map SourceFile.path = scaffoldPaths o.submission := by
  rw [scaffold, scaffoldPaths, List.map_append]
  cases o.submission <;> rfl

theorem sound_scaffoldPaths : ∀ submission, ∀ path ∈ scaffoldPaths submission, fault? path = none := by
  decide +kernel

theorem nodup_scaffoldPaths : ∀ submission, (scaffoldPaths submission).Nodup := by
  decide

theorem folder_of_slug {p : Project} (h : p.slug = Slug.ofName p.name) : p.folder = p.slug := by
  rw [folder, ← h, ite_self]

theorem packable_assemble (o : ProjectOptions) (app : AppSource) (isPlaceholder : Bool) :
    (assemble o app isPlaceholder).Packable := by
  have paths : (assemble o app isPlaceholder).paths = scaffoldPaths o.submission :=
    map_path_scaffold o _ app
  refine ⟨List.cons_ne_nil _ _, ?_, ?_, ?_⟩
  · rw [paths]
    exact sound_scaffoldPaths _
  · have named : (assemble o app isPlaceholder).slug = Slug.ofName o.name := by rw [assemble]
    have name : (assemble o app isPlaceholder).name = o.name := by rw [assemble]
    rw [folder_of_slug (by rw [named, name]), named]
    exact fault?_ofName o.name
  · rw [paths]
    exact nodup_scaffoldPaths _

theorem packable_ofRead (o : ProjectOptions) (read : Except GraphError Graph) :
    (ofRead o read).Packable := by
  cases read with
  | ok g => exact packable_assemble ..
  | error e => exact packable_assemble ..

end Project

/-- Packing loses nothing, and whatever was generated can be packed. A project is packed exactly when
it has files, their paths and its folder's are sound and no path occurs twice; the archive then holds
the project's files in order, each inside the folder. -/
theorem packaging_lossless :
    (∀ p : Project, (∃ a, Archive.ofProject p = .ok a) ↔ p.Packable) ∧
    (∀ (p : Project) (a : Archive), Archive.ofProject p = .ok a →
      (a.entries = p.files.map fun f => ⟨p.folder ++ "/" ++ f.path, f.content⟩) ∧
        ∀ e ∈ a.entries, Inside p.folder e.path) ∧
    ∀ (o : ProjectOptions) (text : String), ∃ a, Archive.ofProject (Project.ofText o text) = .ok a := by
  have packs (p : Project) (h : p.Packable) : ∃ a, Archive.ofProject p = .ok a :=
    ⟨_, (Archive.ofProject_eq_ok_iff p _).2 ⟨h, rfl⟩⟩
  refine ⟨fun p => ⟨?_, packs p⟩, ?_, fun o text => packs _ (Project.packable_ofRead o _)⟩
  · rintro ⟨a, ha⟩
    exact ((Archive.ofProject_eq_ok_iff p a).1 ha).1
  · intro p a ha
    obtain ⟨packable, rfl⟩ := (Archive.ofProject_eq_ok_iff p a).1 ha
    refine ⟨rfl, List.forall_mem_map.2 fun f hf => ?_⟩
    exact inside_join p.folder (packable.sound _ (List.mem_map_of_mem hf))

/-- The folder is the slug where there is one, whatever the project is called. -/
theorem packaging_lossless_slug :
    let p : Project := ⟨"Acme", "shop", [⟨"src/App.tsx", "a"⟩, ⟨"index.html", "b"⟩], false⟩
    let entries := [⟨"shop/src/App.tsx", "a"⟩, ⟨"shop/index.html", "b"⟩]
    p.Packable ∧ Archive.ofProject p = .ok ⟨entries⟩ ∧
      ∀ e ∈ entries, Inside "shop" e.path := by
  intro p entries
  obtain ⟨packs, holds, -⟩ := packaging_lossless
  have packed : Archive.ofProject p = .ok ⟨entries⟩ := by decide +kernel
  exact ⟨(packs p).1 ⟨_, packed⟩, packed, (holds p _ packed).2⟩

end MiniApp

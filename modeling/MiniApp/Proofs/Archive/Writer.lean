import Mathlib.Data.List.Nodup
import MiniApp.Archive.Writer
import MiniApp.Proofs.Archive.Package

set_option autoImplicit false

namespace MiniApp

open ArchivePath

section Accepted

variable {β : Type}

def accept (log : List (String × β)) (f : String × β) : List (String × β) :=
  if fault? f.1 = none ∧ f.1 ∉ log.map Prod.fst then log ++ [f] else log

/-- The files that are accepted of some, in order. -/
def accepted (files : List (String × β)) : List (String × β) := files.foldl accept []

theorem foldl_accept_of_sound {log files : List (String × β)} (sound : ∀ f ∈ files, fault? f.1 = none)
    (apart : ((log ++ files).map Prod.fst).Nodup) : files.foldl accept log = log ++ files := by
  induction files generalizing log with
  | nil => rw [List.foldl_nil, List.append_nil]
  | cons f files ih =>
    rw [List.forall_mem_cons] at sound
    have regroup : log ++ f :: files = (log ++ [f]) ++ files := by simp
    rw [regroup] at apart
    have new : f.1 ∉ log.map Prod.fst := by
      rw [List.map_append, List.map_append] at apart
      have first := (List.nodup_append.1 apart).1
      exact fun h => (List.nodup_append.1 first).2.2 _ h _ (List.mem_singleton_self _) rfl
    rw [List.foldl_cons, accept, if_pos ⟨sound.1, new⟩, ih sound.2 apart, regroup]

theorem sound_accept {log : List (String × β)} (f : String × β)
    (h : (∀ g ∈ log, fault? g.1 = none) ∧ (log.map Prod.fst).Nodup) :
    (∀ g ∈ accept log f, fault? g.1 = none) ∧ ((accept log f).map Prod.fst).Nodup := by
  rw [accept]
  split
  · next new =>
    rw [List.map_append, List.map_singleton]
    refine ⟨List.forall_mem_append.2 ⟨h.1, List.forall_mem_singleton.2 new.1⟩, ?_⟩
    exact List.nodup_append.2 ⟨h.2, List.nodup_singleton _, fun p hp q hq same =>
      new.2 (List.mem_singleton.1 hq ▸ same ▸ hp)⟩
  · exact h

theorem sound_accepted (files : List (String × β)) :
    (∀ f ∈ accepted files, fault? f.1 = none) ∧ ((accepted files).map Prod.fst).Nodup := by
  have run (log : List (String × β))
      (h : (∀ f ∈ log, fault? f.1 = none) ∧ (log.map Prod.fst).Nodup) :
      (∀ f ∈ files.foldl accept log, fault? f.1 = none) ∧
        ((files.foldl accept log).map Prod.fst).Nodup := by
    induction files generalizing log with
    | nil => exact h
    | cons f files ih => exact ih _ (sound_accept f h)
  exact run [] ⟨by simp, List.nodup_nil⟩

theorem accepted_accepted (files : List (String × β)) : accepted (accepted files) = accepted files := by
  obtain ⟨sound, apart⟩ := sound_accepted files
  have all : (accepted files).foldl accept [] = [] ++ accepted files :=
    foldl_accept_of_sound sound apart
  exact all

theorem accepted_map {γ : Type} (g : β → γ) (files : List (String × β)) :
    accepted (files.map fun f => (f.1, g f.2)) = (accepted files).map fun f => (f.1, g f.2) := by
  have run (log : List (String × β)) :
      (files.map fun f => (f.1, g f.2)).foldl accept (log.map fun f => (f.1, g f.2)) =
        (files.foldl accept log).map fun f => (f.1, g f.2) := by
    induction files generalizing log with
    | nil => rfl
    | cons f files ih =>
      rw [List.map_cons, List.foldl_cons, List.foldl_cons, ← ih]
      congr 1
      have paths : (log.map fun f => (f.1, g f.2)).map Prod.fst = log.map Prod.fst := by
        rw [List.map_map]
        rfl
      rw [accept, accept, paths]
      split
      · rw [List.map_append, List.map_singleton]
      · rfl
  exact run []

end Accepted

namespace Archive

def put (a : Archive) (path content : String) : Archive :=
  match a.add path content with
  | .ok b => b
  | .error _ => a

def ofTexts (texts : List (String × String)) : Archive :=
  texts.foldl (fun a f => a.put f.1 f.2) empty

theorem entries_put {a : Archive} {log : List (String × String)}
    (h : a.entries = log.map fun f => ⟨f.1, f.2⟩) (f : String × String) :
    (a.put f.1 f.2).entries = (accept log f).map fun f => ⟨f.1, f.2⟩ := by
  have paths : a.paths = log.map Prod.fst := by
    rw [Archive.paths, h, List.map_map]
    rfl
  rw [put, accept, ← paths]
  split
  · next b added =>
    obtain ⟨sound, new, rfl⟩ := (add_eq_ok_iff a b f.1 f.2).1 added
    rw [if_pos ⟨sound, new⟩, List.map_append, ← h]
    rfl
  · next e refused =>
    have old : ¬ (fault? f.1 = none ∧ f.1 ∉ a.paths) := by
      rintro ⟨sound, new⟩
      rw [(add_eq_ok_iff a _ f.1 f.2).2 ⟨sound, new, rfl⟩] at refused
      cases refused
    rw [if_neg old, h]

theorem entries_ofTexts (texts : List (String × String)) :
    (ofTexts texts).entries = (accepted texts).map fun f => ⟨f.1, f.2⟩ := by
  have run (log : List (String × String)) (a : Archive) (h : a.entries = log.map fun f => ⟨f.1, f.2⟩) :
      (texts.foldl (fun a f => a.put f.1 f.2) a).entries =
        (texts.foldl accept log).map fun f => ⟨f.1, f.2⟩ := by
    induction texts generalizing log a with
    | nil => exact h
    | cons f texts ih => exact ih _ _ (entries_put h f)
  exact run [] empty rfl

theorem paths_ofTexts (texts : List (String × String)) :
    (ofTexts texts).paths = (accepted texts).map Prod.fst := by
  rw [paths, entries_ofTexts, List.map_map]
  rfl

end Archive

/-- What a zip library promises about the files that it holds in a state. A name that is taken is
refused, and the files stay; any other can be started, and what is written then becomes the last file.
A finished archive is made of the files alone, and it shows them. -/
structure ZipLibrary.Lawful {State Bytes : Type} (lib : ZipLibrary State Bytes)
    (held : State → List PackedFile) : Prop where
  new : held lib.new = []
  taken : ∀ z name options, name ∈ (held z).map PackedFile.path →
    ∃ text z', lib.startFile z name options = (.error text, z') ∧ held z' = held z
  free : ∀ z name options, name ∉ (held z).map PackedFile.path →
    ∃ z', lib.startFile z name options = (.ok (), z')
  write : ∀ z name options z', lib.startFile z name options = (.ok (), z') → ∀ content,
    ∃ z'', lib.writeAll z' content = (.ok (), z'') ∧ held z'' = held z ++ [⟨name, content, options⟩]
  finish : ∀ z, ∃ bytes, lib.finish z = .ok bytes ∧ lib.filesIn bytes = held z
  same : ∀ z z', held z = held z' → lib.finish z = lib.finish z'

namespace ArchiveWriter

variable {State Bytes : Type} {lib : ZipLibrary State Bytes} {held : State → List PackedFile}

def packed (f : String × ByteArray) : PackedFile := ⟨f.1, f.2, .fixed⟩

structure Holds (held : State → List PackedFile) (log : List (String × ByteArray))
    (w : ArchiveWriter State) : Prop where
  files : held w.zip = log.map packed
  options : w.options = .fixed
  count : w.count = log.length

theorem holds_new (laws : lib.Lawful held) : Holds held [] (new lib) := ⟨laws.new, rfl, rfl⟩

section Step

variable {log : List (String × ByteArray)} {w : ArchiveWriter State}

theorem Holds.addFile (h : Holds held log w) (laws : lib.Lawful held) (f : String × ByteArray) :
    (fault? f.1 = none ∧ f.1 ∉ log.map Prod.fst ∧
        ∃ w', w.addFile lib f.1 f.2 = (.ok (), w') ∧ Holds held (log ++ [f]) w') ∨
      (¬ (fault? f.1 = none ∧ f.1 ∉ log.map Prod.fst) ∧
        ∃ e w', w.addFile lib f.1 f.2 = (.error e, w') ∧ Holds held log w') := by
  have paths : (held w.zip).map PackedFile.path = log.map Prod.fst := by
    rw [h.files, List.map_map]
    rfl
  rw [ArchiveWriter.addFile]
  cases fault : fault? f.1 with
  | some fault => exact .inr ⟨fun new => Option.some_ne_none _ new.1, _, w, rfl, h⟩
  | none =>
    by_cases there : f.1 ∈ log.map Prod.fst
    · obtain ⟨text, z, start, kept⟩ := laws.taken w.zip f.1 w.options (paths ▸ there)
      simp only [start]
      exact .inr ⟨fun new => new.2 there, _, _, rfl, kept.trans h.files, h.options, h.count⟩
    · obtain ⟨z, start⟩ := laws.free w.zip f.1 w.options (paths ▸ there)
      obtain ⟨z', write, put⟩ := laws.write _ _ _ _ start f.2
      simp only [start, write]
      refine .inl ⟨trivial, there, _, rfl, ?_, h.options, ?_⟩
      · rw [put, h.files, h.options, List.map_append]
        rfl
      · rw [h.count, List.length_append, List.length_singleton]

theorem Holds.accept (h : Holds held log w) (laws : lib.Lawful held) (f : String × ByteArray) :
    Holds held (accept log f) (w.addFile lib f.1 f.2).2 := by
  rcases h.addFile laws f with ⟨sound, new, w', added, grown⟩ | ⟨old, e, w', refused, kept⟩
  · rw [MiniApp.accept, if_pos ⟨sound, new⟩, added]
    exact grown
  · rw [MiniApp.accept, if_neg old, refused]
    exact kept

theorem Holds.accepts_iff (h : Holds held log w) (laws : lib.Lawful held) (f : String × ByteArray) :
    (w.addFile lib f.1 f.2).1 = .ok () ↔ fault? f.1 = none ∧ f.1 ∉ log.map Prod.fst := by
  rcases h.addFile laws f with ⟨sound, new, w', added, -⟩ | ⟨old, e, w', refused, -⟩
  · rw [added]
    exact iff_of_true rfl ⟨sound, new⟩
  · rw [refused]
    exact iff_of_false (fun ok => nomatch ok) old

/-- What any files make of a writer, by induction on them. -/
theorem Holds.addFiles (h : Holds held log w) (laws : lib.Lawful held)
    (files : List (String × ByteArray)) :
    Holds held (files.foldl MiniApp.accept log) (w.addFiles lib files) := by
  induction files generalizing log w with
  | nil => exact h
  | cons f files ih => exact ih (h.accept laws f)

theorem Holds.finish_shows (h : Holds held log w) (laws : lib.Lawful held) :
    ∃ bytes, w.finish lib = .ok bytes ∧ lib.filesIn bytes = log.map packed := by
  obtain ⟨bytes, done, shows⟩ := laws.finish w.zip
  refine ⟨bytes, ?_, shows.trans h.files⟩
  rw [finish, done]

theorem Holds.finish_eq {w' : ArchiveWriter State} (h : Holds held log w) (h' : Holds held log w')
    (laws : lib.Lawful held) : w.finish lib = w'.finish lib := by
  rw [finish, finish, laws.same w.zip w'.zip (h.files.trans h'.files.symm)]

end Step

/-- What is known of a writer that was handed some files. -/
structure Grows (lib : ZipLibrary State Bytes) (files : List (String × ByteArray))
    (w : ArchiveWriter State) : Prop where
  accepts : ∀ path content, (w.addFile lib path content).1 = .ok () ↔
    fault? path = none ∧ path ∉ (accepted files).map Prod.fst
  refuses : ∀ path content, (w.addFile lib path content).1 ≠ .ok () →
    (w.addFile lib path content).2.count = w.count ∧
      ∀ more, ((w.addFile lib path content).2.addFiles lib more).count = (w.addFiles lib more).count ∧
        ((w.addFile lib path content).2.addFiles lib more).finish lib =
          (w.addFiles lib more).finish lib
  count : w.count = (accepted files).length
  finish : ∃ bytes, w.finish lib = .ok bytes ∧
    lib.filesIn bytes = (accepted files).map fun f => ⟨f.1, f.2, .fixed⟩
  rest : w.finish lib = ((new lib).addFiles lib (accepted files)).finish lib

theorem grows_addFiles (laws : lib.Lawful held) (files : List (String × ByteArray)) :
    Grows lib files ((new lib).addFiles lib files) := by
  have h : Holds held (accepted files) ((new lib).addFiles lib files) :=
    (holds_new laws).addFiles laws files
  constructor
  case accepts => exact fun path content => h.accepts_iff laws (path, content)
  case refuses =>
    intro path content refused
    have kept := h.accept laws (path, content)
    rw [accept, if_neg fun new => refused ((h.accepts_iff laws (path, content)).2 new)] at kept
    refine ⟨kept.count.trans h.count.symm, fun more => ?_⟩
    have later := kept.addFiles laws more
    have later' := h.addFiles laws more
    exact ⟨later.count.trans later'.count.symm, later.finish_eq later' laws⟩
  case count => exact h.count
  case finish => exact h.finish_shows laws
  case rest =>
    have again := (holds_new laws).addFiles laws (accepted files)
    change Holds held (accepted (accepted files)) _ at again
    rw [accepted_accepted] at again
    exact h.finish_eq again laws

/-- A library that keeps the files themselves; a name that is there is refused at once. -/
def inMemory : ZipLibrary (List PackedFile) (List PackedFile) where
  new := []
  startFile files name options :=
    if name ∈ files.map PackedFile.path then
      (.error ("invalid Zip archive: Duplicate filename: " ++ name), files)
    else (.ok (), files ++ [⟨name, .empty, options⟩])
  writeAll files content :=
    match files.getLast? with
    | none => (.error "No file has been started", files)
    | some f => (.ok (), files.dropLast ++ [{ f with content := f.content ++ content }])
  finish files := .ok files
  filesIn files := files

theorem lawful_inMemory : inMemory.Lawful id where
  new := rfl
  taken files name options there := ⟨_, files, if_pos there, rfl⟩
  free files name options new := ⟨_, if_neg new⟩
  write files name options started start content := by
    rw [inMemory] at start
    dsimp only at start
    split at start
    · cases start
    · cases start
      refine ⟨files ++ [⟨name, content, options⟩], ?_, rfl⟩
      simp [inMemory]
  finish files := ⟨files, rfl, rfl⟩
  same files files' same := congrArg Except.ok same

/-- An archive is an append-only store: whatever files are handed to a writer, the accepted ones come
in at the end and the refused ones change nothing that shows, then or later. An archive of texts that
is built without a library takes the same files and holds the same. -/
theorem append_only (laws : lib.Lawful held) :
    (∀ files, Grows lib files ((new lib).addFiles lib files)) ∧
    ∀ texts : List (String × String),
      let a := Archive.ofTexts texts
      let w := (new lib).addFiles lib (texts.map fun f => (f.1, f.2.toUTF8))
      (∀ path content, (∃ b, a.add path content = .ok b) ↔
          (w.addFile lib path content.toUTF8).1 = .ok ()) ∧
        a.size = w.count ∧
        ∃ bytes, w.finish lib = .ok bytes ∧ lib.filesIn bytes = a.entries.map ArchiveEntry.packed := by
  refine ⟨grows_addFiles laws, fun texts => ?_⟩
  have grows := grows_addFiles laws (texts.map fun f => (f.1, f.2.toUTF8))
  have log := accepted_map String.toUTF8 texts
  refine ⟨fun path content => ?_, ?_, ?_⟩
  · rw [grows.accepts, log, List.map_map]
    constructor
    · rintro ⟨b, added⟩
      obtain ⟨sound, new, -⟩ := (Archive.add_eq_ok_iff ..).1 added
      exact ⟨sound, Archive.paths_ofTexts texts ▸ new⟩
    · rintro ⟨sound, new⟩
      exact ⟨_, (Archive.add_eq_ok_iff ..).2 ⟨sound, (Archive.paths_ofTexts texts).symm ▸ new, rfl⟩⟩
  · rw [grows.count, log, Archive.size, Archive.entries_ofTexts, List.length_map, List.length_map]
  · obtain ⟨bytes, done, shows⟩ := grows.finish
    refine ⟨bytes, done, ?_⟩
    rw [shows, log, Archive.entries_ofTexts, List.map_map, List.map_map]
    rfl

/-- A path that leads out and one that is taken, between files of any bytes. -/
theorem append_only_duplicate :
    let files := [("a.txt", ByteArray.mk #[0xff]), ("../b", ⟨#[1]⟩), ("a.txt", ⟨#[2]⟩), ("c/d", .empty)]
    let w := (new inMemory).addFiles inMemory files
    inMemory.Lawful id ∧ w.count = 2 ∧
      w.finish inMemory = .ok [⟨"a.txt", ⟨#[0xff]⟩, .fixed⟩, ⟨"c/d", .empty, .fixed⟩] := by
  intro files w
  have grows := (append_only lawful_inMemory).1 files
  have log : accepted files = [("a.txt", ⟨#[0xff]⟩), ("c/d", .empty)] := by decide +kernel
  refine ⟨lawful_inMemory, ?_, ?_⟩
  · rw [grows.count, log]
    rfl
  · obtain ⟨bytes, done, shows⟩ := grows.finish
    rw [log] at shows
    rw [done]
    exact congrArg Except.ok shows

end ArchiveWriter

end MiniApp

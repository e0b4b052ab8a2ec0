import Mathlib.Data.Finset.Card
import MiniApp.Component.Registry
import MiniApp.Proofs.Table
import MiniApp.Proofs.Text.LowerCase

set_option autoImplicit false

namespace MiniApp

theorem toList_normalizeTag (tag : String) : (normalizeTag tag).toList =
    Text.lower (tag.toList.filter fun c => !Text.isSeparator c) := by
  rw [normalizeTag, String.toList_ofList]
  congr 2
  funext c
  simp [Text.isSeparator, Bool.and_assoc]

theorem normalizeTag_normalizeTag (tag : String) :
    normalizeTag (normalizeTag tag) = normalizeTag tag := by
  have plain : ∀ c ∈ (normalizeTag tag).toList, Text.isSeparator c = false := by
    rw [toList_normalizeTag]
    refine Text.isSeparator_of_mem_lower fun c hc => ?_
    simpa using (List.mem_filter.1 hc).2
  have kept : (normalizeTag tag).toList.filter (fun c => !Text.isSeparator c) =
      (normalizeTag tag).toList :=
    List.filter_eq_self.2 fun c hc => by rw [plain c hc]; rfl
  rw [← String.toList_inj, toList_normalizeTag, kept, toList_normalizeTag, Text.lower_lower]

theorem normalizeTag_of_letters {tag : String} (letters : tag.toList.all Char.isAlpha = true) :
    normalizeTag tag = String.ofList (Text.lowerAscii tag.toList) := by
  have ascii : ∀ c ∈ tag.toList, c.toNat < 0x80 := by
    intro c hc
    have letter := Text.bounds_of_isAlpha (List.all_eq_true.1 letters c hc)
    omega
  have kept : tag.toList.filter (fun c => !Text.isSeparator c) = tag.toList := by
    refine List.filter_eq_self.2 fun c hc => ?_
    rw [Text.isSeparator_of_isAlpha (List.all_eq_true.1 letters c hc), Bool.not_false]
  rw [← String.toList_inj, toList_normalizeTag, kept, Text.lower_of_ascii ascii,
    String.toList_ofList]

namespace Registry

section Calls

inductive Call where
  | register (e : Entry)
  | addTag (tag : String) (kind : Kind)

namespace Call

def apply (r : Registry) : Call → Registry
  | register e => r.register e
  | addTag tag kind => r.addTag tag kind

def written : Call → String × Kind
  | register e => (normalizeTag e.kind.name, e.kind)
  | addTag tag kind => (normalizeTag tag, kind)

def entered : Call → Option (Kind × Entry)
  | register e => some (e.kind, e)
  | addTag _ _ => none

end Call

def run (r : Registry) (calls : List Call) : Registry := calls.foldl Call.apply r

def builtinCalls : List Call :=
  Kind.all.map (fun kind => .register (Catalog.entry kind)) ++
    Catalog.aliases.map fun a => .addTag a.1 a.2

theorem run_builtinCalls : run empty builtinCalls = builtin := by
  rw [run, builtinCalls, List.foldl_append, List.foldl_map, List.foldl_map]
  rfl

def entered (calls : List Call) : List (Kind × Entry) := calls.filterMap Call.entered

theorem mem_kinds_entered {calls : List Call} {kind : Kind} :
    kind ∈ (entered calls).map Prod.fst ↔ ∃ e, .register e ∈ calls ∧ e.kind = kind := by
  rw [entered, List.map_filterMap, List.mem_filterMap]
  constructor
  · rintro ⟨call, listed, here⟩
    cases call with
    | register e => exact ⟨e, listed, Option.some.inj here⟩
    | addTag tag kind => cases here
  · rintro ⟨e, listed, rfl⟩
    exact ⟨_, listed, rfl⟩

theorem kind_of_mem_entered {calls : List Call} {e : Kind × Entry} (h : e ∈ entered calls) :
    e.2.kind = e.1 := by
  obtain ⟨call, -, here⟩ := List.mem_filterMap.1 h
  cases call with
  | register e => cases here; rfl
  | addTag tag kind => cases here

end Calls

/-- Both tables are the ones that the calls write. -/
structure Follows (calls : List Call) (r : Registry) : Prop where
  tags : r.tags = .ofList (calls.map Call.written)
  entries : r.entries = .ofList (entered calls)

section Follows

variable {calls : List Call} {r : Registry}

theorem follows_empty : Follows [] empty := ⟨rfl, rfl⟩

theorem Follows.apply (h : Follows calls r) (call : Call) :
    Follows (calls ++ [call]) (call.apply r) := by
  have tags : (call.apply r).tags = r.tags.insert call.written.1 call.written.2 := by
    cases call <;> rfl
  constructor
  · rw [tags, h.tags, List.map_append, List.map_singleton, Table.ofList_concat]
  · rw [entered, List.filterMap_append, ← entered]
    cases call with
    | register e =>
      have put : ((Call.register e).apply r).entries = r.entries.insert e.kind e := rfl
      rw [put, h.entries]
      exact (Table.ofList_concat (entered calls) (e.kind, e)).symm
    | addTag tag kind =>
      have kept : ((Call.addTag tag kind).apply r).entries = r.entries := rfl
      rw [kept, h.entries]
      exact congrArg Table.ofList (List.append_nil _).symm

theorem Follows.run (h : Follows calls r) (more : List Call) :
    Follows (calls ++ more) (r.run more) := by
  induction more generalizing calls r with
  | nil => rwa [List.append_nil]
  | cons call more ih =>
    have rest := ih (h.apply call)
    rwa [List.append_assoc, List.singleton_append] at rest

end Follows

/-- What is known of a registry from the calls that made it. -/
structure Answers (calls : List Call) (r : Registry) : Prop where
  known : ∀ tag kind, r.resolve tag = .known kind ↔
    lastWritten (normalizeTag tag) (calls.map Call.written) = some kind ∧
      ∃ e, .register e ∈ calls ∧ e.kind = kind
  unknown : ∀ tag, (∀ kind, r.resolve tag ≠ .known kind) → r.resolve tag = .unknown tag
  alike : ∀ t u, normalizeTag t = normalizeTag u →
    (∃ kind, r.resolve t = .known kind ∧ r.resolve u = .known kind) ∨
      (r.resolve t = .unknown t ∧ r.resolve u = .unknown u)
  entry : ∀ kind, r.entry? kind = lastWritten kind (entered calls)
  get : ∀ tag e, r.get? tag = some e ↔ ∃ kind, r.resolve tag = .known kind ∧ r.entry? kind = some e
  contains : ∀ tag, r.contains tag = true ↔ ∃ kind, r.resolve tag = .known kind
  kinds : r.entries.values.map Entry.kind = ((entered calls).map Prod.fst).eraseDups
  listed : r.entries.values.map some = (r.entries.values.map Entry.kind).map r.entry?
  size : r.size = ((entered calls).map Prod.fst).toFinset.card

section Answers

theorem resolve_eq_known_iff (r : Registry) (tag : String) (kind : Kind) :
    r.resolve tag = .known kind ↔
      r.tags.get? (normalizeTag tag) = some kind ∧ r.entries.contains kind = true := by
  rw [resolve]
  cases found : r.tags.get? (normalizeTag tag) with
  | none => simp
  | some k =>
    dsimp only
    by_cases here : r.entries.contains k = true
    · rw [if_pos here]
      constructor
      · intro same
        cases same
        exact ⟨rfl, here⟩
      · rintro ⟨same, -⟩
        cases same
        rfl
    · rw [if_neg here]
      constructor
      · intro same
        cases same
      · rintro ⟨same, there⟩
        cases same
        exact absurd there here

theorem resolve_known_or_unknown (r : Registry) (tag : String) :
    (∃ kind, r.resolve tag = .known kind) ∨ r.resolve tag = .unknown tag := by
  rw [resolve]
  split
  · next kind _ =>
    split
    · exact .inl ⟨kind, rfl⟩
    · exact .inr rfl
  · exact .inr rfl

theorem resolve_alike (r : Registry) {t u : String} (same : normalizeTag t = normalizeTag u) :
    (∃ kind, r.resolve t = .known kind ∧ r.resolve u = .known kind) ∨
      (r.resolve t = .unknown t ∧ r.resolve u = .unknown u) := by
  have known (kind : Kind) : r.resolve t = .known kind ↔ r.resolve u = .known kind := by
    rw [resolve_eq_known_iff, resolve_eq_known_iff, same]
  rcases r.resolve_known_or_unknown t with ⟨kind, ht⟩ | ht
  · exact .inl ⟨kind, ht, (known kind).1 ht⟩
  · rcases r.resolve_known_or_unknown u with ⟨kind, hu⟩ | hu
    · rw [(known kind).2 hu] at ht
      cases ht
    · exact .inr ⟨ht, hu⟩

theorem get?_eq_some_iff (r : Registry) (tag : String) (e : Entry) :
    r.get? tag = some e ↔ ∃ kind, r.resolve tag = .known kind ∧ r.entry? kind = some e := by
  rw [get?]
  cases r.resolve tag with
  | known kind => simp
  | unknown tag => simp

variable {calls : List Call} {r : Registry}

theorem Follows.kind_of_mem (h : Follows calls r) {e : Kind × Entry} (he : e ∈ r.entries.entries) :
    e.2.kind = e.1 := by
  have found := r.entries.get?_eq_some_iff.2 he
  rw [h.entries, Table.get?_ofList, lastWritten, Option.map_eq_some_iff] at found
  obtain ⟨d, last, same⟩ := found
  have kept := List.mem_filter.1 (List.mem_of_getLast? last)
  rw [← same, kind_of_mem_entered kept.1]
  exact of_decide_eq_true kept.2

theorem Follows.map_kind_values (h : Follows calls r) :
    r.entries.values.map Entry.kind = r.kinds := by
  rw [Table.values, List.map_map, Registry.kinds, Table.keys]
  exact List.map_congr_left fun e he => h.kind_of_mem he

theorem Follows.answers (h : Follows calls r) : Answers calls r := by
  have kinds : r.kinds = ((entered calls).map Prod.fst).eraseDups := by
    rw [Registry.kinds, h.entries, Table.keys_ofList]
  constructor
  case known =>
    intro tag kind
    rw [resolve_eq_known_iff, h.tags, Table.get?_ofList, Table.contains_iff_mem_keys,
      ← Registry.kinds, kinds, List.mem_eraseDups, mem_kinds_entered]
  case unknown =>
    intro tag other
    rcases r.resolve_known_or_unknown tag with ⟨kind, found⟩ | found
    · exact absurd found (other kind)
    · exact found
  case alike => exact fun t u same => r.resolve_alike same
  case entry =>
    intro kind
    have found : r.entry? kind = r.entries.get? kind := rfl
    rw [found, h.entries, Table.get?_ofList]
  case get => exact r.get?_eq_some_iff
  case contains => exact r.contains_iff
  case kinds => rw [h.map_kind_values, kinds]
  case listed =>
    rw [Table.values, List.map_map, List.map_map, List.map_map]
    refine List.map_congr_left fun e he => ?_
    rw [Function.comp_apply, Function.comp_apply, Function.comp_apply, h.kind_of_mem he]
    exact (r.entries.get?_eq_some_iff.2 he).symm
  case size =>
    have same : ((entered calls).map Prod.fst).toFinset = r.kinds.toFinset := by
      ext kind
      rw [List.mem_toFinset, List.mem_toFinset, kinds, List.mem_eraseDups]
    have apart : r.kinds.Nodup := r.entries.nodup_keys
    rw [same, List.toFinset_card_of_nodup apart]
    exact (Table.length_keys _).symm

end Answers

section Catalog

def catalogTags : List (String × Kind) :=
  Kind.all.map (fun kind => (kind.name, kind)) ++ Catalog.aliases

theorem name_mem_catalogTags (kind : Kind) : (kind.name, kind) ∈ catalogTags :=
  List.mem_append_left _ (List.mem_map.2 ⟨kind, kind.mem_all, rfl⟩)

theorem letters_catalogTags : ∀ t ∈ catalogTags, t.1.toList.all Char.isAlpha = true := by
  decide +kernel

theorem nodup_catalogTags : (catalogTags.map fun t => Text.lowerAscii t.1.toList).Nodup := by
  decide +kernel

theorem written_builtinCalls : builtinCalls.map Call.written =
    catalogTags.map fun t => (normalizeTag t.1, t.2) := by
  simp only [builtinCalls, catalogTags, List.map_append, List.map_map]
  rfl

theorem nodup_written : ((builtinCalls.map Call.written).map Prod.fst).Nodup := by
  have keys : (builtinCalls.map Call.written).map Prod.fst =
      catalogTags.map fun t => normalizeTag t.1 := by
    rw [written_builtinCalls, List.map_map]
    rfl
  have compared : (catalogTags.map fun t => normalizeTag t.1) =
      (catalogTags.map fun t => Text.lowerAscii t.1.toList).map String.ofList := by
    rw [List.map_map]
    exact List.map_congr_left fun t ht => normalizeTag_of_letters (letters_catalogTags t ht)
  rw [keys, compared]
  exact nodup_catalogTags.map fun _ _ => String.ofList_injective

theorem follows_builtin : Follows builtinCalls builtin :=
  run_builtinCalls ▸ follows_empty.run builtinCalls

/-- The registry of the catalog knows the tags that are compared like one of the catalog's. -/
theorem resolve_builtin_iff {tag : String} {kind : Kind} : builtin.resolve tag = .known kind ↔
    ∃ t ∈ catalogTags, normalizeTag t.1 = normalizeTag tag ∧ t.2 = kind := by
  have given : ∃ e, .register e ∈ builtinCalls ∧ e.kind = kind :=
    ⟨Catalog.entry kind, List.mem_append_left _ (List.mem_map.2 ⟨kind, kind.mem_all, rfl⟩), rfl⟩
  rw [follows_builtin.answers.known, Table.lastWritten_eq_some_iff nodup_written,
    and_iff_left given, written_builtinCalls, List.mem_map]
  simp only [Prod.mk.injEq]

theorem entry?_builtin (kind : Kind) : builtin.entry? kind = some (Catalog.entry kind) := by
  cases kind <;> rfl

theorem get?_builtin_name (kind : Kind) : builtin.get? kind.name = some (Catalog.entry kind) :=
  (builtin.get?_eq_some_iff ..).2 ⟨kind,
    resolve_builtin_iff.2 ⟨_, name_mem_catalogTags kind, rfl, rfl⟩, entry?_builtin kind⟩

theorem get?_builtin_eq_none {tag : String} (letters : tag.toList.all Char.isAlpha = true)
    (other : ∀ t ∈ catalogTags, Text.lowerAscii t.1.toList ≠ Text.lowerAscii tag.toList) :
    builtin.get? tag = none := by
  rw [Option.eq_none_iff_forall_ne_some]
  intro e found
  obtain ⟨kind, known, -⟩ := (builtin.get?_eq_some_iff ..).1 found
  obtain ⟨t, listed, same, -⟩ := resolve_builtin_iff.1 known
  rw [normalizeTag_of_letters (letters_catalogTags t listed), normalizeTag_of_letters letters,
    String.ofList_inj] at same
  exact other t listed same

end Catalog

/-- From the empty registry and from that of the catalog, any calls in any order make a registry that
answers as they say, and tags are compared in a form that is its own. -/
theorem run_answers (calls : List Call) :
    Answers calls (run empty calls) ∧
      Answers (builtinCalls ++ calls) (run builtin calls) ∧
      ∀ tag, normalizeTag (normalizeTag tag) = normalizeTag tag := by
  refine ⟨?_, ?_, normalizeTag_normalizeTag⟩
  · exact (follows_empty.run calls).answers
  · exact (follows_builtin.run calls).answers

example :
    let badge := Catalog.entry .badge
    let given := run empty [.register badge, .addTag "badge" .text]
    given.resolve "Badge" = .unknown "Badge" ∧
      (run given [.register badge]).resolve "Badge" = .known .badge := by
  decide +kernel

end Registry

end MiniApp

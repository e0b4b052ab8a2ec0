import MiniApp.Proofs.Component.Collect
import MiniApp.Proofs.Component.Marks
import MiniApp.Proofs.Component.Resolution
import MiniApp.Proofs.Component.Shown

set_option autoImplicit false

namespace MiniApp

section Sorting

variable {α : Type} (rank : α → Nat)

/-- The items in the order of their ranks; those of one rank stay in order. -/
def sorted (ranks : Nat) (items : List α) : List α :=
  (List.range ranks).flatMap fun r => items.filter fun a => rank a == r

theorem filter_insert_of_ne {a : α} {r : Nat} (h : rank a ≠ r) (before behind : List α) :
    (before ++ a :: behind).filter (fun a => rank a == r) =
      (before ++ behind).filter fun a => rank a == r := by
  rw [List.filter_append, List.filter_append, List.filter_cons_of_neg (by simpa using h)]

theorem exists_sorted_insert {ranks : Nat} (before behind : List α) {a : α} (h : rank a < ranks) :
    ∃ l r, sorted rank ranks (before ++ behind) = l ++ r ∧
      sorted rank ranks (before ++ a :: behind) = l ++ a :: r := by
  have step (n : Nat) (items : List α) : sorted rank (n + 1) items =
      sorted rank n items ++ items.filter fun a => rank a == n := by
    rw [sorted, sorted, List.range_succ, List.flatMap_append, List.flatMap_singleton]
  induction ranks with
  | zero => exact absurd h (Nat.not_lt_zero _)
  | succ n ih =>
    rw [step, step]
    rcases Nat.lt_or_eq_of_le (Nat.le_of_lt_succ h) with lower | last
    · obtain ⟨l, r, without, within⟩ := ih lower
      rw [without, within, filter_insert_of_ne rank (Nat.ne_of_lt lower)]
      exact ⟨l, r ++ _, by rw [List.append_assoc], by rw [List.append_assoc, List.cons_append]⟩
    · have same : sorted rank n (before ++ a :: behind) = sorted rank n (before ++ behind) := by
        rw [sorted, sorted]
        refine List.flatMap_congr fun r hr => filter_insert_of_ne rank ?_ before behind
        have := List.mem_range.1 hr
        omega
      rw [same, List.filter_append, List.filter_append, List.filter_cons_of_pos (by simp [last]),
        ← List.append_assoc, ← List.append_assoc]
      exact ⟨_, _, rfl, rfl⟩

theorem sorted_perm {ranks : Nat} {items : List α} (h : ∀ a ∈ items, rank a < ranks) :
    (sorted rank ranks items).Perm items := by
  induction items with
  | nil => simp [sorted]
  | cons a items ih =>
    rw [List.forall_mem_cons] at h
    obtain ⟨l, r, without, within⟩ := exists_sorted_insert rank [] items h.1
    rw [List.nil_append] at without within
    rw [within]
    exact List.perm_middle.trans ((without ▸ ih h.2).cons a)

end Sorting

/-- Which slots a kind puts before others, and which behind. The ordered children and the slots that
are not named here stand between. -/
def Kind.rank : Kind → Option String → Nat
  | .layout, none => 1
  | .layout, some slot =>
    if slot = "header" then 0
    else if slot = "content" then 2
    else if slot = "footer" then 4
    else 3
  | .card, some slot => if slot = "footer" then 1 else 0
  | .sheet, none => 1
  | .sheet, some slot => if slot = "content" then 0 else 1
  | _, _ => 0

theorem Kind.rank_lt (kind : Kind) (slot : Option String) : kind.rank slot < 5 := by
  unfold rank
  split <;> (try split_ifs) <;> decide

namespace Children

variable (c : Children)

def pieces : List (Option String × String) :=
  (c.ordered.map fun f => (none, f)) ++ c.slots.entries.map fun e => (some e.1, e.2)

/-- What is shown of the children, in the order in which a kind places them. -/
def placed (kind : Kind) : List String :=
  shown ((sorted (fun piece => kind.rank piece.1) 5 c.pieces).map Prod.snd)

/-- What is shown of the children in some of the slots, or out of all. -/
def part (p : Option String → Bool) : List String :=
  shown ((c.pieces.filter fun piece => p piece.1).map Prod.snd)

theorem map_snd_pieces : c.pieces.map Prod.snd = c.ordered ++ c.slots.values := by
  simp [pieces, Table.values, Function.comp_def]

/-- Nothing is lost and nothing comes in twice. -/
theorem placed_perm (kind : Kind) : (c.placed kind).Perm c.all := by
  have sorted : (sorted (fun piece => kind.rank piece.1) 5 c.pieces).Perm c.pieces :=
    sorted_perm _ fun piece _ => kind.rank_lt piece.1
  rw [all, ← map_snd_pieces]
  exact (sorted.map Prod.snd).filter _

theorem placed_eq (kind : Kind) : c.placed kind =
    [0, 1, 2, 3, 4].flatMap fun r => c.part fun slot => kind.rank slot == r := by
  have five : [0, 1, 2, 3, 4] = List.range 5 := rfl
  simp only [five, placed, part, sorted, shown, List.map_flatMap, List.filter_flatMap]

theorem part_eq {p : Option String → Bool} {q : String → Bool} (h : ∀ name, p (some name) = q name) :
    c.part p = (if p none then shown c.ordered else []) ++
      shown ((c.slots.entries.filter fun e => q e.1).map Prod.snd) := by
  rw [part, pieces, List.filter_append, List.map_append, shown_append, List.filter_map,
    List.filter_map, List.map_map, List.map_map]
  cases out : p none <;> simp [out, h, Function.comp_def, shown]

theorem part_slot (name : String) :
    shown ((c.slots.entries.filter fun e => e.1 = name).map Prod.snd) = (c.slot? name).toList := by
  rw [slot?, ← shown_toList, Table.entries_filter_key]
  simp [Function.comp_def]

theorem part_named {p : Option String → Bool} (name : String)
    (h : ∀ slot, p (some slot) = decide (slot = name)) (out : p none = false) :
    c.part p = (c.slot? name).toList := by
  rw [c.part_eq h, out, part_slot, if_neg Bool.false_ne_true, List.nil_append]

theorem part_extra {p : Option String → Bool} (named : List String)
    (h : ∀ slot, p (some slot) = !named.contains slot) :
    c.part p = (if p none then shown c.ordered else []) ++ c.extraSlots named := c.part_eq h

theorem placed_layout : c.placed .layout =
    (c.slot? "header").toList ++ (shown c.ordered ++ (c.slot? "content").toList ++
      c.extraSlots ["header", "content", "footer"]) ++ (c.slot? "footer").toList := by
  have header := c.part_named (p := fun slot => Kind.rank .layout slot == 0) "header"
    (fun slot => by rw [Kind.rank]; split_ifs <;> simp_all) rfl
  have ordered := c.part_eq (p := fun slot => Kind.rank .layout slot == 1) (q := fun _ => false)
    fun slot => by rw [Kind.rank]; split_ifs <;> rfl
  have content := c.part_named (p := fun slot => Kind.rank .layout slot == 2) "content"
    (fun slot => by rw [Kind.rank]; split_ifs <;> simp_all) rfl
  have others := c.part_extra (p := fun slot => Kind.rank .layout slot == 3)
    ["header", "content", "footer"]
    fun slot => by rw [Kind.rank]; split_ifs <;> simp_all
  have footer := c.part_named (p := fun slot => Kind.rank .layout slot == 4) "footer"
    (fun slot => by rw [Kind.rank]; split_ifs <;> simp_all) rfl
  simp only [placed_eq, List.flatMap_cons, List.flatMap_nil, header, ordered, content, others, footer]
  simp [Kind.rank, shown]

theorem part_none {p : Option String → Bool} (h : ∀ slot, p slot = false) : c.part p = [] := by
  simp [part, h, shown]

theorem part_all {p : Option String → Bool} (h : ∀ slot, p slot = true) : c.part p = c.all := by
  rw [all, ← map_snd_pieces]
  simp [part, h]

section Ranks

variable {c} {kind : Kind}

theorem placed_of_rank_le (h : ∀ slot, kind.rank slot ≤ 1) :
    c.placed kind = c.part (fun slot => kind.rank slot == 0) ++
      c.part (fun slot => kind.rank slot == 1) := by
  have beyond (r : Nat) (more : 1 < r) : c.part (fun slot => kind.rank slot == r) = [] :=
    c.part_none fun slot => beq_eq_false_iff_ne.2 (Nat.ne_of_lt (Nat.lt_of_le_of_lt (h slot) more))
  simp only [placed_eq, List.flatMap_cons, List.flatMap_nil, beyond 2 (by decide),
    beyond 3 (by decide), beyond 4 (by decide), List.append_nil]

theorem placed_of_rank (h : ∀ slot, kind.rank slot = 0) : c.placed kind = c.all := by
  rw [placed_of_rank_le fun slot => Nat.le_of_lt_succ (by rw [h]; decide),
    c.part_all fun slot => beq_iff_eq.2 (h slot), c.part_none fun slot => by rw [h]; rfl,
    List.append_nil]

end Ranks

theorem placed_card :
    c.placed .card = c.remaining ["footer"] ++ (c.slot? "footer").toList := by
  have others := c.part_extra (p := fun slot => Kind.rank .card slot == 0) ["footer"]
    fun slot => by rw [Kind.rank]; split_ifs <;> simp_all
  have footer := c.part_named (p := fun slot => Kind.rank .card slot == 1) "footer"
    (fun slot => by rw [Kind.rank]; split_ifs <;> simp_all) rfl
  have two (slot : Option String) : Kind.card.rank slot ≤ 1 := by
    cases slot with
    | none => exact Nat.zero_le 1
    | some slot =>
      rw [Kind.rank]
      split <;> decide
  rw [placed_of_rank_le two, others, footer]
  rfl

theorem placed_sheet :
    c.placed .sheet = (c.slot? "content").toList ++ c.remaining ["content"] := by
  have content := c.part_named (p := fun slot => Kind.rank .sheet slot == 0) "content"
    (fun slot => by rw [Kind.rank]; split_ifs <;> simp_all) rfl
  have others := c.part_extra (p := fun slot => Kind.rank .sheet slot == 1) ["content"]
    fun slot => by rw [Kind.rank]; split_ifs <;> simp_all
  have two (slot : Option String) : Kind.sheet.rank slot ≤ 1 := by
    cases slot with
    | none => exact Nat.le_refl 1
    | some slot =>
      rw [Kind.rank]
      split <;> decide
  rw [placed_of_rank_le two, content, others]
  rfl

/-- A slot more adds what it shows, wherever it stands and whatever its name is. -/
theorem exists_placed_insert (kind : Kind) {c c' : Children} {es fs : List (String × String)}
    {slot f : String} (ordered : c'.ordered = c.ordered) (without : c.slots.entries = es ++ fs)
    (within : c'.slots.entries = es ++ (slot, f) :: fs) :
    ∃ l r, c.placed kind = l ++ r ∧ c'.placed kind = l ++ shown [f] ++ r := by
  obtain ⟨l, r, sorted, sorted'⟩ := exists_sorted_insert
    (fun piece : Option String × String => kind.rank piece.1)
    ((c.ordered.map fun f => (none, f)) ++ es.map fun e => (some e.1, e.2))
    (fs.map fun e => (some e.1, e.2)) (a := (some slot, f)) (kind.rank_lt (some slot))
  refine ⟨shown (l.map Prod.snd), shown (r.map Prod.snd), ?_, ?_⟩
  · rw [placed, pieces, without, List.map_append, ← List.append_assoc, sorted, List.map_append,
      shown_append]
  · rw [placed, pieces, ordered, within, List.map_append, List.map_cons, ← List.append_assoc, sorted',
      List.map_append, List.map_cons, shown_append, ← List.singleton_append, shown_append,
      List.append_assoc]

end Children

namespace Component

open Children

variable (c : Children) (handle : String) {component : Component}

theorem fragments_markup (h : component.kind.placesChildren = true) :
    (component.markup c handle).fragments = c.placed component.kind := by
  cases component with
  | container m =>
    rw [kind, placed_of_rank fun _ => rfl]
    simp [Tree.fragments, markup, DocumentRule.container]
  | layout m =>
    rw [kind, placed_layout]
    simp [Tree.fragments, markup, DocumentRule.layout, DocumentRule.slotElement]
  | card m =>
    rw [kind, placed_card]
    simp [Tree.fragments, markup, DocumentRule.card, DocumentRule.slotElement]
  | carousel m =>
    rw [kind, placed_of_rank fun _ => rfl]
    simp [Tree.fragments, markup, DocumentRule.carousel, DocumentRule.slides,
      DocumentRule.slideElement, DocumentRule.dot]
  | sheet m =>
    rw [kind, placed_sheet]
    simp [Tree.fragments, markup, DocumentRule.sheet]
  | list m =>
    rw [kind, placed_of_rank fun _ => rfl]
    simp [Tree.fragments, markup, DocumentRule.list]
  | navBar m =>
    rw [kind, placed_of_rank fun _ => rfl]
    simp [Tree.fragments, markup, DocumentRule.navBar]
  | _ => cases h

theorem fragments_jsx (h : component.kind.placesChildren = true) :
    (component.jsx c handle).fragments = c.placed component.kind := by
  cases component with
  | container m =>
    rw [kind, placed_of_rank fun _ => rfl]
    simp [Tree.fragments, jsx, ProjectRule.container]
  | layout m =>
    rw [kind, placed_layout]
    simp [Tree.fragments, jsx, ProjectRule.layout, ProjectRule.slotElement]
  | card m =>
    rw [kind, placed_card]
    simp [Tree.fragments, jsx, ProjectRule.card, ProjectRule.slotElement]
  | carousel m =>
    rw [kind, placed_of_rank fun _ => rfl]
    simp [Tree.fragments, jsx, ProjectRule.carousel]
  | sheet m =>
    rw [kind, placed_sheet]
    simp [Tree.fragments, jsx, ProjectRule.sheet]
  | list m =>
    rw [kind, placed_of_rank fun _ => rfl]
    simp [Tree.fragments, jsx, ProjectRule.list]
  | navBar m =>
    rw [kind, placed_of_rank fun _ => rfl]
    simp [Tree.fragments, jsx, ProjectRule.navBar]
  | _ => cases h

end Component

/-- The rules of the kinds that give children a place put all that these show into their trees, each
fragment once and in the order of the kind; and a slot more, of whatever name, adds what it shows and
leaves the others as they are. -/
theorem children_placed (kind : Kind) (h : kind.placesChildren = true) (p : Props) (c : Children)
    (handle : String) :
    (∀ t, DocumentRule.tree kind p c handle = .ok t → t.fragments = c.placed kind) ∧
    (∀ t, ProjectRule.tree kind p c handle = .ok t → t.fragments = c.placed kind) ∧
    (c.placed kind).Perm c.all ∧
    ∀ (c' : Children) (es fs : List (String × String)) (slot f : String),
      c'.ordered = c.ordered → c.slots.entries = es ++ fs →
        c'.slots.entries = es ++ (slot, f) :: fs →
          ∃ l r, c.placed kind = l ++ r ∧ c'.placed kind = l ++ Children.shown [f] ++ r := by
  refine ⟨fun t ok => ?_, fun t ok => ?_, c.placed_perm kind, fun c' es fs slot f => ?_⟩
  · rw [DocumentRule.tree_eq_resolve] at ok
    obtain ⟨component, resolved, same⟩ := Component.exists_of_map_eq_ok ok
    have kinds := Component.kind_of_resolve resolved
    rw [← kinds] at h ⊢
    rw [← same, Component.fragments_markup c handle h]
  · rw [ProjectRule.tree_eq_resolve] at ok
    obtain ⟨component, resolved, same⟩ := Component.exists_of_map_eq_ok ok
    have kinds := Component.kind_of_resolve resolved
    rw [← kinds] at h ⊢
    rw [← same, Component.fragments_jsx c handle h]
  · exact Children.exists_placed_insert kind

/-- A layout with its three slots, another one and one that shows nothing. -/
theorem children_placed_layout :
    let c : Children := .ofList [(none, "<a>"), (some "footer", "<f>"), (some "side", "<s>"),
      (some "header", "<h>"), (some "empty", ""), (some "content", "<c>")]
    let placed := ["<h>", "<a>", "<c>", "<s>", "<f>"]
    Kind.layout.placesChildren = true ∧
    (∃ t, DocumentRule.tree .layout ⟨[], []⟩ c "mf1" = .ok t ∧ t.fragments = placed) ∧
    (∃ t, ProjectRule.tree .layout ⟨[], []⟩ c "mf1" = .ok t ∧ t.fragments = placed) ∧
    placed.Perm c.all := by
  intro c placed
  have places : Kind.layout.placesChildren = true := rfl
  have order : c.placed .layout = placed := by decide
  obtain ⟨document, project, all, -⟩ := children_placed .layout places ⟨[], []⟩ c "mf1"
  rw [order] at document project all
  exact ⟨places, ⟨_, rfl, document _ rfl⟩, ⟨_, rfl, project _ rfl⟩, all⟩

end MiniApp

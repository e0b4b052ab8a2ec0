import MiniApp.Proofs.Component.Related
import MiniApp.Proofs.Component.Resolution

set_option autoImplicit false

namespace MiniApp

def shows (fragment : String) : Bool := decide (fragment ≠ "")

namespace Children

/-- The children without those that render nothing. -/
def visible (c : Children) : Children :=
  ⟨shown c.ordered, c.slots.filter fun _ => shows⟩

theorem shown_shown (fs : List String) : shown (shown fs) = shown fs := by
  simp [shown]

theorem shown_append (fs gs : List String) : shown (fs ++ gs) = shown fs ++ shown gs :=
  List.filter_append ..

theorem values_filter_shows (t : Table String String) :
    (t.filter fun _ => shows).values = shown t.values := by
  rw [Table.values, Table.values, Table.filter, shown, List.filter_map]
  rfl

@[simp]
theorem flatMap_shown (fs : List String) : (fs.flatMap fun f => shown [f]) = shown fs := by
  induction fs with
  | nil => rfl
  | cons f fs ih => rw [List.flatMap_cons, ih, ← shown_append, List.singleton_append]

variable (c : Children)

@[simp]
theorem shown_all : shown c.all = c.all := shown_shown _

theorem shown_toList (o : Option String) :
    shown o.toList = (o.filter fun f => f ≠ "").toList := by
  cases o with
  | none => rfl
  | some f => by_cases shows : f = "" <;> simp [shown, shows, Option.filter_some]

@[simp]
theorem shown_slot? (name : String) : shown (c.slot? name).toList = (c.slot? name).toList := by
  rw [shown_toList, slot?, Option.filter_filter]
  simp

@[simp]
theorem shown_extraSlots (placed : List String) :
    shown (c.extraSlots placed) = c.extraSlots placed := shown_shown _

@[simp]
theorem shown_remaining (placed : List String) : shown (c.remaining placed) = c.remaining placed := by
  rw [remaining, shown_append, shown_shown, shown_extraSlots]

theorem all_visible : c.visible.all = c.all := by
  rw [all, all, visible, values_filter_shows, shown_append, shown_append, shown_shown, shown_shown]

theorem slot?_visible (name : String) : c.visible.slot? name = c.slot? name := by
  rw [slot?, slot?, visible, Table.get?_filter]
  simp [Option.filter_filter, shows]

theorem extraSlots_visible (placed : List String) :
    c.visible.extraSlots placed = c.extraSlots placed := by
  rw [extraSlots, extraSlots, visible, Table.filter, List.filter_comm, shown, shown,
    List.filter_map, List.filter_map, List.filter_filter]
  simp [shows, Function.comp_def]

theorem remaining_visible (placed : List String) :
    c.visible.remaining placed = c.remaining placed := by
  rw [remaining, remaining, extraSlots_visible, visible, shown_shown]

theorem joined_visible : c.visible.joined = c.joined := by rw [joined, joined, all_visible]

end Children

theorem Tree.raws_shown {α σ : Type} (fs : List String) :
    (raws (Children.shown fs) : List (Tree α σ)) = raws fs := by
  rw [raws, raws, ← Children.shown, ← Children.shown, Children.shown_shown]

namespace Component

theorem markup_visible (c : Children) (handle : String) (component : Component) :
    component.markup c.visible handle = component.markup c handle := by
  have ordered : DocumentRule.raws c.visible.ordered = DocumentRule.raws c.ordered :=
    Tree.raws_shown c.ordered
  have slots := c.slot?_visible
  have all := c.all_visible
  cases component with
  | layout m =>
    simp only [markup, DocumentRule.layout, DocumentRule.slotElement, ordered, slots,
      c.extraSlots_visible]
  | card m =>
    simp only [markup, DocumentRule.card, DocumentRule.slotElement, slots, c.remaining_visible]
  | sheet m => simp only [markup, DocumentRule.sheet, slots, c.remaining_visible]
  | carousel m => simp only [markup, DocumentRule.carousel, DocumentRule.slides, all]
  | container m => simp only [markup, DocumentRule.container, all]
  | list m => simp only [markup, DocumentRule.list, all]
  | navBar m => simp only [markup, DocumentRule.navBar, all]
  | _ => rfl

theorem jsx_visible (c : Children) (handle : String) (component : Component) :
    component.jsx c.visible handle = component.jsx c handle := by
  have ordered : ProjectRule.raws c.visible.ordered = ProjectRule.raws c.ordered :=
    Tree.raws_shown c.ordered
  have slots := c.slot?_visible
  have all := c.all_visible
  cases component with
  | layout m =>
    simp only [jsx, ProjectRule.layout, ProjectRule.slotElement, ordered, slots,
      c.extraSlots_visible]
  | card m =>
    simp only [jsx, ProjectRule.card, ProjectRule.slotElement, slots, c.remaining_visible]
  | sheet m => simp only [jsx, ProjectRule.sheet, slots, c.remaining_visible]
  | carousel m => simp only [jsx, ProjectRule.carousel, all]
  | container m => simp only [jsx, ProjectRule.container, all]
  | list m => simp only [jsx, ProjectRule.list, all]
  | navBar m => simp only [jsx, ProjectRule.navBar, all]
  | _ => rfl

theorem write_visible (backend : Backend) (c : Children) (handle : String)
    (component : Component) :
    component.write backend c.visible handle = component.write backend c handle := by
  cases backend with
  | document => rw [write, write, markup_visible]
  | project => rw [write, write, jsx_visible]

end Component

theorem Entry.emit_visible (e : Entry) (backend : Backend) (props : Fields) (c : Children)
    (handle : String) : e.emit backend props c.visible handle = e.emit backend props c handle := by
  have same : Component.write backend c.visible handle = Component.write backend c handle :=
    funext (Component.write_visible backend c handle)
  rw [e.emit_eq_resolve, e.emit_eq_resolve, same]

namespace Children

section Slots

variable (fs : List (Option String × String))

theorem ordered_foldl_add (c : Children) :
    (fs.foldl (fun c f => c.add f.1 f.2) c).ordered =
      c.ordered ++ (fs.filter fun f => f.1.isNone).map Prod.snd := by
  induction fs generalizing c with
  | nil => simp
  | cons f fs ih =>
    obtain ⟨slot, fragment⟩ := f
    rw [List.foldl_cons, ih]
    cases slot <;> simp [add]

def inSlot? (f : Option String × String) : Option (String × String) :=
  f.1.map fun name => (name, f.2)

theorem entries_foldl_add (c : Children)
    (apart : (c.slots.keys ++ fs.filterMap Prod.fst).Nodup) :
    (fs.foldl (fun c f => c.add f.1 f.2) c).slots.entries =
      c.slots.entries ++ fs.filterMap inSlot? := by
  induction fs generalizing c with
  | nil => simp
  | cons f fs ih =>
    obtain ⟨slot, fragment⟩ := f
    rw [List.foldl_cons]
    cases slot with
    | none => exact ih _ apart
    | some name =>
      have apart : (c.slots.keys ++ name :: fs.filterMap Prod.fst).Nodup := apart
      have fresh : name ∉ c.slots.keys := fun h =>
        (List.nodup_append.1 apart).2.2 name h name List.mem_cons_self rfl
      have put : (c.slots.insert name fragment).entries = c.slots.entries ++ [(name, fragment)] :=
        putEntry_of_notMem fresh fragment
      have keys : (c.slots.insert name fragment).keys = c.slots.keys ++ [name] := by
        rw [Table.keys_insert, if_neg fresh]
      rw [ih _ (by simpa [add, keys] using apart)]
      simp [add, put, inSlot?]

theorem ordered_visible_ofList : (ofList fs).visible.ordered =
    ((fs.filter fun f => shows f.2).filter fun f => f.1.isNone).map Prod.snd := by
  rw [visible, ofList, ordered_foldl_add, List.filter_comm, shown, empty, List.nil_append,
    List.filter_map]
  rfl

theorem entries_visible_ofList (apart : (fs.filterMap Prod.fst).Nodup) :
    (ofList fs).visible.slots.entries = (fs.filter fun f => shows f.2).filterMap inSlot? := by
  rw [visible, ofList, Table.entries_filter, entries_foldl_add fs empty apart, empty, Table.empty,
    List.nil_append, List.filter_filterMap, List.filterMap_filter]
  refine List.filterMap_congr fun f _ => ?_
  obtain ⟨slot, fragment⟩ := f
  cases slot <;> simp [inSlot?, Option.filter]

end Slots

theorem all_ofList {fs gs : List (Option String × String)} (ordered : ∀ f ∈ fs, f.1 = none)
    (slotted : ∀ f ∈ gs, f.1 ≠ none) (apart : (gs.filterMap Prod.fst).Nodup) :
    (ofList (fs ++ gs)).all = shown ((fs ++ gs).map Prod.snd) := by
  have ordered' : fs.filterMap Prod.fst = [] := List.filterMap_eq_nil_iff.2 ordered
  have first : (fs ++ gs).filter (fun f => f.1.isNone) = fs := by
    rw [List.filter_append, List.filter_eq_self.2 fun f hf => by rw [ordered f hf]; rfl,
      List.filter_eq_nil_iff.2 fun f hf => by simpa [Option.isNone_iff_eq_none] using slotted f hf,
      List.append_nil]
  have rest : (fs ++ gs).filterMap inSlot? = gs.filterMap inSlot? := by
    have none : fs.filterMap inSlot? = [] :=
      List.filterMap_eq_nil_iff.2 fun f hf => by rw [inSlot?, ordered f hf]; rfl
    rw [List.filterMap_append, none, List.nil_append]
  have values : (gs.filterMap inSlot?).map Prod.snd = gs.map Prod.snd := by
    clear apart rest first
    induction gs with
    | nil => rfl
    | cons g gs ih =>
      rw [List.forall_mem_cons] at slotted
      obtain ⟨name, hname⟩ := Option.ne_none_iff_exists'.1 slotted.1
      rw [List.filterMap_cons, inSlot?, hname, Option.map_some, List.map_cons, List.map_cons,
        ih slotted.2]
  rw [all, Table.values, ofList, ordered_foldl_add, first, entries_foldl_add, rest]
  · simp [empty, Table.empty, values]
  · simpa [empty, Table.empty, Table.keys, ordered'] using apart

theorem visible_ofList_eq {fs gs : List (Option String × String)}
    (apart : (fs.filterMap Prod.fst).Nodup) (apart' : (gs.filterMap Prod.fst).Nodup)
    (h : (fs.filter fun f => shows f.2) = gs.filter fun f => shows f.2) :
    (ofList fs).visible = (ofList gs).visible := by
  have ordered : (ofList fs).visible.ordered = (ofList gs).visible.ordered := by
    rw [ordered_visible_ofList, ordered_visible_ofList, h]
  have entries : (ofList fs).visible.slots.entries = (ofList gs).visible.slots.entries := by
    rw [entries_visible_ofList fs apart, entries_visible_ofList gs apart', h]
  exact Children.ext ordered (Table.ext entries)

end Children

end MiniApp

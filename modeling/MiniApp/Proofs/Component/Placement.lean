import MiniApp.Proofs.Component.Related
import MiniApp.Proofs.Component.Resolution
import MiniApp.Proofs.Source.Fill

set_option autoImplicit false

namespace MiniApp

namespace Tree

variable {α σ : Type} {R : String → String → Prop}

theorem forall₂_related_self {ts : List (Tree α σ)} (h : ∀ t ∈ ts, Related R t t) :
    List.Forall₂ (Related R) ts ts := List.forall₂_same.2 h

theorem related_one {t t' : Tree α σ} (h : Related R t t') : List.Forall₂ (Related R) [t] [t'] :=
  .cons h .nil

theorem related_option {β : Type} {f : β → Tree α σ} (h : ∀ b, Related R (f b) (f b))
    (o : Option β) : List.Forall₂ (Related R) (o.toList.map f) (o.toList.map f) :=
  forall₂_related_self (List.forall_mem_map.2 fun b _ => h b)

theorem related_orElse {ts us others : List (Tree α σ)} (h : List.Forall₂ (Related R) ts us)
    (ho : ∀ t ∈ others, Related R t t) :
    List.Forall₂ (Related R) (if ts.isEmpty then others else ts)
      (if us.isEmpty then others else us) := by
  cases h with
  | nil => exact forall₂_related_self ho
  | cons first rest => exact .cons first rest

section Fragments

variable (keeps : KeepsEmptiness R) {fs gs : List String} (h : List.Forall₂ R fs gs)
include keeps h

theorem related_raws :
    List.Forall₂ (Related R) (raws fs : List (Tree α σ)) (raws gs) := by
  induction h with
  | nil => exact .nil
  | @cons f g fs gs first _ ih =>
    by_cases shows : f = ""
    · have silent : g = "" := (keeps f g first).1 shows
      rwa [raws, raws, List.filter_cons_of_neg (by simpa using shows),
        List.filter_cons_of_neg (by simpa using silent)]
    · have shows' : g ≠ "" := fun silent => shows ((keeps f g first).2 silent)
      rw [raws, raws, List.filter_cons_of_pos (by simpa using shows),
        List.filter_cons_of_pos (by simpa using shows')]
      exact .cons (.raw first shows) ih

theorem related_around (head : Head α σ) :
    List.Forall₂ (Related R) (fs.map fun f => element head (raws [f]))
      (gs.map fun g => element head (raws [g])) := by
  rw [List.forall₂_map_left_iff, List.forall₂_map_right_iff]
  exact h.imp fun _ _ first => .element head (related_raws keeps (.cons first .nil))

theorem related_group (head : Head α σ) :
    List.Forall₂ (Related R) (if fs.isEmpty then [] else [element head (raws fs)])
      (if gs.isEmpty then [] else [element head (raws gs)]) := by
  cases h with
  | nil => exact .nil
  | cons first rest => exact related_one (.element head (related_raws keeps (.cons first rest)))

end Fragments

/-- Around related children the rule lays out related trees. -/
def Places (R : String → String → Prop) (rule : Children → Tree α σ) : Prop :=
  ∀ {c d : Children}, c.Related R d → Related R (rule c) (rule d)

section Shapes

theorem related_progress (outer header label value track fill : Head α σ) (shows : Bool)
    (name percent : String) :
    let head := element header [element label [.text name], element value [.text percent]]
    let whole : Tree α σ :=
      element outer ((if shows then [head] else []) ++ [element track [element fill []]])
    Related R whole whole := by
  refine .element _ (List.rel_append ?_ (related_one (.element _ (related_one (.element _ .nil)))))
  split
  · exact related_one (.element _ (.cons (.words _ name) (related_one (.words _ percent))))
  · exact .nil

theorem related_avatar (image : String → Head α σ) (circle : Head α σ) (src : Option String)
    (initials : String) :
    let whole : Tree α σ :=
      match src with
      | some src => element (image src) []
      | none => element circle [.text initials]
    Related R whole whole := by
  cases src with
  | some src => exact .element _ .nil
  | none => exact .words _ initials

variable (keeps : KeepsEmptiness R)
include keeps

theorem places_layout (outer inner header footer : Head α σ) :
    Places R fun c => element outer
      (((c.slot? "header").toList.map fun f => element header (raws [f])) ++
        [element inner (raws c.ordered ++ raws (c.slot? "content").toList ++
          raws (c.extraSlots ["header", "content", "footer"]))] ++
        (c.slot? "footer").toList.map fun f => element footer (raws [f])) := by
  intro c d h
  refine .element _ (List.rel_append (List.rel_append ?_ (related_one (.element _ ?_))) ?_)
  · exact related_around keeps (h.slot? keeps "header") header
  · exact List.rel_append (List.rel_append (related_raws keeps h.ordered)
      (related_raws keeps (h.slot? keeps "content")))
      (related_raws keeps (h.extraSlots keeps ["header", "content", "footer"]))
  · exact related_around keeps (h.slot? keeps "footer") footer

theorem places_card (outer title subtitle body footer : Head α σ) (name : String)
    (under : Option String) :
    Places R fun c => element outer
      ([element title [.text name]] ++
        (under.toList.map fun s => element subtitle [.text s]) ++
        (if (c.remaining ["footer"]).isEmpty then []
          else [element body (raws (c.remaining ["footer"]))]) ++
        (c.slot? "footer").toList.map fun f => element footer (raws [f])) := by
  intro c d h
  refine .element _ (List.rel_append (List.rel_append (List.rel_append ?_ ?_) ?_) ?_)
  · exact related_one (.words _ name)
  · exact related_option (fun s => .words _ s) under
  · exact related_group keeps (h.remaining keeps ["footer"]) body
  · exact related_around keeps (h.slot? keeps "footer") footer

theorem places_list (outer item child : Head α σ) (items : List String) :
    Places R fun c => element outer
      ((items.map fun s => element item [.text s]) ++
        c.all.map fun f => element child (raws [f])) := by
  intro c d h
  refine .element _ (List.rel_append ?_ (related_around keeps (h.all keeps) child))
  exact forall₂_related_self (List.forall_mem_map.2 fun s _ => .words _ s)

theorem places_navBar (outer back title actions : Head α σ) (shows : Bool) (arrow name : String) :
    Places R fun c => element outer
      ((if shows then [element back [.text arrow]] else []) ++ [element title [.text name]] ++
        if c.all.isEmpty then [] else [element actions (raws c.all)]) := by
  intro c d h
  refine .element _ (List.rel_append (List.rel_append ?_ (related_one (.words _ name)))
    (related_group keeps (h.all keeps) actions))
  split
  · exact related_one (.words _ arrow)
  · exact .nil

end Shapes

end Tree

open Component MiniApp.Tree

variable {R : String → String → Prop}

namespace DocumentRule

theorem related_tab (active index : Nat) (t : Tab) :
    Related R (tab active index t) (tab active index t) := by
  refine .element _ (List.rel_append ?_ (related_one (.words _ t.label)))
  exact related_option (fun icon => .words _ icon) t.icon

theorem related_tabsFrom (active index : Nat) (ts : List Tab) :
    List.Forall₂ (Related R) (tabsFrom active index ts) (tabsFrom active index ts) := by
  induction ts generalizing index with
  | nil => exact .nil
  | cons t ts ih => exact .cons (related_tab active index t) (ih (index + 1))

section Children

variable (keeps : KeepsEmptiness R) {c d : Children} (h : c.Related R d)
include keeps h

theorem related_slides (m : Carousel) : List.Forall₂ (Related R) (slides m c) (slides m d) := by
  have image (attrs : List (String × Markup.Attr)) :
      Related R (slideElement [voidElement "img" [] attrs []])
        (slideElement [voidElement "img" [] attrs []]) :=
    .element _ (related_one (.element _ .nil))
  refine related_orElse (List.rel_append ?_ ?_) (List.forall_mem_singleton.2 (image _))
  · exact forall₂_related_self (List.forall_mem_map.2 fun _ _ => image _)
  · exact related_around keeps (h.all keeps) _

theorem related_carousel (m : Carousel) (handle : String) :
    Related R (carousel m c handle) (carousel m d handle) := by
  have shown := related_slides keeps h m
  refine .element _ (.cons (.element _ shown) (related_one (.element _ ?_)))
  rw [shown.length_eq]
  exact forall₂_related_self (List.forall_mem_map.2 fun _ _ => .element _ .nil)

theorem related_sheet (m : Sheet) (handle : String) :
    Related R (sheet m c handle) (sheet m d handle) := by
  have content := List.rel_append (related_raws (α := Markup.Attr) (σ := String) keeps
    (h.slot? keeps "content")) (related_raws keeps (h.remaining keeps ["content"]))
  refine .element _ (.cons (.words _ m.triggerLabel) (related_one (.element _ (.cons
    (.element _ .nil) (related_one (.element _ ?_))))))
  exact .cons (.element _ .nil) (.cons (.words _ m.title) (.cons (.element _ content)
    (related_one (.words _ m.closeLabel))))

theorem related_markup (handle : String) (component : Component) :
    Related R (component.markup c handle) (component.markup d handle) := by
  cases component with
  | container m => exact .element _ (related_raws keeps (h.all keeps))
  | layout m => exact places_layout keeps _ _ _ _ h
  | text m => exact .words _ m.text
  | heading m => exact .words _ m.text
  | button m => exact .words _ m.label
  | image m => exact .element _ .nil
  | card m => exact places_card keeps _ _ _ _ _ m.title m.subtitle h
  | carousel m => exact related_carousel keeps h m handle
  | sheet m => exact related_sheet keeps h m handle
  | tabBar m => exact .element _ (related_tabsFrom m.active 0 m.tabs)
  | progress m => exact related_progress _ _ _ _ _ _ m.showLabel m.label _
  | divider m => exact .element _ .nil
  | spacer m => exact .element _ .nil
  | input m => exact .element _ (.cons (.words _ m.label) (related_one (.element _ .nil)))
  | list m => exact places_list keeps _ _ _ m.items h
  | avatar m => exact related_avatar _ _ m.src m.initials
  | badge m => exact .words _ m.text
  | navBar m => exact places_navBar keeps _ _ _ _ m.showBack _ m.title h

end Children

end DocumentRule

namespace ProjectRule

section Children

variable (keeps : KeepsEmptiness R) {c d : Children} (h : c.Related R d)
include keeps h

theorem related_carousel (m : Carousel) : Related R (carousel m c) (carousel m d) := by
  have shown := h.all keeps
  have empty : c.all.isEmpty = d.all.isEmpty := by
    rw [Bool.eq_iff_iff, List.isEmpty_iff_length_eq_zero, List.isEmpty_iff_length_eq_zero,
      shown.length_eq]
  rw [carousel, carousel, empty]
  exact .element _ (related_raws keeps shown)

theorem related_sheet (m : Sheet) (handle : String) :
    Related R (sheet m c handle) (sheet m d handle) :=
  .element _ (List.rel_append (related_raws keeps (h.slot? keeps "content"))
    (related_raws keeps (h.remaining keeps ["content"])))

theorem related_jsx (handle : String) (component : Component) :
    Related R (component.jsx c handle) (component.jsx d handle) := by
  cases component with
  | container m => exact .element _ (related_raws keeps (h.all keeps))
  | layout m => exact places_layout keeps _ _ _ _ h
  | text m => exact .words _ m.text
  | heading m => exact .words _ m.text
  | button m => exact .words _ m.label
  | image m => exact .element _ .nil
  | card m => exact places_card keeps _ _ _ _ _ m.title m.subtitle h
  | carousel m => exact related_carousel keeps h m
  | sheet m => exact related_sheet keeps h m handle
  | tabBar m => exact .element _ .nil
  | progress m => exact related_progress _ _ _ _ _ _ m.showLabel m.label _
  | divider m => exact .element _ .nil
  | spacer m => exact .element _ .nil
  | input m => exact .element _ (.cons (.words _ m.label) (related_one (.element _ .nil)))
  | list m => exact places_list keeps _ _ _ m.items h
  | avatar m => exact related_avatar _ _ m.src m.initials
  | badge m => exact .words _ m.text
  | navBar m => exact places_navBar keeps _ _ _ _ m.showBack _ m.title h

end Children

end ProjectRule

end MiniApp

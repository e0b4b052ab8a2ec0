import MiniApp.Walk.Unfolding
import Mathlib.Tactic.SplitIfs

/-!
A walk carries a stack, a counter and a report from link to link. Told link by link, what it leaves
behind is read off the unfolded graph: the stack is the way from the root again, the counter has
moved by the number of nodes below the link, and the report has taken note of the events there.
-/

set_option autoImplicit false

namespace MiniApp.Walker

variable {g : Graph} {backend : Backend} {path : List String}

/-- The walker after a part of the graph that holds some nodes and events. -/
def after (w : Walker) (nodes : Nat) (events : List Event) : Walker :=
  ⟨w.stack, w.ordinal + nodes, events.foldl Report.record w.report⟩

theorem after_after (w : Walker) (m n : Nat) (es fs : List Event) :
    (w.after m es).after n fs = w.after (m + n) (es ++ fs) := by
  simp only [after, List.foldl_append, Nat.add_assoc]

/-- `follow` renders a link below `path` as the tree that `tree` unfolds it into. -/
def Follows (backend : Backend) (path : List String) (depth : Nat) (tree : String → Unfolding)
    (follow : String → Walker → String × Walker) : Prop :=
  ∀ id w, w.stack = path →
    follow id w = ((tree id).fragment backend (w.ordinal + 1),
      w.after (tree id).size ((tree id).events backend (w.ordinal + 1) depth))

theorem visitLinks_eq {depth : Nat} {tree : String → Unfolding}
    {follow : String → Walker → String × Walker} (h : Follows backend path depth tree follow)
    (links : List Link) (c : Children) (w : Walker) (hw : w.stack = path) :
    let below := links.map fun l => (l.slotName, tree l.id)
    visitLinks follow links c w =
      ((Unfolding.fragments backend (w.ordinal + 1) below).foldl (fun c f => c.add f.1 f.2) c,
        w.after (Unfolding.sizeOfLinks below)
          (Unfolding.eventsOfLinks backend (w.ordinal + 1) depth below)) := by
  induction links generalizing c w with
  | nil => rfl
  | cons l links ih =>
    simp only [visitLinks, h l.id w hw, List.map_cons, Unfolding.fragments, Unfolding.sizeOfLinks,
      Unfolding.eventsOfLinks, List.foldl_cons]
    rw [ih _ _ (by exact hw), after_after]
    simp only [after, Nat.add_right_comm]

theorem emitNode_eq (n : Node) (c : Children) (handle : String) (w : Walker) (e : Option Entry) :
    emitNode backend n c handle w e =
      (emitAs backend n.props c handle e,
        w.note (·.addVerdict n (judge backend n.props c handle e))) := by
  cases e with
  | none => rfl
  | some e =>
    simp only [emitNode, emitAs, judge]
    cases e.emit backend n.props c handle <;> rfl

theorem emitNode_visitLinks {depth : Nat} {tree : String → Unfolding}
    {follow : String → Walker → String × Walker} (n : Node) (links : List Link) (e : Option Entry)
    (w : Walker) (h : Follows backend (n.id :: w.stack) (depth + 1) tree follow) :
    let below := links.map fun l => (l.slotName, tree l.id)
    let number := w.ordinal + 1
    let c := Children.ofList (Unfolding.fragments backend (number + 1) below)
    let r := visitLinks follow links .empty (w.enter n)
    emitNode backend n r.1 (handleAt number) (r.2.leave depth) e =
      (emitAs backend n.props c (handleAt number) e,
        w.after (1 + Unfolding.sizeOfLinks below)
          (Unfolding.eventsOfLinks backend (number + 1) (depth + 1) below ++
            [Event.finished depth n (judge backend n.props c (handleAt number) e)])) := by
  simp only [visitLinks_eq h links .empty (w.enter n) rfl, emitNode_eq]
  simp only [enter, leave, note, after, Children.ofList, List.foldl_append, List.foldl_cons,
    List.foldl_nil, List.tail_cons, Nat.add_assoc, Report.record]

theorem visit_eq {depth : Nat} {tree : String → Unfolding}
    {follow : String → Walker → String × Walker} (n : Node) (w : Walker)
    (h : Follows backend (n.id :: w.stack) (depth + 1) tree follow) (hn : n.hidden = false) :
    let u := Unfolding.node n (n.links.map fun l => (l.slotName, tree l.id))
    visit backend follow n depth w =
      (u.fragment backend (w.ordinal + 1),
        w.after u.size (u.events backend (w.ordinal + 1) depth)) := by
  dsimp only
  rw [visit, if_neg (by simp [hn]), Unfolding.fragment, Unfolding.size, Unfolding.events,
    Unfolding.verdict, Node.emit, Node.judge]
  exact emitNode_visitLinks n n.links n.entry? w h

/-- The stack is the way from the root, and the levels left for the tree are those that the depth
check leaves to the walk. -/
theorem follows_visitLink (g : Graph) (backend : Backend) (path : List String) (budget depth : Nat)
    (h : depth + budget = maxDepth + 1) :
    Follows backend path depth (g.unfoldLink budget path)
      (fun id w => visitLink g backend depth id w) := by
  induction budget generalizing depth path with
  | zero =>
    rintro id w rfl
    show visitLink g backend depth id w = _
    rw [visitLink]
    split_ifs with hc hd
    · rw [g.unfoldLink_of_mem 0 hc]
      rfl
    · rw [g.unfoldLink_zero hc]
      rfl
    · omega
  | succ budget ih =>
    rintro id w rfl
    show visitLink g backend depth id w = _
    rw [visitLink]
    split_ifs with hc hd
    · rw [g.unfoldLink_of_mem _ hc]
      rfl
    · omega
    · rw [g.unfoldLink_succ budget hc]
      cases hg : g.get? id with
      | none => rfl
      | some n =>
        cases hn : n.hidden with
        | true =>
          simp [visit, hn, Unfolding.fragment, Unfolding.size, Unfolding.events, after,
            Report.record, Report.addSkipped]
        | false =>
          have below := ih (n.id :: w.stack) (depth + 1) (by omega)
          simpa only [hn, Bool.false_eq_true, if_false] using visit_eq n w below hn

end MiniApp.Walker

namespace MiniApp

/-- A walk, read off the unfolded graph. -/
theorem walk_eq (g : Graph) (backend : Backend) :
    walk g backend =
      ⟨g.unfold.fragment backend 1, .ofEvents (g.unfold.events backend 1 0)⟩ := by
  have below := Walker.follows_visitLink g backend [g.root.id] maxDepth 1 (Nat.add_comm ..)
  rw [g.unfold_eq, walk]
  cases hn : g.root.hidden with
  | true =>
    simp [Walker.visit, hn, Walker.start, Unfolding.fragment, Unfolding.events, Report.ofEvents,
      Report.record, Report.addSkipped]
  | false =>
    rw [Walker.visit_eq g.root Walker.start below hn]
    simp only [Walker.after, Walker.start, Bool.false_eq_true, if_false, Report.ofEvents]

theorem output_eq_fragment (g : Graph) (backend : Backend) :
    (walk g backend).output = g.unfold.fragment backend 1 := by
  rw [walk_eq]

end MiniApp

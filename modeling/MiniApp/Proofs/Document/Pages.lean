import MiniApp.Proofs.Document.Contents

set_option autoImplicit false

namespace MiniApp

namespace Document

/-- The pages before which there is none of the same id. -/
def firstOfEach (pages : List Page) : List Page :=
  (pages.zipIdx.filter fun e => (pages.take e.2).all fun q => q.id != e.1.id).map Prod.fst

/-- A page with the elements of its own graph, or with a notice that says why there are none. -/
def shownPage (p : Page) : RenderedPage where
  id := p.id
  title := p.title
  html :=
    match p.readGraph with
    | .ok g => (walk g .document).output
    | .error e => finishLines (noticeLines e.message)

def shownPages (pages : List Page) : List RenderedPage := (firstOfEach pages).map shownPage

theorem renderPage_eq (p : Page) : renderPage p = shownPage p := by
  rw [renderPage, pageBody, shownPage]
  cases p.readGraph with
  | ok g => rfl
  | error e => simp only [brokenPage_eq]

section FirstPages

theorem firstPages_congr {seen seen' : List String} (same : ∀ id, id ∈ seen ↔ id ∈ seen')
    (pages : List Page) : firstPages seen pages = firstPages seen' pages := by
  induction pages generalizing seen seen' with
  | nil => rfl
  | cons p ps ih =>
    have longer : ∀ id, id ∈ p.id :: seen ↔ id ∈ p.id :: seen' := fun id => by
      rw [List.mem_cons, List.mem_cons, same]
    rw [firstPages, firstPages, if_congr (same p.id) (ih same) (congrArg (p :: ·) (ih longer))]

theorem firstPages_cons (seen : List String) (p : Page) (ps : List Page) :
    firstPages seen (p :: ps) =
      (if p.id ∈ seen then [] else [p]) ++ firstPages (p.id :: seen) ps := by
  rw [firstPages]
  split
  · next known =>
    refine firstPages_congr (fun id => ?_) ps
    rw [List.mem_cons, or_iff_right_of_imp]
    rintro rfl
    exact known
  · rfl

theorem firstPages_append (seen : List String) (ps qs : List Page) :
    firstPages seen (ps ++ qs) = firstPages seen ps ++ firstPages (ps.map Page.id ++ seen) qs := by
  induction ps generalizing seen with
  | nil => rfl
  | cons p ps ih =>
    have moved : firstPages (ps.map Page.id ++ p.id :: seen) qs =
        firstPages ((p :: ps).map Page.id ++ seen) qs :=
      firstPages_congr (fun id => (List.perm_middle.mem_iff)) qs
    rw [List.cons_append, firstPages_cons, firstPages_cons, ih, moved, List.append_assoc]

theorem firstPages_eq_filter (before ps : List Page) :
    firstPages (before.map Page.id) ps = ((ps.zipIdx before.length).filter fun e =>
      ((before ++ ps).take e.2).all fun q => q.id != e.1.id).map Prod.fst := by
  induction ps generalizing before with
  | nil => rfl
  | cons p ps ih =>
    have behind := ih (before ++ [p])
    have seen : firstPages ((before ++ [p]).map Page.id) ps =
        firstPages (p.id :: before.map Page.id) ps :=
      firstPages_congr (fun id => by simp [or_comm]) ps
    have own : ((before ++ p :: ps).take before.length).all (fun q => q.id != p.id) =
        decide (p.id ∉ before.map Page.id) := by
      rw [List.take_left, Bool.eq_iff_iff]
      simp
    rw [seen, List.append_assoc, List.length_append, List.length_singleton] at behind
    rw [firstPages_cons, behind, List.zipIdx_cons, List.filter_cons, own]
    by_cases known : p.id ∈ before.map Page.id <;> simp [known]

theorem firstOfEach_eq (pages : List Page) : firstOfEach pages = firstPages [] pages :=
  (firstPages_eq_filter [] pages).symm

example : firstOfEach [⟨"a", "A", .null⟩, ⟨"b", "B", .null⟩, ⟨"a", "C", .null⟩] =
    [⟨"a", "A", .null⟩, ⟨"b", "B", .null⟩] := by decide +kernel

theorem shownPages_eq (pages : List Page) :
    shownPages pages = (firstPages [] pages).map shownPage := by
  rw [shownPages, firstOfEach_eq]

theorem shownPages_cons (p : Page) (ps : List Page) :
    ∃ rest, shownPages (p :: ps) = shownPage p :: rest := by
  rw [shownPages_eq, firstPages, if_neg List.not_mem_nil]
  exact ⟨_, rfl⟩

theorem shownPages_append_cons (before : List Page) (p : Page) (after : List Page) :
    shownPages (before ++ p :: after) = shownPages before ++
      ((if p.id ∈ before.map Page.id then [] else [shownPage p]) ++
        (firstPages (p.id :: before.map Page.id) after).map shownPage) := by
  rw [shownPages_eq, shownPages_eq, firstPages_append, firstPages_cons, List.append_nil,
    List.map_append, List.map_append]
  split <;> rfl

end FirstPages

theorem map_renderPage (pages : List Page) :
    (firstPages [] pages).map renderPage = shownPages pages := by
  rw [shownPages_eq]
  exact List.map_congr_left fun p _ => renderPage_eq p

theorem contents?_ofPages (o : DocumentOptions) (p : Page) (ps : List Page) :
    contents? (ofPages o (p :: ps)) =
      some ⟨(shownPage p).title, (shownPage p).id, (Text.linesOf (shownPage p).html).map outdented,
        (shownPage p).id, shownPages (p :: ps)⟩ := by
  have body : IsBody (shownPage p).html := by
    rw [← renderPage_eq]
    exact isBody_pageBody p
  obtain ⟨rest, first⟩ := shownPages_cons p ps
  rw [ofPages, map_renderPage, first]
  exact contents?_assemble o body (shownPage p) rest

theorem table_ofPages (o : DocumentOptions) {pages : List Page} (shows : pages ≠ []) :
    (contents? (ofPages o pages)).map Contents.table = some (shownPages pages) := by
  obtain ⟨p, ps, rfl⟩ := List.exists_cons_of_ne_nil shows
  rw [contents?_ofPages]
  rfl

end Document

open Document in
/-- A document shows the first page of each id: in its table all of them, in its main element, title
and configuration the first of the list. Another graph for one page changes that page at most. -/
theorem pages_assembled (o : DocumentOptions) :
    ofPages o [] = placeholder o "The project has no pages." ∧
    (∀ p ps, contents? (ofPages o (p :: ps)) =
      some {
        title := (shownPage p).title
        page := (shownPage p).id
        body := (Text.linesOf (shownPage p).html).map outdented
        initialPage := (shownPage p).id
        table := shownPages (p :: ps) }) ∧
    ∀ (before : List Page) (p : Page) (after : List Page), ∃ rest, ∀ graph,
      (contents? (ofPages o (before ++ { p with graph := graph } :: after))).map Contents.table =
        some (shownPages before ++
          ((if p.id ∈ before.map Page.id then [] else [shownPage { p with graph := graph }]) ++
            rest)) := by
  refine ⟨rfl, contents?_ofPages o, fun before p after =>
    ⟨(firstPages (p.id :: before.map Page.id) after).map shownPage, fun graph => ?_⟩⟩
  rw [table_ofPages o (List.append_ne_nil_of_right_ne_nil _ (List.cons_ne_nil _ _)),
    shownPages_append_cons]

end MiniApp

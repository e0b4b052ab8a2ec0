import MiniApp.Proofs.Document.Script

set_option autoImplicit false

namespace MiniApp

open Code (Value prototypeKey)

namespace DocumentScript

def constantValue? (name script : String) : Option Value :=
  ((constant? name (scriptLines script)).bind Code.Literal.object?).map Code.Literal.value

def pageValue (p : RenderedPage) : Value :=
  .object [("title", .text p.title), ("html", .text p.html)] none

theorem object?_tableLines (pages : List RenderedPage) :
    Code.Literal.object? (tableLines pages) = some (.object (pages.map pageEntry)) := by
  rw [tableLines]
  split
  · next none =>
    rw [List.isEmpty_iff.1 none]
    rfl
  · exact object?_pageTable pages

theorem constantValue?_pages (appName : String) (timeout : Nat) (pages : List RenderedPage) :
    constantValue? "PAGES" (text appName timeout pages) =
      some (Code.Literal.object (pages.map pageEntry)).value := by
  rw [constantValue?, constant?_pageTable, Option.bind_some, object?_tableLines, Option.map_some]

/-- The pages whose id names the prototype of a table. -/
def special (pages : List RenderedPage) : List RenderedPage :=
  pages.filter fun p => p.id = prototypeKey

theorem mem_special {pages : List RenderedPage} {p : RenderedPage} :
    p ∈ special pages ↔ p ∈ pages ∧ p.id = prototypeKey := by
  rw [special, List.mem_filter, decide_eq_true_eq]

theorem special_cases {pages : List RenderedPage} (apart : (pages.map RenderedPage.id).Nodup) :
    special pages = [] ∨ ∃ p, special pages = [p] := by
  have distinct : ((special pages).map RenderedPage.id).Nodup :=
    apart.sublist (List.filter_sublist.map RenderedPage.id)
  have same (p : RenderedPage) (hp : p ∈ special pages) := (mem_special.1 hp).2
  match special pages, distinct, same with
  | [], _, _ => exact .inl rfl
  | [p], _, _ => exact .inr ⟨p, rfl⟩
  | p :: q :: _, distinct, same =>
    have first := same p List.mem_cons_self
    have second := same q (List.mem_cons_of_mem _ List.mem_cons_self)
    refine absurd (List.nodup_cons.1 distinct).1 (not_not.2 ?_)
    rw [first, List.map_cons, second]
    exact List.mem_cons_self

/-- What a table is evaluated to: the other pages are its properties, the special one its prototype. -/
theorem value_pages {pages : List RenderedPage} (apart : (pages.map RenderedPage.id).Nodup) :
    (Code.Literal.object (pages.map pageEntry)).value =
      .object ((pages.filter fun p => p.id ≠ prototypeKey).map fun p => (p.id, pageValue p))
        ((special pages).head?.map pageValue) := by
  have keys : ((pages.map pageEntry).map Prod.fst).Nodup := by
    rw [List.map_map]
    exact apart
  have others : (((pages.map pageEntry).filter fun e => e.1 ≠ prototypeKey).map
      fun e => (e.1, e.2.value)) =
        (pages.filter fun p => p.id ≠ prototypeKey).map fun p => (p.id, pageValue p) := by
    rw [List.filter_map, List.map_map]
    rfl
  have rest : (((pages.map pageEntry).filter fun e => e.1 = prototypeKey).map fun e => e.2.value) =
      (special pages).map pageValue := by
    rw [List.filter_map, List.map_map]
    rfl
  rw [Code.Literal.value_object keys, others, rest]
  rcases special_cases apart with none | ⟨p, one⟩
  · rw [none]
    rfl
  · rw [one]
    rfl

end DocumentScript

open DocumentScript

/-- For pages of distinct ids, what the table has of its own is one property for each page but that of
the one special id, with the title and the body of the page; the special page is its prototype. -/
theorem page_table_evaluated (appName : String) (timeout : Nat) (pages : List RenderedPage)
    (apart : (pages.map RenderedPage.id).Nodup) :
    ∃ table, constantValue? "PAGES" (DocumentScript.text appName timeout pages) = some table ∧
      (∀ id value, table.own? id = some value ↔
        id ≠ prototypeKey ∧ ∃ p ∈ pages, p.id = id ∧ value = pageValue p) ∧
      ∀ value, table.prototype? = some value ↔
        ∃ p ∈ pages, p.id = prototypeKey ∧ value = pageValue p := by
  refine ⟨_, constantValue?_pages appName timeout pages, ?_⟩
  rw [value_pages apart]
  refine ⟨fun id value => ?_, fun value => ?_⟩
  · have keys : (((pages.filter fun p => p.id ≠ prototypeKey).map
        fun p => (p.id, pageValue p)).map Prod.fst).Nodup := by
      rw [List.map_map]
      exact apart.sublist (List.filter_sublist.map RenderedPage.id)
    rw [Value.own?, findEntry_eq_some_iff keys, List.mem_map]
    constructor
    · rintro ⟨p, hp, same⟩
      cases same
      rw [List.mem_filter, decide_eq_true_eq] at hp
      exact ⟨hp.2, p, hp.1, rfl, rfl⟩
    · rintro ⟨other, p, hp, rfl, rfl⟩
      exact ⟨p, List.mem_filter.2 ⟨hp, decide_eq_true other⟩, rfl⟩
  · have same : (∃ p ∈ pages, p.id = prototypeKey ∧ value = pageValue p) ↔
        ∃ p ∈ special pages, value = pageValue p := by
      simp only [mem_special, and_assoc]
    rw [Value.prototype?, same]
    rcases special_cases apart with none | ⟨p, one⟩
    · simp [none]
    · simp [one, eq_comm]

theorem page_table_evaluated_two :
    let pages : List RenderedPage := [⟨"home", "Home", "<p>Hi</p>"⟩, ⟨"more", "More", ""⟩]
    (pages.map RenderedPage.id).Nodup ∧
      ∃ table, constantValue? "PAGES" (DocumentScript.text "Demo" 0 pages) = some table ∧
        table.own? "more" = some (pageValue ⟨"more", "More", ""⟩) := by
  have apart : ([⟨"home", "Home", "<p>Hi</p>"⟩, ⟨"more", "More", ""⟩].map RenderedPage.id).Nodup := by
    decide
  obtain ⟨table, evaluated, own, -⟩ := page_table_evaluated "Demo" 0 _ apart
  exact ⟨apart, table, evaluated, (own _ _).2 ⟨by decide, _, by simp, rfl, rfl⟩⟩

/-- The page of the special id is no property of the table. -/
theorem special_page_no_property :
    ∃ table, constantValue? "PAGES" (DocumentScript.text "Demo" 0 [⟨"__proto__", "T", "H"⟩]) =
      some table ∧ table.own? "__proto__" = none :=
  ⟨_, constantValue?_pages .., rfl⟩

end MiniApp

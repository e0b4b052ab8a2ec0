import MiniApp.Proofs.Document.Reader
import MiniApp.Proofs.Walk.References

set_option autoImplicit false

namespace MiniApp

open Markup

namespace Document

def frameIds : List String := ["mf-app", "mf-toasts"]

theorem frameIds_apart {id : String} (h : id ∈ frameIds) (number : Nat) :
    ¬ LinkAt number ("id", some id) := by
  rintro ⟨ending, known, same⟩
  have digits := takeWhile_idAt known number
  have none : ∀ id ∈ frameIds, ((id.toList.drop 2).takeWhile fun c => decide (c ≠ '-')) = [] := by
    decide
  rw [← Option.some.inj same, none id h] at digits
  exact Nat.toDigits_ne_nil digits.symm

theorem plain_of_allowed {tags : List Tag} (allowed : ∀ tag ∈ tags, tag.Allowed) : Plain tags := by
  have apart : ∀ name ∈ tagNames, name ∉ rawNames := by decide
  exact fun name attrs h => apart name (allowed _ h).1

theorem linksOf_document (language theme : String) (pages : List RenderedPage) (tags : List Tag) :
    linksOf (headTags language theme ++ (mainTag pages :: (tags ++ [.closing "main"]) ++ footTags)) =
      ("id", some "mf-app") :: (linksOf tags ++ [("id", some "mf-toasts")]) := by
  have head : linksOf (headTags language theme) = [] := rfl
  have foot : linksOf footTags = [("id", some "mf-toasts")] := rfl
  have main : links (mainTag pages).attrs = [("id", some "mf-app")] := by
    rw [mainTag]
    cases pages <;> rfl
  rw [linksOf_append, head, linksOf_append, linksOf_cons, main, linksOf_append, foot, linksOf_closing]
  simp

/-- Links of the components of a graph between the ids of the frame. -/
theorem linked_document {low high : Nat} {tags : List Tag} (h : LinksIn low high (linksOf tags))
    (language theme : String) (pages : List RenderedPage) :
    Linked (headTags language theme ++
      (mainTag pages :: (tags ++ [.closing "main"]) ++ footTags)) := by
  have apart {id : String} (known : id ∈ frameIds) : ("id", some id) ∉ linksOf tags := by
    intro mem
    obtain ⟨number, -, -, here⟩ := h.numbered _ mem
    exact frameIds_apart known number here
  have app := apart List.mem_cons_self
  have toasts := apart (List.mem_cons_of_mem _ List.mem_cons_self)
  refine linked_of_resolved ?_ ?_
  · rw [linksOf_document, List.nodup_cons, List.nodup_append]
    refine ⟨by simp [app], h.distinct, List.nodup_singleton _, fun l hl m hm same => ?_⟩
    rw [same, List.mem_singleton.1 hm] at hl
    exact toasts hl
  · rw [linksOf_document]
    change Resolved ([("id", some "mf-app")] ++ (linksOf tags ++ [("id", some "mf-toasts")]))
    have own (id : String) : Resolved [("id", some id)] :=
      List.forall_mem_singleton.2 List.mem_cons_self
    exact resolved_append (own _) (resolved_append h.resolved (own _))

theorem valuesOf_document {name : String} (known : name ∈ linkNames) (language theme : String)
    (pages : List RenderedPage) (tags : List Tag) :
    valuesOf name (headTags language theme ++
      (mainTag pages :: (tags ++ [.closing "main"]) ++ footTags)) =
        if name = "id" then "mf-app" :: (valuesOf name tags ++ ["mf-toasts"])
        else valuesOf name tags := by
  rw [valuesOf_eq_filterMap known, linksOf_document, valuesOf_eq_filterMap known]
  split
  · next id => simp [id, valueNamed]
  · next other => simp [valueNamed, Ne.symm other]

end Document

/-- A walk's output is read as some tags whose ids are distinct and whose references resolve, and so
is a document around it, whose ids are those of its frame and of the output. -/
theorem references_resolve (o : DocumentOptions) (g : Graph) (pages : List RenderedPage) :
    ∃ body tags, read? (walk g .document).output = some body ∧
      Document.read? (Document.assemble o (walk g .document).output pages) = some tags ∧
      Linked body ∧ Linked tags ∧
      valuesOf "id" tags = "mf-app" :: (valuesOf "id" body ++ ["mf-toasts"]) ∧
      ∀ name ∈ referenceNames, valuesOf name tags = valuesOf name body := by
  have read := read?_output g
  have links := g.unfold.linksIn_elements 1
  have plain : Document.Plain (tagsOfAll (fun _ => []) (g.elements Component.markup)) := by
    obtain ⟨tags, accepted, wellFormed⟩ := accepted_fragment 1 g.unfold
    rw [output_eq_fragment, accepted] at read
    exact Document.plain_of_allowed (Option.some.inj read ▸ wellFormed.allowed)
  have others : ∀ name ∈ referenceNames, name ≠ "id" := by decide
  refine ⟨_, _, read, Document.read?_assemble o read plain pages,
    linked_of_resolved links.distinct links.resolved, Document.linked_document links .., ?_,
    fun name known => ?_⟩
  · rw [Document.valuesOf_document List.mem_cons_self, if_pos rfl]
  · rw [Document.valuesOf_document (List.mem_cons_of_mem _ known), if_neg (others name known)]

end MiniApp

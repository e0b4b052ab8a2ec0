import MiniApp.Proofs.Component.Colors
import MiniApp.Proofs.Url

set_option autoImplicit false

namespace MiniApp

open Sanitize (IsUrl)

theorem Props.isUrl_of_url? (p : Props) (key : String) :
    ∀ u ∈ (p.url? key).toList, IsUrl u := by
  intro u hu
  obtain ⟨v, -, read⟩ := List.exists_of_findSome?_eq_some (Option.mem_toList.1 hu)
  obtain ⟨t, -, accepted⟩ := Option.bind_eq_some_iff.1 read
  exact Sanitize.isUrl_of_url? accepted

namespace Action

def urls : Action → List String
  | .link url => [url]
  | .share _ _ url => url.toList
  | _ => []

theorem isUrl_required {property : String} {o : Option String} (h : ∀ u ∈ o.toList, IsUrl u) :
    Except.Gives (fun u => IsUrl u) (required property o) := by
  cases o with
  | none =>
    intro u found
    cases found
  | some u => exact .ok (h u (Option.mem_toList.2 rfl))

theorem isUrl_resolve (p : Props) :
    Except.Gives (fun action => ∀ u ∈ action.urls, IsUrl u) (resolve p) := by
  have own := p.isUrl_of_url? "url"
  have none {action : Action} (h : action.urls = []) : ∀ u ∈ action.urls, IsUrl u :=
    h ▸ List.forall_mem_nil _
  rw [resolve]
  refine .bind fun choice => ?_
  cases choice with
  | link =>
    exact .bind_of (isUrl_required own) fun u accepted => .ok (List.forall_mem_singleton.2 accepted)
  | share => exact .bind fun _ => .bind fun _ => .bind fun _ => .ok own
  | toast => exact .bind fun _ => .bind fun _ => .ok (none rfl)
  | pay =>
    exact .bind fun _ => .bind fun _ => .bind fun _ => .bind fun _ => .bind fun _ => .ok (none rfl)
  | navigate => exact .bind fun _ => .bind fun _ => .ok (none rfl)
  | copy =>
    refine .bind fun text => ?_
    cases text with
    | some => exact .ok (none rfl)
    | none => exact .bind fun _ => .ok (none rfl)
  | none | back | push | user => exact .ok (none rfl)

end Action

namespace Component

def urls : Component → List String
  | image m => m.src.toList
  | avatar m => m.src.toList
  | carousel m => m.slides.map Slide.src
  | button m => m.action.urls
  | _ => []

theorem isUrl_slide? (number : Nat) (item : Json) :
    ∀ s ∈ (slide? number item).toList, IsUrl s.src := by
  have made {o : Option String} (h : ∀ u ∈ o.toList, IsUrl u) (alt : String) :
      ∀ s ∈ (o.map fun src => (⟨src, alt⟩ : Slide)).toList, IsUrl s.src := by
    cases o with
    | none => exact List.forall_mem_nil _
    | some u => exact List.forall_mem_singleton.2 (h u (Option.mem_toList.2 rfl))
  unfold slide?
  split
  · exact made (fun u hu => Sanitize.isUrl_of_url? (Option.mem_toList.1 hu)) _
  · refine made (fun u hu => ?_) _
    obtain ⟨src, -, accepted⟩ := Option.bind_eq_some_iff.1 (Option.mem_toList.1 hu)
    exact Sanitize.isUrl_of_url? accepted
  · exact List.forall_mem_nil _

theorem isUrl_slidesFrom (number : Nat) (items : List Json) :
    ∀ s ∈ slidesFrom number items, IsUrl s.src := by
  induction items generalizing number with
  | nil => exact List.forall_mem_nil _
  | cons item items ih =>
    rw [slidesFrom, List.forall_mem_append]
    exact ⟨isUrl_slide? number item, ih (number + 1)⟩

theorem isUrl_actionOf (p : Props) :
    Except.Gives (fun action => ∀ u ∈ action.urls, IsUrl u) (actionOf p) := by
  unfold actionOf
  split
  · exact .ok (List.forall_mem_nil _)
  · exact Action.isUrl_resolve p

theorem isUrl_resolve (kind : Kind) (p : Props) :
    Except.Gives (fun component => ∀ u ∈ component.urls, IsUrl u) (resolve kind p) := by
  have own := p.isUrl_of_url? "src"
  cases kind with
  | image =>
    exact .map (.bind fun _ => .bind fun _ => .bind fun _ => .bind fun _ => .ok own)
  | avatar => exact .map (.bind fun _ => .bind fun _ => .ok own)
  | carousel =>
    refine .map (.bind fun images => .bind fun _ => .bind fun _ => .bind fun _ => .ok ?_)
    exact List.forall_mem_map.2 (isUrl_slidesFrom 1 images)
  | button =>
    refine .map (.bind_of (isUrl_actionOf p) fun action known => ?_)
    exact .bind fun _ => .bind fun _ => .bind fun _ => .bind fun _ => .ok known
  | _ => exact .map fun _ _ => List.forall_mem_nil _

end Component

/-- A text is accepted when it is an address without the blanks around it, and then that is the
address, which is accepted as it is. A browser finds no scheme in it or an allowed one. The addresses
in a component, whatever its properties are, are such. -/
theorem addresses_allowed :
    (∀ s t, Sanitize.url? s = some t ↔ t = Text.trim s ∧ IsUrl t) ∧
      (∀ s t, Sanitize.url? s = some t → Sanitize.url? t = some t ∧
        (∀ scheme, Sanitize.scheme? t = some scheme → scheme ∈ Sanitize.schemeNames) ∧
        Sanitize.scheme? t ∉ [some "javascript", some "vbscript"]) ∧
      ∀ (kind : Kind) (p : Props) (component : Component),
        Component.resolve kind p = .ok component →
          ∀ u ∈ component.urls, Sanitize.url? u = some u := by
  refine ⟨Sanitize.url?_eq_some_iff, fun s t accepted => ?_, fun kind p component resolved u hu => ?_⟩
  · have url := Sanitize.isUrl_of_url? accepted
    refine ⟨url.url?_eq, fun scheme found => url.scheme_mem found, fun refused => ?_⟩
    simp only [List.mem_cons, List.not_mem_nil, or_false] at refused
    rcases refused with found | found <;> exact absurd (url.scheme_mem found) (by decide)
  · exact (Component.isUrl_resolve kind p component resolved u hu).url?_eq

/-- A link with blanks around it and its scheme in capitals. -/
theorem addresses_allowed_link :
    let p : Props := ⟨[("action", .string "link"), ("url", .string " HTTPS://a.example/b:c ")], []⟩
    Sanitize.url? " HTTPS://a.example/b:c " = some "HTTPS://a.example/b:c" ∧
      Sanitize.scheme? "HTTPS://a.example/b:c" = some "https" ∧
      "https" ∈ Sanitize.schemeNames ∧
      ∃ button, Component.resolve .button p = .ok (.button button) ∧
        button.action = .link "HTTPS://a.example/b:c" ∧
        Sanitize.url? "HTTPS://a.example/b:c" = some "HTTPS://a.example/b:c" := by
  intro p
  obtain ⟨-, schemes, components⟩ := addresses_allowed
  have accepted : Sanitize.url? " HTTPS://a.example/b:c " = some "HTTPS://a.example/b:c" := by decide
  have found : Sanitize.scheme? "HTTPS://a.example/b:c" = some "https" := by decide
  have allowed := (schemes _ _ accepted).2.1 "https" found
  have link := components .button p
    (.button ⟨"", .primary, false, false, .link "HTTPS://a.example/b:c"⟩) rfl
    "HTTPS://a.example/b:c" List.mem_cons_self
  exact ⟨accepted, found, allowed, _, rfl, rfl, link⟩

end MiniApp

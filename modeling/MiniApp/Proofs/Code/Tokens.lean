import MiniApp.Component.Action
import MiniApp.Proofs.Code.Reader
import MiniApp.Proofs.Number.Numeral

set_option autoImplicit false

namespace MiniApp

open Code

namespace Code

def separated (parts : List (List Token)) : List Token := (chars ", ").intercalate parts

theorem reads_intercalate {parts : List String} {tokens : List (List Token)}
    (h : List.Forall₂ Reads parts tokens) : Reads (", ".intercalate parts) (separated tokens) := by
  have comma : Reads ", " (chars ", ") := reads_chars (by decide)
  induction h with
  | nil => exact reads_empty
  | @cons part ts parts tokens here below ih =>
    cases below with
    | nil => simpa [separated] using here
    | @cons part' ts' parts tokens here' below =>
      rw [String.intercalate_cons_cons, separated, List.intercalate_cons_cons]
      exact (here.append comma).append ih

end Code

namespace Script

mutual

def tokens : Script → List Token
  | .text s => [.literal s]
  | .number d => chars (Numeral.text d)
  | .bool b => chars (boolText b)
  | .list items => chars "[" ++ separated (tokensOfItems items) ++ chars "]"
  | .record [] => chars "\x7b\x7d"
  | .record fields => chars "\x7b " ++ separated (tokensOfFields fields) ++ chars " \x7d"
  | .code source => (read? source).getD []

def tokensOfItems : List Script → List (List Token)
  | [] => []
  | e :: es => tokens e :: tokensOfItems es

def tokensOfFields : List (String × Script) → List (List Token)
  | [] => []
  | (key, e) :: fields => (chars key ++ chars ": " ++ tokens e) :: tokensOfFields fields

end

def Readable (e : Script) : Prop := Reads e.render e.tokens

theorem readable_text (s : String) : (Script.text s).Readable := by
  rw [Readable, render, tokens]
  exact reads_literal s

theorem inert_numeral (d : Double) : Inert (Numeral.text d) :=
  Numeral.forall_text (fun _ => isInert_of_isDigit) (List.all_eq_true.1 (by decide)) d

theorem readable_number (d : Double) : (Script.number d).Readable := by
  rw [Readable, render, tokens]
  exact reads_chars (inert_numeral d)

theorem readable_bool (b : Bool) : (Script.bool b).Readable := by
  rw [Readable, render, tokens]
  cases b <;> exact reads_chars (by decide)

theorem reads_items {items : List Script} (h : ∀ e ∈ items, e.Readable) :
    Reads (", ".intercalate (renderItems items)) (separated (tokensOfItems items)) := by
  refine reads_intercalate ?_
  induction items with
  | nil => exact .nil
  | cons e es ih =>
    rw [List.forall_mem_cons] at h
    exact .cons h.1 (ih h.2)

theorem readable_list {items : List Script} (h : ∀ e ∈ items, e.Readable) :
    (Script.list items).Readable := by
  have opens : Leads "[" [] [']'] (chars "[") := leads_of_run (by decide)
  have closes : Leads "]" [']'] [] (chars "]") := leads_of_run (by decide)
  rw [Readable, render, tokens]
  exact (opens.append ((reads_items h).leads [']'])).append closes

theorem readable_record {fields : List (String × Script)}
    (h : ∀ f ∈ fields, Inert f.1 ∧ f.2.Readable) : (Script.record fields).Readable := by
  have entries : List.Forall₂ Reads (renderFields fields) (tokensOfFields fields) := by
    induction fields with
    | nil => exact .nil
    | cons f fields ih =>
      rw [List.forall_mem_cons] at h
      exact .cons (((reads_chars h.1.1).append (reads_chars (by decide))).append h.1.2) (ih h.2)
  cases fields with
  | nil =>
    rw [Readable, render, tokens]
    exact leads_of_run (by decide)
  | cons f fields =>
    have opens : Leads "\x7b " [] ['}'] (chars "\x7b ") := leads_of_run (by decide)
    have closes : Leads " \x7d" ['}'] [] (chars " \x7d") := leads_of_run (by decide)
    rw [Readable, render, tokens]
    · exact (opens.append ((reads_intercalate entries).leads ['}'])).append closes
    · simp
    · simp

/-- Data: texts, numbers, truth values, and lists and records of them under the given keys. -/
inductive IsData (keys : List String) : Script → Prop
  | text (s : String) : IsData keys (.text s)
  | number (d : Double) : IsData keys (.number d)
  | bool (b : Bool) : IsData keys (.bool b)
  | list {items : List Script} (h : ∀ e ∈ items, IsData keys e) : IsData keys (.list items)
  | record {fields : List (String × Script)} (names : ∀ f ∈ fields, f.1 ∈ keys)
      (h : ∀ f ∈ fields, IsData keys f.2) : IsData keys (.record fields)

theorem IsData.readable {keys : List String} (hk : ∀ key ∈ keys, Inert key) {e : Script}
    (h : IsData keys e) : e.Readable := by
  induction h with
  | text s => exact readable_text s
  | number d => exact readable_number d
  | bool b => exact readable_bool b
  | list _ ih => exact readable_list ih
  | record names _ ih => exact readable_record fun f hf => ⟨hk f.1 (names f hf), ih f hf⟩

def callTokens (callee : String) (args : List Script) : List Token :=
  chars callee ++ chars "(" ++ separated (tokensOfItems args) ++ chars ")"

theorem reads_call {callee : String} (hc : Inert callee) {args : List Script}
    (h : ∀ e ∈ args, e.Readable) : Reads (call callee args) (callTokens callee args) := by
  have opens : Leads "(" [] [')'] (chars "(") := leads_of_run (by decide)
  have closes : Leads ")" [')'] [] (chars ")") := leads_of_run (by decide)
  exact ((Leads.append (reads_chars hc) opens).append ((reads_items h).leads [')'])).append closes

theorem readable_code {source : String} (h : (read? source).isSome = true) :
    (Script.code source).Readable := by
  obtain ⟨ts, hts⟩ := Option.isSome_iff_exists.1 h
  rw [Readable, render, tokens, hts]
  exact reads_of_read? hts

end Script

namespace Action

open Script (callTokens)

def tokens? (bridge : String) : Action → Option (List Token)
  | .none => Option.none
  | .toast message duration =>
    some (callTokens (bridge ++ ".toast") [.text message, .number duration])
  | .pay amount currency description success failure =>
    let request : Script := .record [("amount", .number amount), ("currency", .text currency),
      ("description", .text description)]
    some (callTokens (bridge ++ ".pay") [request] ++
      chars ".then(() => " ++ callTokens (bridge ++ ".toast") [.text success] ++
      chars ", () => " ++ callTokens (bridge ++ ".toast") [.text failure] ++ chars ")")
  | .link url => some (callTokens (bridge ++ ".openLink") [.text url])
  | .navigate pageId => some (callTokens (bridge ++ ".navigateTo") [.text pageId])
  | .share title text url =>
    let request : Script := .record ([("title", .text title), ("text", .text text)] ++
      url.toList.map fun u => ("url", .text u))
    some (callTokens (bridge ++ ".share") [request] ++
      chars ".catch(() => " ++
      callTokens (bridge ++ ".toast") [.text "Sharing is not available"] ++ chars ")")
  | .back => some (callTokens (bridge ++ ".goBack") [])
  | .copy text =>
    some (callTokens (bridge ++ ".copyToClipboard") [.text text] ++
      chars ".then(() => " ++ callTokens (bridge ++ ".toast") [.text "Copied to clipboard"] ++
      chars ")")
  | .push =>
    some (callTokens (bridge ++ ".requestPushPermission") [] ++ chars ".then((result) => " ++
      callTokens (bridge ++ ".toast") [.code "'Notifications: ' + result.status"] ++ chars ")")
  | .user =>
    some (callTokens (bridge ++ ".getUser") [] ++ chars ".then((user) => " ++
      callTokens (bridge ++ ".toast") [.code "'Hello, ' + user.name"] ++ chars ")")

end Action

section Handlers

open Script

theorem reads_then {first between second : String} {ts us vs : List Token}
    (hf : Reads first ts) (hb : Leads between [] [')'] us) (hs : Reads second vs) :
    Reads (first ++ between ++ second ++ ")") (ts ++ us ++ vs ++ chars ")") := by
  have closes : Leads ")" [')'] [] (chars ")") := leads_of_run (by decide)
  exact ((Leads.append hf hb).append (hs.leads [')'])).append closes

variable {bridge : String} (hb : Inert bridge)
include hb

theorem reads_request {function : String} (hf : Inert function) {args : List Script}
    (h : ∀ e ∈ args, e.Readable) :
    Reads (call (bridge ++ function) args) (callTokens (bridge ++ function) args) := by
  refine reads_call ?_ h
  rw [Inert, String.toList_append, List.forall_mem_append]
  exact ⟨hb, hf⟩

theorem reads_handler {action : Action} {code : String} (h : action.handler? bridge = some code) :
    ∃ ts, action.tokens? bridge = some ts ∧ Reads code ts := by
  have one {function : String} (hf : Inert function) {e : Script} (he : e.Readable) :
      Reads (call (bridge ++ function) [e]) (callTokens (bridge ++ function) [e]) :=
    reads_request hb hf (List.forall_mem_singleton.2 he)
  have none {function : String} (hf : Inert function) :
      Reads (call (bridge ++ function) []) (callTokens (bridge ++ function) []) :=
    reads_request hb hf (List.forall_mem_nil _)
  have toast {e : Script} (he : e.Readable) : Reads (call (bridge ++ ".toast") [e])
      (callTokens (bridge ++ ".toast") [e]) := one (by decide) he
  cases action with (rw [Action.handler?] at h; cases h <;> refine ⟨_, rfl, ?_⟩)
  | toast message duration =>
    refine reads_request hb (by decide) ?_
    simpa using ⟨readable_text message, readable_number duration⟩
  | pay amount currency description success failure =>
    have request : (Script.record [("amount", .number amount), ("currency", .text currency),
        ("description", .text description)]).Readable := by
      refine readable_record ?_
      simp only [List.forall_mem_cons]
      exact ⟨⟨by decide, readable_number amount⟩, ⟨by decide, readable_text currency⟩,
        ⟨by decide, readable_text description⟩, List.forall_mem_nil _⟩
    have paid : Leads ".then(() => " [] [')'] (chars ".then(() => ") := leads_of_run (by decide)
    have failed : Leads ", () => " [')'] [')'] (chars ", () => ") := leads_of_run (by decide)
    have closes : Leads ")" [')'] [] (chars ")") := leads_of_run (by decide)
    have first := one (by decide : Inert ".pay") request
    exact ((((Leads.append first paid).append ((toast (readable_text success)).leads [')'])).append
      failed).append ((toast (readable_text failure)).leads [')'])).append closes
  | link url => exact one (by decide) (readable_text url)
  | navigate pageId => exact one (by decide) (readable_text pageId)
  | share title text url =>
    have request : (Script.record
        ([("title", Script.text title), ("text", Script.text text)] ++
          url.toList.map fun u => ("url", Script.text u))).Readable := by
      refine readable_record ?_
      simp only [List.forall_mem_append, List.forall_mem_cons, List.forall_mem_map]
      exact ⟨⟨⟨by decide, readable_text title⟩, ⟨by decide, readable_text text⟩,
        List.forall_mem_nil _⟩, fun u _ => ⟨by decide, readable_text u⟩⟩
    exact reads_then (one (by decide) request) (leads_of_run (by decide)) (toast (readable_text _))
  | back => exact none (by decide)
  | copy text =>
    exact reads_then (one (by decide) (readable_text text)) (leads_of_run (by decide))
      (toast (readable_text _))
  | push =>
    exact reads_then (none (by decide)) (leads_of_run (by decide)) (toast (readable_code (by decide)))
  | user =>
    exact reads_then (none (by decide)) (leads_of_run (by decide)) (toast (readable_code (by decide)))

end Handlers

end MiniApp

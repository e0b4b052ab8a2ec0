import MiniApp.Json.Reader
import MiniApp.Proofs.Json.Fields

set_option autoImplicit false

namespace MiniApp.Json

inductive WellFormed : Json → Prop
  | null : WellFormed .null
  | bool (b : Bool) : WellFormed (.bool b)
  | integer (n : Int) : WellFormed (.integer n)
  | float {d : Double} (finite : d.isFinite = true) : WellFormed (.float d)
  | string (s : String) : WellFormed (.string s)
  | array {items : List Json} (items_wf : ∀ v ∈ items, WellFormed v) : WellFormed (.array items)
  | object {fields : Fields} (keys : Ascending fields) (values : ∀ f ∈ fields, WellFormed f.2) :
      WellFormed (.object fields)

theorem WellFormed.items {items : List Json} (h : (Json.array items).WellFormed) :
    ∀ v ∈ items, v.WellFormed := by
  cases h
  assumption

theorem WellFormed.keys {fields : Fields} (h : (Json.object fields).WellFormed) : Ascending fields := by
  cases h
  assumption

theorem WellFormed.values {fields : Fields} (h : (Json.object fields).WellFormed) :
    ∀ f ∈ fields, f.2.WellFormed := by
  cases h
  assumption

theorem wellFormed_object_nil : (Json.object []).WellFormed :=
  .object List.Pairwise.nil fun _ h => absurd h List.not_mem_nil

section Agreement

theorem itemsAgree_self {items : List Json} (h : ∀ v ∈ items, v.agrees v = true) :
    itemsAgree items items = true := by
  induction items with
  | nil => rfl
  | cons v items ih =>
    rw [List.forall_mem_cons] at h
    rw [itemsAgree, h.1, ih h.2, Bool.and_self]

theorem fieldsAgree_self {fields : Fields} (h : ∀ f ∈ fields, f.2.agrees f.2 = true) :
    fieldsAgree fields fields = true := by
  induction fields with
  | nil => rfl
  | cons f fields ih =>
    rw [List.forall_mem_cons] at h
    rw [fieldsAgree, h.1, ih h.2, beq_self_eq_true, Bool.and_self, Bool.and_self]

theorem WellFormed.agrees_self {v : Json} (h : v.WellFormed) : v.agrees v = true := by
  induction h with
  | null => rfl
  | bool b => exact beq_self_eq_true b
  | integer n => exact beq_self_eq_true n
  | @float d finite =>
    cases d with
    | finite negative units => exact beq_self_eq_true (Double.signed negative units)
    | nan | infinite => cases finite
  | string s => exact beq_self_eq_true s
  | array _ ih => exact itemsAgree_self ih
  | object _ _ ih => exact fieldsAgree_self ih

end Agreement

section Reading

def Frame.WellFormed : Frame → Prop
  | .list items => ∀ v ∈ items, v.WellFormed
  | .fields done _ => (Json.object done).WellFormed

def Expecting.WellFormed : Expecting → Prop
  | .firstKey done | .key done => (Json.object done).WellFormed
  | _ => True

def Progress.WellFormed : Progress → Prop
  | .done v => v.WellFormed
  | .more next opened _ => next.WellFormed ∧ ∀ frame ∈ opened, frame.WellFormed

theorem wellFormed_expecting_value : Expecting.value.WellFormed := trivial

theorem wellFormed_firstItem : Expecting.firstItem.WellFormed := trivial

theorem wellFormed_firstKey : (Expecting.firstKey []).WellFormed := wellFormed_object_nil

theorem WellFormed.put {done : Fields} {v : Json} (h : (Json.object done).WellFormed)
    (hv : v.WellFormed) (key : String) : (Json.object (putField key v done)).WellFormed := by
  refine .object (ascending_putField h.keys key v) fun f hf => ?_
  rcases mem_putField hf with rfl | hf
  · exact hv
  · exact h.values f hf

theorem wellFormed_value {t : NumberText} {rest : List Char} {v : Json}
    (h : t.value rest = .ok v) : v.WellFormed := by
  rw [NumberText.value] at h
  split at h
  · next integer =>
    cases h
    rw [integerValue] at integer
    split at integer <;> split at integer <;> cases integer <;> exact .integer _
  · dsimp only at h
    split at h
    · split at h <;> cases h
      exact .float rfl
    · generalize timesTen _ _ = d at h
      split at h <;> cases h
      exact .float ‹_›

variable {frames : List Frame} {p : Progress} {cs rest : List Char}
  (opened : ∀ frame ∈ frames, frame.WellFormed)
include opened

theorem wellFormed_deliver {v : Json} (hv : v.WellFormed) (h : deliver v frames rest = .ok p) :
    p.WellFormed := by
  unfold deliver at h
  split at h
  · cases h
    rw [List.forall_mem_cons] at opened
    exact ⟨trivial, List.forall_mem_cons.2 ⟨List.forall_mem_cons.2 ⟨hv, opened.1⟩, opened.2⟩⟩
  · next key _ =>
    cases h
    rw [List.forall_mem_cons] at opened
    exact ⟨trivial, List.forall_mem_cons.2 ⟨WellFormed.put opened.1 hv key, opened.2⟩⟩
  · split at h <;> cases h
    exact hv

theorem wellFormed_openContainer {next : Expecting} (hn : next.WellFormed)
    (h : openContainer next frames cs = .ok p) : p.WellFormed := by
  rw [openContainer] at h
  split at h <;> cases h
  exact ⟨hn, opened⟩

theorem wellFormed_startValue {c : Char} (h : startValue frames c cs = .ok p) : p.WellFormed := by
  unfold startValue at h
  split at h
  · split at h
    · cases h
    · exact wellFormed_deliver opened (.string _) h
  split at h
  · exact wellFormed_openContainer opened wellFormed_firstItem h
  split at h
  · exact wellFormed_openContainer opened wellFormed_firstKey h
  split at h
  · split at h
    · cases h
    split at h
    · cases h
    · next hv => exact wellFormed_deliver opened (wellFormed_value hv) h
  split at h
  · split at h
    · cases h
    · exact wellFormed_deliver opened .null h
  split at h
  · split at h
    · cases h
    · exact wellFormed_deliver opened (.bool true) h
  split at h
  · split at h
    · cases h
    · exact wellFormed_deliver opened (.bool false) h
  · cases h

theorem wellFormed_startKey {done : Fields} {c : Char} (hd : (Json.object done).WellFormed)
    (h : startKey done frames c cs = .ok p) : p.WellFormed := by
  unfold startKey at h
  split at h
  · split at h
    · cases h
    · split at h <;> cases h
      exact ⟨trivial, List.forall_mem_cons.2 ⟨hd, opened⟩⟩
  · cases h

theorem wellFormed_stepAt {expecting : Expecting} {c : Char} (he : expecting.WellFormed)
    (h : stepAt expecting frames c cs = .ok p) : p.WellFormed := by
  unfold stepAt at h
  split at h
  · exact wellFormed_startValue opened h
  · split at h
    · exact wellFormed_deliver opened (.array (List.forall_mem_nil _)) h
    · have empty : (Frame.list []).WellFormed := List.forall_mem_nil _
      exact wellFormed_startValue (List.forall_mem_cons.2 ⟨empty, opened⟩) h
  · split at h
    · cases h
    · exact wellFormed_startValue opened h
  · split at h
    · exact wellFormed_deliver opened wellFormed_object_nil h
    · exact wellFormed_startKey opened he h
  · split at h
    · cases h
    · exact wellFormed_startKey opened he h
  · split at h
    · cases h
      exact ⟨trivial, opened⟩
    · rw [List.forall_mem_cons] at opened
      split at h
      · refine wellFormed_deliver opened.2 (.array fun v hv => ?_) h
        exact opened.1 v (List.mem_reverse.1 hv)
      · cases h
  · rw [List.forall_mem_cons] at opened
    split at h
    · cases h
      exact opened
    · split at h
      · exact wellFormed_deliver opened.2 opened.1 h
      · cases h
  · cases h

end Reading

/-- A whole run of the reader yields a well-formed value. -/
theorem wellFormed_run {expecting : Expecting} {frames : List Frame} {cs : List Char} {v : Json}
    (he : expecting.WellFormed) (opened : ∀ frame ∈ frames, frame.WellFormed)
    (h : run expecting frames cs = .ok v) : v.WellFormed := by
  have step_wf {expecting : Expecting} {frames : List Frame} {cs : List Char} {p : Progress}
      (he : expecting.WellFormed) (opened : ∀ frame ∈ frames, frame.WellFormed)
      (h : step expecting frames cs = .ok p) : p.WellFormed := by
    rw [step] at h
    split at h
    · cases h
    · exact wellFormed_stepAt opened he h
  fun_induction run expecting frames cs with
  | case1 => cases h
  | case2 _ _ _ w hs =>
    cases h
    exact step_wf he opened hs
  | case3 _ _ _ next frames' rest hs _ ih =>
    have more := step_wf he opened hs
    exact ih more.1 more.2 h

theorem wellFormed_read {text : String} {v : Json} (h : read text = .ok v) : v.WellFormed := by
  rw [read, readChars] at h
  split at h
  · cases h
  · next hr =>
    cases h
    exact wellFormed_run wellFormed_expecting_value (List.forall_mem_nil _) hr

end MiniApp.Json

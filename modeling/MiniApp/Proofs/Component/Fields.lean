import MiniApp.Component.Model

/-!
Which properties each kind of component reads, and how. A component is made of nothing but these:
properties that agree on them resolve alike, and whatever goes wrong is a value that one of them
refuses, or a property that a button's action lacks.
-/

set_option autoImplicit false

namespace MiniApp

/-- How a property is read. -/
inductive PropShape where
  | text | shownText | number | flag | keyword (words : List String) | color | address | items
deriving DecidableEq

/-- What a value gives a reader, whatever the result is. -/
def Props.Reading.outcome {α : Type} : Props.Reading α → Props.Reading Unit
  | .found _ => .found ()
  | .unusable => .unusable
  | .wrongShape expected => .wrongShape expected

namespace PropShape

open Props

def ofWords {α : Type} (words : List (String × α)) : PropShape := .keyword (words.map Prod.fst)

def judgeText (read : String → Option String) (v : Json) : Reading Unit :=
  if ((stringOf? v).bind read).isSome then .found () else .unusable

def judge : PropShape → Json → Reading Unit
  | .text, v => (readText v).outcome
  | .shownText, v => (readShownText v).outcome
  | .number, v => (readNumber v).outcome
  | .flag, v => (readBool v).outcome
  | .keyword words, v => readKeyword (words.map fun w => (w, ())) v
  | .color, v => judgeText Sanitize.color? v
  | .address, v => judgeText Sanitize.url? v
  | .items, v => (readItems v).outcome

def passes (s : PropShape) (v : Json) : Bool :=
  match s.judge v with
  | .unusable => true
  | _ => false

def refuses (s : PropShape) (v : Json) : Bool :=
  match s.judge v with
  | .wrongShape _ => true
  | _ => false

/-- Whether a text says nothing under a property that is read so. -/
def isUnusable : PropShape → String → Bool
  | .text, _ | .items, _ => false
  | .shownText, s => Text.isBlankText s
  | .number, s => (Numeral.read? s).isNone
  | .flag, s => !(["true", "yes", "1", "false", "no", "0"].contains (keywordOf s))
  | .keyword words, s => !words.contains (keywordOf s)
  | .color, s => (Sanitize.color? s).isNone
  | .address, s => (Sanitize.url? s).isNone

end PropShape

/-- The properties that a kind reads. Every other property is ignored. -/
def Kind.fields : Kind → List (String × PropShape)
  | .container => [("direction", .ofWords Component.Direction.words), ("gap", .number),
      ("padding", .number), ("background", .color),
      ("align", .ofWords Component.Placement.alignWords),
      ("justify", .ofWords Component.Placement.justifyWords), ("radius", .number)]
  | .layout => [("padding", .number), ("gap", .number)]
  | .text => [("text", .text), ("size", .number), ("align", .ofWords Component.TextAlign.words),
      ("weight", .number), ("color", .color)]
  | .heading => [("text", .text), ("level", .number),
      ("align", .ofWords Component.TextAlign.words), ("color", .color)]
  | .button => [("label", .text), ("variant", .ofWords Component.Variant.words),
      ("fullWidth", .flag), ("disabled", .flag), ("action", .ofWords Action.Choice.words),
      ("message", .text), ("duration", .number), ("amount", .number), ("currency", .text),
      ("description", .text), ("successMessage", .text), ("failureMessage", .text),
      ("url", .address), ("pageId", .shownText), ("shareTitle", .text), ("shareText", .text),
      ("copyText", .shownText)]
  | .image => [("src", .address), ("alt", .text), ("height", .number), ("radius", .number),
      ("fit", .ofWords Component.Fit.words)]
  | .card => [("title", .text), ("subtitle", .shownText), ("padding", .number),
      ("radius", .number), ("background", .color)]
  | .carousel => [("images", .items), ("interval", .number), ("autoplay", .flag),
      ("height", .number)]
  | .sheet => [("triggerLabel", .text), ("title", .text), ("closeLabel", .text)]
  | .tabBar => [("tabs", .items), ("active", .number)]
  | .progress => [("value", .number), ("height", .number), ("showLabel", .flag), ("label", .text),
      ("color", .color)]
  | .divider => [("thickness", .number), ("spacing", .number), ("color", .color)]
  | .spacer => [("height", .number)]
  | .input => [("label", .text), ("placeholder", .text),
      ("inputType", .ofWords Component.InputType.words), ("name", .shownText), ("required", .flag)]
  | .list => [("items", .items), ("ordered", .flag)]
  | .avatar => [("name", .text), ("size", .number), ("src", .address)]
  | .badge => [("text", .text), ("tone", .ofWords Component.Tone.words)]
  | .navBar => [("title", .text), ("showBack", .flag)]

/-- The error, if there is one, is allowed. -/
def Except.FailsBy {α : Type} (allowed : PropError → Prop) (result : Except PropError α) : Prop :=
  ∀ error, result = .error error → allowed error

namespace Except.FailsBy

variable {α β : Type} {allowed : PropError → Prop} {x : Except PropError α}

theorem ok (a : α) : FailsBy allowed (.ok a) := by
  intro error h
  cases h

theorem bind {f : α → Except PropError β} (h : FailsBy allowed x)
    (hf : ∀ a, FailsBy allowed (f a)) : FailsBy allowed (x >>= f) := by
  cases x with
  | ok a => exact hf a
  | error e =>
    intro error failed
    cases failed
    exact h e rfl

theorem imp {allowed' : PropError → Prop} (h : FailsBy allowed x)
    (weaker : ∀ error, allowed error → allowed' error) : FailsBy allowed' x :=
  fun error failed => weaker error (h error failed)

end Except.FailsBy

open MiniApp.Except (FailsBy)

namespace Props

variable {fields : List (String × PropShape)} {lacks : PropError → Prop} {α β : Type}

/-- The same values of the fields, but for those that their readers pass over. -/
def AgreeOn (fields : List (String × PropShape)) (p q : Props) : Prop :=
  ∀ key shape, fields.lookup key = some shape →
    (p.values key).filter (!shape.passes ·) = (q.values key).filter (!shape.passes ·)

/-- The error says that a field has a value which its reader refuses. -/
inductive Refuses (fields : List (String × PropShape)) (p : Props) : PropError → Prop
  | value {key : String} {shape : PropShape} {v : Json} {expected : String}
      (field : fields.lookup key = some shape) (value : v ∈ p.values key)
      (refused : shape.judge v = .wrongShape expected) :
      Refuses fields p (.invalid key expected v.kind)

/-- What is made of the properties is made of the fields, or fails by one of them. -/
structure Reads (fields : List (String × PropShape)) (lacks : PropError → Prop)
    (x : Props → Except PropError α) : Prop where
  same : ∀ p q, AgreeOn fields p q → x p = x q
  errors : ∀ p, FailsBy (fun error => Refuses fields p error ∨ lacks error) (x p)

namespace Reads

theorem pure (a : α) : Reads fields lacks fun _ => Pure.pure a where
  same _ _ _ := rfl
  errors _ := .ok a

theorem bind {x : Props → Except PropError α} {f : α → Props → Except PropError β}
    (hx : Reads fields lacks x) (hf : ∀ a, Reads fields lacks (f a)) :
    Reads fields lacks fun p => x p >>= fun a => f a p where
  same p q agree := by
    rw [hx.same p q agree]
    exact bind_congr fun a => (hf a).same p q agree
  errors p := (hx.errors p).bind fun a => (hf a).errors p

theorem map {x : Props → Except PropError α} (hx : Reads fields lacks x) (f : α → β) :
    Reads fields lacks fun p => (x p).map f :=
  hx.bind fun a => .pure (f a)

end Reads

variable {key : String} {shape : PropShape}

section Readers

variable {reader : Json → Reading α} (judged : ∀ v, (reader v).outcome = shape.judge v)
include judged

/-- A reader gets the same from the values that it does not pass over. -/
theorem firstUsable_filter (key : String) (vs : List Json) :
    firstUsable key reader (vs.filter (!shape.passes ·)) = firstUsable key reader vs := by
  induction vs with
  | nil => rfl
  | cons v vs ih =>
    have outcome := judged v
    rw [List.filter_cons, PropShape.passes, ← outcome]
    cases reading : reader v with
    | found a =>
      simp only [Reading.outcome, Bool.not_false, if_true, firstUsable, reading]
    | unusable =>
      simp only [Reading.outcome, Bool.not_true, Bool.false_eq_true, if_false, firstUsable,
        reading, ih]
    | wrongShape expected =>
      simp only [Reading.outcome, Bool.not_false, if_true, firstUsable, reading]

theorem exists_of_firstUsable_error {vs : List Json} {error : PropError}
    (failed : firstUsable key reader vs = .error error) :
    ∃ v ∈ vs, ∃ expected, shape.judge v = .wrongShape expected ∧
      error = .invalid key expected v.kind := by
  induction vs with
  | nil => cases failed
  | cons v vs ih =>
    have outcome := judged v
    rw [firstUsable] at failed
    cases reading : reader v with
    | found a =>
      rw [reading] at failed
      cases failed
    | unusable =>
      rw [reading] at failed
      obtain ⟨w, member, refused⟩ := ih failed
      exact ⟨w, List.mem_cons_of_mem v member, refused⟩
    | wrongShape expected =>
      rw [reading] at failed outcome
      cases failed
      exact ⟨v, List.mem_cons_self, expected, outcome.symm, rfl⟩

theorem reads_read (field : fields.lookup key = some shape) (fallback : α) :
    Reads fields lacks fun p => p.read key reader fallback where
  same p q agree := by
    rw [read, read, ← firstUsable_filter judged key (p.values key), agree key shape field,
      firstUsable_filter judged key (q.values key)]
  errors p := by
    intro error failed
    rw [read] at failed
    cases first : firstUsable key reader (p.values key) with
    | ok found =>
      rw [first] at failed
      cases failed
    | error e =>
      rw [first] at failed
      cases failed
      obtain ⟨v, member, expected, refused, rfl⟩ := exists_of_firstUsable_error judged first
      exact .inl (.value field member refused)

end Readers

theorem outcome_readKeyword {α : Type} (words : List (String × α)) (v : Json) :
    (readKeyword words v).outcome = (PropShape.ofWords words).judge v := by
  have found (word : String) : ((words.map Prod.fst).map fun w => (w, ())).lookup word =
      (words.lookup word).map fun _ => () := by
    induction words with
    | nil => rfl
    | cons w words ih =>
      rw [List.map_cons, List.map_cons, List.lookup_cons, List.lookup_cons, ih]
      cases word == w.1 <;> rfl
  rw [PropShape.ofWords, PropShape.judge, readKeyword, readKeyword]
  cases v.scalarText? with
  | none => rfl
  | some s =>
    dsimp only
    rw [found]
    cases words.lookup (keywordOf s) <;> rfl

theorem findSome?_filter {read : String → Option String}
    (judged : ∀ v, shape.judge v = PropShape.judgeText read v) (vs : List Json) :
    ((vs.filter (!shape.passes ·)).findSome? fun v => (stringOf? v).bind read) =
      vs.findSome? fun v => (stringOf? v).bind read := by
  induction vs with
  | nil => rfl
  | cons v vs ih =>
    rw [List.filter_cons, PropShape.passes, judged, PropShape.judgeText, List.findSome?_cons]
    cases found : (stringOf? v).bind read with
    | none => exact ih
    | some s =>
      simp only [Option.isSome_some, if_true, Bool.not_false, List.findSome?_cons, found]

theorem reads_findSome? {read : String → Option String}
    (judged : ∀ v, shape.judge v = PropShape.judgeText read v)
    (field : fields.lookup key = some shape) :
    Reads fields lacks fun p =>
      Pure.pure ((p.values key).findSome? fun v => (stringOf? v).bind read) where
  same p q agree := by
    rw [← findSome?_filter judged (p.values key), agree key shape field,
      findSome?_filter judged (q.values key)]
  errors _ := .ok _

section Accessors

theorem reads_text (field : fields.lookup key = some .text) (fallback : String) :
    Reads fields lacks fun p => p.text key fallback :=
  reads_read (fun _ => rfl) field fallback

theorem reads_shownText (field : fields.lookup key = some .shownText) :
    Reads fields lacks fun p => p.shownText key :=
  reads_read (fun _ => rfl) field none

theorem reads_number (field : fields.lookup key = some .number) (fallback : Double) :
    Reads fields lacks fun p => p.number key fallback :=
  reads_read (fun _ => rfl) field fallback

theorem reads_ranged (field : fields.lookup key = some .number) (fallback lo hi : Nat) :
    Reads fields lacks fun p => p.ranged key fallback lo hi :=
  (reads_number field _).map _

theorem reads_bool (field : fields.lookup key = some .flag) (fallback : Bool) :
    Reads fields lacks fun p => p.bool key fallback :=
  reads_read (fun _ => rfl) field fallback

theorem reads_keyword {words : List (String × α)}
    (field : fields.lookup key = some (.ofWords words)) (fallback : α) :
    Reads fields lacks fun p => p.keyword key words fallback :=
  reads_read (outcome_readKeyword words) field fallback

theorem reads_items (field : fields.lookup key = some .items) :
    Reads fields lacks fun p => p.items key :=
  reads_read (fun _ => rfl) field []

theorem reads_textList (field : fields.lookup key = some .items) :
    Reads fields lacks fun p => p.textList key :=
  (reads_items field).map _

theorem reads_color? (field : fields.lookup key = some .color) :
    Reads fields lacks fun p => Pure.pure (p.color? key) :=
  reads_findSome? (fun _ => rfl) field

theorem reads_url? (field : fields.lookup key = some .address) :
    Reads fields lacks fun p => Pure.pure (p.url? key) :=
  reads_findSome? (fun _ => rfl) field

end Accessors

end Props

open Props

def Action.Lacks (error : PropError) : Prop := ∃ property, error = .missing "Button" property

theorem Action.reads_required {fields : List (String × PropShape)} {α : Type} (property : String)
    (found : Option α) : Reads fields Lacks fun _ => required property found where
  same _ _ _ := rfl
  errors _ := by
    cases found with
    | some a => exact .ok a
    | none =>
      intro error failed
      cases failed
      exact .inr ⟨property, rfl⟩

theorem Action.reads_resolve : Reads Kind.button.fields Lacks resolve := by
  refine (reads_keyword rfl Choice.none).bind fun choice => ?_
  cases choice with
  | none | back | push | user => exact .pure _
  | toast =>
    exact (reads_text rfl _).bind fun _ => ((reads_number rfl _).map _).bind fun _ => .pure _
  | pay =>
    exact (reads_number rfl _).bind fun _ => (reads_text rfl _).bind fun _ =>
      (reads_text rfl _).bind fun _ => (reads_text rfl _).bind fun _ =>
      (reads_text rfl _).bind fun _ => .pure _
  | link =>
    exact ((reads_url? rfl).bind fun url => reads_required "url" url).bind fun _ => .pure _
  | navigate =>
    exact (reads_shownText rfl).bind fun _ => (reads_required _ _).bind fun _ => .pure _
  | share =>
    exact (reads_text rfl _).bind fun title => (reads_text rfl _).bind fun _ =>
      (reads_text rfl _).bind fun text => (reads_url? rfl).map (Action.share title text)
  | copy =>
    refine (reads_shownText rfl).bind fun copied => ?_
    cases copied with
    | some text => exact .pure _
    | none => exact (reads_text rfl _).bind fun _ => .pure _

namespace Component

theorem reads_actionOf {lacks : PropError → Prop} :
    Reads Kind.button.fields lacks actionOf where
  same p q agree := by rw [actionOf, actionOf, Action.reads_resolve.same p q agree]
  errors p := by
    intro error failed
    rw [actionOf] at failed
    split at failed
    · cases failed
    · next other =>
      rcases Action.reads_resolve.errors p error failed with refused | ⟨property, rfl⟩
      · exact .inl refused
      · exact absurd failed (other "Button" property)

/-- A component is made of the fields of its kind, and fails by one of them only. -/
theorem reads_resolve (kind : Kind) : Reads kind.fields (fun _ => False) (resolve kind) := by
  -- Each kind reads its properties in order, and a button's action has its own lemma.
  cases kind <;> refine Reads.map ?_ _
  case container =>
    exact (reads_keyword rfl _).bind fun direction => (reads_ranged rfl _ _ _).bind fun gap =>
      (reads_ranged rfl _ _ _).bind fun padding => (reads_keyword rfl _).bind fun align =>
      (reads_keyword rfl _).bind fun justify => (reads_ranged rfl _ _ _).bind fun radius =>
      (reads_color? rfl).map fun color =>
        Container.mk direction gap padding (color.getD "transparent") align justify radius
  case layout =>
    exact (reads_ranged rfl _ _ _).bind fun _ => (reads_ranged rfl _ _ _).bind fun _ => .pure _
  case text =>
    exact (reads_text rfl _).bind fun text => (reads_ranged rfl _ _ _).bind fun size =>
      (reads_keyword rfl _).bind fun align => (reads_ranged rfl _ _ _).bind fun weight =>
      (reads_color? rfl).map (Paragraph.mk text size align (roundToHundreds weight))
  case heading =>
    exact (reads_text rfl _).bind fun text => (reads_ranged rfl _ _ _).bind fun level =>
      (reads_keyword rfl _).bind fun align =>
      (reads_color? rfl).map (Heading.mk text level.round.toNat align)
  case button =>
    exact reads_actionOf.bind fun _ => (reads_text rfl _).bind fun _ =>
      (reads_keyword rfl _).bind fun _ => (reads_bool rfl _).bind fun _ =>
      (reads_bool rfl _).bind fun _ => .pure _
  case image =>
    exact (reads_text rfl _).bind fun alt => (reads_ranged rfl _ _ _).bind fun height =>
      (reads_ranged rfl _ _ _).bind fun radius => (reads_keyword rfl _).bind fun fit =>
      (reads_url? rfl).map fun src => Image.mk src alt height radius fit
  case card =>
    exact (reads_text rfl _).bind fun title => (reads_shownText rfl).bind fun subtitle =>
      (reads_ranged rfl _ _ _).bind fun padding => (reads_ranged rfl _ _ _).bind fun radius =>
      (reads_color? rfl).map (Card.mk title subtitle padding radius)
  case carousel =>
    exact (reads_items rfl).bind fun _ => (reads_ranged rfl _ _ _).bind fun _ =>
      (reads_bool rfl _).bind fun _ => (reads_ranged rfl _ _ _).bind fun _ => .pure _
  case sheet =>
    exact (reads_text rfl _).bind fun _ => (reads_text rfl _).bind fun _ =>
      (reads_text rfl _).bind fun _ => .pure _
  case tabBar =>
    exact (reads_items rfl).bind fun _ => (reads_ranged rfl _ _ _).bind fun _ => .pure _
  case progress =>
    exact (reads_ranged rfl _ _ _).bind fun value => (reads_ranged rfl _ _ _).bind fun height =>
      (reads_bool rfl _).bind fun showLabel => (reads_text rfl _).bind fun label =>
      (reads_color? rfl).map fun color =>
        Progress.mk value height showLabel label (color.getD "var(--mf-primary)")
  case divider =>
    exact (reads_ranged rfl _ _ _).bind fun thickness =>
      (reads_ranged rfl _ _ _).bind fun spacing => (reads_color? rfl).map fun color =>
        Divider.mk thickness spacing (color.getD "var(--mf-border)")
  case spacer => exact (reads_ranged rfl _ _ _).bind fun _ => .pure _
  case input =>
    exact (reads_text rfl _).bind fun _ => (reads_text rfl _).bind fun _ =>
      (reads_keyword rfl _).bind fun _ => (reads_shownText rfl).bind fun _ =>
      (reads_bool rfl _).bind fun _ => .pure _
  case list =>
    exact (reads_textList rfl).bind fun _ => (reads_bool rfl _).bind fun _ => .pure _
  case avatar =>
    exact (reads_text rfl _).bind fun name => (reads_ranged rfl _ _ _).bind fun size =>
      (reads_url? rfl).map (Avatar.mk name size)
  case badge => exact (reads_text rfl _).bind fun _ => (reads_keyword rfl _).bind fun _ => .pure _
  case navBar => exact (reads_text rfl _).bind fun _ => (reads_bool rfl _).bind fun _ => .pure _

end Component

end MiniApp

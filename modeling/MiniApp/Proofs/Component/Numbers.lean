import MiniApp.Proofs.Component.Collect
import MiniApp.Proofs.Component.Ranges

set_option autoImplicit false

namespace MiniApp

open Double

theorem Decimal.isRepresentable_toDouble {d : Decimal} (h : d.toDouble.isFinite = true) :
    d.toDouble.IsRepresentable := by
  rw [toDouble] at h ⊢
  by_cases nothing : d.coefficient = 0 ∨ (Nat.toDigits 10 d.coefficient).length + d.exponent < -330
  · rw [if_pos nothing]
    exact isRepresentable_zero d.negative
  · rw [if_neg nothing] at h ⊢
    by_cases large : 310 < (Nat.toDigits 10 d.coefficient).length + d.exponent
    · rw [if_pos large] at h
      cases h
    · rw [if_neg large] at h ⊢
      cases exponent : d.exponent with
      | ofNat e =>
        rw [exponent] at h
        exact isRepresentable_ofRatio _ Nat.one_pos h
      | negSucc e =>
        rw [exponent] at h
        exact isRepresentable_ofRatio _ (Nat.pow_pos (by decide)) h

theorem Numeral.isRepresentable_of_read? {s : String} {d : Double} (h : read? s = some d) :
    d.IsRepresentable := by
  rw [read?, Option.filter_eq_some_iff] at h
  obtain ⟨decimal, -, same⟩ := Option.map_eq_some_iff.1 h.1
  rw [← same]
  exact decimal.isRepresentable_toDouble (same ▸ h.2)

def Json.number? : Json → Option Double
  | .integer n => some (.ofInt n)
  | .float d => some d
  | _ => none

namespace Props

theorem isRepresentable_readNumber {v : Json} (h : ∀ d, v.number? = some d → d.IsRepresentable)
    {d : Double} (read : readNumber v = .found d) : d.IsRepresentable := by
  unfold readNumber at read
  split at read
  · rw [← Reading.found.inj read]
    exact h _ rfl
  · split at read
    · rw [← Reading.found.inj read]
      exact h _ rfl
    · cases read
  · split at read
    · next found =>
      rw [← Reading.found.inj read]
      exact Numeral.isRepresentable_of_read? found
    · cases read
  · cases read

end Props

/-- In the widest of the ranges that properties have. -/
def Double.IsSmall (d : Double) : Prop := d.IsAtMost (60000 * scale)

theorem Double.IsAtMost.isSmall {d : Double} {n : Nat} (h : d.IsAtMost (n * scale))
    (few : n ≤ 60000) : d.IsSmall := h.mono (Nat.mul_le_mul_right scale few)

theorem Double.IsWithin.isSmall {lo hi : Nat} {d : Double} (h : d.IsWithin lo hi)
    (few : hi ≤ 60000) : d.IsSmall := h.isAtMost.isSmall few

namespace Action

def numbers : Action → List Double
  | .toast _ duration => [duration]
  | _ => []

theorem InRange.isSmall {action : Action} (h : action.InRange) : ∀ d ∈ action.numbers, d.IsSmall := by
  cases action with
  | toast message duration => exact List.forall_mem_singleton.2 (h.2.isSmall (by decide))
  | _ => exact List.forall_mem_nil _

def amount? : Action → Option Double
  | .pay amount .. => some amount
  | _ => Option.none

theorem isRepresentable_amount {p : Props}
    (h : ∀ v ∈ p.values "amount", ∀ d, v.number? = some d → d.IsRepresentable) :
    Except.Gives (fun action => ∀ d ∈ action.amount?, d.IsRepresentable) (resolve p) := by
  have none {action : Action} (h : action.amount? = Option.none) :
      ∀ d ∈ action.amount?, d.IsRepresentable := h ▸ nofun
  have zero := isRepresentable_zero false
  rw [resolve]
  refine .bind fun choice => ?_
  cases choice with
  | pay =>
    have number := p.gives_read "amount"
      (fun v hv _ => Props.isRepresentable_readNumber (h v hv)) zero
    refine .bind_of number fun amount good => ?_
    refine .bind fun _ => .bind fun _ => .bind fun _ => .bind fun _ => .ok fun d same => ?_
    rw [← Option.some.inj same]
    split
    · exact zero
    · exact good
  | toast => exact .bind fun _ => .bind fun _ => .ok (none rfl)
  | link => exact .bind fun _ => .ok (none rfl)
  | navigate => exact .bind fun _ => .bind fun _ => .ok (none rfl)
  | share => exact .bind fun _ => .bind fun _ => .bind fun _ => .ok (none rfl)
  | copy =>
    refine .bind fun text => ?_
    cases text with
    | some => exact .ok (none rfl)
    | none => exact .bind fun _ => .ok (none rfl)
  | none | back | push | user => exact .ok (none rfl)

end Action

namespace Component

def numbers : Component → List Double
  | container m => [m.gap, m.padding, m.radius]
  | layout m => [m.padding, m.gap]
  | text m => [m.size, m.weight]
  | button m => m.action.numbers
  | image m => [m.height, m.radius]
  | card m => [m.padding, m.radius]
  | carousel m => [m.interval, m.height]
  | progress m => [m.value, m.height]
  | divider m => [m.thickness, m.spacing]
  | spacer m => [m.height]
  | avatar m => [m.size, m.fontSize]
  | _ => []

theorem scale_le_square : scale ≤ scale * scale := Nat.le_mul_of_pos_left scale scale_pos

theorem isSmall_fontSize {m : Avatar} (h : m.size.IsAtMost (256 * scale)) : m.fontSize.IsSmall := by
  have fraction : twoFifths.IsAtMost (1 * scale) := by
    have large := pow_le_scale
    exact isAtMost_ofRatio (mul_scale_lt_limit (by decide)) false (by decide) (by omega)
  have multiplied : (m.size.mul twoFifths).IsAtMost (513 * scale) := by
    have square := scale_le_square
    have left : 256 * scale * (1 * scale) = 256 * (scale * scale) := by ring
    have right : scale * (513 * scale) = 513 * (scale * scale) := by ring
    exact isAtMost_mul (mul_scale_lt_limit (by decide)) h fraction (by omega)
  have rounded : m.fontSize.IsAtMost (514 * scale) :=
    (isAtMost_round multiplied).mono (by omega)
  exact rounded.isSmall (by decide)

def amount? : Component → Option Double
  | button m => m.action.amount?
  | _ => none

theorem InRange.isSmall {component : Component} (h : component.InRange) :
    ∀ d ∈ component.numbers, d.IsSmall := by
  have one {d : Double} (h : d.IsSmall) : ∀ a ∈ [d], a.IsSmall := List.forall_mem_singleton.2 h
  have two {d e : Double} (hd : d.IsSmall) (he : e.IsSmall) : ∀ a ∈ [d, e], a.IsSmall :=
    List.forall_mem_cons.2 ⟨hd, one he⟩
  cases component with
  | container m =>
    obtain ⟨-, -, -, gap, padding, radius⟩ := h
    exact List.forall_mem_cons.2
      ⟨gap.isSmall (by decide), two (padding.isSmall (by decide)) (radius.isSmall (by decide))⟩
  | layout m => exact two (h.1.isSmall (by decide)) (h.2.isSmall (by decide))
  | text m =>
    obtain ⟨-, size, n, -, most, weight⟩ := h
    have few : 100 * n ≤ 60000 := by omega
    refine two (size.isSmall (by decide)) ?_
    rw [weight, ofNat_eq (by omega)]
    exact .finite false (Nat.mul_le_mul_right scale few)
  | button m => exact h.2.isSmall
  | image m => exact two (h.2.1.isSmall (by decide)) (h.2.2.isSmall (by decide))
  | card m => exact two (h.1.isSmall (by decide)) (h.2.isSmall (by decide))
  | carousel m => exact two (h.1.isSmall (by decide)) (h.2.isSmall (by decide))
  | progress m => exact two (h.1.isSmall (by decide)) (h.2.isSmall (by decide))
  | divider m => exact two (h.1.isSmall (by decide)) (h.2.isSmall (by decide))
  | spacer m =>
    have height : m.height.IsWithin 0 400 := h
    exact one (height.isSmall (by decide))
  | avatar m =>
    have size : m.size.IsWithin 16 256 := h
    exact two (size.isSmall (by decide)) (isSmall_fontSize size.isAtMost)
  | _ => exact List.forall_mem_nil _

theorem isSmall_resolve (kind : Kind) (p : Props) :
    Except.Gives (fun component => ∀ d ∈ component.numbers, d.IsSmall) (resolve kind p) :=
  fun component resolved => (inRange_resolve kind p component resolved).isSmall

theorem isRepresentable_amount (kind : Kind) {p : Props}
    (h : ∀ v ∈ p.values "amount", ∀ d, v.number? = some d → d.IsRepresentable) :
    Except.Gives (fun component => ∀ d ∈ component.amount?, d.IsRepresentable)
      (resolve kind p) := by
  cases kind with
  | button =>
    have known : Except.Gives (fun action => ∀ d ∈ action.amount?, d.IsRepresentable)
        (actionOf p) := by
      unfold actionOf
      split
      · exact .ok nofun
      · exact Action.isRepresentable_amount h
    refine .map (.bind_of known fun _ known => ?_)
    exact .bind fun _ => .bind fun _ => .bind fun _ => .bind fun _ => .ok known
  | _ => exact .map fun _ _ => nofun

end Component

namespace Jsx

def Head.numbers (h : Head) : List Double :=
  h.styles.filterMap fun s =>
    match s.2 with
    | .number d => some d
    | .text _ => none

def numbersOf (t : Jsx.Tree) : List Double := t.collect Head.numbers fun _ => []

end Jsx

namespace ProjectRule

open Component Jsx

theorem numbersOf_jsx (component : Component) (c : Children) (handle : String) :
    ∀ d ∈ numbersOf (component.jsx c handle), d ∈ component.numbers := by
  rw [numbersOf]
  cases component with
  | container => simp [Component.jsx, container, Head.numbers, numbers]
  | layout => simp [Component.jsx, layout, slotElement, Head.numbers, numbers]
  | text => simp [Component.jsx, paragraph, colorStyle, Head.numbers, numbers]
  | heading => simp [Component.jsx, heading, colorStyle, Head.numbers, numbers]
  | button => simp [Component.jsx, button, Head.numbers]
  | image => simp [Component.jsx, image, Head.numbers, numbers]
  | card => simp [Component.jsx, card, colorStyle, groupElement, slotElement, Head.numbers, numbers]
  | carousel => simp [Component.jsx, carousel, Head.numbers]
  | sheet => simp [Component.jsx, sheet, Head.numbers]
  | tabBar => simp [Component.jsx, tabBar, Head.numbers]
  | progress => simp [Component.jsx, progress, Head.numbers, numbers]
  | divider => simp [Component.jsx, divider, Head.numbers, numbers]
  | spacer => simp [Component.jsx, spacer, Head.numbers, numbers]
  | input => simp [Component.jsx, input, Head.numbers]
  | list => simp [Component.jsx, list, Head.numbers]
  | avatar m => cases src : m.src <;> simp [Component.jsx, avatar, src, Head.numbers, numbers]
  | badge => simp [Component.jsx, badge, Head.numbers]
  | navBar => simp [Component.jsx, navBar, groupElement, Head.numbers]

end ProjectRule

open Numeral in
/-- The numeral of a double tells its hundredths, but for what the product by a hundred and the
quotient lose; that of a whole number below 2^53 is its digits just when the quotient gives the
number back. This is how a number reads as text, and how components write theirs: only an amount of
money can be so large that the product is infinite. -/
theorem numerals_written (d : Double) :
    (d.IsRepresentable → Tells d (text d)) ∧
    (∀ i : Int, d = .ofInt i → i.natAbs < 2 ^ 53 →
      (text d = toString i ↔ (d.mul hundred).div hundred = d) ∧
      (25 * i.natAbs ≤ 2 ^ 53 → text d = toString i)) ∧
    (∀ v : Json, v.number? = some d → v.scalarText? = some (text d)) ∧
    ∀ (kind : Kind) (p : Props) (component : Component), Component.resolve kind p = .ok component →
      (d ∈ component.numbers →
        Writes (hundredths d) (text d) ∧ (IsAccurate d ↔ ¬ IsRoundedOutward d)) ∧
      (∀ (c : Children) (handle : String),
        d ∈ Jsx.numbersOf (component.jsx c handle) → d ∈ component.numbers) ∧
      ((∀ v ∈ p.values "amount", ∀ e, v.number? = some e → e.IsRepresentable) →
        component.amount? = some d → d.IsRepresentable) := by
  refine ⟨tells_text, fun i same small => ?_, fun v number => ?_, ?_⟩
  · rw [same]
    exact ⟨text_ofInt_iff small, text_ofInt small⟩
  · unfold Json.number? at number
    split at number
    · rw [← Option.some.inj number, Json.scalarText?]
    · rw [← Option.some.inj number, Json.scalarText?]
    · cases number
  · intro kind p component resolved
    refine ⟨fun hd => ?_, fun c handle => ProjectRule.numbersOf_jsx component c handle d,
      fun exact asked => ?_⟩
    · exact writes_of_isAtMost (Component.isSmall_resolve kind p component resolved d hd)
    · exact Component.isRepresentable_amount kind exact component resolved d asked

open Numeral in
/-- An amount of money, and a height with a unit. -/
theorem numerals_written_payment :
    let p : Props := ⟨[("action", .string "pay"), ("amount", .integer 12)], []⟩
    let q : Props := ⟨[("height", .string "16.5px")], []⟩
    Tells (.ofInt 12) (text (.ofInt 12)) ∧ text (.ofInt 12) = toString (12 : Int) ∧
      (Json.integer 12).scalarText? = some (text (.ofInt 12)) ∧
      (∃ button, Component.resolve .button p = .ok button ∧
        ∃ d, button.amount? = some d ∧ d.IsRepresentable ∧ text d = "12") ∧
      ∃ spacer, Component.resolve .spacer q = .ok spacer ∧
        ∃ d ∈ spacer.numbers, Writes (hundredths d) (text d) ∧ text d = "16.5" := by
  intro p q
  obtain ⟨double, whole, value, -⟩ := numerals_written (.ofInt 12)
  have few : (12 : Int).natAbs < 2 ^ 53 := by decide
  have twelve : (ofInt 12).IsRepresentable := by
    rw [ofInt_eq few]
    exact .finite _ (isMagnitude_mul_scale few) (mul_scale_lt_limit (by decide))
  have succeeds {x : Except PropError Component} {component : Component}
      (h : x.toOption = some component) : x = .ok component := by
    cases x with
    | error => cases h
    | ok a => exact congrArg Except.ok (Option.some.inj h)
  have paid : ((Component.resolve .button p).toOption.bind Component.amount?).map text =
      some "12" := by decide +kernel
  have high : (Component.resolve .spacer q).toOption.map (fun c => c.numbers.map text) =
      some ["16.5"] := by decide +kernel
  obtain ⟨d, asked, shown⟩ := Option.map_eq_some_iff.1 paid
  obtain ⟨button, resolved, amount⟩ := Option.bind_eq_some_iff.1 asked
  obtain ⟨spacer, resolved', numbers⟩ := Option.map_eq_some_iff.1 high
  obtain ⟨height, isHeight, read⟩ : ∃ d ∈ spacer.numbers, text d = "16.5" :=
    List.mem_map.1 (numbers ▸ List.mem_cons_self)
  obtain ⟨-, -, -, amounts⟩ := numerals_written d
  obtain ⟨-, -, -, heights⟩ := numerals_written height
  refine ⟨double twelve, (whole 12 rfl few).2 (by decide), value _ rfl,
    ⟨button, succeeds resolved, d, amount, ?_, shown⟩,
    spacer, succeeds resolved', height, isHeight,
    ((heights .spacer q spacer (succeeds resolved')).1 isHeight).1, read⟩
  refine (amounts .button p button (succeeds resolved)).2.2 ?_ amount
  intro v hv e number
  have values : p.values "amount" = [.integer 12] := rfl
  rw [values, List.mem_singleton] at hv
  rw [hv] at number
  rwa [← Option.some.inj number]

open Numeral in
/-- A whole number below 2^53 that is not written in its digits, and one that is not written in any. -/
theorem numerals_inexact :
    (400000000000001 : Int).natAbs < 2 ^ 53 ∧
      text (.ofInt 400000000000001) = "400000000000000.94" ∧
      (ofInt (10 ^ 307)).isFinite = true ∧ text (.ofInt (10 ^ 307)) = "inf" := by
  decide +kernel

end MiniApp

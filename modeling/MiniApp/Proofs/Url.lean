import MiniApp.Proofs.Text.Runs
import MiniApp.Sanitize

set_option autoImplicit false

namespace MiniApp

namespace Sanitize

/-- An allowed scheme in any case with more behind it, a text without a colon, or one with a path, a
query or a fragment before its first colon. -/
inductive IsAddress : List Char → Prop
  | schemed {scheme : String} {opening : List Char} (allowed : scheme ∈ allowedSchemes)
      (spelled : Text.lowerAscii opening = scheme.toList) (rest : List Char) :
      IsAddress (opening ++ rest)
  | plain {cs : List Char} (h : ':' ∉ cs) : IsAddress cs
  | path {front : List Char} {mark : Char} (h : ':' ∉ front) (starts : mark ∈ ['/', '?', '#'])
      (rest : List Char) : IsAddress (front ++ mark :: rest)

/-- An address without blanks around it and without control characters in it. -/
structure IsUrl (s : String) : Prop where
  trimmed : Text.trim s = s
  shows : s ≠ ""
  printable : ∀ c ∈ s.toList, Text.isControl c = false
  form : IsAddress s.toList

section Forms

theorem hasAllowedScheme_iff (cs : List Char) : hasAllowedScheme cs = true ↔
    ∃ scheme ∈ allowedSchemes, ∃ opening rest, cs = opening ++ rest ∧
      Text.lowerAscii opening = scheme.toList := by
  simp only [hasAllowedScheme, List.any_eq_true, List.isPrefixOf_iff_prefix]
  refine exists_congr fun scheme => and_congr_right fun _ => ⟨?_, ?_⟩
  · rintro ⟨behind, parts⟩
    obtain ⟨opening, rest, rfl, spelled, -⟩ := List.map_eq_append_iff.1 parts.symm
    exact ⟨opening, rest, rfl, spelled⟩
  · rintro ⟨opening, rest, rfl, spelled⟩
    exact ⟨Text.lowerAscii rest, by rw [← spelled]; exact List.map_append.symm⟩

theorem startsPath_iff (c : Char) : startsPath c = true ↔ c ∈ ['/', '?', '#'] := by
  simp [startsPath, or_assoc]

theorem takeWhile_colon_append {front : List Char} (h : ':' ∉ front) (rest : List Char) :
    (front ++ rest).takeWhile (· ≠ ':') = front ++ rest.takeWhile (· ≠ ':') :=
  List.takeWhile_append_of_pos fun c hc => by simpa using ne_of_mem_of_not_mem hc h

theorem isRelative_iff (cs : List Char) : isRelative cs = true ↔
    ':' ∉ cs ∨ ∃ front mark rest, cs = front ++ mark :: rest ∧ ':' ∉ front ∧
      mark ∈ ['/', '?', '#'] := by
  simp only [isRelative, Bool.or_eq_true, Bool.not_eq_true', List.any_eq_true, startsPath_iff]
  refine or_congr (by simp) ⟨?_, ?_⟩
  · rintro ⟨mark, before, starts⟩
    obtain ⟨front, behind, parts⟩ := List.append_of_mem before
    refine ⟨front, mark, behind ++ cs.dropWhile (· ≠ ':'), ?_, fun colon => ?_, starts⟩
    · conv_lhs => rw [← List.takeWhile_append_dropWhile (p := (· ≠ ':')) (l := cs), parts]
      simp
    · have first := List.mem_takeWhile_imp (parts ▸ List.mem_append_left _ colon)
      simp at first
  · rintro ⟨front, mark, rest, rfl, colon, starts⟩
    have other : mark ≠ ':' := by
      rintro rfl
      exact absurd starts (by decide)
    refine ⟨mark, ?_, starts⟩
    rw [takeWhile_colon_append colon, List.takeWhile_cons_of_pos (by simpa using other)]
    exact List.mem_append_right _ List.mem_cons_self

theorem isAddress_iff (cs : List Char) :
    (hasAllowedScheme cs || isRelative cs) = true ↔ IsAddress cs := by
  rw [Bool.or_eq_true, hasAllowedScheme_iff, isRelative_iff]
  constructor
  · rintro (⟨scheme, allowed, opening, rest, rfl, spelled⟩ | plain | path)
    · exact .schemed allowed spelled rest
    · exact .plain plain
    · obtain ⟨front, mark, rest, rfl, colon, starts⟩ := path
      exact .path colon starts rest
  · rintro (⟨allowed, spelled, rest⟩ | plain | ⟨colon, starts, rest⟩)
    · exact .inl ⟨_, allowed, _, rest, rfl, spelled⟩
    · exact .inr (.inl plain)
    · exact .inr (.inr ⟨_, _, rest, rfl, colon, starts⟩)

end Forms

theorem url?_eq_some_iff (s t : String) : url? s = some t ↔ t = Text.trim s ∧ IsUrl t := by
  have letters : (Text.trim s).toList = Text.trimmed s.toList := String.toList_ofList
  have shows : (Text.trimmed s.toList).isEmpty = false ↔ Text.trim s ≠ "" := by
    rw [List.isEmpty_eq_false_iff, ← letters, ne_eq, ne_eq, String.toList_eq_nil_iff]
  have printable : (Text.trimmed s.toList).any Text.isControl = false ↔
      ∀ c ∈ (Text.trim s).toList, Text.isControl c = false := by
    rw [List.any_eq_false, letters]
    simp only [Bool.not_eq_true]
  have accepted : url? s = some t ↔ t = Text.trim s ∧
      (Text.trimmed s.toList).isEmpty = false ∧
      (Text.trimmed s.toList).any Text.isControl = false ∧
      (hasAllowedScheme (Text.trimmed s.toList) || isRelative (Text.trimmed s.toList)) = true := by
    rw [url?, Text.trim]
    split
    · next refused =>
      refine iff_of_false (by simp) ?_
      rintro ⟨-, shows, printable, -⟩
      rw [shows, printable] at refused
      cases refused
    · next passed =>
      rw [Bool.or_eq_true, not_or, Bool.not_eq_true, Bool.not_eq_true] at passed
      split
      · next form => simp [passed, form, eq_comm]
      · next form => simp [form]
  rw [accepted, shows, printable, isAddress_iff, ← letters]
  constructor
  · rintro ⟨rfl, shows, printable, form⟩
    exact ⟨rfl, Text.trim_trim s, shows, printable, form⟩
  · rintro ⟨rfl, url⟩
    exact ⟨rfl, url.shows, url.printable, url.form⟩

theorem IsUrl.url?_eq {s : String} (h : IsUrl s) : url? s = some s :=
  (url?_eq_some_iff s s).2 ⟨h.trimmed.symm, h⟩

theorem isUrl_of_url? {s t : String} (h : url? s = some t) : IsUrl t :=
  ((url?_eq_some_iff s t).1 h).2

section Browser

/-- What a browser reads: no spaces and controls in front, and no tabs and line breaks anywhere. -/
def browserText (cs : List Char) : List Char :=
  (cs.dropWhile fun c => c.toNat ≤ 0x20).filter fun c => !(['\t', '\n', '\r'].contains c)

def isSchemeChar (c : Char) : Bool := c.isAlphanum || c == '+' || c == '-' || c == '.'

/-- The scheme that a browser finds: a letter, then letters, digits, pluses, hyphens and points up
to the first colon, in any case. -/
def scheme? (s : String) : Option String :=
  let text := browserText s.toList
  let front := text.takeWhile (· ≠ ':')
  if ':' ∈ text ∧ front.head?.any Char.isAlpha ∧ front.all isSchemeChar then
    some (String.ofList (Text.lowerAscii front))
  else none

example : scheme? "  Java\nScript:alert(1)" = some "javascript" := by decide

theorem isControl_of_lt {c : Char} (h : c.toNat < 0x20) : Text.isControl c = true := by
  simp [Text.isControl, h]

theorem IsUrl.browserText_eq {s : String} (h : IsUrl s) : browserText s.toList = s.toList := by
  have untouched : ∀ c ∈ s.toList, ¬c.toNat < 0x20 := fun c hc control => by
    have printable := h.printable c hc
    rw [isControl_of_lt control] at printable
    cases printable
  have front : s.toList.dropWhile (fun c => c.toNat ≤ 0x20) = s.toList := by
    have trimmed := congrArg String.toList h.trimmed
    rw [Text.trim, String.toList_ofList] at trimmed
    have blank := Text.dropWhile_strip Text.isBlank s.toList
    rw [← Text.trimmed, trimmed] at blank
    cases letters : s.toList with
    | nil => rfl
    | cons c rest =>
      rw [letters] at blank untouched
      refine List.dropWhile_cons_of_neg fun low => ?_
      have space : c.toNat = 0x20 := by
        have := untouched c List.mem_cons_self
        have := of_decide_eq_true low
        omega
      rw [List.dropWhile_cons_of_pos (by simp [Text.isBlank, space])] at blank
      have shorter := (List.dropWhile_sublist (p := Text.isBlank) (l := rest)).length_le
      rw [blank, List.length_cons] at shorter
      omega
  rw [browserText, front, List.filter_eq_self]
  intro c hc
  have low : ∀ c ∈ ['\t', '\n', '\r'], c.toNat < 0x20 := by simp
  rw [Bool.not_eq_true', Bool.eq_false_iff, ne_eq, List.contains_iff_mem]
  exact fun mark => untouched c hc (low c mark)

/-- The names of the allowed schemes. -/
def schemeNames : List String := ["http", "https", "mailto", "tel", "data"]

theorem takeWhile_scheme_append {scheme : String} (allowed : scheme ∈ allowedSchemes)
    (rest : List Char) : String.ofList ((scheme.toList ++ rest).takeWhile (· ≠ ':')) ∈
      schemeNames := by
  have stops : ∀ scheme ∈ allowedSchemes,
      (scheme.toList.takeWhile (· ≠ ':')).length ≠ scheme.toList.length ∧
        String.ofList (scheme.toList.takeWhile (· ≠ ':')) ∈ schemeNames := by decide
  rw [List.takeWhile_append, if_neg (stops scheme allowed).1]
  exact (stops scheme allowed).2

theorem lowerAscii_takeWhile_colon (cs : List Char) :
    Text.lowerAscii (cs.takeWhile (· ≠ ':')) = (Text.lowerAscii cs).takeWhile (· ≠ ':') := by
  have colon (c : Char) : c.toLower = ':' ↔ c = ':' :=
    ⟨Text.eq_of_toLower_eq rfl, by rintro rfl; rfl⟩
  rw [Text.lowerAscii, Text.lowerAscii, List.takeWhile_map]
  simp [Function.comp_def, colon]

/-- Whatever scheme a browser finds in an address is an allowed one. -/
theorem IsUrl.scheme_mem {s scheme : String} (h : IsUrl s) (found : scheme? s = some scheme) :
    scheme ∈ schemeNames := by
  rw [scheme?, h.browserText_eq] at found
  have form := h.form
  generalize s.toList = cs at form found
  split at found
  · next parts =>
    obtain ⟨colon, -, inside⟩ := parts
    obtain rfl := Option.some.inj found
    cases form with
    | @schemed name opening allowed spelled rest =>
      have lower : Text.lowerAscii (opening ++ rest) = name.toList ++ Text.lowerAscii rest := by
        rw [← spelled]
        exact List.map_append
      rw [lowerAscii_takeWhile_colon, lower]
      exact takeWhile_scheme_append allowed _
    | plain none => exact absurd colon none
    | @path front mark before starts rest =>
      have apart : ∀ mark ∈ ['/', '?', '#'], mark ≠ ':' ∧ isSchemeChar mark = false := by
        simp only [List.forall_mem_cons]
        exact ⟨by decide, by decide, by decide, List.forall_mem_nil _⟩
      obtain ⟨other, stops⟩ := apart mark starts
      -- the mark stands before the first colon, where a scheme would have to be
      have reached : mark ∈ (front ++ mark :: rest).takeWhile (· ≠ ':') := by
        rw [takeWhile_colon_append before, List.takeWhile_cons_of_pos (by simpa using other)]
        exact List.mem_append_right _ List.mem_cons_self
      rw [List.all_eq_true.1 inside mark reached] at stops
      cases stops
  · cases found

end Browser

end Sanitize

end MiniApp

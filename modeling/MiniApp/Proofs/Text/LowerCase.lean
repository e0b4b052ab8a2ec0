import Mathlib.Data.List.Basic
import MiniApp.Text.Blank
import MiniApp.Text.Case

set_option autoImplicit false

namespace MiniApp.Text

namespace CaseRun

/-- No code point that the run maps to lies between the two bounds. -/
def outside (r : CaseRun) (low high : Nat) : Bool :=
  (r.target + (r.last - r.first)).blt low || high.blt r.target

def misses (r s : CaseRun) : Bool :=
  r.outside s.first s.last ||
    ((r.first.beq r.last || r.step.beq 2) && s.step.beq 2 && ((r.target + s.first) % 2).beq 1)

variable {r s : CaseRun} {n m : Nat}

theorem image?_eq_some_iff : r.image? n = some m ↔
    (r.first ≤ n ∧ n ≤ r.last ∧ (n - r.first) % r.step = 0) ∧ r.target + (n - r.first) = m := by
  rw [image?]
  split
  · next inside => simp [inside]
  · next out => simp [out]

theorem not_between_of_outside {low high : Nat} (h : r.outside low high = true)
    (mapped : r.image? n = some m) : ¬ (low ≤ m ∧ m ≤ high) := by
  obtain ⟨⟨first, last, -⟩, rfl⟩ := image?_eq_some_iff.1 mapped
  rw [outside, Bool.or_eq_true, Nat.blt_eq, Nat.blt_eq] at h
  omega

theorem image?_eq_none_of_misses (h : r.misses s = true) (mapped : r.image? n = some m) :
    s.image? m = none := by
  have apart : ¬ (s.first ≤ m ∧ m ≤ s.last ∧ (m - s.first) % s.step = 0) := by
    rintro ⟨low, high, step⟩
    simp only [misses, Bool.or_eq_true, Bool.and_eq_true, Nat.beq_eq] at h
    rcases h with out | ⟨⟨single, two⟩, odd⟩
    · exact not_between_of_outside out mapped ⟨low, high⟩
    · obtain ⟨⟨first, last, own⟩, rfl⟩ := image?_eq_some_iff.1 mapped
      rw [two] at step
      have even : (n - r.first) % 2 = 0 := by
        rcases single with single | single
        · omega
        · rwa [single] at own
      omega
  rw [image?, if_neg apart]

end CaseRun

/-- The bounds between which no lower case falls: hyphen and underscore, the blanks, the code points
that are no characters, and those with a lower case of several characters. -/
def lowerGaps : List (Nat × Nat) := [
  (0x2d, 0x2d), (0x5f, 0x5f), (9, 13), (0x20, 0x20), (0x85, 0x85), (0xa0, 0xa0), (0x1680, 0x1680),
  (0x2000, 0x200a), (0x2028, 0x2029), (0x202f, 0x202f), (0x205f, 0x205f), (0x3000, 0x3000),
  (0xd800, 0xdfff), (0x130, 0x130)]

/-- The characters without which tags are compared. -/
def isSeparator (c : Char) : Bool := c = '-' || c = '_' || isBlank c

theorem isSeparator_between {c : Char} (h : isSeparator c = true) :
    ∃ g ∈ lowerGaps, g.1 ≤ c.toNat ∧ c.toNat ≤ g.2 := by
  simp only [isSeparator, isBlank, Bool.or_eq_true, Bool.and_eq_true, decide_eq_true_eq,
    beq_iff_eq] at h
  simp only [lowerGaps, List.mem_cons, List.not_mem_nil, or_false, exists_eq_or_imp,
    exists_eq_left]
  rcases h with (rfl | rfl) | blank
  · exact .inl (by decide)
  · exact .inr (.inl (by decide))
  · omega

section Tables

theorem lowerRuns_miss : (lowerRuns.all fun r => lowerRuns.all fun s => r.misses s) = true := by
  decide +kernel

theorem lowerRuns_outside :
    (lowerRuns.all fun r => lowerGaps.all fun g => r.outside g.1 g.2) = true := by
  decide +kernel

theorem lowerRuns_bound : ∀ r ∈ lowerRuns, r.target + (r.last - r.first) < 0x110000 := by
  decide +kernel

end Tables

/-- A code point that is a character, no separator, and its own lower case. -/
structure Settled (n : Nat) : Prop where
  valid : (Char.ofNat n).toNat = n
  plain : isSeparator (Char.ofNat n) = false
  lower : lowerChar (Char.ofNat n) = [Char.ofNat n]

theorem settled_of_run {r : CaseRun} (hr : r ∈ lowerRuns) {n m : Nat} (mapped : r.image? n = some m) :
    Settled m := by
  have gap (g) (hg : g ∈ lowerGaps) : ¬ (g.1 ≤ m ∧ m ≤ g.2) :=
    CaseRun.not_between_of_outside
      (List.all_eq_true.1 (List.all_eq_true.1 lowerRuns_outside r hr) g hg) mapped
  have valid : (Char.ofNat m).toNat = m := by
    have bound := lowerRuns_bound r hr
    have surrogate := gap (0xd800, 0xdfff) (by decide)
    obtain ⟨⟨first, last, -⟩, hm⟩ := CaseRun.image?_eq_some_iff.1 mapped
    have isChar : m.isValidChar := by
      rw [Nat.isValidChar]
      omega
    rw [Char.ofNat, dif_pos isChar]
    rfl
  have unmapped : lowerRuns.findSome? (·.image? m) = none :=
    List.findSome?_eq_none_iff.2 fun s hs => CaseRun.image?_eq_none_of_misses
      (List.all_eq_true.1 (List.all_eq_true.1 lowerRuns_miss r hr) s hs) mapped
  have single : lowerExpansions.lookup m = none := by
    have other := gap (0x130, 0x130) (by decide)
    rw [lowerExpansions, List.lookup_cons, beq_eq_false_iff_ne.2 (by omega)]
    rfl
  constructor
  case valid => exact valid
  case plain =>
    rw [← Bool.not_eq_true]
    intro separator
    obtain ⟨g, hg, between⟩ := isSeparator_between separator
    exact gap g hg (valid ▸ between)
  case lower => rw [lowerChar, mapCase, valid, single, unmapped]

theorem settled_of_expansion {n : Nat} {ns : List Nat} (h : lowerExpansions.lookup n = some ns) :
    ∀ m ∈ ns, Settled m := by
  rw [lowerExpansions, List.lookup_cons] at h
  split at h
  · cases h
    simp only [List.mem_cons, List.not_mem_nil, or_false]
    rintro m (rfl | rfl)
    · exact ⟨by decide, by decide, by decide +kernel⟩
    · exact ⟨by decide, by decide, by decide +kernel⟩
  · cases h

theorem mem_lowerChar {c d : Char} (h : d ∈ lowerChar c) :
    (d = c ∧ lowerChar c = [c]) ∨ (isSeparator d = false ∧ lowerChar d = [d]) := by
  rw [lowerChar, mapCase] at h ⊢
  split at h
  · next ns found =>
    obtain ⟨m, hm, rfl⟩ := List.mem_map.1 h
    have settled := settled_of_expansion found m hm
    exact .inr ⟨settled.plain, settled.lower⟩
  · next =>
    split at h
    · next m found =>
      obtain ⟨r, hr, mapped⟩ := List.exists_of_findSome?_eq_some found
      rw [List.mem_singleton] at h
      subst h
      have settled := settled_of_run hr mapped
      exact .inr ⟨settled.plain, settled.lower⟩
    · next =>
      rw [List.mem_singleton] at h
      exact .inl ⟨h, rfl⟩

theorem lowerChar_of_mem {c d : Char} (h : d ∈ lowerChar c) : lowerChar d = [d] := by
  rcases mem_lowerChar h with ⟨rfl, same⟩ | ⟨-, same⟩
  · exact same
  · exact same

theorem lower_lower (cs : List Char) : lower (lower cs) = lower cs := by
  have settle (c : Char) : (lowerChar c).flatMap lowerChar = lowerChar c := by
    calc (lowerChar c).flatMap lowerChar
        = (lowerChar c).flatMap fun d => [d] := List.flatMap_congr fun d hd => lowerChar_of_mem hd
      _ = lowerChar c := List.flatMap_singleton' _
  rw [lower, lower, List.flatMap_assoc]
  exact List.flatMap_congr fun c _ => settle c

theorem isSeparator_of_mem_lower {cs : List Char} (plain : ∀ c ∈ cs, isSeparator c = false) :
    ∀ d ∈ lower cs, isSeparator d = false := by
  intro d hd
  obtain ⟨c, hc, hd⟩ := List.mem_flatMap.1 hd
  rcases mem_lowerChar hd with ⟨rfl, -⟩ | ⟨apart, -⟩
  · exact plain d hc
  · exact apart

section Ascii

theorem lowerRuns_above : ∀ r ∈ lowerRuns.tail, 0x80 ≤ r.first := by
  decide +kernel

theorem image?_letters : ∀ n < 0x80,
    (CaseRun.image? ⟨0x41, 0x5a, 1, 0x61⟩ n).getD n = (Char.ofNat n).toLower.toNat := by
  decide +kernel

theorem lowerChar_of_ascii {c : Char} (ascii : c.toNat < 0x80) : lowerChar c = [c.toLower] := by
  have single : lowerExpansions.lookup c.toNat = none := by
    rw [lowerExpansions, List.lookup_cons, beq_eq_false_iff_ne.2 (by omega)]
    rfl
  have above : lowerRuns.tail.findSome? (·.image? c.toNat) = none := by
    refine List.findSome?_eq_none_iff.2 fun r hr => ?_
    have first := lowerRuns_above r hr
    rw [CaseRun.image?, if_neg (by omega)]
  have letter : Char.ofNat ((CaseRun.image? ⟨0x41, 0x5a, 1, 0x61⟩ c.toNat).getD c.toNat) =
      c.toLower := by
    rw [image?_letters _ ascii, Char.ofNat_toNat, Char.ofNat_toNat]
  have runs : lowerRuns = ⟨0x41, 0x5a, 1, 0x61⟩ :: lowerRuns.tail := rfl
  rw [lowerChar, mapCase, single, runs, List.findSome?_cons, above, ← letter]
  cases CaseRun.image? ⟨0x41, 0x5a, 1, 0x61⟩ c.toNat with
  | some m => rfl
  | none => rw [Option.getD_none, Char.ofNat_toNat]

theorem lower_of_ascii {cs : List Char} (ascii : ∀ c ∈ cs, c.toNat < 0x80) :
    lower cs = lowerAscii cs := by
  rw [lower, lowerAscii, List.flatMap_congr fun c hc => lowerChar_of_ascii (ascii c hc)]
  exact (List.map_eq_flatMap ..).symm

theorem bounds_of_isAlpha {c : Char} (h : c.isAlpha = true) :
    (0x41 ≤ c.toNat ∧ c.toNat ≤ 0x5a) ∨ (0x61 ≤ c.toNat ∧ c.toNat ≤ 0x7a) := by
  have classes : c.isAlpha = (decide ('A' ≤ c ∧ c ≤ 'Z') ||
      decide ('a' ≤ c) && decide (c ≤ 'z')) := rfl
  rw [classes] at h
  simp only [Bool.or_eq_true, Bool.and_eq_true, decide_eq_true_eq] at h
  exact h

theorem isSeparator_of_isAlpha {c : Char} (h : c.isAlpha = true) : isSeparator c = false := by
  have letter := bounds_of_isAlpha h
  rw [← Bool.not_eq_true]
  intro separator
  obtain ⟨g, hg, between⟩ := isSeparator_between separator
  have apart : ∀ g ∈ lowerGaps, g.2 < 0x41 ∨ (0x5a < g.1 ∧ g.2 < 0x61) ∨ 0x7a < g.1 := by decide
  have := apart g hg
  omega

end Ascii

end MiniApp.Text

import MiniApp.Json.Error
import MiniApp.Number.Decimal

set_option autoImplicit false

namespace MiniApp.Json

/-- A fault that shows `extra` bytes into the text `rest`. -/
structure Stop where
  fault : JsonFault
  rest : List Char
  extra : Nat

def stopAt (fault : JsonFault) (rest : List Char) : Stop := ⟨fault, rest, 1⟩

def stopAtEnd (fault : JsonFault) : Stop := ⟨fault, [], 0⟩

def readWord : (expected cs : List Char) → Except Stop (List Char)
  | [], cs => .ok cs
  | _ :: _, [] => .error (stopAtEnd .endInValue)
  | e :: expected, c :: cs =>
    if c = e then readWord expected cs else .error (stopAt .expectedIdent (c :: cs))

def readDigits (cs : List Char) : Except Stop (List Char × List Char) :=
  match cs.takeWhile Char.isDigit with
  | [] =>
    match cs with
    | [] => .error (stopAtEnd .endInValue)
    | _ :: _ => .error (stopAt .invalidNumber cs)
  | ds => .ok (ds, cs.dropWhile Char.isDigit)

theorem readDigits_shorter {cs ds rest : List Char} (h : readDigits cs = .ok (ds, rest)) :
    rest.length < cs.length := by
  unfold readDigits at h
  split at h
  · split at h <;> simp at h
  · rename_i hne
    simp only [Except.ok.injEq, Prod.mk.injEq] at h
    have hsum := congrArg List.length
      (List.takeWhile_append_dropWhile (p := Char.isDigit) (l := cs))
    rw [List.length_append, h.1, h.2] at hsum
    have hpos : 0 < ds.length := by
      rw [← h.1]
      exact List.length_pos_iff.2 (fun q => hne q)
    omega

def readWhole (cs : List Char) : Except Stop (List Char × List Char) :=
  match cs with
  | '0' :: rest =>
    match rest with
    | c :: _ => if c.isDigit then .error (stopAt .invalidNumber rest) else .ok (['0'], rest)
    | [] => .ok (['0'], rest)
  | _ => readDigits cs

theorem readWhole_shorter {cs ds rest : List Char} (h : readWhole cs = .ok (ds, rest)) :
    rest.length < cs.length := by
  unfold readWhole at h
  split at h
  · split at h
    · split at h
      · simp at h
      · simp only [Except.ok.injEq, Prod.mk.injEq] at h
        rw [← h.2]
        simp
    · simp only [Except.ok.injEq, Prod.mk.injEq] at h
      rw [← h.2]
      simp
  · exact readDigits_shorter h

def readFraction (cs : List Char) : Except Stop (Option (List Char) × List Char) :=
  match cs with
  | '.' :: rest =>
    match readDigits rest with
    | .error stop => .error stop
    | .ok (ds, rest) => .ok (some ds, rest)
  | _ => .ok (none, cs)

theorem readFraction_length {cs rest : List Char} {ds : Option (List Char)}
    (h : readFraction cs = .ok (ds, rest)) : rest.length ≤ cs.length := by
  unfold readFraction at h
  split at h
  · split at h
    · simp at h
    · rename_i h1
      have := readDigits_shorter h1
      simp only [Except.ok.injEq, Prod.mk.injEq] at h
      rw [← h.2]
      simp only [List.length_cons]
      omega
  · simp only [Except.ok.injEq, Prod.mk.injEq] at h
    exact Nat.le_of_eq (by rw [h.2])

def exponentLimit : Nat := Nat.pow 2 31 - 1

/-- The digits behind the one that takes the exponent over its limit. -/
def beyondLimit (value : Nat) : List Char → Option (List Char)
  | [] => none
  | d :: ds =>
    let value := 10 * value + Decimal.digitValue d
    if exponentLimit < value then some ds else beyondLimit value ds

def readPower (cs : List Char) : Except Stop (Option (Bool × List Char) × List Char) :=
  match cs with
  | c :: rest =>
    if c = 'e' ∨ c = 'E' then
      match readDigits (Decimal.takeSign rest).2 with
      | .error stop => .error stop
      | .ok (ds, left) => .ok (some ((Decimal.takeSign rest).1, ds), left)
    else .ok (none, cs)
  | [] => .ok (none, cs)

theorem takeSign_length (cs : List Char) : (Decimal.takeSign cs).2.length ≤ cs.length := by
  unfold Decimal.takeSign
  split <;> simp

theorem readPower_length {cs rest : List Char} {p : Option (Bool × List Char)}
    (h : readPower cs = .ok (p, rest)) : rest.length ≤ cs.length := by
  unfold readPower at h
  split at h
  · rename_i c tail
    split at h
    · split at h
      · simp at h
      · rename_i h1
        have l1 := readDigits_shorter h1
        have l2 := takeSign_length tail
        simp only [Except.ok.injEq, Prod.mk.injEq] at h
        rw [← h.2]
        simp only [List.length_cons]
        omega
    · simp only [Except.ok.injEq, Prod.mk.injEq] at h
      exact Nat.le_of_eq (by rw [h.2])
  · simp only [Except.ok.injEq, Prod.mk.injEq] at h
    exact Nat.le_of_eq (by rw [h.2])

/-- A number without fraction and exponent is an integer if it fits 64 bits; minus zero does
not. -/
def integerValue (negative : Bool) (n : Nat) : Option Json :=
  if negative then
    if 0 < n ∧ n ≤ Nat.pow 2 63 then some (.integer (-n)) else none
  else if n < Nat.pow 2 64 then some (.integer n) else none

structure NumberText where
  negative : Bool
  whole : List Char
  fraction : Option (List Char)
  power : Option (Bool × List Char)

def readNumberText (cs : List Char) : Except Stop (NumberText × List Char) :=
  let unsigned := match cs with
    | '-' :: cs => cs
    | cs => cs
  match readWhole unsigned with
  | .error stop => .error stop
  | .ok (whole, rest) =>
    match readFraction rest with
    | .error stop => .error stop
    | .ok (fraction, rest) =>
      match readPower rest with
      | .error stop => .error stop
      | .ok (power, rest) => .ok (⟨cs.head? == some '-', whole, fraction, power⟩, rest)

theorem readNumberText_shorter {cs rest : List Char} {t : NumberText}
    (h : readNumberText cs = .ok (t, rest)) : rest.length < cs.length := by
  unfold readNumberText at h
  simp only at h
  split at h
  · simp at h
  · rename_i h1
    split at h
    · simp at h
    · rename_i h2
      split at h
      · simp at h
      · rename_i h3
        have l1 := readWhole_shorter h1
        have l2 := readFraction_length h2
        have l3 := readPower_length h3
        simp only [Except.ok.injEq, Prod.mk.injEq] at h
        rw [← h.2]
        split at l1
        · simp only [List.length_cons]
          omega
        · omega

/-- Digits are kept for as long as they fit 64 bits: what they amount to, and the digits behind. -/
def keepDigits (kept : Nat) : List Char → Nat × List Char
  | [] => (kept, [])
  | d :: ds =>
    let next := 10 * kept + Decimal.digitValue d
    if next < Nat.pow 2 64 then keepDigits next ds else (kept, d :: ds)

/-- Significand and exponent before the power. Whole digits that are not kept count as places,
decimals that are not kept do not count at all. -/
def NumberText.parts (t : NumberText) : Nat × Int :=
  let fraction := t.fraction.getD []
  let (whole, beyond) := keepDigits 0 t.whole
  let (significand, dropped) := keepDigits whole fraction
  (significand, beyond.length + dropped.length - fraction.length)

def powerOfTen (n : Nat) : Double := .ofNat (Nat.pow 10 n)

/-- Each division is by the largest power of ten that is a double, but for the last. -/
def dividedByTen (d : Double) (places : Nat) : Double :=
  if places ≤ 308 then d.div (powerOfTen places)
  else if d.isZero then d
  else dividedByTen (d.div (powerOfTen 308)) (places - 308)
termination_by places

def timesTen (d : Double) : Int → Double
  | .ofNat places =>
    if places ≤ 308 then d.mul (powerOfTen places)
    else if d.isZero then d
    else .infinite false
  | .negSucc n => dividedByTen d (n + 1)

/-- The value of a number that is followed by `rest`. The significand is rounded before it is scaled,
so the value need not be the nearest one. An exponent over the limit is refused at the digit that
takes it there, unless the number is zero or the exponent negative. -/
def NumberText.value (t : NumberText) (rest : List Char) : Except Stop Json :=
  match t.fraction, t.power, integerValue t.negative (Decimal.natOfDigits t.whole) with
  | none, none, some v => .ok v
  | _, _, _ =>
    let (minus, ds) := t.power.getD (false, [])
    let (significand, exponent) := t.parts
    match beyondLimit 0 ds with
    | some left =>
      if significand = 0 ∨ minus then .ok (.float (.finite t.negative 0))
      else .error ⟨.numberOutOfRange, left ++ rest, 0⟩
    | none =>
      let power : Int := if minus then -(Decimal.natOfDigits ds : Int) else Decimal.natOfDigits ds
      let rounded := Double.ofRatio t.negative (significand * Double.scale) 1
      let value := timesTen rounded (exponent + power)
      if value.isFinite then .ok (.float value) else .error ⟨.numberOutOfRange, rest, 0⟩

def hexValue? (c : Char) : Option Nat :=
  if c.isDigit then some (c.toNat - '0'.toNat)
  else if 'a' ≤ c ∧ c ≤ 'f' then some (c.toNat - 'a'.toNat + 10)
  else if 'A' ≤ c ∧ c ≤ 'F' then some (c.toNat - 'A'.toNat + 10)
  else none

def byteSize (cs : List Char) : Nat := cs.foldr (fun c size => c.utf8Size + size) 0

/-- Fewer than four bytes are an early end; otherwise the fourth of them is refused. -/
def badHex (cs : List Char) : Stop :=
  if byteSize (cs.take 4) < 4 then stopAtEnd .endInString else ⟨.invalidEscape, cs, 4⟩

def readHex (cs : List Char) : Except Stop (Nat × List Char) :=
  match cs with
  | a :: b :: c :: d :: rest =>
    match hexValue? a, hexValue? b, hexValue? c, hexValue? d with
    | some a, some b, some c, some d => .ok (((a * 16 + b) * 16 + c) * 16 + d, rest)
    | _, _, _, _ => .error (badHex cs)
  | _ => .error (badHex cs)

theorem readHex_shorter {cs rest : List Char} {n : Nat} (h : readHex cs = .ok (n, rest)) :
    rest.length < cs.length := by
  unfold readHex at h
  split at h
  · split at h
    · simp only [Except.ok.injEq, Prod.mk.injEq] at h
      rw [← h.2]
      simp only [List.length_cons]
      omega
    · simp at h
  · simp at h

def isHighSurrogate (n : Nat) : Bool := 0xd800 ≤ n && n ≤ 0xdbff

def isLowSurrogate (n : Nat) : Bool := 0xdc00 ≤ n && n ≤ 0xdfff

def readSecondEscape (cs : List Char) : Except Stop (List Char) :=
  match cs with
  | [] => .error (stopAtEnd .endInString)
  | '\\' :: rest =>
    match rest with
    | [] => .error (stopAtEnd .endInString)
    | 'u' :: rest => .ok rest
    | _ => .error (stopAt .endOfHexEscape rest)
  | _ => .error (stopAt .endOfHexEscape cs)

theorem readSecondEscape_shorter {cs rest : List Char} (h : readSecondEscape cs = .ok rest) :
    rest.length < cs.length := by
  unfold readSecondEscape at h
  split at h
  · simp at h
  · split at h
    · simp at h
    · simp only [Except.ok.injEq] at h
      rw [← h]
      simp only [List.length_cons]
      omega
    · simp at h
  · simp at h

def readUnicode (cs : List Char) : Except Stop (Char × List Char) :=
  match readHex cs with
  | .error stop => .error stop
  | .ok (n, rest) =>
    if isLowSurrogate n then .error ⟨.loneSurrogate, rest, 0⟩
    else if isHighSurrogate n then
      match readSecondEscape rest with
      | .error stop => .error stop
      | .ok rest =>
        match readHex rest with
        | .error stop => .error stop
        | .ok (m, rest) =>
          if isLowSurrogate m then
            .ok (Char.ofNat (0x10000 + (n - 0xd800) * 0x400 + (m - 0xdc00)), rest)
          else .error ⟨.loneSurrogate, rest, 0⟩
    else .ok (Char.ofNat n, rest)

theorem readUnicode_shorter {cs rest : List Char} {c : Char}
    (h : readUnicode cs = .ok (c, rest)) : rest.length < cs.length := by
  unfold readUnicode at h
  split at h
  · simp at h
  · rename_i h1
    have l1 := readHex_shorter h1
    split at h
    · simp at h
    · split at h
      · split at h
        · simp at h
        · rename_i h2
          have l2 := readSecondEscape_shorter h2
          split at h
          · simp at h
          · rename_i h3
            have l3 := readHex_shorter h3
            split at h
            · simp only [Except.ok.injEq, Prod.mk.injEq] at h
              rw [← h.2]
              omega
            · simp at h
      · simp only [Except.ok.injEq, Prod.mk.injEq] at h
        rw [← h.2]
        exact l1

def simpleEscape? (c : Char) : Option Char :=
  match c with
  | '"' => some '"'
  | '\\' => some '\\'
  | '/' => some '/'
  | 'b' => some '\x08'
  | 'f' => some '\x0c'
  | 'n' => some '\n'
  | 'r' => some '\r'
  | 't' => some '\t'
  | _ => none

def readEscape (cs : List Char) : Except Stop (Char × List Char) :=
  match cs with
  | [] => .error (stopAtEnd .endInString)
  | c :: rest =>
    if c = 'u' then readUnicode rest
    else match simpleEscape? c with
      | some d => .ok (d, rest)
      | none => .error (stopAt .invalidEscape cs)

theorem readEscape_shorter {cs rest : List Char} {c : Char}
    (h : readEscape cs = .ok (c, rest)) : rest.length < cs.length := by
  unfold readEscape at h
  split at h
  · simp at h
  · split at h
    · have := readUnicode_shorter h
      simp only [List.length_cons]
      omega
    · split at h
      · simp only [Except.ok.injEq, Prod.mk.injEq] at h
        rw [← h.2]
        simp
      · simp at h

def readString (done : List Char) (cs : List Char) : Except Stop (String × List Char) :=
  match cs with
  | [] => .error (stopAtEnd .endInString)
  | c :: rest =>
    if c = '"' then .ok (String.ofList done.reverse, rest)
    else if c = '\\' then
      match h : readEscape rest with
      | .error stop => .error stop
      | .ok (d, rest') =>
        have := readEscape_shorter h
        readString (d :: done) rest'
    else if c.toNat < 0x20 then .error (stopAt .controlCharacter cs)
    else readString (c :: done) rest
termination_by cs.length

theorem readString_shorter {done cs rest : List Char} {s : String}
    (h : readString done cs = .ok (s, rest)) : rest.length < cs.length := by
  fun_induction readString done cs
  · simp at h
  · simp only [Except.ok.injEq, Prod.mk.injEq] at h
    rw [← h.2]
    simp
  · simp at h
  · rename_i ih
    have := ih h
    simp only [List.length_cons]
    omega
  · simp at h
  · rename_i ih
    have := ih h
    simp only [List.length_cons]
    omega

end MiniApp.Json

import MiniApp.Json.Token

/-!
Reading a JSON text. The reader keeps the containers that are open on a stack and a note of what may
come next. Each step takes at least one character, and the first fault in reading order is the one
reported. Objects come out with their keys in order, the last value of a repeated key.
-/

set_option autoImplicit false

namespace MiniApp.Json

def isJsonBlank (c : Char) : Bool := c == ' ' || c == '\n' || c == '\r' || c == '\t'

/-- An open container: the items so far, backwards, or the fields so far and the key whose value is
being read. -/
inductive Frame where
  | list (items : List Json)
  | fields (done : Fields) (key : String)

/-- What may come next. `item` and `key` follow a comma. -/
inductive Expecting where
  | value
  | firstItem
  | item
  | firstKey (done : Fields)
  | key (done : Fields)
  | separator

def depthLimit : Nat := 127

inductive Progress where
  | done (value : Json)
  | more (next : Expecting) (opened : List Frame) (rest : List Char)

/-- A value is complete: it goes into the innermost container, or the text has to end. -/
def deliver (v : Json) (frames : List Frame) (rest : List Char) : Except Stop Progress :=
  match frames with
  | .list items :: frames => .ok (.more .separator (.list (v :: items) :: frames) rest)
  | .fields done key :: frames =>
    .ok (.more .separator (.fields (putField key v done) key :: frames) rest)
  | [] =>
    match rest.dropWhile isJsonBlank with
    | [] => .ok (.done v)
    | c :: cs => .error (stopAt .trailingCharacters (c :: cs))

theorem deliver_rest {v : Json} {frames opened : List Frame} {cs rest : List Char}
    {next : Expecting} (h : deliver v frames cs = .ok (.more next opened rest)) : rest = cs := by
  unfold deliver at h
  split at h
  · simp only [Except.ok.injEq, Progress.more.injEq] at h
    exact h.2.2.symm
  · simp only [Except.ok.injEq, Progress.more.injEq] at h
    exact h.2.2.symm
  · split at h <;> simp at h

def openContainer (next : Expecting) (frames : List Frame) (cs : List Char) :
    Except Stop Progress :=
  if depthLimit ≤ frames.length then .error (stopAt .recursionLimit cs)
  else .ok (.more next frames (cs.drop 1))

theorem openContainer_rest {first next : Expecting} {frames opened : List Frame}
    {cs rest : List Char} (h : openContainer first frames cs = .ok (.more next opened rest)) :
    rest = cs.drop 1 := by
  unfold openContainer at h
  split at h
  · simp at h
  · simp only [Except.ok.injEq, Progress.more.injEq] at h
    exact h.2.2.symm

def startValue (frames : List Frame) (c : Char) (cs : List Char) : Except Stop Progress :=
  if c = '"' then
    match readString [] cs with
    | .error stop => .error stop
    | .ok (s, rest) => deliver (.string s) frames rest
  else if c = '[' then openContainer .firstItem frames (c :: cs)
  else if c = '{' then openContainer (.firstKey []) frames (c :: cs)
  else if c = '-' ∨ c.isDigit then
    match readNumberText (c :: cs) with
    | .error stop => .error stop
    | .ok (t, rest) =>
      match t.value rest with
      | .error stop => .error stop
      | .ok v => deliver v frames rest
  else if c = 'n' then
    match readWord ['u', 'l', 'l'] cs with
    | .error stop => .error stop
    | .ok rest => deliver .null frames rest
  else if c = 't' then
    match readWord ['r', 'u', 'e'] cs with
    | .error stop => .error stop
    | .ok rest => deliver (.bool true) frames rest
  else if c = 'f' then
    match readWord ['a', 'l', 's', 'e'] cs with
    | .error stop => .error stop
    | .ok rest => deliver (.bool false) frames rest
  else .error (stopAt .expectedValue (c :: cs))

theorem readWord_length {expected cs rest : List Char} (h : readWord expected cs = .ok rest) :
    rest.length ≤ cs.length := by
  induction expected generalizing cs with
  | nil =>
    simp only [readWord, Except.ok.injEq] at h
    exact Nat.le_of_eq (by rw [h])
  | cons e expected ih =>
    cases cs with
    | nil => simp [readWord] at h
    | cons c cs =>
      rw [readWord] at h
      split at h
      · have := ih h
        simp only [List.length_cons]
        omega
      · simp at h

theorem startValue_length {frames opened : List Frame} {c : Char} {cs rest : List Char}
    {next : Expecting} (h : startValue frames c cs = .ok (.more next opened rest)) :
    rest.length ≤ cs.length := by
  unfold startValue at h
  split at h
  · split at h
    · simp at h
    · rename_i h1
      rw [deliver_rest h]
      exact Nat.le_of_lt (readString_shorter h1)
  · split at h
    · rw [openContainer_rest h]
      simp
    · split at h
      · rw [openContainer_rest h]
        simp
      · split at h
        · split at h
          · simp at h
          · rename_i h1
            split at h
            · simp at h
            · rw [deliver_rest h]
              have := readNumberText_shorter h1
              simp only [List.length_cons] at this
              omega
        · split at h
          · split at h
            · simp at h
            · rename_i h1
              rw [deliver_rest h]
              exact readWord_length h1
          · split at h
            · split at h
              · simp at h
              · rename_i h1
                rw [deliver_rest h]
                exact readWord_length h1
            · split at h
              · split at h
                · simp at h
                · rename_i h1
                  rw [deliver_rest h]
                  exact readWord_length h1
              · simp at h

def startKey (done : Fields) (frames : List Frame) (c : Char) (cs : List Char) :
    Except Stop Progress :=
  if c = '"' then
    match readString [] cs with
    | .error stop => .error stop
    | .ok (key, rest) =>
      match rest.dropWhile isJsonBlank with
      | [] => .error (stopAtEnd .endInObject)
      | ':' :: rest => .ok (.more .value (.fields done key :: frames) rest)
      | c :: cs => .error (stopAt .expectedColon (c :: cs))
  else .error (stopAt .keyNotString (c :: cs))

theorem startKey_length {done : Fields} {frames opened : List Frame} {c : Char}
    {cs rest : List Char} {next : Expecting}
    (h : startKey done frames c cs = .ok (.more next opened rest)) : rest.length ≤ cs.length := by
  unfold startKey at h
  split at h
  · split at h
    · simp at h
    · rename_i key tail h1
      have l1 := readString_shorter h1
      have l2 := List.dropWhile_sublist isJsonBlank (l := tail) |>.length_le
      split at h
      · simp at h
      · rename_i h2
        rw [h2] at l2
        simp only [Except.ok.injEq, Progress.more.injEq] at h
        rw [← h.2.2]
        simp only [List.length_cons] at l2
        omega
      · simp at h
  · simp at h

def endFault (expecting : Expecting) (frames : List Frame) : JsonFault :=
  match expecting, frames with
  | .firstItem, _ => .endInList
  | .firstKey _, _ => .endInObject
  | .separator, .list _ :: _ => .endInList
  | .separator, .fields .. :: _ => .endInObject
  | _, _ => .endInValue

def stepAt (expecting : Expecting) (frames : List Frame) (c : Char) (cs : List Char) :
    Except Stop Progress :=
  match expecting, frames with
  | .value, _ => startValue frames c cs
  | .firstItem, _ =>
    if c = ']' then deliver (.array []) frames cs else startValue (.list [] :: frames) c cs
  | .item, _ =>
    if c = ']' then .error (stopAt .trailingComma (c :: cs)) else startValue frames c cs
  | .firstKey done, _ =>
    if c = '}' then deliver (.object []) frames cs else startKey done frames c cs
  | .key done, _ =>
    if c = '}' then .error (stopAt .trailingComma (c :: cs)) else startKey done frames c cs
  | .separator, .list items :: outer =>
    if c = ',' then .ok (.more .item frames cs)
    else if c = ']' then deliver (.array items.reverse) outer cs
    else .error (stopAt .expectedListEnd (c :: cs))
  | .separator, .fields done _ :: outer =>
    if c = ',' then .ok (.more (.key done) outer cs)
    else if c = '}' then deliver (.object done) outer cs
    else .error (stopAt .expectedObjectEnd (c :: cs))
  | .separator, [] => .error (stopAt .trailingCharacters (c :: cs))

def step (expecting : Expecting) (frames : List Frame) (cs : List Char) : Except Stop Progress :=
  match cs.dropWhile isJsonBlank with
  | [] => .error (stopAtEnd (endFault expecting frames))
  | c :: rest => stepAt expecting frames c rest

theorem stepAt_length {expecting next : Expecting} {frames opened : List Frame} {c : Char}
    {cs rest : List Char} (h : stepAt expecting frames c cs = .ok (.more next opened rest)) :
    rest.length ≤ cs.length := by
  unfold stepAt at h
  split at h
  · exact startValue_length h
  · split at h
    · exact Nat.le_of_eq (congrArg List.length (deliver_rest h))
    · exact startValue_length h
  · split at h
    · simp at h
    · exact startValue_length h
  · split at h
    · exact Nat.le_of_eq (congrArg List.length (deliver_rest h))
    · exact startKey_length h
  · split at h
    · simp at h
    · exact startKey_length h
  · split at h
    · simp only [Except.ok.injEq, Progress.more.injEq] at h
      exact Nat.le_of_eq (congrArg List.length h.2.2.symm)
    · split at h
      · exact Nat.le_of_eq (congrArg List.length (deliver_rest h))
      · simp at h
  · split at h
    · simp only [Except.ok.injEq, Progress.more.injEq] at h
      exact Nat.le_of_eq (congrArg List.length h.2.2.symm)
    · split at h
      · exact Nat.le_of_eq (congrArg List.length (deliver_rest h))
      · simp at h
  · simp at h

/-- Every step takes a character. -/
theorem step_shorter {expecting next : Expecting} {frames opened : List Frame}
    {cs rest : List Char} (h : step expecting frames cs = .ok (.more next opened rest)) :
    rest.length < cs.length := by
  unfold step at h
  split at h
  · simp at h
  · rename_i h1
    have l1 := List.dropWhile_sublist isJsonBlank (l := cs) |>.length_le
    have l2 := stepAt_length h
    rw [h1] at l1
    simp only [List.length_cons] at l1
    omega

/-- The value that is under way when `expecting` may come next within the open containers. -/
def run (expecting : Expecting) (frames : List Frame) (cs : List Char) : Except Stop Json :=
  match h : step expecting frames cs with
  | .error stop => .error stop
  | .ok (.done v) => .ok v
  | .ok (.more next frames rest) =>
    have := step_shorter h
    run next frames rest
termination_by cs.length

def Stop.locate (stop : Stop) (text : List Char) : JsonError :=
  let place := positionAfter 1 0 (byteSize text - byteSize stop.rest + stop.extra) text
  ⟨stop.fault, place.1, place.2⟩

def readChars (text : List Char) : Except JsonError Json :=
  match run .value [] text with
  | .error stop => .error (stop.locate text)
  | .ok v => .ok v

def read (text : String) : Except JsonError Json := readChars text.toList

end MiniApp.Json

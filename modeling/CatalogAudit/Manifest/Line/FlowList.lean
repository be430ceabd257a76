import CatalogAudit.Manifest.Line.Scalar

/-!
# Lists in brackets

A list of modes on one line: items between brackets, with commas between them and, if wanted, after
the last. An item that is no string (a number, a collection, a key with a value) makes the whole
list invalid but does not end the reading. Every item takes at least one character off the text,
which is why the reading ends.
-/

namespace CatalogAudit.Manifest.Line

/-- Text after the bracket that closes the first one. `depth` counts the open brackets. -/
def skipBrackets? (depth : Nat) : List Char → Option (List Char)
  | [] => none
  | c :: rest =>
    if c == '[' || c == '{' then skipBrackets? (depth + 1) rest
    else if c == ']' || c == '}' then
      if depth ≤ 1 then some rest else skipBrackets? (depth - 1) rest
    else skipBrackets? depth rest

/-- Whether the character ends a plain item or may not stand in one. -/
def endsItem (c : Char) : Bool := c == ',' || c == ']' || c == '[' || c == '{' || c == '}'

/-- Whether a blank hash sign, which would begin a comment, occurs. -/
def hasComment : List Char → Bool
  | [] => false
  | c :: rest => (c == ' ' && Text.startsWith (· == '#') rest) || hasComment rest

/-- Reads one item of a list: its string, or `none` for another value, and the text after it. -/
def flowItem (text : List Char) : Except Fault (Option String × List Char) :=
  if Text.startsWith isQuote text then
    match readQuoted text with
    | .error fault => .error fault
    | .ok (value, rest) =>
      if Text.startsWith (· == ':') (Text.trimStart rest) then
        .ok (none, rest.dropWhile fun c => !(c == ',' || c == ']'))
      else .ok (some (String.ofList value), rest)
  else if Text.startsWith (fun c => c == '[' || c == '{') text then
    match skipBrackets? 0 text with
    | some rest => .ok (none, rest)
    | none => .error .unclosedList
  else
    let rest := text.dropWhile fun c => !endsItem c
    if Text.startsWith (fun c => c == '[' || c == '{' || c == '}') rest then .error .bracketInItem
    else
      let plain := Text.trimEnd (text.takeWhile fun c => !endsItem c)
      if plain.isEmpty then .error .emptyItem
      else if hasComment plain then .error .commentInList
      else if hasColonBefore (· == ' ') plain || endsIn ':' plain then .ok (none, rest)
      else
        match plainValue plain with
        | .error fault => .error fault
        | .ok (.text mode) => .ok (some mode, rest)
        | .ok (.other _) => .ok (none, rest)

/-- Skipping brackets leaves a shorter text behind. -/
theorem skipBrackets?_length {depth : Nat} {text rest : List Char}
    (h : skipBrackets? depth text = some rest) : rest.length < text.length := by
  fun_induction skipBrackets? depth text with
  | case1 => simp at h
  | case2 _ _ _ _ ih => have := ih h; simp only [List.length_cons]; omega
  | case3 => simp_all
  | case4 _ _ _ _ _ _ ih => have := ih h; simp only [List.length_cons]; omega
  | case5 _ _ _ _ _ ih => have := ih h; simp only [List.length_cons]; omega

/-- Dropping characters leaves no longer text behind. -/
theorem length_dropWhile_le (p : Char → Bool) (text : List Char) :
    (text.dropWhile p).length ≤ text.length := (List.dropWhile_sublist p).length_le

/-- A plain item that is not empty leaves a shorter text behind. -/
theorem length_dropWhile_lt_of_takeWhile {p : Char → Bool} {text : List Char}
    (h : Text.trimEnd (text.takeWhile p) ≠ []) : (text.dropWhile p).length < text.length := by
  have split := congrArg List.length (List.takeWhile_append_dropWhile (p := p) (l := text))
  rw [List.length_append] at split
  have : text.takeWhile p ≠ [] := by
    intro empty
    rw [empty] at h
    simp [Text.trimEnd] at h
  have := List.length_pos_iff.mpr this
  omega

/-- Every item takes at least one character. -/
theorem flowItem_length {text rest : List Char} {item : Option String}
    (h : flowItem text = .ok (item, rest)) : rest.length < text.length := by
  unfold flowItem at h
  split at h
  · split at h
    · simp at h
    · rename_i value after taken
      have shorter := readQuoted_length taken
      split at h
      · simp only [Except.ok.injEq, Prod.mk.injEq] at h
        have := length_dropWhile_le (fun c => !(c == ',' || c == ']')) after
        rw [← h.2]
        omega
      · simp only [Except.ok.injEq, Prod.mk.injEq] at h
        rw [← h.2]
        exact shorter
  · split at h
    · split at h
      · rename_i after taken
        simp only [Except.ok.injEq, Prod.mk.injEq] at h
        rw [← h.2]
        exact skipBrackets?_length taken
      · simp at h
    · simp only at h
      split at h
      · simp at h
      · split at h
        · simp at h
        · rename_i filled
          have shorter : (text.dropWhile fun c => !endsItem c).length < text.length :=
            length_dropWhile_lt_of_takeWhile (by simpa using filled)
          split at h
          · simp at h
          · split at h
            · simp only [Except.ok.injEq, Prod.mk.injEq] at h
              rw [← h.2]
              exact shorter
            · split at h
              · simp at h
              · simp only [Except.ok.injEq, Prod.mk.injEq] at h
                rw [← h.2]
                exact shorter
              · simp only [Except.ok.injEq, Prod.mk.injEq] at h
                rw [← h.2]
                exact shorter

/-- Reads the items up to the closing bracket. `items` is what was read so far, backwards. -/
def flowItems (items : List (Option String)) (text : List Char) :
    Except Fault (List (Option String)) :=
  match _at : Text.trimStart text with
  | [] => .error .unclosedList
  | ']' :: after =>
    let after := Text.trimStart after
    if after.isEmpty || Text.startsWith (· == '#') after then .ok items.reverse
    else .error (.afterList after)
  | c :: rest =>
    match _taken : flowItem (c :: rest) with
    | .error fault => .error fault
    | .ok (item, remaining) =>
      match _next : Text.trimStart remaining with
      | ',' :: after => flowItems (item :: items) after
      | ']' :: after => flowItems (item :: items) (']' :: after)
      | _ => .error .unclosedList
termination_by text.length
decreasing_by
  all_goals
    have start := Text.trimStart_length_le text
    have step := flowItem_length _taken
    have gap := Text.trimStart_length_le remaining
    rw [_at] at start
    rw [_next] at gap
    simp only [List.length_cons] at *
    omega

/-- Reads a list that begins with its opening bracket; a text that begins otherwise is no list. -/
def flowList : List Char → Except Fault RawModes
  | '[' :: rest =>
    match flowItems [] rest with
    | .error fault => .error fault
    | .ok items => .ok (RawModes.ofItems items)
  | _ => .ok .invalid

end CatalogAudit.Manifest.Line

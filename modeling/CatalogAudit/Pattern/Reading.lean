import CatalogAudit.Pattern.Basic
import CatalogAudit.Text.Escape
import CatalogAudit.Text.Letter

/-!
# Reading patterns

The written form of patterns. Flags between parentheses hold up to the end of the group in which
they stand. An opening brace always begins a count. References to groups, conditions on what
surrounds a match, and escapes without a meaning are refused.

Three things that can be written are refused here as well: classes by a property of characters
(`\p`), the flags `x` and `R`, and turning the flag `u` off, which would match by bytes.
-/

namespace CatalogAudit.Pattern

/-- What flags say. -/
structure Flags where
  /-- Letter case does not count. -/
  ignoreCase : Bool := false
  /-- Lines begin and end where the text does for conditions on places. -/
  multiLine : Bool := false
  /-- The dot stands for line feeds too. -/
  dotAll : Bool := false
  /-- Greed is exchanged. -/
  swapGreed : Bool := false

/-- A piece of a pattern, with the number of levels to which its written form is nested. -/
structure Piece where
  /-- The pattern that it stands for. -/
  pattern : Pattern
  /-- The number of levels. -/
  depth : Nat := 0

/-- The most levels to which a pattern is nested. -/
def depthLimit : Nat := 250

/-- What is known while a pattern is read. -/
structure Reader where
  /-- What is left of the pattern. -/
  rest : List Char
  /-- How many groups have begun. -/
  groups : Nat := 0
  /-- The names of groups. -/
  names : List (List Char) := []
  /-- The flags that hold. -/
  flags : Flags := {}

namespace Reader

/-- Goes on to what is left. -/
def goTo (r : Reader) (rest : List Char) : Reader := { r with rest }

end Reader

/-! ## Escapes -/

/-- What an escape stands for. -/
inductive Escape
  /-- A character. -/
  | char (c : Char)
  /-- A named class, or its complement. -/
  | set (a : CharSet)
  /-- A condition. -/
  | look (condition : Look)

/-- Whether a backslash before the character makes it stand for itself: ASCII without letters,
digits and angle brackets. -/
def standsForItself (c : Char) : Bool :=
  c.toNat < 0x80 && !Number.isDigit c && !('a' ≤ c && c ≤ 'z') && !('A' ≤ c && c ≤ 'Z')
    && c != '<' && c != '>'

/-- Characters written by a backslash and a letter. -/
def controlLetter? : Char → Option Char
  | 'a' => some '\x07'
  | 'f' => some '\x0c'
  | 't' => some '\t'
  | 'n' => some '\n'
  | 'r' => some '\r'
  | 'v' => some '\x0b'
  | _ => none

/-- Named classes written by a backslash and a letter. -/
def classLetter? : Char → Option CharSet
  | 'd' => some .digit
  | 'D' => some (.compl .digit)
  | 's' => some .blank
  | 'S' => some (.compl .blank)
  | 'w' => some .word
  | 'W' => some (.compl .word)
  | _ => none

/-- Conditions written by a backslash and a character. -/
def lookLetter? : Char → Option Look
  | 'A' => some .textStart
  | 'z' => some .textEnd
  | 'B' => some .noWordEdge
  | '<' => some .wordStart
  | '>' => some .wordEnd
  | _ => none

/-- Conditions on words that have a name within braces. -/
def wordCondition? (name : String) : Option Look :=
  match name with
  | "start" => some .wordStart
  | "end" => some .wordEnd
  | "start-half" => some .noWordBefore
  | "end-half" => some .noWordAfter
  | _ => none

/-- The character of a code point in hexadecimal. -/
def hexCharacter? (digits : List Char) : Option Char :=
  if Number.isDigitsOf 16 digits then Text.charOfCodePoint? (Number.readDigits 16 digits) else none

/-- Reads the number of a character: as many digits as the letter asks for, or any number of them
within braces. -/
def readHex? (width : Nat) (text : List Char) : Option (Char × List Char) :=
  match text with
  | '{' :: rest =>
    match rest.dropWhile (· != '}') with
    | [] => none
    | _ :: after => (hexCharacter? (rest.takeWhile (· != '}'))).map fun c => (c, after)
  | _ =>
    if text.length < width then none
    else (hexCharacter? (text.take width)).map fun c => (c, text.drop width)

/-- Reads what follows the letter of an edge of words: braces with the name of a condition, unless a
count follows instead. -/
def readWordEdge? (text : List Char) : Option (Look × List Char) :=
  let isNameCharacter (c : Char) : Bool := ('a' ≤ c && c ≤ 'z') || ('A' ≤ c && c ≤ 'Z') || c == '-'
  match text with
  | '{' :: rest =>
    match rest with
    | [] => none
    | c :: _ =>
      if isNameCharacter c then
        match rest.dropWhile isNameCharacter with
        | '}' :: after =>
          (wordCondition? (String.ofList (rest.takeWhile isNameCharacter))).map fun l => (l, after)
        | _ => none
      else some (.wordEdge, text)
  | _ => some (.wordEdge, text)

/-- Reads an escape behind its backslash. -/
def readEscape? (text : List Char) : Option (Escape × List Char) :=
  match text with
  | [] => none
  | c :: rest =>
    if c == 'b' then (readWordEdge? rest).map fun (l, rest) => (.look l, rest)
    else
      match Text.escapeWidth? c with
      | some width => (readHex? width rest).map fun (c, rest) => (.char c, rest)
      | none =>
        match classLetter? c, controlLetter? c, lookLetter? c with
        | some a, _, _ => some (.set a, rest)
        | _, some c, _ => some (.char c, rest)
        | _, _, some l => some (.look l, rest)
        | _, _, _ => if standsForItself c then some (.char c, rest) else none

/-! ## Sets within brackets -/

/-- Reads one item of a set: a character or an escape. -/
def readSetItem? (text : List Char) : Option (Escape × List Char) :=
  match text with
  | [] => none
  | '\\' :: rest => readEscape? rest
  | c :: rest => some (.char c, rest)

/-- Whether a hyphen at the beginning of a text makes a range. -/
def makesRange : List Char → Bool
  | '-' :: ']' :: _ => false
  | '-' :: '-' :: _ => false
  | '-' :: _ => true
  | _ => false

/-- Reads a range, or a single item. -/
def readRange? (text : List Char) : Option (CharSet × List Char) :=
  match readSetItem? text with
  | none => none
  | some (item, rest) =>
    if makesRange rest then
      match item, readSetItem? rest.tail with
      | .char first, some (.char last, rest) =>
        if first ≤ last then some (.range first last, rest) else none
      | _, _ => none
    else
      match item with
      | .char c => some (.single c, rest)
      | .set a => some (a, rest)
      | .look _ => none

/-- Reads a class of ASCII characters by name, between colons within brackets of its own. -/
def readNamedClass? (text : List Char) : Option (CharSet × List Char) :=
  match text with
  | '[' :: ':' :: rest =>
    let (negated, rest) : Bool × List Char :=
      match rest with
      | '^' :: rest => (true, rest)
      | _ => (false, rest)
    match rest.dropWhile (· != ':') with
    | ':' :: ']' :: after =>
      (CharSet.ascii? (String.ofList (rest.takeWhile (· != ':')))).map fun a =>
        (.withSign negated a, after)
    | _ => none
  | _ => none

/-- A set operation. -/
inductive SetOperation
  /-- What is in both sets. -/
  | inter
  /-- What is in the first set only. -/
  | diff
  /-- What is in exactly one of the sets. -/
  | symmDiff

/-- Carries an operation out. Where letter case does not count, both sets are completed before. -/
def SetOperation.apply (ignoreCase : Bool) (operation : SetOperation) (a b : CharSet) : CharSet :=
  let a := CharSet.withCase ignoreCase a
  let b := CharSet.withCase ignoreCase b
  match operation with
  | inter => .inter a b
  | diff => .diff a b
  | symmDiff => .symmDiff a b

/-- The operation whose sign begins a text. -/
def readOperation? : List Char → Option (SetOperation × List Char)
  | '&' :: '&' :: rest => some (.inter, rest)
  | '-' :: '-' :: rest => some (.diff, rest)
  | '~' :: '~' :: rest => some (.symmDiff, rest)
  | _ => none

/-- What has been read of a set within brackets. -/
structure SetReader where
  /-- What is left of the text. -/
  rest : List Char
  /-- The first operand and the operation, when one has been read. -/
  pending : Option (CharSet × SetOperation) := none
  /-- The union of the items since. -/
  items : CharSet := .none
  /-- How deeply sets are nested in it. -/
  depth : Nat := 0

namespace SetReader

/-- Adds a set to the items. -/
def add (s : SetReader) (a : CharSet) (rest : List Char) : SetReader :=
  { s with items := .union s.items a, rest }

/-- The set read so far. -/
def value (s : SetReader) (ignoreCase : Bool) : CharSet :=
  match s.pending with
  | none => s.items
  | some (a, operation) => operation.apply ignoreCase a s.items

/-- Reads the beginning of a set behind its bracket: the sign of a complement, then hyphens or a
closing bracket that stand for themselves. -/
def opening (text : List Char) : Bool × SetReader :=
  let (negated, text) : Bool × List Char :=
    match text with
    | '^' :: rest => (true, rest)
    | _ => (false, text)
  match text with
  | ']' :: rest => (negated, { rest, items := .single ']' })
  | _ =>
    let rest := text.dropWhile (· == '-')
    (negated, { rest, items := if rest.length < text.length then .single '-' else .none })

end SetReader

mutual

/-- Reads a set behind its opening bracket. The depth counts the levels of nested sets. -/
def readSet? (ignoreCase : Bool) : (fuel : Nat) → List Char → Option (CharSet × Nat × List Char)
  | 0, _ => none
  | fuel + 1, text =>
    let (negated, s) := SetReader.opening text
    match readItems? ignoreCase fuel s with
    | none => none
    | some s =>
      some (.withSign negated (.withCase ignoreCase (s.value ignoreCase)), s.depth + 1, s.rest)

/-- Reads the items of a set up to and with its closing bracket. -/
def readItems? (ignoreCase : Bool) : (fuel : Nat) → SetReader → Option SetReader
  | 0, _ => none
  | fuel + 1, s =>
    match s.rest with
    | [] => none
    | ']' :: rest => some { s with rest }
    | '[' :: rest =>
      match readNamedClass? s.rest with
      | some (a, rest) => readItems? ignoreCase fuel (s.add a rest)
      | none =>
        match readSet? ignoreCase fuel rest with
        | none => none
        | some (a, depth, rest) =>
          readItems? ignoreCase fuel ({ s with depth := max s.depth depth }.add a rest)
    | text =>
      match readOperation? text with
      | some (operation, rest) =>
        readItems? ignoreCase fuel
          { s with rest, pending := some (s.value ignoreCase, operation), items := .none }
      | none =>
        match readRange? text with
        | none => none
        | some (a, rest) => readItems? ignoreCase fuel (s.add a rest)

end

/-! ## Repetitions -/

/-- How often a pattern is repeated. -/
structure Count where
  /-- The least number. -/
  least : Nat
  /-- The greatest number, if there is one. -/
  most : Option Nat

/-- The greatest number that may be written. -/
def countLimit : Nat := Nat.pow 2 32

/-- Reads a number with blanks around it. -/
def readCountNumber? (text : List Char) : Option (Nat × List Char) :=
  let text := Text.trimStart text
  let digits := text.takeWhile Number.isDigit
  let n := Number.readDigits 10 digits
  if digits.isEmpty || countLimit ≤ n then none
  else some (n, Text.trimStart (text.dropWhile Number.isDigit))

/-- Reads a count behind its opening brace. -/
def readCount? (text : List Char) : Option (Count × List Char) :=
  match readCountNumber? text with
  | none => none
  | some (least, rest) =>
    match rest with
    | '}' :: rest => some (⟨least, some least⟩, rest)
    | ',' :: '}' :: rest => some (⟨least, none⟩, rest)
    | ',' :: rest =>
      match readCountNumber? rest with
      | some (most, '}' :: rest) => if least ≤ most then some (⟨least, some most⟩, rest) else none
      | _ => none
    | _ => none

/-- Reads the sign of a repetition at the beginning of a text: `none` when there is none, and
`some none` when it cannot be read. -/
def readRepetition (text : List Char) : Option (Option (Count × List Char)) :=
  match text with
  | '?' :: rest => some (some (⟨0, some 1⟩, rest))
  | '*' :: rest => some (some (⟨0, none⟩, rest))
  | '+' :: rest => some (some (⟨1, none⟩, rest))
  | '{' :: rest => some (readCount? rest)
  | _ => none

/-- Repeats a piece as a sign says, at whose end a question mark exchanges the greed. -/
def repeatPiece (flags : Flags) (count : Count) (rest : List Char) (p : Piece) :
    Piece × List Char :=
  let (lazy, rest) : Bool × List Char :=
    match rest with
    | '?' :: rest => (true, rest)
    | _ => (false, rest)
  ({ pattern := repetition count.least count.most (lazy == flags.swapGreed) p.pattern
     depth := p.depth + 1 }, rest)

/-! ## Groups -/

/-- A flag that has been read: its letter, and whether it is switched on. -/
structure FlagItem where
  /-- The letter. -/
  letter : Char
  /-- Whether the flag is switched on. -/
  on : Bool

/-- Reads flags up to a colon or a closing parenthesis, after those in `items`. No letter comes
twice, and neither does the hyphen that switches the flags behind it off; a flag must follow it. -/
def readFlags? (negated dangling : Bool) (items : List FlagItem) :
    List Char → Option (List FlagItem × List Char)
  | [] => none
  | c :: rest =>
    if c == ':' || c == ')' then if dangling then none else some (items, c :: rest)
    else if c == '-' then if negated then none else readFlags? true true items rest
    else if (items.any fun item => item.letter == c) then none
    else if c == 'i' || c == 'm' || c == 's' || c == 'U' || (c == 'u' && !negated) then
      readFlags? negated false ({ letter := c, on := !negated } :: items) rest
    else none

/-- Sets a flag. -/
def Flags.set (flags : Flags) (item : FlagItem) : Flags :=
  match item.letter with
  | 'i' => { flags with ignoreCase := item.on }
  | 'm' => { flags with multiLine := item.on }
  | 's' => { flags with dotAll := item.on }
  | 'U' => { flags with swapGreed := item.on }
  | _ => flags

/-- Whether a character may stand in the name of a group. -/
def isGroupNameCharacter (c : Char) : Bool :=
  c == '_' || c == '.' || c == '[' || c == ']' || Text.isLetterOrNumeral c

/-- Reads the name of a group up to and with its closing angle bracket. -/
def readGroupName? (text : List Char) : Option (List Char × List Char) :=
  let name := text.takeWhile (· != '>')
  match name, text.dropWhile (· != '>') with
  | first :: others, _ :: rest =>
    if (first == '_' || Text.isLetter first) && others.all isGroupNameCharacter then
      some (name, rest)
    else none
  | _, _ => none

/-- How a group begins. -/
inductive GroupStart
  /-- A group that remembers its match under a number. -/
  | numbered (number : Nat)
  /-- A group for the sake of the parentheses, and the flags that hold in it. -/
  | plain (flags : Flags)
  /-- No group, but flags for what follows. -/
  | flags (flags : Flags)

/-- Begins a group that remembers its match. -/
def Reader.nextGroup (r : Reader) (rest : List Char) : GroupStart × Reader :=
  (.numbered (r.groups + 1), { r with groups := r.groups + 1, rest })

/-- Begins a group with a name, which no other group has. -/
def Reader.namedGroup? (r : Reader) (text : List Char) : Option (GroupStart × Reader) :=
  match readGroupName? text with
  | none => none
  | some (name, rest) =>
    if r.names.contains name then none
    else some ({ r with names := name :: r.names }.nextGroup rest)

/-- Reads the beginning of a group behind its opening parenthesis. -/
def readGroupStart? (r : Reader) (text : List Char) : Option (GroupStart × Reader) :=
  match text with
  | '?' :: '=' :: _ => none
  | '?' :: '!' :: _ => none
  | '?' :: '<' :: '=' :: _ => none
  | '?' :: '<' :: '!' :: _ => none
  | '?' :: 'P' :: '<' :: rest => r.namedGroup? rest
  | '?' :: '<' :: rest => r.namedGroup? rest
  | '?' :: rest =>
    match readFlags? false false [] rest with
    | some (items, ':' :: rest) => some (.plain (items.foldl Flags.set r.flags), r.goTo rest)
    | some (items, _ :: rest) =>
      if items.isEmpty then none else some (.flags (items.foldl Flags.set r.flags), r.goTo rest)
    | _ => none
  | _ => some (r.nextGroup text)

/-! ## Patterns -/

/-- The pieces of a sequence, which are given backwards. -/
def sequenceOf (pieces : List Piece) : Piece :=
  match pieces with
  | [] => { pattern := .empty }
  | [p] => p
  | _ =>
    { pattern := .seqOf (pieces.reverse.map (·.pattern))
      depth := 1 + pieces.foldl (fun depth p => max depth p.depth) 0 }

/-- The branches of a choice, which are given backwards. -/
def choiceOf (branches : List Piece) : Piece :=
  match branches with
  | [p] => p
  | _ =>
    { pattern := .altOf (branches.reverse.map (·.pattern))
      depth := 1 + branches.foldl (fun depth p => max depth p.depth) 0 }

/-- What a character without a meaning of its own, a dot or a condition stands for. -/
def simplePiece (flags : Flags) (c : Char) : Pattern :=
  match c with
  | '.' => .one (if flags.dotAll then .any else .anyOnLine)
  | '^' => .look (if flags.multiLine then .lineStart else .textStart)
  | '$' => .look (if flags.multiLine then .lineEnd else .textEnd)
  | _ => .one (.withCase flags.ignoreCase (.single c))

/-- What an escape stands for. -/
def escapePiece (flags : Flags) : Escape → Pattern
  | .char c => .one (.withCase flags.ignoreCase (.single c))
  | .set a => .one a
  | .look l => .look l

mutual

/-- Reads on in a sequence after `pieces`, which are backwards, up to the end of the branch.
`repeatable` says whether a repetition may follow. -/
def readSequence? : (fuel : Nat) → (pieces : List Piece) → (repeatable : Bool) → Reader →
    Option (Piece × Reader)
  | 0, _, _, _ => none
  | fuel + 1, pieces, repeatable, r =>
    match readRepetition r.rest with
    | some none => none
    | some (some (count, rest)) =>
      match pieces with
      | [] => none
      | p :: others =>
        if repeatable then
          let (p, rest) := repeatPiece r.flags count rest p
          readSequence? fuel (p :: others) true (r.goTo rest)
        else none
    | none =>
      match r.rest with
      | [] => some (sequenceOf pieces, r)
      | '|' :: _ => some (sequenceOf pieces, r)
      | ')' :: _ => some (sequenceOf pieces, r)
      | '(' :: rest =>
        match readGroupStart? r rest with
        | none => none
        | some (.flags flags, r) => readSequence? fuel pieces false { r with flags }
        | some (start, inner) =>
          let flags :=
            match start with
            | .plain flags => flags
            | _ => r.flags
          match readChoice? fuel [] { inner with flags } with
          | none => none
          | some (p, inner) =>
            match inner.rest with
            | ')' :: rest =>
              let pattern : Pattern :=
                match start with
                | .numbered number => .group number p.pattern
                | _ => p.pattern
              readSequence? fuel ({ pattern, depth := p.depth + 1 } :: pieces) true
                { inner with rest, flags := r.flags }
            | _ => none
      | '[' :: rest =>
        match readSet? r.flags.ignoreCase fuel rest with
        | none => none
        | some (a, depth, rest) =>
          readSequence? fuel ({ pattern := .one a, depth } :: pieces) true (r.goTo rest)
      | '\\' :: rest =>
        match readEscape? rest with
        | none => none
        | some (e, rest) =>
          readSequence? fuel ({ pattern := escapePiece r.flags e } :: pieces) true (r.goTo rest)
      | c :: rest =>
        readSequence? fuel ({ pattern := simplePiece r.flags c } :: pieces) true (r.goTo rest)

/-- Reads on in a choice after `branches`, which are backwards. -/
def readChoice? : (fuel : Nat) → (branches : List Piece) → Reader → Option (Piece × Reader)
  | 0, _, _ => none
  | fuel + 1, branches, r =>
    match readSequence? fuel [] false r with
    | none => none
    | some (p, r) =>
      match r.rest with
      | '|' :: rest => readChoice? fuel (p :: branches) (r.goTo rest)
      | _ => some (choiceOf (p :: branches), r)

end

/-- The pattern that a text writes, if it writes one that is neither nested too deeply nor too
large. -/
def ofText? (text : List Char) : Option Pattern :=
  match readChoice? (2 * text.length + 4) [] { rest := text } with
  | none => none
  | some (p, r) =>
    if r.rest.isEmpty && p.depth ≤ depthLimit && p.pattern.size ≤ sizeLimit then some p.pattern
    else none

end CatalogAudit.Pattern

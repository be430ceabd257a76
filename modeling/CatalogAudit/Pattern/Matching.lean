import CatalogAudit.Pattern.Basic

/-!
# Matching

From a place in a text a pattern leads to certain later places; of two ways to the same place only
the preferred one counts. The places come in the order of preference: the first branch of a choice
before the second, and more repetitions before fewer when a repetition is greedy. The match of a
pattern at a place is the way to the first of them, and its first match in a text is the one that
begins earliest. A repetition never goes on after a round in which it got no further.
-/

namespace CatalogAudit.Pattern

/-- A place in a text. -/
structure Place where
  /-- How many characters came before. -/
  position : Nat := 0
  /-- The character before the place, if any. -/
  before : Option Char := none
  /-- The text behind the place. -/
  rest : List Char

namespace Place

/-- The place behind the next character `c`, with `rest` left. -/
def past (p : Place) (c : Char) (rest : List Char) : Place :=
  { position := p.position + 1, before := some c, rest }

/-- Whether a word character stands before the place. -/
def wordBefore (p : Place) : Bool := p.before.any Text.isWordCharacter

/-- Whether a word character stands behind the place. -/
def wordAfter (p : Place) : Bool := p.rest.head?.any Text.isWordCharacter

end Place

/-- Whether a condition holds at a place. -/
def Look.holds (p : Place) : Look → Bool
  | textStart => p.before.isNone
  | textEnd => p.rest.isEmpty
  | lineStart => p.before.all (· == '\n')
  | lineEnd => p.rest.head?.all (· == '\n')
  | wordEdge => p.wordBefore != p.wordAfter
  | noWordEdge => p.wordBefore == p.wordAfter
  | wordStart => !p.wordBefore && p.wordAfter
  | wordEnd => p.wordBefore && !p.wordAfter
  | noWordBefore => !p.wordBefore
  | noWordAfter => !p.wordAfter

/-- A stretch of a text. -/
structure Stretch where
  /-- The text from its beginning on. -/
  rest : List Char
  /-- The number of its characters. -/
  length : Nat

/-- The text of a stretch. -/
def Stretch.text (s : Stretch) : List Char := s.rest.take s.length

/-- A way through a text: where it has come to, and what the first group has matched on it. -/
structure Trail where
  /-- The place reached. -/
  place : Place
  /-- The last match of the first group. -/
  first : Option Stretch := none

namespace Trail

/-- The trails among those given whose places differ from that of every earlier one. `seen` has the
bits of the positions that were reached before. -/
def distinctFrom (seen : Nat) : List Trail → List Trail
  | [] => []
  | t :: rest =>
    if seen.testBit t.place.position then distinctFrom seen rest
    else t :: distinctFrom (seen ||| 1 <<< t.place.position) rest

/-- The trails among those given whose places differ from that of every earlier one. -/
def distinct (trails : List Trail) : List Trail :=
  match trails with
  | [] => []
  | [t] => [t]
  | trails => distinctFrom 0 trails

end Trail

/-- The trails that lead over characters of a set, the longest first, before those of `found`; at
most as many characters as `most` says, and at least `least`. -/
def runs (set : CharSet) (least : Nat) :
    (most : Option Nat) → (found : List Trail) → Trail → List Char → List Trail
  | most, found, t, rest =>
    let found := if least = 0 then t :: found else found
    match rest with
    | [] => found
    | c :: rest =>
      if most ≠ some 0 && set.contains c then
        runs set (least - 1) (most.map (· - 1)) found { t with place := t.place.past c rest } rest
      else found

/-- The trails from `t` after exactly `count` rounds. -/
def rounds (round : Trail → List Trail) : (count : Nat) → List Trail → List Trail
  | 0, trails => trails
  | count + 1, trails => rounds round count (Trail.distinct (trails.flatMap round))

/-- What a search among repetitions has come to. -/
structure Search where
  /-- The bits of what has been visited. -/
  seen : Nat := 0
  /-- The trails found, the last first. -/
  found : List Trail := []

/-- Visits a place at which a round has ended: goes on with more rounds from there, and ends the
repetition there. No round begins at position `start`, where the first has begun. -/
def visitUnlimited (round : Trail → List Trail) (greedy : Bool) (start : Nat) :
    (fuel : Nat) → Search → Trail → Search
  | 0, s, _ => s
  | fuel + 1, s, t =>
    let position := t.place.position
    if s.seen.testBit position then s
    else
      let s : Search := { s with seen := s.seen ||| 1 <<< position }
      let onward (s : Search) : Search :=
        if position = start then s
        else
          (round t).foldl
            (fun s u =>
              if position < u.place.position then visitUnlimited round greedy start fuel s u else s)
            s
      if greedy then
        let s := onward s
        { s with found := t :: s.found }
      else onward { s with found := t :: s.found }

/-- The trails from `t` after one or more rounds. -/
def someRounds (round : Trail → List Trail) (greedy : Bool) (t : Trail) : List Trail :=
  let fuel := t.place.rest.length + 2
  let s : Search :=
    (round t).foldl (fun s u => visitUnlimited round greedy t.place.position fuel s u) {}
  s.found.reverse

/-- Visits a place from which up to `more` rounds may follow. A place is visited once for each
number of rounds left; `span` is greater than any of them, and positions count from `start`. -/
def visitLimited (round : Trail → List Trail) (greedy : Bool) (start span : Nat) :
    (more : Nat) → Search → Trail → Search
  | 0, s, t => { s with found := t :: s.found }
  | more + 1, s, t =>
    let mark := (t.place.position - start) * span + more
    if s.seen.testBit mark then s
    else
      let s : Search := { s with seen := s.seen ||| 1 <<< mark }
      let onward (s : Search) : Search :=
        (round t).foldl (fun s u => visitLimited round greedy start span more s u) s
      if greedy then
        let s := onward s
        { s with found := t :: s.found }
      else onward { s with found := t :: s.found }

/-- The trails from `t` after up to `most` rounds. -/
def upToRounds (round : Trail → List Trail) (greedy : Bool) (most : Nat) (t : Trail) : List Trail :=
  (visitLimited round greedy t.place.position (most + 1) most {} t).found.reverse

/-- The trails from `t` after a number of rounds that a repetition allows. -/
def repeatedTrails (round : Trail → List Trail) (least : Nat) (most : Option Nat) (greedy : Bool)
    (t : Trail) : List Trail :=
  match least, most with
  | 0, none =>
    let more := someRounds round greedy t
    Trail.distinct (if greedy then more ++ [t] else t :: more)
  | least + 1, none =>
    Trail.distinct ((rounds round least [t]).flatMap (someRounds round greedy))
  | least, some most =>
    Trail.distinct ((rounds round least [t]).flatMap (upToRounds round greedy (most - least)))

/-- The set of a pattern that is one character of a set. -/
def set? : Pattern → Option CharSet
  | one set => some set
  | _ => none

/-- The trails on which a pattern leads on from `t`, in the order of preference. -/
def trails : Pattern → Trail → List Trail
  | empty, t => [t]
  | one set, t =>
    match t.place.rest with
    | [] => []
    | c :: rest => if set.contains c then [{ t with place := t.place.past c rest }] else []
  | look condition, t => if condition.holds t.place then [t] else []
  | group number p, t =>
    (p.trails t).map fun u =>
      if number = 1 then
        { u with first := some ⟨t.place.rest, u.place.position - t.place.position⟩ }
      else u
  | seq p q, t => Trail.distinct ((p.trails t).flatMap q.trails)
  | alt p q, t => Trail.distinct (p.trails t ++ q.trails t)
  | repeated least most greedy p, t =>
    match p.set? with
    | some set =>
      let longestFirst := runs set least most [] t t.place.rest
      if greedy then longestFirst else longestFirst.reverse
    | none => repeatedTrails p.trails least most greedy t

/-- A match of a pattern. -/
structure Match where
  /-- The position at which it begins. -/
  start : Nat
  /-- The way through it. -/
  trail : Trail

/-- The text that the first group has matched. -/
def Match.group? (m : Match) : Option (List Char) := m.trail.first.map Stretch.text

/-- The first match that begins at `place` or behind it, where `rest` is left. -/
def findFrom? (p : Pattern) : (place : Place) → (rest : List Char) → Option Match
  | place, rest =>
    match (p.trails { place }).head? with
    | some trail => some { start := place.position, trail }
    | none =>
      match rest with
      | [] => none
      | c :: rest => p.findFrom? (place.past c rest) rest

/-- The first match in a text. -/
def find? (p : Pattern) (text : List Char) : Option Match := p.findFrom? { rest := text } text

/-- The next match from the end of the last on. An empty match there does not count; instead the
search begins anew one character further. -/
def findNext? (p : Pattern) (lastEnd : Option Nat) (place : Place) : Option Match :=
  match p.findFrom? place place.rest with
  | none => none
  | some m =>
    if m.start = m.trail.place.position && lastEnd = some m.start then
      match place.rest with
      | [] => none
      | c :: rest => p.findFrom? (place.past c rest) rest
    else some m

/-- The matches from a place on, the last of which ended at `lastEnd`. Every match but the first
ends behind the one before, so that there are no more of them than characters, and two. -/
def findAllFrom (p : Pattern) : (fuel : Nat) → (lastEnd : Option Nat) → Place → List Match
  | 0, _, _ => []
  | fuel + 1, lastEnd, place =>
    match p.findNext? lastEnd place with
    | none => []
    | some m => m :: p.findAllFrom fuel (some m.trail.place.position) m.trail.place

/-- All matches in a text, one after another and without overlap. -/
def findAll (p : Pattern) (text : List Char) : List Match :=
  p.findAllFrom (text.length + 2) none { rest := text }

end CatalogAudit.Pattern

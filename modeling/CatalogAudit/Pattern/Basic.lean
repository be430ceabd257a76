import CatalogAudit.Pattern.CharSet

/-!
# Text patterns

A pattern describes texts: characters of a set, conditions on the place, and sequences, choices and
repetitions of patterns. A group remembers the text that it has matched; groups are numbered from
one by their opening parentheses.
-/

namespace CatalogAudit

namespace Pattern

/-- A condition on a place between two characters. -/
inductive Look
  /-- The text begins here. -/
  | textStart
  /-- The text ends here. -/
  | textEnd
  /-- A line begins here. -/
  | lineStart
  /-- A line ends here. -/
  | lineEnd
  /-- A word begins or ends here. -/
  | wordEdge
  /-- No word begins or ends here. -/
  | noWordEdge
  /-- A word begins here. -/
  | wordStart
  /-- A word ends here. -/
  | wordEnd
  /-- There is no word character before the place. -/
  | noWordBefore
  /-- There is no word character behind the place. -/
  | noWordAfter
deriving DecidableEq, Repr

end Pattern

/-- A pattern. -/
inductive Pattern
  /-- The empty text. -/
  | empty
  /-- One character of a set. -/
  | one (set : Pattern.CharSet)
  /-- The empty text at certain places. -/
  | look (condition : Pattern.Look)
  /-- A pattern whose match is remembered under a number. -/
  | group (number : Nat) (p : Pattern)
  /-- One pattern after another. -/
  | seq (p q : Pattern)
  /-- One pattern or, failing that, another. -/
  | alt (p q : Pattern)
  /-- A pattern at least `least` times and, if there is a limit, at most `most` times; as often as
  possible when `greedy` holds, and else as seldom as possible. -/
  | repeated (least : Nat) (most : Option Nat) (greedy : Bool) (p : Pattern)
deriving DecidableEq, Repr

namespace Pattern

/-- The greatest number of a group. -/
def groupCount : Pattern → Nat
  | empty => 0
  | one _ => 0
  | look _ => 0
  | group number p => max number p.groupCount
  | seq p q => max p.groupCount q.groupCount
  | alt p q => max p.groupCount q.groupCount
  | repeated _ _ _ p => p.groupCount

/-- The size of a set when sequences of bytes are told apart: as many as a single character takes,
and one for anything else. -/
def CharSet.size : CharSet → Nat
  | .range first last => if first = last then first.utf8Size else 1
  | _ => 1

/-- The size of a pattern once repetitions with limits are written out. -/
def size : Pattern → Nat
  | empty => 1
  | one set => set.size
  | look _ => 1
  | group _ p => p.size + 2
  | seq p q => p.size + q.size
  | alt p q => p.size + q.size + 1
  | repeated least most _ p =>
    match most with
    | none => max least 1 * p.size + 1
    | some most => least * p.size + (most - least) * (p.size + 1) + 1

/-- The greatest size that a pattern may have. -/
def sizeLimit : Nat := 327680

/-- The patterns of a list one after another. -/
def seqOf : List Pattern → Pattern
  | [] => empty
  | [p] => p
  | p :: rest => seq p (seqOf rest)

/-- A choice between the patterns of a list. -/
def altOf : List Pattern → Pattern
  | [] => empty
  | [p] => p
  | p :: rest => alt p (altOf rest)

/-- A repetition. Of a pattern that is not repeated at all nothing remains, its groups included. -/
def repetition (least : Nat) (most : Option Nat) (greedy : Bool) (p : Pattern) : Pattern :=
  if most = some 0 then empty else repeated least most greedy p

end Pattern

end CatalogAudit

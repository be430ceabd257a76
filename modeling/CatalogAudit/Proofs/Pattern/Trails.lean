import CatalogAudit.Pattern.Matching
import Mathlib.Data.List.Induction

/-!
# Where patterns lead

What the trails of a pattern have passed over: one character, a stretch of characters of a set, or
what the parts of a sequence pass over one after the other. The order of trails only counts when
they lead to different places, so for a pattern that leads to one place it is enough to know which
trails there are. A search skips every place from which no trail begins.
-/

namespace CatalogAudit.Pattern

/-! ## Passing over text -/

/-- The place behind a stretch of the text that follows. -/
def Place.across (place : Place) (stretch : List Char) : Place :=
  { position := place.position + stretch.length
    before := stretch.getLast?.or place.before
    rest := place.rest.drop stretch.length }

/-- The trail that goes on over a stretch of the text that follows. -/
def Trail.across (t : Trail) (stretch : List Char) : Trail :=
  { t with place := t.place.across stretch }

variable {place : Place} {t u v : Trail} {c : Char} {text stretch more rest : List Char}
  {set : CharSet} {p q : Pattern}

namespace Place

/-- To pass nothing is to stay. -/
@[simp]
theorem across_nil (place : Place) : place.across [] = place := rfl

/-- A stretch is passed from its first character on. -/
theorem across_cons (h : place.rest = c :: rest) (stretch : List Char) :
    place.across (c :: stretch) = (place.past c rest).across stretch := by
  have last : (c :: stretch).getLast?.or place.before =
      stretch.getLast?.or (some c) := by
    cases stretch using List.reverseRecOn with
    | nil => rfl
    | append_singleton front d =>
      rw [← List.cons_append, List.getLast?_concat, List.getLast?_concat]
      rfl
  unfold across past
  rw [last, h, List.length_cons, List.drop_succ_cons]
  simp only [Nat.add_comm stretch.length 1, Nat.add_assoc]

/-- Two stretches are passed one after the other. -/
theorem across_append (place : Place) (stretch more : List Char) :
    place.across (stretch ++ more) = (place.across stretch).across more := by
  unfold across
  simp only [List.length_append, Nat.add_assoc, List.drop_drop, List.getLast?_append,
    Option.or_assoc]

/-- Behind a stretch comes the rest of the text. -/
theorem rest_across (h : place.rest = stretch ++ more) : (place.across stretch).rest = more := by
  rw [across, h, List.drop_left]

end Place

namespace Trail

/-- A trail passes two stretches one after the other. -/
theorem across_append (t : Trail) (stretch more : List Char) :
    t.across (stretch ++ more) = (t.across stretch).across more := by
  unfold across
  rw [Place.across_append]

/-- Behind a stretch that a trail passed comes the rest of the text. -/
theorem rest_across (h : t.place.rest = stretch ++ more) : (t.across stretch).place.rest = more :=
  Place.rest_across h

/-! ## Trails to different places -/

/-- Among the trails that remain there is none that was not there. -/
theorem mem_of_mem_distinctFrom {seen : Nat} {trails : List Trail}
    (member : t ∈ distinctFrom seen trails) : t ∈ trails := by
  induction trails generalizing seen with
  | nil => exact member
  | cons first trails ih =>
    unfold distinctFrom at member
    split at member
    · exact List.mem_cons_of_mem _ (ih member)
    · rcases List.mem_cons.mp member with rfl | member
      · exact List.mem_cons_self
      · exact List.mem_cons_of_mem _ (ih member)

/-- To keep different places only adds no trail. -/
theorem mem_of_mem_distinct {trails : List Trail} (member : t ∈ distinct trails) : t ∈ trails := by
  unfold distinct at member
  split at member
  · exact member
  · exact member
  · exact mem_of_mem_distinctFrom member

/-- Of trails there remains at least the first. -/
theorem distinct_ne_nil {trails : List Trail} (filled : trails ≠ []) : distinct trails ≠ [] := by
  unfold distinct
  split
  · exact filled
  · exact filled
  · obtain ⟨first, trails, rfl⟩ := List.exists_cons_of_ne_nil filled
    simp [distinctFrom]

end Trail

/-! ## Trails of patterns -/

/-- A set of characters passes over one character that it contains. -/
theorem mem_trails_one :
    u ∈ (one set).trails t ↔
      ∃ c rest, t.place.rest = c :: rest ∧ set.contains c = true ∧ u = t.across [c] := by
  unfold trails
  cases text : t.place.rest with
  | nil => simp
  | cons c rest =>
    have across : t.across [c] = { t with place := t.place.past c rest } := by
      rw [Trail.across, Place.across_cons text, Place.across_nil]
    by_cases inside : set.contains c = true <;> simp [inside, across]

/-- Where no character of a set follows, there is no stretch of them to pass over. -/
theorem exists_stretch_iff_of_stop {least : Nat} (stop : ∀ c ∈ text.head?, set.contains c = false) :
    (∃ stretch rest, text = stretch ++ rest ∧ (∀ c ∈ stretch, set.contains c = true) ∧
      least ≤ stretch.length ∧ u = t.across stretch) ↔ least = 0 ∧ u = t := by
  constructor
  · rintro ⟨stretch, rest, split, all, enough, rfl⟩
    cases stretch with
    | nil => exact ⟨Nat.le_zero.mp enough, rfl⟩
    | cons c stretch =>
      have outside := stop c (by rw [split]; rfl)
      rw [(List.forall_mem_cons.mp all).1] at outside
      contradiction
  · rintro ⟨enough, rfl⟩
    exact ⟨[], text, rfl, List.forall_mem_nil _, by simp [enough], rfl⟩

/-- The trails over characters of a set pass over a stretch of them. -/
theorem mem_runs {least : Nat} {found : List Trail} (h : t.place.rest = text) :
    u ∈ runs set least none found t text ↔
      u ∈ found ∨ ∃ stretch rest, text = stretch ++ rest ∧
        (∀ c ∈ stretch, set.contains c = true) ∧ least ≤ stretch.length ∧ u = t.across stretch := by
  have here : ∀ {t : Trail} {least : Nat} {found : List Trail},
      u ∈ (if least = 0 then t :: found else found) ↔ u ∈ found ∨ least = 0 ∧ u = t := by
    intro t least found
    by_cases enough : least = 0 <;> simp [enough, or_comm]
  induction text generalizing least found t with
  | nil =>
    unfold runs
    dsimp only
    rw [here, exists_stretch_iff_of_stop (by simp)]
  | cons c text ih =>
    have across : ∀ stretch, Trail.across { t with place := t.place.past c text } stretch =
        t.across (c :: stretch) := fun stretch => by
      rw [Trail.across, Trail.across, Place.across_cons h]
    have onward : u ∈ runs set (least - 1) none (if least = 0 then t :: found else found)
        { t with place := t.place.past c text } text ↔ _ := ih rfl
    unfold runs
    dsimp only
    rw [Option.map_none]
    by_cases inside : set.contains c = true
    · rw [if_pos (by simp [inside]), onward, here, or_assoc]
      refine or_congr_right ⟨?_, ?_⟩
      · rintro (⟨enough, rfl⟩ | ⟨stretch, rest, rfl, all, enough, rfl⟩)
        · exact ⟨[], c :: text, rfl, by simp, by simp [enough], rfl⟩
        · refine ⟨c :: stretch, rest, rfl, List.forall_mem_cons.mpr ⟨inside, all⟩, ?_,
            across stretch⟩
          rw [List.length_cons]
          omega
      · rintro ⟨stretch, rest, split, all, enough, rfl⟩
        cases stretch with
        | nil => exact .inl ⟨Nat.le_zero.mp enough, rfl⟩
        | cons d stretch =>
          obtain ⟨rfl, rfl⟩ := List.cons.inj split
          rw [List.length_cons] at enough
          exact .inr ⟨stretch, rest, rfl, (List.forall_mem_cons.mp all).2, by omega,
            (across stretch).symm⟩
    · rw [if_neg (by simp [inside]), here, exists_stretch_iff_of_stop (by simpa using inside)]

/-- Characters of a set, at least a given number of them. -/
def many (least : Nat) (set : CharSet) : Pattern := repeated least none true (one set)

/-- A repeated set passes over stretches of its characters that are long enough. -/
theorem mem_trails_many {least : Nat} :
    u ∈ (many least set).trails t ↔ ∃ stretch rest, t.place.rest = stretch ++ rest ∧
      (∀ c ∈ stretch, set.contains c = true) ∧ least ≤ stretch.length ∧ u = t.across stretch := by
  have runs : (many least set).trails t = runs set least none [] t t.place.rest := by
    simp [many, trails, set?]
  rw [runs, mem_runs rfl]
  simp

/-- The first group goes where its pattern goes, and keeps what was passed over. -/
theorem mem_trails_group :
    u ∈ (group 1 p).trails t ↔ ∃ v ∈ p.trails t,
      u = { v with first := some ⟨t.place.rest, v.place.position - t.place.position⟩ } := by
  simp [trails, eq_comm]

/-- A trail of a sequence goes on where a trail of its first part ends. -/
theorem exists_of_mem_trails_seq (member : u ∈ (seq p q).trails t) :
    ∃ v ∈ p.trails t, u ∈ q.trails v := by
  unfold trails at member
  exact List.mem_flatMap.mp (Trail.mem_of_mem_distinct member)

/-- A sequence leads on when its second pattern does from where its first one leads. -/
theorem trails_seq_ne_nil (member : v ∈ p.trails t) (filled : q.trails v ≠ []) :
    (seq p q).trails t ≠ [] := by
  unfold trails
  refine Trail.distinct_ne_nil fun none => filled ?_
  exact List.flatMap_eq_nil_iff.mp none v member

/-! ## Given characters -/

/-- A given character. -/
def char (c : Char) : Pattern := one (.single c)

/-- The set of one character contains that one only. -/
theorem contains_single {c d : Char} : (CharSet.single c).contains d = true ↔ d = c := by
  rw [CharSet.single, CharSet.contains, Bool.and_eq_true, decide_eq_true_eq, decide_eq_true_eq]
  exact ⟨fun h => Char.le_antisymm h.2 h.1, fun h => h ▸ ⟨Char.le_refl _, Char.le_refl _⟩⟩

/-- A given character passes over itself. -/
theorem mem_trails_char :
    u ∈ (char c).trails t ↔ ∃ rest, t.place.rest = c :: rest ∧ u = t.across [c] := by
  rw [char, mem_trails_one]
  constructor
  · rintro ⟨d, rest, text, inside, rfl⟩
    rw [contains_single] at inside
    exact ⟨rest, inside ▸ text, inside ▸ rfl⟩
  · rintro ⟨rest, text, rfl⟩
    exact ⟨c, rest, text, contains_single.mpr rfl, rfl⟩

/-- The characters of a word, and then a pattern. -/
def spelled (word : List Char) (p : Pattern) : Pattern := word.foldr (fun c q => seq (char c) q) p

/-- A trail that begins with a word passes over it. -/
theorem exists_of_mem_trails_spelled {word : List Char} (member : u ∈ (spelled word p).trails t) :
    ∃ rest, t.place.rest = word ++ rest ∧ u ∈ p.trails (t.across word) := by
  induction word generalizing t with
  | nil => exact ⟨_, rfl, member⟩
  | cons c word ih =>
    obtain ⟨v, first, member⟩ := exists_of_mem_trails_seq member
    obtain ⟨rest, text, rfl⟩ := mem_trails_char.mp first
    obtain ⟨more, behind, member⟩ := ih member
    have next : (t.across [c]).place.rest = rest := Trail.rest_across text
    rw [next] at behind
    rw [← Trail.across_append] at member
    exact ⟨more, by rw [text, behind, List.cons_append], member⟩

/-- A word leads on when the pattern behind it does. -/
theorem trails_spelled_ne_nil {word : List Char} (text : t.place.rest = word ++ rest)
    (filled : p.trails (t.across word) ≠ []) : (spelled word p).trails t ≠ [] := by
  induction word generalizing t with
  | nil => exact filled
  | cons c word ih =>
    refine trails_seq_ne_nil (mem_trails_char.mpr ⟨_, text, rfl⟩) (ih (Trail.rest_across text) ?_)
    rwa [← Trail.across_append]

/-! ## Searching -/

/-- A match begins where a trail begins. -/
theorem findFrom?_of_head? (first : (p.trails { place }).head? = some t) (text : List Char) :
    p.findFrom? place text = some ⟨place.position, t⟩ := by
  unfold findFrom?
  rw [first]

/-- Where no trail begins, a search goes on. -/
theorem findFrom?_append (text : place.rest = stretch ++ rest)
    (none : ∀ front back, stretch = front ++ back → back ≠ [] →
      p.trails { place := place.across front } = []) :
    p.findFrom? place place.rest = p.findFrom? (place.across stretch) rest := by
  rw [text]
  induction stretch generalizing place with
  | nil => rfl
  | cons c stretch ih =>
    have here : p.trails { place } = [] := none [] (c :: stretch) rfl (List.cons_ne_nil _ _)
    have next : ∀ front, place.across (c :: front) =
        (place.past c (stretch ++ rest)).across front := Place.across_cons text
    rw [next, List.cons_append, findFrom?, here]
    refine ih rfl fun front back split some => ?_
    rw [← next]
    exact none (c :: front) back (congrArg (c :: ·) split) some

/-- A match that is not empty is the next one. -/
theorem findNext?_of_findFrom? {m : Match} {lastEnd : Option Nat}
    (found : p.findFrom? place place.rest = some m) (filled : m.start ≠ m.trail.place.position) :
    p.findNext? lastEnd place = some m := by
  unfold findNext?
  rw [found]
  exact if_neg (by simp [filled])

end CatalogAudit.Pattern

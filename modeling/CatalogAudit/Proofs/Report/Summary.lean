import CatalogAudit.Proofs.Number.Decimal
import CatalogAudit.Proofs.Report.Verdict
import CatalogAudit.Proofs.Text.Blank

/-!
# Reading the summary

The summary escapes nothing, and sections without items are left out. Yet as long as no name has a
line feed, the lines can be told apart: titles begin at the margin, items and what belongs to them
do not, and of two titles neither begins the other. So the lines below a title can be found again,
and the summary tells the verdict, the numbers in its first line, the missing and extra tokens, and
the duplicate ones with all their paths.
-/

namespace CatalogAudit.Report

/-! ## Closed lines -/

/-- The text of lines, each closed by a line feed. -/
def closeLines (lines : List (List Char)) : List Char := lines.flatMap fun line => line ++ ['\n']

/-- The first line is closed by a line feed, and the others follow. -/
theorem closeLines_cons (line : List Char) (lines : List (List Char)) :
    closeLines (line :: lines) = line ++ '\n' :: closeLines lines := by
  rw [closeLines, List.flatMap_cons, List.append_assoc]
  rfl

/-- The lines of two lists one after another are closed one after another. -/
theorem closeLines_append (lines more : List (List Char)) :
    closeLines (lines ++ more) = closeLines lines ++ closeLines more := List.flatMap_append

/-- Lines without a line feed are found again in their text. -/
theorem closeLines_inj {lines others : List (List Char)} (clean : ∀ line ∈ lines, '\n' ∉ line)
    (clean' : ∀ line ∈ others, '\n' ∉ line) (same : closeLines lines = closeLines others) :
    lines = others := by
  induction lines generalizing others with
  | nil =>
    cases others with
    | nil => rfl
    | cons other others =>
      rw [closeLines_cons] at same
      simp [closeLines] at same
  | cons line lines ih =>
    cases others with
    | nil =>
      rw [closeLines_cons] at same
      simp [closeLines] at same
    | cons other others =>
      rw [List.forall_mem_cons] at clean clean'
      rw [closeLines_cons, closeLines_cons] at same
      obtain ⟨first, rest⟩ := Text.cut_inj clean.1 clean'.1 same
      rw [first, ih clean.2 clean'.2 rest]

/-! ## The lines of a summary -/

/-- A section of a summary. -/
structure Part where
  /-- The title. -/
  title : String
  /-- The items, each with all its lines. -/
  items : List (List (List Char))

/-- The line above the items of a section. -/
def Part.header (part : Part) : List Char :=
  (part.title ++ " (" ++ toString part.items.length ++ "):").toList

/-- The lines of a section; one without items has none. -/
def Part.lines (part : Part) : List (List Char) :=
  if part.items.isEmpty then [] else part.header :: part.items.flatten

/-- The lines of a duplicate token. -/
def duplicateLines (row : String × NameSet) : List (List Char) :=
  (item row.1).toList :: row.2.names.map fun path => ("      " ++ path).toList

/-- The sections of a report. -/
def parts (report : Report) : List Part :=
  [⟨"Unregistered tokens", report.missing.names.map fun token => [(item token).toList]⟩,
   ⟨"Tokens not present in manifest", report.extra.names.map fun token => [(item token).toList]⟩,
   ⟨"Duplicate registrations", report.duplicates.rows.map duplicateLines⟩,
   ⟨"Registrations in monolith files",
     report.bundled.rows.map fun row => [(bundledItem row).toList]⟩,
   ⟨"Files named like effects without a registration",
    report.hints.map fun hint => [(item (hint.path ++ " (" ++ hint.candidate ++ ")")).toList]⟩,
   ⟨"Unreadable files",
    report.unreadable.map fun file => [(item (file.path ++ ": " ++ file.reason)).toList]⟩]

/-- The first line of a summary, without its line feed. -/
def headText (totals : Totals) : List Char :=
  "Manifest entries: ".toList ++ Nat.toDigits 10 totals.manifest ++
    "  Registered tokens: ".toList ++ Nat.toDigits 10 totals.registered ++
    "  Files scanned: ".toList ++ Nat.toDigits 10 totals.scanned

/-- The last line of a summary, without its line feed. -/
def verdictText : Decision → List Char
  | .pass => "Effect audit passed.".toList
  | .fail => "Effect audit failed.".toList

/-- The lines of a summary. -/
def summaryLines (report : Report) (decision : Decision) : List (List Char) :=
  headText report.totals :: report.parts.flatMap Part.lines ++ [verdictText decision]

section Rendering

variable {α : Type} {write : α → String} {linesOf : α → List (List Char)}

/-- A section is its header and the lines of its items, all of them closed. -/
theorem toList_renderSection (title : String)
    (closed : ∀ x, (write x ++ "\n").toList = closeLines (linesOf x)) (xs : List α) :
    (renderSection title (xs.map write)).toList =
      closeLines (Part.lines ⟨title, xs.map linesOf⟩) := by
  unfold renderSection Part.lines
  cases xs with
  | nil => rfl
  | cons x xs =>
    have below : ∀ xs : List α,
        (String.join ((xs.map write).map fun item => item ++ "\n")).toList =
          closeLines (xs.map linesOf).flatten := by
      intro xs
      induction xs with
      | nil => rfl
      | cons x xs ih =>
        rw [List.map_cons, List.map_cons, List.map_cons, List.flatten_cons, closeLines_append, ← ih,
          ← closed, String.toList_join, String.toList_join]
        rfl
    rw [if_neg (by simp), if_neg (by simp), String.toList_append, below, closeLines_cons]
    simp [Part.header]

/-- A text with a line feed behind it is one closed line. -/
theorem closed_line (text : String) : (text ++ "\n").toList = closeLines [text.toList] := by
  rw [String.toList_append, closeLines_cons]
  rfl

/-- A duplicate with a line feed behind it is its closed lines: the token, and below it the paths.
-/
theorem closed_duplicate (row : String × NameSet) :
    (duplicateItem row ++ "\n").toList = closeLines (duplicateLines row) := by
  have below : ∀ paths : List String,
      (String.join (paths.map fun path => "\n      " ++ path)).toList ++ ['\n'] =
        '\n' :: closeLines (paths.map fun path => ("      " ++ path).toList) := by
    intro paths
    induction paths with
    | nil => rfl
    | cons path paths ih =>
      rw [List.map_cons, List.map_cons, closeLines_cons, String.toList_join, List.flatMap_cons,
        List.append_assoc, ← String.toList_join, ih, String.toList_append, String.toList_append]
      rfl
  rw [duplicateItem, duplicateLines, closeLines_cons, ← below, String.toList_append,
    String.toList_append, List.append_assoc]
  rfl

/-- A number is written in decimal digits. -/
theorem toList_toString (n : Nat) : (toString n).toList = Nat.toDigits 10 n :=
  String.toList_ofList

/-- The first line of the summary is the text of the totals, closed by a line feed. -/
theorem toList_headLine (totals : Totals) :
    (headLine totals).toList = headText totals ++ ['\n'] := by
  unfold headLine headText
  simp only [String.toList_append, toList_toString]
  rfl

/-- The summary is the text of its lines. -/
theorem toList_renderText (report : Report) (decision : Decision) :
    (report.renderText decision).toList = closeLines (report.summaryLines decision) := by
  have verdict : (verdictLine decision).toList = closeLines [verdictText decision] := by
    cases decision <;> rfl
  unfold renderText summaryLines parts
  rw [List.cons_append, closeLines_cons, closeLines_append, ← verdict]
  simp only [List.flatMap_cons, List.flatMap_nil, closeLines_append, List.append_nil,
    String.toList_append, List.append_assoc]
  rw [toList_headLine, toList_renderSection _ (fun token => closed_line (item token)),
    toList_renderSection _ (fun token => closed_line (item token)),
    toList_renderSection _ closed_duplicate,
    toList_renderSection _ (fun row => closed_line (bundledItem row)),
    toList_renderSection _ (fun hint : Hint =>
      closed_line (item (hint.path ++ " (" ++ hint.candidate ++ ")"))),
    toList_renderSection _ (fun file : Scan.Unreadable =>
      closed_line (item (file.path ++ ": " ++ file.reason)))]
  simp

end Rendering

/-! ## Lines below a title -/

/-- Whether a line stands away from the margin. -/
def isIndented (line : List Char) : Bool := line.head? == some ' '

/-- Whether a line has a title, with a count behind it. -/
def opens (title : String) (line : List Char) : Bool := (title ++ " (").toList.isPrefixOf line

/-- The lines below a title, up to the next one at the margin. -/
def linesBelow (title : String) (lines : List (List Char)) : List (List Char) :=
  ((lines.dropWhile fun line => !opens title line).drop 1).takeWhile isIndented

/-- The titles of the sections. -/
def titles : List String :=
  ["Unregistered tokens", "Tokens not present in manifest", "Duplicate registrations",
    "Registrations in monolith files", "Files named like effects without a registration",
    "Unreadable files"]

/-- No two sections have the same title. -/
theorem nodup_titles : titles.Nodup := by decide

/-- No title has the bracket that follows it, or begins like another line of a summary. -/
theorem titles_apart : ∀ title ∈ titles, '(' ∉ title.toList ∧
    title.toList.head? ∉ [none, some ' ', some 'M', some 'E'] := by decide

/-- Every section of a report has one of the titles. -/
theorem title_mem_titles {report : Report} {part : Part} (member : part ∈ report.parts) :
    part.title ∈ titles := by
  have all : report.parts.map Part.title = titles := rfl
  rw [← all]
  exact List.mem_map_of_mem member

section Below

variable {title : String} {line : List Char} {lines front rest below : List (List Char)}

/-- Lines in front of the header of a section do not belong to it. -/
theorem linesBelow_append (closed : ∀ line ∈ front, opens title line = false) :
    linesBelow title (front ++ rest) = linesBelow title rest := by
  unfold linesBelow
  rw [List.dropWhile_append_of_pos fun line member => by rw [closed line member]; rfl]

/-- Where no line opens a section, nothing belongs to it. -/
theorem linesBelow_eq_nil (closed : ∀ line ∈ lines, opens title line = false) :
    linesBelow title lines = [] := by
  have same : linesBelow title (lines ++ []) = linesBelow title [] := linesBelow_append closed
  rwa [List.append_nil] at same

/-- The section ends with the next line at the margin. -/
theorem linesBelow_header (opened : opens title line = true)
    (indented : ∀ line ∈ below, isIndented line = true)
    (margin : ∀ line ∈ rest.head?, isIndented line = false) :
    linesBelow title (line :: below ++ rest) = below := by
  unfold linesBelow
  rw [List.cons_append, List.dropWhile_cons, if_neg (by simp [opened]), List.drop_one,
    List.tail_cons, Text.takeWhile_run indented margin]

/-- The header of a section opens it. -/
theorem opens_header (part : Part) : opens part.title part.header = true := by
  unfold opens Part.header
  rw [List.isPrefixOf_iff_prefix]
  simp only [String.toList_append, List.append_assoc]
  exact (List.prefix_append_right_inj _).mpr (List.prefix_append _ _)

/-- A line at which a section begins has the first character of its title. -/
theorem head?_of_opens (opened : opens title line = true) (filled : title.toList.head? ≠ none) :
    line.head? = title.toList.head? := by
  obtain ⟨rest, rfl⟩ := List.isPrefixOf_iff_prefix.mp opened
  rw [String.toList_append, List.append_assoc, List.head?_append]
  cases first : title.toList.head? with
  | none => exact absurd first filled
  | some c => rfl

/-- Behind a section stands a line at the margin. -/
theorem isIndented_head? {parts : List Part} {last : List Char}
    (titled : ∀ part ∈ parts, part.title ∈ titles) (margin : isIndented last = false) :
    ∀ line ∈ (parts.flatMap Part.lines ++ [last]).head?, isIndented line = false := by
  induction parts with
  | nil =>
    intro line first
    rwa [← Option.some.inj first]
  | cons part parts ih =>
    rw [List.forall_mem_cons] at titled
    rw [List.flatMap_cons]
    by_cases none : part.items = []
    · rw [Part.lines, if_pos (by simp [none]), List.nil_append]
      exact ih titled.2
    · intro line first
      rw [Part.lines, if_neg (by simpa using none)] at first
      obtain ⟨-, apart⟩ := titles_apart _ titled.1
      simp only [List.mem_cons, List.not_mem_nil, or_false, not_or] at apart
      rw [← Option.some.inj first, isIndented, head?_of_opens (opens_header part) apart.1,
        beq_eq_false_iff_ne]
      exact apart.2.1

/-- A title has a line of its own only. -/
theorem eq_of_opens_header {part : Part} (opened : opens title part.header = true)
    (plain : '(' ∉ title.toList) (plain' : '(' ∉ part.title.toList) : title = part.title := by
  obtain ⟨rest, same⟩ := List.isPrefixOf_iff_prefix.mp opened
  have cut : ∀ text : String, '(' ∉ text.toList → '(' ∉ text.toList ++ [' '] := fun text free => by
    simp [free]
  have same' : title.toList ++ [' '] ++ '(' :: rest = part.title.toList ++ [' '] ++
      '(' :: (toString part.items.length ++ "):").toList := by
    simpa [Part.header] using same
  have spaced := (Text.cut_inj (cut _ plain) (cut _ plain') same').1
  exact String.toList_inj.mp (List.append_cancel_right spaced)

/-- A line that begins otherwise than a title does not begin with the title. -/
theorem opens_eq_false_of_head? (titled : title ∈ titles)
    (differs : line.head? ≠ title.toList.head?) : opens title line = false := by
  obtain ⟨-, apart⟩ := titles_apart _ titled
  refine Bool.eq_false_iff.mpr fun opened => differs (head?_of_opens opened ?_)
  exact fun none => apart (none ▸ List.mem_cons_self)

/-- Neither the title line of a section nor what stands below it begins with another title. -/
theorem opens_eq_false_of_mem_lines {other : Part} (titled : title ∈ titles)
    (titled' : other.title ∈ titles)
    (indented : ∀ line ∈ other.items.flatten, isIndented line = true)
    (differs : other.title ≠ title) : ∀ line ∈ other.lines, opens title line = false := by
  obtain ⟨plain, apart⟩ := titles_apart _ titled
  intro line member
  unfold Part.lines at member
  split at member
  · cases member
  · rcases List.mem_cons.mp member with rfl | member
    · refine Bool.eq_false_iff.mpr fun opened => differs ?_
      exact (eq_of_opens_header opened plain (titles_apart _ titled').1).symm
    · have margin := indented line member
      rw [isIndented, beq_iff_eq] at margin
      refine opens_eq_false_of_head? titled fun same => apart ?_
      rw [← same, margin]
      simp

/-- The lines of the items of a section are found below its title. -/
theorem linesBelow_parts {parts : List Part} {part : Part} {first last : List Char}
    (nodup : (parts.map Part.title).Nodup) (titled : ∀ part ∈ parts, part.title ∈ titles)
    (indented : ∀ part ∈ parts, ∀ line ∈ part.items.flatten, isIndented line = true)
    (head : first.head? = some 'M') (verdict : last.head? = some 'E') (member : part ∈ parts) :
    linesBelow part.title (first :: parts.flatMap Part.lines ++ [last]) = part.items.flatten := by
  have titled' := titled part member
  obtain ⟨-, apart⟩ := titles_apart _ titled'
  have others : ∀ other ∈ parts, other.title ≠ part.title →
      ∀ line ∈ other.lines, opens part.title line = false := fun other mem =>
    opens_eq_false_of_mem_lines titled' (titled other mem) (indented other mem)
  obtain ⟨before, after, rfl⟩ := List.append_of_mem member
  rw [List.map_append, List.map_cons, List.nodup_append, List.nodup_cons] at nodup
  have front : ∀ line ∈ first :: before.flatMap Part.lines, opens part.title line = false := by
    intro line member
    rcases List.mem_cons.mp member with rfl | member
    · refine opens_eq_false_of_head? titled' fun same => apart ?_
      rw [← same, head]
      simp
    · obtain ⟨other, mem, member⟩ := List.mem_flatMap.mp member
      refine others other (List.mem_append_left _ mem) (fun same => ?_) line member
      exact nodup.2.2 _ (List.mem_map_of_mem mem) _ List.mem_cons_self same
  have back : ∀ line ∈ after.flatMap Part.lines ++ [last],
      opens part.title line = false := by
    intro line member
    rcases List.mem_append.mp member with member | member
    · obtain ⟨other, mem, member⟩ := List.mem_flatMap.mp member
      refine others other (List.mem_append_right _ (List.mem_cons_of_mem _ mem)) ?_ line member
      exact fun same => nodup.2.1.1 (same ▸ List.mem_map_of_mem mem)
    · rw [List.mem_singleton.mp member]
      refine opens_eq_false_of_head? titled' fun same => apart ?_
      rw [← same, verdict]
      simp
  have split : first :: (before ++ part :: after).flatMap Part.lines ++ [last] =
      (first :: before.flatMap Part.lines) ++
        (part.lines ++ (after.flatMap Part.lines ++ [last])) := by
    simp
  rw [split, linesBelow_append front]
  by_cases none : part.items = []
  · rw [Part.lines, if_pos (by simp [none]), List.nil_append, linesBelow_eq_nil back, none,
      List.flatten_nil]
  · rw [Part.lines, if_neg (by simpa using none)]
    refine linesBelow_header (opens_header part) (indented part member) ?_
    refine isIndented_head? (fun other mem => ?_) (by rw [isIndented, verdict]; rfl)
    exact titled other (List.mem_append_right _ (List.mem_cons_of_mem _ mem))

end Below

/-! ## What the lines tell -/

section Telling

variable {report report' : Report} {decision decision' : Decision}

/-- The line of an item is indented. -/
theorem isIndented_item (text : String) : isIndented (item text).toList = true := by
  rw [item, String.toList_append]
  rfl

/-- The line of a path below an item is indented. -/
theorem isIndented_path (path : String) : isIndented ("      " ++ path).toList = true := by
  rw [String.toList_append]
  rfl

/-- All lines of a duplicate are indented. -/
theorem isIndented_duplicateLines (row : String × NameSet) :
    ∀ line ∈ duplicateLines row, isIndented line = true := by
  refine List.forall_mem_cons.mpr ⟨isIndented_item _, fun line member => ?_⟩
  obtain ⟨path, -, rfl⟩ := List.mem_map.mp member
  exact isIndented_path path

/-- All lines of the items in a section are indented. -/
theorem isIndented_of_mem_parts {part : Part} (member : part ∈ report.parts) :
    ∀ line ∈ part.items.flatten, isIndented line = true := by
  intro line inside
  simp only [parts, List.mem_cons, List.not_mem_nil, or_false] at member
  rcases member with rfl | rfl | rfl | rfl | rfl | rfl <;>
    obtain ⟨lines, listed, inside⟩ := List.mem_flatten.mp inside <;>
    obtain ⟨x, -, rfl⟩ := List.mem_map.mp listed
  case inr.inr.inl => exact isIndented_duplicateLines x line inside
  all_goals
    rw [List.mem_singleton.mp inside]
    exact isIndented_item _

/-- What stands below a title in a summary are the lines of its section. -/
theorem linesBelow_summaryLines {part : Part} (member : part ∈ report.parts)
    (decision : Decision) :
    linesBelow part.title (report.summaryLines decision) = part.items.flatten := by
  have head : (headText report.totals).head? = some 'M' := rfl
  have verdict : (verdictText decision).head? = some 'E' := by cases decision <;> rfl
  exact linesBelow_parts nodup_titles (fun _ => title_mem_titles)
    (fun _ => isIndented_of_mem_parts) head verdict member

/-- Different texts make different items. -/
theorem item_injective : Function.Injective fun text => (item text).toList := by
  intro text other same
  rw [← String.toList_inj]
  simpa [item] using same

/-- Lists of one element each make a list of these elements. -/
theorem flatten_singletons {α β : Type} (f : α → β) (xs : List α) :
    (xs.map fun x => [f x]).flatten = xs.map f := by
  induction xs with
  | nil => rfl
  | cons x xs ih => rw [List.map_cons, List.flatten_cons, ih, List.map_cons, List.singleton_append]

/-- Equal lines of tokens tell equal sets. -/
theorem eq_of_item_lines {tokens others : NameSet}
    (same : (tokens.names.map fun token => [(item token).toList]).flatten =
      (others.names.map fun token => [(item token).toList]).flatten) : tokens = others := by
  rw [flatten_singletons, flatten_singletons] at same
  have names : tokens.names = others.names := List.map_injective_iff.mpr item_injective same
  obtain ⟨names', _⟩ := tokens
  obtain ⟨others', _⟩ := others
  cases names
  rfl

/-- Whether a line of a duplicate token is that of a path. -/
def isPathLine (line : List Char) : Bool := (line.drop 2).head? == some ' '

/-- Of the lines behind a token, the first ones that are paths are the paths of that token. -/
theorem takeWhile_pathLines (paths : List String) (rows : List (String × NameSet)) :
    ((paths.map fun path => ("      " ++ path).toList) ++
        rows.flatMap duplicateLines).takeWhile isPathLine =
      paths.map fun path => ("      " ++ path).toList := by
  have inside : ∀ line ∈ paths.map fun path => ("      " ++ path).toList, isPathLine line := by
    intro line member
    obtain ⟨path, -, rfl⟩ := List.mem_map.mp member
    rw [String.toList_append]
    rfl
  have ends : ∀ line ∈ (rows.flatMap duplicateLines).head?, isPathLine line = false := by
    intro line first
    cases rows with
    | nil => cases first
    | cons row rows =>
      rw [← Option.mem_some.mp first, item, String.toList_append]
      rfl
  exact Text.takeWhile_run inside ends

/-- Equal lines of duplicate tokens tell equal tables: the lines of paths are indented further. -/
theorem eq_of_duplicate_lines {rows others : List (String × NameSet)}
    (same : rows.flatMap duplicateLines = others.flatMap duplicateLines) : rows = others := by
  induction rows generalizing others with
  | nil =>
    cases others with
    | nil => rfl
    | cons other others => cases same
  | cons row rows ih =>
    cases others with
    | nil => cases same
    | cons other others =>
      rw [List.flatMap_cons, List.flatMap_cons, duplicateLines, duplicateLines, List.cons_append,
        List.cons_append] at same
      obtain ⟨token, below⟩ := List.cons.inj same
      have lines := congrArg (List.takeWhile isPathLine) below
      rw [takeWhile_pathLines, takeWhile_pathLines] at lines
      have paths : row.2.names = other.2.names := by
        refine List.map_injective_iff.mpr (fun path path' same => ?_) lines
        rw [← String.toList_inj]
        simpa using same
      rw [lines] at below
      rw [ih (List.append_cancel_left below)]
      obtain ⟨name, ⟨names, _⟩⟩ := row
      obtain ⟨name', ⟨names', _⟩⟩ := other
      cases item_injective token
      cases paths
      rfl

end Telling

/-! ## The first line -/

/-- Different numbers are written differently. -/
theorem toDigits_injective : Function.Injective (Nat.toDigits 10) := by
  intro n k same
  rw [← Number.readDigits_toDigits n, same, Number.readDigits_toDigits]

/-- A number is written in digits only. -/
theorem not_mem_toDigits {c : Char} (other : Number.isDigit c = false) (n : Nat) :
    c ∉ Nat.toDigits 10 n := by
  intro member
  rw [Number.isDigit_of_mem_toDigits member] at other
  contradiction

/-- The first line tells the numbers in it. -/
theorem headText_inj {totals totals' : Totals} (same : headText totals = headText totals') :
    totals.manifest = totals'.manifest ∧ totals.registered = totals'.registered ∧
      totals.scanned = totals'.scanned := by
  have blank : ∀ n, ' ' ∉ Nat.toDigits 10 n := not_mem_toDigits rfl
  have registered : "  Registered tokens: ".toList = ' ' :: " Registered tokens: ".toList := rfl
  have scanned : "  Files scanned: ".toList = ' ' :: " Files scanned: ".toList := rfl
  unfold headText at same
  rw [registered, scanned] at same
  simp only [List.append_assoc, List.append_cancel_left_eq, List.cons_append] at same
  obtain ⟨manifest, same⟩ := Text.cut_inj (blank _) (blank _) same
  rw [List.append_cancel_left_eq] at same
  obtain ⟨registered, same⟩ := Text.cut_inj (blank _) (blank _) same
  rw [List.append_cancel_left_eq] at same
  exact ⟨toDigits_injective manifest, toDigits_injective registered, toDigits_injective same⟩

/-! ## Reports without line feeds -/

/-- No name in a report has a line feed. -/
structure KeepsLines (report : Report) : Prop where
  /-- No missing token has one. -/
  missing : ∀ token ∈ report.missing.names, '\n' ∉ token.toList
  /-- No extra token has one. -/
  extra : ∀ token ∈ report.extra.names, '\n' ∉ token.toList
  /-- No duplicate token has one, and none of its paths. -/
  duplicates : ∀ row ∈ report.duplicates.rows,
    '\n' ∉ row.1.toList ∧ ∀ path ∈ row.2.names, '\n' ∉ path.toList
  /-- No bundled token has one, and none of its paths. -/
  bundled : ∀ row ∈ report.bundled.rows,
    '\n' ∉ row.1.toList ∧ ∀ path ∈ row.2.names, '\n' ∉ path.toList
  /-- No hint has one. -/
  hints : ∀ hint ∈ report.hints, '\n' ∉ hint.path.toList ∧ '\n' ∉ hint.candidate.toList
  /-- Neither path nor reason of what is unreadable has one. -/
  unreadable : ∀ file ∈ report.unreadable, '\n' ∉ file.path.toList ∧ '\n' ∉ file.reason.toList

instance (report : Report) : Decidable report.KeepsLines :=
  decidable_of_iff
    ((∀ token ∈ report.missing.names, '\n' ∉ token.toList) ∧
      (∀ token ∈ report.extra.names, '\n' ∉ token.toList) ∧
      (∀ row ∈ report.duplicates.rows,
        '\n' ∉ row.1.toList ∧ ∀ path ∈ row.2.names, '\n' ∉ path.toList) ∧
      (∀ row ∈ report.bundled.rows,
        '\n' ∉ row.1.toList ∧ ∀ path ∈ row.2.names, '\n' ∉ path.toList) ∧
      (∀ hint ∈ report.hints, '\n' ∉ hint.path.toList ∧ '\n' ∉ hint.candidate.toList) ∧
      ∀ file ∈ report.unreadable, '\n' ∉ file.path.toList ∧ '\n' ∉ file.reason.toList)
    ⟨fun ⟨missing, extra, duplicates, bundled, hints, unreadable⟩ =>
        ⟨missing, extra, duplicates, bundled, hints, unreadable⟩,
      fun ⟨missing, extra, duplicates, bundled, hints, unreadable⟩ =>
        ⟨missing, extra, duplicates, bundled, hints, unreadable⟩⟩

section Clean

variable {report : Report}

/-- A character that is in neither of two texts is not in them together. -/
theorem not_mem_append {c : Char} {text more : String} (free : c ∉ text.toList)
    (free' : c ∉ more.toList) : c ∉ (text ++ more).toList := by
  rw [String.toList_append, List.mem_append, not_or]
  exact ⟨free, free'⟩

/-- A character that is in none of several texts nor between them is not in them together. -/
theorem not_mem_intercalate {c : Char} {between : String} {texts : List String}
    (free : c ∉ between.toList) (clean : ∀ text ∈ texts, c ∉ text.toList) :
    c ∉ (between.intercalate texts).toList := by
  induction texts with
  | nil => simp
  | cons text texts ih =>
    rw [List.forall_mem_cons] at clean
    cases texts with
    | nil => simpa using clean.1
    | cons next texts =>
      rw [String.intercalate_cons_cons]
      exact not_mem_append (not_mem_append clean.1 free) (ih clean.2)

/-- The line of an item has no line feed if its text has none. -/
theorem not_mem_item {text : String} (free : '\n' ∉ text.toList) : '\n' ∉ (item text).toList :=
  not_mem_append (by decide) free

/-- The lines of items have no line feed if the names in them have none. -/
theorem not_mem_of_mem_parts (keeps : report.KeepsLines) {part : Part}
    (member : part ∈ report.parts) : ∀ line ∈ part.items.flatten, '\n' ∉ line := by
  intro line inside
  simp only [parts, List.mem_cons, List.not_mem_nil, or_false] at member
  rcases member with rfl | rfl | rfl | rfl | rfl | rfl <;>
    obtain ⟨lines, listed, inside⟩ := List.mem_flatten.mp inside <;>
    obtain ⟨x, own, rfl⟩ := List.mem_map.mp listed
  case inr.inr.inl =>
    obtain ⟨token, paths⟩ := keeps.duplicates x own
    rcases List.mem_cons.mp inside with rfl | inside
    · exact not_mem_item token
    · obtain ⟨path, listed, rfl⟩ := List.mem_map.mp inside
      exact not_mem_append (by decide) (paths path listed)
  all_goals
    rw [List.mem_singleton.mp inside]
    refine not_mem_item ?_
  case inl => exact keeps.missing x own
  case inr.inl => exact keeps.extra x own
  case inr.inr.inr.inl =>
    obtain ⟨token, paths⟩ := keeps.bundled x own
    have files : '\n' ∉ (", ".intercalate x.2.names).toList :=
      not_mem_intercalate (by decide) paths
    exact not_mem_append (not_mem_append (not_mem_append token (by decide)) files) (by decide)
  case inr.inr.inr.inr.inl =>
    obtain ⟨path, candidate⟩ := keeps.hints x own
    exact not_mem_append (not_mem_append (not_mem_append path (by decide)) candidate) (by decide)
  case inr.inr.inr.inr.inr =>
    obtain ⟨path, reason⟩ := keeps.unreadable x own
    exact not_mem_append (not_mem_append path (by decide)) reason

/-- The header of a section has no line feed. -/
theorem not_mem_header {part : Part} (titled : part.title ∈ titles) : '\n' ∉ part.header := by
  have plain : ∀ title ∈ titles, '\n' ∉ title.toList := by decide
  have count : '\n' ∉ (toString part.items.length).toList := by
    rw [toList_toString]
    exact not_mem_toDigits rfl _
  exact not_mem_append (not_mem_append (not_mem_append (plain _ titled) (by decide)) count)
    (by decide)

/-- The text of the totals has no line feed. -/
theorem not_mem_headText (totals : Totals) : '\n' ∉ headText totals := by
  have digits : ∀ n, '\n' ∉ Nat.toDigits 10 n := not_mem_toDigits rfl
  have manifest : '\n' ∉ "Manifest entries: ".toList := by decide
  have registered : '\n' ∉ "  Registered tokens: ".toList := by decide
  have scanned : '\n' ∉ "  Files scanned: ".toList := by decide
  unfold headText
  rw [List.mem_append, List.mem_append, List.mem_append, List.mem_append, List.mem_append]
  rintro (((((member | member) | member) | member) | member) | member)
  · exact manifest member
  · exact digits _ member
  · exact registered member
  · exact digits _ member
  · exact scanned member
  · exact digits _ member

/-- The lines of a summary have no line feed if the names in the report have none. -/
theorem not_mem_of_mem_summaryLines (keeps : report.KeepsLines) (decision : Decision) :
    ∀ line ∈ report.summaryLines decision, '\n' ∉ line := by
  intro line member
  rw [summaryLines, List.mem_append, List.mem_cons, List.mem_flatMap, List.mem_singleton] at member
  rcases member with (rfl | ⟨part, own, member⟩) | rfl
  · exact not_mem_headText _
  · unfold Part.lines at member
    split at member
    · cases member
    · rcases List.mem_cons.mp member with rfl | member
      · exact not_mem_header (title_mem_titles own)
      · exact not_mem_of_mem_parts keeps own line member
  · cases decision <;> decide

end Clean

/-! ## What the summary tells -/

variable {report report' : Report} {decision decision' : Decision}

/-- As long as no name has a line feed, two reports with the same summary have the same verdict, the
same numbers in the first line, and the same missing, extra and duplicate tokens with the same
paths, whatever else they report. -/
theorem renderText_determines (keeps : report.KeepsLines) (keeps' : report'.KeepsLines)
    (same : report.renderText decision = report'.renderText decision') :
    decision = decision' ∧
      (report.totals.manifest = report'.totals.manifest ∧
        report.totals.registered = report'.totals.registered ∧
        report.totals.scanned = report'.totals.scanned) ∧
      report.missing = report'.missing ∧ report.extra = report'.extra ∧
      report.duplicates = report'.duplicates := by
  have lines : report.summaryLines decision = report'.summaryLines decision' := by
    refine closeLines_inj (not_mem_of_mem_summaryLines keeps decision)
      (not_mem_of_mem_summaryLines keeps' decision') ?_
    rw [← toList_renderText, ← toList_renderText, same]
  have items : ∀ {part part' : Part}, part ∈ report.parts → part' ∈ report'.parts →
      part.title = part'.title → part.items.flatten = part'.items.flatten := by
    intro part part' own own' title
    rw [← linesBelow_summaryLines own decision, ← linesBelow_summaryLines own' decision', lines,
      title]
  have verdict : decision = decision' := by
    have tells := lastLineTells_renderText report decision
    rw [same] at tells
    exact (lastLineTells_renderText report' decision').unique tells
  have duplicates : report.duplicates = report'.duplicates := by
    have rows := items (.tail _ (.tail _ (.head _))) (.tail _ (.tail _ (.head _))) rfl
    rw [← List.flatMap_def, ← List.flatMap_def] at rows
    rw [NameTable.mk.injEq]
    exact eq_of_duplicate_lines rows
  exact ⟨verdict, headText_inj (List.cons.inj lines).1,
    eq_of_item_lines (items (.head _) (.head _) rfl),
    eq_of_item_lines (items (.tail _ (.head _)) (.tail _ (.head _)) rfl), duplicates⟩

/-- A report with a token that looks like a title, one that looks like the line of a path, and one
that looks like a verdict. -/
def disguisedReport : Report where
  missing := ⟨["Unreadable files (1):"], by decide⟩
  extra := ⟨["    src/a.cpp"], by decide⟩
  duplicates := ⟨[("Effect audit passed.", ⟨["a.cpp", "b.cpp"], by decide⟩)], by decide⟩
  totals := ⟨1, 2, 2, 0⟩
  bundled := ⟨[], by decide⟩
  hints := [⟨"c.cpp", "blur"⟩]
  unreadable := []
  files := none

/-- What was found in each file is not in the summary. -/
theorem renderText_determines_disguised :
    disguisedReport.KeepsLines ∧ (disguisedReport.withFiles []).KeepsLines ∧
      disguisedReport.renderText .fail = (disguisedReport.withFiles []).renderText .fail ∧
      disguisedReport.duplicates = (disguisedReport.withFiles []).duplicates := by
  have keeps : disguisedReport.KeepsLines := by decide
  have keeps' : (disguisedReport.withFiles []).KeepsLines := by decide
  have same : disguisedReport.renderText .fail = (disguisedReport.withFiles []).renderText .fail :=
    rfl
  exact ⟨keeps, keeps', same, (renderText_determines keeps keeps' same).2.2.2.2⟩

end CatalogAudit.Report

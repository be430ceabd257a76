import CatalogAudit.Json.Printing
import CatalogAudit.Proofs.Json.Spelling

/-!
# Printed JSON is read back

What is printed of a value is one of its spellings, and reading it gives the value again: every
character of a string comes back from its escape, every whole number from its digits, and lists and
objects from their brackets and commas, however they are indented.
-/

namespace CatalogAudit.Json

/-- A list of strings is read back. -/
theorem strings?_ofStrings (texts : List String) : strings? (.ofStrings texts) = some texts :=
  mapM_map_of_inverse (f := string?) (g := ofString) (fun _ => rfl) texts

/-! ## Strings -/

/-- A control character is written as the four digits of its number. -/
theorem controlDigits_spec : ∀ n : Fin 32,
    Text.isHexOf 4 (controlDigits (Char.ofNat n)) = true ∧
      Number.readDigits 16 (controlDigits (Char.ofNat n)) = n := by decide

/-- What is printed of a character stands for it. -/
theorem stands_printCharacter (c : Char) : Stands (printCharacter c) c := by
  unfold printCharacter
  split
  case h_8 noQuote noBackslash _ _ _ _ _ =>
    by_cases control : c.toNat < 0x20
    · obtain ⟨hex, number⟩ := controlDigits_spec ⟨c.toNat, control⟩
      rw [Char.ofNat_toNat] at hex number
      rw [if_pos control]
      exact .number hex number
    · rw [if_neg control]
      exact .plain (Nat.not_lt.mp control) noBackslash noQuote
  all_goals exact .letter rfl

/-- What is printed of a string spells it. -/
theorem spells_printString (text : String) : Spells (printString text) (.ofString text) := by
  rw [printString, List.cons_append]
  exact .string (.flatMap stands_printCharacter text.toList)

/-! ## Values -/

/-- A value that a program puts together: every string and every key has a text, and every number is
a whole one. -/
inductive IsPlain : Json → Prop
  /-- The null value. -/
  | null : IsPlain .null
  /-- A truth value. -/
  | boolean (value : Bool) : IsPlain (.boolean value)
  /-- A whole number. -/
  | nat (n : Nat) : IsPlain (.ofNat n)
  /-- A string. -/
  | string (text : String) : IsPlain (.ofString text)
  /-- A list of such values. -/
  | array {items : List Json} (each : ∀ item ∈ items, IsPlain item) : IsPlain (.array items)
  /-- An object of such values. -/
  | object {members : List (String × Json)} (each : ∀ member ∈ members, IsPlain member.2) :
    IsPlain (.ofMembers members)

/-- A list of strings is put together by a program. -/
theorem isPlain_ofStrings (texts : List String) : (ofStrings texts).IsPlain := by
  refine .array fun item inside => ?_
  obtain ⟨text, -, rfl⟩ := List.mem_map.mp inside
  exact .string text

/-- A new line and its indentation are blanks. -/
theorem isGap_newLine (level : Nat) : IsGap (newLine level) := by
  intro c member
  rcases List.mem_cons.mp member with rfl | member
  · rfl
  · rw [List.eq_of_mem_replicate member]
    rfl

/-- What is printed of items spells them, when what is printed of each of them does. -/
theorem spells_printItems {item : Json} {items : List Json} (level outer : Nat)
    (first : Spells (printAt level item) item)
    (others : ∀ item ∈ items, Spells (printAt level item) item) :
    SpellsItems (printAt level item ++ (printItems level items ++ (newLine outer ++ [']'])))
      (item :: items) := by
  induction items generalizing item with
  | nil => exact .last first (isGap_newLine outer)
  | cons next items ih =>
    obtain ⟨spelled, others⟩ := List.forall_mem_cons.mp others
    have rest := ih spelled others
    simp only [printItems, List.cons_append, List.append_assoc]
    exact .more first isGap_nil (isGap_newLine level) rest

/-- What is printed of a member spells it, when what is printed of its value does. -/
theorem spells_printMember {member : String × Json} (level : Nat)
    (value : Spells (printAt level member.2) member.2) :
    SpellsMember (printMember level (keyed member)) member := by
  have printed : printMember level (keyed member) =
      '"' :: (member.1.toList.flatMap printCharacter ++
        '"' :: ([] ++ ':' :: ([' '] ++ printAt level member.2))) := by
    simp [printMember, printText, printString, keyed]
  have blank : IsGap [' '] := by
    intro c member
    rw [List.mem_singleton.mp member]
    rfl
  rw [printed]
  exact .intro (.flatMap stands_printCharacter _) isGap_nil blank value

/-- What is printed of members spells them, when what is printed of each value does. -/
theorem spells_printMembers {member : String × Json} {members : List (String × Json)}
    (level outer : Nat) (first : Spells (printAt level member.2) member.2)
    (others : ∀ member ∈ members, Spells (printAt level member.2) member.2) :
    SpellsMembers (printMember level (keyed member) ++
        (printMembers level (members.map keyed) ++ (newLine outer ++ ['\x7d'])))
      (member :: members) := by
  induction members generalizing member with
  | nil => exact .last (spells_printMember level first) (isGap_newLine outer)
  | cons next members ih =>
    obtain ⟨spelled, others⟩ := List.forall_mem_cons.mp others
    have rest := ih spelled others
    simp only [List.map_cons, printMembers, List.cons_append, List.append_assoc]
    exact .more (spells_printMember level first) isGap_nil (isGap_newLine level) rest

/-- What is printed of a value spells it. -/
theorem IsPlain.spells_printAt {value : Json} (plain : value.IsPlain) (level : Nat) :
    Spells (printAt level value) value := by
  induction plain generalizing level with
  | null => exact .null
  | boolean value =>
    cases value with
    | true => exact .holds
    | false => exact .fails
  | nat n => exact .nat n
  | string text => exact spells_printString text
  | @array items each ih =>
    cases items with
    | nil => exact .noItems isGap_nil
    | cons item items =>
      obtain ⟨first, others⟩ := List.forall_mem_cons.mp ih
      have items := spells_printItems (level + 1) level (first _) fun item member =>
        others item member _
      simp only [printAt, List.append_assoc]
      exact .array (isGap_newLine _) items
  | @object members each ih =>
    cases members with
    | nil => exact .noMembers isGap_nil
    | cons member members =>
      obtain ⟨first, others⟩ := List.forall_mem_cons.mp ih
      have members := spells_printMembers (level + 1) level (first _) fun member inside =>
        others member inside _
      change Spells (printAt level (.object (keyed member :: List.map keyed _))) _
      simp only [printAt, List.append_assoc]
      exact .object (isGap_newLine _) members

/-- The text of a value is read as that value. -/
theorem ofText?_print {value : Json} (plain : value.IsPlain) :
    ofText? value.print = some value := by
  have read := ofText?_of_spells (plain.spells_printAt 0) isGap_nil isGap_nil
  rwa [List.nil_append, List.append_nil] at read

end CatalogAudit.Json

/-!
# Spelled texts

A text is spelled by a notation when it is cut into stretches that stand for one character each. Its
value is those characters in their order. Which stretch stands for which character is up to the
notation.
-/

namespace CatalogAudit.Text

/-- Stretches one behind the other, and the characters that they stand for. -/
inductive Spelled (stands : List Char → Char → Prop) : List Char → List Char → Prop
  /-- Nothing stands for nothing. -/
  | nil : Spelled stands [] []
  /-- One more stretch in front. -/
  | cons {stretch text value : List Char} {c : Char} (first : stands stretch c)
    (others : Spelled stands text value) : Spelled stands (stretch ++ text) (c :: value)

namespace Spelled

variable {stands : List Char → Char → Prop}

/-- A value is spelled by any choice of a stretch for each of its characters. -/
theorem flatMap {write : Char → List Char} (each : ∀ c, stands (write c) c) (value : List Char) :
    Spelled stands (value.flatMap write) value := by
  induction value with
  | nil => exact nil
  | cons c value ih =>
    rw [List.flatMap_cons]
    exact cons (each c) ih

end Spelled

end CatalogAudit.Text

import CatalogAudit.Proofs.Manifest.Layout.Scalar
import Mathlib.Data.List.Chain

/-!
# Texts without quotes

What a text that stands without quotes looks like from outside: its first character is not reserved,
its padding is white space, and nowhere in it does a comment begin or a key end.
-/

namespace CatalogAudit.Manifest.Layout

/-- No white space is a colon or a hash sign. -/
theorem ne_of_isBlank {c : Char} (blank : Text.isBlank c = true) : c ≠ '#' ∧ c ≠ ':' := by
  constructor <;> rintro rfl <;> exact absurd blank (by decide)

namespace Bare

variable (b : Bare)

/-- What follows bare text is blank. -/
theorem isBlank_after : ∀ c ∈ b.after, Text.isBlank c = true := by
  intro c mem
  exact b.padding c (List.mem_append_right b.before mem)

/-- What precedes bare text is blank. -/
theorem isBlank_before : ∀ c ∈ b.before, Text.isBlank c = true := by
  intro c mem
  exact b.padding c (List.mem_append_left b.after mem)

/-- No hash sign follows white space in the value. -/
theorem isChain_noComment : b.text.IsChain fun c d => Text.isBlank c = true → d ≠ '#' := by
  apply (List.isChain_isInfix b.text).imp
  intro c d pair blank hash
  rw [hash] at pair
  exact b.noComment c blank pair

/-- The value does not begin with a hash sign. -/
theorem head?_ne_hash : b.text.head? ≠ some '#' := by
  intro hash
  exact absurd (b.unreserved '#' hash) (by decide)

/-- No colon in the value is followed by a space or a tab. -/
theorem isChain_noKey : b.text.IsChain fun c d => c = ':' → Text.isGap d = false := by
  apply (List.isChain_isInfix b.text).imp
  rintro c d pair rfl
  cases gap : Text.isGap d with
  | false => rfl
  | true => exact absurd pair (b.noKey d (Text.isGap_iff.mp gap))

end Bare

end CatalogAudit.Manifest.Layout

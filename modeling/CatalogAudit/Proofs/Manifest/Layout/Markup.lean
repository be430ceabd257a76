import CatalogAudit.Yaml.Cursor
import CatalogAudit.Proofs.Manifest.Layout.Document

/-!
# Layouts that are general markup as well

The line form is more permissive than general markup in small things. A layout is markup as well
when its lines hold none of the characters that end a line in markup only, when no tab stands where
markup wants spaces, when no key is longer than markup allows, and when no plain item between
brackets begins or goes on with a mark that has a meaning there.
-/

namespace CatalogAudit.Manifest.Layout

/-- The text holds no character that ends a line in markup. -/
def Unbroken (text : List Char) : Prop := ∀ c ∈ text, Yaml.isBreak c = false

instance (text : List Char) : Decidable (Unbroken text) :=
  decidable_of_iff (text.all (fun c => !Yaml.isBreak c) = true) (by simp [Unbroken])

/-- The gap holds no tab. -/
def Gap.Spaced (gap : Gap) : Prop := ∀ c ∈ gap.text, c = ' '

/-- A blank line holds no tab, and a comment ends where its line does. -/
def Noise.IsMarkup : Noise → Prop
  | blank gap => gap.Spaced
  | comment _ words _ => Unbroken words

/-- A comment ends where its line does. -/
def Tail.IsMarkup : Tail → Prop
  | blank _ => True
  | comment _ _ words _ => Unbroken words

/-- The value ends where its line does. -/
def Scalar.IsMarkup (s : Scalar) : Prop := Unbroken s.text

instance (s : Scalar) : Decidable s.IsMarkup := inferInstanceAs (Decidable (Unbroken s.text))

/-- The key ends where its line does, and is not too long. -/
def Key.IsMarkup {name : List Char} (key : Key name) : Prop :=
  Unbroken key.spelling.text ∧ (key.spelling.text ++ key.gap.text).length ≤ 1024

/-- A plain item does not begin with a mark, and holds no two marks that are refused there. -/
def FlowItem.IsMarkup (item : FlowItem) : Prop :=
  item.scalar.IsMarkup ∧
    match item.scalar with
    | .quoted _ => True
    | .plain p => (∀ c ∈ p.whole.head?, c ≠ ':' ∧ c ≠ '?') ∧ ¬[':', '?'] <:+: p.whole

/-- All items are markup. -/
def FlowList.IsMarkup : FlowList → Prop
  | close _ => True
  | last item => item.IsMarkup
  | more item rest => item.IsMarkup ∧ rest.IsMarkup

/-- No tab follows the dash. -/
def ModeLine.IsMarkup (line : ModeLine) : Prop :=
  line.gap.Spaced ∧ line.scalar.IsMarkup ∧ line.tail.IsMarkup ∧ ∀ noise ∈ line.after, noise.IsMarkup

/-- All parts are markup. -/
def Modes.IsMarkup : Modes → Prop
  | inline _ _ items tail after =>
    items.IsMarkup ∧ tail.IsMarkup ∧ ∀ noise ∈ after, noise.IsMarkup
  | below tail after _ first others =>
    tail.IsMarkup ∧ (∀ noise ∈ after, noise.IsMarkup) ∧ ∀ line ∈ first :: others, line.IsMarkup

/-- All parts are markup. -/
def Assignment.IsMarkup {name : List Char} (a : Assignment name) : Prop :=
  a.key.IsMarkup ∧ a.scalar.IsMarkup ∧ a.tail.IsMarkup ∧ ∀ noise ∈ a.after, noise.IsMarkup

/-- No tab follows a dash that stands alone. -/
def Opening.IsMarkup : Opening → Prop
  | behindDash _ => True
  | ownLine gap after _ => gap.Spaced ∧ ∀ noise ∈ after, noise.IsMarkup

/-- All parts are markup. -/
def Entry.IsMarkup (e : Entry) : Prop :=
  e.opening.IsMarkup ∧ e.token.IsMarkup ∧ e.kind.IsMarkup ∧
    ∀ keyed ∈ e.modes, keyed.1.IsMarkup ∧ keyed.2.IsMarkup

/-- All parts are markup, and so is every character. -/
structure Document.IsMarkup (doc : Document) : Prop where
  /-- Markup allows every character. -/
  allowed : ∀ c ∈ doc.text, Yaml.isAllowed c = true
  /-- The lines before anything else. -/
  head : ∀ noise ∈ doc.head, noise.IsMarkup
  /-- The mark that begins the document, with the lines after it. -/
  mark : ∀ marked ∈ doc.mark, marked.1.IsMarkup ∧ ∀ noise ∈ marked.2, noise.IsMarkup
  /-- The key of the entries. -/
  key : doc.key.IsMarkup
  /-- What follows that key on its line. -/
  tail : doc.tail.IsMarkup
  /-- The lines after it. -/
  after : ∀ noise ∈ doc.after, noise.IsMarkup
  /-- The entries. -/
  entries : ∀ e ∈ doc.entries, e.IsMarkup

end CatalogAudit.Manifest.Layout

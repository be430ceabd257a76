import CatalogAudit.Proofs.Manifest.Markup.Document
import CatalogAudit.Proofs.Yaml.Node.Reader

/-!
# Layouts as nodes

The nodes of a document, part by part, and that the reader of nodes builds each from its tokens.
-/

namespace CatalogAudit.Manifest.Layout

open Yaml (Node Token)
open Yaml.Node.Reader (Builds BuildsEntry BuildsPart dashed)

/-- The node of a value. -/
def Scalar.node : Scalar → Node
  | quoted q => .scalar none none q.value false
  | plain p => .scalar none none p.whole true

/-- The token of a scalar builds its node. -/
theorem Scalar.builds (scalar : Scalar) : Builds [scalar.token] scalar.node := by
  cases scalar with
  | quoted q => exact Yaml.Node.Reader.builds_scalar q.value false
  | plain p => exact Yaml.Node.Reader.builds_scalar p.whole true

/-- A value between brackets is read. -/
theorem Scalar.flowItems?_token (scalar : Scalar) {r : Yaml.Node.Reader} {rest : List Token}
    {first : Bool}
    (next : Yaml.Node.Reader.nextFlowItem? first .flowSequenceEnd r.tokens
      = some (scalar.token :: rest)) (fuel : Nat) (before : List Node) :
    Yaml.Node.Reader.flowItems? (fuel + 2) first before r
      = Yaml.Node.Reader.flowItems? (fuel + 1) false (scalar.node :: before) (r.goTo rest) := by
  cases scalar with
  | quoted q => exact Yaml.Node.Reader.flowItems?_scalar next fuel before
  | plain p => exact Yaml.Node.Reader.flowItems?_scalar next fuel before

/-- The node of a key. -/
def Key.node {name : List Char} (key : Key name) : Node :=
  match key.spelling with
  | .bare => .scalar none none name true
  | .quoted _ _ => .scalar none none name false

/-- A key with its value is an entry of a mapping. -/
theorem Key.buildsEntry {name : List Char} (key : Key name) {tokens : List Token} {n : Node}
    (part : BuildsPart tokens n) : BuildsEntry (key.tokens ++ tokens) (key.node, n) := by
  obtain ⟨spelling, gap⟩ := key
  cases spelling with
  | bare => exact ⟨_, _, rfl, Yaml.Node.Reader.builds_scalar name true, part⟩
  | quoted q same => exact ⟨_, _, rfl, Yaml.Node.Reader.builds_scalar name false, part⟩

namespace FlowList

/-- The items of a list in brackets are read up to the closing bracket. -/
theorem flowItems?_tokens (items : FlowList) {r : Yaml.Node.Reader} {rest : List Token}
    {first : Bool} {fuel : Nat} (enough : items.tokens.length < fuel)
    (next : Yaml.Node.Reader.nextFlowItem? first .flowSequenceEnd r.tokens
      = some (items.tokens ++ rest)) (before : List Node) :
    Yaml.Node.Reader.flowItems? fuel first before r
      = some (before.reverse ++ items.scalars.map Scalar.node, r.goTo rest) := by
  induction items generalizing fuel first before r with
  | close gap =>
    obtain ⟨fuel, rfl⟩ : ∃ m, fuel = m + 1 := ⟨fuel - 1, by omega⟩
    rw [Yaml.Node.Reader.flowItems?, next]
    simp [tokens, scalars]
  | last item =>
    simp only [tokens, List.length_cons, List.length_nil] at enough
    obtain ⟨fuel, rfl⟩ : ∃ m, fuel = m + 2 := ⟨fuel - 2, by omega⟩
    rw [item.scalar.flowItems?_token next, Yaml.Node.Reader.flowItems?]
    simp [Yaml.Node.Reader.nextFlowItem?, Yaml.Node.Reader.goTo, scalars]
  | more item others ih =>
    simp only [tokens, List.length_cons] at enough
    obtain ⟨fuel, rfl⟩ : ∃ m, fuel = m + 2 := ⟨fuel - 2, by omega⟩
    rw [item.scalar.flowItems?_token next, ih (by omega) rfl]
    simp [Yaml.Node.Reader.goTo, scalars]

/-- A list in brackets is built from its tokens. -/
theorem builds (items : FlowList) :
    Builds (.flowSequenceStart :: items.tokens)
      (.sequence none none (items.scalars.map Scalar.node)) where
  begins := ⟨_, _, rfl, rfl⟩
  reads := by
    intro fuel indentless r rest enough h
    obtain ⟨fuel, rfl⟩ : ∃ m, fuel = m + 1 := ⟨fuel - 1, by omega⟩
    rw [List.length_cons] at enough
    rw [Yaml.Node.Reader.node?_brackets h, items.flowItems?_tokens (by omega) rfl]
    rfl

end FlowList

/-- A list below its key is built from its dashes. -/
theorem buildsPart_blockList {α : Type} {items : List α} {parts : α → List Token} {node : α → Node}
    (filled : items ≠ []) (each : ∀ item ∈ items, Builds (parts item) (node item)) (extra : Nat) :
    BuildsPart (blockList extra (items.flatMap (dashed parts)))
      (.sequence none none (items.map node)) := by
  cases extra with
  | zero => exact Yaml.Node.Reader.buildsPart_indentless filled each
  | succ extra => exact (Yaml.Node.Reader.builds_sequence each).part

namespace Modes

/-- The node of modes. -/
def node (modes : Modes) : Node := .sequence none none (modes.scalars.map Scalar.node)

/-- The tokens of the modes build their node. -/
theorem buildsPart (modes : Modes) : BuildsPart modes.tokens modes.node := by
  cases modes with
  | inline gap apart items tail after => exact items.builds.part
  | below tail after extra first others =>
    rw [node, scalars, List.map_map]
    exact buildsPart_blockList (List.cons_ne_nil first others)
      (fun line _ => line.scalar.builds) extra

end Modes

namespace Entry

variable (e : Entry)

/-- The nodes of a key and of what belongs to it. -/
def fieldNode : Field → Node × Node
  | .token => (e.token.key.node, e.token.scalar.node)
  | .kind => (e.kind.key.node, e.kind.scalar.node)
  | .modes => (e.modes.map fun (key, modes) => (key.node, modes.node)).getD (.empty, .empty)

/-- The node of the entry. -/
def node : Node := .mapping none none ((e.first :: e.others).map e.fieldNode)

/-- The tokens of a field build its key and its value. -/
theorem buildsEntry {field : Field} (has : e.Has field) :
    BuildsEntry (e.fieldTokens field) (e.fieldNode field) := by
  cases field with
  | token => exact e.token.key.buildsEntry e.token.scalar.builds.part
  | kind => exact e.kind.key.buildsEntry e.kind.scalar.builds.part
  | modes =>
    obtain ⟨⟨key, modes⟩, some⟩ := Option.isSome_iff_exists.mp (has rfl)
    simp only [fieldTokens, fieldNode, some, Option.map_some, Option.getD_some]
    exact key.buildsEntry modes.buildsPart

/-- The tokens of the entry behind its dash. -/
def parts : List Token :=
  .blockMappingStart :: (e.first :: e.others).flatMap e.fieldTokens ++ [.blockEnd]

/-- The tokens of an entry build its node. -/
theorem builds : Builds e.parts e.node :=
  Yaml.Node.Reader.builds_mapping fun _ mem => e.buildsEntry (e.has_of_mem mem)

end Entry

namespace Document

variable (doc : Document)

/-- The node of the list of the entries. -/
def listNode : Node :=
  if doc.entries = [] then .empty else .sequence none none (doc.entries.map Entry.node)

/-- The root. -/
def node : Node := .mapping none none [(doc.key.node, doc.listNode)]

/-- The tokens of the entry list build its node. -/
theorem buildsPart_list : BuildsPart doc.listTokens doc.listNode := by
  rw [listTokens, listNode]
  split
  · exact Yaml.Node.Reader.buildsPart_nil
  · rename_i filled
    exact buildsPart_blockList filled (fun e _ => e.builds) doc.indent

/-- The tokens of the document build its node. -/
theorem builds_root :
    Builds (.blockMappingStart :: (doc.key.tokens ++ doc.listTokens) ++ [.blockEnd]) doc.node := by
  have each : ∀ entry ∈ [(doc.key.node, doc.listNode)],
      BuildsEntry (doc.key.tokens ++ doc.listTokens) entry := by
    intro entry mem
    rw [List.mem_singleton.mp mem]
    exact doc.key.buildsEntry doc.buildsPart_list
  have root := Yaml.Node.Reader.builds_mapping each
  simpa [node] using root

/-- The root of the document is built from its tokens. -/
theorem ofTokens?_tokens : Node.ofTokens? doc.tokens = some doc.node := by
  rw [tokens, markTokens]
  have root := Yaml.Node.Reader.ofTokens?_of_builds doc.builds_root
  cases doc.mark with
  | none => simpa using root.1
  | some marked => simpa using root.2

end Document

end CatalogAudit.Manifest.Layout

import Behavior.Proofs.Yaml.Blocks
import Behavior.Yaml.Reading

namespace Behavior.Yaml

open Reading

/-- A scalar is read from its token. -/
theorem read_scalar {block loose : Bool} {style : Style} {text : String} {fuel : Nat}
    {rest : List Token} {anchors : List Anchor} :
    node block loose (fuel + 2) (.scalar style text :: rest) anchors =
      some ⟨.scalar style none text, rest, anchors⟩ := by
  simp [node, properties, register, complete, content]

/-- A mapping is read as its entries are. -/
theorem read_mapping {loose : Bool} {entries : List (Node × Node)} {fuel : Nat}
    {tokens rest : List Token} {anchors : List Anchor}
    (reads : blockEntries fuel tokens anchors = some ⟨entries, rest, anchors⟩) :
    node true loose (fuel + 2) (.blockMappingStart :: tokens) anchors =
      some ⟨.mapping entries, rest, anchors⟩ := by
  simp [node, properties, register, complete, content, reads]

/-- A sequence is read as its items are. -/
theorem read_sequence {loose : Bool} {items : List Node} {fuel : Nat}
    {tokens rest : List Token} {anchors : List Anchor}
    (reads : blockItems fuel tokens anchors = some ⟨items, rest, anchors⟩) :
    node true loose (fuel + 2) (.blockSequenceStart :: tokens) anchors =
      some ⟨.sequence items, rest, anchors⟩ := by
  simp [node, properties, register, complete, content, reads]

/-- A node that is not absent is read as it is. -/
theorem read_present {block loose : Bool} {ends : List Token} {fuel : Nat} {tokens : List Token}
    {anchors : List Anchor} (present : isOneOf ends tokens = false) :
    Reading.optional block loose ends (fuel + 1) tokens anchors =
      node block loose fuel tokens anchors := by
  rw [Reading.optional, if_neg (Bool.not_eq_true _ ▸ present)]

/-- An entry is a key, its value and the entries that follow. -/
theorem read_entry {name : String} {value : Node} {entries : List (Node × Node)} {fuel : Nat}
    {tokens later rest : List Token} {anchors : List Anchor}
    (present : isOneOf [.key, .value, .blockEnd] tokens = false)
    (reads : node true true (fuel + 1) tokens anchors = some ⟨value, later, anchors⟩)
    (readsLater : blockEntries (fuel + 2) later anchors = some ⟨entries, rest, anchors⟩) :
    blockEntries (fuel + 4) (.key :: .scalar .plain name :: .value :: tokens) anchors =
      some ⟨(.plain name, value) :: entries, rest, anchors⟩ := by
  have key : Reading.optional true true [.key, .value, .blockEnd] (fuel + 3)
      (.scalar .plain name :: .value :: tokens) anchors =
        some ⟨.plain name, .value :: tokens, anchors⟩ := by
    rw [read_present rfl, read_scalar]
    rfl
  have pair : blockValue (.plain name) (fuel + 3) (.value :: tokens) anchors =
      some ⟨(.plain name, value) :: entries, rest, anchors⟩ := by
    rw [blockValue, read_present present, reads, Option.bind_eq_bind, Option.bind_some, readsLater]
    rfl
  rw [blockEntries, key, Option.bind_eq_bind, Option.bind_some, pair]

/-- An item is read in front of those that are still to come. -/
theorem read_item {item : Node} {items : List Node} {fuel : Nat} {tokens later rest : List Token}
    {anchors : List Anchor} (present : isOneOf [.blockEntry, .blockEnd] tokens = false)
    (reads : node true false fuel tokens anchors = some ⟨item, later, anchors⟩)
    (readsLater : blockItems (fuel + 1) later anchors = some ⟨items, rest, anchors⟩) :
    blockItems (fuel + 2) (.blockEntry :: tokens) anchors = some ⟨item :: items, rest, anchors⟩ := by
  rw [blockItems, read_present present, reads, Option.bind_eq_bind, Option.bind_some, readsLater]
  rfl

/-- A value is never absent behind its key. -/
theorem IsValue.present {value : Node} (block : IsValue value) (rest : List Token) :
    isOneOf [.key, .value, .blockEnd] (value.tokens ++ rest) = false := by
  cases block <;> simp [Node.tokens, Node.plain, isOneOf]

-- A node is read within four rounds for each of its tokens.
mutual

/-- Entries are read from their tokens, whatever comes behind the block. -/
theorem AreEntries.read {entries : List (Node × Node)} (block : AreEntries entries) (fuel : Nat)
    (enough : 4 * (entryTokens entries).length ≤ fuel) (rest : List Token) (anchors : List Anchor) :
    blockEntries fuel (entryTokens entries ++ .blockEnd :: rest) anchors =
      some ⟨entries, rest, anchors⟩ := by
  match block with
  | @AreEntries.last name value _ block =>
      simp only [entryTokens, Node.plain, Node.tokens, List.length_cons, List.length_append,
        List.length_nil] at enough
      obtain ⟨fuel, rfl⟩ := Nat.exists_eq_add_of_le' (show 4 ≤ fuel by omega)
      have reads := block.read true (fuel + 1) (by omega) (.blockEnd :: rest) anchors
      have ends : blockEntries (fuel + 2) (.blockEnd :: rest) anchors = some ⟨[], rest, anchors⟩ := by
        simp [blockEntries]
      have readsAll := @read_entry name _ _ _ _ _ _ _ (block.present _) reads ends
      simpa [entryTokens, Node.plain, Node.tokens] using readsAll
  | @AreEntries.more name value others _ block later =>
      simp only [entryTokens, Node.plain, Node.tokens, List.length_cons, List.length_append,
        List.length_nil] at enough
      obtain ⟨fuel, rfl⟩ := Nat.exists_eq_add_of_le' (show 4 ≤ fuel by omega)
      have reads := block.read true (fuel + 1) (by omega) (entryTokens others ++ .blockEnd :: rest)
        anchors
      have readsLater := later.read (fuel + 2) (by omega) rest anchors
      have readsAll := @read_entry name _ _ _ _ _ _ _ (block.present _) reads readsLater
      simpa [entryTokens, Node.plain, Node.tokens] using readsAll

/-- A value is read from its tokens. -/
theorem IsValue.read {value : Node} (block : IsValue value) (loose : Bool) (fuel : Nat)
    (enough : 4 * value.tokens.length ≤ fuel) (rest : List Token) (anchors : List Anchor) :
    node true loose fuel (value.tokens ++ rest) anchors = some ⟨value, rest, anchors⟩ := by
  have positive : 0 < value.tokens.length := by
    cases block <;> exact Nat.succ_pos _
  obtain ⟨fuel, rfl⟩ := Nat.exists_eq_add_of_le' (show 2 ≤ fuel by omega)
  match block with
  | @IsValue.plain text _ => exact read_scalar
  | .quoted text => exact read_scalar
  | @IsValue.mapping entries block =>
      simp only [Node.tokens, List.length_cons, List.length_append, List.length_nil] at enough ⊢
      have reads := block.read fuel (by omega) rest anchors
      simpa using read_mapping reads
  | @IsValue.sequence items block =>
      simp only [Node.tokens, List.length_cons, List.length_append, List.length_nil] at enough ⊢
      have reads := block.read fuel (by omega) rest anchors
      simpa using read_sequence reads

/-- Items are read from their tokens. -/
theorem AreItems.read {items : List Node} (block : AreItems items) (fuel : Nat)
    (enough : 4 * (itemTokens items).length ≤ fuel) (rest : List Token) (anchors : List Anchor) :
    blockItems fuel (itemTokens items ++ .blockEnd :: rest) anchors = some ⟨items, rest, anchors⟩ := by
  match block with
  | @AreItems.last entries block =>
      simp only [itemTokens, Node.tokens, List.length_cons, List.length_append,
        List.length_nil] at enough
      obtain ⟨fuel, rfl⟩ := Nat.exists_eq_add_of_le' (show 4 ≤ fuel by omega)
      have reads := block.read fuel (by omega) (.blockEnd :: rest) anchors
      have ends : blockItems (fuel + 3) (.blockEnd :: rest) anchors = some ⟨[], rest, anchors⟩ := by
        simp [blockItems]
      simpa [itemTokens, Node.tokens] using read_item rfl (read_mapping reads) ends
  | @AreItems.more entries others block later =>
      simp only [itemTokens, Node.tokens, List.length_cons, List.length_append,
        List.length_nil] at enough
      obtain ⟨fuel, rfl⟩ := Nat.exists_eq_add_of_le' (show 4 ≤ fuel by omega)
      have reads := block.read fuel (by omega) (itemTokens others ++ .blockEnd :: rest) anchors
      have readsLater := later.read (fuel + 3) (by omega) rest anchors
      simpa [itemTokens, Node.tokens] using read_item rfl (read_mapping reads) readsLater

end

/-- A written mapping is the only document that is read from its text. -/
theorem AreEntries.documents?_write {entries : List (Node × Node)} (block : AreEntries entries) :
    documents? (write (.mapping entries)) = some [.mapping entries] := by
  let tokens := (Node.mapping entries).tokens ++ [Token.streamEnd]
  have reads := (IsValue.mapping block).read false (4 * tokens.length + 3)
    (by simp only [tokens, List.length_append]; omega) [.streamEnd] []
  have present : isOneOf [.directive, .documentStart, .documentEnd, .streamEnd] tokens = false := rfl
  have first : firstDocument (.documentStart :: tokens) =
      some ⟨.mapping entries, [.streamEnd], []⟩ :=
    (read_present present).trans reads
  have goesOn : ¬ isOneOf [.streamEnd] (.documentStart :: tokens) = true := Bool.false_ne_true
  rw [documents?, block.tokens?_write, Option.bind_eq_bind, Option.bind_some, if_neg goesOn, first]
  rfl

end Behavior.Yaml

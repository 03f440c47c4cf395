import Behavior.Proofs.Yaml.Yielding

namespace Behavior.Yaml

open Lexeme Progress

mutual

/-- The tokens of a node, in the order in which its text yields them. -/
def Node.tokens : Node → List Token
  | .scalar style _ text => [.scalar style text]
  | .sequence items => .blockSequenceStart :: (itemTokens items ++ [.blockEnd])
  | .mapping entries => .blockMappingStart :: (entryTokens entries ++ [.blockEnd])
  | .reference _ => []

def itemTokens : List Node → List Token
  | [] => []
  | item :: rest => .blockEntry :: (item.tokens ++ itemTokens rest)

def entryTokens : List (Node × Node) → List Token
  | [] => []
  | (key, value) :: rest => .key :: (key.tokens ++ .value :: (value.tokens ++ entryTokens rest))

end

mutual

/-- The entries of a block mapping have names, and values that are scalars or blocks. -/
inductive AreEntries : List (Node × Node) → Prop
  | last {name : String} {value : Node} (named : IsName name.toList) (block : IsValue value) :
      AreEntries [(.plain name, value)]
  | more {name : String} {value : Node} {rest : List (Node × Node)} (named : IsName name.toList)
      (block : IsValue value) (later : AreEntries rest) : AreEntries ((.plain name, value) :: rest)

/-- The items of a block sequence are block mappings. -/
inductive AreItems : List Node → Prop
  | last {entries : List (Node × Node)} (block : AreEntries entries) : AreItems [.mapping entries]
  | more {entries : List (Node × Node)} {rest : List Node} (block : AreEntries entries)
      (later : AreItems rest) : AreItems (.mapping entries :: rest)

/-- A value is a scalar or a block. Collections without content are written in brackets and are none. -/
inductive IsValue : Node → Prop
  | plain {text : String} (plain : IsPlain text.toList) : IsValue (.plain text)
  | quoted (text : String) : IsValue (.scalar .quoted none text)
  | mapping {entries : List (Node × Node)} (block : AreEntries entries) : IsValue (.mapping entries)
  | sequence {items : List Node} (block : AreItems items) : IsValue (.sequence items)

end

variable {entries : List (Node × Node)} {items : List Node} {value : Node} {level : Nat}

theorem AreEntries.ne_nil (block : AreEntries entries) : entries ≠ [] := by
  cases block <;> exact List.cons_ne_nil _ _

theorem AreItems.ne_nil (block : AreItems items) : items ≠ [] := by
  cases block <;> exact List.cons_ne_nil _ _

/-- It is enough that each entry has a name and a value. -/
theorem AreEntries.of_forall (nonempty : entries ≠ []) (each : ∀ entry ∈ entries, ∃ name,
    entry.1 = .plain name ∧ IsName name.toList ∧ IsValue entry.2) : AreEntries entries := by
  induction entries with
  | nil => exact absurd rfl nonempty
  | cons entry rest inductionHypothesis =>
      obtain ⟨⟨name, same, named, block⟩, others⟩ := List.forall_mem_cons.1 each
      obtain ⟨key, value⟩ := entry
      subst same
      match rest with
      | [] => exact .last named block
      | next :: rest => exact .more named block (inductionHypothesis (List.cons_ne_nil _ _) others)

/-- It is enough that each item is a block mapping. -/
theorem AreItems.of_forall (nonempty : items ≠ [])
    (each : ∀ item ∈ items, ∃ entries, item = .mapping entries ∧ AreEntries entries) :
    AreItems items := by
  induction items with
  | nil => exact absurd rfl nonempty
  | cons item rest inductionHypothesis =>
      obtain ⟨⟨entries, same, block⟩, others⟩ := List.forall_mem_cons.1 each
      subst same
      match rest with
      | [] => exact .last block
      | next :: rest => exact .more block (inductionHypothesis (List.cons_ne_nil _ _) others)

/-- The next entry stands on a line of its own. -/
theorem writeEntries_more {name : String} {rest : List (Node × Node)} (nonempty : rest ≠ []) :
    (writeEntries level ((.plain name, value) :: rest)).toList = name.toList ++
      ':' :: ((writeValue level value).toList ++
        nextLine (2 * level) (writeEntries level rest).toList) := by
  obtain ⟨entry, rest, rfl⟩ := List.exists_cons_of_ne_nil nonempty
  simp [writeEntries, Node.plain, Node.write, writeScalar, lineBreak, nextLine]

/-- The last entry ends where its value does. -/
theorem writeEntries_last {name : String} :
    (writeEntries level [(.plain name, value)]).toList =
      name.toList ++ ':' :: (writeValue level value).toList := by
  simp [writeEntries, Node.plain, Node.write, writeScalar]

/-- The next item stands behind a dash of its own. -/
theorem writeItems_more {rest : List Node} (filled : entries ≠ []) (nonempty : rest ≠ []) :
    (writeItems level (.mapping entries :: rest)).toList =
      '-' :: ' ' :: ((writeEntries (level + 1) entries).toList ++
        nextLine (2 * level) (writeItems level rest).toList) := by
  obtain ⟨entry, rest, rfl⟩ := List.exists_cons_of_ne_nil nonempty
  simp [writeItems, Node.write, lineBreak, nextLine, filled]

/-- The last item ends where its entries do. -/
theorem writeItems_last (filled : entries ≠ []) :
    (writeItems level [.mapping entries]).toList =
      '-' :: ' ' :: (writeEntries (level + 1) entries).toList := by
  simp [writeItems, Node.write, filled]

theorem writeValue_plain {text : String} :
    (writeValue level (.plain text)).toList = ' ' :: text.toList := by
  simp [writeValue, Node.plain, writeScalar]

theorem writeValue_quoted {text : String} :
    (writeValue level (.scalar .quoted none text)).toList =
      ' ' :: '"' :: (text.toList.flatMap escape ++ ['"']) := by
  simp [writeValue, writeScalar]

/-- The entries of a mapping start on the next line. -/
theorem writeValue_mapping (nonempty : entries ≠ []) :
    (writeValue level (.mapping entries)).toList =
      nextLine (2 * (level + 1)) (writeEntries (level + 1) entries).toList := by
  simp [writeValue, lineBreak, nextLine, nonempty]

/-- The items of a sequence start on the next line. -/
theorem writeValue_sequence (nonempty : items ≠ []) :
    (writeValue level (.sequence items)).toList =
      nextLine (2 * (level + 1)) (writeItems (level + 1) items).toList := by
  simp [writeValue, lineBreak, nextLine, nonempty]

/-- The text of a value starts with a gap, for it follows a colon. -/
theorem IsValue.gap (block : IsValue value) (rest : List Char) :
    isGap (((writeValue level value).toList ++ rest).headD Glyph.finish) = true := by
  cases block with
  | plain => rw [writeValue_plain]; rfl
  | quoted => rw [writeValue_quoted]; rfl
  | mapping block => rw [writeValue_mapping block.ne_nil]; rfl
  | sequence block => rw [writeValue_sequence block.ne_nil]; rfl

/-- Entries start with the first character of a name. -/
theorem AreEntries.isSolid (block : AreEntries entries) (rest : List Char) :
    IsSolid ((writeEntries level entries).toList ++ rest) := by
  cases block with
  | last named =>
      rw [writeEntries_last, List.append_assoc]
      exact named.isSolid _
  | more named _ later =>
      rw [writeEntries_more later.ne_nil, List.append_assoc]
      exact named.isSolid _

/-- Items start with a dash. -/
theorem AreItems.isSolid (block : AreItems items) (rest : List Char) :
    IsSolid ((writeItems level items).toList ++ rest) := by
  have dash (text : List Char) : IsSolid ('-' :: text) := isSolid_cons rfl (by decide)
  cases block with
  | last entries =>
      rw [writeItems_last entries.ne_nil]
      exact dash _
  | more entries later =>
      rw [writeItems_more entries.ne_nil later.ne_nil]
      exact dash _

-- What follows a block is told by what it yields there, so a block that ends others at once passes the
-- claim on to the line behind all of them.
mutual

/-- Entries that end in front of a line that is not indented more yield their tokens. -/
theorem AreEntries.yields {entries : List (Node × Node)} {level count : Nat} {next : List Char}
    {tokens opening result : List Token} {indentations inner : List Int}
    (block : AreEntries entries)
    (opens : Opens (2 * level) .blockMappingStart indentations opening inner)
    (shallow : count ≤ 2 * level) (solid : IsSolid next)
    (yields : Yields count next (tokens ++ opening ++ entryTokens entries) true inner result) :
    Yields (2 * level) ((writeEntries level entries).toList ++ nextLine count next) tokens true
      indentations result := by
  match block with
  | @AreEntries.last name value named block =>
      rw [writeEntries_last, List.append_assoc]
      refine .key named (block.gap _) opens ?_
      refine block.yields opens.headD (by omega) shallow solid ?_
      simpa [entryTokens, Node.tokens, Node.plain] using yields
  | @AreEntries.more name value rest named block later =>
      rw [writeEntries_more later.ne_nil, List.append_assoc, List.cons_append, List.append_assoc,
        nextLine_append]
      refine .key named (block.gap _) opens ?_
      refine block.yields opens.headD (by omega) (Nat.le_refl _) (later.isSolid _) ?_
      refine later.yields (.already opens.headD) shallow solid ?_
      simpa [entryTokens, Node.tokens, Node.plain] using yields

/-- A value stands behind its key, or below it and then indented more. -/
theorem IsValue.yields {value : Node} {level column count : Nat} {next : List Char}
    {tokens result : List Token} {indentations : List Int} (block : IsValue value)
    (margin : indentations.headD (-1) = (2 * level : Nat)) (inside : 2 * level < column)
    (shallow : count ≤ 2 * level) (solid : IsSolid next)
    (yields : Yields count next (tokens ++ value.tokens) true indentations result) :
    Yields column ((writeValue level value).toList ++ nextLine count next) tokens false indentations
      result := by
  match block with
  | .plain plain =>
      rw [writeValue_plain]
      refine .space (.plain plain (by omega) (by omega) solid ?_)
      rwa [String.ofList_toList]
  | .quoted text =>
      rw [writeValue_quoted]
      simp only [List.cons_append, List.append_assoc]
      refine .space (.quoted (by omega) fun column => .onNextLine ?_)
      rwa [String.ofList_toList]
  | .mapping block =>
      rw [writeValue_mapping block.ne_nil, nextLine_append]
      refine .onNextLine (block.yields (.deeper (by omega)) (by omega) solid ?_)
      refine .close solid (by omega) ?_
      simpa [Node.tokens] using yields
  | .sequence block =>
      rw [writeValue_sequence block.ne_nil, nextLine_append]
      refine .onNextLine (block.yields (.deeper (by omega)) (by omega) solid ?_)
      refine .close solid (by omega) ?_
      simpa [Node.tokens] using yields

/-- Items start at their dashes, and what stands in an item is indented more than its dash. -/
theorem AreItems.yields {items : List Node} {level count : Nat} {next : List Char}
    {tokens opening result : List Token} {indentations inner : List Int}
    (block : AreItems items)
    (opens : Opens (2 * level) .blockSequenceStart indentations opening inner)
    (shallow : count ≤ 2 * level) (solid : IsSolid next)
    (yields : Yields count next (tokens ++ opening ++ itemTokens items) true inner result) :
    Yields (2 * level) ((writeItems level items).toList ++ nextLine count next) tokens true
      indentations result := by
  have deeper : inner.headD (-1) < (2 * (level + 1) : Nat) := by
    rw [opens.headD]
    omega
  match block with
  | @AreItems.last entries block =>
      rw [writeItems_last block.ne_nil]
      refine .entry opens (block.yields (.deeper deeper) (by omega) solid ?_)
      refine .close solid (by omega) ?_
      simpa [itemTokens, Node.tokens] using yields
  | @AreItems.more entries rest block later =>
      have solid' := @AreItems.isSolid _ level later (nextLine count next)
      rw [writeItems_more block.ne_nil later.ne_nil, List.cons_append, List.cons_append,
        List.append_assoc, nextLine_append]
      refine .entry opens (block.yields (.deeper deeper) (by omega) solid' ?_)
      refine .close solid' (by omega) ?_
      refine later.yields (.already opens.headD) shallow solid ?_
      simpa [itemTokens, Node.tokens] using yields

end

/-- A written mapping yields its tokens between the start of its document and the end of the text. -/
theorem AreEntries.tokens?_write (block : AreEntries entries) :
    tokens? (write (.mapping entries)) =
      some (.documentStart :: ((Node.mapping entries).tokens ++ [.streamEnd])) := by
  have shape : (write (.mapping entries)).toList =
      "---".toList ++ nextLine 0 ((writeEntries 0 entries).toList ++ nextLine 0 []) := by
    simp [write, Node.write, block.ne_nil, nextLine]
  have opens : Opens (2 * 0) .blockMappingStart [-1] [.blockMappingStart] [0, -1] :=
    .deeper (by decide)
  have yields : Yields 0 (write (.mapping entries)).toList [] true [-1]
      (.documentStart :: ((Node.mapping entries).tokens ++ [.streamEnd])) := by
    rw [shape]
    refine .documentStart rfl (.onNextLine (block.yields opens (Nat.le_refl _) isSolid_nil ?_))
    simpa [Node.tokens] using @yields_finish
      (.documentStart :: .blockMappingStart :: entryTokens entries) true
  exact yields 0 0 none _ (Nat.le_succ _)

end Behavior.Yaml

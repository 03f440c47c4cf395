import Behavior.Proofs.Format
import Behavior.Proofs.Yaml.Rereading
import Behavior.Proofs.Yaml.Scalars

namespace Behavior

namespace Yaml

open Lexeme

theorem toNodes_eq_map (items : List Datum) : Datum.toNodes items = items.map Datum.toNode := by
  induction items with
  | nil => rfl
  | cons item rest inductionHypothesis => rw [Datum.toNodes, inductionHypothesis, List.map_cons]

/-- Each name is written as a text. -/
theorem toEntries_eq_map (entries : List (String × Datum)) :
    Datum.toEntries entries = entries.map fun entry => (.ofText entry.1, entry.2.toNode) := by
  induction entries with
  | nil => rfl
  | cons entry rest inductionHypothesis =>
      rw [Datum.toEntries, inductionHypothesis, List.map_cons]

/-- A text does not stand for an absent value, not even a text that names one. -/
theorem isAbsent_ofText (text : String) : Decoder.isAbsent (.ofText text) = .ok false := by
  rw [Node.ofText]
  split
  case isTrue => rfl
  case isFalse plain =>
    obtain ⟨_, noTilde, noNull⟩ := plain_of_unquoted (eq_false_of_ne_true plain)
    have untyped : Decoder.isAbsent (.scalar .plain none text) =
        .ok (text = "~" || text = "null") := rfl
    rw [untyped, decide_eq_false noTilde, decide_eq_false noNull]
    rfl

/-- A text names a variant without content. -/
theorem unitVariant_ofText {names : List String} {text : String} (member : text ∈ names) :
    Decoder.unitVariant names (.ofText text) = .ok text := by
  have untagged : (names.any fun name => (none : Option TypeTag) == some ⟨"!", name⟩) = false :=
    List.any_eq_false.2 fun _ _ => Bool.false_ne_true
  have named : Decoder.variant names (.ofText text) = .ok (text, none) := by
    rw [Decoder.variant, Node.ofText]
    simp only [Decoder.resolve, bind, Except.bind, pure, Except.pure, untagged, Bool.false_eq_true,
      if_false, List.contains_iff_mem.2 member, if_true]
  rw [Decoder.unitVariant, named]
  rfl

/-- The digits of a word are read as an integer. -/
theorem ofUntyped_word (value : UInt32) :
    Value.ofUntyped (toString value.toNat) = .integer value.toNat :=
  ofUntyped_digits (toList_toString value.toNat) value.toNat_lt_size

/-- A word does not stand for an absent value. -/
theorem isAbsent_word (value : UInt32) :
    Decoder.isAbsent (.plain (toString value.toNat)) = .ok false := by
  have apart {word : String} (absent : Value.ofUntyped word = .null) :
      toString value.toNat ≠ word := by
    rintro rfl
    cases (ofUntyped_word value).symm.trans absent
  have untyped : Decoder.isAbsent (.plain (toString value.toNat)) =
      .ok (toString value.toNat = "~" || toString value.toNat = "null") := rfl
  rw [untyped, decide_eq_false (apart rfl), decide_eq_false (apart rfl)]
  rfl

/-- A word is read from its digits. -/
theorem word32_word (value : UInt32) :
    Decoder.word32 (.plain (toString value.toNat)) = .ok value := by
  have small : value.toNat < UInt32.size := value.toNat_lt_size
  have reads : Decoder.value (.plain (toString value.toNat)) = .ok (.integer value.toNat) :=
    congrArg Except.ok (ofUntyped_word value)
  have fits : Decoder.nat UInt32.size (.plain (toString value.toNat)) = .ok value.toNat := by
    rw [Decoder.nat, reads]
    simp only [bind, Except.bind, Int.toNat_natCast, small, Int.natCast_nonneg, and_self, if_true]
    rfl
  rw [Decoder.word32, fits]
  exact congrArg Except.ok (UInt32.ofNat_toNat)

mutual

/-- The node of a datum presents it. -/
theorem presents_toNode : (datum : Datum) → format.Presents datum.toNode datum
  | .null => .null rfl
  | .integer value => .integer (isAbsent_word value) (word32_word value)
  | .string text => .string (isAbsent_ofText text) rfl fun _ => unitVariant_ofText
  | .sequence items => .sequence rfl (presents_toNodes items)
  | .mapping entries => .mapping rfl (presents_toEntries entries)

/-- The nodes of a list of data present them one by one. -/
theorem presents_toNodes :
    (items : List Datum) → List.Forall₂ format.Presents (Datum.toNodes items) items
  | [] => .nil
  | item :: rest => .cons (presents_toNode item) (presents_toNodes rest)

/-- The entries of a mapping are presented under their names. -/
theorem presents_toEntries : (entries : List (String × Datum)) →
    format.PresentsEntries (Datum.toEntries entries) entries
  | [] => .nil
  | (_, value) :: rest => .cons rfl (presents_toNode value) (presents_toEntries rest)

end

/-- A text is a scalar, with quotes or without. -/
theorem isValue_ofText (text : String) : IsValue (.ofText text) := by
  rw [Node.ofText]
  split
  case isTrue => exact .quoted text
  case isFalse plain => exact .plain (plain_of_unquoted (eq_false_of_ne_true plain)).1

/-- A key is written without quotes in front of a colon. -/
def IsKey (name : String) : Prop := needsQuotes name = false ∧ IsName name.toList

instance (name : String) : Decidable (IsKey name) := inferInstanceAs (Decidable (_ ∧ _))

variable {names : List String}

mutual

/-- A record is written as a block of lines. -/
theorem areEntries_of_isRecord (keys : ∀ name ∈ names, IsKey name) {datum : Datum} :
    datum.IsRecord names → ∃ entries, datum.toNode = .mapping entries ∧ AreEntries entries
  | @Datum.IsRecord.mapping _ entries filled named _ fields => by
      refine ⟨_, rfl, .of_forall ?_ ?_⟩
      · simpa [toEntries_eq_map] using filled
      · rw [toEntries_eq_map]
        refine List.forall_mem_map.2 fun entry member => ?_
        obtain ⟨unquoted, name⟩ := keys entry.1 (named entry member)
        have block := isValue_of_isField keys (fields entry member)
        have plain : Node.ofText entry.1 = .plain entry.1 := by
          rw [Node.ofText, if_neg (ne_true_of_eq_false unquoted), Node.plain]
        exact ⟨entry.1, plain, name, block⟩

/-- A field is written as a scalar or as a block of lines. -/
theorem isValue_of_isField (keys : ∀ name ∈ names, IsKey name) {datum : Datum} :
    datum.IsField names → IsValue datum.toNode
  | .null => .plain (by decide)
  | .integer value => .plain (isPlain_digits (toList_toString value.toNat))
  | .string text => isValue_ofText text
  | @Datum.IsField.sequence _ items filled records => by
      refine .sequence (.of_forall ?_ ?_)
      · simpa [toNodes_eq_map] using filled
      · rw [toNodes_eq_map]
        exact List.forall_mem_map.2 fun item member =>
          areEntries_of_isRecord keys (records item member)

end

/-- Records whose names are keys are read back, however deep they nest. -/
theorem readsBack (keys : ∀ name ∈ names, IsKey name) (limit : Nat) :
    format.ReadsBack names limit := by
  intro record fits _
  obtain ⟨entries, shape, block⟩ := areEntries_of_isRecord keys fits
  have reads := block.documents?_write
  rw [← shape] at reads
  exact ⟨record.toNode, reads, presents_toNode record⟩

end Yaml

end Behavior

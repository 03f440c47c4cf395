import Behavior.Format
import Mathlib.Data.List.Forall2

namespace Behavior

namespace Datum

mutual

/-- How many collections of a datum stand within each other. -/
def nesting : Datum → Nat
  | .null => 0
  | .integer _ => 0
  | .string _ => 0
  | .sequence items => 1 + itemNesting items
  | .mapping entries => 1 + entryNesting entries

def itemNesting : List Datum → Nat
  | [] => 0
  | item :: rest => max item.nesting (itemNesting rest)

def entryNesting : List (String × Datum) → Nat
  | [] => 0
  | (_, value) :: rest => max value.nesting (entryNesting rest)

end

/-- A list nests within a bound if each of its items does. -/
theorem itemNesting_le_iff {items : List Datum} {bound : Nat} :
    itemNesting items ≤ bound ↔ ∀ item ∈ items, item.nesting ≤ bound := by
  induction items with
  | nil => simp [itemNesting]
  | cons item rest inductionHypothesis =>
      rw [itemNesting, Nat.max_le, inductionHypothesis, List.forall_mem_cons]

mutual

/-- A record is a mapping from some of the names, each of which stands once. -/
inductive IsRecord (names : List String) : Datum → Prop
  | mapping {entries : List (String × Datum)} (filled : entries ≠ [])
      (named : ∀ entry ∈ entries, entry.1 ∈ names) (distinct : (entries.map Prod.fst).Nodup)
      (fields : ∀ entry ∈ entries, IsField names entry.2) : IsRecord names (.mapping entries)

/-- A field of a record is a scalar, or a list of records that is not empty. -/
inductive IsField (names : List String) : Datum → Prop
  | null : IsField names .null
  | integer (value : UInt32) : IsField names (.integer value)
  | string (text : String) : IsField names (.string text)
  | sequence {items : List Datum} (filled : items ≠ [])
      (records : ∀ item ∈ items, IsRecord names item) : IsField names (.sequence items)

end

end Datum

namespace Format

variable {format : Format}

mutual

/-- A document presents a datum if whoever asks for a value of its type is given that very value. -/
inductive Presents (format : Format) : format.Document → Datum → Prop
  | null {document : format.Document} (absent : format.isAbsent document = .ok true) :
      Presents format document .null
  | integer {document : format.Document} {value : UInt32}
      (present : format.isAbsent document = .ok false)
      (reads : format.word32 document = .ok value) : Presents format document (.integer value)
  | string {document : format.Document} {text : String}
      (present : format.isAbsent document = .ok false) (reads : format.text document = .ok text)
      (names : ∀ names, text ∈ names → format.variant names document = .ok text) :
      Presents format document (.string text)
  | sequence {document : format.Document} {items : List Datum} {documents : List format.Document}
      (reads : format.items document = .ok documents)
      (each : List.Forall₂ (Presents format) documents items) :
      Presents format document (.sequence items)
  | mapping {document : format.Document} {entries : List (String × Datum)}
      {documents : List (format.Document × format.Document)}
      (reads : format.content document = .ok (.named documents))
      (each : PresentsEntries format documents entries) : Presents format document (.mapping entries)

inductive PresentsEntries (format : Format) :
    List (format.Document × format.Document) → List (String × Datum) → Prop
  | nil : PresentsEntries format [] []
  | cons {key document : format.Document} {name : String} {value : Datum}
      {documents : List (format.Document × format.Document)} {entries : List (String × Datum)}
      (named : format.text key = .ok name) (presents : Presents format document value)
      (later : PresentsEntries format documents entries) :
      PresentsEntries format ((key, document) :: documents) ((name, value) :: entries)

end

/-- What is written of a record is read back as the same mapping, sequences, strings, integers and nulls,
as long as it does not nest deeper than the limit. -/
def ReadsBack (format : Format) (names : List String) (limit : Nat) : Prop :=
  ∀ record : Datum, record.IsRecord names → record.nesting ≤ limit →
    ∃ document, format.documents? (format.write record) = some [document] ∧
      format.Presents document record

end Format
end Behavior

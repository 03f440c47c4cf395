import Behavior.Proofs.Phrase.Order
import Behavior.Proofs.Snapshot.Record
import Behavior.Proofs.Yaml.Faithful

namespace Behavior

/-- What is decoded first is given to what comes next. -/
theorem Decoder.bind_ok {First Second : Type} {decoder : Decoder First} {first : First}
    {next : First → Decoder Second} (decodes : decoder = .ok first) :
    (do let first ← decoder; next first) = next first := by
  rw [decodes]
  rfl

open Decoder

namespace Format

variable {format : Format} {document : format.Document} {content : String}

/-- The first entry of a record is decoded by the field of its name, and then the others are. -/
theorem entries_of_presents {Parts : Type} {fields : List (format.Field Parts)}
    {field : format.Field Parts} {seen : List String} {parts later : Parts} {name : String}
    {value : Datum} {data : List (String × Datum)}
    {documents : List (format.Document × format.Document)} {result : Decoder Parts}
    (presents : format.PresentsEntries documents ((name, value) :: data))
    (known : (fields.find? fun field => field.name == name) = some field)
    (fresh : seen.contains name = false)
    (decodes : ∀ document, format.Presents document value →
      field.decode parts document = .ok later)
    (rest : ∀ others, format.PresentsEntries others data →
      entries fields (name :: seen) later others = result) :
    entries fields seen parts documents = result := by
  cases presents with
  | cons named presents others =>
      rw [entries, named]
      simp only [bind, Except.bind, known, fresh, decodes _ presents, Bool.false_eq_true, if_false]
      exact rest _ others

/-- An absent value is decoded as none. -/
theorem option_absent {Item : Type} {decode : format.Document → Decoder Item}
    (absent : format.isAbsent document = .ok true) : format.option decode document = .ok none := by
  rw [option, absent]
  rfl

/-- A present value is decoded as it would be by itself. -/
theorem option_present {Item : Type} {decode : format.Document → Decoder Item} {item : Item}
    (present : format.isAbsent document = .ok false) (decodes : decode document = .ok item) :
    format.option decode document = .ok (some item) := by
  rw [option, present]
  simp only [bind, Except.bind, decodes]
  rfl

theorem text_of_presents (presents : format.Presents document (.string content)) :
    format.text document = .ok content := by
  cases presents with
  | string _ reads _ => exact reads

/-- A text is never taken for an absent one. -/
theorem option_text_of_presents (presents : format.Presents document (.string content)) :
    format.option format.text document = .ok (some content) := by
  cases presents with
  | string present reads _ => exact option_present present reads

end Format

variable {format : Format} {document : format.Document}

/-- A number is decoded from its integer. -/
theorem NodeId.decode_of_presents {id : NodeId} (presents : format.Presents document id.toDatum) :
    decode format document = .ok id := by
  cases presents with
  | integer _ reads => exact bind_ok reads

/-- The last status is told from a missing one. -/
theorem Status.decode_of_presents {last : Option Status}
    (presents : format.Presents document ((last.map toDatum).getD .null)) :
    format.option (decode format) document = .ok last := by
  match last with
  | none =>
      cases presents with
      | null absent => exact Format.option_absent absent
  | some status =>
      cases presents with
      | string present _ variant =>
          have listed : status.name ∈ names := by cases status <;> decide
          have known : ofName? status.name = some status := by cases status <;> rfl
          refine Format.option_present present ((bind_ok (variant names listed)).trans ?_)
          rw [known]
          rfl

namespace Snapshot

variable {decodeChildren : format.Document → Decoder (List Snapshot)}

/-- A list is decoded item by item. -/
theorem mapM_of_presents {decode : format.Document → Decoder Snapshot} {children : List Snapshot}
    {documents : List format.Document}
    (each : List.Forall₂ format.Presents documents (children.map toDatum))
    (decodes : ∀ child ∈ children, ∀ document, format.Presents document child.toDatum →
      decode document = .ok child) : documents.mapM decode = .ok children := by
  induction children generalizing documents with
  | nil =>
      cases each
      rfl
  | cons child rest inductionHypothesis =>
      obtain ⟨document, others, presents, later, rfl⟩ := List.forall₂_cons_right_iff.1 each
      obtain ⟨here, below⟩ := List.forall_mem_cons.1 decodes
      rw [List.mapM_cons, here document presents, inductionHypothesis later below]
      rfl

/-- The last status and the children complete a draft, whether or not it has a label. -/
theorem entries_last {last : Option Status} {children : List Snapshot} {seen : List String}
    {draft : Draft} {documents : List (format.Document × format.Document)}
    (presents : format.PresentsEntries documents
      (("last_status", (last.map Status.toDatum).getD .null) ::
        if children.isEmpty then [] else [("children", .sequence (children.map toDatum))]))
    (freshLast : seen.contains "last_status" = false)
    (freshChildren : seen.contains "children" = false)
    (decodes : children ≠ [] → ∀ document,
      format.Presents document (.sequence (children.map toDatum)) →
        decodeChildren document = .ok children) (childless : draft.children = []) :
    Format.entries (Draft.fields format decodeChildren) seen draft documents =
      .ok { draft with last := some last, children } := by
  refine Format.entries_of_presents presents rfl freshLast
    (fun _ status => bind_ok (Status.decode_of_presents status)) fun others later => ?_
  match children with
  | [] =>
      cases later
      cases draft
      cases childless
      rfl
  | child :: rest =>
      have fresh : ("last_status" :: seen).contains "children" = false := by
        rw [List.contains_cons, freshChildren]
        rfl
      rw [List.isEmpty_cons, if_neg Bool.false_ne_true] at later
      refine Format.entries_of_presents later rfl fresh
        (fun document listed => bind_ok (decodes (List.cons_ne_nil child rest) document listed))
        fun _ finished => ?_
      cases finished
      rfl

/-- A record reads back if its children do. -/
theorem decodeRecord_of_presents {snapshot : Snapshot}
    (presents : format.Presents document snapshot.toDatum)
    (decodes : snapshot.children ≠ [] → ∀ document,
      format.Presents document (.sequence (snapshot.children.map toDatum)) →
        decodeChildren document = .ok snapshot.children) :
    decodeRecord format decodeChildren document = .ok snapshot := by
  obtain ⟨id, kind, label, last, children⟩ := snapshot
  rw [toDatum_eq] at presents
  cases presents with
  | @mapping _ _ documents content each =>
      have read : Format.entries (Draft.fields format decodeChildren) [] Draft.named documents =
          .ok ⟨some id, some kind, label, some last, children⟩ := by
        simp only [entries, List.cons_append, List.nil_append] at each
        refine Format.entries_of_presents each rfl rfl
          (fun _ presents => bind_ok (NodeId.decode_of_presents presents)) fun _ each => ?_
        refine Format.entries_of_presents each rfl rfl
          (fun _ presents => bind_ok (Format.text_of_presents presents)) fun _ each => ?_
        cases label with
        | none => exact entries_last each rfl rfl decodes rfl
        | some label =>
            refine Format.entries_of_presents each rfl rfl
              (fun _ presents => bind_ok (Format.option_text_of_presents presents)) fun _ each => ?_
            exact entries_last each rfl rfl decodes rfl
      have recorded : Format.record (Draft.fields format decodeChildren) Draft.named Draft.ordered
          document = .ok ⟨some id, some kind, label, some last, children⟩ :=
        (bind_ok content).trans read
      rw [decodeRecord]
      exact bind_ok recorded

/-- A document reads back as long as it nests no deeper than its reader allows. -/
theorem decodeWithin_of_presents (depth : Nat) {snapshot : Snapshot} {document : format.Document}
    (presents : format.Presents document snapshot.toDatum)
    (shallow : snapshot.toDatum.nesting ≤ depth) :
    decodeWithin format depth document = .ok snapshot := by
  obtain ⟨positive, deeper⟩ := (nesting_toDatum_le_iff snapshot depth).1 shallow
  match depth with
  | 1 =>
      refine decodeRecord_of_presents presents fun nonempty => ?_
      obtain ⟨child, member⟩ := List.exists_mem_of_ne_nil snapshot.children nonempty
      exact absurd (deeper child member) (by omega)
  | depth + 2 =>
      have each : ∀ child ∈ snapshot.children, ∀ document, format.Presents document child.toDatum →
          decodeWithin format depth document = .ok child := fun child member _ presents =>
        decodeWithin_of_presents depth presents (Nat.le_of_add_le_add_right (deeper child member))
      refine decodeRecord_of_presents presents fun _ _ listed => ?_
      cases listed with
      | sequence reads items => exact (bind_ok reads).trans (mapM_of_presents items each)

/-- The snapshot of a node nests no deeper than the paths from the node on allow. -/
theorem nesting_capture_le {A : Agent} {node : Node A} {limit : Nat}
    (short : ∀ path part, node.descendant? path = some part → 2 * path.length < limit) :
    (capture node).toDatum.nesting ≤ limit := by
  induction node using Node.induction generalizing limit with
  | step tag body inductionHypothesis =>
      rw [capture_eq, nesting_toDatum_le_iff]
      refine ⟨short [] _ rfl, fun snapshot member => ?_⟩
      obtain ⟨child, listed, rfl⟩ := List.mem_map.1 member
      obtain ⟨position, present⟩ := List.mem_iff_getElem?.1 listed
      have below (path : Place) (part : Node A) (found : child.descendant? path = some part) :
          2 * path.length + 2 < limit := by
        have further := short (path ++ [position]) part (by
          rw [Node.descendant?_concat, Node.children, present, Option.bind_some, found])
        rw [List.length_append, List.length_singleton] at further
        omega
      -- A child is one step nearer to what lies below it, and two collections deeper.
      have shallow := @inductionHypothesis child listed (limit - 2) fun path part found => by
        have deeper := below path part found
        omega
      have here := below [] child rfl
      omega

/-- The text holds one document, which is decoded as the snapshot that it was written for. -/
theorem read_serialize {limit : Nat} (faithful : format.ReadsBack names limit) {snapshot : Snapshot}
    (shallow : snapshot.toDatum.nesting ≤ limit) :
    format.read (decodeWithin format limit) (serialize format snapshot) = .ok snapshot := by
  obtain ⟨document, read, presents⟩ := faithful snapshot.toDatum snapshot.isRecord_toDatum shallow
  rw [Format.read, serialize, read]
  exact bind_ok (decodeWithin_of_presents limit presents shallow)

/-- A snapshot of any shape reads back as it has been from the text that a format makes of it, if the
format reads back the data that it writes as long as they nest within the limit. In particular the
snapshot of a tree in any state reads back if none of its nodes is 64 or more below the root, for a node
and the list of its children are two of the 128 collections that are allowed. Two snapshots never share
a text that can be read back. -/
theorem reads_back (format : Format) (faithful : format.ReadsBack names nestingLimit) :
    (∀ snapshot : Snapshot, snapshot.toDatum.nesting ≤ nestingLimit →
      deserialize format (serialize format snapshot) = .ok snapshot) ∧
    (∀ {A : Agent} {D : Type} (tree : Tree A D),
      (∀ path node, tree.root.descendant? path = some node → path.length < 64) →
        deserialize format (serialize format tree.snapshot) = .ok tree.snapshot) ∧
    (∀ limit, format.ReadsBack names limit → ∀ first second : Snapshot,
      first.toDatum.nesting ≤ limit → second.toDatum.nesting ≤ limit →
        serialize format first = serialize format second → first = second) := by
  refine ⟨fun snapshot => read_serialize faithful, ?_, ?_⟩
  · intro A D tree short
    refine read_serialize faithful (nesting_capture_le fun path node found => ?_)
    have near := short path node found
    rw [nestingLimit]
    omega
  · intro limit faithful first second shallow deep same
    have readsFirst := read_serialize faithful shallow
    have readsSecond := read_serialize faithful deep
    rw [same, readsSecond] at readsFirst
    exact (Except.ok.inj readsFirst).symm

/-- Three children whose labels are empty, a word for null and a number, below a running root. -/
def labelled : Snapshot :=
  ⟨⟨0⟩, "Parallel", none, some .running,
    [⟨⟨1⟩, "Condition", some "", some .success, []⟩, ⟨⟨2⟩, "Action", some "null", none, []⟩,
      ⟨⟨3⟩, "", some "1e3", some .failure, []⟩]⟩

/-- With the texts of this library the sample reads back, a tree of two nodes reads back, and a missing
label is told from an empty one. -/
theorem labelled_reads_back :
    Yaml.format.ReadsBack names nestingLimit ∧
    ofYaml labelled.toYaml = .ok labelled ∧
    ofYaml Tree.watched.snapshot.toYaml = .ok Tree.watched.snapshot ∧
    toYaml ⟨⟨0⟩, "Action", none, none, []⟩ ≠ toYaml ⟨⟨0⟩, "Action", some "", none, []⟩ := by
  have keys : ∀ name ∈ names, Yaml.IsKey name := by decide
  have faithful := Yaml.readsBack keys
  obtain ⟨reads, reached, injective⟩ := reads_back Yaml.format (faithful nestingLimit)
  refine ⟨faithful nestingLimit, reads labelled (by decide), reached Tree.watched ?_,
    fun same => ?_⟩
  · intro path node found
    exact Nat.lt_trans (Node.length_lt_of_descendant? found) (by decide)
  · cases injective 1 (faithful 1) _ _ (by decide) (by decide) same

end Snapshot

end Behavior

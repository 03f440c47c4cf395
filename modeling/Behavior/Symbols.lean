namespace Behavior

/-- A symbol is the position of its text in the table. -/
structure Symbol where
  position : Nat
  deriving DecidableEq, Repr

/-- The texts of a table are distinct and stand in the order of their first use. -/
structure SymbolTable where
  texts : List String

namespace SymbolTable

def empty : SymbolTable := ⟨[]⟩

def count (table : SymbolTable) : Nat := table.texts.length

/-- A known text keeps its symbol, and a new one is added at the end. -/
def intern (table : SymbolTable) (text : String) : Symbol × SymbolTable :=
  (⟨table.texts.idxOf text⟩,
    if text ∈ table.texts then table else ⟨table.texts ++ [text]⟩)

def internAll (table : SymbolTable) : List String → List Symbol × SymbolTable
  | [] => ([], table)
  | text :: rest =>
      let (symbol, table) := table.intern text
      let (symbols, table) := table.internAll rest
      (symbol :: symbols, table)

def text? (table : SymbolTable) (symbol : Symbol) : Option String := table.texts[symbol.position]?

/-- A symbol stands for the text that it has been made for. -/
theorem text?_intern (table : SymbolTable) (text : String) :
    (table.intern text).2.text? (table.intern text).1 = some text := by
  by_cases known : text ∈ table.texts
  · simp only [intern, known, text?, if_true]
    have inside := List.idxOf_lt_length_of_mem known
    rw [List.getElem?_eq_getElem inside, List.getElem_idxOf]
  · simp only [intern, known, text?, if_false, List.idxOf_eq_length known]
    exact List.getElem?_concat_length

end SymbolTable

end Behavior

import Mathlib.Data.List.SplitBy
import PackGate.Proofs.Path.Grammar
import PackGate.Repository

/-! Repositories lie directly in the directory that they are opened from, each under its name. -/

namespace PackGate

namespace FilePath

/-! ## Paths with one more name -/

/-- A name that can be that of an entry in a directory. -/
structure Component (name : String) : Prop where
  /-- There is a name. -/
  named : name ≠ ""
  /-- It does not lead to where it stands. -/
  undotted : name ≠ "."
  /-- It does not lead up. -/
  below : name ≠ ".."
  /-- It is not split by separators. -/
  plain : '/' ∉ name.toList

/-- No letter of such a name is a separator. -/
theorem Component.ordinary {name : String} (component : Component name) {letter : Char}
    (member : letter ∈ name.toList) : (letter == '/') = false := by
  simpa using fun same : letter = '/' => component.plain (same ▸ member)

end FilePath

/-! ## Identifiers -/

end PackGate

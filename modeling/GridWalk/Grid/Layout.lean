import GridWalk.Cell
import GridWalk.Grid.Fault

/-! Layouts: rows of cells, the top row first, before anything is known of their shape. -/

namespace GridWalk

abbrev Layout := List (List Cell)

namespace Layout

def width (layout : Layout) : Nat := (layout.head?.map List.length).getD 0

def height (layout : Layout) : Nat := layout.length

/-- The cell in row `p.y` and column `p.x`. -/
def cell? (layout : Layout) (p : Position) : Option Cell :=
  layout[p.y.toNat]?.bind (·[p.x.toNat]?)

/-- The hero can stand on `p`: it is a cell and not a wall. -/
def isOpen (layout : Layout) (p : Position) : Bool := (layout.cell? p).any (· != .wall)

def coinCount (layout : Layout) : Nat := layout.flatten.count .coin

def startFault? (layout : Layout) (p : Position) : Option GridFault :=
  match layout.cell? p with
  | none => some (.startOutOfBounds p layout.width layout.height)
  | some .wall => some (.startOnWall p)
  | some _ => none

/-- The first row that is not as long as the top row, with its index. -/
def raggedRow? (layout : Layout) : Option (List Cell × Nat) :=
  layout.zipIdx.find? fun (row, _) => row.length != layout.width

theorem startFault?_eq_none_iff {layout : Layout} {p : Position} :
    layout.startFault? p = none ↔ layout.isOpen p = true := by
  unfold startFault? isOpen
  split <;> simp_all

theorem raggedRow?_eq_none_iff {layout : Layout} :
    layout.raggedRow? = none ↔ ∀ row ∈ layout, row.length = layout.width := by
  simp only [raggedRow?, List.find?_eq_none, bne_iff_ne, ne_eq, Decidable.not_not]
  constructor
  · intro h row hrow
    obtain ⟨i, hi, rfl⟩ := List.mem_iff_getElem.1 hrow
    exact h (layout[i], i) (List.mk_mem_zipIdx_iff_getElem?.2 (by simp [hi]))
  · rintro h ⟨row, i⟩ hrow
    exact h row (List.fst_mem_of_mem_zipIdx hrow)

end Layout

end GridWalk

import GridWalk.Grid.Basic
import Mathlib.Algebra.Group.Prod
import Mathlib.Data.UInt

/-! Levels in the plane of integer points.  Every point has four neighbours there, and the points
outside of a level have no cell.  A position is a point whose coordinates are 32-bit numbers. -/

namespace GridWalk

/-- A column and a row.  Rows grow downward. -/
abbrev Point := Int × Int

/-- The way from a point to its neighbour in a direction. -/
def Direction.offset : Direction → Point
  | up => (0, -1)
  | down => (0, 1)
  | left => (-1, 0)
  | right => (1, 0)

namespace Position

def point (p : Position) : Point := (p.x.toNat, p.y.toNat)

theorem point_injective : Function.Injective point := by
  intro p q h
  obtain ⟨hx, hy⟩ := Prod.mk.inj h
  have x : p.x = q.x := UInt32.toNat_inj.1 (by exact_mod_cast hx)
  have y : p.y = q.y := UInt32.toNat_inj.1 (by exact_mod_cast hy)
  cases p
  cases q
  simp_all

theorem toNat_sub_one {n : UInt32} (h : n ≠ 0) : ((n - 1).toNat : Int) = n.toNat + -1 := by
  have hpos : n.toNat ≠ 0 := fun hn => h (UInt32.toNat_inj.1 hn)
  have hle : (1 : UInt32) ≤ n := by
    rw [UInt32.le_iff_toNat_le, UInt32.toNat_one]
    omega
  rw [UInt32.toNat_sub_of_le _ _ hle, UInt32.toNat_one]
  omega

theorem toNat_add_one {n : UInt32} (h : n ≠ 0xFFFFFFFF) : ((n + 1).toNat : Int) = n.toNat + 1 := by
  have hmax : n.toNat ≠ 0xFFFFFFFF := fun hn => h (UInt32.toNat_inj.1 hn)
  have hlt := n.toNat_lt
  rw [UInt32.toNat_add, UInt32.toNat_one, Nat.mod_eq_of_lt (by omega)]
  omega

theorem point_step {p q : Position} {d : Direction} (h : p.step d = some q) :
    q.point = p.point + d.offset := by
  cases d with
  | up =>
    obtain ⟨hy, hq⟩ := Option.ite_none_left_eq_some.1 h
    obtain rfl := Option.some.inj hq
    exact Prod.ext (Int.add_zero _).symm (toNat_sub_one hy)
  | down =>
    obtain ⟨hy, hq⟩ := Option.ite_none_left_eq_some.1 h
    obtain rfl := Option.some.inj hq
    exact Prod.ext (Int.add_zero _).symm (toNat_add_one hy)
  | left =>
    obtain ⟨hx, hq⟩ := Option.ite_none_left_eq_some.1 h
    obtain rfl := Option.some.inj hq
    exact Prod.ext (toNat_sub_one hx) (Int.add_zero _).symm
  | right =>
    obtain ⟨hx, hq⟩ := Option.ite_none_left_eq_some.1 h
    obtain rfl := Option.some.inj hq
    exact Prod.ext (toNat_add_one hx) (Int.add_zero _).symm

end Position

namespace Grid

def cellAt? (grid : Grid) (q : Point) : Option Cell :=
  if 0 ≤ q.1 ∧ 0 ≤ q.2 then grid.layout[q.2.toNat]?.bind (·[q.1.toNat]?) else none

theorem cellAt?_point (grid : Grid) (p : Position) : grid.cellAt? p.point = grid.cell? p := by
  simp [cellAt?, Position.point, cell?, Layout.cell?]

/-- A point with a cell lies between the sides of the level. -/
theorem bounds_of_cellAt? {grid : Grid} {q : Point} {cell : Cell}
    (h : grid.cellAt? q = some cell) :
    0 ≤ q.1 ∧ q.1.toNat < grid.layout.width ∧ 0 ≤ q.2 ∧ q.2.toNat < grid.layout.height := by
  unfold cellAt? at h
  split at h
  next hq =>
    obtain ⟨row, hrow, hcell⟩ := Option.bind_eq_some_iff.1 h
    have hlength := grid.rectangular row (List.mem_of_getElem? hrow)
    have hy := (List.getElem?_eq_some_iff.1 hrow).1
    have hx := (List.getElem?_eq_some_iff.1 hcell).1
    exact ⟨hq.1, hlength ▸ hx, hq.2, hy⟩
  · cases h

/-- A step that would leave the range of positions would leave the level. -/
theorem cellAt?_of_step_eq_none {grid : Grid} {p : Position} {d : Direction}
    (h : p.step d = none) : grid.cellAt? (p.point + d.offset) = none := by
  rw [Option.eq_none_iff_forall_ne_some]
  intro cell hcell
  obtain ⟨hx, hwidth, hy, hheight⟩ := bounds_of_cellAt? hcell
  have hw := grid.width_lt
  have hh := grid.height_lt
  simp only [UInt32.size] at hw hh
  cases d with
  | up =>
    have hp : p.y = 0 := by simpa [Position.step] using h
    simp [Position.point, Direction.offset, hp] at hy
  | down =>
    have hp : p.y = 0xFFFFFFFF := by simpa [Position.step] using h
    simp [Position.point, Direction.offset, hp] at hheight
    omega
  | left =>
    have hp : p.x = 0 := by simpa [Position.step] using h
    simp [Position.point, Direction.offset, hp] at hx
  | right =>
    have hp : p.x = 0xFFFFFFFF := by simpa [Position.step] using h
    simp [Position.point, Direction.offset, hp] at hwidth
    omega

theorem isOpen_iff {grid : Grid} {p : Position} :
    grid.isOpen p = true ↔ ∃ cell, grid.cellAt? p.point = some cell ∧ cell ≠ .wall := by
  rw [cellAt?_point]
  simp [isOpen, Layout.isOpen, cell?, Option.any_eq_true]

end Grid

end GridWalk

import GridWalk.Grid.Layout

/-! Level grids.  A grid is a layout of full rows together with a start, and holding one is proof
that the layout is a rectangle with at least one cell, that its sides are 32-bit numbers, and that
the hero can stand on the start. -/

namespace GridWalk

structure Grid where
  layout : Layout
  start : Position
  width_pos : 0 < layout.width
  rectangular : ∀ row ∈ layout, row.length = layout.width
  width_lt : layout.width < UInt32.size
  height_lt : layout.height < UInt32.size
  start_open : layout.isOpen start = true
  deriving DecidableEq, Repr

namespace Grid

def width (grid : Grid) : UInt32 := .ofNat grid.layout.width

def height (grid : Grid) : UInt32 := .ofNat grid.layout.height

def cell? (grid : Grid) (p : Position) : Option Cell := grid.layout.cell? p

def isOpen (grid : Grid) (p : Position) : Bool := grid.layout.isOpen p

def coinCount (grid : Grid) : Nat := grid.layout.coinCount

def startFault? (grid : Grid) (p : Position) : Option GridFault := grid.layout.startFault? p

/-- The grid with the given layout and start.  The layout is checked before the start. -/
def ofLayout (layout : Layout) (start : Position) : Except GridFault Grid :=
  if hw : layout.width = 0 then .error .emptyLayout
  else
    match hr : layout.raggedRow? with
    | some (row, i) => .error (.raggedRow i layout.width row.length)
    | none =>
      if hs : layout.width < UInt32.size ∧ layout.height < UInt32.size then
        match ho : layout.startFault? start with
        | some fault => .error fault
        | none =>
          .ok ⟨layout, start, Nat.pos_of_ne_zero hw, Layout.raggedRow?_eq_none_iff.1 hr, hs.1,
            hs.2, Layout.startFault?_eq_none_iff.1 ho⟩
      else .error (.tooLarge layout.width layout.height)

/-- A grid is accepted again as it stands. -/
theorem ofLayout_layout (grid : Grid) : ofLayout grid.layout grid.start = .ok grid := by
  unfold ofLayout
  rw [dif_neg (Nat.ne_of_gt grid.width_pos)]
  have hr := Layout.raggedRow?_eq_none_iff.2 grid.rectangular
  have ho := Layout.startFault?_eq_none_iff.2 grid.start_open
  split
  · simp_all
  · rw [dif_pos ⟨grid.width_lt, grid.height_lt⟩]
    split <;> simp_all

end Grid

/-- A level as it is written down.  A `size` that is given has to be both sides of a square. -/
structure GridDescriptor where
  size : Option UInt64
  layout : Layout
  start : Position
  deriving DecidableEq, Repr

namespace GridDescriptor

/-- The grid of a description.  The declared size is checked first. -/
def grid (d : GridDescriptor) : Except GridFault Grid :=
  match d.size with
  | none => Grid.ofLayout d.layout d.start
  | some declared =>
    if declared.toNat = d.layout.width ∧ declared.toNat = d.layout.height then
      Grid.ofLayout d.layout d.start
    else .error (.sizeMismatch declared.toNat d.layout.width d.layout.height)

/-- The description of a grid, which declares no size. -/
def ofGrid (grid : Grid) : GridDescriptor := ⟨none, grid.layout, grid.start⟩

theorem grid_ofGrid (g : Grid) : (ofGrid g).grid = .ok g := g.ofLayout_layout

end GridDescriptor

end GridWalk

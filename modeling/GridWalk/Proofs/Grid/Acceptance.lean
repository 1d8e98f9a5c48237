import GridWalk.Grid.Ascii
import GridWalk.Proofs.Grid.Coins
import GridWalk.Proofs.Wire.RoundTrip
import GridWalk.Run

/-! Which levels are accepted, and what is true of a grid however it was made.  `Fits` and `Refused`
say of a layout and a start, without the checks, that a grid can be made of them and why not.
`MadeFrom` lists the ways in which grids are made, and `Shows` is what all grids have in common. -/

namespace GridWalk

namespace Layout

/-- A layout of full rows, the first of which has a cell. -/
structure Rectangular (layout : Layout) (first : List Cell) : Prop where
  head : layout.head? = some first
  cells : first ≠ []
  full : ∀ row ∈ layout, row.length = first.length

/-- The start lies inside of a layout whose first row is `first`. -/
def Inside (layout : Layout) (first : List Cell) (start : Position) : Prop :=
  start.x.toNat < first.length ∧ start.y.toNat < layout.length

/-- The hero can start there. -/
def Fits (layout : Layout) (start : Position) : Prop :=
  ∃ first, layout.Rectangular first ∧ layout.Inside first start ∧ layout.cell? start ≠ some .wall

/-- Why the hero cannot start there.  Each reason counts only where none before it applies. -/
inductive Refused (layout : Layout) (start : Position) : GridFault → Prop
  | emptyLayout (empty : layout.head? = none ∨ layout.head? = some []) :
      Refused layout start .emptyLayout
  | raggedRow {first row : List Cell} {i : Nat} (head : layout.head? = some first)
      (cells : first ≠ []) (here : layout[i]? = some row) (differs : row.length ≠ first.length)
      (full_before : ∀ j < i, ∀ other, layout[j]? = some other → other.length = first.length) :
      Refused layout start (.raggedRow i first.length row.length)
  | startOutOfBounds {first : List Cell} (rectangular : layout.Rectangular first)
      (outside : ¬ layout.Inside first start) :
      Refused layout start (.startOutOfBounds start first.length layout.length)
  | startOnWall {first : List Cell} (rectangular : layout.Rectangular first)
      (wall : layout.cell? start = some .wall) : Refused layout start (.startOnWall start)

variable {layout : Layout} {first : List Cell} {start p : Position} {fault : GridFault}

theorem width_of_head (h : layout.head? = some first) : layout.width = first.length := by
  simp [width, h]

theorem width_eq_zero_iff :
    layout.width = 0 ↔ layout.head? = none ∨ layout.head? = some [] := by
  cases layout <;> simp [width]

theorem height_pos_of_width_pos (h : 0 < layout.width) : 0 < layout.height := by
  cases layout with
  | nil => cases h
  | cons row rows => exact Nat.succ_pos _

theorem isSome_cell?_iff (hfull : ∀ row ∈ layout, row.length = layout.width) :
    (layout.cell? p).isSome = true ↔ p.x.toNat < layout.width ∧ p.y.toNat < layout.height := by
  rw [cell?, height]
  by_cases hy : p.y.toNat < layout.length
  · rw [List.getElem?_eq_getElem hy, Option.bind_some, ← hfull _ (List.getElem_mem hy)]
    simp [hy]
  · rw [List.getElem?_eq_none (Nat.le_of_not_lt hy)]
    simp [hy]

theorem startFault?_eq_some_iff : layout.startFault? p = some fault ↔
    layout.cell? p = none ∧ fault = .startOutOfBounds p layout.width layout.height ∨
    layout.cell? p = some .wall ∧ fault = .startOnWall p := by
  unfold startFault?
  cases layout.cell? p with
  | none => simp [eq_comm]
  | some cell => cases cell <;> simp [eq_comm]

theorem raggedRow?_eq_some_iff {row : List Cell} {i : Nat} :
    layout.raggedRow? = some (row, i) ↔ layout[i]? = some row ∧ row.length ≠ layout.width ∧
      ∀ j < i, ∀ other, layout[j]? = some other → other.length = layout.width := by
  rw [raggedRow?, List.find?_eq_some_iff_getElem]
  simp only [bne_iff_ne, List.getElem_zipIdx, List.length_zipIdx, Prod.mk.injEq, Nat.zero_add]
  constructor
  · rintro ⟨hdiffers, k, hk, ⟨hrow, rfl⟩, hbefore⟩
    refine ⟨List.getElem?_eq_some_iff.2 ⟨hk, hrow⟩, hdiffers, fun j hj other hother => ?_⟩
    obtain ⟨-, rfl⟩ := List.getElem?_eq_some_iff.1 hother
    simpa using hbefore j hj
  · rintro ⟨hrow, hdiffers, hbefore⟩
    obtain ⟨hi, rfl⟩ := List.getElem?_eq_some_iff.1 hrow
    refine ⟨hdiffers, i, hi, ⟨rfl, rfl⟩, fun j hj => ?_⟩
    simpa using hbefore j hj _ (List.getElem?_eq_getElem (Nat.lt_trans hj hi))

namespace Rectangular

theorem width (h : layout.Rectangular first) : layout.width = first.length := width_of_head h.head

theorem width_ne_zero (h : layout.Rectangular first) : layout.width ≠ 0 := by
  rw [h.width]
  simpa using h.cells

theorem raggedRow?_eq_none (h : layout.Rectangular first) : layout.raggedRow? = none := by
  rw [raggedRow?_eq_none_iff, h.width]
  exact h.full

theorem isSome_cell?_iff (h : layout.Rectangular first) :
    (layout.cell? p).isSome = true ↔ layout.Inside first p := by
  rw [Layout.isSome_cell?_iff (h.width ▸ h.full), h.width]
  rfl

end Rectangular

/-- A layout and a start make a grid or are refused for some reason. -/
theorem fits_or_refused (layout : Layout) (start : Position) :
    layout.Fits start ∨ ∃ fault, layout.Refused start fault := by
  by_cases hempty : layout.width = 0
  · exact .inr ⟨_, .emptyLayout (width_eq_zero_iff.1 hempty)⟩
  obtain ⟨first, hfirst⟩ : ∃ first, layout.head? = some first := by
    cases layout with
    | nil => exact absurd rfl hempty
    | cons first rows => exact ⟨first, rfl⟩
  have hwidth := width_of_head hfirst
  have hcells : first ≠ [] := by
    rintro rfl
    exact hempty hwidth
  cases hragged : layout.raggedRow? with
  | some found =>
    obtain ⟨row, i⟩ := found
    obtain ⟨hrow, hdiffers, hbefore⟩ := raggedRow?_eq_some_iff.1 hragged
    rw [hwidth] at hdiffers hbefore
    exact .inr ⟨_, .raggedRow hfirst hcells hrow hdiffers hbefore⟩
  | none =>
    have hfull := raggedRow?_eq_none_iff.1 hragged
    rw [hwidth] at hfull
    have hrectangular : layout.Rectangular first := ⟨hfirst, hcells, hfull⟩
    by_cases hinside : layout.Inside first start
    · by_cases hwall : layout.cell? start = some .wall
      · exact .inr ⟨_, .startOnWall hrectangular hwall⟩
      · exact .inl ⟨first, hrectangular, hinside, hwall⟩
    · exact .inr ⟨_, .startOutOfBounds hrectangular hinside⟩

end Layout

namespace Grid

variable {layout : Layout} {start : Position} {fault : GridFault} {grid : Grid}

theorem ofLayout_of_raggedRow? {row : List Cell} {i : Nat} (hwidth : layout.width ≠ 0)
    (h : layout.raggedRow? = some (row, i)) :
    ofLayout layout start = .error (.raggedRow i layout.width row.length) := by
  rw [ofLayout, dif_neg hwidth]
  split
  next hragged =>
    obtain ⟨rfl, rfl⟩ := Prod.mk.inj (Option.some.inj (h.symm.trans hragged))
    rfl
  next hragged => cases h.symm.trans hragged

theorem ofLayout_of_startFault? {first : List Cell} (hrectangular : layout.Rectangular first)
    (hwidth : layout.width < UInt32.size) (hheight : layout.height < UInt32.size)
    (h : layout.startFault? start = some fault) : ofLayout layout start = .error fault := by
  have hfull := hrectangular.raggedRow?_eq_none
  rw [ofLayout, dif_neg hrectangular.width_ne_zero]
  split
  next hragged => cases hfull.symm.trans hragged
  rw [dif_pos ⟨hwidth, hheight⟩]
  split
  next hstart => rw [Option.some.inj (h.symm.trans hstart)]
  next hstart => cases h.symm.trans hstart

theorem ofLayout_of_refused (h : layout.Refused start fault) (hwidth : layout.width < UInt32.size)
    (hheight : layout.height < UInt32.size) : ofLayout layout start = .error fault := by
  cases h with
  | emptyLayout empty => rw [ofLayout, dif_pos (Layout.width_eq_zero_iff.2 empty)]
  | @raggedRow first row i head cells here differs full_before =>
    have hfirst : layout.width = first.length := Layout.width_of_head head
    have hcells : layout.width ≠ 0 := by simpa [hfirst] using cells
    rw [← hfirst] at differs full_before ⊢
    exact ofLayout_of_raggedRow? hcells
      (Layout.raggedRow?_eq_some_iff.2 ⟨here, differs, full_before⟩)
  | startOutOfBounds rectangular outside =>
    have hcell : layout.cell? start = none := by
      rwa [← rectangular.isSome_cell?_iff, Option.not_isSome_iff_eq_none] at outside
    apply ofLayout_of_startFault? rectangular hwidth hheight
    rw [Layout.startFault?_eq_some_iff, rectangular.width]
    exact .inl ⟨hcell, rfl⟩
  | startOnWall rectangular wall =>
    apply ofLayout_of_startFault? rectangular hwidth hheight
    exact Layout.startFault?_eq_some_iff.2 (.inr ⟨wall, rfl⟩)

theorem exists_ofLayout_of_fits (h : layout.Fits start) (hwidth : layout.width < UInt32.size)
    (hheight : layout.height < UInt32.size) : ∃ grid, ofLayout layout start = .ok grid := by
  obtain ⟨first, hrectangular, hinside, hwall⟩ := h
  have hopen : layout.isOpen start = true := by
    obtain ⟨cell, hcell⟩ := Option.isSome_iff_exists.1 (hrectangular.isSome_cell?_iff.2 hinside)
    rw [hcell] at hwall
    simpa [Layout.isOpen, hcell] using hwall
  exact ⟨_, ofLayout_layout ⟨layout, start, Nat.pos_of_ne_zero hrectangular.width_ne_zero,
    hrectangular.width ▸ hrectangular.full, hwidth, hheight, hopen⟩⟩

/-- Grids are made exactly of the layouts and starts that fit. -/
theorem exists_ofLayout_iff (hwidth : layout.width < UInt32.size)
    (hheight : layout.height < UInt32.size) :
    (∃ grid, ofLayout layout start = .ok grid) ↔ layout.Fits start := by
  refine ⟨?_, fun h => exists_ofLayout_of_fits h hwidth hheight⟩
  rintro ⟨grid, hgrid⟩
  rcases Layout.fits_or_refused layout start with hfits | ⟨fault, hrefused⟩
  · exact hfits
  · cases hgrid.symm.trans (ofLayout_of_refused hrefused hwidth hheight)

/-- The fault is the reason for which a layout and a start are refused. -/
theorem ofLayout_eq_error_iff (hwidth : layout.width < UInt32.size)
    (hheight : layout.height < UInt32.size) :
    ofLayout layout start = .error fault ↔ layout.Refused start fault := by
  refine ⟨fun h => ?_, fun h => ofLayout_of_refused h hwidth hheight⟩
  rcases Layout.fits_or_refused layout start with hfits | ⟨reason, hrefused⟩
  · obtain ⟨grid, hgrid⟩ := exists_ofLayout_of_fits hfits hwidth hheight
    cases hgrid.symm.trans h
  · obtain rfl := Except.error.inj ((ofLayout_of_refused hrefused hwidth hheight).symm.trans h)
    exact hrefused

theorem ofLayout_eq_ok (h : ofLayout layout start = .ok grid) :
    grid.layout = layout ∧ grid.start = start := by
  unfold ofLayout at h
  split at h
  · cases h
  split at h
  · cases h
  split at h
  · split at h
    · cases h
    · obtain rfl := Except.ok.inj h
      exact ⟨rfl, rfl⟩
  · cases h

/-! ### What all grids have in common -/

/-- The position lies inside of the grid. -/
def Contains (grid : Grid) (p : Position) : Prop := p.x < grid.width ∧ p.y < grid.height

/-- A grid with the cells of a layout and with a start on which the hero can stand. -/
structure Shows (grid : Grid) (layout : Layout) (start : Position) : Prop where
  width_pos : 1 ≤ grid.width
  height_pos : 1 ≤ grid.height
  isSome_cell : ∀ p, (grid.cell? p).isSome = true ↔ grid.Contains p
  cell : ∀ p, grid.Contains p → ∃ row cell, layout[p.y.toNat]? = some row ∧
    row[p.x.toNat]? = some cell ∧ grid.cell? p = some cell
  start_eq : grid.start = start
  contains_start : grid.Contains grid.start
  start_open : grid.isOpen grid.start = true
  coins : {p | grid.cell? p = some .coin}.encard = grid.coinCount
  /-- Without a configuration, a run begins at the start. -/
  ofConfig_none : Stance.ofConfig grid .none = .ok (.ofGrid grid)
  /-- A configuration is accepted if it starts inside of the grid and not on a wall. -/
  ofConfig_ok : ∀ (config : RunConfig) (stance : Stance),
    let p := config.start.getD grid.start
    Stance.ofConfig grid config = .ok stance ↔ grid.Contains p ∧ grid.cell? p ≠ some .wall ∧
      stance = ⟨p, config.facing.getD .right⟩
  ofConfig_error : ∀ (config : RunConfig) (fault : GridFault),
    let p := config.start.getD grid.start
    Stance.ofConfig grid config = .error fault ↔
      ¬ grid.Contains p ∧ fault = .startOutOfBounds p grid.width.toNat grid.height.toNat ∨
      grid.cell? p = some .wall ∧ fault = .startOnWall p

/-- The ways in which grids are made, with the layout and the start behind each. -/
inductive MadeFrom : Layout → Position → Grid → Prop
  | ofLayout {layout : Layout} {start : Position} {grid : Grid}
      (made : Grid.ofLayout layout start = .ok grid) : MadeFrom layout start grid
  | ofAscii {text : String} {layout : Layout} {mark : Ascii.Mark} {grid : Grid}
      (read : Ascii.readRows 0 none (Ascii.rows text.toList) = .ok (layout, mark))
      (made : Grid.ofAscii text = .ok grid) : MadeFrom layout (Ascii.position mark) grid
  | ofDescriptor {d : GridDescriptor} {grid : Grid} (made : d.grid = .ok grid) :
      MadeFrom d.layout d.start grid
  | ofJson {text : String} {d : GridDescriptor} {grid : Grid}
      (read : GridDescriptor.codec.read text = .ok d) (made : Grid.codec.read text = .ok grid) :
      MadeFrom d.layout d.start grid

theorem toNat_width (grid : Grid) : grid.width.toNat = grid.layout.width :=
  UInt32.toNat_ofNat_of_lt' grid.width_lt

theorem toNat_height (grid : Grid) : grid.height.toNat = grid.layout.height :=
  UInt32.toNat_ofNat_of_lt' grid.height_lt

theorem isSome_cell?_iff {p : Position} : (grid.cell? p).isSome = true ↔ grid.Contains p := by
  rw [cell?, Layout.isSome_cell?_iff grid.rectangular, ← toNat_width, ← toNat_height, Contains,
    UInt32.lt_iff_toNat_lt, UInt32.lt_iff_toNat_lt]

theorem isOpen_iff_contains {p : Position} :
    grid.isOpen p = true ↔ grid.Contains p ∧ grid.cell? p ≠ some .wall := by
  rw [← isSome_cell?_iff, isOpen, Layout.isOpen, cell?]
  cases grid.layout.cell? p <;> simp

theorem point_image_coins (grid : Grid) :
    Position.point '' {p | grid.cell? p = some .coin} = grid.coins := by
  ext q
  constructor
  · rintro ⟨p, hp, rfl⟩
    exact (grid.cellAt?_point p).trans hp
  · intro hq
    obtain ⟨hx, hwidth, hy, hheight⟩ := bounds_of_cellAt? hq
    have hw := grid.width_lt
    have hh := grid.height_lt
    have hpoint : (⟨.ofNat q.1.toNat, .ofNat q.2.toNat⟩ : Position).point = q := by
      apply Prod.ext
      · simp only [Position.point]
        rw [UInt32.toNat_ofNat_of_lt' (by omega), Int.toNat_of_nonneg hx]
      · simp only [Position.point]
        rw [UInt32.toNat_ofNat_of_lt' (by omega), Int.toNat_of_nonneg hy]
    refine ⟨_, ?_, hpoint⟩
    have hcell : grid.cellAt? q = some .coin := hq
    rwa [← hpoint, cellAt?_point] at hcell

/-- The coins are counted by the positions that have one. -/
theorem encard_coin_positions (grid : Grid) :
    {p | grid.cell? p = some .coin}.encard = grid.coinCount := by
  rw [← encard_coins, ← point_image_coins, Position.point_injective.encard_image]

theorem startFault?_eq_none_iff_contains {p : Position} :
    grid.startFault? p = none ↔ grid.Contains p ∧ grid.cell? p ≠ some .wall :=
  Layout.startFault?_eq_none_iff.trans isOpen_iff_contains

theorem startFault?_eq_some_iff_contains {p : Position} : grid.startFault? p = some fault ↔
    ¬ grid.Contains p ∧ fault = .startOutOfBounds p grid.width.toNat grid.height.toNat ∨
    grid.cell? p = some .wall ∧ fault = .startOnWall p := by
  rw [← isSome_cell?_iff, Option.not_isSome_iff_eq_none, toNat_width, toNat_height]
  exact Layout.startFault?_eq_some_iff

end Grid

namespace Stance

variable {grid : Grid} {config : RunConfig} {fault : GridFault}

theorem ofConfig_eq_ok_iff {stance : Stance} : ofConfig grid config = .ok stance ↔
    grid.startFault? (config.start.getD grid.start) = none ∧
    stance = ⟨config.start.getD grid.start, config.facing.getD .right⟩ := by
  unfold ofConfig
  simp only
  cases grid.startFault? (config.start.getD grid.start) with
  | some fault => simp
  | none => simp [eq_comm, default]

theorem ofConfig_eq_error_iff : ofConfig grid config = .error fault ↔
    grid.startFault? (config.start.getD grid.start) = some fault := by
  unfold ofConfig
  simp only
  cases grid.startFault? (config.start.getD grid.start) with
  | some fault => simp
  | none => simp

end Stance

namespace Grid

variable {grid : Grid}

theorem shows_self (grid : Grid) : grid.Shows grid.layout grid.start where
  width_pos := by
    have hwidth := grid.width_pos
    rwa [← toNat_width, ← Nat.succ_le_iff] at hwidth
  height_pos := by
    have hheight : 0 < grid.layout.height := Layout.height_pos_of_width_pos grid.width_pos
    rwa [← toNat_height, ← Nat.succ_le_iff] at hheight
  isSome_cell p := isSome_cell?_iff
  cell p hp := by
    obtain ⟨cell, hcell⟩ := Option.isSome_iff_exists.1 (isSome_cell?_iff.2 hp)
    obtain ⟨row, hrow, hcell'⟩ := Option.bind_eq_some_iff.1 hcell
    exact ⟨row, cell, hrow, hcell', hcell⟩
  start_eq := rfl
  contains_start := (isOpen_iff_contains.1 grid.start_open).1
  start_open := grid.start_open
  coins := encard_coin_positions grid
  ofConfig_none := Stance.ofConfig_none grid
  ofConfig_ok config stance := by
    rw [Stance.ofConfig_eq_ok_iff, startFault?_eq_none_iff_contains, and_assoc]
  ofConfig_error config fault := by
    rw [Stance.ofConfig_eq_error_iff, startFault?_eq_some_iff_contains]

/-! ### Levels that are written down -/

theorem ofAscii_eq_ok_iff {text : String} : ofAscii text = .ok grid ↔
    ∃ layout mark, Ascii.readRows 0 none (Ascii.rows text.toList) = .ok (layout, mark) ∧
      ofLayout layout (Ascii.position mark) = .ok grid := by
  rw [ofAscii]
  cases Ascii.readRows 0 none (Ascii.rows text.toList) with
  | error fault => simp
  | ok read =>
    obtain ⟨layout, mark⟩ := read
    simp [and_assoc]

theorem codec_read_of_read {text : String} {d : GridDescriptor}
    (h : GridDescriptor.codec.read text = .ok d) :
    Grid.codec.read text = d.grid.mapError fun fault => .rejected fault.message := by
  rw [Grid.codec, Json.Codec.read_refine_of_read h]
  cases d.grid <;> rfl

theorem codec_read_eq_ok_iff {text : String} : Grid.codec.read text = .ok grid ↔
    ∃ d, GridDescriptor.codec.read text = .ok d ∧ d.grid = .ok grid := by
  rw [Grid.codec, Json.Codec.read_refine_eq_ok_iff]
  exact exists_congr fun d => and_congr_right fun _ => Json.Codec.mapError_eq_ok_iff

end Grid

namespace GridDescriptor

variable {d : GridDescriptor} {grid : Grid}

/-- A size is declared, and it is not both sides of the layout. -/
def Mismatched (d : GridDescriptor) (declared : UInt64) : Prop :=
  d.size = some declared ∧
    (declared.toNat ≠ d.layout.width ∨ declared.toNat ≠ d.layout.height)

theorem grid_of_mismatched {declared : UInt64} (h : d.Mismatched declared) :
    d.grid = .error (.sizeMismatch declared.toNat d.layout.width d.layout.height) := by
  obtain ⟨hsize, hsides⟩ := h
  rw [grid, hsize]
  exact if_neg (by omega)

theorem grid_eq_ofLayout (h : ∀ declared, ¬ d.Mismatched declared) :
    d.grid = Grid.ofLayout d.layout d.start := by
  cases hsize : d.size with
  | none => rw [grid, hsize]
  | some declared =>
    have hsides := h declared
    simp only [Mismatched, hsize, true_and] at hsides
    rw [grid, hsize]
    exact if_pos (by omega)

theorem ofLayout_of_grid_eq_ok (h : d.grid = .ok grid) :
    Grid.ofLayout d.layout d.start = .ok grid := by
  rw [← grid_eq_ofLayout, h]
  intro declared hsides
  cases h.symm.trans (grid_of_mismatched hsides)

end GridDescriptor

namespace Grid

theorem MadeFrom.eq_ofLayout {layout : Layout} {start : Position} {grid : Grid}
    (h : MadeFrom layout start grid) : Grid.ofLayout layout start = .ok grid := by
  cases h with
  | ofLayout made => exact made
  | ofAscii read made =>
    obtain ⟨layout', mark', hread, hgrid⟩ := ofAscii_eq_ok_iff.1 made
    obtain ⟨rfl, rfl⟩ := Prod.mk.inj (Except.ok.inj (hread.symm.trans read))
    exact hgrid
  | ofDescriptor made => exact GridDescriptor.ofLayout_of_grid_eq_ok made
  | ofJson read made =>
    obtain ⟨d', hread, hgrid⟩ := codec_read_eq_ok_iff.1 made
    obtain rfl := Except.ok.inj (hread.symm.trans read)
    exact GridDescriptor.ofLayout_of_grid_eq_ok hgrid

/-- However a grid is made, it shows the layout and the start behind it. -/
theorem MadeFrom.shows {layout : Layout} {start : Position} {grid : Grid}
    (h : MadeFrom layout start grid) : grid.Shows layout start := by
  obtain ⟨rfl, rfl⟩ := ofLayout_eq_ok h.eq_ofLayout
  exact shows_self grid

/-- Exactly the levels that fit are accepted, and the others are refused for the first reason that
applies, where a declared size comes before all else.  A description that is written down is read
back and then checked in the same way.  However a grid was made, there is a layout behind it that it
shows, and a start on which the hero can stand. -/
theorem accepts_levels :
    (∀ (layout : Layout) (start : Position), layout.width < UInt32.size →
      layout.height < UInt32.size →
      ((∃ grid, Grid.ofLayout layout start = .ok grid) ↔ layout.Fits start) ∧
      ∀ fault, Grid.ofLayout layout start = .error fault ↔ layout.Refused start fault) ∧
    (∀ d : GridDescriptor,
      (∀ declared, d.Mismatched declared → d.grid
        = .error (.sizeMismatch declared.toNat d.layout.width d.layout.height)) ∧
      ((∀ declared, ¬ d.Mismatched declared) → d.grid = Grid.ofLayout d.layout d.start)) ∧
    (∀ d : GridDescriptor, GridDescriptor.codec.read (GridDescriptor.codec.write d) = .ok d) ∧
    (∀ text d, GridDescriptor.codec.read text = .ok d →
      Grid.codec.read text = d.grid.mapError fun fault => .rejected fault.message) ∧
    (∀ text grid, Grid.codec.read text = .ok grid ↔ ∃ d,
      GridDescriptor.codec.read text = .ok d ∧ d.grid = .ok grid) ∧
    (∀ text grid, Grid.ofAscii text = .ok grid ↔ ∃ layout mark,
      Ascii.readRows 0 none (Ascii.rows text.toList) = .ok (layout, mark) ∧
      Grid.ofLayout layout (Ascii.position mark) = .ok grid) ∧
    ∀ layout start grid, MadeFrom layout start grid → grid.Shows layout start :=
  ⟨fun _ _ hwidth hheight =>
      ⟨exists_ofLayout_iff hwidth hheight, fun _ => ofLayout_eq_error_iff hwidth hheight⟩,
    fun _ => ⟨fun _ => GridDescriptor.grid_of_mismatched, GridDescriptor.grid_eq_ofLayout⟩,
    GridDescriptor.lawful_codec.roundTrips (by decide), fun _ _ => codec_read_of_read,
    fun _ _ => codec_read_eq_ok_iff,
    fun _ _ => ofAscii_eq_ok_iff, fun _ _ _ => MadeFrom.shows⟩

/-- A layout whose second row is too short, with a wall in its first cell. -/
def ragged : Layout := [[.wall, .coin], [.goal]]

/-- The same layout with a cell to start in at the end of the second row. -/
def filled : Grid where
  layout := [[.wall, .coin], [.goal, .start]]
  start := ⟨1, 1⟩
  width_pos := by decide
  rectangular := by decide
  width_lt := by decide
  height_lt := by decide
  start_open := by decide

/-- The description of the filled layout as a text. -/
def filledText : String :=
  "\x7b\"layout\":[[\"WALL\",\"COIN\"],[\"GOAL\",\"START\"]],\"start\":\x7b\"x\":1,\"y\":1\x7d\x7d"

/-- With a start in the first cell the short row is reported and not the wall, unless a size is
declared that differs from the layout.  A text that declares such a size is rejected, and the text
of the filled layout is read. -/
theorem accepts_levels_ragged :
    ragged.Refused ⟨0, 0⟩ (.raggedRow 1 2 1) ∧ ¬ ragged.Fits ⟨0, 0⟩ ∧
    (⟨some 2, ragged, ⟨0, 0⟩⟩ : GridDescriptor).grid = .error (.raggedRow 1 2 1) ∧
    (⟨some 3, ragged, ⟨0, 0⟩⟩ : GridDescriptor).grid = .error (.sizeMismatch 3 2 2) ∧
    Grid.ofAscii "WC\nGS" = .ok filled ∧
    filled.Shows [[.wall, .coin], [.goal, .start]] ⟨1, 1⟩ ∧
    Grid.codec.read (GridDescriptor.codec.write ⟨some 3, ragged, ⟨0, 0⟩⟩)
      = .error (.rejected "declared grid size 3 does not match 2x2 layout") ∧
    Grid.codec.read filledText = .ok filled := by
  obtain ⟨hlayouts, hdescriptors, hwritten, hread, hread_ok, -, hshows⟩ := accepts_levels
  obtain ⟨hfits, hrefused⟩ := hlayouts ragged ⟨0, 0⟩ (by decide) (by decide)
  have herror : Grid.ofLayout ragged ⟨0, 0⟩ = .error (.raggedRow 1 2 1) := by decide +kernel
  have hmade : Grid.ofAscii "WC\nGS" = .ok filled := by decide +kernel
  have hrows : Ascii.readRows 0 none (Ascii.rows "WC\nGS".toList)
      = .ok ([[.wall, .coin], [.goal, .start]], some (1, 1)) := by decide +kernel
  have hmismatch : (⟨some 3, ragged, ⟨0, 0⟩⟩ : GridDescriptor).grid
      = .error (.sizeMismatch 3 2 2) := (hdescriptors _).1 3 ⟨rfl, by decide⟩
  have htext : GridDescriptor.codec.write ⟨none, filled.layout, ⟨1, 1⟩⟩ = filledText := by
    decide +kernel
  refine ⟨(hrefused _).1 herror, fun h => ?_, ?_, hmismatch, hmade,
    hshows _ _ _ (.ofAscii hrows hmade), ?_, ?_⟩
  · obtain ⟨grid, hgrid⟩ := hfits.2 h
    cases hgrid.symm.trans herror
  · rw [(hdescriptors _).2, herror]
    rintro declared ⟨hsize, hsides⟩
    obtain rfl := Option.some.inj hsize
    exact absurd hsides (by decide)
  · rw [hread _ _ (hwritten _), hmismatch]
    decide +kernel
  · exact (hread_ok _ _).2 ⟨_, htext ▸ hwritten _, by decide +kernel⟩

end Grid

end GridWalk

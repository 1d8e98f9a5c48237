import GridWalk.Proofs.Grid.Acceptance
import GridWalk.Proofs.Grid.Rows

/-! The text form of levels is read exactly.  `legend` gives the cells that symbols stand for.
`Refused` says of the rows of a text why they are no level and `Shown` which grid they show, both by
the symbols and their places.  `ofAscii_reads` says that a text has one list of rows and that
reading it does what these say of them. -/

namespace GridWalk

theorem Position.eq_of_toNat_eq {p q : Position} (hx : p.x.toNat = q.x.toNat)
    (hy : p.y.toNat = q.y.toNat) : p = q := by
  obtain ⟨x, y⟩ := p
  obtain rfl := UInt32.toNat_inj.1 hx
  obtain rfl := UInt32.toNat_inj.1 hy
  rfl

namespace Grid

namespace Ascii

/-- A symbol of a level text with its row and its column. -/
structure Spot where
  row : Nat
  column : Nat
  symbol : Char
  deriving DecidableEq, Repr

/-- The symbols that stand for cells, each with its cell. -/
def legend : List (Char × Cell) :=
  [('.', .empty), ('_', .empty), ('W', .wall), ('S', .start), ('G', .goal), ('C', .coin),
    ('O', .obstacle)]

def symbols : List Char := legend.map (·.1)

def symbolAt? (rows : List (List Char)) (row column : Nat) : Option Char :=
  rows[row]?.bind (·[column]?)

namespace Spot

/-- The symbol stands there. -/
def On (s : Spot) (rows : List (List Char)) : Prop :=
  symbolAt? rows s.row s.column = some s.symbol

/-- The reading order, by rows and in a row by columns. -/
def Precedes (s t : Spot) : Prop := s.row < t.row ∨ s.row = t.row ∧ s.column < t.column

/-- The symbol stands for no cell, or it is a start symbol that is not the first one. -/
structure Bad (rows : List (List Char)) (s : Spot) : Prop where
  on : s.On rows
  wrong : s.symbol ∉ symbols ∨
    s.symbol = 'S' ∧ ∃ t : Spot, t.On rows ∧ t.symbol = 'S' ∧ t.Precedes s

structure FirstBad (rows : List (List Char)) (s : Spot) : Prop where
  bad : s.Bad rows
  first : ∀ t : Spot, t.Bad rows → ¬ t.Precedes s

/-- The fault that a bad symbol is reported as. -/
def fault (s : Spot) : GridFault :=
  if s.symbol = 'S' then .multipleStarts else .unknownSymbol s.symbol s.row s.column

end Spot

def Clean (rows : List (List Char)) : Prop := ∀ s : Spot, ¬ s.Bad rows

/-- Why rows of symbols are no level.  A bad symbol comes before all else. -/
inductive Refused (rows : List (List Char)) : GridFault → Prop
  | badSymbol {s : Spot} (first : s.FirstBad rows) : Refused rows s.fault
  | emptyLayout (clean : Clean rows) (empty : rows = []) : Refused rows .emptyLayout
  | raggedRow {first row : List Char} {i : Nat} (clean : Clean rows)
      (head : rows.head? = some first) (here : rows[i]? = some row)
      (differs : row.length ≠ first.length)
      (full_before : ∀ j < i, ∀ other, rows[j]? = some other → other.length = first.length) :
      Refused rows (.raggedRow i first.length row.length)
  | startOnWall {first : List Char} (clean : Clean rows) (head : rows.head? = some first)
      (full : ∀ row ∈ rows, row.length = first.length)
      (no_start : ∀ s : Spot, s.On rows → s.symbol ≠ 'S') (wall : first.head? = some 'W') :
      Refused rows (.startOnWall ⟨0, 0⟩)

/-- The grid that rows of symbols show.  It starts at the start symbol, or in the first cell. -/
structure Shown (rows : List (List Char)) (grid : Grid) : Prop where
  clean : Clean rows
  height : rows.length = grid.height.toNat
  width : ∀ row ∈ rows, row.length = grid.width.toNat
  cell : ∀ p cell, grid.cell? p = some cell ↔
    ∃ c, symbolAt? rows p.y.toNat p.x.toNat = some c ∧ (c, cell) ∈ legend
  start_symbol : ∀ s : Spot, s.On rows → s.symbol = 'S' →
    grid.start.x.toNat = s.column ∧ grid.start.y.toNat = s.row
  start_default : (∀ s : Spot, s.On rows → s.symbol ≠ 'S') → grid.start = ⟨0, 0⟩

/-! ### Symbols -/

section Symbols

variable {c : Char}

theorem ofSymbol?_eq_some_iff {cell : Cell} :
    Cell.ofSymbol? c = some cell ↔ (c, cell) ∈ legend := by
  unfold Cell.ofSymbol? legend
  split <;> simp_all [eq_comm]

theorem ofSymbol?_eq_none_iff : Cell.ofSymbol? c = none ↔ c ∉ symbols := by
  rw [symbols, List.mem_map, Option.eq_none_iff_forall_ne_some]
  constructor
  · rintro hnone ⟨⟨_, cell⟩, hmem, rfl⟩
    exact hnone cell (ofSymbol?_eq_some_iff.2 hmem)
  · intro hunknown cell hcell
    exact hunknown ⟨(c, cell), ofSymbol?_eq_some_iff.1 hcell, rfl⟩

theorem ofSymbol?_eq_start_iff : Cell.ofSymbol? c = some .start ↔ c = 'S' := by
  rw [ofSymbol?_eq_some_iff]
  simp [legend]

/-- The cell that a symbol stands for, if it stands for one. -/
def meaning (c : Char) : Cell := (Cell.ofSymbol? c).getD .empty

theorem ofSymbol?_of_mem (h : c ∈ symbols) : Cell.ofSymbol? c = some (meaning c) := by
  cases hcell : Cell.ofSymbol? c with
  | none => exact absurd h (ofSymbol?_eq_none_iff.1 hcell)
  | some cell => rw [meaning, hcell, Option.getD_some]

end Symbols

/-! ### The spots in reading order -/

section Spots

variable {rows : List (List Char)} {s t : Spot}

theorem Spot.Precedes.asymm (h : s.Precedes t) : ¬ t.Precedes s := by
  unfold Precedes at *
  omega

/-- Two spots of which none precedes the other are one. -/
theorem Spot.eq_of_not_precedes (hs : s.On rows) (ht : t.On rows) (h : ¬ s.Precedes t)
    (h' : ¬ t.Precedes s) : s = t := by
  have hplace : s.row = t.row ∧ s.column = t.column := by
    unfold Precedes at h h'
    omega
  obtain ⟨row, column, symbol⟩ := s
  obtain ⟨rfl, rfl⟩ := hplace
  have hsymbol : some symbol = some t.symbol := hs.symm.trans ht
  rw [Option.some.inj hsymbol]

theorem Spot.FirstBad.unique (hs : s.FirstBad rows) (ht : t.FirstBad rows) : s = t :=
  Spot.eq_of_not_precedes hs.bad.on ht.bad.on (ht.first s hs.bad) (hs.first t ht.bad)

def rowSpots (y x : Nat) (row : List Char) : List Spot :=
  (row.zipIdx x).map fun (symbol, column) => ⟨y, column, symbol⟩

def spotsFrom (y : Nat) (rows : List (List Char)) : List Spot :=
  (rows.zipIdx y).flatMap fun (row, y) => rowSpots y 0 row

theorem mem_spotsFrom_zero : s ∈ spotsFrom 0 rows ↔ s.On rows := by
  rw [spotsFrom, List.mem_flatMap, Spot.On, symbolAt?, Option.bind_eq_some_iff]
  constructor
  · rintro ⟨⟨row, y⟩, hrow, hs⟩
    obtain ⟨⟨symbol, column⟩, hsymbol, rfl⟩ := List.mem_map.1 hs
    exact ⟨row, List.mk_mem_zipIdx_iff_getElem?.1 hrow, List.mk_mem_zipIdx_iff_getElem?.1 hsymbol⟩
  · rintro ⟨row, hrow, hsymbol⟩
    exact ⟨(row, s.row), List.mk_mem_zipIdx_iff_getElem?.2 hrow,
      List.mem_map.2 ⟨(s.symbol, s.column), List.mk_mem_zipIdx_iff_getElem?.2 hsymbol, rfl⟩⟩

theorem pairwise_zipIdx {α : Type} (l : List α) (start : Nat) :
    (l.zipIdx start).Pairwise (·.2 < ·.2) := by
  rw [← List.pairwise_map (f := Prod.snd), List.zipIdx_map_snd]
  exact List.pairwise_lt_range' 1

theorem pairwise_spotsFrom (y : Nat) (rows : List (List Char)) :
    (spotsFrom y rows).Pairwise Spot.Precedes := by
  rw [spotsFrom, List.pairwise_flatMap]
  refine ⟨fun ⟨row, y⟩ _ => ?_, (pairwise_zipIdx rows y).imp fun hlt s hs t ht => ?_⟩
  · change (rowSpots y 0 row).Pairwise Spot.Precedes
    rw [rowSpots, List.pairwise_map]
    exact (pairwise_zipIdx row 0).imp fun hlt => .inr ⟨rfl, hlt⟩
  · obtain ⟨-, -, rfl⟩ := List.mem_map.1 hs
    obtain ⟨-, -, rfl⟩ := List.mem_map.1 ht
    exact .inl hlt

/-- The spots before one in the list are those that precede it. -/
theorem mem_before_iff {before rest : List Spot} (h : spotsFrom 0 rows = before ++ s :: rest) :
    t ∈ before ↔ t.On rows ∧ t.Precedes s := by
  have horder := pairwise_spotsFrom 0 rows
  rw [h, List.pairwise_append, List.pairwise_cons] at horder
  obtain ⟨-, ⟨hrest, -⟩, hbefore⟩ := horder
  rw [← mem_spotsFrom_zero, h]
  constructor
  · intro ht
    exact ⟨List.mem_append_left _ ht, hbefore t ht s List.mem_cons_self⟩
  · rintro ⟨hmem, hprecedes⟩
    rcases List.mem_append.1 hmem with ht | ht
    · exact ht
    rcases List.mem_cons.1 ht with rfl | ht
    · exact absurd hprecedes hprecedes.asymm
    · exact absurd hprecedes (hrest t ht).asymm

end Spots

/-! ### Reading the spots -/

section Scan

variable {rows : List (List Char)} {mark : Mark} {s : Spot} {spots : List Spot}

/-- Reads spots one after the other and keeps the place of the start. -/
def scan : Mark → List Spot → Except GridFault Mark
  | mark, [] => .ok mark
  | mark, s :: spots =>
    match Cell.ofSymbol? s.symbol with
    | none => .error (.unknownSymbol s.symbol s.row s.column)
    | some cell =>
      if cell = .start ∧ mark.isSome then .error .multipleStarts
      else scan (if cell = .start then some (s.column, s.row) else mark) spots

theorem scan_append (mark : Mark) (first second : List Spot) :
    scan mark (first ++ second) = (scan mark first).bind (scan · second) := by
  induction first generalizing mark with
  | nil => rfl
  | cons s first ih =>
    rw [List.cons_append, scan, scan]
    cases Cell.ofSymbol? s.symbol with
    | none => rfl
    | some cell =>
      simp only
      split
      · rfl
      · exact ih _

theorem readRow_eq_scan (y x : Nat) (mark : Mark) (row : List Char) :
    readRow y x mark row
      = (scan mark (rowSpots y x row)).map fun mark => (row.map meaning, mark) := by
  induction row generalizing x mark with
  | nil => rfl
  | cons symbol row ih =>
    have hspots : rowSpots y x (symbol :: row) = ⟨y, x, symbol⟩ :: rowSpots y (x + 1) row := rfl
    rw [hspots, readRow, scan]
    cases hcell : Cell.ofSymbol? symbol with
    | none => rfl
    | some cell =>
      have hmeaning : meaning symbol = cell := by rw [meaning, hcell, Option.getD_some]
      simp only [List.map_cons, hmeaning]
      split
      · rfl
      · rw [ih]
        cases scan _ (rowSpots y (x + 1) row) <;> rfl

/-- The cells that rows of symbols stand for. -/
def layoutOf (rows : List (List Char)) : Layout := rows.map (·.map meaning)

theorem readRows_eq_scan (y : Nat) (mark : Mark) (rows : List (List Char)) :
    readRows y mark rows
      = (scan mark (spotsFrom y rows)).map fun mark => (layoutOf rows, mark) := by
  induction rows generalizing y mark with
  | nil => rfl
  | cons row rows ih =>
    have hspots : spotsFrom y (row :: rows) = rowSpots y 0 row ++ spotsFrom (y + 1) rows := rfl
    rw [hspots, scan_append, readRows, readRow_eq_scan]
    cases scan mark (rowSpots y 0 row) with
    | error fault => rfl
    | ok mark =>
      simp only [Except.map, Except.bind]
      rw [ih]
      cases scan mark (spotsFrom (y + 1) rows) <;> rfl

/-- The spot cannot be read after the spots that left the mark. -/
def Spot.Stops (s : Spot) (mark : Mark) : Prop :=
  s.symbol ∉ symbols ∨ s.symbol = 'S' ∧ mark.isSome = true

/-- The mark after a spot that can be read. -/
def Spot.next (mark : Mark) (s : Spot) : Mark :=
  if s.symbol = 'S' then some (s.column, s.row) else mark

theorem scan_of_stops (h : s.Stops mark) : scan mark (s :: spots) = .error s.fault := by
  rw [scan]
  cases hcell : Cell.ofSymbol? s.symbol with
  | none =>
    have hsymbol : s.symbol ≠ 'S' := by
      intro hs
      rw [hs] at hcell
      cases hcell
    rw [Spot.fault, if_neg hsymbol]
  | some cell =>
    rcases h with hunknown | ⟨hsymbol, hmark⟩
    · rw [ofSymbol?_eq_none_iff.2 hunknown] at hcell
      cases hcell
    · obtain rfl : cell = .start :=
        Option.some.inj (hcell.symm.trans (ofSymbol?_eq_start_iff.2 hsymbol))
      rw [Spot.fault, if_pos hsymbol]
      exact if_pos ⟨rfl, hmark⟩

theorem scan_of_not_stops (h : ¬ s.Stops mark) :
    scan mark (s :: spots) = scan (s.next mark) spots := by
  rw [Spot.Stops, not_or, not_not] at h
  have hcell := ofSymbol?_of_mem h.1
  have hstart : meaning s.symbol = .start ↔ s.symbol = 'S' := by
    rw [← ofSymbol?_eq_start_iff, hcell, Option.some.injEq]
  rw [scan, hcell]
  simp only [hstart]
  rw [if_neg h.2, Spot.next]

theorem isSome_foldl_next (mark : Mark) (spots : List Spot) :
    (spots.foldl Spot.next mark).isSome = true ↔
      mark.isSome = true ∨ ∃ t ∈ spots, t.symbol = 'S' := by
  induction spots generalizing mark with
  | nil => simp
  | cons s spots ih =>
    rw [List.foldl_cons, ih, Spot.next]
    split
    next hs => simp [hs]
    next hs => simp [hs]

theorem of_foldl_next {x y : Nat} (h : spots.foldl Spot.next mark = some (x, y)) :
    mark = some (x, y) ∨ ∃ t ∈ spots, t.symbol = 'S' ∧ t.column = x ∧ t.row = y := by
  induction spots generalizing mark with
  | nil => exact .inl h
  | cons s spots ih =>
    rcases ih h with hnext | ⟨t, ht, hstart⟩
    · rw [Spot.next] at hnext
      split at hnext
      next hs =>
        obtain ⟨rfl, rfl⟩ := Prod.mk.inj (Option.some.inj hnext)
        exact .inr ⟨s, List.mem_cons_self, hs, rfl, rfl⟩
      · exact .inl hnext
    · exact .inr ⟨t, List.mem_cons_of_mem _ ht, hstart⟩

theorem bad_iff_stops {before rest : List Spot} (h : spotsFrom 0 rows = before ++ s :: rest) :
    s.Bad rows ↔ s.Stops (before.foldl Spot.next none) := by
  have hon : s.On rows := by
    rw [← mem_spotsFrom_zero, h]
    simp
  have hearlier : (∃ t ∈ before, t.symbol = 'S') ↔
      ∃ t : Spot, t.On rows ∧ t.symbol = 'S' ∧ t.Precedes s :=
    exists_congr fun t => by rw [mem_before_iff h, and_assoc, and_comm (a := t.Precedes s)]
  rw [Spot.Stops, isSome_foldl_next, hearlier]
  constructor
  · rintro ⟨-, hwrong⟩
    simpa using hwrong
  · intro hstops
    exact ⟨hon, by simpa using hstops⟩

/-- Reading on after spots that are not bad either comes to the first bad spot or to the end. -/
theorem scan_cases {before rest : List Spot} (h : spotsFrom 0 rows = before ++ rest)
    (hbefore : ∀ t ∈ before, ¬ t.Bad rows) :
    (∃ s : Spot, s.FirstBad rows ∧ scan (before.foldl Spot.next none) rest = .error s.fault) ∨
    Clean rows ∧ scan (before.foldl Spot.next none) rest
      = .ok ((spotsFrom 0 rows).foldl Spot.next none) := by
  induction rest generalizing before with
  | nil =>
    rw [List.append_nil] at h
    refine .inr ⟨fun s hs => ?_, by rw [h, scan]⟩
    exact hbefore s (h ▸ mem_spotsFrom_zero.2 hs.on) hs
  | cons s rest ih =>
    by_cases hbad : s.Bad rows
    · refine .inl ⟨s, ⟨hbad, fun t ht hprecedes => ?_⟩, ?_⟩
      · exact hbefore t ((mem_before_iff h).2 ⟨ht.on, hprecedes⟩) ht
      · exact scan_of_stops ((bad_iff_stops h).1 hbad)
    · have hfold : (before ++ [s]).foldl Spot.next none
          = s.next (before.foldl Spot.next none) := by simp
      rw [scan_of_not_stops (mt (bad_iff_stops h).2 hbad), ← hfold]
      refine ih (by simpa using h) fun t ht => ?_
      rcases List.mem_append.1 ht with ht | ht
      · exact hbefore t ht
      · rwa [List.mem_singleton.1 ht]

/-- The mark that is left by rows without a bad symbol. -/
inductive Marked (rows : List (List Char)) : Mark → Prop
  | none (no_start : ∀ s : Spot, s.On rows → s.symbol ≠ 'S') : Marked rows none
  | some {s : Spot} (on : s.On rows) (start : s.symbol = 'S') :
      Marked rows (some (s.column, s.row))

theorem marked_foldl (rows : List (List Char)) :
    Marked rows ((spotsFrom 0 rows).foldl Spot.next none) := by
  cases hmark : (spotsFrom 0 rows).foldl Spot.next none with
  | none =>
    refine .none fun s hs hstart => ?_
    have hsome := (isSome_foldl_next none (spotsFrom 0 rows)).2
      (.inr ⟨s, mem_spotsFrom_zero.2 hs, hstart⟩)
    rw [hmark] at hsome
    cases hsome
  | some place =>
    obtain ⟨x, y⟩ := place
    rcases of_foldl_next hmark with hnone | ⟨s, hs, hstart, rfl, rfl⟩
    · cases hnone
    · exact .some (mem_spotsFrom_zero.1 hs) hstart

/-- Rows either have a first bad symbol, which is reported, or are read as a layout and a mark. -/
theorem readRows_cases (rows : List (List Char)) :
    (∃ s : Spot, s.FirstBad rows ∧ readRows 0 none rows = .error s.fault) ∨
    Clean rows ∧ ∃ mark, Marked rows mark ∧ readRows 0 none rows = .ok (layoutOf rows, mark) := by
  have hall : spotsFrom 0 rows = [] ++ spotsFrom 0 rows := rfl
  rw [readRows_eq_scan]
  rcases scan_cases hall nofun with ⟨s, hs, hscan⟩ | ⟨hclean, hscan⟩
  · exact .inl ⟨s, hs, congrArg (Except.map _) hscan⟩
  · exact .inr ⟨hclean, _, marked_foldl rows, congrArg (Except.map _) hscan⟩

end Scan

/-! ### The layout of rows -/

/-- Rows as a text has them, of lengths that fit into 32 bits. -/
structure Bounded (rows : List (List Char)) : Prop where
  nonempty : ∀ row ∈ rows, row ≠ []
  height : rows.length < UInt32.size
  width : ∀ row ∈ rows, row.length < UInt32.size

section Layouts

variable {rows : List (List Char)} {mark : Mark} {s : Spot} {first row : List Char}
  {fault : GridFault} {grid : Grid}

theorem Clean.mem_symbols (h : Clean rows) (hs : s.On rows) : s.symbol ∈ symbols := by
  by_contra hunknown
  exact h s ⟨hs, .inl hunknown⟩

theorem Clean.eq_of_start (h : Clean rows) {t : Spot} (hs : s.On rows) (ht : t.On rows)
    (hstart : s.symbol = 'S') (hstart' : t.symbol = 'S') : s = t :=
  Spot.eq_of_not_precedes hs ht
    (fun hprecedes => h t ⟨ht, .inr ⟨hstart', s, hs, hstart, hprecedes⟩⟩)
    (fun hprecedes => h s ⟨hs, .inr ⟨hstart, t, ht, hstart', hprecedes⟩⟩)

theorem cell?_layoutOf (h : Clean rows) (p : Position) :
    (layoutOf rows).cell? p = (symbolAt? rows p.y.toNat p.x.toNat).bind Cell.ofSymbol? := by
  have hmap : (layoutOf rows).cell? p = (symbolAt? rows p.y.toNat p.x.toNat).map meaning := by
    rw [Layout.cell?, layoutOf, symbolAt?, List.getElem?_map]
    cases rows[p.y.toNat]? with
    | none => rfl
    | some row => simp
  rw [hmap]
  cases hsymbol : symbolAt? rows p.y.toNat p.x.toNat with
  | none => rfl
  | some c =>
    have hon : Spot.On ⟨p.y.toNat, p.x.toNat, c⟩ rows := hsymbol
    exact (ofSymbol?_of_mem (h.mem_symbols hon)).symm

theorem cell?_layoutOf_eq_some_iff {p : Position} {cell : Cell} (h : Clean rows) :
    (layoutOf rows).cell? p = some cell ↔
      ∃ c, symbolAt? rows p.y.toNat p.x.toNat = some c ∧ (c, cell) ∈ legend := by
  rw [cell?_layoutOf h, Option.bind_eq_some_iff]
  simp only [ofSymbol?_eq_some_iff]

theorem Bounded.toNat_position (h : Bounded rows) (hs : s.On rows) :
    (position (some (s.column, s.row))).x.toNat = s.column ∧
    (position (some (s.column, s.row))).y.toNat = s.row := by
  obtain ⟨row, hrow, hsymbol⟩ := Option.bind_eq_some_iff.1 hs
  obtain ⟨hheight, rfl⟩ := List.getElem?_eq_some_iff.1 hrow
  obtain ⟨hwidth, -⟩ := List.getElem?_eq_some_iff.1 hsymbol
  have hrows := h.height
  have hcolumns := h.width _ (List.getElem_mem hheight)
  exact ⟨UInt32.toNat_ofNat_of_lt' (by omega), UInt32.toNat_ofNat_of_lt' (by omega)⟩

/-- The cell at the mark is the one of the start symbol, or else the first. -/
theorem symbolAt?_position (h : Bounded rows) (hmark : Marked rows mark) :
    (∃ s : Spot, s.On rows ∧ s.symbol = 'S' ∧ mark = some (s.column, s.row) ∧
      symbolAt? rows (position mark).y.toNat (position mark).x.toNat = some 'S') ∨
    mark = none ∧ (∀ s : Spot, s.On rows → s.symbol ≠ 'S') ∧ position mark = ⟨0, 0⟩ := by
  cases hmark with
  | none no_start => exact .inr ⟨rfl, no_start, rfl⟩
  | @some s on start =>
    obtain ⟨hx, hy⟩ := h.toNat_position on
    refine .inl ⟨s, on, start, rfl, ?_⟩
    rw [hx, hy, on, start]

theorem head?_layoutOf (h : rows.head? = some first) :
    (layoutOf rows).head? = some (first.map meaning) := by
  rw [layoutOf, List.head?_map, h, Option.map_some]

theorem symbolAt?_zero (h : rows.head? = some first) : symbolAt? rows 0 0 = first.head? := by
  rw [symbolAt?, ← List.head?_eq_getElem?, h, Option.bind_some, List.head?_eq_getElem?]

theorem exists_head_of_layoutOf {cells : List Cell} (h : (layoutOf rows).head? = some cells) :
    ∃ first, rows.head? = some first ∧ cells = first.map meaning := by
  rw [layoutOf, List.head?_map] at h
  obtain ⟨first, hfirst, rfl⟩ := Option.map_eq_some_iff.1 h
  exact ⟨first, hfirst, rfl⟩

theorem full_of_rectangular (h : (layoutOf rows).Rectangular (first.map meaning)) :
    ∀ row ∈ rows, row.length = first.length := by
  intro row hrow
  simpa using h.full _ (List.mem_map_of_mem hrow)

/-- The start lies inside of a layout of full rows. -/
theorem inside_of_marked (hrows : Bounded rows) (hmark : Marked rows mark)
    (hhead : rows.head? = some first) (hfull : ∀ row ∈ rows, row.length = first.length) :
    (layoutOf rows).Inside (first.map meaning) (position mark) := by
  have hfirst : first ∈ rows := List.mem_of_mem_head? hhead
  rw [Layout.Inside, layoutOf, List.length_map, List.length_map]
  cases hmark with
  | none no_start =>
    exact ⟨List.length_pos_iff.2 (hrows.nonempty first hfirst), List.length_pos_of_mem hfirst⟩
  | @some s on start =>
    obtain ⟨hx, hy⟩ := hrows.toNat_position on
    obtain ⟨row, hrow, hsymbol⟩ := Option.bind_eq_some_iff.1 on
    rw [hx, hy, ← hfull row (List.mem_of_getElem? hrow)]
    exact ⟨(List.getElem?_eq_some_iff.1 hsymbol).1, (List.getElem?_eq_some_iff.1 hrow).1⟩

theorem refused_of_layout (hrows : Bounded rows) (hclean : Clean rows) (hmark : Marked rows mark)
    (h : (layoutOf rows).Refused (position mark) fault) : Refused rows fault := by
  cases h with
  | emptyLayout empty =>
    refine .emptyLayout hclean ?_
    rcases empty with hnone | hnil
    · simpa [layoutOf] using hnone
    · obtain ⟨first, hfirst, hcells⟩ := exists_head_of_layoutOf hnil
      refine absurd ?_ (hrows.nonempty first (List.mem_of_mem_head? hfirst))
      simpa using hcells.symm
  | @raggedRow cells row i head nonempty here differs full_before =>
    obtain ⟨first, hfirst, rfl⟩ := exists_head_of_layoutOf head
    rw [layoutOf, List.getElem?_map] at here
    obtain ⟨row, hrow, rfl⟩ := Option.map_eq_some_iff.1 here
    rw [List.length_map, List.length_map] at differs ⊢
    refine .raggedRow hclean hfirst hrow differs fun j hj other hother => ?_
    have hlength := full_before j hj (other.map meaning)
      (by rw [layoutOf, List.getElem?_map, hother]; rfl)
    simpa using hlength
  | startOutOfBounds rectangular outside =>
    obtain ⟨first, hfirst, rfl⟩ := exists_head_of_layoutOf rectangular.head
    exact absurd (inside_of_marked hrows hmark hfirst (full_of_rectangular rectangular)) outside
  | startOnWall rectangular wall =>
    obtain ⟨first, hfirst, rfl⟩ := exists_head_of_layoutOf rectangular.head
    obtain ⟨c, hc, hwall⟩ := (cell?_layoutOf_eq_some_iff hclean).1 wall
    obtain rfl : c = 'W' := by simpa [legend] using hwall
    rcases symbolAt?_position hrows hmark with ⟨s, -, -, -, hsymbol⟩ | ⟨-, hnone, hposition⟩
    · cases hc.symm.trans hsymbol
    · rw [hposition] at hc ⊢
      exact .startOnWall hclean hfirst (full_of_rectangular rectangular) hnone
        ((symbolAt?_zero hfirst).symm.trans hc)

theorem layout_refused (hrows : Bounded rows) (hclean : Clean rows) (hmark : Marked rows mark)
    (h : Refused rows fault) : (layoutOf rows).Refused (position mark) fault := by
  cases h with
  | badSymbol first => exact absurd first.bad (hclean _)
  | emptyLayout clean empty =>
    subst empty
    exact .emptyLayout (.inl rfl)
  | @raggedRow first row i clean head here differs full_before =>
    have hcells : first ≠ [] := hrows.nonempty first (List.mem_of_mem_head? head)
    have hlayout : (layoutOf rows).Refused (position mark)
        (.raggedRow i (first.map meaning).length (row.map meaning).length) := by
      refine .raggedRow (head?_layoutOf head) (by simpa using hcells)
        (by rw [layoutOf, List.getElem?_map, here]; rfl) (by simpa using differs) ?_
      intro j hj cells hcells
      rw [layoutOf, List.getElem?_map] at hcells
      obtain ⟨other, hother, rfl⟩ := Option.map_eq_some_iff.1 hcells
      simpa using full_before j hj other hother
    simpa using hlayout
  | @startOnWall first clean head full no_start wall =>
    have hcells : first ≠ [] := hrows.nonempty first (List.mem_of_mem_head? head)
    have hposition : position mark = ⟨0, 0⟩ := by
      rcases symbolAt?_position hrows hmark with ⟨s, hs, hstart, -, -⟩ | ⟨-, -, hposition⟩
      · exact absurd hstart (no_start s hs)
      · exact hposition
    rw [hposition]
    have hhead : (layoutOf rows).head? = some (first.map meaning) := head?_layoutOf head
    refine .startOnWall ⟨hhead, by simpa using hcells, ?_⟩ ?_
    · intro cells hcells
      obtain ⟨row, hrow, rfl⟩ := List.mem_map.1 hcells
      simpa using full row hrow
    · rw [cell?_layoutOf_eq_some_iff hclean]
      exact ⟨'W', (symbolAt?_zero head).trans wall, by decide⟩

end Layouts

end Ascii

/-! ### Reading a text -/

section Text

open Ascii

variable {text : String} {fault : GridFault} {grid : Grid}

theorem ofAscii_of_clean {mark : Mark}
    (h : readRows 0 none (rows text.toList) = .ok (layoutOf (rows text.toList), mark)) :
    ofAscii text = ofLayout (layoutOf (rows text.toList)) (position mark) := by
  rw [ofAscii, h]

theorem width_layoutOf_lt {rows : List (List Char)} (h : Bounded rows) :
    (layoutOf rows).width < UInt32.size := by
  cases hrows : rows with
  | nil => decide
  | cons first others =>
    have hhead : (layoutOf (first :: others)).head? = some (first.map meaning) := rfl
    rw [Layout.width_of_head hhead, List.length_map]
    exact h.width first (by simp [hrows])

theorem height_layoutOf_lt {rows : List (List Char)} (h : Bounded rows) :
    (layoutOf rows).height < UInt32.size := by
  rw [Layout.height, layoutOf, List.length_map]
  exact h.height

theorem ofAscii_eq_error_iff (h : Bounded (rows text.toList)) :
    ofAscii text = .error fault ↔ Refused (rows text.toList) fault := by
  rcases readRows_cases (rows text.toList) with ⟨s, hs, hread⟩ | ⟨hclean, mark, hmark, hread⟩
  · have hfault : ofAscii text = .error s.fault := by rw [ofAscii, hread]
    rw [hfault, Except.error.injEq]
    constructor
    · rintro rfl
      exact .badSymbol hs
    · intro hrefused
      cases hrefused with
      | badSymbol first => rw [hs.unique first]
      | emptyLayout clean => exact absurd hs.bad (clean s)
      | raggedRow clean => exact absurd hs.bad (clean s)
      | startOnWall clean => exact absurd hs.bad (clean s)
  · rw [ofAscii_of_clean hread,
      ofLayout_eq_error_iff (width_layoutOf_lt h) (height_layoutOf_lt h)]
    exact ⟨refused_of_layout h hclean hmark, layout_refused h hclean hmark⟩

theorem shown_of_ofAscii (h : Bounded (rows text.toList)) (hgrid : ofAscii text = .ok grid) :
    Shown (rows text.toList) grid := by
  rcases readRows_cases (rows text.toList) with ⟨s, -, hread⟩ | ⟨hclean, mark, hmark, hread⟩
  · rw [ofAscii, hread] at hgrid
    cases hgrid
  rw [ofAscii_of_clean hread] at hgrid
  obtain ⟨hlayout, hstart⟩ := ofLayout_eq_ok hgrid
  refine ⟨hclean, ?_, fun row hrow => ?_, fun p cell => ?_, fun s hs hsymbol => ?_, fun hnone => ?_⟩
  · rw [toNat_height, hlayout, Layout.height, layoutOf, List.length_map]
  · rw [toNat_width, ← grid.rectangular (row.map meaning), List.length_map]
    rw [hlayout]
    exact List.mem_map_of_mem hrow
  · rw [cell?, hlayout]
    exact cell?_layoutOf_eq_some_iff hclean
  · cases hmark with
    | none no_start => exact absurd hsymbol (no_start s hs)
    | some on start =>
      rw [hclean.eq_of_start hs on hsymbol start, hstart]
      exact h.toNat_position on
  · cases hmark with
    | none no_start => exact hstart
    | @some s on start => exact absurd start (hnone s on)

theorem not_refused_of_shown {rows : List (List Char)} (hshown : Shown rows grid) :
    ¬ Refused rows fault := by
  intro hrefused
  cases hrefused with
  | badSymbol first => exact hshown.clean _ first.bad
  | emptyLayout clean empty =>
    have hheight := hshown.height
    rw [empty, List.length_nil, toNat_height] at hheight
    exact absurd (Layout.height_pos_of_width_pos grid.width_pos) (by omega)
  | @raggedRow first row i clean head here differs full_before =>
    refine differs ?_
    rw [hshown.width row (List.mem_of_getElem? here),
      hshown.width first (List.mem_of_mem_head? head)]
  | startOnWall clean head full no_start wall =>
    refine (isOpen_iff_contains.1 grid.start_open).2 ?_
    rw [hshown.start_default no_start, hshown.cell]
    exact ⟨'W', (symbolAt?_zero head).trans wall, by decide⟩

/-- Grids of one height with the same cells have the same layout. -/
theorem layout_eq_of_cell? {grid' : Grid} (hheight : grid.height = grid'.height)
    (hcell : ∀ p, grid.cell? p = grid'.cell? p) : grid.layout = grid'.layout := by
  have hlength : grid.layout.length = grid'.layout.length := by
    rw [← Layout.height, ← toNat_height, hheight, toNat_height, Layout.height]
  refine List.ext_getElem hlength fun y hy hy' => List.ext_getElem? fun x => ?_
  have hyNat : (UInt32.ofNat y).toNat = y :=
    UInt32.toNat_ofNat_of_lt' (Nat.lt_trans hy grid.height_lt)
  by_cases hx : x < UInt32.size
  · have hcells := hcell ⟨.ofNat x, .ofNat y⟩
    simpa only [cell?, Layout.cell?, hyNat, UInt32.toNat_ofNat_of_lt' hx,
      List.getElem?_eq_getElem hy, List.getElem?_eq_getElem hy', Option.bind_some] using hcells
  · have hwidth := grid.rectangular _ (List.getElem_mem hy) ▸ grid.width_lt
    have hwidth' := grid'.rectangular _ (List.getElem_mem hy') ▸ grid'.width_lt
    rw [List.getElem?_eq_none (by omega), List.getElem?_eq_none (by omega)]

theorem eq_of_layout_eq {grid' : Grid} (hlayout : grid.layout = grid'.layout)
    (hstart : grid.start = grid'.start) : grid = grid' := by
  cases grid
  cases grid'
  obtain rfl := hlayout
  obtain rfl := hstart
  rfl

theorem Ascii.Shown.unique {rows : List (List Char)} {grid' : Grid} (h : Shown rows grid)
    (h' : Shown rows grid') : grid = grid' := by
  have hheight : grid.height = grid'.height := UInt32.toNat_inj.1 (h.height.symm.trans h'.height)
  refine eq_of_layout_eq (layout_eq_of_cell? hheight fun p => Option.ext fun cell => ?_) ?_
  · exact (h.cell p cell).trans (h'.cell p cell).symm
  by_cases hsymbol : ∃ s : Spot, s.On rows ∧ s.symbol = 'S'
  · obtain ⟨s, hs, hstart⟩ := hsymbol
    obtain ⟨hx, hy⟩ := h.start_symbol s hs hstart
    obtain ⟨hx', hy'⟩ := h'.start_symbol s hs hstart
    exact Position.eq_of_toNat_eq (hx.trans hx'.symm) (hy.trans hy'.symm)
  · have hnone : ∀ s : Spot, s.On rows → s.symbol ≠ 'S' :=
      fun s hs hstart => hsymbol ⟨s, hs, hstart⟩
    rw [h.start_default hnone, h'.start_default hnone]

theorem ofAscii_of_shown (h : Bounded (rows text.toList)) (hshown : Shown (rows text.toList) grid) :
    ofAscii text = .ok grid := by
  cases hread : ofAscii text with
  | error fault => exact absurd ((ofAscii_eq_error_iff h).1 hread) (not_refused_of_shown hshown)
  | ok grid' => rw [(shown_of_ofAscii h hread).unique hshown]

/-- Rows of symbols give neither a start outside of the level nor a size. -/
theorem Ascii.Refused.reason {rows : List (List Char)} (h : Refused rows fault) :
    (∀ start width height, fault ≠ .startOutOfBounds start width height) ∧
    ∀ declared width height, fault ≠ .sizeMismatch declared width height := by
  cases h with
  | badSymbol first =>
    unfold Spot.fault
    split <;> simp
  | _ => simp

/-- The text form of levels is read exactly.  A text has one list of rows.  It is refused for the
reason that its rows give, and otherwise it is read as the grid that they show.  No start lies
outside, and no size can be declared. -/
theorem ofAscii_reads (text : String) :
    (∃! rows, HasRows text.toList rows) ∧
    ∀ rows, HasRows text.toList rows → rows.length < UInt32.size →
      (∀ row ∈ rows, row.length < UInt32.size) →
      (∀ fault, ofAscii text = .error fault ↔ Refused rows fault) ∧
      (∀ grid, ofAscii text = .ok grid ↔ Shown rows grid) ∧
      (∀ start width height, ofAscii text ≠ .error (.startOutOfBounds start width height)) ∧
      ∀ declared width height, ofAscii text ≠ .error (.sizeMismatch declared width height) := by
  refine ⟨existsUnique_hasRows text.toList, fun kept hkept hheight hwidth => ?_⟩
  have hbounded : Bounded kept := ⟨hkept.ne_nil, hheight, hwidth⟩
  obtain rfl := hasRows_iff.1 hkept
  have hreason {fault : GridFault} (herror : ofAscii text = .error fault) :=
    ((ofAscii_eq_error_iff hbounded).1 herror).reason
  exact ⟨fun fault => ofAscii_eq_error_iff hbounded,
    fun grid => ⟨shown_of_ofAscii hbounded, ofAscii_of_shown hbounded⟩,
    fun start width height herror => (hreason herror).1 start width height rfl,
    fun declared width height herror => (hreason herror).2 declared width height rfl⟩

/-- Rows between blank ones, with two start symbols before a symbol of no cell. -/
def twoStarts : String := "\n  .WS\r\n\n\tCSX"

theorem ofAscii_reads_twoStarts :
    let rows := [['.', 'W', 'S'], ['C', 'S', 'X']]
    HasRows twoStarts.toList rows ∧ rows.length < UInt32.size ∧
    (∀ row ∈ rows, row.length < UInt32.size) ∧ ofAscii twoStarts = .error .multipleStarts ∧
    Refused rows .multipleStarts ∧ ¬ ∃ grid, Shown rows grid := by
  intro rows
  have hrows : HasRows twoStarts.toList rows := hasRows_iff.2 (by decide +kernel)
  have hheight : rows.length < UInt32.size := by decide
  have hwidth : ∀ row ∈ rows, row.length < UInt32.size := by decide
  have herror : ofAscii twoStarts = .error .multipleStarts := by decide +kernel
  obtain ⟨-, hreads⟩ := ofAscii_reads twoStarts
  obtain ⟨hrefused, hshown, -, -⟩ := hreads rows hrows hheight hwidth
  refine ⟨hrows, hheight, hwidth, herror, (hrefused _).1 herror, ?_⟩
  rintro ⟨grid, hgrid⟩
  cases herror.symm.trans ((hshown grid).2 hgrid)

end Text

end Grid

end GridWalk

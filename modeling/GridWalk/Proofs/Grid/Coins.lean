import GridWalk.Proofs.Grid.Plane
import Mathlib.Data.Set.Card

/-! Counting coins.  The coins of a level are as many points of the plane as its layout counts, so
the coins that are left are the coins of the level less those that were found. -/

namespace GridWalk.Layout

/-- The places of the coins in some rows, the first of which is row `y`. -/
def coinsFrom : Nat → Layout → List (Nat × Nat)
  | _, [] => []
  | y, row :: rows => (row.idxsOf .coin).map (·, y) ++ coinsFrom (y + 1) rows

theorem mem_coinsFrom {rows : Layout} {first x y : Nat} :
    (x, y) ∈ coinsFrom first rows
      ↔ first ≤ y ∧ rows[y - first]?.bind (·[x]?) = some .coin := by
  induction rows generalizing first with
  | nil => simp [coinsFrom]
  | cons row rows ih =>
    rw [coinsFrom, List.mem_append, ih]
    have here : (x, y) ∈ (row.idxsOf .coin).map (·, first) ↔ first = y ∧ row[x]? = some .coin := by
      simp [List.getElem?_eq_some_iff, and_comm]
    rw [here]
    constructor
    · rintro (⟨rfl, hcoin⟩ | ⟨hle, hcoin⟩)
      · simpa using hcoin
      · refine ⟨by omega, ?_⟩
        rwa [show y - first = (y - (first + 1)) + 1 by omega, List.getElem?_cons_succ]
    · rintro ⟨hle, hcoin⟩
      rcases Nat.lt_or_eq_of_le hle with hlt | rfl
      · refine .inr ⟨hlt, ?_⟩
        rwa [show y - first = (y - (first + 1)) + 1 by omega, List.getElem?_cons_succ] at hcoin
      · exact .inl ⟨rfl, by simpa using hcoin⟩

theorem nodup_coinsFrom (first : Nat) (rows : Layout) : (coinsFrom first rows).Nodup := by
  induction rows generalizing first with
  | nil => exact .nil
  | cons row rows ih =>
    rw [coinsFrom, List.nodup_append]
    refine ⟨?_, ih (first + 1), ?_⟩
    · exact List.nodup_idxsOf.map fun x x' h => (Prod.mk.inj h).1
    · rintro ⟨x, y⟩ hhere ⟨x', y'⟩ hlater heq
      obtain ⟨rfl, rfl⟩ := Prod.mk.inj heq
      have := (mem_coinsFrom.1 hlater).1
      obtain ⟨_, -, h⟩ := List.mem_map.1 hhere
      obtain ⟨-, rfl⟩ := Prod.mk.inj h
      omega

theorem length_coinsFrom (first : Nat) (rows : Layout) :
    (coinsFrom first rows).length = rows.coinCount := by
  induction rows generalizing first with
  | nil => rfl
  | cons row rows ih =>
    rw [coinsFrom, List.length_append, List.length_map, List.length_idxsOf, ih]
    simp [coinCount]

end GridWalk.Layout

namespace GridWalk.Grid

variable {grid : Grid}

def coins (grid : Grid) : Set Point := {q | grid.cellAt? q = some .coin}

theorem coins_eq_image (grid : Grid) :
    grid.coins = (fun p : Nat × Nat => ((p.1 : Int), (p.2 : Int))) ''
      ((grid.layout.coinsFrom 0).toFinset : Set (Nat × Nat)) := by
  ext ⟨x, y⟩
  constructor
  · intro h
    obtain ⟨hx, -, hy, -⟩ := bounds_of_cellAt? h
    simp only [coins, cellAt?, Set.mem_ofPred_eq, hx, hy, and_self, if_true] at h
    refine ⟨(x.toNat, y.toNat), ?_, ?_⟩
    · rw [List.coe_toFinset, Set.mem_ofPred_eq, Layout.mem_coinsFrom]
      exact ⟨Nat.zero_le _, h⟩
    · simp [hx, hy]
  · rintro ⟨⟨x', y'⟩, h, heq⟩
    obtain ⟨rfl, rfl⟩ := Prod.mk.inj heq
    rw [List.coe_toFinset, Set.mem_ofPred_eq, Layout.mem_coinsFrom] at h
    simpa [coins, cellAt?] using h.2

theorem coinCount_lt (grid : Grid) : grid.coinCount < UInt64.size := by
  have hlength : grid.layout.flatten.length = grid.layout.height * grid.layout.width := by
    have hrows : grid.layout.map List.length
        = List.replicate (grid.layout.map List.length).length grid.layout.width := by
      apply List.eq_replicate_of_mem
      simpa using grid.rectangular
    rw [List.length_flatten, hrows, List.sum_replicate]
    simp [Layout.height]
  have hcount : grid.coinCount ≤ grid.layout.flatten.length := List.count_le_length
  have hsides := Nat.mul_lt_mul'' grid.height_lt grid.width_lt
  simp only [UInt32.size, UInt64.size] at hsides ⊢
  omega

theorem encard_coins (grid : Grid) : grid.coins.encard = grid.coinCount := by
  have injective : Function.Injective fun p : Nat × Nat => ((p.1 : Int), (p.2 : Int)) := by
    rintro ⟨x, y⟩ ⟨x', y'⟩ h
    simpa using h
  rw [coins_eq_image, injective.encard_image, Set.encard_coe_eq_coe_finsetCard,
    List.toFinset_card_of_nodup (Layout.nodup_coinsFrom ..), Layout.length_coinsFrom]
  rfl

/-- The coins that are not among those found are as many as the difference says. -/
theorem encard_coins_sdiff {found : List Position} (hfound : found.Nodup)
    (hcoins : ∀ p ∈ found, p.point ∈ grid.coins) :
    (grid.coins \ {q | q ∈ found.map Position.point}).encard + found.length = grid.coinCount := by
  have hcard : {q | q ∈ found.map Position.point}.encard = found.length := by
    have hnodup := hfound.map Position.point_injective
    rw [← List.coe_toFinset, Set.encard_coe_eq_coe_finsetCard, List.toFinset_card_of_nodup hnodup,
      List.length_map]
  have hsubset : {q | q ∈ found.map Position.point} ⊆ grid.coins := by
    intro q hq
    obtain ⟨p, hp, rfl⟩ := List.mem_map.1 hq
    exact hcoins p hp
  rw [← hcard, Set.encard_sdiff_add_encard_of_subset hsubset, encard_coins]

theorem length_le_coinCount {found : List Position} (hfound : found.Nodup)
    (hcoins : ∀ p ∈ found, p.point ∈ grid.coins) : found.length ≤ grid.coinCount := by
  have hle : (found.length : ENat) ≤ grid.coinCount := by
    rw [← encard_coins_sdiff hfound hcoins]
    exact le_add_self
  exact_mod_cast hle

end GridWalk.Grid

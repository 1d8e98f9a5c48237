import GridWalk.Action
import GridWalk.Proofs.Grid.Coins

/-! Walks in the plane.  The points of a walk are given by the directions of its steps alone.  What
the points mean for a level is read off its cells: which of them end the walk, and which coins lie
on the way. -/

namespace GridWalk

/-- The points of a walk.  Each is the neighbour of the one before it in the direction of the
step. -/
def path (start : Point) (plan : Plan) : Nat → Point
  | 0 => start
  | i + 1 =>
    match plan[i]? with
    | some a => path start plan i + a.direction.offset
    | none => path start plan i

/-- The first `n` points of a walk after its start. -/
def visited (start : Point) (plan : Plan) (n : Nat) : List Point :=
  (List.range n).map fun i => path start plan (i + 1)

/-- A point that ends a walk: it is outside of the level, a wall or an obstacle. -/
def Stops (grid : Grid) (q : Point) : Prop :=
  grid.cellAt? q = none ∨ grid.cellAt? q = some .wall ∨ grid.cellAt? q = some .obstacle

/-- Step `i` is the first that leads to a point that ends the walk. -/
structure FirstStop (grid : Grid) (start : Point) (plan : Plan) (i : Nat) : Prop where
  stops : Stops grid (path start plan (i + 1))
  clear : ∀ j < i, ¬ Stops grid (path start plan (j + 1))

/-- The coins among some points, in the order in which they are met first. -/
def coinsAmong (grid : Grid) (points : List Point) : List Point :=
  (points.filter fun q => grid.cellAt? q = some .coin).eraseDups

section

variable {start : Point} {plan : Plan} {a : Action} {n : Nat}

theorem path_succ (h : plan[n]? = some a) :
    path start plan (n + 1) = path start plan n + a.direction.offset := by
  simp only [path, h]

theorem visited_succ :
    visited start plan (n + 1) = visited start plan n ++ [path start plan (n + 1)] := by
  simp [visited, List.range_succ]

theorem firstStop_or_clear (grid : Grid) (start : Point) (plan : Plan) :
    (∃ i a, plan[i]? = some a ∧ FirstStop grid start plan i) ∨
      ∀ i < plan.length, ¬ Stops grid (path start plan (i + 1)) := by
  classical
  by_cases hstops : ∃ i, i < plan.length ∧ Stops grid (path start plan (i + 1))
  · obtain ⟨hi, hstop⟩ := Nat.find_spec hstops
    refine .inl ⟨Nat.find hstops, _, List.getElem?_eq_getElem hi, hstop, ?_⟩
    intro j hj hj'
    exact Nat.find_min hstops hj ⟨by omega, hj'⟩
  · exact .inr fun i hi hi' => hstops ⟨i, hi, hi'⟩

end

section

variable {grid : Grid} {points : List Point} {q : Point}

theorem mem_coinsAmong : q ∈ coinsAmong grid points ↔ q ∈ points ∧ q ∈ grid.coins := by
  simp [coinsAmong, Grid.coins, List.mem_eraseDups]

theorem coinsAmong_append_of_mem (h : q ∈ coinsAmong grid points) :
    coinsAmong grid (points ++ [q]) = coinsAmong grid points := by
  obtain ⟨hq, hcoin⟩ := mem_coinsAmong.1 h
  have hcoin' : grid.cellAt? q = some .coin := hcoin
  rw [coinsAmong, List.filter_append, List.eraseDups_append]
  simp [coinsAmong, hcoin', hq, List.removeAll]

theorem coinsAmong_append_of_not_coin (h : q ∉ grid.coins) :
    coinsAmong grid (points ++ [q]) = coinsAmong grid points := by
  have h' : grid.cellAt? q ≠ some .coin := h
  simp [coinsAmong, h']

theorem coinsAmong_append_of_coin (hcoin : q ∈ grid.coins) (h : q ∉ coinsAmong grid points) :
    coinsAmong grid (points ++ [q]) = coinsAmong grid points ++ [q] := by
  have hcoin' : grid.cellAt? q = some .coin := hcoin
  have hq : q ∉ points := fun hq => h (mem_coinsAmong.2 ⟨hq, hcoin⟩)
  have hone : [q].eraseDups = [q] := rfl
  rw [coinsAmong, List.filter_append, List.eraseDups_append]
  simp [coinsAmong, hcoin', hq, hone, List.removeAll]

theorem nodup_coinsAmong : (coinsAmong grid points).Nodup := by
  induction points using List.reverseRecOn with
  | nil => exact .nil
  | append_singleton points q ih =>
    by_cases hcoin : q ∈ grid.coins
    · by_cases hfound : q ∈ coinsAmong grid points
      · rwa [coinsAmong_append_of_mem hfound]
      · rw [coinsAmong_append_of_coin hcoin hfound, ← List.concat_eq_append]
        exact ih.concat hfound
    · rwa [coinsAmong_append_of_not_coin hcoin]

end

end GridWalk

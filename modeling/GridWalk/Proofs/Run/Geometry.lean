import GridWalk.Proofs.Run.Drain
import GridWalk.Proofs.Run.Path

/-! The geometry of a run.  `execute_geometry` reads the whole report of a run off the points of its
walk: the first point that has no cell, a wall or an obstacle ends the run, and without one the last
point and the coins on the way decide. -/

namespace GridWalk

/-- The report of a walk that step `i`, which is `a`, brings to its end. -/
structure HaltedAt (grid : Grid) (start : Point) (plan : Plan) (i : Nat) (a : Action)
    (report : RunReport) : Prop where
  blocked : grid.cellAt? (path start plan (i + 1)) ≠ some .obstacle →
    report.outcome = .blocked a.line ∧ report.finalPosition.point = path start plan i
  destroyed : grid.cellAt? (path start plan (i + 1)) = some .obstacle →
    report.outcome = .destroyed a.line ∧ report.finalPosition.point = path start plan (i + 1)
  direction : report.finalDirection = a.direction
  collected : report.collected.map Position.point = coinsAmong grid (visited start plan i)

/-- The report of a walk that nothing stops. -/
structure Completed (grid : Grid) (stance : Stance) (plan : Plan) (report : RunReport) :
    Prop where
  position : report.finalPosition.point = path stance.position.point plan plan.length
  direction :
    report.finalDirection = (plan.getLast?.map Action.direction).getD stance.facing
  collected : report.collected.map Position.point
    = coinsAmong grid (visited stance.position.point plan plan.length)
  success : report.outcome = .success ↔
    grid.cellAt? (path stance.position.point plan plan.length) = some .goal ∧
    ∀ q ∈ grid.coins, q ∈ visited stance.position.point plan plan.length
  incomplete : report.outcome ≠ .success → ∃ missing,
    report.outcome = .incomplete
      (grid.cellAt? (path stance.position.point plan plan.length) = some .goal) missing ∧
    (grid.coins \ {q | q ∈ visited stance.position.point plan plan.length}).encard
      = missing.toNat

theorem HaltedAt.outcome_ne_incomplete {grid : Grid} {start : Point} {plan : Plan} {i : Nat}
    {a : Action} {report : RunReport} (h : HaltedAt grid start plan i a report)
    (reached : Bool) (missing : UInt64) : report.outcome ≠ .incomplete reached missing := by
  by_cases hobstacle : grid.cellAt? (path start plan (i + 1)) = some .obstacle
  · rw [(h.destroyed hobstacle).1]
    exact Outcome.noConfusion
  · rw [(h.blocked hobstacle).1]
    exact Outcome.noConfusion

theorem Completed.outcome_ne_incomplete_zero {grid : Grid} {stance : Stance} {plan : Plan}
    {report : RunReport} (h : Completed grid stance plan report) :
    report.outcome ≠ .incomplete true 0 := by
  intro hreport
  have hfail : report.outcome ≠ .success := by simp [hreport]
  obtain ⟨missing, houtcome, hmissing⟩ := h.incomplete hfail
  obtain ⟨hgoal, rfl⟩ := Outcome.incomplete.inj (hreport.symm.trans houtcome)
  rw [UInt64.toNat_zero, Nat.cast_zero, Set.encard_eq_zero, Set.sdiff_eq_empty] at hmissing
  exact hfail (h.success.2 ⟨of_decide_eq_true hgoal.symm, fun q hq => hmissing hq⟩)

namespace Run

variable {grid : Grid} {stance : Stance} {plan : Plan} {s : RunState} {a : Action} {n : Nat}

theorem target?_eq_none {p : Position} {d : Direction} (h : target? grid p d = none) :
    grid.cellAt? (p.point + d.offset) = none ∨ grid.cellAt? (p.point + d.offset) = some .wall := by
  cases hstep : p.step d with
  | none => exact .inl (Grid.cellAt?_of_step_eq_none hstep)
  | some q =>
    have hclosed : ¬ grid.isOpen q = true := by
      intro hopen
      simp [target?, hstep, hopen] at h
    rw [Grid.isOpen_iff, Position.point_step hstep] at hclosed
    cases hcell : grid.cellAt? (p.point + d.offset) with
    | none => exact .inl rfl
    | some cell =>
      refine .inr (congrArg some ?_)
      by_contra hwall
      exact hclosed ⟨cell, hcell, hwall⟩

theorem target?_eq_some {p q : Position} {d : Direction} (h : target? grid p d = some q) :
    q.point = p.point + d.offset ∧ ∃ cell, grid.cellAt? q.point = some cell ∧ cell ≠ .wall := by
  obtain ⟨hstep, hopen⟩ := Option.filter_eq_some_iff.1 h
  exact ⟨Position.point_step hstep, Grid.isOpen_iff.1 hopen⟩

/-- The state of a run that took the first `n` steps of its plan and was not stopped. -/
structure Reached (grid : Grid) (stance : Stance) (plan : Plan) (n : Nat) (s : RunState) :
    Prop where
  position : s.position.point = path stance.position.point plan n
  facing : s.facing = ((plan.take n).getLast?.map Action.direction).getD stance.facing
  collected :
    s.collected.map Position.point = coinsAmong grid (visited stance.position.point plan n)
  outcome : s.outcome = none

theorem reached_initial : Reached grid stance plan 0 (initial stance plan).state where
  position := rfl
  facing := by simp [initial]
  collected := rfl
  outcome := rfl

theorem getLast?_take_succ (h : plan[n]? = some a) : (plan.take (n + 1)).getLast? = some a := by
  simp [List.take_add_one, h]

namespace Reached

theorem target? (hs : Reached grid stance plan n s) (ha : plan[n]? = some a)
    (hclear : ¬ Stops grid (path stance.position.point plan (n + 1))) :
    ∃ q, Run.target? grid s.position a.direction = some q
      ∧ q.point = path stance.position.point plan (n + 1) := by
  rw [path_succ ha, ← hs.position] at hclear ⊢
  cases htarget : Run.target? grid s.position a.direction with
  | none =>
    refine (hclear ?_).elim
    rcases target?_eq_none htarget with hout | hwall
    · exact .inl hout
    · exact .inr (.inl hwall)
  | some q => exact ⟨q, rfl, (target?_eq_some htarget).1⟩

/-- A step that nothing stops leads to the next point of the walk. -/
theorem step (hs : Reached grid stance plan n s) (ha : plan[n]? = some a)
    (hclear : ¬ Stops grid (path stance.position.point plan (n + 1))) (rest : Plan) :
    Reached grid stance plan (n + 1) (Run.step grid s a rest).2.state := by
  obtain ⟨q, htarget, hq⟩ := hs.target? ha hclear
  have hfacing : a.direction
      = ((plan.take (n + 1)).getLast?.map Action.direction).getD stance.facing := by
    rw [getLast?_take_succ ha]
    rfl
  have hcell : grid.cell? q = grid.cellAt? (path stance.position.point plan (n + 1)) := by
    rw [← hq, Grid.cellAt?_point]
  have hmem : q ∈ s.collected ↔ path stance.position.point plan (n + 1)
      ∈ coinsAmong grid (visited stance.position.point plan n) := by
    rw [← hs.collected, ← hq, List.mem_map_of_injective Position.point_injective]
  simp only [Run.step, htarget, arrive]
  split
  next hcoin =>
    rw [hcell] at hcoin
    by_cases hfound : q ∈ s.collected
    · rw [if_pos (List.contains_iff_mem.2 hfound)]
      refine ⟨hq, hfacing, ?_, hs.outcome⟩
      rw [visited_succ, coinsAmong_append_of_mem (hmem.1 hfound)]
      exact hs.collected
    · rw [if_neg (mt List.contains_iff_mem.1 hfound)]
      refine ⟨hq, hfacing, ?_, hs.outcome⟩
      rw [visited_succ, coinsAmong_append_of_coin hcoin (mt hmem.2 hfound), List.map_append,
        List.map_singleton, hs.collected, hq]
  next hobstacle =>
    rw [hcell] at hobstacle
    exact (hclear (.inr (.inr hobstacle))).elim
  next hother _ =>
    rw [hcell] at hother
    refine ⟨hq, hfacing, ?_, hs.outcome⟩
    rw [visited_succ, coinsAmong_append_of_not_coin hother]
    exact hs.collected

/-- A step to a wall or out of the level leaves the hero in place. -/
theorem step_blocked (hs : Reached grid stance plan n s) (ha : plan[n]? = some a)
    (hstop : Stops grid (path stance.position.point plan (n + 1)))
    (hobstacle : grid.cellAt? (path stance.position.point plan (n + 1)) ≠ some .obstacle)
    (rest : Plan) :
    (Run.step grid s a rest).2.state
      = { s with facing := a.direction, outcome := some (.blocked a.line) } := by
  rw [path_succ ha, ← hs.position] at hstop hobstacle
  cases htarget : Run.target? grid s.position a.direction with
  | none => simp only [Run.step, htarget]
  | some q =>
    obtain ⟨hq, cell, hcell, hwall⟩ := target?_eq_some htarget
    rw [hq] at hcell
    rcases hstop with hout | hstop | hstop
    · cases hcell.symm.trans hout
    · exact (hwall (Option.some.inj (hcell.symm.trans hstop))).elim
    · exact (hobstacle hstop).elim

theorem step_destroyed (hs : Reached grid stance plan n s) (ha : plan[n]? = some a)
    (hobstacle : grid.cellAt? (path stance.position.point plan (n + 1)) = some .obstacle)
    (rest : Plan) :
    ∃ q, q.point = path stance.position.point plan (n + 1) ∧
      (Run.step grid s a rest).2.state
        = { s with
            position := q
            facing := a.direction
            outcome := some (.destroyed a.line) } := by
  rw [path_succ ha, ← hs.position] at hobstacle ⊢
  cases htarget : Run.target? grid s.position a.direction with
  | none =>
    rcases target?_eq_none htarget with hout | hwall
    · cases hout.symm.trans hobstacle
    · cases hwall.symm.trans hobstacle
  | some q =>
    have hq := (target?_eq_some htarget).1
    rw [← hq, Grid.cellAt?_point] at hobstacle
    refine ⟨q, hq, ?_⟩
    simp only [Run.step, htarget, arrive, hobstacle]

theorem nodup_collected (hs : Reached grid stance plan n s) : s.collected.Nodup := by
  have hnodup : (coinsAmong grid (visited stance.position.point plan n)).Nodup :=
    nodup_coinsAmong
  rw [← hs.collected] at hnodup
  exact hnodup.of_map Position.point

/-- The coins that are missing in the end are those that do not lie on the way. -/
theorem encard_missing (hs : Reached grid stance plan n s) :
    (grid.coins \ {q | q ∈ visited stance.position.point plan n}).encard
      = (grid.coinCount - s.collected.length : Nat) := by
  have hcoins : ∀ p ∈ s.collected, p.point ∈ grid.coins := by
    intro p hp
    have hfound := List.mem_map_of_mem (f := Position.point) hp
    rw [hs.collected] at hfound
    exact (mem_coinsAmong.1 hfound).2
  have hsame : grid.coins \ {q | q ∈ visited stance.position.point plan n}
      = grid.coins \ {q | q ∈ s.collected.map Position.point} := by
    ext q
    have hiff : q ∈ s.collected.map Position.point
        ↔ q ∈ visited stance.position.point plan n ∧ q ∈ grid.coins := by
      rw [hs.collected, mem_coinsAmong]
    simp only [Set.mem_sdiff, Set.mem_ofPred_eq, hiff]
    tauto
  have hcount := Grid.encard_coins_sdiff hs.nodup_collected hcoins
  rw [← hsame] at hcount
  generalize (grid.coins \ _).encard = missing at hcount ⊢
  cases missing with
  | top => simp at hcount
  | coe missing =>
    have hnat : missing + s.collected.length = grid.coinCount := by exact_mod_cast hcount
    exact_mod_cast (Nat.eq_sub_of_add_eq hnat)

theorem missing_eq_zero_iff (hs : Reached grid stance plan n s) :
    grid.coinCount - s.collected.length = 0
      ↔ ∀ q ∈ grid.coins, q ∈ visited stance.position.point plan n := by
  have hmissing := hs.encard_missing
  rw [← Nat.cast_eq_zero (R := ENat), ← hmissing, Set.encard_eq_zero, Set.sdiff_eq_empty]
  rfl

end Reached

/-- As long as nothing stops a run, draining it is draining what is left of it. -/
theorem drain_initial (hn : n ≤ plan.length)
    (hclear : ∀ j < n, ¬ Stops grid (path stance.position.point plan (j + 1))) :
    ∃ s, Reached grid stance plan n s ∧
      ((initial stance plan).drain grid).2 = ((resting s (plan.drop n)).drain grid).2 := by
  induction n with
  | zero => exact ⟨_, reached_initial, rfl⟩
  | succ n ih =>
    obtain ⟨s, hs, hdrain⟩ := ih (by omega) fun j hj => hclear j (by omega)
    have ha : plan[n]? = some plan[n] := List.getElem?_eq_getElem hn
    refine ⟨_, hs.step ha (hclear n (by omega)) (plan.drop (n + 1)), ?_⟩
    rw [hdrain, List.drop_eq_getElem_cons hn, drain_cons hs.outcome]

theorem execute_of_drain {last : RunState} {outcome : Outcome} {rest : Plan}
    (h : ((initial stance plan).drain grid).2 = resting last rest)
    (houtcome : last.outcome = some outcome) :
    (execute grid stance plan).outcome = outcome ∧
    (execute grid stance plan).finalPosition = last.position ∧
    (execute grid stance plan).finalDirection = last.facing ∧
    (execute grid stance plan).collected = last.collected := by
  simp only [execute, report, h, resting, houtcome, Option.getD_some, and_self]

theorem haltedAt_execute (ha : plan[n]? = some a)
    (hfirst : FirstStop grid stance.position.point plan n) :
    HaltedAt grid stance.position.point plan n a (execute grid stance plan) := by
  obtain ⟨hn, rfl⟩ := List.getElem?_eq_some_iff.1 ha
  obtain ⟨s, hs, hdrain⟩ := drain_initial (Nat.le_of_lt hn) hfirst.clear
  rw [List.drop_eq_getElem_cons hn, drain_cons hs.outcome] at hdrain
  by_cases hobstacle : grid.cellAt? (path stance.position.point plan (n + 1)) = some .obstacle
  · obtain ⟨q, hq, hstate⟩ := hs.step_destroyed ha hobstacle (plan.drop (n + 1))
    rw [hstate, drain_of_outcome rfl] at hdrain
    obtain ⟨houtcome, hposition, hfacing, hcollected⟩ := execute_of_drain hdrain rfl
    refine ⟨fun h => (h hobstacle).elim, fun _ => ⟨houtcome, ?_⟩, hfacing, ?_⟩
    · rw [hposition]
      exact hq
    · rw [hcollected]
      exact hs.collected
  · have hstate := hs.step_blocked ha hfirst.stops hobstacle (plan.drop (n + 1))
    rw [hstate, drain_of_outcome rfl] at hdrain
    obtain ⟨houtcome, hposition, hfacing, hcollected⟩ := execute_of_drain hdrain rfl
    refine ⟨fun _ => ⟨houtcome, ?_⟩, fun h => (hobstacle h).elim, hfacing, ?_⟩
    · rw [hposition]
      exact hs.position
    · rw [hcollected]
      exact hs.collected

theorem completed_execute
    (hclear : ∀ i < plan.length, ¬ Stops grid (path stance.position.point plan (i + 1))) :
    Completed grid stance plan (execute grid stance plan) := by
  obtain ⟨s, hs, hdrain⟩ := drain_initial (Nat.le_refl _) hclear
  rw [List.drop_length, drain_nil hs.outcome] at hdrain
  obtain ⟨houtcome, hposition, hfacing, hcollected⟩ := execute_of_drain hdrain rfl
  have hgoal : grid.cell? s.position
      = grid.cellAt? (path stance.position.point plan plan.length) := by
    rw [← hs.position, Grid.cellAt?_point]
  refine ⟨?_, ?_, ?_, ?_, ?_⟩
  · rw [hposition]
    exact hs.position
  · have hlast := hs.facing
    rw [List.take_length] at hlast
    rw [hfacing]
    exact hlast
  · rw [hcollected]
    exact hs.collected
  · rw [houtcome, ← hgoal, ← hs.missing_eq_zero_iff, finalOutcome]
    simp
  · intro hfail
    rw [houtcome] at hfail ⊢
    have hlt := grid.coinCount_lt
    refine ⟨.ofNat (grid.coinCount - s.collected.length), ?_, ?_⟩
    · rw [finalOutcome, if_neg fun h => hfail (if_pos h), ← hgoal, beq_eq_decide]
    · rw [UInt64.toNat_ofNat_of_lt' (by omega)]
      exact hs.encard_missing

end Run

/-- The geometry of a run, from any stance and so from those that a grid or a configuration asks
for.  The first step that leads to no cell, to a wall or to an obstacle ends it, and otherwise it
ends where the walk ends. -/
theorem execute_geometry (grid : Grid) (stance : Stance) (plan : Plan) :
    (∀ i a, plan[i]? = some a → FirstStop grid stance.position.point plan i →
      HaltedAt grid stance.position.point plan i a (execute grid stance plan)) ∧
    ((∀ i < plan.length, ¬ Stops grid (path stance.position.point plan (i + 1))) →
      Completed grid stance plan (execute grid stance plan)) ∧
    (execute grid stance plan).outcome ≠ .incomplete true 0 := by
  refine ⟨fun i a => Run.haltedAt_execute, Run.completed_execute, ?_⟩
  rcases firstStop_or_clear grid stance.position.point plan with ⟨i, a, ha, hfirst⟩ | hclear
  · exact (Run.haltedAt_execute ha hfirst).outcome_ne_incomplete true 0
  · exact (Run.completed_execute hclear).outcome_ne_incomplete_zero

end GridWalk

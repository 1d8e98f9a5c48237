import GridWalk.Proofs.Compile.Failure
import GridWalk.Proofs.Lines

/-! A limit on the length of plans only cuts.  A program whose plan keeps to the limit compiles to
the same plan with it.  A longer plan is refused on the line of the first step that is too many, and
a program that fails without the limit fails with it, in the same way or on an earlier line. -/

namespace GridWalk.Compile

/-! ### The first step that is too many -/

section Emitting

variable {limit : UInt64}

theorem exceeded?_of_le {length : Nat} (h : length ≤ limit.toNat) :
    exceeded? (some limit) length = none := by
  rw [exceeded?, Option.filter_eq_none_iff]
  intro max hmax
  obtain rfl : limit = max := Option.some.inj hmax
  simp only [decide_eq_true_eq]
  omega

/-- A limit below the greatest 64-bit number is exceeded by all greater lengths. -/
theorem exceeded?_of_lt {length : Nat} (hl : limit.toNat < UInt64.size - 1)
    (h : limit.toNat < length) : exceeded? (some limit) length = some limit := by
  rw [exceeded?, Option.filter_eq_some_iff]
  refine ⟨rfl, ?_⟩
  simp only [decide_eq_true_eq]
  omega

theorem Move.length_plan (m : Move) : m.plan.length = m.steps.toNat := List.length_replicate

theorem size_append_plan (plan : Array Action) (added : Plan) :
    (plan ++ added.toArray).size = plan.size + added.length := by
  simp

theorem emit_of_le {plan : Array Action} {m : Move}
    (h : plan.size + m.plan.length ≤ limit.toNat) :
    emit (some limit) plan m = .ok (plan ++ m.plan.toArray) := by
  rw [Move.length_plan] at h
  rw [emit, exceeded?_of_le h, Move.actions_eq_toArray]

theorem emit_of_lt {plan : Array Action} {m : Move} (hl : limit.toNat < UInt64.size - 1)
    (h : limit.toNat < plan.size + m.plan.length) :
    emit (some limit) plan m = .error ((Problem.tooManyMoves limit).on m.line) := by
  rw [Move.length_plan] at h
  rw [emit, exceeded?_of_lt hl h]

theorem emitAll_of_le {moves : List Move} {plan : Array Action}
    (h : plan.size + (moves.flatMap Move.plan).length ≤ limit.toNat) :
    emitAll (some limit) moves plan = .ok (plan ++ (moves.flatMap Move.plan).toArray) := by
  induction moves generalizing plan with
  | nil => simp [emitAll]
  | cons m moves ih =>
    rw [List.flatMap_cons, List.length_append] at h
    have hrest : (plan ++ m.plan.toArray).size + (moves.flatMap Move.plan).length
        ≤ limit.toNat := by
      rw [size_append_plan]
      omega
    rw [emitAll, emit_of_le (by omega)]
    simp only [ih hrest, List.flatMap_cons, Array.append_assoc, List.append_toArray]

/-- The move that is refused is the one behind the step at the index of the limit. -/
theorem emitAll_of_lt {moves : List Move} {plan : Array Action}
    (hl : limit.toNat < UInt64.size - 1) (hp : plan.size ≤ limit.toNat)
    (h : limit.toNat < plan.size + (moves.flatMap Move.plan).length) :
    ∃ m ∈ moves, emitAll (some limit) moves plan = .error ((Problem.tooManyMoves limit).on m.line) ∧
      (plan.toList ++ moves.flatMap Move.plan)[limit.toNat]?
        = some ⟨m.direction, m.line.number⟩ := by
  induction moves generalizing plan with
  | nil =>
    have hlt : limit.toNat < plan.size := h
    omega
  | cons m moves ih =>
    rw [List.flatMap_cons, List.length_append] at h
    by_cases hm : limit.toNat < plan.size + m.plan.length
    · refine ⟨m, List.mem_cons_self, ?_, ?_⟩
      · rw [emitAll, emit_of_lt hl hm]
      · have hstep : limit.toNat - plan.size < m.plan.length := by omega
        rw [List.flatMap_cons, List.getElem?_append_right (by simpa using hp),
          List.getElem?_append_left (by simpa using hstep), Array.length_toList,
          List.getElem?_eq_getElem hstep]
        simp [Move.plan]
    · have hrest : limit.toNat
          < (plan ++ m.plan.toArray).size + (moves.flatMap Move.plan).length := by
        rw [size_append_plan]
        omega
      have hplan : (plan ++ m.plan.toArray).size ≤ limit.toNat := by
        rw [size_append_plan]
        omega
      obtain ⟨m', hm', herror, hstep⟩ := ih hplan hrest
      refine ⟨m', List.mem_cons_of_mem _ hm', ?_, ?_⟩
      · rw [emitAll, emit_of_le (by omega)]
        exact herror
      · simpa [List.flatMap_cons] using hstep

end Emitting

/-! ### Reading entries with and without the limit -/

section Entries

variable {limit : UInt64} {entries : List Entry} {p q : Progress}

theorem foldlM_none_append (h : entries.foldlM (Entry.read none) p = .ok q) :
    ∃ added : Plan, q.actions.toList = p.actions.toList ++ added := by
  induction entries generalizing p with
  | nil =>
    obtain rfl : p = q := Except.ok.inj h
    exact ⟨[], (List.append_nil _).symm⟩
  | cons e entries ih =>
    obtain ⟨symbols, moves, -, hrest⟩ := foldlM_none_cons_eq_ok h
    obtain ⟨added, hadded⟩ := ih hrest
    refine ⟨moves.flatMap Move.plan ++ added, ?_⟩
    rw [hadded, Array.toList_append, List.append_assoc]

theorem Entry.read_some_of_le {e : Entry} {symbols : Symbols} {moves : List Move}
    (hm : e.moves p.symbols = .ok (symbols, moves))
    (h : p.actions.size + (moves.flatMap Move.plan).length ≤ limit.toNat) :
    e.read (some limit) p = .ok ⟨symbols, p.actions ++ (moves.flatMap Move.plan).toArray⟩ := by
  rw [Entry.read, hm]
  simp only [emitAll_of_le h, Except.map]

/-- The line behind the step at the index of the limit is where an entry that adds too much is
refused. -/
theorem Entry.read_some_of_lt {e : Entry} {symbols : Symbols} {moves : List Move}
    (hl : limit.toNat < UInt64.size - 1) (hp : p.actions.size ≤ limit.toNat)
    (hm : e.moves p.symbols = .ok (symbols, moves))
    (h : limit.toNat < p.actions.size + (moves.flatMap Move.plan).length) :
    ∃ line ∈ e.lines, e.read (some limit) p = .error ((Problem.tooManyMoves limit).on line) ∧
      ((p.actions.toList ++ moves.flatMap Move.plan)[limit.toNat]?).map Action.line
        = some line.number := by
  obtain ⟨m, hmem, herror, hstep⟩ := emitAll_of_lt hl hp h
  refine ⟨m.line, (Entry.line_of_moves_ok hm m hmem).1, ?_, ?_⟩
  · rw [Entry.read, hm]
    simp only [herror, Except.map]
  · rw [hstep]
    rfl

theorem foldlM_some_of_le (h : entries.foldlM (Entry.read none) p = .ok q)
    (hq : q.actions.size ≤ limit.toNat) :
    entries.foldlM (Entry.read (some limit)) p = .ok q := by
  induction entries generalizing p with
  | nil => exact h
  | cons e entries ih =>
    obtain ⟨symbols, moves, hm, hrest⟩ := foldlM_none_cons_eq_ok h
    have hsize : p.actions.size + (moves.flatMap Move.plan).length ≤ q.actions.size := by
      obtain ⟨added, hadded⟩ := foldlM_none_append hrest
      have hlength := congrArg List.length hadded
      rw [List.length_append, Array.length_toList, Array.length_toList, size_append_plan] at hlength
      omega
    rw [List.foldlM_cons, Entry.read_some_of_le hm (by omega)]
    exact ih hrest

/-- A plan that exceeds the limit is refused on the line of the step at the index of the limit. -/
theorem foldlM_some_of_lt (hl : limit.toNat < UInt64.size - 1)
    (hp : p.actions.size ≤ limit.toNat) (h : entries.foldlM (Entry.read none) p = .ok q)
    (hq : limit.toNat < q.actions.size) :
    ∃ line ∈ entries.flatMap Entry.lines,
      entries.foldlM (Entry.read (some limit)) p
        = .error ((Problem.tooManyMoves limit).on line) ∧
      (q.actions.toList[limit.toNat]?).map Action.line = some line.number := by
  induction entries generalizing p with
  | nil =>
    obtain rfl : p = q := Except.ok.inj h
    omega
  | cons e entries ih =>
    obtain ⟨symbols, moves, hm, hrest⟩ := foldlM_none_cons_eq_ok h
    rw [List.foldlM_cons, List.flatMap_cons]
    by_cases hle : p.actions.size + (moves.flatMap Move.plan).length ≤ limit.toNat
    · obtain ⟨line, hline, herror, hstep⟩ := ih (by rw [size_append_plan]; exact hle) hrest
      refine ⟨line, List.mem_append_right _ hline, ?_, hstep⟩
      rw [Entry.read_some_of_le hm hle]
      exact herror
    · have hlt := Nat.lt_of_not_le hle
      obtain ⟨line, hline, herror, hstep⟩ := Entry.read_some_of_lt hl hp hm hlt
      obtain ⟨added, hadded⟩ := foldlM_none_append hrest
      refine ⟨line, List.mem_append_left _ hline, by rw [herror]; rfl, ?_⟩
      rw [hadded, List.getElem?_append_left (by simpa using hlt), ← hstep]
      simp

/-- A program that fails without a limit fails with it, at the same place or before it. -/
theorem foldlM_some_of_error {err : CompileError} (hl : limit.toNat < UInt64.size - 1)
    (hp : p.actions.size ≤ limit.toNat)
    (hsorted : (entries.flatMap Entry.lines).Pairwise (·.number < ·.number))
    (h : entries.foldlM (Entry.read none) p = .error err) :
    entries.foldlM (Entry.read (some limit)) p = .error err ∨
    ∃ line ∈ entries.flatMap Entry.lines, line.number < err.line ∧
      entries.foldlM (Entry.read (some limit)) p
        = .error ((Problem.tooManyMoves limit).on line) := by
  induction entries generalizing p with
  | nil => cases h
  | cons e entries ih =>
    rw [List.flatMap_cons] at hsorted ⊢
    rw [List.foldlM_cons]
    obtain ⟨-, hlater, hbefore⟩ := List.pairwise_append.1 hsorted
    rcases foldlM_none_cons_eq_error h with hm | ⟨symbols, moves, hm, hrest⟩
    · rw [Entry.read, hm]
      exact .inl rfl
    by_cases hle : p.actions.size + (moves.flatMap Move.plan).length ≤ limit.toNat
    · rw [Entry.read_some_of_le hm hle]
      rcases ih (by rw [size_append_plan]; exact hle) hlater hrest with
        same | ⟨line, hline, hearlier, herror⟩
      · exact .inl same
      · exact .inr ⟨line, List.mem_append_right _ hline, hearlier, herror⟩
    · obtain ⟨line, hline, herror, -⟩ := Entry.read_some_of_lt hl hp hm (Nat.lt_of_not_le hle)
      obtain ⟨line', hline', hnumber⟩ := line_of_foldlM_error hrest
      refine .inr ⟨line, List.mem_append_left _ hline, ?_, by rw [herror]; rfl⟩
      exact hnumber ▸ hbefore line hline line' hline'

end Entries

/-! ### What compiles keeps to the limit -/

section Fits

variable {limit : Option UInt64} {p q : Progress}

/-- The plan does not exceed the limit. -/
def Fits (limit : Option UInt64) (plan : Array Action) : Prop := exceeded? limit plan.size = none

theorem fits_empty (limit : Option UInt64) : Fits limit #[] := by
  rw [Fits, exceeded?, Option.filter_eq_none_iff]
  intro max _ h
  simp at h

theorem size_append_actions (plan : Array Action) (m : Move) :
    (plan ++ m.actions).size = plan.size + m.steps.toNat := by
  simp [Move.actions]

theorem emit_eq_ok_iff {plan plan' : Array Action} {m : Move} :
    emit limit plan m = .ok plan' ↔ Fits limit plan' ∧ plan' = plan ++ m.actions := by
  rw [emit]
  constructor
  · intro h
    split at h
    · cases h
    next hfits =>
      obtain rfl := Except.ok.inj h
      rw [← size_append_actions] at hfits
      exact ⟨hfits, rfl⟩
  · rintro ⟨hfits, rfl⟩
    rw [Fits, size_append_actions] at hfits
    rw [hfits]

theorem emitAll_cons_eq_ok_iff {m : Move} {moves : List Move} {plan plan' : Array Action} :
    emitAll limit (m :: moves) plan = .ok plan' ↔
      Fits limit (plan ++ m.actions) ∧ emitAll limit moves (plan ++ m.actions) = .ok plan' := by
  rw [emitAll]
  cases hm : emit limit plan m with
  | error err =>
    constructor
    · intro h
      cases h
    · rintro ⟨hfits, -⟩
      cases hm.symm.trans (emit_eq_ok_iff.2 ⟨hfits, rfl⟩)
  | ok next =>
    obtain ⟨hfits, rfl⟩ := emit_eq_ok_iff.1 hm
    exact ⟨fun h => ⟨hfits, h⟩, fun h => h.2⟩

theorem fits_of_emitAll {moves : List Move} {plan plan' : Array Action} (hp : Fits limit plan)
    (h : emitAll limit moves plan = .ok plan') : Fits limit plan' := by
  induction moves generalizing plan with
  | nil =>
    obtain rfl : plan = plan' := Except.ok.inj h
    exact hp
  | cons m moves ih =>
    obtain ⟨hfits, hrest⟩ := emitAll_cons_eq_ok_iff.1 h
    exact ih hfits hrest

theorem fits_of_foldlM {entries : List Entry} (hp : Fits limit p.actions)
    (h : entries.foldlM (Entry.read limit) p = .ok q) : Fits limit q.actions := by
  induction entries generalizing p with
  | nil =>
    obtain rfl : p = q := Except.ok.inj h
    exact hp
  | cons e entries ih =>
    obtain ⟨next, hr, hrest⟩ := foldlM_read_cons_eq_ok_iff.1 h
    obtain ⟨moves, -, hemit⟩ := Entry.read_eq_ok_iff.1 hr
    exact ih (fits_of_emitAll hp hemit) hrest

theorem emitAll_none_of_ok {moves : List Move} {plan plan' : Array Action}
    (h : emitAll limit moves plan = .ok plan') : emitAll none moves plan = .ok plan' := by
  induction moves generalizing plan with
  | nil => exact h
  | cons m moves ih =>
    obtain ⟨-, hrest⟩ := emitAll_cons_eq_ok_iff.1 h
    exact emitAll_cons_eq_ok_iff.2 ⟨rfl, ih hrest⟩

/-- What is read with a limit is read without it. -/
theorem foldlM_none_of_ok {entries : List Entry}
    (h : entries.foldlM (Entry.read limit) p = .ok q) :
    entries.foldlM (Entry.read none) p = .ok q := by
  induction entries generalizing p with
  | nil => exact h
  | cons e entries ih =>
    obtain ⟨next, hread, hrest⟩ := foldlM_read_cons_eq_ok_iff.1 h
    obtain ⟨moves, hm, hemit⟩ := Entry.read_eq_ok_iff.1 hread
    exact foldlM_read_cons_eq_ok_iff.2
      ⟨next, Entry.read_eq_ok_iff.2 ⟨moves, hm, emitAll_none_of_ok hemit⟩, ih hrest⟩

end Fits

/-! ### Programs with and without the limit -/

/-- The line of a program with a given number, counted from 1. -/
def lineAt? (program : String) (number : UInt32) : Option Line :=
  (Line.ofText program)[number.toNat - 1]?

/-- The error E301 on a line, which names the limit and quotes the line. -/
def limitError (limit : UInt64) (line : Line) : CompileError where
  code := ⟨301⟩
  category := .structural
  message := "program produces more than " ++ limit.toNat.repr ++ " moves"
  line := line.number
  sourceLine := line.raw
  suggestion := none

/-- What compiles with a limit keeps to it, however many lines it has. -/
theorem length_le_of_compile {program : String} {limit : UInt64} {plan : Plan}
    (hlimit : limit.toNat < UInt64.size - 1) (h : compile program ⟨some limit⟩ = .ok plan) :
    plan.length ≤ limit.toNat := by
  obtain ⟨q, hq, rfl⟩ := planOf_eq_ok_iff.1 h
  have hfits : exceeded? (some limit) q.actions.size = none :=
    fits_of_foldlM (fits_empty _) hq
  by_contra hlt
  rw [Array.length_toList, Nat.not_le] at hlt
  cases hfits.symm.trans (exceeded?_of_lt hlimit hlt)

theorem compile_unlimited_of_ok {program : String} {options : CompilerOptions} {plan : Plan}
    (h : compile program options = .ok plan) : compile program .unlimited = .ok plan := by
  obtain ⟨q, hq, rfl⟩ := planOf_eq_ok_iff.1 h
  exact planOf_eq_ok_iff.2 ⟨q, foldlM_none_of_ok hq, rfl⟩

theorem compile_some_of_le {program : String} {limit : UInt64} {plan : Plan}
    (h : compile program .unlimited = .ok plan) (hle : plan.length ≤ limit.toNat) :
    compile program ⟨some limit⟩ = .ok plan := by
  obtain ⟨q, hq, rfl⟩ := planOf_eq_ok_iff.1 h
  exact planOf_eq_ok_iff.2 ⟨q, foldlM_some_of_le hq (by simpa using hle), rfl⟩

section Compile

variable {program : String} {limit : UInt64} (hlimit : limit.toNat < UInt64.size - 1)
  (hlines : (Line.ofText program).length < UInt32.size - 1)
include hlimit hlines

theorem compile_some_of_lt {plan : Plan} (h : compile program .unlimited = .ok plan)
    (hlt : limit.toNat < plan.length) :
    ∃ line, lineAt? program plan[limit.toNat].line = some line ∧
      line.number = plan[limit.toNat].line ∧
      compile program ⟨some limit⟩ = .error (limitError limit line) := by
  obtain ⟨q, hq, rfl⟩ := planOf_eq_ok_iff.1 h
  obtain ⟨line, hline, herror, hstep⟩ :=
    foldlM_some_of_lt hlimit (Nat.zero_le _) hq (by simpa using hlt)
  have hnumber : line.number = q.actions.toList[limit.toNat].line := by
    rw [List.getElem?_eq_getElem hlt] at hstep
    exact (Option.some.inj hstep).symm
  have hmem := (outline_sublist _).subset hline
  refine ⟨line, ?_, hnumber, planOf_eq_error_iff.2 herror⟩
  rw [← hnumber]
  exact Line.getElem?_number_of_mem_ofText (by omega) hmem

theorem compile_some_of_error {err : CompileError}
    (h : compile program .unlimited = .error err) :
    compile program ⟨some limit⟩ = .error err ∨
    ∃ line ∈ Line.ofText program, line.number < err.line ∧
      compile program ⟨some limit⟩ = .error (limitError limit line) := by
  have sorted := (Line.pairwise_number_ofText (by omega : _ < UInt32.size)).sublist
    (outline_sublist (Line.ofText program))
  rcases foldlM_some_of_error hlimit (Nat.zero_le _) sorted (planOf_eq_error_iff.1 h) with
    same | ⟨line, hline, hearlier, herror⟩
  · exact .inl (planOf_eq_error_iff.2 same)
  · exact .inr ⟨line, (outline_sublist _).subset hline, hearlier, planOf_eq_error_iff.2 herror⟩

end Compile

/-- The limit only cuts, and it cuts at the line of the first step that is too many. -/
theorem compile_limited (program : String) (limit : UInt64)
    (hlines : (Line.ofText program).length < UInt32.size - 1)
    (hlimit : limit.toNat < UInt64.size - 1) :
    (∀ plan, compile program .unlimited = .ok plan →
      (plan.length ≤ limit.toNat → compile program ⟨some limit⟩ = .ok plan) ∧
      ∀ h : limit.toNat < plan.length, ∃ line,
        lineAt? program plan[limit.toNat].line = some line ∧
        line.number = plan[limit.toNat].line ∧
        compile program ⟨some limit⟩ = .error (limitError limit line)) ∧
    (∀ err, compile program .unlimited = .error err →
      compile program ⟨some limit⟩ = .error err ∨
      ∃ line ∈ Line.ofText program, line.number < err.line ∧
        compile program ⟨some limit⟩ = .error (limitError limit line)) ∧
    ∀ plan, compile program ⟨some limit⟩ = .ok plan →
      plan.length ≤ limit.toNat ∧ compile program .unlimited = .ok plan ∧
      ∀ greater, limit ≤ greater → compile program ⟨some greater⟩ = .ok plan := by
  refine ⟨fun plan h => ⟨compile_some_of_le h, compile_some_of_lt hlimit hlines h⟩,
    fun err h => compile_some_of_error hlimit hlines h, fun plan h => ?_⟩
  have hle := length_le_of_compile hlimit h
  have hu := compile_unlimited_of_ok h
  refine ⟨hle, hu, fun greater hgreater => compile_some_of_le hu ?_⟩
  exact Nat.le_trans hle (UInt64.le_iff_toNat_le.1 hgreater)

/-- A program of five steps, four of which stand on its second line. -/
def fiveSteps : String := "for i in range(2):\n    hero.move_up(2)\nhero.move_left()"

/-- With room for three steps, the second round of the loop is refused. -/
theorem compile_limited_fiveSteps :
    (Line.ofText fiveSteps).length < UInt32.size - 1 ∧ (3 : UInt64).toNat < UInt64.size - 1 ∧
    compile fiveSteps .unlimited = .ok (List.replicate 4 ⟨.up, 2⟩ ++ [⟨.left, 3⟩]) ∧
    ∃ line, lineAt? fiveSteps 2 = some line ∧ line.number = 2 ∧
      compile fiveSteps ⟨some 3⟩ = .error (limitError 3 line) := by
  have hlines : (Line.ofText fiveSteps).length < UInt32.size - 1 := by decide +kernel
  have hlimit : (3 : UInt64).toNat < UInt64.size - 1 := by decide
  have hplan : compile fiveSteps .unlimited = .ok (List.replicate 4 ⟨.up, 2⟩ ++ [⟨.left, 3⟩]) := by
    decide +kernel
  exact ⟨hlines, hlimit, hplan,
    ((compile_limited fiveSteps 3 hlines hlimit).1 _ hplan).2 (by decide)⟩

end GridWalk.Compile

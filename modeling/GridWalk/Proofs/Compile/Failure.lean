import GridWalk.Proofs.Compile.Meaning

/-! How compiling fails.  The first entry that cannot be read ends it, and `Entry.Fails` lists the
ways in which an entry cannot be read, each with the line at fault and what is wrong there. -/

namespace GridWalk.Compile

namespace Entry

/-- Reading an entry with the variables `symbols` finds the problem on the line. -/
inductive Fails (limit : Option UInt64) (symbols : Symbols) (e : Entry) : Line → Problem → Prop
  | unreadable {line : Line} {problem : Problem} (mem : line ∈ e.lines)
      (statement : line.statement = .error problem) : Fails limit symbols e line problem
  | unrecognized (statement : e.line.statement = .ok .unsupported) :
      Fails limit symbols e e.line (.unrecognized e.line.code)
  | undefined {line : Line} {name : String} (mem : line ∈ e.lines)
      (uses : .reference name ∈ operandsOf line) (top : line.isLoop = true → line = e.line)
      (absent : symbols.get? name = none) : Fails limit symbols e line (.undefinedVariable name)
  | misplaced {line : Line} {statement : Statement} {problem : Problem} (mem : line ∈ e.body)
      (reads : line.statement = .ok statement)
      (not_move : ∀ direction steps, statement ≠ .move direction steps)
      (code : problem.code = ⟨300⟩) : Fails limit symbols e line problem
  | tooLong {line : Line} {direction : Direction} {steps : Option Operand} {max : UInt64}
      (mem : line ∈ e.lines) (move : line.statement = .ok (.move direction steps))
      (limited : limit = some max) : Fails limit symbols e line (.tooManyMoves max)

theorem Fails.mem {limit : Option UInt64} {symbols : Symbols} {e : Entry} {line : Line}
    {problem : Problem} (h : e.Fails limit symbols line problem) : line ∈ e.lines := by
  cases h with
  | unreadable mem => exact mem
  | unrecognized => exact List.mem_cons_self
  | undefined mem => exact mem
  | misplaced mem => exact List.mem_cons_of_mem _ mem
  | tooLong mem => exact mem

end Entry

section Symbols

variable {symbols : Symbols} {problem : Problem}

theorem resolve_eq_error {operand : Operand} (h : resolve symbols operand = .error problem) :
    ∃ name, operand = .reference name ∧ symbols.get? name = none ∧
      problem = .undefinedVariable name := by
  cases operand with
  | literal value => cases h
  | reference name =>
    rw [resolve] at h
    cases hget : symbols.get? name with
    | some value => simp [hget] at h
    | none =>
      rw [hget] at h
      exact ⟨name, rfl, hget, (Except.error.inj h).symm⟩

theorem resolveSteps_eq_error {steps : Option Operand}
    (h : resolveSteps symbols steps = .error problem) :
    ∃ name, steps = some (.reference name) ∧ symbols.get? name = none ∧
      problem = .undefinedVariable name := by
  cases steps with
  | none => cases h
  | some operand =>
    obtain ⟨name, rfl, habsent, hproblem⟩ := resolve_eq_error h
    exact ⟨name, rfl, habsent, hproblem⟩

end Symbols

section Entries

variable {limit : Option UInt64} {symbols : Symbols} {e : Entry} {err : CompileError}

theorem bodyMove_eq_error {line : Line} (hmem : line ∈ e.body)
    (h : bodyMove symbols line = .error err) :
    ∃ problem, e.Fails limit symbols line problem ∧ err = problem.on line := by
  have hline : line ∈ e.lines := List.mem_cons_of_mem _ hmem
  unfold bodyMove at h
  split at h
  next problem hs => exact ⟨problem, .unreadable hline hs, (Except.error.inj h).symm⟩
  next direction steps hs =>
    split at h
    · cases h
    next problem hc =>
      obtain ⟨name, rfl, habsent, rfl⟩ := resolveSteps_eq_error hc
      refine ⟨_, .undefined hline (by simp [operandsOf, hs]) (fun hloop => ?_) habsent,
        (Except.error.inj h).symm⟩
      simp [Line.isLoop, hs] at hloop
  next hs => exact ⟨_, .misplaced hmem hs (by simp) rfl, (Except.error.inj h).symm⟩
  next hs => exact ⟨_, .misplaced hmem hs (by simp) rfl, (Except.error.inj h).symm⟩
  next hs => exact ⟨_, .misplaced hmem hs (by simp) rfl, (Except.error.inj h).symm⟩

theorem bodyMoves_cons_eq_error_iff {line : Line} {body : List Line} :
    bodyMoves symbols (line :: body) = .error err ↔ bodyMove symbols line = .error err ∨
      ∃ m, bodyMove symbols line = .ok m ∧ bodyMoves symbols body = .error err := by
  rw [bodyMoves]
  cases bodyMove symbols line with
  | error e' => simp
  | ok m => cases bodyMoves symbols body <;> simp

/-- The body of a loop is refused for a line of it that is refused. -/
theorem exists_of_bodyMoves_eq_error {body : List Line} (h : bodyMoves symbols body = .error err) :
    ∃ line ∈ body, bodyMove symbols line = .error err := by
  induction body with
  | nil => cases h
  | cons line body ih =>
    rcases bodyMoves_cons_eq_error_iff.1 h with hline | ⟨-, -, hbody⟩
    · exact ⟨line, List.mem_cons_self, hline⟩
    · obtain ⟨line', hmem, hline'⟩ := ih hbody
      exact ⟨line', List.mem_cons_of_mem _ hmem, hline'⟩

theorem bodyMoves_eq_error (h : bodyMoves symbols e.body = .error err) :
    ∃ line problem, e.Fails limit symbols line problem ∧ err = problem.on line := by
  obtain ⟨line, hline, hm⟩ := exists_of_bodyMoves_eq_error h
  exact ⟨line, bodyMove_eq_error hline hm⟩

theorem Entry.moves_eq_error (h : e.moves symbols = .error err) :
    ∃ line problem, e.Fails limit symbols line problem ∧ err = problem.on line := by
  have htop : e.line ∈ e.lines := List.mem_cons_self
  unfold Entry.moves at h
  split at h
  next problem hs => exact ⟨e.line, problem, .unreadable htop hs, (Except.error.inj h).symm⟩
  next name operand hs =>
    split at h
    next problem hv =>
      obtain ⟨name, rfl, habsent, rfl⟩ := resolve_eq_error hv
      exact ⟨e.line, _, .undefined htop (by simp [operandsOf, hs]) (fun _ => rfl) habsent,
        (Except.error.inj h).symm⟩
    · cases h
  next direction steps hs =>
    split at h
    next problem hc =>
      obtain ⟨name, rfl, habsent, rfl⟩ := resolveSteps_eq_error hc
      exact ⟨e.line, _, .undefined htop (by simp [operandsOf, hs]) (fun _ => rfl) habsent,
        (Except.error.inj h).symm⟩
    · cases h
  next name operand hs =>
    split at h
    next problem hc =>
      obtain ⟨name, rfl, habsent, rfl⟩ := resolve_eq_error hc
      exact ⟨e.line, _, .undefined htop (by simp [operandsOf, hs]) (fun _ => rfl) habsent,
        (Except.error.inj h).symm⟩
    next count hc =>
      cases hb : bodyMoves symbols e.body with
      | error e' =>
        obtain rfl : e' = err := by simpa [hb, Except.map] using h
        exact bodyMoves_eq_error hb
      | ok moves => simp [hb, Except.map] at h
  next hs => exact ⟨e.line, _, .unrecognized hs, (Except.error.inj h).symm⟩

theorem emitAll_eq_error {moves : List Move} {plan : Array Action}
    (h : emitAll limit moves plan = .error err) :
    ∃ m ∈ moves, ∃ max, limit = some max ∧ err = (Problem.tooManyMoves max).on m.line := by
  induction moves generalizing plan with
  | nil => cases h
  | cons m moves ih =>
    rw [emitAll] at h
    cases hm : emit limit plan m with
    | ok plan' =>
      rw [hm] at h
      obtain ⟨m', hmem, hmax⟩ := ih h
      exact ⟨m', List.mem_cons_of_mem _ hmem, hmax⟩
    | error e' =>
      obtain rfl : e' = err := by simpa [hm] using h
      rw [emit] at hm
      split at hm
      next max hmax =>
        have hlimit := (Option.filter_eq_some_iff.1 hmax).1
        exact ⟨m, List.mem_cons_self, max, hlimit, (Except.error.inj hm).symm⟩
      · cases hm

theorem Entry.read_eq_error {p : Progress} (h : e.read limit p = .error err) :
    ∃ line problem, e.Fails limit p.symbols line problem ∧ err = problem.on line := by
  rw [Entry.read] at h
  cases hm : e.moves p.symbols with
  | error e' =>
    obtain rfl : e' = err := by simpa [hm] using h
    exact moves_eq_error hm
  | ok result =>
    obtain ⟨symbols', moves⟩ := result
    cases hemit : emitAll limit moves p.actions with
    | ok plan => simp [hm, hemit, Except.map] at h
    | error e' =>
      obtain rfl : e' = err := by simpa [hm, hemit, Except.map] using h
      obtain ⟨m, hmem, max, hlimit, rfl⟩ := emitAll_eq_error hemit
      obtain ⟨hline, steps, hs⟩ := line_of_moves_ok hm m hmem
      exact ⟨m.line, _, .tooLong hline hs hlimit, rfl⟩

/-- The entry at which reading fails, and the progress made before it. -/
theorem foldlM_read_eq_error {entries : List Entry} {p : Progress}
    (h : entries.foldlM (Entry.read limit) p = .error err) :
    ∃ done e todo q, entries = done ++ e :: todo ∧
      done.foldlM (Entry.read limit) p = .ok q ∧ e.read limit q = .error err := by
  induction entries generalizing p with
  | nil => cases h
  | cons e entries ih =>
    rcases foldlM_read_cons_eq_error_iff.1 h with hread | ⟨p', hread, hrest⟩
    · exact ⟨[], e, entries, p, rfl, rfl, hread⟩
    · obtain ⟨done, e', todo, q, rfl, hdone, hfail⟩ := ih hrest
      exact ⟨e :: done, e', todo, q, rfl, foldlM_read_cons_eq_ok_iff.2 ⟨p', hread, hdone⟩, hfail⟩

theorem line_of_foldlM_error {entries : List Entry} {p : Progress}
    (h : entries.foldlM (Entry.read limit) p = .error err) :
    ∃ line ∈ entries.flatMap Entry.lines, err.line = line.number := by
  obtain ⟨done, e, todo, q, rfl, -, hread⟩ := foldlM_read_eq_error h
  obtain ⟨line, problem, hfails, rfl⟩ := Entry.read_eq_error hread
  have he : e ∈ done ++ e :: todo := by simp
  exact ⟨line, List.mem_flatMap.2 ⟨e, he, hfails.mem⟩, rfl⟩

/-- The line at fault is one of those that were read. -/
theorem line_of_outline_error {lines : List Line} {p : Progress}
    (h : (outline lines).foldlM (Entry.read limit) p = .error err) :
    ∃ line ∈ lines, err.line = line.number := by
  obtain ⟨line, hline, hnumber⟩ := line_of_foldlM_error h
  exact ⟨line, (outline_sublist lines).subset hline, hnumber⟩

end Entries

end GridWalk.Compile

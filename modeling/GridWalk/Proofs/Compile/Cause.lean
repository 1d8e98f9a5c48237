import GridWalk.Proofs.Compile.Limit
import GridWalk.Proofs.Indentation

/-! What the error of a program says is true of the line that it names.  `Cause` lists, code by
code, what is the matter with that line, and `compile_error_has_cause` says that every error has its
cause. -/

namespace GridWalk

/-! ### What classification reports -/

theorem Operand.code_of_parse_error {cs : List Char} {problem : Problem}
    (h : Operand.parse cs = .error problem) : problem.code = ⟨105⟩ := by
  unfold Operand.parse Operand.ofTrimmed at h
  split at h
  · simp only at h
    split at h
    · cases h
    · obtain rfl := Except.error.inj h
      rfl
  split at h
  · cases h
  split at h
  · obtain rfl := Except.error.inj h
    rfl
  · obtain rfl := Except.error.inj h
    rfl

namespace Statement

variable {cs : List Char} {problem : Problem}

/-- The codes of the problems that one line can have in itself. -/
def codes : List ErrorCode := [⟨101⟩, ⟨102⟩, ⟨103⟩, ⟨104⟩, ⟨105⟩]

theorem code_of_map_error {α β : Type} {x : Except Problem α} {f : α → β}
    (hx : ∀ problem, x = .error problem → problem.code ∈ codes)
    (h : x.map f = .error problem) : problem.code ∈ codes := by
  cases x with
  | ok a => cases h
  | error problem' =>
    obtain rfl := Except.error.inj h
    exact hx _ rfl

theorem code_of_parse_error (problem : Problem) (h : Operand.parse cs = .error problem) :
    problem.code ∈ codes := by
  rw [Operand.code_of_parse_error h]
  decide

theorem code_of_parseAssignment_error {name : List Char}
    (h : parseAssignment name cs = .error problem) : problem.code ∈ codes := by
  unfold parseAssignment at h
  split at h
  · exact code_of_map_error code_of_parse_error h
  · obtain rfl := Except.error.inj h
    simp [Problem.code, codes]

theorem code_of_parseLoop_error (h : parseLoop cs = .error problem) : problem.code ∈ codes := by
  have malformed {fault : LoopFault}
      (hfault : Except.error (α := Statement) (Problem.malformedLoop fault) = .error problem) :
      problem.code ∈ codes := by
    obtain rfl := Except.error.inj hfault
    simp [Problem.code, codes]
  unfold parseLoop at h
  split at h
  · exact malformed h
  simp only at h
  split at h
  · exact malformed h
  split at h
  · exact malformed h
  split at h
  · exact malformed h
  split at h
  · exact malformed h
  · exact code_of_map_error code_of_parse_error h

theorem code_of_parseSteps_error (problem : Problem) (h : parseSteps cs = .error problem) :
    problem.code ∈ codes := by
  unfold parseSteps at h
  split at h
  · cases h
  · exact code_of_map_error code_of_parse_error h

theorem code_of_parseMove_error (h : parseMove cs = .error problem) : problem.code ∈ codes := by
  have malformed (hfault : Except.error (α := Statement) Problem.malformedMove = .error problem) :
      problem.code ∈ codes := by
    obtain rfl := Except.error.inj hfault
    simp [Problem.code, codes]
  unfold parseMove at h
  split at h
  · exact malformed h
  split at h
  · exact malformed h
  split at h
  · exact malformed h
  simp only at h
  split at h
  · obtain rfl := Except.error.inj h
    simp [Problem.code, codes]
  · exact code_of_map_error code_of_parseSteps_error h

theorem code_of_ofCode_error (h : ofCode cs = .error problem) : problem.code ∈ codes := by
  unfold ofCode at h
  split at h
  · exact code_of_parseLoop_error h
  split at h
  · exact code_of_parseMove_error h
  split at h
  · cases h
  split at h
  · exact code_of_parseAssignment_error h
  · cases h

end Statement

namespace Compile

/-! ### Where lines stand -/

section Places

variable {lines : List Line} {line : Line}

/-- The line stands at the top level of the program. -/
def AtTop (lines : List Line) (line : Line) : Prop := ∃ e ∈ outline lines, e.line = line

/-- The line stands in the block of a loop. -/
def InBlock (lines : List Line) (line : Line) : Prop :=
  ∃ e ∈ outline lines, e.line.isLoop = true ∧ line ∈ e.body

theorem isIndented_of_mem_body {e : Entry} (he : e ∈ outline lines) (h : line ∈ e.body) :
    line.isIndented = true := by
  induction lines using outline.induct with
  | case1 => simp [outline] at he
  | case2 first rest hblank ih =>
    rw [outline, if_pos hblank] at he
    exact ih he
  | case3 first rest hblank hloop ih =>
    rw [outline, if_neg hblank, if_pos hloop] at he
    rcases List.mem_cons.1 he with rfl | he
    · obtain ⟨hmem, hcode⟩ := List.mem_filter.1 h
      exact Line.isIndented_of_continuesBlock (List.mem_takeWhile_imp hmem) (by simpa using hcode)
    · exact ih he
  | case4 first rest hblank hloop ih =>
    rw [outline, if_neg hblank, if_neg hloop] at he
    rcases List.mem_cons.1 he with rfl | he
    · cases h
    · exact ih he

theorem inBlock_of_mem_body {e : Entry} (he : e ∈ outline lines) (h : line ∈ e.body) :
    InBlock lines line := by
  refine ⟨e, he, ?_, h⟩
  by_contra hloop
  rw [body_eq_nil_of_mem_outline he (Bool.eq_false_iff.2 hloop)] at h
  cases h

end Places

/-- What is the matter with the line that an error names. -/
inductive Cause (lines : List Line) (limit : Option UInt64) (line : Line) : CompileError → Prop
  /-- A line at the top level is no statement. -/
  | unrecognized {err : CompileError} (code : err.code = ⟨100⟩) (top : AtTop lines line)
      (statement : line.statement = .ok .unsupported) : Cause lines limit line err
  /-- The line is refused in itself, with this very error. -/
  | unreadable {err : CompileError} {problem : Problem} (code : err.code ∈ Statement.codes)
      (statement : line.statement = .error problem) (same : err = problem.on line) :
      Cause lines limit line err
  /-- The line uses a name that no line before it assigns at the top level. -/
  | undefined {err : CompileError} {name : String} (code : err.code = ⟨200⟩)
      (uses : .reference name ∈ operandsOf line) (top : line.isLoop = true → AtTop lines line)
      (unassigned : ∀ e ∈ outline lines, e.line.number < line.number → ¬ e.Assigns name)
      (message : err.message = "variable '" ++ name ++ "' is not defined") :
      Cause lines limit line err
  /-- An indented line in the block of a loop is a statement other than a move. -/
  | misplaced {err : CompileError} {statement : Statement} (code : err.code = ⟨300⟩)
      (block : InBlock lines line) (indented : line.isIndented = true)
      (reads : line.statement = .ok statement)
      (not_move : ∀ direction steps, statement ≠ .move direction steps) :
      Cause lines limit line err
  /-- The line is a move, and plans are limited. -/
  | tooLong {err : CompileError} {direction : Direction} {steps : Option Operand}
      (code : err.code = ⟨301⟩) (move : line.statement = .ok (.move direction steps))
      (limited : limit.isSome = true) : Cause lines limit line err

/-- The codes of all errors. -/
def codes : List ErrorCode := ⟨100⟩ :: (Statement.codes ++ [⟨200⟩, ⟨300⟩, ⟨301⟩])

theorem Cause.code_mem {lines : List Line} {limit : Option UInt64} {line : Line}
    {err : CompileError} (h : Cause lines limit line err) : err.code ∈ codes := by
  cases h with
  | unrecognized code => simp [codes, code]
  | unreadable code => exact List.mem_cons_of_mem _ (List.mem_append_left _ code)
  | undefined code => simp [codes, code]
  | misplaced code => simp [codes, code]
  | tooLong code => simp [codes, code]

/-! ### The variables that are defined -/

section Defined

variable {limit : Option UInt64} {name : String}

theorem Entry.isSome_get?_of_read {p q : Progress} {e : Entry} (h : e.read limit p = .ok q)
    (hname : (p.symbols.get? name).isSome = true ∨ e.Assigns name) :
    (q.symbols.get? name).isSome = true := by
  obtain ⟨moves, hm, -⟩ := Entry.read_eq_ok_iff.1 h
  have kept {statement : Statement} (hs : e.line.statement = .ok statement)
      (hne : ∀ operand, statement ≠ .assignment name operand) :
      (p.symbols.get? name).isSome = true := by
    rcases hname with hname | ⟨operand, ha⟩
    · exact hname
    · exact absurd (Except.ok.inj (hs.symm.trans ha)) (hne operand)
  rcases Entry.moves_cases hm with ⟨other, operand, value, hs, -, hq, -⟩ |
    ⟨_, _, _, hs, -, hq, -⟩ | ⟨_, _, _, _, hs, -, -, hq, -⟩
  · rw [hq]
    by_cases heq : name = other
    · simp [heq]
    · rw [Symbols.get?_define_of_ne _ _ heq]
      exact kept hs fun operand' h' => heq (Statement.assignment.inj h').1.symm
  · rw [hq]
    exact kept hs (by simp)
  · rw [hq]
    exact kept hs (by simp)

/-- A name that an entry has assigned stays defined. -/
theorem isSome_get?_of_foldlM {entries : List Entry} {p q : Progress}
    (h : entries.foldlM (Entry.read limit) p = .ok q)
    (hname : (p.symbols.get? name).isSome = true ∨ ∃ e ∈ entries, e.Assigns name) :
    (q.symbols.get? name).isSome = true := by
  induction entries generalizing p with
  | nil =>
    obtain rfl : p = q := Except.ok.inj h
    simpa using hname
  | cons e entries ih =>
    obtain ⟨next, hr, hrest⟩ := foldlM_read_cons_eq_ok_iff.1 h
    refine ih hrest ?_
    rcases hname with hname | ⟨e', he', ha⟩
    · exact .inl (Entry.isSome_get?_of_read hr (.inl hname))
    rcases List.mem_cons.1 he' with rfl | he'
    · exact .inl (Entry.isSome_get?_of_read hr (.inr ha))
    · exact .inr ⟨e', he', ha⟩

end Defined

/-- No entry on an earlier line assigns a name that is undefined when an entry is read. -/
theorem not_assigns_of_get?_eq_none {limit : Option UInt64} {p q : Progress}
    {done todo : List Entry} {e : Entry} {line : Line} {name : String}
    (hdone : done.foldlM (Entry.read limit) p = .ok q) (habsent : q.symbols.get? name = none)
    (hsorted : ((done ++ e :: todo).flatMap Entry.lines).Pairwise (·.number < ·.number))
    (hline : line ∈ e.lines) (hbody : e.line.isLoop = false → e.body = []) :
    ∀ e' ∈ done ++ e :: todo, e'.line.number < line.number → ¬ e'.Assigns name := by
  intro e' he' hearlier hassigns
  rcases List.mem_append.1 he' with he' | he'
  · have hdefined := isSome_get?_of_foldlM hdone (.inr ⟨e', he', hassigns⟩)
    simp [habsent] at hdefined
  rw [List.flatMap_append, List.flatMap_cons, List.pairwise_append, List.pairwise_append]
    at hsorted
  obtain ⟨-, ⟨-, -, hlater⟩, -⟩ := hsorted
  rcases List.mem_cons.1 he' with rfl | he'
  · obtain ⟨operand, ha⟩ := hassigns
    have hnil : e'.body = [] := by
      refine hbody (Bool.eq_false_iff.2 fun hloop => ?_)
      obtain ⟨_, _, hs⟩ := Line.isLoop_eq_true_iff.1 hloop
      cases hs.symm.trans ha
    rw [Entry.lines, hnil, List.mem_singleton] at hline
    rw [hline] at hearlier
    exact absurd hearlier (UInt32.lt_irrefl _)
  · have hafter := hlater line hline e'.line
      (List.mem_flatMap.2 ⟨e', he', List.mem_cons_self⟩)
    exact absurd hearlier (UInt32.lt_asymm hafter)

theorem cause_of_fails {lines : List Line} {limit : Option UInt64} {p q : Progress}
    {done todo : List Entry} {e : Entry} {line : Line} {problem : Problem}
    (hsorted : lines.Pairwise (·.number < ·.number)) (houtline : outline lines = done ++ e :: todo)
    (hdone : done.foldlM (Entry.read limit) p = .ok q)
    (h : e.Fails limit q.symbols line problem) : Cause lines limit line (problem.on line) := by
  have he : e ∈ outline lines := by simp [houtline]
  cases h with
  | unreadable mem statement =>
    exact .unreadable (Statement.code_of_ofCode_error statement) statement rfl
  | unrecognized statement => exact .unrecognized rfl ⟨e, he, rfl⟩ statement
  | undefined mem uses top absent =>
    have hunassigned := not_assigns_of_get?_eq_none hdone absent
      (houtline ▸ hsorted.sublist (outline_sublist lines)) mem (body_eq_nil_of_mem_outline he)
    refine .undefined rfl uses (fun hloop => ⟨e, he, (top hloop).symm⟩) ?_ rfl
    rw [houtline]
    exact hunassigned
  | misplaced mem reads not_move code =>
    exact .misplaced code (inBlock_of_mem_body he mem) (isIndented_of_mem_body he mem) reads
      not_move
  | tooLong mem move limited => exact .tooLong rfl move (by simp [limited])

/-- The error of a program names a line of it, quotes that line, has the category of its code and a
cause on that line. -/
theorem compile_error_has_cause (program : String) (options : CompilerOptions)
    (err : CompileError) (hlines : (Line.ofText program).length < UInt32.size - 1)
    (h : compile program options = .error err) :
    1 ≤ err.line.toNat ∧ err.line.toNat ≤ (Line.ofText program).length ∧
    err.category = err.code.category ∧ err.code ∈ codes ∧
    ∃ line, lineAt? program err.line = some line ∧ line.number = err.line ∧
      line.raw = err.sourceLine ∧ Cause (Line.ofText program) options.maxActions line err := by
  obtain ⟨done, e, todo, q, houtline, hdone, hread⟩ :=
    foldlM_read_eq_error (planOf_eq_error_iff.1 h)
  obtain ⟨line, problem, hfails, rfl⟩ := Entry.read_eq_error hread
  have he : e ∈ outline (Line.ofText program) := by simp [houtline]
  have hmem : line ∈ Line.ofText program :=
    (outline_sublist _).subset (List.mem_flatMap.2 ⟨e, he, hfails.mem⟩)
  obtain ⟨i, hi⟩ := List.mem_iff_getElem?.1 hmem
  have hnumber := Line.toNat_number_of_getElem?_ofText (by omega) hi
  have hlt := (List.getElem?_eq_some_iff.1 hi).1
  have hon : (problem.on line).line.toNat = i + 1 := hnumber
  have hcause := cause_of_fails (Line.pairwise_number_ofText (by omega)) houtline hdone hfails
  refine ⟨by omega, by omega, rfl, hcause.code_mem, line, ?_, rfl, rfl, hcause⟩
  exact Line.getElem?_number_of_mem_ofText (by omega) hmem

/-- A program that uses a variable in a loop and assigns it after the loop. -/
def assignedLate : String := "for i in range(0):\n    # up\n    hero.move_up(n)\nn = 3"

/-- The use is at fault, even though the loop is repeated zero times. -/
theorem compile_error_assignedLate :
    (Line.ofText assignedLate).length < UInt32.size - 1 ∧
    compile assignedLate .unlimited
      = .error ((Problem.undefinedVariable "n").on ⟨3, "    hero.move_up(n)"⟩) ∧
    ∃ line, lineAt? assignedLate 3 = some line ∧ line.raw = "    hero.move_up(n)" ∧
      Cause (Line.ofText assignedLate) none line
        ((Problem.undefinedVariable "n").on ⟨3, "    hero.move_up(n)"⟩) := by
  have hlines : (Line.ofText assignedLate).length < UInt32.size - 1 := by decide +kernel
  have herror : compile assignedLate .unlimited
      = .error ((Problem.undefinedVariable "n").on ⟨3, "    hero.move_up(n)"⟩) := by
    decide +kernel
  obtain ⟨-, -, -, -, line, hat, -, hraw, hcause⟩ :=
    compile_error_has_cause assignedLate .unlimited _ hlines herror
  exact ⟨hlines, herror, line, hat, hraw, hcause⟩

end Compile

end GridWalk

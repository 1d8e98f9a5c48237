import GridWalk.Proofs.Compile.Outline

/-! Other lines in the place of the lines of a program.  As long as the compiler makes the same of
each line and of the one in its place, the plan is the same up to the numbers of the lines, and an
error is the same up to the number and the text of its line. -/

namespace GridWalk

variable {f : UInt32 → UInt32} {g : Line → Line} {line line' : Line}

namespace Line

/-- The compiler makes the same of two lines.  The variable of a loop does not count, and the code
of a line counts only where the line can be quoted in a message. -/
inductive Alike (line line' : Line) : Prop
  | code (code : line'.code = line.code)
  | loop {name name' : String} {count : Operand}
      (statement : line.statement = .ok (.loop name count))
      (statement' : line'.statement = .ok (.loop name' count))
  | error {problem : Problem} (statement : line.statement = .error problem)
      (statement' : line'.statement = .error problem)

/-- The lines that `g` gives are like the given ones, and they are numbered by `f`. -/
structure Relabels (f : UInt32 → UInt32) (g : Line → Line) : Prop where
  number : ∀ line, (g line).number = f line.number
  alike : ∀ line, Alike line (g line)
  continuesBlock : ∀ line, (g line).continuesBlock = line.continuesBlock

theorem codeOf_eq_of_code_eq (h : line'.code = line.code) :
    codeOf line'.raw.toList = codeOf line.raw.toList := String.ofList_injective h

theorem statement_eq_of_code_eq (h : line'.code = line.code) :
    line'.statement = line.statement := by
  rw [statement, statement, codeOf_eq_of_code_eq h]

theorem isBlank_eq_false_of_statement (h : line.statement ≠ .ok .unsupported) :
    line.isBlank = false := by
  refine Bool.eq_false_iff.2 fun hblank => h ?_
  rw [statement, List.isEmpty_iff.1 hblank]
  rfl

theorem Alike.isBlank (h : Alike line line') : line'.isBlank = line.isBlank := by
  cases h with
  | code hcode => rw [Line.isBlank, Line.isBlank, codeOf_eq_of_code_eq hcode]
  | loop hs hs' | error hs hs' =>
    rw [isBlank_eq_false_of_statement (by rw [hs']; exact nofun),
      isBlank_eq_false_of_statement (by rw [hs]; exact nofun)]

theorem Alike.isLoop (h : Alike line line') : line'.isLoop = line.isLoop := by
  cases h with
  | code hcode => rw [Line.isLoop, Line.isLoop, statement_eq_of_code_eq hcode]
  | loop hs hs' | error hs hs' => rw [Line.isLoop, Line.isLoop, hs, hs']

end Line

/-- The error when `g` gives the line that it names. -/
def CompileError.relabel (g : Line → Line) (e : CompileError) : CompileError :=
  { e with
    line := (g ⟨e.line, e.sourceLine⟩).number
    sourceLine := (g ⟨e.line, e.sourceLine⟩).raw }

def Action.renumber (f : UInt32 → UInt32) (a : Action) : Action := { a with line := f a.line }

namespace Compile

/-- The result when `g` gives the lines and `h` changes what is computed accordingly. -/
def relabelled {α β : Type} (g : Line → Line) (h : α → β) :
    Except CompileError α → Except CompileError β
  | .ok a => .ok (h a)
  | .error e => .error (e.relabel g)

def Move.relabel (g : Line → Line) (m : Move) : Move := { m with line := g m.line }

def Progress.renumber (f : UInt32 → UInt32) (p : Progress) : Progress :=
  { p with actions := p.actions.map (Action.renumber f) }

def Entry.relabel (g : Line → Line) (e : Entry) : Entry := ⟨g e.line, e.body.map g⟩

open Line (Relabels)

theorem bodyMove_relabel (h : Relabels f g) (symbols : Symbols) (line : Line) :
    bodyMove symbols (g line) = relabelled g (Move.relabel g) (bodyMove symbols line) := by
  unfold bodyMove
  cases h.alike line with
  | loop statement statement' =>
    rw [statement, statement']
    rfl
  | error statement statement' =>
    rw [statement, statement']
    rfl
  | code code =>
    rw [Line.statement_eq_of_code_eq code, code]
    cases line.statement with
    | error problem => rfl
    | ok statement =>
      cases statement with
      | move direction steps =>
        simp only
        cases resolveSteps symbols steps <;> rfl
      | _ => rfl

theorem bodyMoves_relabel (h : Relabels f g) (symbols : Symbols) (body : List Line) :
    bodyMoves symbols (body.map g)
      = relabelled g (List.map (Move.relabel g)) (bodyMoves symbols body) := by
  induction body with
  | nil => rfl
  | cons line body ih =>
    rw [List.map_cons, bodyMoves, bodyMoves, bodyMove_relabel h, ih]
    cases bodyMove symbols line with
    | error e => rfl
    | ok m => cases bodyMoves symbols body <;> rfl

theorem repeated_relabel (moves : List Move) (count : UInt32) :
    Entry.repeated (moves.map (Move.relabel g)) count
      = (Entry.repeated moves count).map (Move.relabel g) := by
  have hsteps : (moves.map (Move.relabel g)).all (·.steps == 0) = moves.all (·.steps == 0) :=
    List.all_map
  unfold Entry.repeated
  rw [hsteps]
  split
  · rfl
  · rw [List.map_flatten, List.map_replicate]

theorem loop_relabel (h : Relabels f g) (symbols : Symbols) (e : Entry) (count : Operand) :
    (match resolve symbols count with
      | .error problem => .error (problem.on (g e.line))
      | .ok count => (bodyMoves symbols (e.body.map g)).map fun moves =>
          (symbols, Entry.repeated moves count))
      = relabelled g (Prod.map id (List.map (Move.relabel g)))
        (match resolve symbols count with
          | .error problem => .error (problem.on e.line)
          | .ok count => (bodyMoves symbols e.body).map fun moves =>
            (symbols, Entry.repeated moves count)) := by
  cases resolve symbols count with
  | error problem => rfl
  | ok count =>
    simp only [bodyMoves_relabel h]
    cases bodyMoves symbols e.body with
    | error err => rfl
    | ok moves => simp [Except.map, relabelled, repeated_relabel]

theorem Entry.moves_relabel (h : Relabels f g) (symbols : Symbols) (e : Entry) :
    (e.relabel g).moves symbols
      = relabelled g (Prod.map id (List.map (Move.relabel g))) (e.moves symbols) := by
  unfold Entry.moves
  rw [Entry.relabel]
  cases h.alike e.line with
  | loop statement statement' =>
    rw [statement, statement']
    exact loop_relabel h symbols e _
  | error statement statement' =>
    rw [statement, statement']
    rfl
  | code code =>
    rw [Line.statement_eq_of_code_eq code, code]
    cases e.line.statement with
    | error problem => rfl
    | ok statement =>
      cases statement with
      | assignment name value =>
        simp only
        cases resolve symbols value <;> rfl
      | loop name count => exact loop_relabel h symbols e count
      | move direction steps =>
        simp only
        cases resolveSteps symbols steps <;> rfl
      | unsupported => rfl

theorem actions_relabel (h : Relabels f g) (m : Move) :
    (m.relabel g).actions = m.actions.map (Action.renumber f) := by
  simp [Move.actions, Move.relabel, Action.renumber, h.number]

theorem emit_relabel (h : Relabels f g) (limit : Option UInt64) (plan : Array Action) (m : Move) :
    emit limit (plan.map (Action.renumber f)) (m.relabel g)
      = relabelled g (Array.map (Action.renumber f)) (emit limit plan m) := by
  have hsteps : (m.relabel g).steps = m.steps := rfl
  rw [emit, emit, Array.size_map, hsteps]
  split
  · rfl
  · rw [relabelled, actions_relabel h, Array.map_append]

theorem emitAll_relabel (h : Relabels f g) (limit : Option UInt64) (moves : List Move)
    (plan : Array Action) :
    emitAll limit (moves.map (Move.relabel g)) (plan.map (Action.renumber f))
      = relabelled g (Array.map (Action.renumber f)) (emitAll limit moves plan) := by
  induction moves generalizing plan with
  | nil => rfl
  | cons m moves ih =>
    rw [List.map_cons, emitAll, emitAll, emit_relabel h]
    cases emit limit plan m with
    | error e => rfl
    | ok plan => exact ih plan

theorem Entry.read_relabel (h : Relabels f g) (limit : Option UInt64) (p : Progress) (e : Entry) :
    (e.relabel g).read limit (p.renumber f)
      = relabelled g (Progress.renumber f) (e.read limit p) := by
  unfold Entry.read
  rw [Progress.renumber, Entry.moves_relabel h]
  cases e.moves p.symbols with
  | error err => rfl
  | ok result =>
    simp only [relabelled, Prod.map_fst, Prod.map_snd, emitAll_relabel h]
    cases emitAll limit result.2 p.actions <;> rfl

theorem foldlM_relabel (h : Relabels f g) (limit : Option UInt64) (entries : List Entry)
    (p : Progress) :
    (entries.map (Entry.relabel g)).foldlM (Entry.read limit) (p.renumber f)
      = relabelled g (Progress.renumber f) (entries.foldlM (Entry.read limit) p) := by
  induction entries generalizing p with
  | nil => rfl
  | cons e entries ih =>
    rw [List.map_cons, List.foldlM_cons, List.foldlM_cons, Entry.read_relabel h]
    cases e.read limit p with
    | error err => rfl
    | ok p => exact ih p

theorem outline_relabel (h : Relabels f g) (lines : List Line) :
    outline (lines.map g) = (outline lines).map (Entry.relabel g) := by
  have hcontinues : Line.continuesBlock ∘ g = Line.continuesBlock := funext h.continuesBlock
  have hcode : (fun line : Line => !line.isBlank) ∘ g = fun line => !line.isBlank :=
    funext fun line => congrArg (!·) (h.alike line).isBlank
  induction lines using outline.induct with
  | case1 =>
    rw [List.map_nil, outline]
    rfl
  | case2 line rest hblank ih =>
    rw [List.map_cons, outline, outline, (h.alike line).isBlank, if_pos hblank, if_pos hblank]
    exact ih
  | case3 line rest hblank hloop ih =>
    rw [List.map_cons, outline, outline, (h.alike line).isBlank, (h.alike line).isLoop,
      if_neg hblank, if_neg hblank, if_pos hloop, if_pos hloop, List.takeWhile_map,
      List.dropWhile_map, hcontinues, List.filter_map, hcode, ih]
    rfl
  | case4 line rest hblank hloop ih =>
    rw [List.map_cons, outline, outline, (h.alike line).isBlank, (h.alike line).isLoop,
      if_neg hblank, if_neg hblank, if_neg hloop, if_neg hloop, ih]
    rfl

/-- With other lines that are alike, the result is the same up to what it says of its lines. -/
theorem planOf_relabel (h : Relabels f g) (lines : List Line) (options : CompilerOptions) :
    planOf (lines.map g) options
      = relabelled g (List.map (Action.renumber f)) (planOf lines options) := by
  have hinitial : Progress.initial = Progress.initial.renumber f := by
    simp [Progress.initial, Progress.renumber]
  rw [planOf_eq_foldlM, planOf_eq_foldlM, outline_relabel h, hinitial, foldlM_relabel h,
    ← hinitial]
  cases (outline lines).foldlM (Entry.read options.maxActions) .initial with
  | error err => rfl
  | ok p => simp [Except.map, relabelled, Progress.renumber]

end Compile

end GridWalk

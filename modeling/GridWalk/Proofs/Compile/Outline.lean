import GridWalk.Compile

/-! The outline of a program: its lines at the top level, each with the lines of the loop body that
it owns.  What an entry of the outline asks for depends on the variables alone, and compiling is a
fold over the outline that adds what each entry asks for to the plan. -/

namespace GridWalk

namespace Line

def isLoop (line : Line) : Bool :=
  match line.statement with
  | .ok (.loop ..) => true
  | _ => false

theorem isLoop_eq_true_iff {line : Line} :
    line.isLoop = true ↔ ∃ name count, line.statement = .ok (.loop name count) := by
  unfold isLoop
  split
  next name count h => exact ⟨fun _ => ⟨name, count, h⟩, fun _ => rfl⟩
  next hne =>
    constructor
    · intro h
      cases h
    · rintro ⟨name, count, h⟩
      exact absurd h (hne name count)

end Line

namespace Compile

/-- A line at the top level.  The body is empty unless the line is the first line of a loop. -/
structure Entry where
  line : Line
  body : List Line
  deriving DecidableEq, Repr

/-- The entries of a program.  Lines without code are passed over.  The first line of a loop owns
all lines after it up to the first that is neither indented nor blank throughout. -/
def outline : List Line → List Entry
  | [] => []
  | line :: rest =>
    if line.isBlank then outline rest
    else if line.isLoop then
      ⟨line, (rest.takeWhile Line.continuesBlock).filter (!·.isBlank)⟩
        :: outline (rest.dropWhile Line.continuesBlock)
    else ⟨line, []⟩ :: outline rest
termination_by lines => lines.length
decreasing_by
  all_goals
    have := (List.dropWhile_sublist (l := rest) Line.continuesBlock).length_le
    simp only [List.length_cons]
    omega

namespace Entry

def lines (e : Entry) : List Line := e.line :: e.body

/-- The moves of a loop.  A body without steps counts as no moves. -/
def repeated (moves : List Move) (count : UInt32) : List Move :=
  if moves.all (·.steps == 0) then [] else (List.replicate count.toNat moves).flatten

/-- The variables after an entry and the moves that it asks for. -/
def moves (symbols : Symbols) (e : Entry) : Except CompileError (Symbols × List Move) :=
  match e.line.statement with
  | .error problem => .error (problem.on e.line)
  | .ok (.assignment name value) =>
    match resolve symbols value with
    | .error problem => .error (problem.on e.line)
    | .ok value => .ok (symbols.define name value, [])
  | .ok (.move direction steps) =>
    match resolveSteps symbols steps with
    | .error problem => .error (problem.on e.line)
    | .ok steps => .ok (symbols, [⟨direction, steps, e.line⟩])
  | .ok (.loop _ count) =>
    match resolve symbols count with
    | .error problem => .error (problem.on e.line)
    | .ok count => (bodyMoves symbols e.body).map fun moves => (symbols, repeated moves count)
  | .ok .unsupported => .error ((Problem.unrecognized e.line.code).on e.line)

/-- Reads an entry: its moves are added to the plan. -/
def read (limit : Option UInt64) (p : Progress) (e : Entry) : Except CompileError Progress :=
  match e.moves p.symbols with
  | .error error => .error error
  | .ok (symbols, moves) => (emitAll limit moves p.actions).map (⟨symbols, ·⟩)

end Entry

theorem emitAll_append (limit : Option UInt64) (moves more : List Move) (plan : Array Action) :
    emitAll limit (moves ++ more) plan = (emitAll limit moves plan).bind (emitAll limit more) := by
  induction moves generalizing plan with
  | nil => rfl
  | cons m moves ih =>
    rw [List.cons_append, emitAll, emitAll]
    cases emit limit plan m with
    | error e => rfl
    | ok plan => exact ih plan

theorem emitTimes_eq_emitAll (limit : Option UInt64) (moves : List Move) (count : Nat)
    (plan : Array Action) :
    emitTimes limit moves count plan
      = emitAll limit (List.replicate count moves).flatten plan := by
  induction count generalizing plan with
  | zero => rfl
  | succ count ih =>
    rw [List.replicate_succ, List.flatten_cons, emitAll_append, emitTimes]
    cases emitAll limit moves plan with
    | error e => rfl
    | ok plan => exact ih plan

theorem emitLoop_eq_emitAll (limit : Option UInt64) (moves : List Move) (count : UInt32)
    (plan : Array Action) :
    emitLoop limit moves count plan = emitAll limit (Entry.repeated moves count) plan := by
  unfold emitLoop Entry.repeated
  split
  · rfl
  · exact emitTimes_eq_emitAll limit moves count.toNat plan

def Move.plan (m : Move) : Plan := List.replicate m.steps.toNat ⟨m.direction, m.line.number⟩

theorem Move.actions_eq_toArray (m : Move) : m.actions = m.plan.toArray := by
  simp [Move.actions, Move.plan]

theorem emitAll_none (moves : List Move) (plan : Array Action) :
    emitAll none moves plan = .ok (plan ++ (moves.flatMap Move.plan).toArray) := by
  induction moves generalizing plan with
  | nil => simp [emitAll]
  | cons m moves ih =>
    have first : emit none plan m = .ok (plan ++ m.plan.toArray) := by
      rw [← Move.actions_eq_toArray]
      rfl
    rw [emitAll, first]
    simp only [ih, List.flatMap_cons, Array.append_assoc, List.append_toArray]

/-- Passing over a body without steps loses none. -/
theorem Entry.plan_repeated (moves : List Move) (count : UInt32) :
    (Entry.repeated moves count).flatMap Move.plan
      = (List.replicate count.toNat (moves.flatMap Move.plan)).flatten := by
  unfold Entry.repeated
  split
  next h =>
    have none_left : moves.flatMap Move.plan = [] := by
      rw [List.flatMap_eq_nil_iff]
      intro m hm
      have zero : m.steps = 0 := by simpa using List.all_eq_true.1 h m hm
      simp [Move.plan, zero]
    rw [none_left]
    simp
  · induction count.toNat with
    | zero => rfl
    | succ n ih => simp [List.replicate_succ, ih]

theorem Entry.read_none {p : Progress} {e : Entry} {symbols : Symbols} {moves : List Move}
    (h : e.moves p.symbols = .ok (symbols, moves)) :
    e.read none p = .ok ⟨symbols, p.actions ++ (moves.flatMap Move.plan).toArray⟩ := by
  rw [Entry.read, h]
  simp only [emitAll_none, Except.map]

theorem Entry.read_eq_ok_iff {limit : Option UInt64} {p q : Progress} {e : Entry} :
    e.read limit p = .ok q ↔ ∃ moves, e.moves p.symbols = .ok (q.symbols, moves) ∧
      emitAll limit moves p.actions = .ok q.actions := by
  rw [Entry.read]
  constructor
  · intro h
    cases hm : e.moves p.symbols with
    | error err => simp [hm] at h
    | ok result =>
      cases hemit : emitAll limit result.2 p.actions with
      | error err => simp [hm, hemit, Except.map] at h
      | ok plan =>
        obtain rfl : ⟨result.1, plan⟩ = q := by simpa [hm, hemit, Except.map] using h
        exact ⟨result.2, rfl, hemit⟩
  · rintro ⟨moves, hm, hemit⟩
    simp only [hm, hemit, Except.map]

theorem foldlM_read_cons_eq_ok_iff {limit : Option UInt64} {p q : Progress} {e : Entry}
    {entries : List Entry} :
    (e :: entries).foldlM (Entry.read limit) p = .ok q ↔
      ∃ next, e.read limit p = .ok next ∧ entries.foldlM (Entry.read limit) next = .ok q := by
  rw [List.foldlM_cons]
  cases hr : e.read limit p with
  | error err => simp [bind, Except.bind]
  | ok next => simp [bind, Except.bind]

theorem foldlM_read_cons_eq_error_iff {limit : Option UInt64} {p : Progress} {e : Entry}
    {entries : List Entry} {err : CompileError} :
    (e :: entries).foldlM (Entry.read limit) p = .error err ↔ e.read limit p = .error err ∨
      ∃ next, e.read limit p = .ok next ∧ entries.foldlM (Entry.read limit) next = .error err := by
  rw [List.foldlM_cons]
  cases hr : e.read limit p with
  | error err' => simp [bind, Except.bind]
  | ok next => simp [bind, Except.bind]

theorem foldlM_read_append_eq_ok_iff {limit : Option UInt64} {p q : Progress}
    {first second : List Entry} :
    (first ++ second).foldlM (Entry.read limit) p = .ok q ↔
      ∃ next, first.foldlM (Entry.read limit) p = .ok next ∧
        second.foldlM (Entry.read limit) next = .ok q := by
  rw [List.foldlM_append]
  cases hr : first.foldlM (Entry.read limit) p with
  | error err => simp [bind, Except.bind]
  | ok next => simp [bind, Except.bind]

theorem foldlM_none_cons_eq_ok {entries : List Entry} {e : Entry} {p q : Progress}
    (h : (e :: entries).foldlM (Entry.read none) p = .ok q) :
    ∃ symbols moves, e.moves p.symbols = .ok (symbols, moves) ∧
      entries.foldlM (Entry.read none) ⟨symbols, p.actions ++ (moves.flatMap Move.plan).toArray⟩
        = .ok q := by
  obtain ⟨⟨symbols, plan⟩, hread, hrest⟩ := foldlM_read_cons_eq_ok_iff.1 h
  obtain ⟨moves, hm, hemit⟩ := Entry.read_eq_ok_iff.1 hread
  rw [emitAll_none] at hemit
  obtain rfl := Except.ok.inj hemit
  exact ⟨symbols, moves, hm, hrest⟩

theorem foldlM_none_cons_eq_error {entries : List Entry} {e : Entry} {p : Progress}
    {err : CompileError} (h : (e :: entries).foldlM (Entry.read none) p = .error err) :
    e.moves p.symbols = .error err ∨
    ∃ symbols moves, e.moves p.symbols = .ok (symbols, moves) ∧
      entries.foldlM (Entry.read none) ⟨symbols, p.actions ++ (moves.flatMap Move.plan).toArray⟩
        = .error err := by
  cases hm : e.moves p.symbols with
  | error err' =>
    rw [List.foldlM_cons, Entry.read, hm] at h
    exact .inl (congrArg _ (Except.error.inj h))
  | ok result =>
    obtain ⟨symbols, moves⟩ := result
    rw [List.foldlM_cons, Entry.read_none hm] at h
    exact .inr ⟨symbols, moves, rfl, h⟩

/-- A line that is not the first line of a loop is read as an entry of its own. -/
theorem advance_of_not_isLoop {limit : Option UInt64} {p : Progress} {line : Line}
    {rest : Cursor} (h : line.isLoop = false) :
    advance limit p line rest = (Entry.read limit p ⟨line, []⟩).map (·, rest) := by
  have hloop : ∀ name count, line.statement ≠ .ok (.loop name count) := by
    intro name count hs
    rw [Line.isLoop_eq_true_iff.2 ⟨name, count, hs⟩] at h
    cases h
  unfold advance Entry.read Entry.moves
  cases hs : line.statement with
  | error problem => rfl
  | ok statement =>
    cases statement with
    | assignment name value =>
      simp only [assign]
      cases resolve p.symbols value with
      | error problem => rfl
      | ok value => rfl
    | loop name count => exact absurd hs (hloop name count)
    | move direction steps =>
      simp only [walk]
      cases resolveSteps p.symbols steps with
      | error problem => rfl
      | ok steps =>
        simp only [emitAll]
        cases emit limit p.actions ⟨direction, steps, line⟩ with
        | error e => rfl
        | ok plan => rfl
    | unsupported => rfl

/-- The first line of a loop is read together with the block after it. -/
theorem advance_of_isLoop {limit : Option UInt64} {p : Progress} {line : Line} {rest : Cursor}
    (h : line.isLoop = true) :
    advance limit p line rest
      = (Entry.read limit p ⟨line, rest.block⟩).map (·, rest.afterBlock) := by
  obtain ⟨name, count, hs⟩ := Line.isLoop_eq_true_iff.1 h
  unfold advance Entry.read Entry.moves
  simp only [hs, unroll]
  cases resolve p.symbols count with
  | error problem => rfl
  | ok count =>
    simp only
    cases bodyMoves p.symbols rest.block with
    | error e => rfl
    | ok moves => simp only [Except.map, emitLoop_eq_emitAll]

/-- Reading on from a line with code, when the entry it belongs to and the lines after that entry
are known. -/
theorem finish_cons_of_advance {limit : Option UInt64} {p : Progress} {line : Line}
    {rest after : Cursor} {e : Entry} (hcode : line.isBlank = false)
    (ha : advance limit p line rest = (e.read limit p).map (·, after)) :
    finish limit p (line :: rest) = (e.read limit p).bind (finish limit · after) := by
  have hn : Cursor.next? (line :: rest) = some (line, rest) := Cursor.next?_cons_of_code hcode
  cases hr : e.read limit p with
  | error err => exact finish_of_advance_error hn (by rw [ha, hr]; rfl)
  | ok p' => exact finish_of_advance_ok hn (by rw [ha, hr]; rfl)

theorem finish_cons_of_blank {limit : Option UInt64} {p : Progress} {line : Line} {rest : Cursor}
    (hblank : line.isBlank = true) : finish limit p (line :: rest) = finish limit p rest := by
  have hn : Cursor.next? (line :: rest) = Cursor.next? rest := Cursor.next?_cons_of_blank hblank
  cases hr : Cursor.next? rest with
  | none => rw [finish_of_next?_eq_none hr, finish_of_next?_eq_none (hn.trans hr)]
  | some read =>
    obtain ⟨next, after⟩ := read
    cases ha : advance limit p next after with
    | error e => rw [finish_of_advance_error hr ha, finish_of_advance_error (hn.trans hr) ha]
    | ok progress => rw [finish_of_advance_ok hr ha, finish_of_advance_ok (hn.trans hr) ha]

/-- Compiling goes through the outline entry by entry. -/
theorem finish_eq_foldlM (limit : Option UInt64) (p : Progress) (cursor : Cursor) :
    finish limit p cursor = (outline cursor).foldlM (Entry.read limit) p := by
  induction cursor using outline.induct generalizing p with
  | case1 =>
    rw [finish_of_next?_eq_none Cursor.next?_nil, outline]
    rfl
  | case2 line rest hblank ih =>
    rw [outline, if_pos hblank, finish_cons_of_blank hblank]
    exact ih p
  | case3 line rest hblank hloop ih =>
    rw [outline, if_neg hblank, if_pos hloop, List.foldlM_cons]
    rw [finish_cons_of_advance (by simpa using hblank) (advance_of_isLoop hloop)]
    exact congrArg _ (funext ih)
  | case4 line rest hblank hloop ih =>
    rw [outline, if_neg hblank, if_neg hloop, List.foldlM_cons]
    rw [finish_cons_of_advance (by simpa using hblank)
      (advance_of_not_isLoop (by simpa using hloop))]
    exact congrArg _ (funext ih)

theorem planOf_eq_foldlM (lines : List Line) (options : CompilerOptions) :
    planOf lines options
      = ((outline lines).foldlM (Entry.read options.maxActions) .initial).map
        (·.actions.toList) := by
  rw [planOf, finish_eq_foldlM]

theorem planOf_eq_ok_iff {lines : List Line} {limit : Option UInt64} {plan : Plan} :
    planOf lines ⟨limit⟩ = .ok plan ↔
      ∃ q, (outline lines).foldlM (Entry.read limit) .initial = .ok q ∧
        q.actions.toList = plan := by
  rw [planOf_eq_foldlM]
  cases (outline lines).foldlM (Entry.read limit) .initial with
  | error e => simp [Except.map]
  | ok q => simp [Except.map]

theorem planOf_eq_error_iff {lines : List Line} {limit : Option UInt64} {err : CompileError} :
    planOf lines ⟨limit⟩ = .error err ↔
      (outline lines).foldlM (Entry.read limit) .initial = .error err := by
  rw [planOf_eq_foldlM]
  cases (outline lines).foldlM (Entry.read limit) .initial with
  | error e => simp [Except.map]
  | ok q => simp [Except.map]

/-! ### What bodies and entries ask for -/

theorem bodyMove_eq_ok_iff {symbols : Symbols} {line : Line} {m : Move} :
    bodyMove symbols line = .ok m ↔ ∃ direction steps count,
      line.statement = .ok (.move direction steps) ∧ resolveSteps symbols steps = .ok count ∧
      m = ⟨direction, count, line⟩ := by
  constructor
  · intro h
    unfold bodyMove at h
    split at h
    · cases h
    next direction steps hs =>
      split at h
      next count hc => exact ⟨direction, steps, count, hs, hc, (Except.ok.inj h).symm⟩
      · cases h
    · cases h
    · cases h
    · cases h
  · rintro ⟨direction, steps, count, hs, hc, rfl⟩
    simp only [bodyMove, hs, hc]

theorem bodyMoves_cons_eq_ok_iff {symbols : Symbols} {line : Line} {body : List Line}
    {moves : List Move} :
    bodyMoves symbols (line :: body) = .ok moves ↔ ∃ m rest, bodyMove symbols line = .ok m ∧
      bodyMoves symbols body = .ok rest ∧ moves = m :: rest := by
  rw [bodyMoves]
  cases bodyMove symbols line with
  | error e => simp
  | ok m =>
    cases bodyMoves symbols body with
    | error e => simp
    | ok rest => simp [eq_comm]

namespace Entry

/-- An entry that is right is one of three statements. -/
theorem moves_cases {symbols symbols' : Symbols} {e : Entry} {moves : List Move}
    (h : e.moves symbols = .ok (symbols', moves)) :
    (∃ name operand value, e.line.statement = .ok (.assignment name operand) ∧
      resolve symbols operand = .ok value ∧ symbols' = symbols.define name value ∧ moves = []) ∨
    (∃ direction steps count, e.line.statement = .ok (.move direction steps) ∧
      resolveSteps symbols steps = .ok count ∧ symbols' = symbols ∧
      moves = [⟨direction, count, e.line⟩]) ∨
    (∃ name operand count body, e.line.statement = .ok (.loop name operand) ∧
      resolve symbols operand = .ok count ∧ bodyMoves symbols e.body = .ok body ∧
      symbols' = symbols ∧ moves = repeated body count) := by
  unfold Entry.moves at h
  split at h
  · cases h
  next name operand hs =>
    split at h
    · cases h
    next value hv =>
      obtain ⟨rfl, rfl⟩ := Prod.mk.inj (Except.ok.inj h)
      exact .inl ⟨name, operand, value, hs, hv, rfl, rfl⟩
  next direction steps hs =>
    split at h
    · cases h
    next count hc =>
      obtain ⟨rfl, rfl⟩ := Prod.mk.inj (Except.ok.inj h)
      exact .inr (.inl ⟨direction, steps, count, hs, hc, rfl, rfl⟩)
  next name operand hs =>
    split at h
    · cases h
    next count hc =>
      cases hb : bodyMoves symbols e.body with
      | error err => simp [hb, Except.map] at h
      | ok body =>
        obtain ⟨rfl, rfl⟩ : symbols = symbols' ∧ repeated body count = moves := by
          simpa [hb, Except.map] using h
        exact .inr (.inr ⟨name, operand, count, body, hs, hc, rfl, rfl, rfl⟩)
  · cases h

theorem moves_of_loop {symbols symbols' : Symbols} {e : Entry} {moves : List Move} {name : String}
    {operand : Operand} (h : e.moves symbols = .ok (symbols', moves))
    (hs : e.line.statement = .ok (.loop name operand)) :
    ∃ count body, resolve symbols operand = .ok count ∧ bodyMoves symbols e.body = .ok body ∧
      symbols' = symbols ∧ moves = repeated body count := by
  rcases moves_cases h with ⟨_, _, _, ha, -⟩ | ⟨_, _, _, hm, -⟩ |
    ⟨_, operand', count, body, hl, hcount, hbody, hsymbols, hmoves⟩
  · cases hs.symm.trans ha
  · cases hs.symm.trans hm
  · obtain ⟨-, rfl⟩ := Statement.loop.inj (Except.ok.inj (hs.symm.trans hl))
    exact ⟨count, body, hcount, hbody, hsymbols, hmoves⟩

end Entry

/-! ### The lines behind moves -/

theorem mem_of_mem_copies {α : Type} {a : α} {part : List α} {count : Nat}
    (h : a ∈ (List.replicate count part).flatten) : a ∈ part := by
  obtain ⟨copy, hcopy, ha⟩ := List.mem_flatten.1 h
  exact List.eq_of_mem_replicate hcopy ▸ ha

theorem not_isLoop_of_bodyMoves_ok {symbols : Symbols} {body : List Line} {moves : List Move}
    (h : bodyMoves symbols body = .ok moves) : ∀ line ∈ body, line.isLoop = false := by
  induction body generalizing moves with
  | nil => exact nofun
  | cons line body ih =>
    obtain ⟨m, rest, hm, hrest, -⟩ := bodyMoves_cons_eq_ok_iff.1 h
    obtain ⟨direction, steps, -, hs, -⟩ := bodyMove_eq_ok_iff.1 hm
    refine List.forall_mem_cons.2 ⟨?_, ih hrest⟩
    rw [Line.isLoop, hs]

theorem line_of_bodyMoves_ok {symbols : Symbols} {body : List Line} {moves : List Move}
    (h : bodyMoves symbols body = .ok moves) : ∀ m ∈ moves, m.line ∈ body ∧
      ∃ steps, m.line.statement = .ok (.move m.direction steps) := by
  induction body generalizing moves with
  | nil =>
    obtain rfl : [] = moves := Except.ok.inj h
    intro m hm
    cases hm
  | cons line body ih =>
    obtain ⟨first, rest, hfirst, hrest, rfl⟩ := bodyMoves_cons_eq_ok_iff.1 h
    obtain ⟨direction, steps, count, hs, -, rfl⟩ := bodyMove_eq_ok_iff.1 hfirst
    intro m hm
    rcases List.mem_cons.1 hm with rfl | hm
    · exact ⟨List.mem_cons_self, steps, hs⟩
    · obtain ⟨hmem, hmove⟩ := ih hrest m hm
      exact ⟨List.mem_cons_of_mem _ hmem, hmove⟩

namespace Entry

theorem mem_of_mem_repeated {moves : List Move} {count : UInt32} {m : Move}
    (h : m ∈ repeated moves count) : m ∈ moves := by
  unfold repeated at h
  split at h
  · cases h
  · exact mem_of_mem_copies h

/-- The moves of an entry stand on lines of it that are read as these moves. -/
theorem line_of_moves_ok {symbols symbols' : Symbols} {e : Entry} {moves : List Move}
    (h : e.moves symbols = .ok (symbols', moves)) : ∀ m ∈ moves, m.line ∈ e.lines ∧
      ∃ steps, m.line.statement = .ok (.move m.direction steps) := by
  intro m hm
  rcases moves_cases h with ⟨_, _, _, _, _, _, rfl⟩ | ⟨_, steps, _, hs, _, _, rfl⟩ |
    ⟨_, _, _, body, _, _, hb, _, rfl⟩
  · cases hm
  · obtain rfl := List.mem_singleton.1 hm
    exact ⟨List.mem_cons_self, steps, hs⟩
  · obtain ⟨hmem, hmove⟩ := line_of_bodyMoves_ok hb m (mem_of_mem_repeated hm)
    exact ⟨List.mem_cons_of_mem _ hmem, hmove⟩

end Entry

/-- The steps that reading adds are asked for by lines of the entries. -/
theorem line_of_foldlM_ok {entries : List Entry} {p q : Progress}
    (h : entries.foldlM (Entry.read none) p = .ok q) : ∀ a ∈ q.actions.toList,
      a ∈ p.actions.toList ∨ ∃ line ∈ entries.flatMap Entry.lines, a.line = line.number ∧
        ∃ steps, line.statement = .ok (.move a.direction steps) := by
  induction entries generalizing p with
  | nil =>
    obtain rfl : p = q := Except.ok.inj h
    exact fun a ha => .inl ha
  | cons e entries ih =>
    obtain ⟨symbols, moves, hm, hrest⟩ := foldlM_none_cons_eq_ok h
    intro a ha
    rcases ih hrest a ha with hbefore | ⟨line, hline, hasks⟩
    · rw [Array.toList_append, List.mem_append] at hbefore
      refine hbefore.imp_right fun hmoves => ?_
      obtain ⟨m, hmem, hsteps⟩ := List.mem_flatMap.1 hmoves
      obtain rfl := List.eq_of_mem_replicate hsteps
      obtain ⟨hline, hmove⟩ := Entry.line_of_moves_ok hm m hmem
      exact ⟨m.line, List.mem_append_left _ hline, rfl, hmove⟩
    · exact .inr ⟨line, List.mem_append_right _ hline, hasks⟩

theorem body_eq_nil_of_mem_outline {lines : List Line} {e : Entry} (he : e ∈ outline lines)
    (h : e.line.isLoop = false) : e.body = [] := by
  induction lines using outline.induct with
  | case1 => simp [outline] at he
  | case2 line rest hblank ih =>
    rw [outline, if_pos hblank] at he
    exact ih he
  | case3 line rest hblank hloop ih =>
    rw [outline, if_neg hblank, if_pos hloop] at he
    rcases List.mem_cons.1 he with rfl | he
    · rw [hloop] at h
      cases h
    · exact ih he
  | case4 line rest hblank hloop ih =>
    rw [outline, if_neg hblank, if_neg hloop] at he
    rcases List.mem_cons.1 he with rfl | he
    · rfl
    · exact ih he

/-- The lines of the entries are lines of the program, in the same order. -/
theorem outline_sublist (lines : List Line) :
    ((outline lines).flatMap Entry.lines).Sublist lines := by
  induction lines using outline.induct with
  | case1 => simp [outline]
  | case2 line rest hblank ih =>
    rw [outline, if_pos hblank]
    exact ih.cons line
  | case3 line rest hblank hloop ih =>
    rw [outline, if_neg hblank, if_pos hloop, List.flatMap_cons, Entry.lines, List.cons_append]
    refine List.Sublist.cons_cons line ?_
    have whole := (List.filter_sublist (p := (!·.isBlank))
      (l := rest.takeWhile Line.continuesBlock)).append ih
    rwa [List.takeWhile_append_dropWhile] at whole
  | case4 line rest hblank hloop ih =>
    rw [outline, if_neg hblank, if_neg hloop, List.flatMap_cons]
    exact ih.cons_cons line

end Compile

end GridWalk

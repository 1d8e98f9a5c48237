import GridWalk.Action
import GridWalk.Cursor
import GridWalk.Symbols

/-! Compiling a program to a plan.  Variables are resolved and loops are unrolled while the lines
are read, and the first problem ends the work, so a plan is only ever the whole plan of a program
without a problem. -/

namespace GridWalk

/-- A bound on the number of steps in a plan.  Without one, plans are unlimited. -/
structure CompilerOptions where
  maxActions : Option UInt64
  deriving DecidableEq, Repr

namespace CompilerOptions

def unlimited : CompilerOptions := ⟨none⟩

instance : Inhabited CompilerOptions := ⟨unlimited⟩

end CompilerOptions

namespace Compile

/-- A move statement whose step count is known. -/
structure Move where
  direction : Direction
  steps : UInt32
  line : Line
  deriving DecidableEq, Repr

def Move.actions (m : Move) : Array Action :=
  Array.replicate m.steps.toNat ⟨m.direction, m.line.number⟩

/-- What the lines read so far have defined and produced. -/
structure Progress where
  symbols : Symbols
  actions : Array Action

def Progress.initial : Progress := ⟨.empty, #[]⟩

def resolve (symbols : Symbols) : Operand → Except Problem UInt32
  | .literal value => .ok value
  | .reference name =>
    match symbols.get? name with
    | some value => .ok value
    | none => .error (.undefinedVariable name)

/-- The step count of a move.  A move without an operand is one step. -/
def resolveSteps (symbols : Symbols) : Option Operand → Except Problem UInt32
  | none => .ok 1
  | some operand => resolve symbols operand

/-- The limit, if a plan of the given length exceeds it.  Lengths are 64-bit numbers that stay at
the greatest one instead of growing past it, so no plan exceeds the greatest limit. -/
def exceeded? (limit : Option UInt64) (length : Nat) : Option UInt64 :=
  limit.filter fun max => max.toNat < min length (UInt64.size - 1)

def emit (limit : Option UInt64) (plan : Array Action) (m : Move) :
    Except CompileError (Array Action) :=
  match exceeded? limit (plan.size + m.steps.toNat) with
  | some max => .error ((Problem.tooManyMoves max).on m.line)
  | none => .ok (plan ++ m.actions)

def emitAll (limit : Option UInt64) : List Move → Array Action → Except CompileError (Array Action)
  | [], plan => .ok plan
  | m :: moves, plan =>
    match emit limit plan m with
    | .ok plan => emitAll limit moves plan
    | .error e => .error e

def emitTimes (limit : Option UInt64) (moves : List Move) :
    Nat → Array Action → Except CompileError (Array Action)
  | 0, plan => .ok plan
  | count + 1, plan =>
    match emitAll limit moves plan with
    | .ok plan => emitTimes limit moves count plan
    | .error e => .error e

/-- Adds the steps of a loop.  A body without steps adds none, however often it is repeated. -/
def emitLoop (limit : Option UInt64) (body : List Move) (count : UInt32) (plan : Array Action) :
    Except CompileError (Array Action) :=
  if body.all (·.steps == 0) then .ok plan else emitTimes limit body count.toNat plan

def bodyMove (symbols : Symbols) (line : Line) : Except CompileError Move :=
  match line.statement with
  | .error problem => .error (problem.on line)
  | .ok (.move direction steps) =>
    match resolveSteps symbols steps with
    | .ok steps => .ok ⟨direction, steps, line⟩
    | .error problem => .error (problem.on line)
  | .ok (.loop ..) => .error (Problem.nestedLoop.on line)
  | .ok (.assignment ..) | .ok .unsupported => .error ((Problem.notAMove line.code).on line)

def bodyMoves (symbols : Symbols) : List Line → Except CompileError (List Move)
  | [] => .ok []
  | line :: lines =>
    match bodyMove symbols line with
    | .error e => .error e
    | .ok m =>
      match bodyMoves symbols lines with
      | .error e => .error e
      | .ok moves => .ok (m :: moves)

def assign (p : Progress) (line : Line) (name : String) (value : Operand) :
    Except CompileError Progress :=
  match resolve p.symbols value with
  | .error problem => .error (problem.on line)
  | .ok value => .ok { p with symbols := p.symbols.define name value }

def walk (limit : Option UInt64) (p : Progress) (line : Line) (direction : Direction)
    (steps : Option Operand) : Except CompileError Progress :=
  let ⟨symbols, plan⟩ := p
  match resolveSteps symbols steps with
  | .error problem => .error (problem.on line)
  | .ok steps => (emit limit plan ⟨direction, steps, line⟩).map (⟨symbols, ·⟩)

/-- Reads the loop whose first line is `line` and whose body is `body`.  The count is resolved
before the body, and the body before any of its steps are added. -/
def unroll (limit : Option UInt64) (p : Progress) (line : Line) (count : Operand)
    (body : List Line) : Except CompileError Progress :=
  let ⟨symbols, plan⟩ := p
  match resolve symbols count with
  | .error problem => .error (problem.on line)
  | .ok count =>
    match bodyMoves symbols body with
    | .error e => .error e
    | .ok moves => (emitLoop limit moves count plan).map (⟨symbols, ·⟩)

/-- Reads one statement and, if it is a loop, the block after it.  The result is the progress made
and the cursor after the statement. -/
def advance (limit : Option UInt64) (p : Progress) (line : Line) (rest : Cursor) :
    Except CompileError (Progress × Cursor) :=
  match line.statement with
  | .error problem => .error (problem.on line)
  | .ok (.assignment name value) => (assign p line name value).map (·, rest)
  | .ok (.move direction steps) => (walk limit p line direction steps).map (·, rest)
  | .ok (.loop _ count) => (unroll limit p line count rest.block).map (·, rest.afterBlock)
  | .ok .unsupported => .error ((Problem.unrecognized line.code).on line)

theorem length_le_of_advance {limit : Option UInt64} {p p' : Progress} {line : Line}
    {rest rest' : Cursor} (h : advance limit p line rest = .ok (p', rest')) :
    rest'.length ≤ rest.length := by
  have tail {x : Except CompileError Progress} {c : Cursor}
      (hx : x.map (·, c) = .ok (p', rest')) : c = rest' := by
    cases x with
    | error e => cases hx
    | ok v => exact congrArg Prod.snd (Except.ok.inj hx)
  unfold advance at h
  split at h
  · cases h
  · exact Nat.le_of_eq (congrArg List.length (tail h).symm)
  · exact Nat.le_of_eq (congrArg List.length (tail h).symm)
  · exact tail h ▸ rest.length_afterBlock_le
  · cases h

def finish (limit : Option UInt64) (p : Progress) (cursor : Cursor) :
    Except CompileError Progress :=
  match hn : cursor.next? with
  | none => .ok p
  | some (line, rest) =>
    match ha : advance limit p line rest with
    | .error e => .error e
    | .ok (p', rest') =>
      have := Nat.lt_of_le_of_lt (length_le_of_advance ha) (Cursor.length_lt_of_next? hn)
      finish limit p' rest'
termination_by cursor.length

theorem finish_of_next?_eq_none {limit : Option UInt64} {p : Progress} {cursor : Cursor}
    (h : cursor.next? = none) : finish limit p cursor = .ok p := by
  rw [finish]
  split <;> simp_all

theorem finish_of_advance_error {limit : Option UInt64} {p : Progress} {cursor rest : Cursor}
    {line : Line} {e : CompileError} (hn : cursor.next? = some (line, rest))
    (ha : advance limit p line rest = .error e) : finish limit p cursor = .error e := by
  rw [finish]
  split
  next h => simp [hn] at h
  next h =>
    obtain ⟨rfl, rfl⟩ := Prod.mk.inj (Option.some.inj (hn.symm.trans h))
    split
    next h' =>
      cases h'.symm.trans ha
      rfl
    next h' => cases h'.symm.trans ha

theorem finish_of_advance_ok {limit : Option UInt64} {p p' : Progress}
    {cursor rest rest' : Cursor} {line : Line} (hn : cursor.next? = some (line, rest))
    (ha : advance limit p line rest = .ok (p', rest')) :
    finish limit p cursor = finish limit p' rest' := by
  rw [finish]
  split
  next h => simp [hn] at h
  next h =>
    obtain ⟨rfl, rfl⟩ := Prod.mk.inj (Option.some.inj (hn.symm.trans h))
    split
    next h' => cases h'.symm.trans ha
    next h' =>
      obtain ⟨rfl, rfl⟩ := Prod.mk.inj (Except.ok.inj (h'.symm.trans ha))
      rfl

def planOf (lines : List Line) (options : CompilerOptions) : Except CompileError Plan :=
  (finish options.maxActions .initial lines).map (·.actions.toList)

end Compile

def compile (program : String) (options : CompilerOptions) : Except CompileError Plan :=
  Compile.planOf (Line.ofText program) options

end GridWalk

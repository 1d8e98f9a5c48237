import GridWalk.Proofs.Compile.Relabel

/-! Line numbers are labels.  A program whose lines have other numbers compiles to the same plan, or
fails with the same error, up to these numbers. -/

namespace GridWalk

variable {f : UInt32 → UInt32}

def Line.renumber (f : UInt32 → UInt32) (line : Line) : Line :=
  { line with number := f line.number }

def CompileError.renumber (f : UInt32 → UInt32) (e : CompileError) : CompileError :=
  { e with line := f e.line }

theorem Line.relabels_renumber (f : UInt32 → UInt32) : Line.Relabels f (Line.renumber f) where
  number _ := rfl
  alike _ := .code rfl
  continuesBlock _ := rfl

namespace Compile

/-- The result when the lines are renumbered, where `g` renumbers what is computed. -/
def renumbered {α β : Type} (f : UInt32 → UInt32) (g : α → β) :
    Except CompileError α → Except CompileError β
  | .ok a => .ok (g a)
  | .error e => .error (e.renumber f)

@[simp] theorem renumbered_ok {α β : Type} (g : α → β) (a : α) :
    renumbered f g (.ok a) = .ok (g a) := rfl

@[simp] theorem renumbered_error {α β : Type} (g : α → β) (e : CompileError) :
    renumbered f g (.error e) = .error (e.renumber f) := rfl

theorem relabelled_renumber {α β : Type} (g : α → β) (x : Except CompileError α) :
    relabelled (Line.renumber f) g x = renumbered f g x := by
  cases x <;> rfl

def Entry.renumber (f : UInt32 → UInt32) (e : Entry) : Entry :=
  ⟨e.line.renumber f, e.body.map (Line.renumber f)⟩

theorem foldlM_renumber (limit : Option UInt64) (entries : List Entry) (p : Progress) :
    (entries.map (Entry.renumber f)).foldlM (Entry.read limit) (p.renumber f)
      = renumbered f (Progress.renumber f) (entries.foldlM (Entry.read limit) p) := by
  rw [← relabelled_renumber]
  exact foldlM_relabel (Line.relabels_renumber f) limit entries p

theorem outline_renumber (lines : List Line) :
    outline (lines.map (Line.renumber f)) = (outline lines).map (Entry.renumber f) :=
  outline_relabel (Line.relabels_renumber f) lines

/-- Renumbering the lines renumbers the plan or the error and changes nothing else. -/
theorem planOf_renumber (lines : List Line) (options : CompilerOptions) :
    planOf (lines.map (Line.renumber f)) options
      = renumbered f (List.map (Action.renumber f)) (planOf lines options) := by
  rw [← relabelled_renumber]
  exact planOf_relabel (Line.relabels_renumber f) lines options

end Compile

end GridWalk

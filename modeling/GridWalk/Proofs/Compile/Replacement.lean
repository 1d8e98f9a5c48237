import GridWalk.Proofs.Compile.Relabel
import GridWalk.Proofs.Edits

/-! One line in the place of another.  When the compiler makes the same of both, the program
compiles to the same plan or fails with the same error, and only the text that the error quotes can
be another. -/

namespace GridWalk

/-- The results are the same, except that an error on the line with the given number may quote
another text. -/
inductive Requoted (number : UInt32) : Except CompileError Plan → Except CompileError Plan → Prop
  | ok (plan : Plan) : Requoted number (.ok plan) (.ok plan)
  | error {e : CompileError} {quote : String} (elsewhere : e.line ≠ number → quote = e.sourceLine) :
      Requoted number (.error e) (.error { e with sourceLine := quote })

theorem Requoted.refl (number : UInt32) (x : Except CompileError Plan) : Requoted number x x := by
  cases x with
  | ok plan => exact .ok plan
  | error e => exact .error fun _ => rfl

namespace Line

variable {text : String} {line line' : Line} {i : Nat}

/-- Gives `line'` for `line` and every other line for itself. -/
def substitute (line line' other : Line) : Line := if other = line then line' else other

theorem relabels_substitute (hnumber : line'.number = line.number) (halike : Alike line line')
    (hcontinues : line'.continuesBlock = line.continuesBlock) :
    Relabels id (substitute line line') where
  number other := by
    rw [substitute]
    split
    next h => rw [h, hnumber, id]
    next => rfl
  alike other := by
    rw [substitute]
    split
    next h => exact h ▸ halike
    next => exact .code rfl
  continuesBlock other := by
    rw [substitute]
    split
    next h => rw [h, hcontinues]
    next => rfl

/-- A line that stands in a list only once is replaced there. -/
theorem map_substitute_of_once {lines : List Line} (hline : lines[i]? = some line)
    (honce : ∀ j, lines[j]? = some line → j = i) :
    lines.map (substitute line line') = lines.set i line' := by
  refine List.ext_getElem? fun j => ?_
  rw [List.getElem?_map, List.getElem?_set]
  split
  next hij =>
    obtain rfl := hij
    obtain ⟨hi, -⟩ := List.getElem?_eq_some_iff.1 hline
    rw [hline, Option.map_some, substitute, if_pos rfl, if_pos hi]
  next hij =>
    cases hother : lines[j]? with
    | none => rfl
    | some other =>
      have hne : other ≠ line := by
        rintro rfl
        exact hij (honce j hother).symm
      rw [Option.map_some, substitute, if_neg hne]

/-- A line of a text stands in it once. -/
theorem map_substitute_ofText (hlines : (ofText text).length < UInt32.size)
    (hline : (ofText text)[i]? = some line) :
    (ofText text).map (substitute line line') = (ofText text).set i line' := by
  refine map_substitute_of_once hline fun j hj => ?_
  have hnumber := toNat_number_of_getElem?_ofText hlines hj
  have hnumber' := toNat_number_of_getElem?_ofText hlines hline
  omega

end Line

namespace Compile

open Line (substitute)

variable {line line' : Line}

theorem requoted_relabelled (hnumber : line'.number = line.number)
    (x : Except CompileError Plan) :
    Requoted line.number x
      (relabelled (substitute line line') (List.map (Action.renumber id)) x) := by
  cases x with
  | ok plan =>
    have hplan : plan.map (Action.renumber id) = plan := List.map_id plan
    rw [relabelled, hplan]
    exact .ok plan
  | error e =>
    have hsame : (substitute line line' ⟨e.line, e.sourceLine⟩).number = e.line := by
      rw [substitute]
      split
      next h => rw [hnumber, ← h]
      next => rfl
    rw [relabelled, CompileError.relabel, hsame]
    refine .error fun hother => ?_
    have hne : (⟨e.line, e.sourceLine⟩ : Line) ≠ line := by
      rintro rfl
      exact hother rfl
    rw [substitute, if_neg hne]

end Compile

/-- A line can be replaced by any line that the compiler makes the same of. -/
theorem compile_setPart_of_alike {program : String} {options : CompilerOptions} {i : Nat}
    {line : Line} {part : List Char} (hlines : (Line.ofText program).length < UInt32.size)
    (hline : (Line.ofText program)[i]? = some line) (hpart : '\n' ∉ part)
    (halike : Line.Alike line (Line.ofPart i part))
    (hcontinues : (Line.ofPart i part).continuesBlock = line.continuesBlock) :
    Requoted line.number (compile program options)
      (compile (Line.setPart program i part) options) := by
  have hnumber : (Line.ofPart i part).number = line.number :=
    (Line.number_of_getElem?_ofText hline).symm
  rw [compile, compile, Line.ofText_setPart hpart, ← Line.map_substitute_ofText hlines hline,
    Compile.planOf_relabel (Line.relabels_substitute hnumber halike hcontinues)]
  exact Compile.requoted_relabelled hnumber _

end GridWalk

import GridWalk.Proofs.Compile.Blocks
import GridWalk.Proofs.Compile.Renumber
import GridWalk.Proofs.Edits
import GridWalk.Proofs.Indentation

/-! Lines that fill.  A line of blanks, or an indented line with a comment and no code, neither is a
statement nor ends a block.  It can stand anywhere: with one such line more, a program compiles to
the same plan or fails with the same error, and only the numbers of the lines after it change. -/

namespace GridWalk

namespace Line

/-- The line has no code and ends no block. -/
def isFiller (line : Line) : Bool := line.isBlank && line.continuesBlock

/-- What a line that fills holds. -/
inductive Filler (part : List Char) : Prop
  | blanks (blanks : Text.Blanks part)
  | comment {before comment : List Char} (split : part = before ++ '#' :: comment)
      (blanks : Text.Blanks before) (indented : Indented part)

theorem isFiller_of_code {line : Line} (h : line.isBlank = false) : line.isFiller = false := by
  rw [isFiller, h, Bool.false_and]

theorem isFiller_of_not_continuesBlock {line : Line} (h : line.continuesBlock = false) :
    line.isFiller = false := by
  rw [isFiller, h, Bool.and_false]

theorem isFiller_ofPart {part : List Char} (h : Filler part) (i : Nat) :
    (ofPart i part).isFiller = true := by
  rw [isFiller, Bool.and_eq_true, isBlank, codeOf_ofPart, List.isEmpty_iff, continuesBlock_iff,
    indented_ofPart, blanks_ofPart]
  cases h with
  | blanks blanks => exact ⟨codeOf_blanks blanks, .inr blanks⟩
  | @comment before comment split blanks indented =>
    refine ⟨?_, .inl indented⟩
    rw [split, codeOf_append_comment, codeOf_blanks blanks]

/-- The number of a line once there is one line more in front of the line with the given index. -/
def madeRoom (i : Nat) (number : UInt32) : UInt32 :=
  if i < number.toNat then number + 1 else number

theorem renumber_ofPart {i j : Nat} {part : List Char} (hj : j < UInt32.size - 1) :
    (ofPart j part).renumber (madeRoom i) = ofPart (if i ≤ j then j + 1 else j) part := by
  have hnumber : (UInt32.ofNat (j + 1)).toNat = j + 1 := UInt32.toNat_ofNat_of_lt' (by omega)
  have hlater : i < j + 1 ↔ i ≤ j := Nat.lt_succ_iff
  simp only [renumber, ofPart, madeRoom, hnumber, hlater]
  split <;> simp [UInt32.ofNat_add]

/-- The lines of a text with one part more are the lines of the text, renumbered, and the line of
that part. -/
theorem ofText_insertPart_eq_renumber {text : String} {part : List Char} {i : Nat}
    (hlines : (ofText text).length < UInt32.size - 1) (hpart : '\n' ∉ part) :
    ofText (insertPart text i part)
      = ((ofText text).map (renumber (madeRoom i))).insertIdx i (ofPart i part) := by
  rw [← length_parts] at hlines
  have hrenumber : (ofText text).map (renumber (madeRoom i))
      = (parts text).mapIdx fun j => ofPart (if i ≤ j then j + 1 else j) := by
    rw [ofText_eq_mapIdx]
    refine List.ext_getElem (by simp) fun j hj hj' => ?_
    rw [List.length_mapIdx] at hj'
    rw [List.getElem_map, List.getElem_mapIdx, List.getElem_mapIdx, renumber_ofPart (by omega)]
  rw [ofText_insertPart hpart, hrenumber]

end Line

namespace Compile

def withoutFillers (lines : List Line) : List Line := lines.filter (!·.isFiller)

section Fillers

variable {filler line : Line} {lines : List Line}

theorem withoutFillers_cons_of_filler (h : line.isFiller = true) :
    withoutFillers (line :: lines) = withoutFillers lines :=
  List.filter_cons_of_neg (by simp [h])

theorem withoutFillers_cons (h : line.isFiller = false) :
    withoutFillers (line :: lines) = line :: withoutFillers lines :=
  List.filter_cons_of_pos (by simp [h])

theorem afterBlock_withoutFillers (lines : List Line) :
    Cursor.afterBlock (withoutFillers lines) = withoutFillers (Cursor.afterBlock lines) := by
  induction lines with
  | nil => rfl
  | cons line lines ih =>
    cases hcontinues : line.continuesBlock with
    | true =>
      rw [Cursor.afterBlock_cons_of_continuesBlock hcontinues, ← ih]
      cases hfiller : line.isFiller with
      | true => rw [withoutFillers_cons_of_filler hfiller]
      | false =>
        rw [withoutFillers_cons hfiller, Cursor.afterBlock_cons_of_continuesBlock hcontinues]
    | false =>
      have hkept := Line.isFiller_of_not_continuesBlock hcontinues
      rw [Cursor.afterBlock_cons_of_not_continuesBlock hcontinues, withoutFillers_cons hkept,
        Cursor.afterBlock_cons_of_not_continuesBlock hcontinues]

theorem block_withoutFillers (lines : List Line) :
    Cursor.block (withoutFillers lines) = Cursor.block lines := by
  induction lines with
  | nil => rfl
  | cons line lines ih =>
    cases hcontinues : line.continuesBlock with
    | false =>
      rw [withoutFillers_cons (Line.isFiller_of_not_continuesBlock hcontinues),
        Cursor.block_cons_of_not_continuesBlock hcontinues,
        Cursor.block_cons_of_not_continuesBlock hcontinues]
    | true =>
      cases hblank : line.isBlank with
      | true =>
        have hfiller : line.isFiller = true := by rw [Line.isFiller, hblank, hcontinues]; rfl
        rw [withoutFillers_cons_of_filler hfiller, ih, Cursor.block_cons_of_blank hcontinues hblank]
      | false =>
        rw [withoutFillers_cons (Line.isFiller_of_code hblank),
          Cursor.block_cons_of_code hcontinues hblank, ih,
          Cursor.block_cons_of_code hcontinues hblank]

/-- The outline of a program is that of its lines that do not fill. -/
theorem outline_withoutFillers (lines : List Line) :
    outline (withoutFillers lines) = outline lines := by
  induction lines using outline.induct with
  | case1 => rfl
  | case2 line rest hblank ih =>
    rw [outline_cons_of_blank hblank, ← ih]
    cases hfiller : line.isFiller with
    | true => rw [withoutFillers_cons_of_filler hfiller]
    | false => rw [withoutFillers_cons hfiller, outline_cons_of_blank hblank]
  | case3 line rest hblank hloop ih =>
    have hcode : line.isBlank = false := by simpa using hblank
    rw [withoutFillers_cons (Line.isFiller_of_code hcode), outline_cons_of_isLoop hcode hloop,
      outline_cons_of_isLoop hcode hloop, block_withoutFillers, afterBlock_withoutFillers]
    exact congrArg (_ :: ·) ih
  | case4 line rest hblank hloop ih =>
    have hcode : line.isBlank = false := by simpa using hblank
    have hsingle : line.isLoop = false := by simpa using hloop
    rw [withoutFillers_cons (Line.isFiller_of_code hcode),
      outline_cons_of_not_isLoop hcode hsingle, outline_cons_of_not_isLoop hcode hsingle, ih]

theorem withoutFillers_insertIdx (h : filler.isFiller = true) (lines : List Line) (i : Nat) :
    withoutFillers (lines.insertIdx i filler) = withoutFillers lines := by
  induction lines generalizing i with
  | nil =>
    cases i with
    | zero => exact withoutFillers_cons_of_filler h
    | succ i => rfl
  | cons line lines ih =>
    cases i with
    | zero => exact withoutFillers_cons_of_filler h
    | succ i =>
      rw [List.insertIdx_succ_cons]
      cases hline : line.isFiller with
      | true => rw [withoutFillers_cons_of_filler hline, withoutFillers_cons_of_filler hline, ih]
      | false => rw [withoutFillers_cons hline, withoutFillers_cons hline, ih]

/-- A line that fills can stand anywhere. -/
theorem planOf_insertIdx_filler (h : filler.isFiller = true) (lines : List Line) (i : Nat)
    (options : CompilerOptions) :
    planOf (lines.insertIdx i filler) options = planOf lines options := by
  rw [planOf_eq_foldlM, planOf_eq_foldlM, ← outline_withoutFillers, withoutFillers_insertIdx h,
    outline_withoutFillers]

end Fillers

end Compile

/-- With a line that fills put in anywhere, a program compiles to the same plan or fails with the
same error, except that the lines from there on are counted one higher. -/
theorem compile_insertPart {program : String} {part : List Char} {i : Nat}
    {options : CompilerOptions} (hlines : (Line.ofText program).length < UInt32.size - 2)
    (hpart : '\n' ∉ part) (hfiller : Line.Filler part) :
    compile (Line.insertPart program i part) options
      = Compile.renumbered (Line.madeRoom i) (List.map (Action.renumber (Line.madeRoom i)))
        (compile program options) := by
  rw [compile, compile, Line.ofText_insertPart_eq_renumber (by omega) hpart,
    Compile.planOf_insertIdx_filler (Line.isFiller_ofPart hfiller i), Compile.planOf_renumber]

/-- A loop and a statement after it. -/
def marching : String := "for i in range(2):\n    hero.move_up()\nhero.move_left()"

theorem compile_insertPart_marching :
    let part : List Char := "\t# hero.fly()\r".toList
    (Line.ofText marching).length < UInt32.size - 2 ∧ '\n' ∉ part ∧ Line.Filler part ∧
    compile (Line.insertPart marching 1 part) .unlimited
      = .ok [⟨.up, 3⟩, ⟨.up, 3⟩, ⟨.left, 4⟩] := by
  intro part
  have hlines : (Line.ofText marching).length < UInt32.size - 2 := by decide +kernel
  have hpart : '\n' ∉ part := by decide +kernel
  have hsplit : part = ['\t'] ++ '#' :: " hero.fly()\r".toList := by decide +kernel
  have hindented : Line.Indented part := .inr (by decide +kernel)
  have hfiller : Line.Filler part := .comment hsplit (by decide) hindented
  have hplan : compile marching .unlimited = .ok [⟨.up, 2⟩, ⟨.up, 2⟩, ⟨.left, 3⟩] := by
    decide +kernel
  refine ⟨hlines, hpart, hfiller, ?_⟩
  rw [compile_insertPart hlines hpart hfiller, hplan]
  rfl

end GridWalk

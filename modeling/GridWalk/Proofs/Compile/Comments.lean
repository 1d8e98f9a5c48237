import GridWalk.Proofs.Compile.Replacement
import GridWalk.Proofs.Compile.Unrolling

/-! Comments.  A comment behind a line changes nothing, whatever it says, with one exception: a line
of nothing but blanks that is not indented goes on with the block before it, and a comment on it
would end that block.  Where no loop takes it into its block, such a line can have a comment too. -/

namespace GridWalk

namespace Line

variable {body returns comment : List Char} {i : Nat} {line : Line}

/-- The line holds nothing but blanks and is not indented. -/
structure IsGap (line : Line) : Prop where
  blanks : Text.Blanks line.raw.toList
  unindented : line.isIndented = false

theorem codeOf_commented (hreturns : ∀ c ∈ returns, c = '\r') :
    codeOf (body ++ '#' :: comment ++ returns) = codeOf (body ++ returns) := by
  rw [codeOf_append_blanks (blanks_of_returns hreturns), codeOf_append_comment,
    codeOf_append_blanks (blanks_of_returns hreturns)]

theorem indented_commented (hreturns : ∀ c ∈ returns, c = '\r') :
    Indented (body ++ '#' :: comment ++ returns) ↔ Indented (body ++ returns) := by
  have hhash : ∀ c ∈ ('#' :: comment ++ returns).head?, c ≠ ' ' ∧ c ≠ '\t' := by simp
  rw [List.append_assoc, indented_append_iff hhash, indented_append_returns hreturns]

theorem not_blanks_commented : ¬ Text.Blanks (body ++ '#' :: comment ++ returns) := fun h =>
  h.not_mem (c := '#') (by decide) (by simp)

theorem alike_commented (hreturns : ∀ c ∈ returns, c = '\r') :
    Alike (ofPart i (body ++ returns)) (ofPart i (body ++ '#' :: comment ++ returns)) := by
  refine .code ?_
  rw [code, code, codeOf_ofPart, codeOf_ofPart, codeOf_commented hreturns]

theorem continuesBlock_commented_iff (hreturns : ∀ c ∈ returns, c = '\r') :
    (ofPart i (body ++ '#' :: comment ++ returns)).continuesBlock = true
      ↔ (ofPart i (body ++ returns)).isIndented = true := by
  rw [continuesBlock_iff, indented_ofPart, blanks_ofPart, or_iff_left not_blanks_commented,
    indented_commented hreturns, isIndented_iff, indented_ofPart]

theorem IsGap.isBlank (h : line.IsGap) : line.isBlank = true :=
  isBlank_of_trim_isEmpty (List.isEmpty_iff.2 (Text.trim_eq_nil_iff.2 h.blanks))

theorem IsGap.continuesBlock (h : line.IsGap) : line.continuesBlock = true :=
  continuesBlock_iff.2 (.inr h.blanks)

/-- A line that is not a gap goes on with a block exactly when it is indented. -/
theorem continuesBlock_of_not_isGap (h : ¬ line.IsGap) : line.continuesBlock = line.isIndented := by
  rw [Bool.eq_iff_iff, continuesBlock_iff, ← isIndented_iff]
  refine or_iff_left_of_imp fun hblanks => ?_
  by_contra hindented
  exact h ⟨hblanks, by simpa using hindented⟩

end Line

namespace Cursor

theorem next?_append (first rest : Cursor) :
    next? (first ++ rest) =
      match first.next? with
      | none => rest.next?
      | some (line, later) => some (line, later ++ rest) := by
  induction first with
  | nil => rfl
  | cons line first ih =>
    cases hblank : line.isBlank with
    | true => rw [List.cons_append, next?_cons_of_blank hblank, next?_cons_of_blank hblank, ih]
    | false => rw [List.cons_append, next?_cons_of_code hblank, next?_cons_of_code hblank]

end Cursor

namespace Compile

section Gap

variable {limit : Option UInt64} {p p' : Progress} {cursor cursor' rest before after : Cursor}
  {line line' header : Line}

theorem finish_congr (h : cursor.next? = cursor'.next?) :
    finish limit p cursor = finish limit p cursor' := by
  cases hnext : cursor.next? with
  | none =>
    rw [finish_of_next?_eq_none hnext, finish_of_next?_eq_none (h ▸ hnext)]
  | some found =>
    obtain ⟨header, rest⟩ := found
    cases hread : advance limit p header rest with
    | error e =>
      rw [finish_of_advance_error hnext hread, finish_of_advance_error (h ▸ hnext) hread]
    | ok made =>
      obtain ⟨p', later⟩ := made
      rw [finish_of_advance_ok hnext hread, finish_of_advance_ok (h ▸ hnext) hread]

/-- Compiling goes on to a loop that takes the line into its block.  The count of the loop is
known by then, but the block need not be right. -/
def Takes (limit : Option UInt64) (p : Progress) (cursor : Cursor) (line : Line) : Prop :=
  ∃ q later header name operand rest count, Reaches limit p cursor q later ∧
    later.next? = some (header, rest) ∧ header.statement = .ok (.loop name operand) ∧
    resolve q.symbols operand = .ok count ∧ line ∈ rest.takeWhile Line.continuesBlock

theorem Takes.of_step (hnext : cursor.next? = some (header, rest))
    (hread : advance limit p header rest = .ok (p', cursor')) (h : Takes limit p' cursor' line) :
    Takes limit p cursor line := by
  obtain ⟨q, later, other, name, operand, tail, count, hreach, hfacts⟩ := h
  exact ⟨q, later, other, name, operand, tail, count, .step hnext hread hreach, hfacts⟩

theorem mem_takeWhile_append (hrest : rest.afterBlock = [])
    (hcontinues : line.continuesBlock = true) :
    line ∈ (rest ++ line :: after).takeWhile Line.continuesBlock := by
  have hall : ∀ other ∈ rest, other.continuesBlock = true := List.dropWhile_eq_nil_iff.1 hrest
  rw [List.takeWhile_append_of_pos hall, List.takeWhile_cons_of_pos hcontinues]
  exact List.mem_append_right rest List.mem_cons_self

/-- Reading a statement does not depend on the lines after its block. -/
theorem advance_append (h : ∀ name operand count, header.statement = .ok (.loop name operand) →
      resolve p.symbols operand = .ok count → rest.afterBlock ≠ []) :
    (∃ e, ∀ tail, advance limit p header (rest ++ tail) = .error e) ∨
    ∃ p' later, later.length ≤ rest.length ∧
      ∀ tail, advance limit p header (rest ++ tail) = .ok (p', later ++ tail) := by
  cases hloop : header.isLoop with
  | false =>
    simp only [advance_of_not_isLoop hloop]
    cases Entry.read limit p ⟨header, []⟩ with
    | error e => exact .inl ⟨e, fun _ => rfl⟩
    | ok p' => exact .inr ⟨p', rest, Nat.le_refl _, fun _ => rfl⟩
  | true =>
    obtain ⟨name, operand, hs⟩ := Line.isLoop_eq_true_iff.1 hloop
    cases hresolve : resolve p.symbols operand with
    | error problem =>
      -- the error comes before the block is looked at
      refine .inl ⟨problem.on header, fun tail => ?_⟩
      simp [advance, hs, unroll, hresolve, Except.map]
    | ok count =>
      have hend := h name operand count hs hresolve
      simp only [advance_of_isLoop hloop, Cursor.block_append hend, Cursor.afterBlock_append hend]
      cases Entry.read limit p ⟨header, rest.block⟩ with
      | error e => exact .inl ⟨e, fun _ => rfl⟩
      | ok p' => exact .inr ⟨p', rest.afterBlock, rest.length_afterBlock_le, fun _ => rfl⟩

/-- A line without code that no loop takes can be replaced by any line without code. -/
theorem finish_gap (hblank : line.isBlank = true) (hcontinues : line.continuesBlock = true)
    (hblank' : line'.isBlank = true) (h : ¬ Takes limit p (before ++ line :: after) line) :
    finish limit p (before ++ line' :: after) = finish limit p (before ++ line :: after) := by
  -- by the number of lines in front, which each statement that is read makes smaller
  induction hlength : before.length using Nat.strong_induction_on generalizing before p with
  | _ length ih =>
    cases hnext : before.next? with
    | none =>
      refine finish_congr ?_
      rw [Cursor.next?_append, Cursor.next?_append, hnext, Cursor.next?_cons_of_blank hblank,
        Cursor.next?_cons_of_blank hblank']
    | some found =>
      obtain ⟨header, rest⟩ := found
      have happend (tail : Cursor) :
          Cursor.next? (before ++ tail) = some (header, rest ++ tail) := by
        rw [Cursor.next?_append, hnext]
      have hold := happend (line :: after)
      have hnew := happend (line' :: after)
      have hshorter := Cursor.length_lt_of_next? hnext
      have hends (name : String) (operand : Operand) (count : UInt32)
          (hs : header.statement = .ok (.loop name operand))
          (hresolve : resolve p.symbols operand = .ok count) : rest.afterBlock ≠ [] := by
        intro hrest
        exact h ⟨p, _, header, name, operand, _, count, .refl _ _, hold, hs, hresolve,
          mem_takeWhile_append hrest hcontinues⟩
      rcases advance_append hends with ⟨e, hread⟩ | ⟨p', later, hlater, hread⟩
      · rw [finish_of_advance_error hnew (hread _), finish_of_advance_error hold (hread _)]
      · rw [finish_of_advance_ok hnew (hread _), finish_of_advance_ok hold (hread _)]
        exact ih later.length (by omega) (fun htakes => h (htakes.of_step hold (hread _))) rfl

/-- Any line without code can stand in the place of a gap that no loop takes. -/
theorem planOf_set_gap {options : CompilerOptions} {lines : List Line} {i : Nat}
    (hline : lines[i]? = some line) (hgap : line.IsGap) (hblank' : line'.isBlank = true)
    (h : ¬ Takes options.maxActions .initial lines line) :
    planOf (lines.set i line') options = planOf lines options := by
  obtain ⟨hi, hget⟩ := List.getElem?_eq_some_iff.1 hline
  have hsplit : lines.take i ++ line :: lines.drop (i + 1) = lines := by simp [← hget]
  rw [← hsplit] at h
  rw [planOf, planOf, List.set_eq_take_append_cons_drop, if_pos hi,
    finish_gap hgap.isBlank hgap.continuesBlock hblank' h, hsplit]

end Gap

end Compile

/-- A comment can be put behind any line.  A line of nothing but blanks that is not indented must
not be in a block that a loop takes, as the comment would end it. -/
theorem compile_commented {program : String} {options : CompilerOptions} {i : Nat} {line : Line}
    {body returns comment : List Char} (hlines : (Line.ofText program).length < UInt32.size - 1)
    (hline : (Line.ofText program)[i]? = some line)
    (hpart : (Line.parts program)[i]? = some (body ++ returns))
    (hreturns : ∀ c ∈ returns, c = '\r') (hcomment : '\n' ∉ comment)
    (hplace : line.IsGap →
      ¬ Compile.Takes options.maxActions .initial (Line.ofText program) line) :
    Requoted line.number (compile program options)
      (compile (Line.setPart program i (body ++ '#' :: comment ++ returns)) options) := by
  have hsame : line = Line.ofPart i (body ++ returns) := by
    rw [Line.ofText_eq_mapIdx, List.getElem?_mapIdx, hpart] at hline
    exact (Option.some.inj hline).symm
  have hfeed : '\n' ∉ body ++ '#' :: comment ++ returns := by
    have hold := Line.not_mem_of_mem_splitOn (List.mem_of_getElem? hpart)
    simp only [List.mem_append, List.mem_cons, not_or] at hold ⊢
    exact ⟨⟨hold.1, by decide, hcomment⟩, hold.2⟩
  have halike : Line.Alike line (Line.ofPart i (body ++ '#' :: comment ++ returns)) := by
    rw [hsame]
    exact Line.alike_commented hreturns
  by_cases hgap : line.IsGap
  · have hblank := halike.isBlank.trans hgap.isBlank
    rw [compile, compile, Line.ofText_setPart hfeed,
      Compile.planOf_set_gap hline hgap hblank (hplace hgap)]
    exact .refl _ _
  · refine compile_setPart_of_alike (by omega) hline hfeed halike ?_
    rw [Bool.eq_iff_iff, Line.continuesBlock_of_not_isGap hgap, hsame]
    exact Line.continuesBlock_commented_iff hreturns

/-- On an empty line of a block, a comment does make a difference. -/
example : compile (Line.setPart "for i in range(2):\n    hero.move_up()\n\n    hero.move_left()" 2
    ['#']) .unlimited = .ok [⟨.up, 2⟩, ⟨.up, 2⟩, ⟨.left, 4⟩] := by decide +kernel

/-- A loop whose count is not defined, with an empty line in its block.  The lines end in carriage
returns, and the block is never taken. -/
def unbounded : String := "for i in range(n):\r\n\r\n    hero.move_up()"

theorem compile_commented_unbounded :
    let line : Line := ⟨2, ""⟩
    let returns : List Char := ['\r']
    let comment : List Char := " n = 2".toList
    (Line.ofText unbounded).length < UInt32.size - 1 ∧ (Line.ofText unbounded)[1]? = some line ∧
    (Line.parts unbounded)[1]? = some ([] ++ returns) ∧ (∀ c ∈ returns, c = '\r') ∧
    '\n' ∉ comment ∧ line.IsGap ∧ ¬ Compile.Takes none .initial (Line.ofText unbounded) line ∧
    Requoted 2 (compile unbounded .unlimited)
      (compile (Line.setPart unbounded 1 ([] ++ '#' :: comment ++ returns)) .unlimited) := by
  intro line returns comment
  have hlines : (Line.ofText unbounded).length < UInt32.size - 1 := by decide +kernel
  have hline : (Line.ofText unbounded)[1]? = some line := by decide +kernel
  have hpart : (Line.parts unbounded)[1]? = some ([] ++ returns) := by decide +kernel
  have hreturns : ∀ c ∈ returns, c = '\r' := List.forall_mem_singleton.2 rfl
  have hcomment : '\n' ∉ comment := by decide +kernel
  have hgap : line.IsGap := ⟨by decide +kernel, by decide +kernel⟩
  have hplace : ¬ Compile.Takes none .initial (Line.ofText unbounded) line := by
    rintro ⟨p, cursor, header, name, operand, rest, count, hreach, hnext, hs, hcount, -⟩
    let first : Line := ⟨1, "for i in range(n):"⟩
    have hfirst : Cursor.next? (Line.ofText unbounded)
        = some (first, [line, ⟨3, "    hero.move_up()"⟩]) := by
      decide +kernel
    have hheader : first.statement = .ok (.loop "i" (.reference "n")) := by decide +kernel
    cases hreach with
    | refl =>
      rw [hfirst] at hnext
      obtain ⟨rfl, -⟩ := Prod.mk.inj (Option.some.inj hnext)
      rw [hheader] at hs
      cases hs
      cases hcount
    | step next read onward =>
      rw [hfirst] at next
      obtain ⟨rfl, rfl⟩ := Prod.mk.inj (Option.some.inj next)
      rw [Compile.advance, hheader] at read
      cases read
  exact ⟨hlines, hline, hpart, hreturns, hcomment, hgap, hplace,
    compile_commented hlines hline hpart hreturns hcomment fun _ => hplace⟩

end GridWalk

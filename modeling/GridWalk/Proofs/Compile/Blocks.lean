import GridWalk.Proofs.Compile.Outline
import Mathlib.Data.List.TakeWhile

/-! Where blocks end.  A block ends at the first line that does not continue it, so lines after that
one play no part in it.  Lines that no block before them takes in are `Detached`, and the outline of
a program goes on with theirs. -/

namespace GridWalk

namespace Cursor

variable {line : Line} {rest : Cursor}

theorem block_cons_of_not_continuesBlock (h : line.continuesBlock = false) :
    block (line :: rest) = [] := by
  rw [block, List.takeWhile_cons_of_neg (by simp [h]), List.filter_nil]

theorem block_cons_of_blank (h : line.continuesBlock = true) (hblank : line.isBlank = true) :
    block (line :: rest) = block rest := by
  rw [block, List.takeWhile_cons_of_pos h, List.filter_cons_of_neg (by simp [hblank]), block]

theorem block_cons_of_code (h : line.continuesBlock = true) (hcode : line.isBlank = false) :
    block (line :: rest) = line :: block rest := by
  rw [block, List.takeWhile_cons_of_pos h, List.filter_cons_of_pos (by simp [hcode]), block]

theorem afterBlock_cons_of_continuesBlock (h : line.continuesBlock = true) :
    afterBlock (line :: rest) = afterBlock rest := List.dropWhile_cons_of_pos h

theorem afterBlock_cons_of_not_continuesBlock (h : line.continuesBlock = false) :
    afterBlock (line :: rest) = line :: rest := List.dropWhile_cons_of_neg (by simp [h])

/-- Where a block ends does not depend on the lines after its end. -/
theorem afterBlock_append {first : Cursor} (h : first.afterBlock ≠ []) (rest : Cursor) :
    afterBlock (first ++ rest) = first.afterBlock ++ rest := by
  rw [afterBlock, List.dropWhile_append, if_neg (by rwa [List.isEmpty_iff])]
  rfl

theorem block_append {first : Cursor} (h : first.afterBlock ≠ []) (rest : Cursor) :
    block (first ++ rest) = first.block := by
  have parts (cursor : Cursor) :
      cursor.takeWhile Line.continuesBlock ++ cursor.afterBlock = cursor :=
    List.takeWhile_append_dropWhile
  have whole := parts (first ++ rest)
  rw [afterBlock_append h, ← List.append_assoc, List.append_left_inj] at whole
  rw [block, List.append_cancel_right (whole.trans (parts first).symm), block]

end Cursor

namespace Compile

theorem outline_cons_of_blank {line : Line} {rest : List Line} (h : line.isBlank = true) :
    outline (line :: rest) = outline rest := by
  rw [outline, if_pos h]

theorem outline_blanks_append {blanks rest : List Line} (h : ∀ b ∈ blanks, b.isBlank = true) :
    outline (blanks ++ rest) = outline rest := by
  induction blanks with
  | nil => rfl
  | cons b blanks ih =>
    obtain ⟨hb, hblanks⟩ := List.forall_mem_cons.1 h
    rw [List.cons_append, outline_cons_of_blank hb]
    exact ih hblanks

theorem outline_cons_of_not_isLoop {line : Line} {rest : List Line} (hcode : line.isBlank = false)
    (hloop : line.isLoop = false) : outline (line :: rest) = ⟨line, []⟩ :: outline rest := by
  rw [outline, if_neg (by simp [hcode]), if_neg (by simp [hloop])]

theorem outline_cons_of_isLoop {line : Line} {rest : List Line} (hcode : line.isBlank = false)
    (hloop : line.isLoop = true) :
    outline (line :: rest) = ⟨line, Cursor.block rest⟩ :: outline (Cursor.afterBlock rest) := by
  rw [outline, if_neg (by simp [hcode]), if_pos hloop]
  rfl

/-! ### Detached lines -/

/-- No line with code at the start of the lines joins a block that stands before them. -/
def Detached (lines : List Line) : Prop :=
  ∀ line ∈ lines.takeWhile Line.continuesBlock, line.isBlank = true

theorem detached_cons_iff {line : Line} {rest : List Line} :
    Detached (line :: rest) ↔
      (line.continuesBlock = true → line.isBlank = true ∧ Detached rest) := by
  rw [Detached, List.takeWhile_cons]
  split
  next h => simp [Detached, h]
  next h => simp [h]

theorem Detached.append {before rest tail : List Line} (h : Detached (before ++ rest))
    (htail : Detached tail) : Detached (before ++ tail) := by
  induction before with
  | nil => exact htail
  | cons line before ih =>
    rw [List.cons_append, detached_cons_iff] at h ⊢
    exact fun hline => ⟨(h hline).1, ih (h hline).2⟩

theorem detached_dropWhile (lines : List Line) :
    Detached (lines.dropWhile Line.continuesBlock) := by
  cases hrest : lines.dropWhile Line.continuesBlock with
  | nil => exact nofun
  | cons line rest =>
    have hstop := List.head?_dropWhile_not Line.continuesBlock lines
    rw [hrest] at hstop
    refine detached_cons_iff.2 fun hline => ?_
    simp [hline] at hstop

/-- The block of a loop ends where detached lines begin. -/
theorem outline_loop_append {header : Line} {block rest : List Line}
    (hcode : header.isBlank = false) (hloop : header.isLoop = true)
    (hblock : ∀ line ∈ block, line.continuesBlock = true) (hrest : Detached rest) :
    outline (header :: (block ++ rest))
      = ⟨header, block.filter (!·.isBlank)⟩ :: outline rest := by
  have hbody : (rest.takeWhile Line.continuesBlock).filter (!·.isBlank) = [] := by
    rw [List.filter_eq_nil_iff]
    intro line hline
    simp [hrest line hline]
  have hafter : outline (rest.dropWhile Line.continuesBlock) = outline rest := by
    rw [← outline_blanks_append hrest, List.takeWhile_append_dropWhile]
  rw [outline, if_neg (by simp [hcode]), if_pos hloop, List.takeWhile_append_of_pos hblock,
    List.dropWhile_append_of_pos hblock, List.filter_append, hbody, hafter, List.append_nil]

/-- Detached lines are read after the lines before them, also when these end in an open block. -/
theorem outline_append {first second : List Line} (h : Detached second) :
    outline (first ++ second) = outline first ++ outline second := by
  induction first using outline.induct with
  | case1 =>
    rw [outline]
    rfl
  | case2 line rest hblank ih =>
    rw [List.cons_append, outline, if_pos hblank, ih, outline, if_pos hblank]
  | case3 line rest hblank hloop ih =>
    have hcode : line.isBlank = false := by simpa using hblank
    have hblock : ∀ other ∈ rest.takeWhile Line.continuesBlock, other.continuesBlock = true :=
      fun other => List.mem_takeWhile_imp
    -- nothing may be left of `first` after this block, which then takes in blank lines of `second`
    have hafter : Detached (rest.dropWhile Line.continuesBlock ++ []) := by
      rw [List.append_nil]
      exact detached_dropWhile rest
    have hfirst := outline_loop_append hcode hloop hblock (detached_dropWhile rest)
    have hall := outline_loop_append hcode hloop hblock (hafter.append h)
    rw [← List.append_assoc] at hall
    rw [List.takeWhile_append_dropWhile] at hfirst hall
    rw [List.cons_append, hall, hfirst, ih, List.cons_append]
  | case4 line rest hblank hloop ih =>
    have hcode : line.isBlank = false := by simpa using hblank
    have hsingle : line.isLoop = false := by simpa using hloop
    rw [List.cons_append, outline_cons_of_not_isLoop hcode hsingle, ih,
      outline_cons_of_not_isLoop hcode hsingle, List.cons_append]

end Compile

end GridWalk

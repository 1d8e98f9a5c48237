import GridWalk.Proofs.Compile.Blocks
import GridWalk.Proofs.Compile.Limit

/-! The first error decides.  A loop is read together with the lines of its block that stand after
the one at fault, and still no line after the one at fault plays a part: `compile_of_take_eq` says
that a program with the same lines up to there fails in the same way, whatever follows them.  Only
the limit on the length of plans is not reported for the first line that is wrong. -/

namespace GridWalk

namespace Compile

section Entries

variable {limit : Option UInt64} {symbols : Symbols} {err : CompileError}

theorem number_of_bodyMove_error {line : Line} (h : bodyMove symbols line = .error err) :
    err.line = line.number := by
  obtain ⟨problem, -, rfl⟩ :=
    @bodyMove_eq_error none symbols ⟨line, [line]⟩ err line List.mem_cons_self h
  rfl

/-- What is wrong with an entry is found before its moves are added to the plan. -/
theorem Entry.moves_of_read_error {p : Progress} {e : Entry} (h : e.read limit p = .error err)
    (hcode : err.code ≠ ⟨301⟩) : e.moves p.symbols = .error err := by
  rw [Entry.read] at h
  cases hm : e.moves p.symbols with
  | error e' =>
    rw [hm] at h
    exact congrArg _ (Except.error.inj h)
  | ok result =>
    obtain ⟨symbols, moves⟩ := result
    cases hemit : emitAll limit moves p.actions with
    | ok plan => simp [hm, hemit, Except.map] at h
    | error e' =>
      obtain rfl : e' = err := by simpa [hm, hemit, Except.map] using h
      obtain ⟨m, -, max, -, rfl⟩ := emitAll_eq_error hemit
      exact absurd rfl hcode

theorem Entry.read_of_moves_error {p : Progress} {e : Entry} (h : e.moves p.symbols = .error err) :
    e.read limit p = .error err := by
  rw [Entry.read, h]

/-- The first line of a loop fails alike with another body, as long as that body does. -/
theorem Entry.moves_error_of_body {header : Line} {body body' : List Line}
    (hloop : header.isLoop = true)
    (hbody : bodyMoves symbols body = .error err → bodyMoves symbols body' = .error err)
    (h : Entry.moves symbols ⟨header, body⟩ = .error err) :
    Entry.moves symbols ⟨header, body'⟩ = .error err := by
  obtain ⟨name, operand, hs⟩ := Line.isLoop_eq_true_iff.1 hloop
  simp only [Entry.moves, hs] at h ⊢
  cases hcount : resolve symbols operand with
  | error problem =>
    rw [hcount] at h
    exact h
  | ok count =>
    cases hmoves : bodyMoves symbols body with
    | ok moves => simp [hcount, hmoves, Except.map] at h
    | error e' =>
      obtain rfl : e' = err := by simpa [hcount, hmoves, Except.map] using h
      simp only [hbody hmoves, Except.map]

end Entries

section Shared

variable {limit : Option UInt64} {symbols : Symbols} {shared rest : List Line} {err : CompileError}

theorem line_of_block_error (h : bodyMoves symbols (Cursor.block rest) = .error err) :
    ∃ line ∈ rest, err.line = line.number := by
  obtain ⟨line, hline, hm⟩ := exists_of_bodyMoves_eq_error h
  have hblock := List.mem_of_mem_filter hline
  exact ⟨line, (List.takeWhile_sublist _).subset hblock, number_of_bodyMove_error hm⟩

/-- A block fails on one of its lines whatever comes after that line, and so also wherever the block
ends. -/
theorem block_error_of_append (hrest : ∀ line ∈ rest, line.number ≠ err.line)
    (h : bodyMoves symbols (Cursor.block (shared ++ rest)) = .error err) (other : List Line) :
    bodyMoves symbols (Cursor.block (shared ++ other)) = .error err := by
  induction shared with
  | nil =>
    obtain ⟨line, hline, hnumber⟩ := line_of_block_error h
    exact absurd hnumber.symm (hrest line hline)
  | cons line shared ih =>
    rw [List.cons_append] at h ⊢
    cases hcontinues : line.continuesBlock with
    | false =>
      rw [Cursor.block_cons_of_not_continuesBlock hcontinues] at h
      cases h
    | true =>
      cases hblank : line.isBlank with
      | true =>
        rw [Cursor.block_cons_of_blank hcontinues hblank] at h ⊢
        exact ih h
      | false =>
        rw [Cursor.block_cons_of_code hcontinues hblank, bodyMoves_cons_eq_error_iff] at h ⊢
        rcases h with hline | ⟨m, hm, hbody⟩
        · exact .inl hline
        · exact .inr ⟨m, hm, ih hbody⟩

/-- Reading the lines of a program fails on one of them whatever comes after that line. -/
theorem outline_error_of_append {p : Progress} (hrest : ∀ line ∈ rest, line.number ≠ err.line)
    (hcode : err.code ≠ ⟨301⟩)
    (h : (outline (shared ++ rest)).foldlM (Entry.read limit) p = .error err) (other : List Line) :
    (outline (shared ++ other)).foldlM (Entry.read limit) p = .error err := by
  induction shared using outline.induct generalizing p with
  | case1 =>
    obtain ⟨line, hline, hnumber⟩ := line_of_outline_error h
    exact absurd hnumber.symm (hrest line hline)
  | case2 line shared hblank ih =>
    rw [List.cons_append, outline, if_pos hblank] at h ⊢
    exact ih h
  | case3 line shared hblank hloop ih =>
    have hcodes : line.isBlank = false := by simpa using hblank
    rw [List.cons_append, outline_cons_of_isLoop hcodes hloop, foldlM_read_cons_eq_error_iff] at h ⊢
    rcases h with hread | ⟨q, hread, hafter⟩
    · refine .inl (Entry.read_of_moves_error ?_)
      exact Entry.moves_error_of_body hloop (fun hbody => block_error_of_append hrest hbody other)
        (Entry.moves_of_read_error hread hcode)
    · -- the error comes after the block, so the block ends among the shared lines
      have hends : Cursor.afterBlock shared ≠ [] := by
        intro hall
        rw [Cursor.afterBlock] at hall
        rw [Cursor.afterBlock, List.dropWhile_append, hall] at hafter
        obtain ⟨line', hline', hnumber⟩ := line_of_outline_error hafter
        exact hrest line' ((List.dropWhile_sublist _).subset hline') hnumber.symm
      rw [Cursor.block_append hends] at hread ⊢
      rw [Cursor.afterBlock_append hends] at hafter ⊢
      exact .inr ⟨q, hread, ih hafter⟩
  | case4 line shared hblank hloop ih =>
    rw [List.cons_append, outline, if_neg hblank, if_neg hloop,
      foldlM_read_cons_eq_error_iff] at h ⊢
    rcases h with hread | ⟨q, hread, hafter⟩
    · exact .inl hread
    · exact .inr ⟨q, hread, ih hafter⟩

end Shared

/-- The first error decides.  A program that has the same lines up to the one at fault fails with
the same error, whatever lines come after it. -/
theorem compile_of_take_eq {program other : String} {options : CompilerOptions}
    {err : CompileError} (hlines : (Line.ofText program).length < UInt32.size - 1)
    (h : compile program options = .error err) (hcode : err.code ≠ ⟨301⟩)
    (hsame : (Line.ofText other).take err.line.toNat
      = (Line.ofText program).take err.line.toNat) :
    compile other options = .error err := by
  have hafter : ∀ line ∈ (Line.ofText program).drop err.line.toNat, line.number ≠ err.line := by
    intro line hline heq
    obtain ⟨i, hi⟩ := List.mem_iff_getElem?.1 hline
    rw [List.getElem?_drop] at hi
    have hnumber := Line.toNat_number_of_getElem?_ofText (by omega) hi
    rw [heq] at hnumber
    omega
  have herror := planOf_eq_error_iff.1 h
  rw [← List.take_append_drop err.line.toNat (Line.ofText program)] at herror
  have hother := outline_error_of_append hafter hcode herror
    ((Line.ofText other).drop err.line.toNat)
  rw [← hsame, List.take_append_drop] at hother
  exact planOf_eq_error_iff.2 hother

/-- A loop with an assignment in its block. -/
def assignsInside : String :=
  "n = 2\nfor i in range(n):\n    hero.move_up()\n    m = 3\nhero.move_left()"

/-- The same block, which goes on with other mistakes.  The limit leaves no room for its first move,
and still the assignment is reported. -/
def assignsInsideToo : String :=
  "n = 2\nfor i in range(n):\n    hero.move_up()\n    m = 3\n    hero.fly()\n    for j in range(m):"

theorem compile_of_take_eq_assignsInside :
    let err := (Problem.notAMove "m = 3").on ⟨4, "    m = 3"⟩
    (Line.ofText assignsInside).length < UInt32.size - 1 ∧
    compile assignsInside ⟨some 0⟩ = .error err ∧ err.code ≠ ⟨301⟩ ∧
    (Line.ofText assignsInsideToo).take err.line.toNat
      = (Line.ofText assignsInside).take err.line.toNat ∧
    compile assignsInsideToo ⟨some 0⟩ = .error err := by
  intro err
  have hlines : (Line.ofText assignsInside).length < UInt32.size - 1 := by decide +kernel
  have herror : compile assignsInside ⟨some 0⟩ = .error err := by decide +kernel
  have hcode : err.code ≠ ⟨301⟩ := by decide
  have hsame : (Line.ofText assignsInsideToo).take err.line.toNat
      = (Line.ofText assignsInside).take err.line.toNat := by decide +kernel
  exact ⟨hlines, herror, hcode, hsame, compile_of_take_eq hlines herror hcode hsame⟩

end Compile

end GridWalk

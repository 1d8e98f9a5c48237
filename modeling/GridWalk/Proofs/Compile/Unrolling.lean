import GridWalk.Proofs.Compile.Blocks
import GridWalk.Proofs.Compile.Limit
import GridWalk.Proofs.Compile.Renumber
import GridWalk.Proofs.Indentation

/-! Writing a loop out.  A program in which the lines of a loop's block stand, without their
indentation, as often as the loop is repeated compiles to the same plan as the program with the
loop, up to the numbers of the lines. -/

namespace GridWalk

theorem Line.isLoop_dedent (line : Line) : line.dedent.isLoop = line.isLoop := by
  rw [isLoop, isLoop, statement_dedent]

namespace Cursor

theorem next?_eq_some {cursor rest : Cursor} {line : Line} (h : cursor.next? = some (line, rest)) :
    ∃ blanks, (∀ b ∈ blanks, b.isBlank = true) ∧ line.isBlank = false ∧
      cursor = blanks ++ line :: rest := by
  induction cursor with
  | nil => cases h
  | cons first tail ih =>
    cases hb : first.isBlank with
    | true =>
      rw [next?_cons_of_blank hb] at h
      obtain ⟨blanks, hblanks, hline, rfl⟩ := ih h
      exact ⟨first :: blanks, List.forall_mem_cons.2 ⟨hb, hblanks⟩, hline, rfl⟩
    | false =>
      rw [next?_cons_of_code hb] at h
      obtain ⟨rfl, rfl⟩ : first = line ∧ tail = rest := by simpa using h
      exact ⟨[], nofun, hb, rfl⟩

end Cursor

namespace Compile

/-! ### Reaching a line -/

/-- Compiling that has made the progress `p` and stands at a cursor goes on to `q` and a later
cursor. -/
inductive Reaches (limit : Option UInt64) : Progress → Cursor → Progress → Cursor → Prop
  | refl (p : Progress) (cursor : Cursor) : Reaches limit p cursor p cursor
  | step {p p' q : Progress} {cursor rest cursor' later : Cursor} {line : Line}
      (next : cursor.next? = some (line, rest))
      (read : advance limit p line rest = .ok (p', cursor'))
      (onward : Reaches limit p' cursor' q later) : Reaches limit p cursor q later

theorem advance_eq_ok {limit : Option UInt64} {p p' : Progress} {line : Line} {rest after : Cursor}
    (h : advance limit p line rest = .ok (p', after)) :
    (line.isLoop = false ∧ after = rest ∧ Entry.read limit p ⟨line, []⟩ = .ok p') ∨
    (line.isLoop = true ∧ after = rest.dropWhile Line.continuesBlock ∧
      Entry.read limit p ⟨line, rest.block⟩ = .ok p') := by
  cases hloop : line.isLoop with
  | false =>
    rw [advance_of_not_isLoop hloop] at h
    cases hr : Entry.read limit p ⟨line, []⟩ with
    | error err => simp [hr, Except.map] at h
    | ok next =>
      obtain ⟨rfl, rfl⟩ : next = p' ∧ rest = after := by simpa [hr, Except.map] using h
      exact .inl ⟨rfl, rfl, rfl⟩
  | true =>
    rw [advance_of_isLoop hloop] at h
    cases hr : Entry.read limit p ⟨line, rest.block⟩ with
    | error err => simp [hr, Except.map] at h
    | ok next =>
      obtain ⟨rfl, rfl⟩ : next = p' ∧ rest.afterBlock = after := by
        simpa [hr, Except.map] using h
      exact .inr ⟨rfl, rfl, rfl⟩

/-- The entries before a line that compiling reaches do not depend on the lines from there on, as
long as these are detached from the lines before. -/
theorem Reaches.outline_eq {limit : Option UInt64} {p q : Progress} {cursor later rest : Cursor}
    {header : Line} (h : Reaches limit p cursor q later)
    (hnext : later.next? = some (header, rest)) :
    ∃ before entries, cursor = before ++ header :: rest ∧
      entries.foldlM (Entry.read limit) p = .ok q ∧
      outline cursor = entries ++ outline (header :: rest) ∧
      ∀ tail, Detached tail → outline (before ++ tail) = entries ++ outline tail := by
  induction h with
  | refl p cursor =>
    obtain ⟨blanks, hblanks, -, rfl⟩ := Cursor.next?_eq_some hnext
    exact ⟨blanks, [], rfl, rfl, outline_blanks_append hblanks,
      fun tail _ => outline_blanks_append hblanks⟩
  | @step p p' q cursor r cursor' later line next read onward ih =>
    obtain ⟨before, entries, hcursor, hfold, houtline, htail⟩ := ih hnext
    obtain ⟨blanks, hblanks, hcode, rfl⟩ := Cursor.next?_eq_some next
    rcases advance_eq_ok read with ⟨hloop, rfl, hread⟩ | ⟨hloop, rfl, hread⟩
    · subst hcursor
      refine ⟨blanks ++ line :: before, ⟨line, []⟩ :: entries, by simp,
        foldlM_read_cons_eq_ok_iff.2 ⟨p', hread, hfold⟩, ?_, fun tail hdetached => ?_⟩
      · rw [outline_blanks_append hblanks, outline_cons_of_not_isLoop hcode hloop, houtline]
        rfl
      · rw [List.append_assoc, outline_blanks_append hblanks, List.cons_append,
          outline_cons_of_not_isLoop hcode hloop, htail tail hdetached]
        rfl
    · have hdetached := detached_dropWhile r
      have hbody : Cursor.block r = (r.takeWhile Line.continuesBlock).filter (!·.isBlank) := rfl
      have hblock : ∀ other ∈ r.takeWhile Line.continuesBlock, other.continuesBlock = true :=
        fun other => List.mem_takeWhile_imp
      rw [hbody] at hread
      rw [← List.takeWhile_append_dropWhile (p := Line.continuesBlock) (l := r)]
      rw [hcursor] at hdetached houtline ⊢
      generalize r.takeWhile Line.continuesBlock = block at hblock hread ⊢
      refine ⟨blanks ++ line :: (block ++ before), ⟨line, block.filter (!·.isBlank)⟩ :: entries,
        by simp, foldlM_read_cons_eq_ok_iff.2 ⟨p', hread, hfold⟩, ?_, fun tail htail' => ?_⟩
      · rw [outline_blanks_append hblanks, outline_loop_append hcode hloop hblock hdetached,
          houtline]
        rfl
      · rw [List.append_assoc, outline_blanks_append hblanks, List.cons_append, List.append_assoc,
          outline_loop_append hcode hloop hblock (hdetached.append htail'), htail tail htail']
        rfl

/-! ### The copies of a block -/

/-- The entry of a line that is a statement of its own. -/
def single (line : Line) : Entry := ⟨line.dedent, []⟩

theorem outline_dedent_append {lines rest : List Line}
    (h : ∀ line ∈ lines, line.isBlank = false → line.isLoop = false) :
    outline (lines.map Line.dedent ++ rest)
      = (lines.filter (!·.isBlank)).map single ++ outline rest := by
  induction lines with
  | nil => rfl
  | cons line lines ih =>
    obtain ⟨hline, hlines⟩ := List.forall_mem_cons.1 h
    rw [List.map_cons, List.cons_append]
    cases hblank : line.isBlank with
    | true =>
      rw [outline, if_pos (by simpa using hblank), List.filter_cons_of_neg (by simp [hblank])]
      exact ih hlines
    | false =>
      have hloop : line.dedent.isLoop = false := (Line.isLoop_dedent line).trans (hline hblank)
      rw [outline_cons_of_not_isLoop (by simpa using hblank) hloop,
        List.filter_cons_of_pos (by simp [hblank]), ih hlines]
      rfl

theorem detached_dedent_append {lines rest : List Line} (hrest : Detached rest) :
    Detached (lines.map Line.dedent ++ rest) := by
  induction lines with
  | nil => exact hrest
  | cons line lines ih =>
    rw [List.map_cons, List.cons_append, detached_cons_iff]
    exact fun hline => ⟨Line.isBlank_of_continuesBlock_dedent hline, ih⟩

theorem bodyMoves_append {symbols : Symbols} {first second : List Line} {moves more : List Move}
    (hfirst : bodyMoves symbols first = .ok moves) (hsecond : bodyMoves symbols second = .ok more) :
    bodyMoves symbols (first ++ second) = .ok (moves ++ more) := by
  induction first generalizing moves with
  | nil =>
    obtain rfl : [] = moves := Except.ok.inj hfirst
    exact hsecond
  | cons line first ih =>
    obtain ⟨m, rest, hm, hrest, rfl⟩ := bodyMoves_cons_eq_ok_iff.1 hfirst
    exact bodyMoves_cons_eq_ok_iff.2 ⟨m, rest ++ more, hm, ih hrest, rfl⟩

theorem bodyMoves_replicate {symbols : Symbols} {body : List Line} {moves : List Move}
    (h : bodyMoves symbols body = .ok moves) (count : Nat) :
    bodyMoves symbols (List.replicate count body).flatten
      = .ok (List.replicate count moves).flatten := by
  induction count with
  | zero => rfl
  | succ count ih =>
    rw [List.replicate_succ, List.replicate_succ, List.flatten_cons, List.flatten_cons]
    exact bodyMoves_append h ih

/-- Lines that are statements of their own add what they add in the body of a loop. -/
theorem foldlM_single {limit : Option UInt64} {symbols : Symbols} {body : List Line}
    {moves : List Move} {plan plan' : Array Action} (hmoves : bodyMoves symbols body = .ok moves)
    (hemit : emitAll limit moves plan = .ok plan') :
    (body.map single).foldlM (Entry.read limit) ⟨symbols, plan⟩ = .ok ⟨symbols, plan'⟩ := by
  induction body generalizing moves plan with
  | nil =>
    obtain rfl : [] = moves := Except.ok.inj hmoves
    obtain rfl : plan = plan' := Except.ok.inj hemit
    rfl
  | cons line body ih =>
    obtain ⟨m, rest, hm, hrest, rfl⟩ := bodyMoves_cons_eq_ok_iff.1 hmoves
    obtain ⟨direction, steps, count, hs, hc, rfl⟩ := bodyMove_eq_ok_iff.1 hm
    obtain ⟨hfits, hemit⟩ := emitAll_cons_eq_ok_iff.1 hemit
    have hline : (single line).moves symbols
        = .ok (symbols, [⟨direction, count, line.dedent⟩]) := by
      simp [single, Entry.moves, hs, hc]
    exact foldlM_read_cons_eq_ok_iff.2 ⟨⟨symbols, plan ++ Move.actions ⟨direction, count, line⟩⟩,
      Entry.read_eq_ok_iff.2 ⟨_, hline, emitAll_cons_eq_ok_iff.2 ⟨hfits, rfl⟩⟩, ih hrest hemit⟩

theorem emitAll_of_steps_eq_zero {limit : Option UInt64} {moves : List Move} {plan : Array Action}
    (hfits : Fits limit plan) (h : ∀ m ∈ moves, m.steps = 0) :
    emitAll limit moves plan = .ok plan := by
  induction moves with
  | nil => rfl
  | cons m moves ih =>
    obtain ⟨hm, hmoves⟩ := List.forall_mem_cons.1 h
    have hnone : plan ++ m.actions = plan := by simp [Move.actions, hm]
    rw [emitAll_cons_eq_ok_iff, hnone]
    exact ⟨hfits, ih hmoves⟩

/-- A body without steps may as well be gone through. -/
theorem emitAll_replicate {limit : Option UInt64} {moves : List Move} {count : UInt32}
    {plan plan' : Array Action} (hfits : Fits limit plan)
    (h : emitAll limit (Entry.repeated moves count) plan = .ok plan') :
    emitAll limit (List.replicate count.toNat moves).flatten plan = .ok plan' := by
  unfold Entry.repeated at h
  split at h
  next hzero =>
    obtain rfl : plan = plan' := Except.ok.inj h
    refine emitAll_of_steps_eq_zero hfits fun m hm => ?_
    exact beq_iff_eq.1 (List.all_eq_true.1 hzero m (mem_of_mem_copies hm))
  · exact h

/-- A loop that can be read does what the lines of its body do, one after the other and as often as
the loop is repeated. -/
theorem foldlM_replicate_of_read {limit : Option UInt64} {p next : Progress} {header : Line}
    {body : List Line} {name : String} {operand : Operand} {count : UInt32}
    (hs : header.statement = .ok (.loop name operand))
    (hcount : resolve p.symbols operand = .ok count) (hfits : Fits limit p.actions)
    (hread : Entry.read limit p ⟨header, body⟩ = .ok next) :
    (∀ line ∈ body, line.isLoop = false) ∧
    ((List.replicate count.toNat body).flatten.map single).foldlM (Entry.read limit) p
      = .ok next := by
  obtain ⟨moves, hmoves, hemit⟩ := Entry.read_eq_ok_iff.1 hread
  obtain ⟨count', copy, hcount', hbody, hsymbols, rfl⟩ := Entry.moves_of_loop hmoves hs
  rw [hcount] at hcount'
  obtain rfl := Except.ok.inj hcount'
  have hnext : next = ⟨p.symbols, next.actions⟩ := by rw [← hsymbols]
  rw [hnext]
  exact ⟨not_isLoop_of_bodyMoves_ok hbody,
    foldlM_single (bodyMoves_replicate hbody count.toNat) (emitAll_replicate hfits hemit)⟩

/-! ### Loops written out -/

/-- Compiling reaches a loop that is repeated `count` times.  The lines are those of the program,
and `block` is all of the block that belongs to the loop. -/
structure ReachesLoop (limit : Option UInt64) (lines before : List Line) (header : Line)
    (block after : List Line) (count : UInt32) : Prop where
  split : lines = before ++ header :: (block ++ after)
  whole : Cursor.afterBlock (block ++ after) = after
  reached : ∃ p cursor name operand, Reaches limit .initial lines p cursor ∧
    cursor.next? = some (header, block ++ after) ∧
    header.statement = .ok (.loop name operand) ∧ resolve p.symbols operand = .ok count

/-- The lines of a program that has `count` copies of a block in the place of its loop.  Each copy
has the number of the line it was copied from. -/
def unrolledLines (before block after : List Line) (count : UInt32) : List Line :=
  before ++ ((List.replicate count.toNat block).flatten.map Line.dedent ++ after)

section ReachesLoop

variable {limit : Option UInt64} {lines before block after : List Line} {header : Line}
  {count : UInt32}

theorem ReachesLoop.continuesBlock (h : ReachesLoop limit lines before header block after count) :
    ∀ line ∈ block, line.continuesBlock = true := by
  have hwhole : (block ++ after).takeWhile Line.continuesBlock ++ after = block ++ after := by
    have hparts : (block ++ after).takeWhile Line.continuesBlock
        ++ Cursor.afterBlock (block ++ after) = block ++ after := List.takeWhile_append_dropWhile
    rwa [h.whole] at hparts
  rw [← List.append_cancel_right hwhole]
  exact fun line => List.mem_takeWhile_imp

theorem ReachesLoop.detached (h : ReachesLoop limit lines before header block after count) :
    Detached after := by
  rw [← h.whole]
  exact detached_dropWhile _

theorem planOf_unrolledLines {plan : Plan}
    (hloop : ReachesLoop limit lines before header block after count)
    (hplan : planOf lines ⟨limit⟩ = .ok plan) :
    planOf (unrolledLines before block after count) ⟨limit⟩ = .ok plan := by
  obtain ⟨p, cursor, name, operand, hreach, hnext, hheader, hcount⟩ := hloop.reached
  obtain ⟨-, -, hcode, -⟩ := Cursor.next?_eq_some hnext
  obtain ⟨before', entries, hsplit, hfold, houtline, htail⟩ := hreach.outline_eq hnext
  obtain rfl : before = before' := List.append_cancel_right (hloop.split.symm.trans hsplit)
  have hisLoop : header.isLoop = true := Line.isLoop_eq_true_iff.2 ⟨name, operand, hheader⟩
  rw [outline_loop_append hcode hisLoop hloop.continuesBlock hloop.detached] at houtline
  -- what the program with the loop reads
  obtain ⟨q, hq, rfl⟩ := planOf_eq_ok_iff.1 hplan
  rw [houtline, foldlM_read_append_eq_ok_iff] at hq
  obtain ⟨p', hp', hq⟩ := hq
  obtain rfl : p = p' := Except.ok.inj (hfold.symm.trans hp')
  obtain ⟨next, hread, hafter⟩ := foldlM_read_cons_eq_ok_iff.1 hq
  have hfits : Fits limit p.actions := fits_of_foldlM (fits_empty limit) hfold
  obtain ⟨hbody, hcopies⟩ := foldlM_replicate_of_read hheader hcount hfits hread
  -- what the program with the copies reads
  have hlines : ∀ line ∈ (List.replicate count.toNat block).flatten,
      line.isBlank = false → line.isLoop = false := by
    intro line hline hcode
    exact hbody line (List.mem_filter.2 ⟨mem_of_mem_copies hline, by simp [hcode]⟩)
  rw [planOf_eq_ok_iff, unrolledLines, htail _ (detached_dedent_append hloop.detached),
    outline_dedent_append hlines, List.filter_flatten, List.map_replicate]
  exact ⟨q, foldlM_read_append_eq_ok_iff.2 ⟨p, hfold,
    foldlM_read_append_eq_ok_iff.2 ⟨next, hcopies, hafter⟩⟩, rfl⟩

theorem isRaw_of_mem_unrolledLines {program : String}
    (hloop : ReachesLoop limit (Line.ofText program) before header block after count) :
    ∀ line ∈ unrolledLines before block after count, Line.IsRaw line.raw.toList := by
  have hraw : ∀ line ∈ before ++ header :: (block ++ after), Line.IsRaw line.raw.toList := by
    rw [← hloop.split]
    exact fun line => Line.isRaw_of_mem_ofText
  intro line hline
  rcases List.mem_append.1 hline with hline | hline
  · exact hraw line (by simp [hline])
  rcases List.mem_append.1 hline with hline | hline
  · obtain ⟨original, hmem, rfl⟩ := List.mem_map.1 hline
    exact Line.isRaw_dedent (hraw original (by simp [mem_of_mem_copies hmem]))
  · exact hraw line (by simp [hline])

end ReachesLoop

/-- The lines of a text are the lines it was made of, up to their numbers. -/
theorem map_renumber_ofText_textOf {lines : List Line}
    (hraw : ∀ line ∈ lines, Line.IsRaw line.raw.toList) (hne : lines ≠ [])
    (hlength : lines.length < UInt32.size) :
    (Line.ofText (Line.textOf lines)).map (Line.renumber (Line.numberAt lines)) = lines := by
  rw [Line.ofText_textOf hraw hne]
  refine List.ext_getElem (by simp) fun i hi hi' => ?_
  have hplace : (UInt32.ofNat (i + 1)).toNat = i + 1 := UInt32.toNat_ofNat_of_lt' (by omega)
  rw [List.getElem_map, List.getElem_mapIdx, Line.renumber, Line.numberAt, hplace,
    Nat.add_sub_cancel, List.getElem?_eq_getElem hi']
  rfl

/-- A program of no lines has one line without code. -/
theorem planOf_ofText_empty (options : CompilerOptions) :
    planOf (Line.ofText "") options = .ok [] := by
  have hline : Line.ofText "" = [⟨1, ""⟩] := by decide
  have hblank : (Line.mk 1 "").isBlank = true := by decide
  rw [hline, planOf, finish_cons_of_blank hblank, finish_of_next?_eq_none Cursor.next?_nil]
  rfl

end Compile

/-- A loop may be written out.  When a program compiles, the program that has copies of the block in
the place of a loop compiles to the same plan, with each step on the copy of its line. -/
theorem compile_unrolled {program : String} {options : CompilerOptions} {plan : Plan}
    {before block after : List Line} {header : Line} {count : UInt32}
    (hloop : Compile.ReachesLoop options.maxActions (Line.ofText program) before header block after
      count)
    (hplan : compile program options = .ok plan)
    (hlines : (Compile.unrolledLines before block after count).length < UInt32.size - 1) :
    ∃ plan', compile (Line.textOf (Compile.unrolledLines before block after count)) options
        = .ok plan' ∧
      plan'.map (Action.renumber
        (Line.numberAt (Compile.unrolledLines before block after count))) = plan := by
  have hcopies := Compile.planOf_unrolledLines hloop hplan
  have hraw := Compile.isRaw_of_mem_unrolledLines hloop
  generalize Compile.unrolledLines before block after count = lines at hcopies hraw hlines ⊢
  change Compile.planOf lines options = .ok plan at hcopies
  by_cases hne : lines = []
  · subst hne
    refine ⟨[], Compile.planOf_ofText_empty options, ?_⟩
    rw [Compile.planOf, Compile.finish_of_next?_eq_none Cursor.next?_nil] at hcopies
    exact Except.ok.inj hcopies
  · have hnumbers := Compile.map_renumber_ofText_textOf hraw hne (by omega)
    rw [← hnumbers, Compile.planOf_renumber] at hcopies
    cases hplan' : Compile.planOf (Line.ofText (Line.textOf lines)) options with
    | error err => simp [hplan'] at hcopies
    | ok plan' =>
      refine ⟨plan', hplan', ?_⟩
      simpa [hplan'] using hcopies

/-- A loop whose block has a line without code and a comment. -/
def turning : String :=
  "n = 2\n\nfor i in range(n):\n    hero.move_up()\n\n\t# turn\n\thero.move_left(n)\n"
    ++ "hero.move_down()"

theorem compile_unrolled_turning :
    let before : List Line := [⟨1, "n = 2"⟩, ⟨2, ""⟩]
    let header : Line := ⟨3, "for i in range(n):"⟩
    let block : List Line :=
      [⟨4, "    hero.move_up()"⟩, ⟨5, ""⟩, ⟨6, "\t# turn"⟩, ⟨7, "\thero.move_left(n)"⟩]
    let after : List Line := [⟨8, "hero.move_down()"⟩]
    let plan : Plan :=
      [⟨.up, 4⟩, ⟨.left, 7⟩, ⟨.left, 7⟩, ⟨.up, 4⟩, ⟨.left, 7⟩, ⟨.left, 7⟩, ⟨.down, 8⟩]
    Compile.ReachesLoop none (Line.ofText turning) before header block after 2 ∧
    compile turning .unlimited = .ok plan ∧
    ∃ plan', compile (Line.textOf (Compile.unrolledLines before block after 2)) .unlimited
        = .ok plan' ∧
      plan'.map (Action.renumber (Line.numberAt (Compile.unrolledLines before block after 2)))
        = plan := by
  intro before header block after plan
  have hreach : Compile.Reaches none .initial (Line.ofText turning)
      ⟨Symbols.empty.define "n" 2, #[]⟩ (⟨2, ""⟩ :: header :: (block ++ after)) :=
    .step rfl rfl (.refl _ _)
  have hheader : header.statement = .ok (.loop "i" (.reference "n")) := by decide +kernel
  have hloop : Compile.ReachesLoop none (Line.ofText turning) before header block after 2 :=
    ⟨by decide +kernel, by decide +kernel, _, _, _, _, hreach, by decide +kernel, hheader, rfl⟩
  have hplan : compile turning .unlimited = .ok plan := by decide +kernel
  exact ⟨hloop, hplan, compile_unrolled hloop hplan (by decide)⟩

end GridWalk

import GridWalk.Cursor
import GridWalk.Proofs.Indentation

/-! Reading a program by statements and blocks, in any order.  `answers_account` says that the
answers hand out the lines with code one after the other, and that a reader that keeps all lines and
a place among them gives the same answers and never leaves the program. -/

namespace GridWalk

/-- The statement of a line together with the line, or the error that reports the line. -/
def Line.read (line : Line) : Except CompileError (Line × Statement) :=
  match line.statement with
  | .ok statement => .ok (line, statement)
  | .error problem => .error (problem.on line)

namespace Cursor

/-! ### Requests and answers -/

inductive Request where
  | statement
  | block
  deriving DecidableEq, Repr

inductive Answer where
  /-- The next line with code as it is read, or nothing at the end of the program. -/
  | statement (read : Option (Except CompileError (Line × Statement)))
  | block (lines : List Line)

/-- The lines that an answer hands out.  An error gives the number of its line and quotes it. -/
def Answer.lines : Answer → List Line
  | statement none => []
  | statement (some (.ok (line, _))) => [line]
  | statement (some (.error e)) => [⟨e.line, e.sourceLine⟩]
  | block lines => lines

/-- The answer to a request at the end of the program. -/
def Request.atEnd : Request → Answer
  | statement => .statement none
  | block => .block []

/-- One answer and the cursor after it. -/
def answer (cursor : Cursor) : Request → Answer × Cursor
  | .statement =>
    match cursor.next? with
    | some (line, rest) => (.statement (some line.read), rest)
    | none => (.statement none, [])
  | .block => (.block cursor.block, cursor.afterBlock)

/-- The answers to a sequence of requests, and the cursor after the last of them. -/
def answers : Cursor → List Request → List Answer × Cursor
  | cursor, [] => ([], cursor)
  | cursor, request :: requests =>
    let (first, next) := cursor.answer request
    let (others, last) := answers next requests
    (first :: others, last)

variable {cursor rest : Cursor} {line : Line}

theorem lines_read (line : Line) : (Answer.statement (some line.read)).lines = [line] := by
  unfold Line.read
  cases line.statement <;> rfl

/-- Only blank lines are left where there is no next line. -/
theorem filter_of_next?_eq_none (h : cursor.next? = none) : cursor.filter (!·.isBlank) = [] := by
  induction cursor with
  | nil => rfl
  | cons line rest ih =>
    cases hblank : line.isBlank with
    | true =>
      rw [next?_cons_of_blank hblank] at h
      rw [List.filter_cons_of_neg (by simp [hblank]), ih h]
    | false =>
      rw [next?_cons_of_code hblank] at h
      cases h

theorem filter_of_next? (h : cursor.next? = some (line, rest)) :
    cursor.filter (!·.isBlank) = line :: rest.filter (!·.isBlank) := by
  induction cursor with
  | nil => cases h
  | cons first tail ih =>
    cases hblank : first.isBlank with
    | true =>
      rw [next?_cons_of_blank hblank] at h
      rw [List.filter_cons_of_neg (by simp [hblank]), ih h]
    | false =>
      rw [next?_cons_of_code hblank] at h
      obtain ⟨rfl, rfl⟩ : first = line ∧ tail = rest := by simpa using h
      rw [List.filter_cons_of_pos (by simp [hblank])]

/-- One answer takes its lines from the front of the lines with code, and the cursor keeps the
others. -/
theorem lines_answer_append (cursor : Cursor) (request : Request) :
    (cursor.answer request).1.lines ++ (cursor.answer request).2.filter (!·.isBlank)
      = cursor.filter (!·.isBlank) := by
  cases request with
  | statement =>
    cases hnext : cursor.next? with
    | none =>
      simp only [answer, hnext]
      rw [filter_of_next?_eq_none hnext]
      rfl
    | some next =>
      obtain ⟨line, rest⟩ := next
      simp only [answer, hnext]
      rw [lines_read, filter_of_next? hnext, List.singleton_append]
  | block =>
    simp only [answer, Answer.lines, block, afterBlock]
    rw [← List.filter_append, List.takeWhile_append_dropWhile]

/-- No line with code is lost or handed out twice. -/
theorem lines_answers_append (cursor : Cursor) (requests : List Request) :
    (cursor.answers requests).1.flatMap Answer.lines
      ++ (cursor.answers requests).2.filter (!·.isBlank) = cursor.filter (!·.isBlank) := by
  induction requests generalizing cursor with
  | nil => rfl
  | cons request requests ih =>
    simp only [answers]
    rw [List.flatMap_cons, List.append_assoc, ih, lines_answer_append]

theorem answers_append (cursor : Cursor) (first second : List Request) :
    cursor.answers (first ++ second) = ((cursor.answers first).1
        ++ ((cursor.answers first).2.answers second).1,
      ((cursor.answers first).2.answers second).2) := by
  induction first generalizing cursor with
  | nil => rfl
  | cons request first ih =>
    rw [List.cons_append]
    simp only [answers, ih, List.cons_append]

/-- A cursor at the end of the program stays there and answers nothing any more. -/
theorem answers_nil (requests : List Request) :
    answers [] requests = (requests.map Request.atEnd, []) := by
  induction requests with
  | nil => rfl
  | cons request requests ih =>
    have hfirst : answer [] request = (request.atEnd, []) := by cases request <;> rfl
    simp only [answers, hfirst, ih, List.map_cons]

/-- The lines of a block are indented, as blanks do not count. -/
theorem indented_of_mem_block (h : line ∈ cursor.block) :
    line.isIndented = true ∧ line.isBlank = false := by
  obtain ⟨hline, hcode⟩ := List.mem_filter.1 h
  have hcode : line.isBlank = false := by simpa using hcode
  exact ⟨Line.isIndented_of_continuesBlock (List.mem_takeWhile_imp hline) hcode, hcode⟩

theorem exists_block_of_mem_answers {requests : List Request} {lines : List Line}
    (h : Answer.block lines ∈ (cursor.answers requests).1) :
    ∃ later : Cursor, lines = later.block := by
  induction requests generalizing cursor with
  | nil => cases h
  | cons request requests ih =>
    simp only [answers] at h
    rcases List.mem_cons.1 h with hfirst | hothers
    · cases request with
      | statement =>
        simp only [answer] at hfirst
        split at hfirst <;> cases hfirst
      | block => exact ⟨cursor, Answer.block.inj hfirst⟩
    · exact ih hothers

/-- A block ends before a line that is neither indented nor blank throughout. -/
theorem head?_afterBlock (h : line ∈ cursor.afterBlock.head?) :
    line.isIndented = false ∧ ¬ Text.Blanks line.raw.toList := by
  have hstop := List.head?_dropWhile_not Line.continuesBlock cursor
  rw [afterBlock, Option.mem_def] at h
  simp only [h, Line.continuesBlock, Bool.or_eq_false_iff] at hstop
  refine ⟨hstop.1, fun hblanks => ?_⟩
  rw [Text.trim_eq_nil_iff.2 hblanks] at hstop
  cases hstop.2

/-- Without a statement to hand out, the cursor is at the end of the program. -/
theorem answer_eq_statement_none {request : Request}
    (h : (cursor.answer request).1 = .statement none) : (cursor.answer request).2 = [] := by
  cases request with
  | statement =>
    cases hnext : cursor.next? with
    | none => simp only [answer, hnext]
    | some next => simp [answer, hnext] at h
  | block => cases h

theorem head?_of_getLast?_eq_block {requests : List Request}
    (h : requests.getLast? = some .block) (hline : line ∈ (cursor.answers requests).2.head?) :
    line.isIndented = false ∧ ¬ Text.Blanks line.raw.toList := by
  obtain ⟨before, rfl⟩ := List.getLast?_eq_some_iff.1 h
  rw [answers_append] at hline
  exact head?_afterBlock hline

theorem eq_nil_of_getLast?_eq_none {requests : List Request}
    (h : (cursor.answers requests).1.getLast? = some (.statement none)) :
    (cursor.answers requests).2 = [] := by
  rcases List.eq_nil_or_concat requests with rfl | ⟨before, request, rfl⟩
  · cases h
  · rw [List.concat_eq_append, answers_append] at h ⊢
    rw [List.getLast?_append] at h
    exact answer_eq_statement_none (Option.some.inj h)

end Cursor

/-! ### Reading by place -/

/-- All lines of a program and the place of the first that is not read yet. -/
structure Reader where
  lines : List Line
  place : Nat

namespace Reader

open Cursor (Request Answer)

/-- The lines from one place to another, unless these places are out of order or out of range. -/
def slice? (lines : List Line) (start stop : Nat) : Option (List Line) :=
  if start ≤ stop ∧ stop ≤ lines.length then some ((lines.drop start).take (stop - start)) else none

/-- The next line with code, read at its place. -/
def statement (r : Reader) : Option (Except CompileError (Line × Statement)) × Reader :=
  match h : r.lines[r.place]? with
  | none => (none, r)
  | some line =>
    have := (List.getElem?_eq_some_iff.1 h).1
    if line.isBlank then statement { r with place := r.place + 1 }
    else (some line.read, { r with place := r.place + 1 })
termination_by r.lines.length - r.place

/-- The block at the place of the reader, which is measured first and then cut out. -/
def block? (r : Reader) : Option (List Line × Reader) := do
  let unread ← slice? r.lines r.place r.lines.length
  let stop := r.place + (unread.takeWhile Line.continuesBlock).length
  let block ← slice? r.lines r.place stop
  return (block.filter (!·.isBlank), { r with place := stop })

def answer? (r : Reader) : Request → Option (Answer × Reader)
  | .statement => some (.statement r.statement.1, r.statement.2)
  | .block => r.block?.map fun (lines, next) => (.block lines, next)

def answers? : Reader → List Request → Option (List Answer × Reader)
  | r, [] => some ([], r)
  | r, request :: requests => do
    let (first, next) ← r.answer? request
    let (others, last) ← answers? next requests
    return (first :: others, last)

variable {r : Reader}

/-- The lines that are left. -/
def unread (r : Reader) : Cursor := r.lines.drop r.place

/-- The reader has moved on among the same lines and has not left them. -/
structure Onward (r later : Reader) : Prop where
  lines : later.lines = r.lines
  place_le : r.place ≤ later.place
  inside : later.place ≤ later.lines.length

theorem Onward.trans {later last : Reader} (h : Onward r later) (h' : Onward later last) :
    Onward r last :=
  ⟨h'.lines.trans h.lines, Nat.le_trans h.place_le h'.place_le, h'.inside⟩

theorem statement_of_getElem?_eq_none (h : r.lines[r.place]? = none) : r.statement = (none, r) := by
  rw [statement]
  split
  · rfl
  next h' => cases h.symm.trans h'

theorem statement_of_blank {line : Line} (h : r.lines[r.place]? = some line)
    (hblank : line.isBlank = true) :
    r.statement = Reader.statement { r with place := r.place + 1 } := by
  rw [statement]
  split
  next h' => cases h.symm.trans h'
  next h' =>
    obtain rfl := Option.some.inj (h.symm.trans h')
    exact if_pos hblank

theorem statement_of_code {line : Line} (h : r.lines[r.place]? = some line)
    (hcode : line.isBlank = false) :
    r.statement = (some line.read, { r with place := r.place + 1 }) := by
  rw [statement]
  split
  next h' => cases h.symm.trans h'
  next h' =>
    obtain rfl := Option.some.inj (h.symm.trans h')
    exact if_neg (by simp [hcode])

theorem unread_of_getElem? {line : Line} (h : r.lines[r.place]? = some line) :
    r.unread = line :: Reader.unread { r with place := r.place + 1 } := by
  obtain ⟨hplace, rfl⟩ := List.getElem?_eq_some_iff.1 h
  exact List.drop_eq_getElem_cons hplace

theorem statement_eq_answer (hr : r.place ≤ r.lines.length) :
    Answer.statement r.statement.1 = (r.unread.answer .statement).1 ∧
    r.statement.2.unread = (r.unread.answer .statement).2 ∧ Onward r r.statement.2 := by
  induction r using Reader.statement.induct with
  | case1 r hend =>
    have hunread : r.unread = [] := List.drop_eq_nil_iff.2 (List.getElem?_eq_none_iff.1 hend)
    rw [statement_of_getElem?_eq_none hend, hunread]
    exact ⟨rfl, rfl, rfl, Nat.le_refl _, hr⟩
  | case2 r line hline hplace hblank ih =>
    have hanswer : r.unread.answer .statement
        = (Reader.unread { r with place := r.place + 1 }).answer .statement := by
      rw [unread_of_getElem? hline]
      simp only [Cursor.answer, Cursor.next?_cons_of_blank hblank]
    obtain ⟨hfirst, hnext, honward⟩ := ih hplace
    rw [statement_of_blank hline hblank, hanswer]
    exact ⟨hfirst, hnext, honward.lines, Nat.le_trans (Nat.le_succ _) honward.place_le,
      honward.inside⟩
  | case3 r line hline hplace hcode =>
    have hcode : line.isBlank = false := Bool.eq_false_iff.2 hcode
    rw [statement_of_code hline hcode, unread_of_getElem? hline]
    simp only [Cursor.answer, Cursor.next?_cons_of_code hcode]
    exact ⟨trivial, trivial, rfl, Nat.le_succ _, hplace⟩

theorem block?_eq (hr : r.place ≤ r.lines.length) :
    ∃ later, r.block? = some (r.unread.block, later) ∧ later.unread = r.unread.afterBlock ∧
      Onward r later := by
  have hall : slice? r.lines r.place r.lines.length = some r.unread := by
    rw [slice?, if_pos ⟨hr, Nat.le_refl _⟩, List.take_of_length_le (by simp)]
    rfl
  have hparts : r.unread.takeWhile Line.continuesBlock ++ r.unread.afterBlock = r.unread :=
    List.takeWhile_append_dropWhile
  have hlength : r.place + (r.unread.takeWhile Line.continuesBlock).length ≤ r.lines.length := by
    have hle := (List.takeWhile_sublist (l := r.unread) Line.continuesBlock).length_le
    have hleft : r.unread.length = r.lines.length - r.place := List.length_drop
    omega
  have hblock : slice? r.lines r.place
      (r.place + (r.unread.takeWhile Line.continuesBlock).length)
        = some (r.unread.takeWhile Line.continuesBlock) := by
    rw [slice?, if_pos ⟨by omega, hlength⟩, Nat.add_sub_cancel_left]
    exact congrArg some (List.prefix_iff_eq_take.1 (List.takeWhile_prefix _)).symm
  refine ⟨{ r with place := r.place + (r.unread.takeWhile Line.continuesBlock).length }, ?_, ?_,
    rfl, Nat.le_add_right _ _, hlength⟩
  · simp [block?, hall, hblock, Cursor.block]
  · have hdrop : r.unread.drop (r.unread.takeWhile Line.continuesBlock).length
        = r.unread.afterBlock := by
      have hleft := congrArg (List.drop (r.unread.takeWhile Line.continuesBlock).length) hparts
      rw [← hleft, List.drop_left]
    rw [← hdrop, unread, unread, List.drop_drop]

theorem answer?_eq (hr : r.place ≤ r.lines.length) (request : Request) :
    ∃ later, r.answer? request = some ((r.unread.answer request).1, later) ∧
      later.unread = (r.unread.answer request).2 ∧ Onward r later := by
  cases request with
  | statement =>
    obtain ⟨hanswer, hlater, honward⟩ := statement_eq_answer hr
    exact ⟨r.statement.2, by rw [answer?, hanswer], hlater, honward⟩
  | block =>
    obtain ⟨later, hblock, hlater, honward⟩ := block?_eq hr
    exact ⟨later, by rw [answer?, hblock]; rfl, hlater, honward⟩

/-- Reading by place gives the answers of the cursor, and all places stay in range. -/
theorem answers?_eq (hr : r.place ≤ r.lines.length) (requests : List Request) :
    ∃ last, r.answers? requests = some ((r.unread.answers requests).1, last) ∧
      last.unread = (r.unread.answers requests).2 ∧ Onward r last := by
  induction requests generalizing r with
  | nil => exact ⟨r, rfl, rfl, rfl, Nat.le_refl _, hr⟩
  | cons request requests ih =>
    obtain ⟨later, hfirst, hlater, honward⟩ := answer?_eq hr request
    obtain ⟨last, hothers, hlast, honward'⟩ := ih honward.inside
    refine ⟨last, ?_, ?_, honward.trans honward'⟩
    · simp [answers?, hfirst, hothers, hlater, Cursor.answers]
    · rw [hlast, hlater]
      rfl

end Reader

/-! ### The account of the answers -/

namespace Cursor

/-- What is true of the answers to a sequence of requests, of the cursor after them, and of a reader
of the same lines. -/
structure Account (lines : List Line) (requests : List Request) (given : List Answer)
    (cursor : Cursor) : Prop where
  handed_out : given.flatMap Answer.lines <+: lines.filter (!·.isBlank)
  /-- Each line has the number of its place, which counts from 1. -/
  numbered : ∀ line ∈ given.flatMap Answer.lines, lines[line.number.toNat - 1]? = some line
  in_block : ∀ block, .block block ∈ given → ∀ line ∈ block,
    line.isIndented = true ∧ line.isBlank = false
  after_block : requests.getLast? = some .block → ∀ line ∈ cursor.head?,
    line.isIndented = false ∧ ¬ Text.Blanks line.raw.toList
  /-- There is no next statement only at the end of the program, and that is where it stays. -/
  at_end : given.getLast? = some (.statement none) →
    given.flatMap Answer.lines = lines.filter (!·.isBlank) ∧
    ∀ more, cursor.answers more = (more.map Request.atEnd, cursor)
  by_place : ∃ reader : Reader, Reader.answers? ⟨lines, 0⟩ requests = some (given, reader) ∧
    reader.lines = lines ∧ reader.place ≤ lines.length ∧ cursor = lines.drop reader.place

end Cursor

/-- Reading a program by statements and blocks loses no line with code and repeats none, in whatever
order they are asked for. -/
theorem answers_account {program : String}
    (hlines : (Line.ofText program).length < UInt32.size - 1) (requests : List Cursor.Request) :
    Cursor.Account (Line.ofText program) requests
      (Cursor.answers (Line.ofText program) requests).1
      (Cursor.answers (Line.ofText program) requests).2 := by
  have hwhole := Cursor.lines_answers_append (Line.ofText program) requests
  have hread := List.prefix_append ((Cursor.answers (Line.ofText program) requests).1.flatMap
    Cursor.Answer.lines) ((Cursor.answers (Line.ofText program) requests).2.filter (!·.isBlank))
  rw [hwhole] at hread
  obtain ⟨reader, hreader, hunread, honward⟩ :=
    Reader.answers?_eq (r := ⟨Line.ofText program, 0⟩) (Nat.zero_le _) requests
  have hsame : reader.lines = Line.ofText program := honward.lines
  have hinside := honward.inside
  rw [Reader.unread, hsame] at hunread
  rw [hsame] at hinside
  refine ⟨hread, fun line hline => ?_, fun block hblock line hline => ?_,
    fun hlast line => Cursor.head?_of_getLast?_eq_block hlast, fun hend => ?_,
    reader, hreader, hsame, hinside, hunread.symm⟩
  · exact Line.getElem?_number_of_mem_ofText (by omega)
      (List.mem_of_mem_filter (hread.subset hline))
  · obtain ⟨later, rfl⟩ := Cursor.exists_block_of_mem_answers hblock
    exact Cursor.indented_of_mem_block hline
  · rw [Cursor.eq_nil_of_getLast?_eq_none hend] at hwhole ⊢
    exact ⟨by simpa using hwhole, Cursor.answers_nil⟩

/-- A program that begins with a block and ends in a line that cannot be read. -/
def interrupted : String :=
  "    hero.move_up()\n\nfor i in range(2):\n\t# turn\n    hero.move_left()\n# end\nx = 1 2"

theorem answers_account_interrupted :
    let requests : List Cursor.Request := [.block, .statement, .block, .statement, .statement]
    let answers := Cursor.answers (Line.ofText interrupted) requests
    (Line.ofText interrupted).length < UInt32.size - 1 ∧
    (answers.1.flatMap Cursor.Answer.lines).map Line.number = [1, 3, 5, 7] ∧
    Cursor.Account (Line.ofText interrupted) requests answers.1 answers.2 := by
  intro requests answers
  have hlines : (Line.ofText interrupted).length < UInt32.size - 1 := by decide +kernel
  exact ⟨hlines, by decide +kernel, answers_account hlines requests⟩

end GridWalk

import GridWalk.Proofs.Compile.Definitions
import GridWalk.Proofs.Compile.Failure
import GridWalk.Proofs.Compile.Renumber
import GridWalk.Proofs.Indentation

/-! Programs one after the other.  A program hands the values of its variables to the lines after it
and nothing else.  `compile_followedBy` says that these lines compile as they do after one line
`name=value` for each variable, further on in the text and with the steps of the program before
them. -/

namespace GridWalk

/-- The step is the same, for a line whose number is greater by `offset`. -/
structure Action.Moved (offset : Int) (a a' : Action) : Prop where
  direction : a'.direction = a.direction
  line : (a'.line.toNat : Int) = a.line.toNat + offset

/-- The error is the same, for a line whose number is greater by `offset`. -/
structure CompileError.Moved (offset : Int) (e e' : CompileError) : Prop where
  code : e'.code = e.code
  category : e'.category = e.category
  message : e'.message = e.message
  line : (e'.line.toNat : Int) = e.line.toNat + offset
  sourceLine : e'.sourceLine = e.sourceLine
  suggestion : e'.suggestion = e.suggestion

namespace Compile

/-! ### Tables that agree -/

section Agree

variable {s t : Symbols}

theorem resolve_congr (h : s.Agree t) (operand : Operand) :
    resolve s operand = resolve t operand := by
  cases operand with
  | literal value => rfl
  | reference name => rw [resolve, resolve, h name]

theorem resolveSteps_congr (h : s.Agree t) (steps : Option Operand) :
    resolveSteps s steps = resolveSteps t steps := by
  cases steps with
  | none => rfl
  | some operand => exact resolve_congr h operand

theorem bodyMove_congr (h : s.Agree t) (line : Line) : bodyMove s line = bodyMove t line := by
  simp only [bodyMove, resolveSteps_congr h]

theorem bodyMoves_congr (h : s.Agree t) (body : List Line) :
    bodyMoves s body = bodyMoves t body := by
  induction body with
  | nil => rfl
  | cons line body ih => rw [bodyMoves, bodyMoves, bodyMove_congr h, ih]

/-- With tables that agree, an entry asks for the same and leaves tables that agree. -/
theorem Entry.moves_agree (h : s.Agree t) (e : Entry) :
    (∃ err, e.moves s = .error err ∧ e.moves t = .error err) ∨
    ∃ s' t' moves, e.moves s = .ok (s', moves) ∧ e.moves t = .ok (t', moves) ∧ s'.Agree t' := by
  simp only [Entry.moves, resolve_congr h, resolveSteps_congr h, bodyMoves_congr h]
  cases e.line.statement with
  | error problem => exact .inl ⟨problem.on e.line, rfl, rfl⟩
  | ok statement =>
    cases statement with
    | assignment name operand =>
      dsimp only
      cases resolve t operand with
      | error problem => exact .inl ⟨problem.on e.line, rfl, rfl⟩
      | ok value =>
        exact .inr ⟨s.define name value, t.define name value, [], rfl, rfl, h.define name value⟩
    | move direction steps =>
      dsimp only
      cases resolveSteps t steps with
      | error problem => exact .inl ⟨problem.on e.line, rfl, rfl⟩
      | ok count => exact .inr ⟨s, t, [⟨direction, count, e.line⟩], rfl, rfl, h⟩
    | loop name operand =>
      dsimp only
      cases resolve t operand with
      | error problem => exact .inl ⟨problem.on e.line, rfl, rfl⟩
      | ok count =>
        cases bodyMoves t e.body with
        | error err => exact .inl ⟨err, rfl, rfl⟩
        | ok moves => exact .inr ⟨s, t, Entry.repeated moves count, rfl, rfl, h⟩
    | unsupported => exact .inl ⟨(Problem.unrecognized e.line.code).on e.line, rfl, rfl⟩

/-- The second result is the first with the steps `before` made ahead of it. -/
inductive Continued (before : Array Action) :
    Except CompileError Progress → Except CompileError Progress → Prop
  | ok {p q : Progress} (symbols : p.symbols.Agree q.symbols)
      (actions : q.actions = before ++ p.actions) : Continued before (.ok p) (.ok q)
  | error (err : CompileError) : Continued before (.error err) (.error err)

theorem Entry.read_continued {before : Array Action} {p q : Progress}
    (h : Continued before (.ok p) (.ok q)) (e : Entry) :
    Continued before (e.read none p) (e.read none q) := by
  cases h with
  | ok symbols actions =>
    rcases e.moves_agree symbols with ⟨err, hp, hq⟩ | ⟨s, t, moves, hp, hq, hagree⟩
    · rw [Entry.read, Entry.read, hp, hq]
      exact .error err
    · rw [Entry.read_none hp, Entry.read_none hq]
      exact .ok hagree (by rw [actions, Array.append_assoc])

theorem foldlM_continued {before : Array Action} {p q : Progress}
    (h : Continued before (.ok p) (.ok q)) (entries : List Entry) :
    Continued before (entries.foldlM (Entry.read none) p)
      (entries.foldlM (Entry.read none) q) := by
  induction entries generalizing p q with
  | nil => exact h
  | cons e entries ih =>
    have hread := Entry.read_continued h e
    rw [List.foldlM_cons, List.foldlM_cons]
    generalize e.read none p = first, e.read none q = second at hread ⊢
    cases hread with
    | ok symbols actions => exact ih (.ok symbols actions)
    | error err => exact .error err

end Agree

/-! ### Lines further on -/

/-- The number after `start'` lines of the line that has the given one after `start` lines.  The
difference is taken modulo `2 ^ 32`, so the line may be moved either way. -/
def shift (start start' : Nat) (number : UInt32) : UInt32 :=
  number + (.ofNat start' - .ofNat start)

section Shift

variable {start start' : Nat} {raws : List (List Char)}

theorem numberedFrom_eq_map_shift (start start' : Nat) (raws : List (List Char)) :
    Line.numberedFrom start' raws
      = (Line.numberedFrom start raws).map (Line.renumber (shift start start')) := by
  refine List.ext_getElem (by simp) fun i hi hi' => ?_
  have hnumber : UInt32.ofNat (start' + i + 1) = shift start start' (.ofNat (start + i + 1)) := by
    simp only [shift, UInt32.ofNat_add]
    grind
  simp only [Line.numberedFrom, List.getElem_map, List.getElem_mapIdx, Line.renumber, hnumber]

theorem toNat_shift {number : UInt32} {count : Nat} (hnumber : start < number.toNat)
    (hlast : number.toNat ≤ start + count) (hstart' : start' + count < UInt32.size) :
    ((shift start start' number).toNat : Int) = number.toNat + (start' - start) := by
  have hsize := number.toNat_lt_size
  simp only [shift, UInt32.toNat_add, UInt32.toNat_sub, UInt32.toNat_ofNat', UInt32.size]
    at hsize hstart' ⊢
  omega

end Shift

/-! ### A program and the lines after it -/

/-- The program of the lines of two programs. -/
def followedBy (program next : String) : String := program ++ "\n" ++ next

/-- The first line that is not blank throughout, if there is one, is not indented. -/
def OpensUnindented (program : String) : Prop :=
  ∀ line ∈ (Line.ofText program).find? fun line => !(Text.trim line.raw.toList).isEmpty,
    line.isIndented = false

theorem detached_of_find? {lines : List Line}
    (h : ∀ line ∈ lines.find? fun line => !(Text.trim line.raw.toList).isEmpty,
      line.isIndented = false) : Detached lines := by
  induction lines with
  | nil => exact nofun
  | cons line lines ih =>
    rw [detached_cons_iff]
    intro hcontinues
    cases hblank : (Text.trim line.raw.toList).isEmpty with
    | true =>
      rw [List.find?_cons_of_neg (by simp [hblank])] at h
      exact ⟨Line.isBlank_of_trim_isEmpty hblank, ih h⟩
    | false =>
      rw [List.find?_cons_of_pos (by simp [hblank])] at h
      rw [Line.continuesBlock, h line rfl, hblank] at hcontinues
      cases hcontinues

theorem Detached.renumber {lines : List Line} (h : Detached lines) (f : UInt32 → UInt32) :
    Detached (lines.map (Line.renumber f)) := by
  induction lines with
  | nil => exact h
  | cons line lines ih =>
    rw [detached_cons_iff] at h
    rw [List.map_cons, detached_cons_iff]
    exact fun hcontinues => ⟨(h hcontinues).1, ih (h hcontinues).2⟩

section Followed

variable {program next : String} {plan : Plan} {bindings : List (String × UInt32)}

theorem ofText_followedBy (program next : String) :
    Line.ofText (followedBy program next)
      = Line.ofText program
        ++ Line.numberedFrom (Line.ofText program).length (Line.rawLines next.toList) := by
  have hraws : Line.rawLines (followedBy program next).toList
      = Line.rawLines program.toList ++ Line.rawLines next.toList := by
    rw [← Line.rawLines_append_feed]
    simp [followedBy]
  rw [Line.ofText_eq_numberedFrom, Line.ofText_eq_numberedFrom program, hraws,
    Line.numberedFrom_append, Nat.zero_add, Line.length_numberedFrom]

theorem ofText_withDefinitions (h : ∀ b ∈ bindings, Text.Name b.1.toList) (next : String) :
    Line.ofText (withDefinitions bindings next)
      = Line.numberedFrom 0 (bindings.map fun b => (definition b).toList)
        ++ Line.numberedFrom bindings.length (Line.rawLines next.toList) := by
  rw [Line.ofText_eq_numberedFrom, rawLines_withDefinitions h, Line.numberedFrom_append,
    Nat.zero_add, List.length_map]

theorem OpensUnindented.detached (h : OpensUnindented next) (start : Nat) :
    Detached (Line.numberedFrom start (Line.rawLines next.toList)) := by
  rw [numberedFrom_eq_map_shift 0, ← Line.ofText_eq_numberedFrom]
  exact (detached_of_find? h).renumber _

theorem read_followedBy {symbols : Symbols} (hnext : OpensUnindented next)
    (hprogram : (outline (Line.ofText program)).foldlM (Entry.read none) .initial
      = .ok ⟨symbols, plan.toArray⟩) :
    (outline (Line.ofText (followedBy program next))).foldlM (Entry.read none) .initial
      = (outline (Line.numberedFrom (Line.ofText program).length
          (Line.rawLines next.toList))).foldlM (Entry.read none) ⟨symbols, plan.toArray⟩ := by
  rw [ofText_followedBy, outline_append (hnext.detached _), List.foldlM_append, hprogram]
  rfl

theorem read_withDefinitions (hnext : OpensUnindented next)
    (hnames : ∀ b ∈ bindings, Text.Name b.1.toList) :
    (outline (Line.ofText (withDefinitions bindings next))).foldlM (Entry.read none) .initial
      = (outline (Line.numberedFrom bindings.length (Line.rawLines next.toList))).foldlM
        (Entry.read none) ⟨Symbols.empty.defineAll bindings, #[]⟩ := by
  rw [ofText_withDefinitions hnames, outline_append (hnext.detached _), List.foldlM_append,
    Progress.initial, foldlM_definitions hnames]
  rfl

/-- After a program, lines are read as they are after its definitions. -/
theorem continued_followedBy (hplan : compile program .unlimited = .ok plan)
    (hdefinitions : Definitions program bindings) (hnext : OpensUnindented next) :
    Continued plan.toArray
      (renumbered (shift bindings.length (Line.ofText program).length)
        (Progress.renumber (shift bindings.length (Line.ofText program).length))
        ((outline (Line.ofText (withDefinitions bindings next))).foldlM (Entry.read none) .initial))
      ((outline (Line.ofText (followedBy program next))).foldlM (Entry.read none) .initial) := by
  obtain ⟨symbols, hprogram, htracks⟩ := exists_end hplan
  -- both read the same lines, up to the numbers and to tables that agree
  have hlines := numberedFrom_eq_map_shift bindings.length (Line.ofText program).length
    (Line.rawLines next.toList)
  rw [read_withDefinitions hnext hdefinitions.name, read_followedBy hnext hprogram, hlines,
    outline_renumber, ← foldlM_renumber]
  exact foldlM_continued (.ok (hdefinitions.agree htracks) (by simp [Progress.renumber])) _

theorem compile_followedBy_of_ok (hplan : compile program .unlimited = .ok plan)
    (hdefinitions : Definitions program bindings) (hnext : OpensUnindented next) {later : Plan}
    (h : compile (withDefinitions bindings next) .unlimited = .ok later) :
    compile (followedBy program next) .unlimited = .ok (plan ++
      later.map (Action.renumber (shift bindings.length (Line.ofText program).length))) := by
  have hcontinued := continued_followedBy hplan hdefinitions hnext
  obtain ⟨q, hq, rfl⟩ := planOf_eq_ok_iff.1 h
  rw [hq, renumbered_ok] at hcontinued
  generalize hread : (outline (Line.ofText (followedBy program next))).foldlM (Entry.read none)
    .initial = result at hcontinued
  cases hcontinued with
  | @ok _ q' symbols actions =>
    refine planOf_eq_ok_iff.2 ⟨q', hread, ?_⟩
    simp [actions, Progress.renumber]

theorem compile_followedBy_of_error (hplan : compile program .unlimited = .ok plan)
    (hdefinitions : Definitions program bindings) (hnext : OpensUnindented next)
    {err : CompileError} (h : compile (withDefinitions bindings next) .unlimited = .error err) :
    compile (followedBy program next) .unlimited
      = .error (err.renumber (shift bindings.length (Line.ofText program).length)) := by
  have hcontinued := continued_followedBy hplan hdefinitions hnext
  rw [planOf_eq_error_iff.1 h, renumbered_error] at hcontinued
  generalize hread : (outline (Line.ofText (followedBy program next))).foldlM (Entry.read none)
    .initial = result at hcontinued
  cases hcontinued with
  | error => exact planOf_eq_error_iff.2 hread

end Followed

/-! ### The numbers of the lines after a program -/

section Numbers

variable {start start' : Nat} {raws : List (List Char)} {next : String}
  {bindings : List (String × UInt32)}

theorem number_of_step {symbols : Symbols} {q : Progress}
    (hstart : start + raws.length < UInt32.size)
    (h : (outline (Line.numberedFrom start raws)).foldlM (Entry.read none) ⟨symbols, #[]⟩ = .ok q) :
    ∀ a ∈ q.actions.toList, start < a.line.toNat ∧ a.line.toNat ≤ start + raws.length := by
  intro a ha
  rcases line_of_foldlM_ok h a ha with hnone | ⟨line, hline, hnumber, -⟩
  · cases hnone
  · rw [hnumber]
    exact Line.toNat_number_of_mem_numberedFrom hstart ((outline_sublist _).subset hline)

theorem number_of_error {p : Progress} {err : CompileError}
    (hstart : start + raws.length < UInt32.size)
    (h : (outline (Line.numberedFrom start raws)).foldlM (Entry.read none) p = .error err) :
    start < err.line.toNat ∧ err.line.toNat ≤ start + raws.length := by
  obtain ⟨line, hline, hnumber⟩ := line_of_outline_error h
  rw [hnumber]
  exact Line.toNat_number_of_mem_numberedFrom hstart hline

theorem moved_of_ok (hnext : OpensUnindented next)
    (hnames : ∀ b ∈ bindings, Text.Name b.1.toList)
    (hbefore : bindings.length + (Line.rawLines next.toList).length < UInt32.size)
    (hafter : start' + (Line.rawLines next.toList).length < UInt32.size) {later : Plan}
    (h : compile (withDefinitions bindings next) .unlimited = .ok later) :
    List.Forall₂ (Action.Moved (start' - bindings.length)) later
      (later.map (Action.renumber (shift bindings.length start'))) := by
  obtain ⟨q, hq, rfl⟩ := planOf_eq_ok_iff.1 h
  rw [read_withDefinitions hnext hnames] at hq
  rw [List.forall₂_map_right_iff, List.forall₂_same]
  intro a ha
  obtain ⟨hlow, hhigh⟩ := number_of_step hbefore hq a ha
  exact ⟨rfl, toNat_shift hlow hhigh hafter⟩

theorem moved_of_error (hnext : OpensUnindented next)
    (hnames : ∀ b ∈ bindings, Text.Name b.1.toList)
    (hbefore : bindings.length + (Line.rawLines next.toList).length < UInt32.size)
    (hafter : start' + (Line.rawLines next.toList).length < UInt32.size) {err : CompileError}
    (h : compile (withDefinitions bindings next) .unlimited = .error err) :
    err.Moved (start' - bindings.length) (err.renumber (shift bindings.length start')) := by
  have hread := planOf_eq_error_iff.1 h
  rw [read_withDefinitions hnext hnames] at hread
  obtain ⟨hlow, hhigh⟩ := number_of_error hbefore hread
  exact ⟨rfl, rfl, rfl, toNat_shift hlow hhigh hafter, rfl, rfl⟩

end Numbers

/-- Programs compose through their variables only.  After a program, lines compile to what they
compile to after the definitions of its variables.  They stand further on by the difference of the
lines before them. -/
theorem compile_followedBy {program next : String} {plan : Plan}
    (hplan : compile program .unlimited = .ok plan) (hnext : OpensUnindented next)
    (hlines : (Line.ofText (followedBy program next)).length < UInt32.size - 1) :
    (∃ bindings, Definitions program bindings) ∧
    (∀ bindings, Definitions program bindings →
      (Line.ofText (withDefinitions bindings next)).length < UInt32.size - 1 →
      let offset : Int := (Line.ofText program).length - bindings.length
      (∀ later, compile (withDefinitions bindings next) .unlimited = .ok later →
        ∃ moved, List.Forall₂ (Action.Moved offset) later moved ∧
          compile (followedBy program next) .unlimited = .ok (plan ++ moved)) ∧
      ∀ err, compile (withDefinitions bindings next) .unlimited = .error err →
        ∃ moved, err.Moved offset moved ∧
          compile (followedBy program next) .unlimited = .error moved) ∧
    (∀ whole, compile (followedBy program next) .unlimited = .ok whole → plan <+: whole) ∧
    ∀ err, compile (followedBy program next) .unlimited = .error err →
      (Line.ofText program).length < err.line.toNat := by
  rw [ofText_followedBy, List.length_append, Line.length_numberedFrom] at hlines
  obtain ⟨symbols, hprogram, htracks⟩ := exists_end hplan
  have hknown := definitions_of_end hprogram htracks
  refine ⟨⟨_, hknown⟩, fun bindings hdefinitions hrestarted => ?_, fun whole hwhole => ?_,
    fun err herr => ?_⟩
  · have hnames := hdefinitions.name
    rw [ofText_withDefinitions hnames, List.length_append, Line.length_numberedFrom,
      Line.length_numberedFrom, List.length_map] at hrestarted
    refine ⟨fun later hlater => ?_, fun err herr => ?_⟩
    · exact ⟨_, moved_of_ok hnext hnames (by omega) (by omega) hlater,
        compile_followedBy_of_ok hplan hdefinitions hnext hlater⟩
    · exact ⟨_, moved_of_error hnext hnames (by omega) (by omega) herr,
        compile_followedBy_of_error hplan hdefinitions hnext herr⟩
  · cases hlater : compile (withDefinitions symbols.bindings next) .unlimited with
    | ok later =>
      rw [compile_followedBy_of_ok hplan hknown hnext hlater] at hwhole
      obtain rfl := Except.ok.inj hwhole
      exact List.prefix_append plan _
    | error err =>
      rw [compile_followedBy_of_error hplan hknown hnext hlater] at hwhole
      cases hwhole
  · have hread := planOf_eq_error_iff.1 herr
    rw [read_followedBy hnext hprogram] at hread
    exact (number_of_error (by omega) hread).1

/-- A program that ends in the block of a loop and has given a variable two values. -/
def climbing : String := "n = 2\nm = n\nn = 3\nfor i in range(m):\n    hero.move_up()"

/-- Lines of which the first two belong to a block that stands before them. -/
def sideways : String := "\n  \nhero.move_left(n)"

theorem compile_followedBy_climbing :
    let plan : Plan := [⟨.up, 5⟩, ⟨.up, 5⟩]
    let bindings : List (String × UInt32) := [("n", 3), ("m", 2)]
    let later : Plan := [⟨.left, 5⟩, ⟨.left, 5⟩, ⟨.left, 5⟩]
    compile climbing .unlimited = .ok plan ∧ OpensUnindented sideways ∧
    (Line.ofText (followedBy climbing sideways)).length < UInt32.size - 1 ∧
    Definitions climbing bindings ∧
    (Line.ofText (withDefinitions bindings sideways)).length < UInt32.size - 1 ∧
    compile (withDefinitions bindings sideways) .unlimited = .ok later ∧
    ∃ moved, List.Forall₂ (Action.Moved ((Line.ofText climbing).length - bindings.length)) later
        moved ∧
      compile (followedBy climbing sideways) .unlimited = .ok (plan ++ moved) := by
  intro plan bindings later
  have hplan : compile climbing .unlimited = .ok plan := by decide +kernel
  have hnext : OpensUnindented sideways := by
    unfold OpensUnindented
    decide +kernel
  have hlines : (Line.ofText (followedBy climbing sideways)).length < UInt32.size - 1 := by
    decide +kernel
  have hdefinitions : Definitions climbing bindings := by
    obtain ⟨symbols, hread, htracks⟩ := exists_end hplan
    have hbindings : ((outline (Line.ofText climbing)).foldlM (Entry.read none) .initial).map
        (·.symbols.bindings) = .ok bindings := by decide +kernel
    rw [hread] at hbindings
    exact Except.ok.inj hbindings ▸ definitions_of_end hread htracks
  have hrestarted : (Line.ofText (withDefinitions bindings sideways)).length < UInt32.size - 1 := by
    decide +kernel
  have hlater : compile (withDefinitions bindings sideways) .unlimited = .ok later := by
    decide +kernel
  have hcomposed := (compile_followedBy hplan hnext hlines).2.1 bindings hdefinitions hrestarted
  exact ⟨hplan, hnext, hlines, hdefinitions, hrestarted, hlater, hcomposed.1 later hlater⟩

end Compile

end GridWalk

import GridWalk.Proofs.Compile.Replacement
import GridWalk.Proofs.Statement.Grammar

/-! The variable of a loop.  No statement can refer to it, no message names it, and no other part of
its line is read differently for it.  So a loop line can name any variable, and only the text that
an error on that line quotes shows which. -/

namespace GridWalk

/-- The results are the same, or both are the same error on a line of which the first quotes what
`line` holds and the second what `line'` holds. -/
inductive Quotes (line line' : Line) : Except CompileError Plan → Except CompileError Plan → Prop
  | same (x : Except CompileError Plan) : Quotes line line' x x
  | here {e : CompileError} (number : e.line = line.number) (quote : e.sourceLine = line.raw) :
      Quotes line line' (.error e) (.error { e with sourceLine := line'.raw })

/-! ### Marking a line -/

namespace Line

variable {lines : List Line} {line line' mark : Line} {i : Nat}

theorem map_substitute_set (hmark : mark ∉ lines) (hi : i < lines.length) :
    (lines.set i mark).map (substitute mark line') = lines.set i line' := by
  have honce : ∀ j, (lines.set i mark)[j]? = some mark → j = i := by
    intro j hj
    by_contra hne
    rw [List.getElem?_set_ne (Ne.symm hne)] at hj
    exact hmark (List.mem_of_getElem? hj)
  rw [map_substitute_of_once (List.getElem?_set_self hi) honce, List.set_set]

theorem Alike.of_code_eq (hcode : mark.code = line.code) (h : Alike line line') :
    Alike mark line' := by
  cases h with
  | code code => exact .code (code.trans hcode.symm)
  | loop hs hs' => exact .loop ((statement_eq_of_code_eq hcode).trans hs) hs'
  | error hs hs' => exact .error ((statement_eq_of_code_eq hcode).trans hs) hs'

/-- The line with a carriage return at its end, which no line of a text has. -/
def marked (line : Line) : Line := { line with raw := line.raw ++ "\r" }

theorem toList_raw_marked (line : Line) : line.marked.raw.toList = line.raw.toList ++ ['\r'] := by
  simp [marked]

theorem code_marked (line : Line) : line.marked.code = line.code := by
  rw [code, code, toList_raw_marked, codeOf_append_blanks (by decide)]

theorem continuesBlock_marked (line : Line) : line.marked.continuesBlock = line.continuesBlock := by
  have hreturn : ∀ c ∈ ['\r'], c = '\r' := List.forall_mem_singleton.2 rfl
  rw [Bool.eq_iff_iff, continuesBlock_iff, continuesBlock_iff, toList_raw_marked,
    indented_append_returns hreturn]
  refine or_congr_right ⟨fun h => h.of_subset (List.subset_append_left _ _), fun h c hc => ?_⟩
  rcases List.mem_append.1 hc with hc | hc
  · exact h c hc
  · exact blanks_of_returns hreturn c hc

theorem marked_not_mem (hraw : ∀ other ∈ lines, IsRaw other.raw.toList) (line : Line) :
    line.marked ∉ lines := by
  intro hmem
  refine (hraw _ hmem).no_return ?_
  rw [toList_raw_marked, List.getLast?_append]
  rfl

end Line

namespace Compile

open Line (substitute)

variable {lines : List Line} {line line' mark : Line} {i : Nat}

theorem quotes_relabelled (hnumber : line'.number = line.number) (x : Except CompileError Plan) :
    Quotes line line' (relabelled (substitute mark line) (List.map (Action.renumber id)) x)
      (relabelled (substitute mark line') (List.map (Action.renumber id)) x) := by
  cases x with
  | ok plan => exact .same _
  | error e =>
    simp only [relabelled, CompileError.relabel, substitute]
    split
    · rw [hnumber]
      exact .here rfl rfl
    · exact .same _

theorem planOf_set_eq_relabelled (hmark : line.marked ∉ lines) (hi : i < lines.length)
    (hnumber : line'.number = line.number) (halike : Line.Alike line line')
    (hcontinues : line'.continuesBlock = line.continuesBlock) (options : CompilerOptions) :
    planOf (lines.set i line') options
      = relabelled (substitute line.marked line') (List.map (Action.renumber id))
        (planOf (lines.set i line.marked) options) := by
  have halike' := halike.of_code_eq (Line.code_marked line)
  have hcontinues' := hcontinues.trans (Line.continuesBlock_marked line).symm
  have hrelabels : Line.Relabels id (substitute line.marked line') :=
    Line.relabels_substitute hnumber halike' hcontinues'
  rw [← planOf_relabel hrelabels, Line.map_substitute_set hmark hi]

/-- A line can be replaced by any line that the compiler makes the same of.  Only the place `i`
changes, wherever else the line may occur. -/
theorem planOf_set_of_alike (hraw : ∀ other ∈ lines, Line.IsRaw other.raw.toList)
    (hline : lines[i]? = some line) (hnumber : line'.number = line.number)
    (halike : Line.Alike line line') (hcontinues : line'.continuesBlock = line.continuesBlock)
    (options : CompilerOptions) :
    Quotes line line' (planOf lines options) (planOf (lines.set i line') options) := by
  -- both lists come from one that has a line at the place which occurs nowhere else
  have hmark := Line.marked_not_mem hraw line
  obtain ⟨hi, hget⟩ := List.getElem?_eq_some_iff.1 hline
  have hset : lines.set i line = lines := by
    rw [← hget]
    exact List.set_getElem_self hi
  have hold := planOf_set_eq_relabelled hmark hi rfl (.code rfl) rfl options
  rw [hset] at hold
  rw [hold, planOf_set_eq_relabelled hmark hi hnumber halike hcontinues]
  exact quotes_relabelled hnumber _

end Compile

/-! ### The text of a loop line -/

namespace Statement

open Text

/-- What the text after ` in ` says of the count of a loop. -/
def parseCount (after : List Char) : Except Problem Operand :=
  match rangeArguments? after with
  | none => .error (.malformedLoop .noRange)
  | some arguments =>
    if (trim arguments).isEmpty then .error (.malformedLoop .noCount)
    else if arguments.contains ',' then .error (.malformedLoop .severalCounts)
    else Operand.parse arguments

/-- Whatever the name is, also `in`, the text is cut behind it. -/
theorem cut?_name_in {name : List Char} (hname : Name name) (after : List Char) :
    cut? " in ".toList (name ++ " in ".toList ++ after) = some (name, after) := by
  refine cut?_append fun u v huv hne hpre => ?_
  obtain ⟨rest, heq⟩ := hpre
  cases v with
  | nil => exact hne rfl
  | cons c v =>
    have hc : c = ' ' := (List.cons.inj heq).1.symm
    exact hname.not_mem (c := ' ') (by decide) (by simp [huv, hc])

theorem parseLoop_name_in {name : List Char} (hname : Name name) (after : List Char) :
    parseLoop (name ++ " in ".toList ++ after)
      = (parseCount after).map (.loop (String.ofList name)) := by
  simp only [parseLoop, cut?_name_in hname, trim_eq_self hname.tight, isName_eq_true_iff.2 hname,
    parseCount, Bool.not_true, Bool.false_eq_true, if_false]
  cases rangeArguments? after with
  | none => rfl
  | some arguments =>
    simp only
    split
    · rfl
    · split <;> rfl

end Statement

namespace Line

open Text

/-- The text `for name in range(count):` behind an indentation. -/
def loopText (indentation name count : List Char) : List Char :=
  indentation ++ "for ".toList ++ name ++ " in range(".toList ++ count ++ "):".toList

/-- The code of a line that starts with a word: the word, and then the code after it. -/
theorem codeOf_word_append {b word : List Char} (hb : Blanks b) (hword : Tight word)
    (hne : word ≠ []) (hhash : '#' ∉ word) (cs : List Char) :
    codeOf (b ++ word ++ cs) = word ++ trimEnd (cs.takeWhile (· != '#')) := by
  have hkept : ∀ c ∈ b ++ word, (c != '#') = true := by
    intro c hc
    rw [bne_iff_ne]
    rintro rfl
    rcases List.mem_append.1 hc with hc | hc
    · exact hb.not_mem (by decide) hc
    · exact hhash hc
  obtain ⟨b', hb', heq⟩ := exists_trimEnd_append_blanks (cs.takeWhile (· != '#'))
  have htight : Tight (word ++ trimEnd (cs.takeWhile (· != '#'))) := by
    refine ⟨fun c hc => hword.head c ?_, fun c hc => ?_⟩
    · rwa [List.head?_append_of_ne_nil _ hne] at hc
    · by_cases hnil : trimEnd (cs.takeWhile (· != '#')) = []
      · rw [hnil, List.append_nil] at hc
        exact hword.last c hc
      · rw [List.getLast?_append_of_ne_nil _ hnil] at hc
        exact last_trimEnd _ c hc
  calc codeOf (b ++ word ++ cs)
      = trim (b ++ word ++ cs.takeWhile (· != '#')) := by
        rw [codeOf, List.takeWhile_append_of_pos hkept]
    _ = trim (b ++ (word ++ trimEnd (cs.takeWhile (· != '#'))) ++ b') := by
        conv_lhs => rw [heq]
        simp only [List.append_assoc]
    _ = word ++ trimEnd (cs.takeWhile (· != '#')) := by
        rw [trim_append hb hb', trim_eq_self htight]

section LoopText

variable {indentation name name' count returns : List Char} {i : Nat}

theorem blanks_of_indentation (h : ∀ c ∈ indentation, c = ' ' ∨ c = '\t') : Blanks indentation := by
  intro c hc
  rcases h c hc with rfl | rfl <;> decide

theorem ofPart_loopText (hreturns : ∀ c ∈ returns, c = '\r') :
    ofPart i (loopText indentation name count ++ returns)
      = ⟨.ofNat (i + 1), String.ofList (loopText indentation name count)⟩ := by
  have hdrop : dropEndWhile (· == '\r') (loopText indentation name count ++ returns)
      = loopText indentation name count := by
    rw [dropEndWhile, List.reverse_append, List.dropWhile_append_of_pos (by simpa using hreturns)]
    simp [loopText]
  rw [ofPart, hdrop]

theorem codeOf_loopText (hindentation : ∀ c ∈ indentation, c = ' ' ∨ c = '\t')
    (hname : Name name) :
    codeOf (loopText indentation name count ++ returns)
      = "for ".toList ++ (name ++ " in ".toList ++ ("range(".toList
        ++ trimEnd ((count ++ "):".toList ++ returns).takeWhile (· != '#')))) := by
  have hword : Tight ("for".toList ++ (' ' :: name ++ " in ".toList) ++ "range(".toList) :=
    Tight.append (.of_all (by decide)) (.of_all (by decide)) (by decide) (by decide)
  have hhash : '#' ∉ "for".toList ++ (' ' :: name ++ " in ".toList) ++ "range(".toList := by
    simpa using hname.not_mem (c := '#') (by decide)
  have hcode := codeOf_word_append (blanks_of_indentation hindentation) hword (by simp) hhash
    (count ++ "):".toList ++ returns)
  simpa [loopText] using hcode

/-- Apart from the name that it is given, a loop line is read in the same way whatever its variable
is. -/
theorem statement_loopText (hindentation : ∀ c ∈ indentation, c = ' ' ∨ c = '\t')
    (hname : Name name) (count returns : List Char) :
    (ofPart i (loopText indentation name count ++ returns)).statement
      = (Statement.parseCount ("range(".toList
          ++ trimEnd ((count ++ "):".toList ++ returns).takeWhile (· != '#')))).map
        (.loop (String.ofList name)) := by
  rw [statement, codeOf_ofPart, codeOf_loopText hindentation hname, Statement.ofCode_for,
    Statement.parseLoop_name_in hname]

theorem alike_loopText (hindentation : ∀ c ∈ indentation, c = ' ' ∨ c = '\t')
    (hname : Name name) (hname' : Name name') (count returns : List Char) :
    Alike (ofPart i (loopText indentation name count ++ returns))
      (ofPart i (loopText indentation name' count ++ returns)) := by
  have hs := statement_loopText (i := i) hindentation hname count returns
  have hs' := statement_loopText (i := i) hindentation hname' count returns
  cases hcount : Statement.parseCount ("range(".toList
      ++ trimEnd ((count ++ "):".toList ++ returns).takeWhile (· != '#'))) with
  | error problem =>
    rw [hcount] at hs hs'
    exact .error hs hs'
  | ok operand =>
    rw [hcount] at hs hs'
    exact .loop hs hs'

theorem continuesBlock_loopText :
    (ofPart i (loopText indentation name count ++ returns)).continuesBlock = true
      ↔ Indented indentation := by
  have hsplit : loopText indentation name count ++ returns = indentation ++
      'f' :: ("or ".toList ++ name ++ " in range(".toList ++ count ++ "):".toList ++ returns) := by
    simp [loopText]
  have hcode : ¬ Blanks (loopText indentation name count ++ returns) := fun h =>
    h.not_mem (c := 'f') (by decide) (by simp [hsplit])
  rw [continuesBlock_iff, indented_ofPart, blanks_ofPart, or_iff_left hcode, hsplit]
  exact indented_append_iff (by simp)

end LoopText

end Line

/-- The variable of a loop is inert.  Any other name in its place gives the same plan or the same
error, and only an error on the line of the loop itself quotes the other text. -/
theorem compile_renameLoop {program : String} {i : Nat}
    {indentation name name' count returns : List Char}
    (hpart : (Line.parts program)[i]? = some (Line.loopText indentation name count ++ returns))
    (hindentation : ∀ c ∈ indentation, c = ' ' ∨ c = '\t') (hreturns : ∀ c ∈ returns, c = '\r')
    (hname : Text.Name name) (hname' : Text.Name name') (options : CompilerOptions) :
    Quotes ⟨.ofNat (i + 1), String.ofList (Line.loopText indentation name count)⟩
      ⟨.ofNat (i + 1), String.ofList (Line.loopText indentation name' count)⟩
      (compile program options)
      (compile (Line.setPart program i (Line.loopText indentation name' count ++ returns))
        options) := by
  have hfeed : '\n' ∉ Line.loopText indentation name' count ++ returns := by
    have hold := Line.not_mem_of_mem_splitOn (List.mem_of_getElem? hpart)
    have hnew := hname'.not_mem (c := '\n') (by decide)
    simp only [Line.loopText, List.mem_append, not_or] at hold ⊢
    tauto
  have hline : (Line.ofText program)[i]?
      = some (Line.ofPart i (Line.loopText indentation name count ++ returns)) := by
    rw [Line.ofText_eq_mapIdx, List.getElem?_mapIdx, hpart, Option.map_some]
  rw [compile, compile, Line.ofText_setPart hfeed, ← Line.ofPart_loopText hreturns,
    ← Line.ofPart_loopText hreturns]
  have halike := Line.alike_loopText (i := i) hindentation hname hname' count returns
  refine Compile.planOf_set_of_alike (fun _ => Line.isRaw_of_mem_ofText) hline ?_ halike ?_ options
  · rfl
  · rw [Bool.eq_iff_iff, Line.continuesBlock_loopText, Line.continuesBlock_loopText]

/-- A loop over a variable that the program assigns, with two counts where one is asked for.  The
line ends in a carriage return. -/
def twoCounts : String := "n = 2\n\tfor n in range(n, 3):\r\n    hero.move_up(n)"

/-- Even with the variable `in`, the line has the same error, which quotes the line as it then
is. -/
theorem compile_renameLoop_twoCounts :
    let line : Line := ⟨2, "\tfor n in range(n, 3):"⟩
    let line' : Line := ⟨2, "\tfor in in range(n, 3):"⟩
    let renamed := Line.setPart twoCounts 1
      (Line.loopText ['\t'] "in".toList "n, 3".toList ++ ['\r'])
    (Line.parts twoCounts)[1]?
      = some (Line.loopText ['\t'] "n".toList "n, 3".toList ++ ['\r']) ∧
    Text.Name "n".toList ∧ Text.Name "in".toList ∧
    compile twoCounts .unlimited = .error ((Problem.malformedLoop .severalCounts).on line) ∧
    Quotes line line' (compile twoCounts .unlimited) (compile renamed .unlimited) := by
  intro line line' renamed
  have hpart : (Line.parts twoCounts)[1]?
      = some (Line.loopText ['\t'] "n".toList "n, 3".toList ++ ['\r']) := by decide +kernel
  have hname : Text.Name "n".toList := Text.isName_eq_true_iff.1 (by decide +kernel)
  have hname' : Text.Name "in".toList := Text.isName_eq_true_iff.1 (by decide +kernel)
  have hindentation : ∀ c ∈ ['\t'], c = ' ' ∨ c = '\t' := by simp
  have hreturns : ∀ c ∈ ['\r'], c = '\r' := by simp
  have hfails : compile twoCounts .unlimited
      = .error ((Problem.malformedLoop .severalCounts).on line) := by decide +kernel
  exact ⟨hpart, hname, hname', hfails,
    compile_renameLoop hpart hindentation hreturns hname hname' .unlimited⟩

end GridWalk

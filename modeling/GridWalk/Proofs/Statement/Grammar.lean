import GridWalk.Proofs.Statement.Spelling

/-! The grammar of statements.  Every spelling of a statement is classified as that statement, up to
the names that the first words of a line reserve, so classification accepts what the grammar spells
and nothing else. -/

namespace GridWalk

open Text

namespace Statement

/-- The name of the statement is none that the first words of a line or the word `in` reserve. -/
def IsClear : Statement → Prop
  | assignment name _ => name ≠ "for" ∧ name ≠ "if"
  | loop name _ => name ≠ "in"
  | _ => True

section Complete

variable {b b' b₁ b₂ b₃ b₄ b₅ name text arguments : List Char}

/-- A text that opens with a name opens with a reserved word only when the name is that word. -/
theorem not_prefix_of_name_append {word rest : List Char} {c : Char}
    (hname : Name name) (hrest : ∀ d ∈ rest.head?, isNamePart d = false)
    (hword : word.all isNamePart = true) (hc : isNamePart c = false)
    (hclear : name = word → rest.head? ≠ some c) : ¬ word ++ [c] <+: name ++ rest := by
  rintro ⟨after, heq⟩
  rw [List.append_assoc] at heq
  obtain ⟨rfl, rfl⟩ := eq_of_append_eq_append heq (List.all_eq_true.1 hword) (by simpa using hc)
    hname.forall_isNamePart hrest
  exact hclear rfl rfl

/-- A text that opens with a name has the form of no other statement, unless the name is reserved
and a space follows it. -/
theorem ofCode_name_append {rest value : List Char} (hname : Name name)
    (hrest : ∀ c ∈ rest.head?, isBlank c = true ∨ c = '=')
    (hfor : name = "for".toList → rest.head? ≠ some ' ')
    (hif : name = "if".toList → rest.head? ≠ some ' ')
    (hsides : assignmentSides? (name ++ rest) = some (name, value)) :
    ofCode (name ++ rest) = parseAssignment name value := by
  have hend : ∀ c ∈ rest.head?, isNamePart c = false := by
    intro c hc
    rcases hrest c hc with hblank | rfl
    · exact isNamePart_eq_false_of_isBlank hblank
    · decide
  have hloop : ¬ "for ".toList <+: name ++ rest := by
    show ¬ "for".toList ++ [' '] <+: name ++ rest
    exact not_prefix_of_name_append hname hend (by decide) (by decide) hfor
  have hconditional : ¬ "if ".toList <+: name ++ rest := by
    show ¬ "if".toList ++ [' '] <+: name ++ rest
    exact not_prefix_of_name_append hname hend (by decide) (by decide) hif
  have hmove : ¬ "hero.move_".toList <+: name ++ rest := by
    intro hpre
    have hhero : "hero".toList ++ ['.'] <+: name ++ rest :=
      List.IsPrefix.trans (by decide) hpre
    refine not_prefix_of_name_append hname hend (by decide) (by decide) (fun _ hdot => ?_) hhero
    rcases hrest _ hdot with hblank | heq
    · exact absurd hblank (by decide)
    · exact absurd heq (by decide)
  rw [← List.isPrefixOf_iff_prefix, Bool.not_eq_true] at hconditional
  simp only [ofCode, afterPrefix?_eq_none_iff.2 hloop, afterPrefix?_eq_none_iff.2 hmove,
    hconditional, hsides, Bool.false_eq_true, if_false]

theorem isNamePart_of_mem_keyword (direction : Direction) :
    ∀ c ∈ direction.keyword.toList, isNamePart c = true := by
  rw [← List.all_eq_true]
  cases direction <;> decide

theorem ofCode_assignment {value : Operand} (hname : Name name) (hb : Blanks b) (hb' : Blanks b')
    (htext : value.Spells text) (hfor : name = "for".toList → b.head? ≠ some ' ')
    (hif : name = "if".toList → b.head? ≠ some ' ') :
    ofCode (name ++ b ++ ['='] ++ b' ++ text) = .ok (.assignment (String.ofList name) value) := by
  have hvalue : value.SpellsPadded (b' ++ text) := ⟨b', text, [], hb', Blanks.nil, htext, by simp⟩
  have hrest : ∀ c ∈ (b ++ '=' :: (b' ++ text)).head?, isBlank c = true ∨ c = '=' := by
    intro c hc
    rcases hb.head_append c hc with hblank | hequals
    · exact .inl hblank
    · exact .inr (Option.some.inj hequals).symm
  have hbefore : '=' ∉ name ++ b := by
    rw [List.mem_append, not_or]
    exact ⟨hname.not_mem (by decide), hb.not_mem (by decide)⟩
  have hafter : (b' ++ text).contains '=' = false := by
    simpa using hvalue.not_mem (c := '=') (by decide) (by decide)
  have htrim : trim (name ++ b) = name := by
    have hpadded : trim ([] ++ name ++ b) = trim name := trim_append Blanks.nil hb
    simpa [trim_eq_self hname.tight] using hpadded
  have hsides : assignmentSides? (name ++ (b ++ '=' :: (b' ++ text)))
      = some (name, b' ++ text) := by
    rw [assignmentSides?, ← List.append_assoc, cut?_singleton hbefore]
    simp only [hafter, htrim, Bool.false_eq_true, if_false]
  have htotal : name ++ b ++ ['='] ++ b' ++ text = name ++ (b ++ '=' :: (b' ++ text)) := by simp
  have hhead (h : b.head? ≠ some ' ') : (b ++ '=' :: (b' ++ text)).head? ≠ some ' ' := by
    cases b with
    | nil => exact nofun
    | cons c b => exact h
  rw [htotal, ofCode_name_append hname hrest (fun heq => hhead (hfor heq))
    (fun heq => hhead (hif heq)) hsides]
  simp [parseAssignment, isName_eq_true_iff.2 hname, Operand.parse_eq_ok_iff.2 hvalue, Except.map]

theorem ofCode_for (cs : List Char) : ofCode ("for ".toList ++ cs) = parseLoop cs := by
  simp only [ofCode, afterPrefix?_eq_some_iff.2 rfl]

theorem ofCode_hero (cs : List Char) : ofCode ("hero.move_".toList ++ cs) = parseMove cs := by
  have hfor : afterPrefix? "for ".toList ("hero.move_".toList ++ cs) = none := rfl
  simp only [ofCode, hfor, afterPrefix?_eq_some_iff.2 rfl]

theorem cut?_in (hname : Name name) (hb₁ : Blanks b₁) (hb₂ : Blanks b₂)
    (hclear : name ≠ "in".toList) (after : List Char) :
    cut? " in ".toList (b₁ ++ name ++ b₂ ++ " in ".toList ++ after) =
      some (b₁ ++ name ++ b₂, after) := by
  refine cut?_append fun u v huv hne hpre => hclear ?_
  obtain ⟨rest, heq⟩ := hpre
  -- an earlier ` in ` takes its `i` from the name
  obtain ⟨v, rfl⟩ : ∃ v', v = ' ' :: 'i' :: v' := by
    match v, hne, heq with
    | [c], _, heq => exact absurd heq (by simp)
    | c :: d :: v, _, heq =>
      obtain ⟨rfl, htail⟩ := List.cons.inj heq
      obtain ⟨rfl, -⟩ := List.cons.inj htail
      exact ⟨v, rfl⟩
  have hword : 'i' :: v = name ++ b₂ :=
    cons_eq_word_append hb₁ hname.not_blank hb₂ (by decide) (by decide) huv
  have htexts : name ++ (b₂ ++ (" in ".toList ++ after)) = "in".toList ++ ' ' :: rest := by
    have htail : "in".toList ++ ' ' :: rest = 'i' :: v ++ " in ".toList ++ after := by
      simpa using heq
    rw [htail, hword]
    simp
  have hends : ∀ c ∈ (b₂ ++ (" in ".toList ++ after)).head?, (!isBlank c) = false := by
    intro c hc
    rcases hb₂.head_append c hc with hblank | hspace
    · simp [hblank]
    · obtain rfl : ' ' = c := Option.some.inj hspace
      decide
  exact (eq_of_append_eq_append htexts (by simpa using hname.not_blank) hends
    (List.all_eq_true.1 (by decide)) (by simp; decide)).1

theorem ofCode_loop {count : Operand} (hname : Name name) (hb₁ : Blanks b₁) (hb₂ : Blanks b₂)
    (hb₃ : Blanks b₃) (hb₄ : Blanks b₄) (hb₅ : Blanks b₅) (hcount : count.SpellsPadded arguments)
    (hclear : (loop (String.ofList name) count).IsClear) :
    ofCode ("for ".toList ++ b₁ ++ name ++ b₂ ++ " in ".toList ++ b₃ ++ "range".toList ++ b₄
      ++ ['('] ++ arguments ++ [')'] ++ b₅ ++ [':']) = .ok (.loop (String.ofList name) count) := by
  obtain ⟨after, hafter⟩ : ∃ after, after = b₃ ++ ("range".toList ++ b₄ ++ ['('] ++ arguments ++
    [')'] ++ b₅ ++ [':']) ++ [] := ⟨_, rfl⟩
  have hin : name ≠ "in".toList := fun heq => hclear (congrArg String.ofList heq)
  have hcut := cut?_in hname hb₁ hb₂ hin after
  have hrange : rangeArguments? after = some arguments :=
    rangeArguments?_eq_some_iff.2 ⟨b₃, b₄, b₅, [], hb₃, hb₄, hb₅, Blanks.nil, hafter⟩
  have htrim : trim (b₁ ++ name ++ b₂) = name := by
    rw [trim_append hb₁ hb₂, trim_eq_self hname.tight]
  have hpresent : (trim arguments).isEmpty = false := by
    rw [List.isEmpty_eq_false_iff, Ne, trim_eq_nil_iff]
    exact hcount.not_blanks
  have hsingle : arguments.contains ',' = false := by
    simpa using hcount.not_mem (c := ',') (by decide) (by decide)
  have hloop : parseLoop (b₁ ++ name ++ b₂ ++ " in ".toList ++ after) =
      .ok (.loop (String.ofList name) count) := by
    simp only [parseLoop, hcut, htrim, isName_eq_true_iff.2 hname, hrange, hpresent, hsingle,
      Operand.parse_eq_ok_iff.2 hcount, Except.map, Bool.not_true, Bool.false_eq_true, if_false]
  rw [← hloop, ← ofCode_for, hafter]
  simp only [List.append_assoc, List.append_nil]

theorem ofCode_move {direction : Direction} {steps : Option Operand} (hb : Blanks b)
    (hsteps : parseSteps arguments = .ok steps) (hopening : '(' ∉ arguments)
    (hclosing : ')' ∉ arguments) :
    ofCode ("hero.move_".toList ++ direction.keyword.toList ++ b ++ ['('] ++ arguments ++ [')']) =
      .ok (.move direction steps) := by
  have hkeyword := isNamePart_of_mem_keyword direction
  have hbefore : '(' ∉ direction.keyword.toList ++ b := by
    rw [List.mem_append, not_or]
    exact ⟨fun hmem => absurd (hkeyword _ hmem) (by decide), hb.not_mem (by decide)⟩
  have hcut : cut? ['('] (direction.keyword.toList ++ b ++ '(' :: (arguments ++ [')'])) =
      some (direction.keyword.toList ++ b, arguments ++ [')']) := cut?_singleton hbefore
  have hclose : beforeSuffix? [')'] (arguments ++ [')']) = some arguments :=
    beforeSuffix?_eq_some_iff.2 rfl
  have htight : Tight direction.keyword.toList :=
    .of_forall fun c hc => isBlank_eq_false_of_isNamePart (hkeyword c hc)
  have hdirection : Direction.ofKeyword?
      (String.ofList (trimEnd (direction.keyword.toList ++ b))) = some direction := by
    rw [trimEnd_append_of_blank hb, trimEnd_eq_self htight.last, String.ofList_toList]
    exact Direction.ofKeyword?_eq_some_iff.2 rfl
  have hmove : parseMove (direction.keyword.toList ++ b ++ '(' :: (arguments ++ [')'])) =
      .ok (.move direction steps) := by
    rw [parseMove, hcut]
    simp [hclose, hopening, hclosing, hdirection, hsteps, Except.map]
  rw [← hmove, ← ofCode_hero]
  simp only [List.append_assoc, List.cons_append, List.nil_append]

theorem ofCode_of_spells {s : Statement} {cs : List Char} (h : s.Spells cs) (hclear : s.IsClear) :
    ofCode cs = .ok s := by
  cases h with
  | assignment word hb hb' operand =>
    exact ofCode_assignment word hb hb' operand
      (fun heq => absurd (congrArg String.ofList heq) hclear.1)
      (fun heq => absurd (congrArg String.ofList heq) hclear.2)
  | loop word hb₁ hb₂ hb₃ hb₄ hb₅ operand =>
    exact ofCode_loop word hb₁ hb₂ hb₃ hb₄ hb₅ operand hclear
  | step _ hb hb' =>
    refine ofCode_move hb ?_ (hb'.not_mem (by decide)) (hb'.not_mem (by decide))
    simp [parseSteps, trim_eq_nil_iff.2 hb']
  | move _ hb operand =>
    refine ofCode_move hb ?_ (operand.not_mem (by decide) (by decide))
      (operand.not_mem (by decide) (by decide))
    simp [parseSteps, trim_eq_nil_iff, operand.not_blanks, Operand.parse_eq_ok_iff.2 operand,
      Except.map]

end Complete

/-! ### Lines -/

section Lines

variable {s : Statement} {before code after comment : List Char}

theorem Spells.tight (h : s.Spells code) : Tight code := by
  have hhero : Tight "hero.move_".toList := .of_all (by decide)
  have hclose : Tight [')'] := .of_all (by decide)
  cases h with
  | @assignment name b b' text _ word hb hb' operand =>
    have htight : Tight (name ++ (b ++ ['='] ++ b') ++ text) :=
      word.tight.append operand.tight word.ne_nil operand.ne_nil
    simpa using htight
  | @loop name b₁ b₂ b₃ b₄ arguments b₅ _ word hb₁ hb₂ hb₃ hb₄ hb₅ operand =>
    have htight : Tight ("for".toList ++ (' ' :: (b₁ ++ name ++ b₂ ++ " in ".toList ++ b₃ ++
        "range".toList ++ b₄ ++ ['('] ++ arguments ++ [')'] ++ b₅)) ++ [':']) :=
      Tight.append (.of_all (by decide)) (.of_all (by decide)) (by decide) (by decide)
    simpa using htight
  | @step direction b b' hb hb' =>
    have htight : Tight ("hero.move_".toList ++ (direction.keyword.toList ++ b ++ ['('] ++ b') ++
        [')']) := hhero.append hclose (by decide) (by decide)
    simpa using htight
  | @move direction b arguments _ hb operand =>
    have htight : Tight ("hero.move_".toList ++ (direction.keyword.toList ++ b ++ ['('] ++
        arguments) ++ [')']) := hhero.append hclose (by decide) (by decide)
    simpa using htight

theorem Spells.not_mem_hash (h : s.Spells code) : '#' ∉ code := by
  have hblank : isBlank '#' = false := by decide
  have hpart : isNamePart '#' = false := by decide
  have hkeyword (direction : Direction) : '#' ∉ direction.keyword.toList := fun hmem =>
    absurd (isNamePart_of_mem_keyword direction _ hmem) (by decide)
  cases h with
  | assignment word hb hb' operand =>
    simp [word.not_mem hpart, hb.not_mem hblank, hb'.not_mem hblank, operand.not_mem hpart]
  | loop word hb₁ hb₂ hb₃ hb₄ hb₅ operand =>
    simp [word.not_mem hpart, hb₁.not_mem hblank, hb₂.not_mem hblank, hb₃.not_mem hblank,
      hb₄.not_mem hblank, hb₅.not_mem hblank, operand.not_mem hblank hpart]
  | step direction hb hb' =>
    simp [hkeyword direction, hb.not_mem hblank, hb'.not_mem hblank]
  | move direction hb operand =>
    simp [hkeyword direction, hb.not_mem hblank, operand.not_mem hblank hpart]

theorem codeOf_append (hcode : Tight code) (hhash : '#' ∉ code) (hbefore : Blanks before)
    (hafter : Blanks after) (hcomment : ∀ c ∈ comment.head?, c = '#') :
    Line.codeOf (before ++ code ++ after ++ comment) = code := by
  have hkept : ∀ c ∈ before ++ code ++ after, (c != '#') = true := by
    intro c hc
    rw [bne_iff_ne]
    rintro rfl
    rcases List.mem_append.1 hc with hc | hc
    · rcases List.mem_append.1 hc with hc | hc
      · exact hbefore.not_mem (by decide) hc
      · exact hhash hc
    · exact hafter.not_mem (by decide) hc
  have hends : ∀ c ∈ comment.head?, (c != '#') = false := by simpa using hcomment
  rw [Line.codeOf, takeWhile_append_eq_left hkept hends, trim_append hbefore hafter,
    trim_eq_self hcode]

end Lines

/-- Classification accepts what the grammar spells and nothing else.  A line may have blanks around
its code and a comment behind it. -/
theorem statement_grammar :
    (∀ (line : Line) (s : Statement), line.statement = .ok s → s ≠ .unsupported →
      s.Spells line.code.toList) ∧
    ∀ (number : UInt32) (s : Statement) (before code after comment : List Char),
      s.Spells code → s.IsClear → Blanks before → Blanks after →
      (∀ c ∈ comment.head?, c = '#') →
      (Line.mk number (String.ofList (before ++ code ++ after ++ comment))).statement = .ok s := by
  constructor
  · intro line s hs hsupported
    rw [Line.code, String.toList_ofList]
    exact spells_of_ofCode hs hsupported (tight_trim _)
  · intro number s before code after comment hspells hclear hbefore hafter hcomment
    rw [Line.statement, String.toList_ofList,
      codeOf_append hspells.tight hspells.not_mem_hash hbefore hafter hcomment]
    exact ofCode_of_spells hspells hclear

/-- An ideographic space, an em space, a tab and leading zeros. -/
theorem statement_moveLeft :
    let line := Line.mk 1 (String.ofList ("\u3000".toList
      ++ "hero.move_left\u2003( 007\t)".toList ++ " ".toList ++ "# home".toList))
    line.statement = .ok (.move .left (some (.literal 7))) ∧
      (move .left (some (.literal 7))).Spells line.code.toList := by
  intro line
  have hseven : (Operand.literal 7).Spells "007".toList :=
    .literal (by decide) (List.all_eq_true.1 (by decide)) (by decide)
  have harguments : (Operand.literal 7).SpellsPadded " 007\t".toList :=
    ⟨" ".toList, "007".toList, "\t".toList, by decide, by decide, hseven, rfl⟩
  have hblank : Blanks "\u2003".toList := by decide
  have hline : line.statement = .ok (.move .left (some (.literal 7))) :=
    statement_grammar.2 1 _ _ "hero.move_left\u2003( 007\t)".toList _ _
      (.move .left hblank harguments) trivial (by decide) (by decide)
      (fun _ hc => (Option.some.inj hc).symm)
  exact ⟨hline, statement_grammar.1 line _ hline (by decide)⟩

end Statement

end GridWalk

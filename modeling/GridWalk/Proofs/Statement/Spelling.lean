import GridWalk.Proofs.Text.Words
import GridWalk.Statement

/-! The spellings of statements.  `Statement.Spells` relates a statement to the texts that spell it,
with the places where blanks may stand, and the code of a line that is classified as a statement
spells that statement. -/

namespace GridWalk

open Text

namespace Operand

/-- The texts of an operand: the names of a variable and, with any number of leading zeros, the
numerals of a number. -/
inductive Spells : Operand → List Char → Prop
  | literal {value : UInt32} {digits : List Char} (nonempty : digits ≠ [])
      (decimal : ∀ c ∈ digits, c.isDigit = true)
      (number : Nat.ofDigitChars 10 digits 0 = value.toNat) : Spells (.literal value) digits
  | reference {name : List Char} (word : Name name) :
      Spells (.reference (String.ofList name)) name

/-- The texts of an operand with blanks around it. -/
def SpellsPadded (operand : Operand) (cs : List Char) : Prop :=
  ∃ b text b', Blanks b ∧ Blanks b' ∧ operand.Spells text ∧ cs = b ++ text ++ b'

variable {operand : Operand} {cs : List Char}

theorem Spells.forall_isNamePart (h : operand.Spells cs) : ∀ c ∈ cs, isNamePart c = true := by
  cases h with
  | literal _ decimal => exact fun c hc => isNamePart_of_isDigit (decimal c hc)
  | reference word => exact word.forall_isNamePart

theorem Spells.ne_nil (h : operand.Spells cs) : cs ≠ [] := by
  cases h with
  | literal nonempty => exact nonempty
  | reference word => exact word.ne_nil

theorem Spells.tight (h : operand.Spells cs) : Tight cs :=
  .of_forall fun c hc => isBlank_eq_false_of_isNamePart (h.forall_isNamePart c hc)

theorem ofTrimmed_eq_ok_iff : ofTrimmed cs = .ok operand ↔ operand.Spells cs := by
  constructor
  · intro h
    unfold ofTrimmed at h
    split at h
    next hnumeral =>
      simp only at h
      split at h
      next hlt =>
        obtain rfl := Except.ok.inj h
        simp only [isNumeral, Bool.and_eq_true, Bool.not_eq_true', List.isEmpty_eq_false_iff,
          List.all_eq_true] at hnumeral
        exact .literal hnumeral.1 hnumeral.2 (UInt32.toNat_ofNat_of_lt' hlt).symm
      · cases h
    split at h
    next hname =>
      obtain rfl := Except.ok.inj h
      exact .reference (isName_eq_true_iff.1 hname)
    split at h
    · cases h
    · cases h
  · intro h
    cases h with
    | literal nonempty decimal number =>
      have hnumeral : isNumeral cs = true := by
        simpa [isNumeral, nonempty] using decimal
      have hvalue : numeralValue cs = _ := number
      simp only [ofTrimmed, hnumeral, if_true, hvalue, UInt32.toNat_lt_size, UInt32.ofNat_toNat]
    | reference word =>
      have hname := isName_eq_true_iff.2 word
      simp [ofTrimmed, isNumeral_eq_false_of_isName hname, hname]

theorem parse_eq_ok_iff : parse cs = .ok operand ↔ operand.SpellsPadded cs := by
  rw [parse, ofTrimmed_eq_ok_iff]
  constructor
  · intro h
    obtain ⟨b, b', hb, hb', heq⟩ := exists_blanks_append_trim cs
    exact ⟨b, trim cs, b', hb, hb', h, heq⟩
  · rintro ⟨b, text, b', hb, hb', h, rfl⟩
    rwa [trim_append hb hb', trim_eq_self h.tight]

theorem Spells.not_mem {c : Char} (h : operand.Spells cs) (hpart : isNamePart c = false) :
    c ∉ cs := by
  intro hc
  rw [h.forall_isNamePart c hc] at hpart
  cases hpart

/-- Between blanks there is an operand and nothing else, so no sign that is neither. -/
theorem SpellsPadded.not_mem {c : Char} (h : operand.SpellsPadded cs) (hblank : isBlank c = false)
    (hpart : isNamePart c = false) : c ∉ cs := by
  obtain ⟨b, text, b', hb, hb', htext, rfl⟩ := h
  simp [hb.not_mem hblank, hb'.not_mem hblank, htext.not_mem hpart]

theorem SpellsPadded.not_blanks (h : operand.SpellsPadded cs) : ¬ Blanks cs := by
  obtain ⟨b, text, b', hb, hb', htext, rfl⟩ := h
  intro hall
  exact htext.ne_nil (htext.tight.eq_nil_of_blanks (hall.of_subset (by simp)))

end Operand

namespace Statement

/-- The texts of a statement.  The texts `b`, `b'` and so on are the places for blanks. -/
inductive Spells : Statement → List Char → Prop
  | assignment {name b b' text : List Char} {value : Operand} (word : Name name) (hb : Blanks b)
      (hb' : Blanks b') (operand : value.Spells text) :
      Spells (.assignment (String.ofList name) value) (name ++ b ++ ['='] ++ b' ++ text)
  | loop {name b₁ b₂ b₃ b₄ arguments b₅ : List Char} {count : Operand} (word : Name name)
      (hb₁ : Blanks b₁) (hb₂ : Blanks b₂) (hb₃ : Blanks b₃) (hb₄ : Blanks b₄) (hb₅ : Blanks b₅)
      (operand : count.SpellsPadded arguments) :
      Spells (.loop (String.ofList name) count)
        ("for ".toList ++ b₁ ++ name ++ b₂ ++ " in ".toList ++ b₃ ++ "range".toList ++ b₄ ++ ['(']
          ++ arguments ++ [')'] ++ b₅ ++ [':'])
  | step (direction : Direction) {b b' : List Char} (hb : Blanks b) (hb' : Blanks b') :
      Spells (.move direction none)
        ("hero.move_".toList ++ direction.keyword.toList ++ b ++ ['('] ++ b' ++ [')'])
  | move (direction : Direction) {b arguments : List Char} {steps : Operand} (hb : Blanks b)
      (operand : steps.SpellsPadded arguments) :
      Spells (.move direction (some steps))
        ("hero.move_".toList ++ direction.keyword.toList ++ b ++ ['('] ++ arguments ++ [')'])

section Sound

variable {cs : List Char} {s : Statement}

theorem spells_of_parseAssignment {before value : List Char}
    (h : parseAssignment (trim before) value = .ok s) (ht : Tight (before ++ ['='] ++ value)) :
    s.Spells (before ++ ['='] ++ value) := by
  unfold parseAssignment at h
  split at h
  next hname =>
    cases hvalue : Operand.parse value with
    | error problem => simp [hvalue, Except.map] at h
    | ok operand =>
      obtain rfl : .assignment (String.ofList (trim before)) operand = s := by
        simpa [hvalue, Except.map] using h
      have word := isName_eq_true_iff.1 hname
      obtain ⟨b', text, b'', hb', hb'', htext, rfl⟩ := Operand.parse_eq_ok_iff.1 hvalue
      obtain ⟨b₀, b, hb₀, hb, hbefore⟩ := exists_blanks_append_trim before
      generalize trim before = name at word hbefore ⊢
      subst hbefore
      -- the text has no blanks at its ends
      obtain rfl : b₀ = [] := by
        have htext : Tight (b₀ ++ (name ++ b ++ ['='] ++ (b' ++ text ++ b''))) := by simpa using ht
        exact htext.eq_nil_of_append_left hb₀
      obtain rfl : b'' = [] := by
        have htext : Tight (name ++ b ++ ['='] ++ b' ++ text ++ b'') := by simpa using ht
        exact htext.eq_nil_of_append_right hb''
      simpa using Spells.assignment word hb hb' htext
  · cases h

theorem rangeArguments?_eq_some_iff {arguments : List Char} :
    rangeArguments? cs = some arguments ↔ ∃ b b₁ b₂ b', Blanks b ∧ Blanks b₁ ∧ Blanks b₂ ∧
      Blanks b' ∧ cs = b ++ ("range".toList ++ b₁ ++ ['('] ++ arguments ++ [')'] ++ b₂ ++ [':'])
        ++ b' := by
  simp only [rangeArguments?, Option.bind_eq_bind, Option.bind_eq_some_iff,
    afterPrefix?_eq_some_iff, beforeSuffix?_eq_some_iff]
  constructor
  · rintro ⟨afterRange, hrange, afterOpening, hopening, beforeColon, rfl, hclosing⟩
    obtain ⟨b, b', hb, hb', hcs⟩ := exists_blanks_append_trim cs
    obtain ⟨b₁, hb₁, hafter⟩ := exists_blanks_append_trimStart afterRange
    obtain ⟨b₂, hb₂, hbefore⟩ := exists_trimEnd_append_blanks beforeColon
    refine ⟨b, b₁, b₂, b', hb, hb₁, hb₂, hb', ?_⟩
    rw [hcs, hrange, hafter, hopening, hbefore, hclosing]
    simp
  · rintro ⟨b, b₁, b₂, b', hb, hb₁, hb₂, hb', rfl⟩
    have htight : Tight ("range".toList ++ (b₁ ++ ['('] ++ arguments ++ [')'] ++ b₂) ++ [':']) :=
      .append (.of_all (by decide)) (.of_all (by decide)) (by decide) (by decide)
    refine ⟨b₁ ++ ['('] ++ arguments ++ [')'] ++ b₂ ++ [':'], ?_,
      arguments ++ [')'] ++ b₂ ++ [':'], ?_, arguments ++ [')'] ++ b₂, rfl, ?_⟩
    · rw [trim_append hb hb']
      simpa using trim_eq_self htight
    · simpa using (trimStart_append hb₁).trans (trimStart_eq_self (by simp; decide))
    · rw [trimEnd_append_of_blank hb₂]
      exact trimEnd_eq_self (by simp; decide)

theorem spells_of_parseLoop (h : parseLoop cs = .ok s) (ht : Tight ("for ".toList ++ cs)) :
    s.Spells ("for ".toList ++ cs) := by
  unfold parseLoop at h
  split at h
  · cases h
  next before after hcut =>
    simp only at h
    split at h
    · cases h
    next hname =>
    split at h
    · cases h
    next arguments hrange =>
    split at h
    · cases h
    split at h
    · cases h
    cases hcount : Operand.parse arguments with
    | error problem => simp [hcount, Except.map] at h
    | ok operand =>
      obtain rfl : .loop (String.ofList (trim before)) operand = s := by
        simpa [hcount, Except.map] using h
      have word : Name (trim before) := isName_eq_true_iff.1 (by simpa using hname)
      obtain ⟨b₁, b₂, hb₁, hb₂, hbefore⟩ := exists_blanks_append_trim before
      generalize trim before = name at word hbefore ⊢
      obtain ⟨b₃, b₄, b₅, b', hb₃, hb₄, hb₅, hb', rfl⟩ := rangeArguments?_eq_some_iff.1 hrange
      have hcs := eq_append_of_cut? hcut
      rw [hbefore] at hcs
      subst hcs
      obtain rfl : b' = [] := by
        have htext : Tight ("for ".toList ++ (b₁ ++ name ++ b₂ ++ " in ".toList ++ (b₃ ++
            ("range".toList ++ b₄ ++ ['('] ++ arguments ++ [')'] ++ b₅ ++ [':']))) ++ b') := by
          simpa using ht
        exact htext.eq_nil_of_append_right hb'
      simpa using Spells.loop word hb₁ hb₂ hb₃ hb₄ hb₅ (Operand.parse_eq_ok_iff.1 hcount)

theorem spells_of_parseMove (h : parseMove cs = .ok s) : s.Spells ("hero.move_".toList ++ cs) := by
  unfold parseMove at h
  split at h
  · cases h
  next before after hcut =>
  split at h
  · cases h
  next arguments hclose =>
  split at h
  · cases h
  simp only at h
  split at h
  · cases h
  next direction hdirection =>
    have hkeyword := Direction.ofKeyword?_eq_some_iff.1 hdirection
    obtain ⟨b, hb, hbefore⟩ := exists_trimEnd_append_blanks before
    have hcs := eq_append_of_cut? hcut
    rw [hbefore, beforeSuffix?_eq_some_iff.1 hclose, ← String.toList_ofList (l := trimEnd before),
      hkeyword] at hcs
    subst hcs
    cases hsteps : parseSteps arguments with
    | error problem => simp [hsteps, Except.map] at h
    | ok steps =>
      obtain rfl : .move direction steps = s := by simpa [hsteps, Except.map] using h
      unfold parseSteps at hsteps
      split at hsteps
      next hblank =>
        obtain rfl := Except.ok.inj hsteps
        have hb' := trim_eq_nil_iff.1 (List.isEmpty_iff.1 hblank)
        simpa using Spells.step direction hb hb'
      · cases hoperand : Operand.parse arguments with
        | error problem => simp [hoperand, Except.map] at hsteps
        | ok operand =>
          obtain rfl : some operand = steps := by simpa [hoperand, Except.map] using hsteps
          simpa using Spells.move direction hb
            (Operand.parse_eq_ok_iff.1 hoperand)

theorem spells_of_ofCode (h : ofCode cs = .ok s) (hs : s ≠ .unsupported) (ht : Tight cs) :
    s.Spells cs := by
  unfold ofCode at h
  split at h
  next rest hrest =>
    obtain rfl := afterPrefix?_eq_some_iff.1 hrest
    exact spells_of_parseLoop h ht
  split at h
  next rest hrest =>
    obtain rfl := afterPrefix?_eq_some_iff.1 hrest
    exact spells_of_parseMove h
  split at h
  · exact absurd (Except.ok.inj h).symm hs
  split at h
  next name value hsides =>
    unfold assignmentSides? at hsides
    split at hsides
    next before after hcut =>
      split at hsides
      · cases hsides
      · obtain ⟨rfl, rfl⟩ := Prod.mk.inj (Option.some.inj hsides)
        obtain rfl := eq_append_of_cut? hcut
        exact spells_of_parseAssignment h ht
    · cases hsides
  · exact absurd (Except.ok.inj h).symm hs

end Sound

end Statement

end GridWalk

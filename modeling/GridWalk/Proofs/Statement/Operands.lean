import GridWalk.Proofs.Statement.Spelling
import GridWalk.Proofs.Text.Numerals
import Mathlib.Data.List.Nodup

/-! The reading of operands.  What an operand is read as depends on the text between the blanks
around it: a numeral whose value fits into a word, a name, or one of three refusals, each with its
own message.  `read_exactly` says for each of the five which texts lead to it. -/

namespace GridWalk.Operand

open Text

/-- A minus sign before a numeral. -/
def Negative (cs : List Char) : Prop := ∃ digits, Numeral digits ∧ cs = '-' :: digits

/-- The texts that are no operand, with what is wrong with them. -/
inductive Refused (cs : List Char) : Problem → Prop
  | tooLarge (numeral : Numeral cs) (excess : UInt32.size ≤ decimalValue cs) :
      Refused cs (.literalTooLarge (String.ofList cs))
  | negative (negative : Negative cs) : Refused cs (.negativeValue (String.ofList cs))
  | other (not_numeral : ¬ Numeral cs) (not_name : ¬ Name cs) (not_negative : ¬ Negative cs) :
      Refused cs (.notAnOperand (String.ofList cs))

section Texts

variable {cs : List Char} {problem : Problem}

theorem isNegative_eq_true_iff : isNegative cs = true ↔ Negative cs := by
  constructor
  · intro h
    unfold isNegative at h
    split at h
    next digits => exact ⟨digits, isNumeral_eq_true_iff.1 h, rfl⟩
    · cases h
  · rintro ⟨digits, hdigits, rfl⟩
    exact isNumeral_eq_true_iff.2 hdigits

/-- No text is both a name and a numeral, as a name does not start with a digit. -/
theorem not_numeral_of_name (h : Name cs) : ¬ Numeral cs := by
  rw [← isNumeral_eq_true_iff, isNumeral_eq_false_of_isName (isName_eq_true_iff.2 h)]
  exact Bool.false_ne_true

theorem Negative.not_numeral (h : Negative cs) : ¬ Numeral cs := by
  obtain ⟨digits, -, rfl⟩ := h
  intro hnumeral
  have hsign : '-'.isDigit = true := hnumeral.decimal '-' List.mem_cons_self
  exact absurd hsign (by decide)

theorem Negative.not_name (h : Negative cs) : ¬ Name cs := by
  obtain ⟨digits, -, rfl⟩ := h
  intro hname
  exact hname.not_mem (by decide) List.mem_cons_self

theorem spells_literal_iff {value : UInt32} :
    (literal value).Spells cs ↔ Numeral cs ∧ decimalValue cs = value.toNat := by
  rw [← numeralValue_eq_decimalValue]
  constructor
  · rintro ⟨nonempty, decimal, number⟩
    exact ⟨⟨nonempty, decimal⟩, number⟩
  · rintro ⟨⟨nonempty, decimal⟩, number⟩
    exact .literal nonempty decimal number

theorem spells_reference_iff {name : String} :
    (reference name).Spells cs ↔ Name cs ∧ name = String.ofList cs := by
  constructor
  · intro h
    cases h with
    | reference word => exact ⟨word, rfl⟩
  · rintro ⟨word, rfl⟩
    exact .reference word

theorem refused_of_ofTrimmed (h : ofTrimmed cs = .error problem) : Refused cs problem := by
  unfold ofTrimmed at h
  split at h
  next hnumeral =>
    simp only at h
    split at h
    · cases h
    next hover =>
      obtain rfl := Except.error.inj h
      rw [numeralValue_eq_decimalValue] at hover
      exact .tooLarge (isNumeral_eq_true_iff.1 hnumeral) (Nat.le_of_not_lt hover)
  next hnumeral =>
    rw [isNumeral_eq_true_iff] at hnumeral
    split at h
    · cases h
    next hname =>
      rw [isName_eq_true_iff] at hname
      split at h
      next hnegative =>
        obtain rfl := Except.error.inj h
        exact .negative (isNegative_eq_true_iff.1 hnegative)
      next hnegative =>
        obtain rfl := Except.error.inj h
        exact .other hnumeral hname fun hsign => hnegative (isNegative_eq_true_iff.2 hsign)

theorem ofTrimmed_of_refused (h : Refused cs problem) : ofTrimmed cs = .error problem := by
  cases h with
  | tooLarge numeral excess =>
    have hnumeral : isNumeral cs = true := isNumeral_eq_true_iff.2 numeral
    have hover : ¬ numeralValue cs < UInt32.size := by
      rw [numeralValue_eq_decimalValue]
      omega
    simp only [ofTrimmed, hnumeral, if_true, if_neg hover]
  | negative negative =>
    have hnumeral : ¬ isNumeral cs = true := mt isNumeral_eq_true_iff.1 negative.not_numeral
    have hname : ¬ isName cs = true := mt isName_eq_true_iff.1 negative.not_name
    rw [ofTrimmed, if_neg hnumeral, if_neg hname, if_pos (isNegative_eq_true_iff.2 negative)]
  | other not_numeral not_name not_negative =>
    have hnumeral : ¬ isNumeral cs = true := mt isNumeral_eq_true_iff.1 not_numeral
    have hname : ¬ isName cs = true := mt isName_eq_true_iff.1 not_name
    have hnegative : ¬ isNegative cs = true := mt isNegative_eq_true_iff.1 not_negative
    rw [ofTrimmed, if_neg hnumeral, if_neg hname, if_neg hnegative]

theorem ofTrimmed_eq_error_iff : ofTrimmed cs = .error problem ↔ Refused cs problem :=
  ⟨refused_of_ofTrimmed, ofTrimmed_of_refused⟩

end Texts

/-! ### Reports -/

/-- The operand that is read from a text on a line, or the error that reports the line. -/
def read (line : Line) (cs : List Char) : Except CompileError Operand :=
  match parse cs with
  | .ok operand => .ok operand
  | .error problem => .error (problem.on line)

/-- The problems that a text can have as an operand. -/
def refusals (text : String) : List Problem :=
  [.literalTooLarge text, .negativeValue text, .notAnOperand text]

section Reports

variable {line : Line} {cs t : List Char} {text : String} {problem other : Problem}

theorem Refused.mem (h : Refused t problem) : problem ∈ refusals (String.ofList t) := by
  cases h <;> simp [refusals]

theorem head?_toList_append {s : String} {c : Char} (h : s.toList.head? = some c)
    (s' s'' : String) : (s ++ s' ++ s'').toList.head? = some c := by
  rw [String.toList_append, String.toList_append, List.head?_append, List.head?_append, h]
  rfl

theorem head?_message_refusals (text : String) :
    (refusals text).map (·.message.toList.head?) = [some 'i', some 'n', some 'e'] := by
  have hlarge : (Problem.literalTooLarge text).message.toList.head? = some 'i' :=
    head?_toList_append (by decide) text _
  have hnegative : (Problem.negativeValue text).message.toList.head? = some 'n' :=
    head?_toList_append (by decide) text _
  have hother : (Problem.notAnOperand text).message.toList.head? = some 'e' :=
    head?_toList_append (by decide) text _
  rw [refusals, List.map_cons, List.map_cons, List.map_cons, hlarge, hnegative, hother,
    List.map_nil]

/-- The messages of these problems begin differently, so an error tells which of them it is. -/
theorem eq_of_on_eq (h : problem ∈ refusals text) (h' : other ∈ refusals text)
    (heq : problem.on line = other.on line) : problem = other := by
  have hnodup : ((refusals text).map (·.message.toList.head?)).Nodup := by
    rw [head?_message_refusals]
    decide
  have hmessage : problem.message = other.message := congrArg CompileError.message heq
  exact List.inj_on_of_nodup_map hnodup h h' (by rw [hmessage])

theorem read_eq_ok_iff {operand : Operand} :
    read line cs = .ok operand ↔ operand.Spells (trim cs) := by
  rw [← ofTrimmed_eq_ok_iff, ← parse, read]
  cases parse cs <;> simp

theorem read_eq_error_iff {e : CompileError} :
    read line cs = .error e ↔ ∃ problem, Refused (trim cs) problem ∧ e = problem.on line := by
  simp only [← ofTrimmed_eq_error_iff]
  rw [← parse, read]
  cases parse cs <;> simp [eq_comm]

theorem read_eq_error_on_iff (h : problem ∈ refusals (String.ofList (trim cs))) :
    read line cs = .error (problem.on line) ↔ Refused (trim cs) problem := by
  rw [read_eq_error_iff]
  constructor
  · rintro ⟨found, hfound, heq⟩
    rwa [eq_of_on_eq h hfound.mem heq]
  · intro hrefused
    exact ⟨problem, hrefused, rfl⟩

theorem refused_literalTooLarge_iff :
    Refused t (.literalTooLarge (String.ofList t))
      ↔ Numeral t ∧ UInt32.size ≤ decimalValue t := by
  constructor
  · rintro ⟨numeral, excess⟩
    exact ⟨numeral, excess⟩
  · rintro ⟨numeral, excess⟩
    exact .tooLarge numeral excess

theorem refused_negativeValue_iff :
    Refused t (.negativeValue (String.ofList t)) ↔ Negative t := by
  constructor
  · intro h
    cases h with
    | negative negative => exact negative
  · exact .negative

theorem refused_notAnOperand_iff :
    Refused t (.notAnOperand (String.ofList t))
      ↔ ¬ Numeral t ∧ ¬ Name t ∧ ¬ Negative t := by
  constructor
  · intro h
    cases h with
    | other not_numeral not_name not_negative => exact ⟨not_numeral, not_name, not_negative⟩
  · rintro ⟨not_numeral, not_name, not_negative⟩
    exact .other not_numeral not_name not_negative

end Reports

/-! ### What is read -/

/-- An error with the code 105 on a line. -/
def report (line : Line) (message : String) (suggestion : Option String) : CompileError :=
  ⟨⟨105⟩, .syntactic, message, line.number, line.raw, suggestion⟩

/-- What a result says of the text `t` that it was read from, which has no blanks around it. -/
structure Exact (line : Line) (t : List Char) (result : Except CompileError Operand) : Prop where
  literal : ∀ value, result = .ok (.literal value) ↔ Numeral t ∧ decimalValue t = value.toNat
  reference : ∀ name, result = .ok (.reference name) ↔ Name t ∧ name = String.ofList t
  apart : ¬ (Numeral t ∧ Name t)
  /-- The value of a literal is what comes of reading its digits into a word. -/
  by_digits : Numeral t → ∀ value,
    result = .ok (.literal value) ↔ numeralWord? t = some value
  failure : ∀ e, result = .error e → ∃ message suggestion, e = report line message suggestion
  too_large : result = .error
      (report line ("integer literal '" ++ String.ofList t ++ "' is too large") none) ↔
    Numeral t ∧ 4294967295 < decimalValue t
  negative : result = .error
      (report line ("negative values are not supported: '" ++ String.ofList t ++ "'")
        (some "only whole numbers are supported, e.g. x = 5")) ↔
    Negative t
  other : result = .error
      (report line ("expected a whole number or a variable name, found '" ++ String.ofList t ++ "'")
        (some "only whole numbers are supported, e.g. x = 5")) ↔
    ¬ Numeral t ∧ ¬ Name t ∧ ¬ Negative t

/-- Between the blanks around it, the text of an operand decides what is read: a literal, a name, or
one of three errors. -/
theorem read_exactly (line : Line) (cs : List Char) :
    ∃ b t b', Blanks b ∧ Tight t ∧ Blanks b' ∧ cs = b ++ t ++ b' ∧
      Exact line t (read line cs) := by
  obtain ⟨b, b', hb, hb', hcs⟩ := exists_blanks_append_trim cs
  have hliteral (value : UInt32) : read line cs = .ok (.literal value) ↔
      Numeral (trim cs) ∧ decimalValue (trim cs) = value.toNat :=
    read_eq_ok_iff.trans spells_literal_iff
  refine ⟨b, trim cs, b', hb, tight_trim cs, hb', hcs, hliteral, ?_, ?_, ?_, ?_, ?_, ?_, ?_⟩
  · exact fun name => read_eq_ok_iff.trans spells_reference_iff
  · exact fun h => not_numeral_of_name h.2 h.1
  · intro hnumeral value
    rw [hliteral, numeralWord?_eq_some_iff hnumeral]
    exact and_iff_right hnumeral
  · intro e he
    obtain ⟨problem, hproblem, rfl⟩ := read_eq_error_iff.1 he
    cases hproblem <;> exact ⟨_, _, rfl⟩
  · exact (read_eq_error_on_iff (by simp [refusals])).trans refused_literalTooLarge_iff
  · exact (read_eq_error_on_iff (by simp [refusals])).trans refused_negativeValue_iff
  · exact (read_eq_error_on_iff (by simp [refusals])).trans refused_notAnOperand_iff

/-- The largest word, with leading zeros and an em space. -/
example : parse "\u2003 004294967295\t".toList = .ok (.literal 4294967295) := by decide +kernel

end GridWalk.Operand

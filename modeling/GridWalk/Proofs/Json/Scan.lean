import GridWalk.Json.Written

/-! Scanning what is written.  A token is scanned from its text, where the text after a number must
not go on with the number.  The tokens of a value are therefore scanned from its compact text, and
`ofText_render` reads the text as the draft with the shape of the value. -/

namespace GridWalk.Text

theorem isDigit_of_mem_numeral {n : Nat} {c : Char} (h : c ∈ numeral n) : c.isDigit = true :=
  Nat.isDigit_of_mem_toDigits (by decide) (by decide) h

theorem numeral_ne_nil (n : Nat) : numeral n ≠ [] := Nat.toDigits_ne_nil

/-- Only the numeral of zero starts with a zero. -/
theorem head?_numeral_ne_zero {n : Nat} (h : 0 < n) : (numeral n).head? ≠ some '0' := by
  induction n using Nat.strongRecOn with
  | ind n ih =>
    by_cases hn : n < 10
    · have digits : ∀ n < 10, 0 < n → Nat.digitChar n ≠ '0' := by decide
      rw [numeral, Nat.toDigits_of_lt_base hn, List.head?_cons]
      intro heq
      exact digits n hn h (Option.some.inj heq)
    · have hquotient := ih (n / 10) (by omega) (by omega)
      obtain ⟨c, digits, hc⟩ := List.exists_cons_of_ne_nil (numeral_ne_nil (n / 10))
      rw [numeral, Nat.toDigits_of_base_le (by decide) (by omega), ← numeral, hc]
      rw [hc] at hquotient
      exact hquotient

theorem numeral_eq_of_zero_cons {n : Nat} {cs : List Char} (h : numeral n = '0' :: cs) :
    cs = [] := by
  rcases Nat.eq_zero_or_pos n with rfl | hpos
  · exact (List.cons.inj h).2.symm
  · have hhead := head?_numeral_ne_zero hpos
    rw [h, List.head?_cons] at hhead
    exact (hhead rfl).elim

end GridWalk.Text

namespace GridWalk.Json

/-- What may stand behind a value: nothing, or a character that ends a part of a container. -/
def Delimited (cs : List Char) : Prop :=
  ∀ c ∈ cs.head?, c = ',' ∨ c = ']' ∨ c = '\x7d'

namespace NumberText

variable {cs : List Char}

theorem spanDigits_append {digits : List Char} (hdigits : ∀ c ∈ digits, c.isDigit = true)
    (hcs : Delimited cs) : spanDigits (digits ++ cs) = (digits, cs) := by
  have hstop : cs.takeWhile Char.isDigit = [] ∧ cs.dropWhile Char.isDigit = cs := by
    cases cs with
    | nil => exact ⟨rfl, rfl⟩
    | cons c cs =>
      have hc : c.isDigit = false := by
        rcases hcs c rfl with rfl | rfl | rfl <;> decide
      simp [hc]
  rw [spanDigits, List.takeWhile_append_of_pos hdigits, List.dropWhile_append_of_pos hdigits,
    hstop.1, hstop.2, List.append_nil]

theorem readWhole?_numeral (n : Nat) (hcs : Delimited cs) :
    readWhole? (Text.numeral n ++ cs) = some (Text.numeral n, cs) := by
  have hspan := spanDigits_append (fun c => Text.isDigit_of_mem_numeral (n := n)) hcs
  unfold readWhole?
  rw [hspan]
  split
  next heq => exact (Text.numeral_ne_nil n (Prod.mk.inj heq).1).elim
  next heq => cases Text.numeral_eq_of_zero_cons (Prod.mk.inj heq).1
  · rfl

theorem readFraction?_of_delimited (hcs : Delimited cs) : readFraction? cs = some ([], cs) := by
  unfold readFraction?
  split
  · rcases hcs '.' rfl with h | h | h <;> cases h
  · rfl

theorem readExponent?_of_delimited (hcs : Delimited cs) : readExponent? cs = some (none, cs) := by
  cases cs with
  | nil => rfl
  | cons c cs =>
    have hc : ¬ (c = 'e' ∨ c = 'E') := by
      rcases hcs c rfl with rfl | rfl | rfl <;> decide
    simp only [readExponent?, if_neg hc]

theorem read?_numeral (n : Nat) (hcs : Delimited cs) :
    read? (Text.numeral n ++ cs) = some (⟨false, Text.numeral n, [], none⟩, cs) := by
  have hunsigned : readUnsigned? false (Text.numeral n ++ cs)
      = some (⟨false, Text.numeral n, [], none⟩, cs) := by
    simp [readUnsigned?, readWhole?_numeral n hcs, readFraction?_of_delimited hcs,
      readExponent?_of_delimited hcs]
  unfold read?
  split
  next rest heq =>
    obtain ⟨c, digits, hnumeral⟩ := List.exists_cons_of_ne_nil (Text.numeral_ne_nil n)
    rw [hnumeral] at heq
    have hdigit := Text.isDigit_of_mem_numeral (n := n) (hnumeral ▸ List.mem_cons_self)
    rw [(List.cons.inj heq).1] at hdigit
    cases hdigit
  · exact hunsigned

theorem value?_numeral {n : Nat} (h : n < UInt64.size) :
    value? ⟨false, Text.numeral n, [], none⟩ = some (.integer n) := by
  simp [value?, Text.numeralValue_numeral, h]

end NumberText

namespace Token

variable {cs : List Char}

theorem scan_cons {c : Char} {rest : List Char} {t : Token} (hc : isSpace c = false)
    (h : read? c rest = some (t, cs)) : scan (c :: rest) = t :: scan cs := by
  have hdrop : (c :: rest).dropWhile isSpace = c :: rest := by simp [hc]
  exact scan_of_read? hdrop h

theorem read?_of_isDigit {c : Char} (h : c.isDigit = true) (rest : List Char) :
    read? c rest
      = (NumberText.read? (c :: rest)).map fun (t, after) => (number t.value?, after) := by
  unfold read?
  split
  case h_11 => rfl
  all_goals cases h

theorem scan_null (cs : List Char) : scan (null.text ++ cs) = null :: scan cs :=
  scan_cons rfl rfl

theorem scan_bool (b : Bool) (cs : List Char) : scan ((bool b).text ++ cs) = bool b :: scan cs := by
  cases b with
  | false => exact scan_cons rfl rfl
  | true => exact scan_cons rfl rfl

theorem scan_string (s : String) (cs : List Char) :
    scan ((string (some s)).text ++ cs) = string (some s) :: scan cs := by
  have hread := Piece.readString?_flatMap_escaped s.toList cs
  have htext : (string (some s)).text ++ cs = '"' :: (s.toList.flatMap escaped ++ '"' :: cs) := by
    simp [text]
  rw [htext]
  apply scan_cons rfl
  simp only [read?, hread, Option.map_some, Piece.join?_map_char, String.ofList_toList]

theorem scan_number {n : Nat} (h : n < UInt64.size) (hcs : Delimited cs) :
    scan ((number (some (.integer n))).text ++ cs) = number (some (.integer n)) :: scan cs := by
  have hread := NumberText.read?_numeral n hcs
  have htext : (number (some (.integer n))).text = Text.numeral n := by
    simp [text, Number.integerText]
  obtain ⟨c, digits, hnumeral⟩ := List.exists_cons_of_ne_nil (Text.numeral_ne_nil n)
  have hdigit := Text.isDigit_of_mem_numeral (n := n) (hnumeral ▸ List.mem_cons_self)
  have hspace : isSpace c = false := by
    rw [Bool.eq_false_iff]
    intro hc
    simp only [isSpace, Bool.or_eq_true, beq_iff_eq] at hc
    rcases hc with ((rfl | rfl) | rfl) | rfl <;> cases hdigit
  rw [htext, hnumeral, List.cons_append]
  apply scan_cons hspace
  have hvalue := NumberText.value?_numeral h
  rw [hnumeral] at hread hvalue
  rw [List.cons_append] at hread
  simp only [read?_of_isDigit hdigit, hread, Option.map_some, hvalue]

end Token

def Scans (ts : List Token) : Prop := Token.scan (ts.flatMap Token.text) = ts

namespace Scans

variable {ts : List Token}

theorem nil : Scans [] := Token.scan_of_space rfl

theorem cons {t : Token} (hts : Scans ts)
    (ht : ∀ cs, Token.scan (t.text ++ cs) = t :: Token.scan cs) : Scans (t :: ts) := by
  rw [Scans, List.flatMap_cons, ht, hts]

theorem number {n : Nat} (hts : Scans ts) (hn : n < UInt64.size)
    (hdelimited : Delimited (ts.flatMap Token.text)) :
    Scans (.number (some (.integer n)) :: ts) := by
  rw [Scans, List.flatMap_cons, Token.scan_number hn hdelimited, hts]

end Scans

theorem delimited_itemTokens (vs : List Json) (ts : List Token) :
    Delimited ((itemTokens vs ts).flatMap Token.text) := by
  intro c hc
  cases vs with
  | nil => exact .inr (.inl (Option.some.inj hc).symm)
  | cons v vs => exact .inl (Option.some.inj hc).symm

theorem delimited_entryTokens (es : List (String × Json)) (ts : List Token) :
    Delimited ((entryTokens es ts).flatMap Token.text) := by
  intro c hc
  cases es with
  | nil => exact .inr (.inr (Option.some.inj hc).symm)
  | cons e es => exact .inl (Option.some.inj hc).symm

mutual

theorem scans_tokens (v : Json) {ts : List Token} (hts : Scans ts)
    (hdelimited : Delimited (ts.flatMap Token.text)) : Scans (v.tokens ts) := by
  match v with
  | .null => exact hts.cons Token.scan_null
  | .bool b => exact hts.cons (Token.scan_bool b)
  | .number n => exact hts.number n.toNat_lt hdelimited
  | .string s => exact hts.cons (Token.scan_string s)
  | .array [] =>
    have hclose : Scans (.closeArray :: ts) := hts.cons fun _ => Token.scan_cons rfl rfl
    exact hclose.cons fun _ => Token.scan_cons rfl rfl
  | .array (v :: vs) =>
    have hitems := scans_itemTokens vs hts
    have hfirst := scans_tokens v hitems (delimited_itemTokens vs ts)
    exact hfirst.cons fun _ => Token.scan_cons rfl rfl
  | .object [] =>
    have hclose : Scans (.closeObject :: ts) := hts.cons fun _ => Token.scan_cons rfl rfl
    exact hclose.cons fun _ => Token.scan_cons rfl rfl
  | .object ((k, v) :: es) =>
    have hentries := scans_entryTokens es hts
    have hfirst := scans_tokens v hentries (delimited_entryTokens es ts)
    have hcolon : Scans (.colon :: v.tokens (entryTokens es ts)) :=
      hfirst.cons fun _ => Token.scan_cons rfl rfl
    exact (hcolon.cons (Token.scan_string k)).cons fun _ => Token.scan_cons rfl rfl

theorem scans_itemTokens (vs : List Json) {ts : List Token} (hts : Scans ts) :
    Scans (itemTokens vs ts) := by
  match vs with
  | [] => exact hts.cons fun _ => Token.scan_cons rfl rfl
  | v :: vs =>
    have hitems := scans_itemTokens vs hts
    have hfirst := scans_tokens v hitems (delimited_itemTokens vs ts)
    exact hfirst.cons fun _ => Token.scan_cons rfl rfl

theorem scans_entryTokens (es : List (String × Json)) {ts : List Token} (hts : Scans ts) :
    Scans (entryTokens es ts) := by
  match es with
  | [] => exact hts.cons fun _ => Token.scan_cons rfl rfl
  | (k, v) :: es =>
    have hentries := scans_entryTokens es hts
    have hfirst := scans_tokens v hentries (delimited_entryTokens es ts)
    have hcolon : Scans (.colon :: v.tokens (entryTokens es ts)) :=
      hfirst.cons fun _ => Token.scan_cons rfl rfl
    exact (hcolon.cons (Token.scan_string k)).cons fun _ => Token.scan_cons rfl rfl

end

/-- The compact text of a value is read as the draft with its shape, and nothing is left. -/
theorem Draft.ofText_render (v : Json) : ofText v.render = (ofJson v, []) := by
  have hscan : Scans (v.tokens []) := by
    apply v.scans_tokens Scans.nil
    intro c hc
    cases hc
  rw [ofText, Json.render, String.toList_ofList, hscan, value_tokens, next]

end GridWalk.Json

/-! Taking texts apart at fixed words: a word at the start, a word at the end, and the first
occurrence of a separator. -/

namespace GridWalk.Text

/-- What follows `word` in a text that starts with it. -/
def afterPrefix? : (word cs : List Char) → Option (List Char)
  | [], cs => some cs
  | _ :: _, [] => none
  | w :: word, c :: cs => if w = c then afterPrefix? word cs else none

/-- What precedes `word` in a text that ends with it. -/
def beforeSuffix? (word cs : List Char) : Option (List Char) :=
  (afterPrefix? word.reverse cs.reverse).map List.reverse

/-- The parts of a text before and after the first occurrence of `sep`. -/
def cut? (sep : List Char) : List Char → Option (List Char × List Char)
  | [] => if sep.isEmpty then some ([], []) else none
  | c :: cs =>
    match afterPrefix? sep (c :: cs) with
    | some rest => some ([], rest)
    | none => (cut? sep cs).map fun (before, after) => (c :: before, after)

theorem afterPrefix?_eq_some_iff {word cs rest : List Char} :
    afterPrefix? word cs = some rest ↔ cs = word ++ rest := by
  fun_induction afterPrefix? word cs with
  | case1 cs => simp
  | case2 => simp
  | case3 w word cs ih => simp [ih]
  | case4 w word c cs hne => simp [Ne.symm hne]

theorem beforeSuffix?_eq_some_iff {word cs rest : List Char} :
    beforeSuffix? word cs = some rest ↔ cs = rest ++ word := by
  simp only [beforeSuffix?, Option.map_eq_some_iff, afterPrefix?_eq_some_iff]
  constructor
  · rintro ⟨r, hr, rfl⟩
    simpa using congrArg List.reverse hr
  · rintro rfl
    exact ⟨rest.reverse, by simp, by simp⟩

theorem eq_append_of_cut? {sep cs before after : List Char}
    (h : cut? sep cs = some (before, after)) : cs = before ++ sep ++ after := by
  induction cs generalizing before with
  | nil =>
    cases sep <;> simp_all [cut?]
  | cons c cs ih =>
    rw [cut?] at h
    split at h
    next rest hp =>
      obtain ⟨rfl, rfl⟩ : [] = before ∧ rest = after := by simpa using h
      simpa using afterPrefix?_eq_some_iff.1 hp
    next =>
      obtain ⟨⟨b, a⟩, hb, he⟩ := Option.map_eq_some_iff.1 h
      obtain ⟨rfl, rfl⟩ : c :: b = before ∧ a = after := by simpa using he
      simp [ih hb]

end GridWalk.Text

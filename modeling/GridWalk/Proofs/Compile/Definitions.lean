import GridWalk.Proofs.Compile.Blocks
import GridWalk.Proofs.Compile.Cause
import GridWalk.Proofs.Lines
import GridWalk.Proofs.Statement.Grammar

/-! What a program leaves to the lines after it: the values of its variables.  A program of one line
`name=value` for each variable leaves the same, with no steps in its plan. -/

namespace GridWalk

namespace Symbols

variable {name : String} {value : UInt32} {bindings : List (String × UInt32)}

/-- A list that has no name twice is a table of what it lists. -/
theorem lookup_eq_some_iff_mem (h : (bindings.map Prod.fst).Nodup) :
    bindings.lookup name = some value ↔ (name, value) ∈ bindings := by
  induction bindings with
  | nil => simp
  | cons b bindings ih =>
    obtain ⟨first, v⟩ := b
    obtain ⟨hnew, hrest⟩ := List.nodup_cons.1 h
    rw [List.lookup_cons, List.mem_cons, Prod.mk.injEq]
    by_cases heq : name = first
    · subst heq
      have hnot : (name, value) ∉ bindings := fun hmem => hnew (List.mem_map.2 ⟨_, hmem, rfl⟩)
      simp [hnot, eq_comm]
    · have hother : (name == first) = false := by simpa using heq
      simp [hother, heq, ih hrest]

theorem get?_eq_some_iff_mem (s : Symbols) :
    s.get? name = some value ↔ (name, value) ∈ s.bindings :=
  lookup_eq_some_iff_mem s.distinct

/-- The tables give each name the same value. -/
def Agree (s t : Symbols) : Prop := ∀ name, s.get? name = t.get? name

theorem Agree.define {s t : Symbols} (h : s.Agree t) (name : String) (value : UInt32) :
    (s.define name value).Agree (t.define name value) := by
  intro other
  by_cases heq : other = name
  · rw [heq, get?_define_self, get?_define_self]
  · rw [get?_define_of_ne s value heq, get?_define_of_ne t value heq, h other]

/-- The table after a list of definitions. -/
def defineAll (s : Symbols) (bindings : List (String × UInt32)) : Symbols :=
  bindings.foldl (fun s b => s.define b.1 b.2) s

theorem get?_defineAll (s : Symbols) (h : (bindings.map Prod.fst).Nodup) (name : String) :
    (s.defineAll bindings).get? name = (bindings.lookup name).or (s.get? name) := by
  induction bindings generalizing s with
  | nil => rfl
  | cons b bindings ih =>
    obtain ⟨first, v⟩ := b
    obtain ⟨hnew, hrest⟩ := List.nodup_cons.1 h
    have hlater := ih (s.define first v) hrest
    rw [defineAll, List.foldl_cons, ← defineAll, hlater, List.lookup_cons]
    by_cases heq : name = first
    · subst heq
      have hnone : bindings.lookup name = none := by
        rw [Option.eq_none_iff_forall_ne_some]
        intro v' hv'
        exact hnew (List.mem_map.2 ⟨_, (lookup_eq_some_iff_mem hrest).1 hv', rfl⟩)
      simp [hnone]
    · have hother : (name == first) = false := by simpa using heq
      rw [hother, get?_define_of_ne s v heq]

end Symbols

namespace Compile

open Text

/-! ### Lines that define -/

/-- The line that gives a variable a value. -/
def definition (b : String × UInt32) : String := b.1 ++ "=" ++ b.2.toNat.repr

/-- The program whose lines are definitions, followed by the lines of a program. -/
def withDefinitions (bindings : List (String × UInt32)) (program : String) : String :=
  String.join (bindings.map fun b => definition b ++ "\n") ++ program

section Definition

variable {b : String × UInt32}

theorem toList_definition (b : String × UInt32) :
    (definition b).toList = b.1.toList ++ [] ++ ['='] ++ [] ++ numeral b.2.toNat := by
  simp [definition, numeral, Nat.toList_repr]

theorem spells_numeral (value : UInt32) : (Operand.literal value).Spells (numeral value.toNat) := by
  have hnumeral := isNumeral_numeral value.toNat
  simp only [isNumeral, Bool.and_eq_true, Bool.not_eq_true', List.isEmpty_eq_false_iff,
    List.all_eq_true] at hnumeral
  exact .literal hnumeral.1 hnumeral.2 (numeralValue_numeral value.toNat)

theorem spells_definition (h : Name b.1.toList) :
    (Statement.assignment b.1 (.literal b.2)).Spells (definition b).toList := by
  have hspells := Statement.Spells.assignment h Blanks.nil Blanks.nil (spells_numeral b.2)
  rwa [String.ofList_toList, ← toList_definition] at hspells

theorem codeOf_definition (h : Name b.1.toList) :
    Line.codeOf (definition b).toList = (definition b).toList := by
  have hspells := spells_definition h
  have hcomment : ∀ c ∈ ([] : List Char).head?, c = '#' := nofun
  simpa using Statement.codeOf_append hspells.tight hspells.not_mem_hash Blanks.nil Blanks.nil
    hcomment

/-- The words `for` and `if` are names here, since no space follows them. -/
theorem statement_definition (h : Name b.1.toList) (number : UInt32) :
    (Line.mk number (definition b)).statement = .ok (.assignment b.1 (.literal b.2)) := by
  have hassignment := Statement.ofCode_assignment h Blanks.nil Blanks.nil (spells_numeral b.2)
    (fun _ => nofun) fun _ => nofun
  rw [Line.statement, codeOf_definition h, toList_definition, hassignment, String.ofList_toList]

theorem isBlank_definition (h : Name b.1.toList) (number : UInt32) :
    (Line.mk number (definition b)).isBlank = false := by
  rw [Line.isBlank, codeOf_definition h, toList_definition]
  simp

theorem isRaw_definition (h : Name b.1.toList) : Line.IsRaw (definition b).toList := by
  have hsigns {c : Char} (hpart : isNamePart c = false) (hequals : c ≠ '=') :
      c ∉ (definition b).toList := by
    rw [toList_definition]
    simp [h.not_mem hpart, hequals, (spells_numeral b.2).not_mem hpart]
  exact ⟨hsigns (by decide) (by decide),
    fun hlast => hsigns (c := '\r') (by decide) (by decide) (List.mem_of_getLast? hlast)⟩

end Definition

section Program

variable {bindings : List (String × UInt32)}

theorem rawLines_withDefinitions (h : ∀ b ∈ bindings, Name b.1.toList) (program : String) :
    Line.rawLines (withDefinitions bindings program).toList
      = bindings.map (fun b => (definition b).toList) ++ Line.rawLines program.toList := by
  induction bindings with
  | nil => simp [withDefinitions]
  | cons b bindings ih =>
    obtain ⟨hb, hbindings⟩ := List.forall_mem_cons.1 h
    have htext : (withDefinitions (b :: bindings) program).toList
        = (definition b).toList ++ '\n' :: (withDefinitions bindings program).toList := by
      simp [withDefinitions]
    rw [htext, Line.rawLines_append_feed, Line.rawLines_of_isRaw (isRaw_definition hb),
      ih hbindings, List.map_cons, List.singleton_append, List.cons_append]

/-- Reading definitions makes no steps. -/
theorem foldlM_definitions (h : ∀ b ∈ bindings, Name b.1.toList) (start : Nat)
    (symbols : Symbols) (plan : Array Action) :
    (outline (Line.numberedFrom start (bindings.map fun b => (definition b).toList))).foldlM
        (Entry.read none) ⟨symbols, plan⟩
      = .ok ⟨symbols.defineAll bindings, plan⟩ := by
  induction bindings generalizing start symbols with
  | nil =>
    rw [List.map_nil, Line.numberedFrom, List.mapIdx_nil, outline]
    rfl
  | cons b bindings ih =>
    obtain ⟨hb, hbindings⟩ := List.forall_mem_cons.1 h
    have hstatement := statement_definition hb (.ofNat (start + 1))
    have hloop : (Line.mk (.ofNat (start + 1)) (definition b)).isLoop = false := by
      rw [Line.isLoop, hstatement]
    have hmoves : Entry.moves symbols ⟨⟨.ofNat (start + 1), definition b⟩, []⟩
        = .ok (symbols.define b.1 b.2, []) := by
      simp only [Entry.moves, hstatement, resolve]
    rw [List.map_cons, Line.numberedFrom_cons, String.ofList_toList,
      outline_cons_of_not_isLoop (isBlank_definition hb _) hloop, foldlM_read_cons_eq_ok_iff]
    exact ⟨⟨symbols.define b.1 b.2, plan⟩, Entry.read_eq_ok_iff.2 ⟨[], hmoves, rfl⟩,
      ih hbindings (start + 1) (symbols.define b.1 b.2)⟩

end Program

/-! ### The values at the end -/

/-- The bindings, in any order, are one for each variable that a program assigns, to its value at
the end. -/
structure Definitions (program : String) (bindings : List (String × UInt32)) : Prop where
  distinct : (bindings.map Prod.fst).Nodup
  names : ∀ name, name ∈ bindings.map Prod.fst ↔
    ∃ e ∈ outline (Line.ofText program), e.Assigns name
  values : ∀ name value, (name, value) ∈ bindings →
    HasValue (outline (Line.ofText program)) (outline (Line.ofText program)).length
      (.reference name) value

theorem exists_assigns_of_hasValue {entries : List Entry} {k : Nat} {name : String}
    {value : UInt32} (h : HasValue entries k (.reference name) value) :
    ∃ e ∈ entries, e.Assigns name := by
  cases h with
  | @reference j _ e _ operand _ _ entry assigns =>
    exact ⟨e, List.mem_of_getElem? entry, operand, assigns⟩

theorem name_of_spells {name : String} {operand : Operand} {code : List Char}
    (h : (Statement.assignment name operand).Spells code) : Name name.toList := by
  cases h with
  | assignment word => rwa [String.toList_ofList]

theorem name_of_assigns {e : Entry} {name : String} (h : e.Assigns name) : Name name.toList := by
  obtain ⟨operand, hs⟩ := h
  exact name_of_spells (Statement.spells_of_ofCode hs nofun (tight_trim _))

/-- What has been read at the end of a program that compiles. -/
theorem exists_end {program : String} {plan : Plan} (h : compile program .unlimited = .ok plan) :
    ∃ symbols, (outline (Line.ofText program)).foldlM (Entry.read none) .initial
        = .ok ⟨symbols, plan.toArray⟩ ∧
      Tracks (outline (Line.ofText program)) (outline (Line.ofText program)).length symbols := by
  obtain ⟨q, hq, rfl⟩ := planOf_eq_ok_iff.1 h
  have htracks := tracks_of_foldlM List.drop_zero (tracks_initial _) hq
  rw [Nat.zero_add] at htracks
  exact ⟨q.symbols, hq, htracks⟩

section End

variable {program : String} {bindings : List (String × UInt32)} {symbols : Symbols}

theorem Definitions.name (h : Definitions program bindings) :
    ∀ b ∈ bindings, Name b.1.toList := by
  intro b hb
  obtain ⟨e, -, hassigns⟩ := (h.names b.1).1 (List.mem_map_of_mem hb)
  exact name_of_assigns hassigns

/-- The table at the end of a program lists its definitions. -/
theorem definitions_of_end {plan : Array Action}
    (hprogram : (outline (Line.ofText program)).foldlM (Entry.read none) .initial
      = .ok ⟨symbols, plan⟩)
    (htracks : Tracks (outline (Line.ofText program)) (outline (Line.ofText program)).length
      symbols) : Definitions program symbols.bindings := by
  have hvalues (name : String) (value : UInt32) (hmem : (name, value) ∈ symbols.bindings) :=
    (htracks name value).1 (symbols.get?_eq_some_iff_mem.2 hmem)
  refine ⟨symbols.distinct, fun name => ⟨fun hname => ?_, fun hassigned => ?_⟩, hvalues⟩
  · obtain ⟨⟨_, value⟩, hmem, rfl⟩ := List.mem_map.1 hname
    exact exists_assigns_of_hasValue (hvalues _ value hmem)
  · have hdefined := isSome_get?_of_foldlM hprogram (.inr hassigned)
    obtain ⟨value, hvalue⟩ := Option.isSome_iff_exists.1 hdefined
    exact List.mem_map.2 ⟨(name, value), symbols.get?_eq_some_iff_mem.1 hvalue, rfl⟩

/-- The definitions leave the table that the program leaves. -/
theorem Definitions.agree (h : Definitions program bindings)
    (htracks : Tracks (outline (Line.ofText program)) (outline (Line.ofText program)).length
      symbols) : (Symbols.empty.defineAll bindings).Agree symbols := by
  have hlisted {name : String} {value : UInt32} (hmem : (name, value) ∈ bindings) :
      symbols.get? name = some value := (htracks name value).2 (h.values name value hmem)
  intro name
  rw [Symbols.get?_defineAll _ h.distinct, Symbols.get?_empty, Option.or_none]
  refine Option.ext fun value => ?_
  rw [Symbols.lookup_eq_some_iff_mem h.distinct]
  refine ⟨hlisted, fun hvalue => ?_⟩
  have hassigned := exists_assigns_of_hasValue ((htracks name value).1 hvalue)
  obtain ⟨⟨_, value'⟩, hmem, rfl⟩ := List.mem_map.1 ((h.names name).2 hassigned)
  obtain rfl : value' = value := Option.some.inj ((hlisted hmem).symm.trans hvalue)
  exact hmem

end End

end Compile

end GridWalk

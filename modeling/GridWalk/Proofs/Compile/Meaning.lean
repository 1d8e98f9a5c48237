import GridWalk.Proofs.Compile.Outline
import Mathlib.Data.List.Forall2

/-! What a program means, said without a table of variables and without reading lines in turn.  The
value of a name is the value of the right-hand side of the last assignment to it on an earlier line.
`compile_unlimited_iff` says that a program without a limit compiles exactly when it is valid, and
then to the plan that it denotes. -/

namespace GridWalk.Compile

def Entry.Assigns (e : Entry) (name : String) : Prop :=
  ∃ operand, e.line.statement = .ok (.assignment name operand)

/-- The value of an operand before entry `k`.  A name has the value of the right-hand side of the
last assignment to it before `k`, evaluated before that assignment. -/
inductive HasValue (entries : List Entry) : Nat → Operand → UInt32 → Prop
  | literal (k : Nat) (value : UInt32) : HasValue entries k (.literal value) value
  | reference {j k : Nat} {e : Entry} {name : String} {operand : Operand} {value : UInt32}
      (earlier : j < k) (entry : entries[j]? = some e)
      (assigns : e.line.statement = .ok (.assignment name operand))
      (last : ∀ i e', j < i → i < k → entries[i]? = some e' → ¬ e'.Assigns name)
      (value_of : HasValue entries j operand value) :
      HasValue entries k (.reference name) value

/-- The unit steps of the move on a line, with the values of operands before entry `k`. -/
inductive Steps (entries : List Entry) (k : Nat) (line : Line) : Plan → Prop
  | one {direction : Direction} (move : line.statement = .ok (.move direction none)) :
      Steps entries k line [⟨direction, line.number⟩]
  | counted {direction : Direction} {operand : Operand} {count : UInt32}
      (move : line.statement = .ok (.move direction (some operand)))
      (value : HasValue entries k operand count) :
      Steps entries k line (List.replicate count.toNat ⟨direction, line.number⟩)

/-- The unit steps that entry `k` contributes to the plan.  A loop contributes the steps of its body
as often as its count says. -/
inductive Yields (entries : List Entry) (k : Nat) (e : Entry) : Plan → Prop
  | assignment {name : String} {operand : Operand} {value : UInt32}
      (assigns : e.line.statement = .ok (.assignment name operand))
      (value_of : HasValue entries k operand value) : Yields entries k e []
  | move {plan : Plan} (steps : Steps entries k e.line plan) : Yields entries k e plan
  | loop {name : String} {operand : Operand} {count : UInt32} {parts : List Plan}
      (header : e.line.statement = .ok (.loop name operand))
      (value : HasValue entries k operand count)
      (body : List.Forall₂ (Steps entries k) e.body parts) :
      Yields entries k e (List.replicate count.toNat parts.flatten).flatten

/-- The steps that `todo`, the entries from `k` on, contribute in their order. -/
inductive YieldsFrom (entries : List Entry) : Nat → List Entry → Plan → Prop
  | nil (k : Nat) : YieldsFrom entries k [] []
  | cons {k : Nat} {e : Entry} {todo : List Entry} {part plan : Plan}
      (head : Yields entries k e part) (tail : YieldsFrom entries (k + 1) todo plan) :
      YieldsFrom entries k (e :: todo) (part ++ plan)

/-- The plan of a program with the given outline. -/
def Denotes (entries : List Entry) (plan : Plan) : Prop := YieldsFrom entries 0 entries plan

def operandsOf (line : Line) : List Operand :=
  match line.statement with
  | .ok (.assignment _ operand) | .ok (.loop _ operand) | .ok (.move _ (some operand)) => [operand]
  | _ => []

/-- What is right about a program that compiles. -/
structure Valid (entries : List Entry) : Prop where
  /-- Each line at the top level is an assignment, a move or the first line of a loop. -/
  statements : ∀ e ∈ entries, ∃ statement, e.line.statement = .ok statement ∧
    statement ≠ .unsupported
  /-- Each line in the body of a loop is a move. -/
  bodies : ∀ e ∈ entries, ∀ line ∈ e.body, ∃ direction steps,
    line.statement = .ok (.move direction steps)
  /-- Each operand has a value where its entry stands. -/
  operands : ∀ k e, entries[k]? = some e → ∀ line ∈ e.lines, ∀ operand ∈ operandsOf line,
    ∃ value, HasValue entries k operand value

/-! ### The table of variables -/

section Tracking

variable {entries : List Entry} {k : Nat} {e : Entry} {name : String}

/-- The table holds the values that names have before entry `k`. -/
def Tracks (entries : List Entry) (k : Nat) (symbols : Symbols) : Prop :=
  ∀ name value, symbols.get? name = some value ↔ HasValue entries k (.reference name) value

theorem hasValue_literal_iff {value value' : UInt32} :
    HasValue entries k (.literal value) value' ↔ value = value' := by
  constructor
  · intro h
    cases h
    rfl
  · rintro rfl
    exact .literal k value

theorem not_hasValue_reference_zero {value : UInt32} :
    ¬ HasValue entries 0 (.reference name) value := by
  intro h
  cases h with
  | reference earlier => exact absurd earlier (Nat.not_lt_zero _)

/-- Right after an assignment to a name, its right-hand side is what counts. -/
theorem hasValue_succ_of_assigns {operand : Operand} {value : UInt32}
    (he : entries[k]? = some e) (ha : e.line.statement = .ok (.assignment name operand)) :
    HasValue entries (k + 1) (.reference name) value ↔ HasValue entries k operand value := by
  constructor
  · intro h
    cases h with
    | @reference j _ e' _ operand' _ earlier entry assigns last value_of =>
      rcases Nat.lt_or_eq_of_le (Nat.le_of_lt_succ earlier) with hlt | rfl
      · exact absurd ⟨operand, ha⟩ (last k e hlt (Nat.lt_succ_self k) he)
      · obtain rfl : e' = e := Option.some.inj (entry.symm.trans he)
        have same : operand' = operand := by
          have := assigns.symm.trans ha
          simpa using this
        exact same ▸ value_of
  · intro h
    refine .reference (Nat.lt_succ_self k) he ha (fun i _ hlow hhigh => ?_) h
    omega

theorem hasValue_succ_of_not_assigns {value : UInt32} (he : entries[k]? = some e)
    (ha : ¬ e.Assigns name) :
    HasValue entries (k + 1) (.reference name) value
      ↔ HasValue entries k (.reference name) value := by
  constructor
  · intro h
    cases h with
    | @reference j _ e' _ operand _ earlier entry assigns last value_of =>
      have hne : j ≠ k := by
        rintro rfl
        obtain rfl : e' = e := Option.some.inj (entry.symm.trans he)
        exact ha ⟨operand, assigns⟩
      exact .reference (by omega) entry assigns
        (fun i e'' hlow hhigh => last i e'' hlow (Nat.lt_succ_of_lt hhigh)) value_of
  · intro h
    cases h with
    | @reference j _ e' _ operand _ earlier entry assigns last value_of =>
      refine .reference (Nat.lt_succ_of_lt earlier) entry assigns (fun i e'' hlow hhigh hi => ?_)
        value_of
      rcases Nat.lt_or_eq_of_le (Nat.le_of_lt_succ hhigh) with hlt | rfl
      · exact last i e'' hlow hlt hi
      · obtain rfl : e'' = e := Option.some.inj (hi.symm.trans he)
        exact ha

theorem tracks_initial (entries : List Entry) : Tracks entries 0 .empty := by
  intro name value
  rw [Symbols.get?_empty]
  exact ⟨(nomatch ·), fun h => absurd h not_hasValue_reference_zero⟩

theorem resolve_eq_ok_iff {symbols : Symbols} (ht : Tracks entries k symbols) {operand : Operand}
    {value : UInt32} : resolve symbols operand = .ok value ↔ HasValue entries k operand value := by
  cases operand with
  | literal value' =>
    rw [hasValue_literal_iff, resolve]
    exact ⟨fun h => Except.ok.inj h, congrArg _⟩
  | reference name =>
    rw [← ht name value, resolve]
    cases symbols.get? name with
    | none => exact ⟨(nomatch ·), (nomatch ·)⟩
    | some value' =>
      exact ⟨fun h => congrArg _ (Except.ok.inj h), fun h => congrArg _ (Option.some.inj h)⟩

theorem tracks_define {symbols : Symbols} {operand : Operand} {value : UInt32}
    (ht : Tracks entries k symbols) (he : entries[k]? = some e)
    (ha : e.line.statement = .ok (.assignment name operand))
    (hv : resolve symbols operand = .ok value) :
    Tracks entries (k + 1) (symbols.define name value) := by
  intro other value'
  by_cases hname : other = name
  · subst hname
    rw [Symbols.get?_define_self, hasValue_succ_of_assigns he ha, ← resolve_eq_ok_iff ht, hv]
    exact ⟨fun h => congrArg _ (Option.some.inj h), fun h => congrArg _ (Except.ok.inj h)⟩
  · have hnot : ¬ e.Assigns other := by
      rintro ⟨operand', ha'⟩
      have := ha'.symm.trans ha
      simp only [Except.ok.injEq, Statement.assignment.injEq] at this
      exact hname this.1
    rw [Symbols.get?_define_of_ne _ _ hname, hasValue_succ_of_not_assigns he hnot]
    exact ht other value'

theorem tracks_succ {symbols : Symbols} (ht : Tracks entries k symbols)
    (he : entries[k]? = some e) (ha : ∀ name, ¬ e.Assigns name) :
    Tracks entries (k + 1) symbols := by
  intro name value
  rw [hasValue_succ_of_not_assigns he (ha name)]
  exact ht name value

end Tracking

/-! ### The steps of entries -/

section Steps

variable {entries : List Entry} {k : Nat} {symbols : Symbols}

theorem steps_iff (ht : Tracks entries k symbols) {line : Line} {part : Plan} :
    Steps entries k line part ↔ ∃ m, bodyMove symbols line = .ok m ∧ m.plan = part := by
  constructor
  · intro h
    cases h with
    | @one direction move =>
      exact ⟨_, bodyMove_eq_ok_iff.2 ⟨direction, none, 1, move, rfl, rfl⟩, rfl⟩
    | @counted direction operand count move value =>
      have hc := (resolve_eq_ok_iff ht).2 value
      exact ⟨_, bodyMove_eq_ok_iff.2 ⟨direction, some operand, count, move, hc, rfl⟩, rfl⟩
  · rintro ⟨m, hm, rfl⟩
    obtain ⟨direction, steps, count, hs, hc, rfl⟩ := bodyMove_eq_ok_iff.1 hm
    cases steps with
    | none =>
      obtain rfl : 1 = count := Except.ok.inj hc
      exact .one hs
    | some operand => exact .counted hs ((resolve_eq_ok_iff ht).1 hc)

theorem forall₂_steps_iff (ht : Tracks entries k symbols) {body : List Line}
    {parts : List Plan} : List.Forall₂ (Steps entries k) body parts
      ↔ ∃ moves, bodyMoves symbols body = .ok moves ∧ moves.map Move.plan = parts := by
  induction body generalizing parts with
  | nil =>
    rw [List.forall₂_nil_left_iff]
    constructor
    · rintro rfl
      exact ⟨[], rfl, rfl⟩
    · rintro ⟨moves, hm, rfl⟩
      obtain rfl : [] = moves := Except.ok.inj hm
      rfl
  | cons line body ih =>
    rw [List.forall₂_cons_left_iff]
    constructor
    · rintro ⟨part, rest, hpart, hrest, rfl⟩
      obtain ⟨m, hm, rfl⟩ := (steps_iff ht).1 hpart
      obtain ⟨moves, hmoves, rfl⟩ := ih.1 hrest
      exact ⟨m :: moves, bodyMoves_cons_eq_ok_iff.2 ⟨m, moves, hm, hmoves, rfl⟩, rfl⟩
    · rintro ⟨moves, hmoves, rfl⟩
      obtain ⟨m, rest, hm, hrest, rfl⟩ := bodyMoves_cons_eq_ok_iff.1 hmoves
      exact ⟨m.plan, rest.map Move.plan, (steps_iff ht).2 ⟨m, hm, rfl⟩, ih.2 ⟨rest, hrest, rfl⟩,
        rfl⟩

theorem yields_iff (ht : Tracks entries k symbols) {e : Entry} {part : Plan} :
    Yields entries k e part
      ↔ ∃ symbols' moves, e.moves symbols = .ok (symbols', moves) ∧
        moves.flatMap Move.plan = part := by
  constructor
  · intro h
    cases h with
    | @assignment name operand value assigns value_of =>
      have hv := (resolve_eq_ok_iff ht).2 value_of
      exact ⟨symbols.define name value, [], by simp only [Entry.moves, assigns, hv], rfl⟩
    | move steps =>
      obtain ⟨m, hm, rfl⟩ := (steps_iff ht).1 steps
      obtain ⟨direction, operand, count, hs, hc, rfl⟩ := bodyMove_eq_ok_iff.1 hm
      exact ⟨symbols, [⟨direction, count, e.line⟩], by simp only [Entry.moves, hs, hc],
        List.flatMap_singleton ..⟩
    | @loop name operand count parts header value body =>
      have hc := (resolve_eq_ok_iff ht).2 value
      obtain ⟨moves, hmoves, rfl⟩ := (forall₂_steps_iff ht).1 body
      refine ⟨symbols, Entry.repeated moves count, ?_, ?_⟩
      · simp only [Entry.moves, header, hc, hmoves, Except.map]
      · rw [Entry.plan_repeated, List.flatMap_def]
  · rintro ⟨symbols', moves, h, rfl⟩
    rcases Entry.moves_cases h with ⟨name, operand, value, hs, hv, -, rfl⟩ |
      ⟨direction, steps, count, hs, hc, -, rfl⟩ | ⟨name, operand, count, body, hs, hc, hb, -, rfl⟩
    · exact .assignment hs ((resolve_eq_ok_iff ht).1 hv)
    · have hm := bodyMove_eq_ok_iff.2 ⟨direction, steps, count, hs, hc, rfl⟩
      rw [List.flatMap_singleton]
      exact .move ((steps_iff ht).2 ⟨_, hm, rfl⟩)
    · rw [Entry.plan_repeated, List.flatMap_def]
      exact .loop hs ((resolve_eq_ok_iff ht).1 hc) ((forall₂_steps_iff ht).2 ⟨body, hb, rfl⟩)

theorem tracks_moves (ht : Tracks entries k symbols) {e : Entry} {symbols' : Symbols}
    {moves : List Move} (he : entries[k]? = some e)
    (h : e.moves symbols = .ok (symbols', moves)) : Tracks entries (k + 1) symbols' := by
  rcases Entry.moves_cases h with ⟨name, operand, value, hs, hv, rfl, -⟩ |
    ⟨direction, steps, count, hs, -, rfl, -⟩ | ⟨name, operand, count, body, hs, -, -, rfl, -⟩
  · exact tracks_define ht he hs hv
  · refine tracks_succ ht he fun other hother => ?_
    obtain ⟨operand, ha⟩ := hother
    cases hs.symm.trans ha
  · refine tracks_succ ht he fun other hother => ?_
    obtain ⟨operand, ha⟩ := hother
    cases hs.symm.trans ha

end Steps

theorem entry_of_drop_eq_cons {entries todo : List Entry} {k : Nat} {e : Entry}
    (h : entries.drop k = e :: todo) :
    entries[k]? = some e ∧ entries.drop (k + 1) = todo := by
  constructor
  · rw [← List.head?_drop, h, List.head?_cons]
  · rw [← List.tail_drop, h, List.tail_cons]

theorem foldlM_of_yieldsFrom {entries todo : List Entry} {k : Nat} {p : Progress} {plan : Plan}
    (hdrop : entries.drop k = todo) (ht : Tracks entries k p.symbols)
    (h : YieldsFrom entries k todo plan) :
    ∃ p', todo.foldlM (Entry.read none) p = .ok p' ∧
      p'.actions.toList = p.actions.toList ++ plan := by
  induction h generalizing p with
  | nil k => exact ⟨p, rfl, (List.append_nil _).symm⟩
  | @cons k e todo part plan head tail ih =>
    obtain ⟨he, hrest⟩ := entry_of_drop_eq_cons hdrop
    obtain ⟨symbols, moves, hm, rfl⟩ := (yields_iff ht).1 head
    obtain ⟨p', hp, hplan⟩ := ih (p := ⟨symbols, _⟩) hrest (tracks_moves ht he hm)
    refine ⟨p', ?_, ?_⟩
    · rw [List.foldlM_cons, Entry.read_none hm]
      exact hp
    · rw [hplan, Array.toList_append, List.append_assoc]

theorem yieldsFrom_of_foldlM {entries todo : List Entry} {k : Nat} {p p' : Progress}
    (hdrop : entries.drop k = todo) (ht : Tracks entries k p.symbols)
    (h : todo.foldlM (Entry.read none) p = .ok p') :
    ∃ plan, YieldsFrom entries k todo plan ∧
      p'.actions.toList = p.actions.toList ++ plan := by
  induction todo generalizing k p with
  | nil =>
    obtain rfl : p = p' := Except.ok.inj h
    exact ⟨[], .nil k, (List.append_nil _).symm⟩
  | cons e todo ih =>
    obtain ⟨he, hrest⟩ := entry_of_drop_eq_cons hdrop
    obtain ⟨symbols, moves, hm, htodo⟩ := foldlM_none_cons_eq_ok h
    obtain ⟨plan, hyields, hplan⟩ := ih hrest (tracks_moves ht he hm) htodo
    refine ⟨_, .cons ((yields_iff ht).2 ⟨symbols, moves, hm, rfl⟩) hyields, ?_⟩
    rw [hplan, Array.toList_append, List.append_assoc]

theorem tracks_of_foldlM {entries todo : List Entry} {k : Nat} {p p' : Progress}
    (hdrop : entries.drop k = todo) (ht : Tracks entries k p.symbols)
    (h : todo.foldlM (Entry.read none) p = .ok p') :
    Tracks entries (k + todo.length) p'.symbols := by
  induction todo generalizing k p with
  | nil =>
    obtain rfl : p = p' := Except.ok.inj h
    exact ht
  | cons e todo ih =>
    obtain ⟨he, hrest⟩ := entry_of_drop_eq_cons hdrop
    obtain ⟨symbols, moves, hm, htodo⟩ := foldlM_none_cons_eq_ok h
    have htracks := ih hrest (tracks_moves ht he hm) htodo
    rwa [Nat.add_right_comm, Nat.add_assoc] at htracks

theorem planOf_unlimited_eq_ok_iff {lines : List Line} {plan : Plan} :
    planOf lines .unlimited = .ok plan ↔ Denotes (outline lines) plan := by
  have ht := tracks_initial (outline lines)
  rw [CompilerOptions.unlimited, planOf_eq_ok_iff]
  constructor
  · rintro ⟨p, hp, rfl⟩
    obtain ⟨plan, hyields, hplan⟩ := yieldsFrom_of_foldlM List.drop_zero ht hp
    rw [hplan]
    exact hyields
  · intro h
    obtain ⟨p, hp, hplan⟩ := foldlM_of_yieldsFrom (p := .initial) List.drop_zero ht h
    exact ⟨p, hp, hplan⟩

/-! ### Programs that denote a plan -/

section Valid

variable {entries : List Entry} {k : Nat}

theorem exists_steps_iff {line : Line} :
    (∃ part, Steps entries k line part) ↔
      (∃ direction steps, line.statement = .ok (.move direction steps)) ∧
      ∀ operand ∈ operandsOf line, ∃ value, HasValue entries k operand value := by
  constructor
  · rintro ⟨part, h⟩
    cases h with
    | @one direction move => exact ⟨⟨direction, none, move⟩, by simp [operandsOf, move]⟩
    | @counted direction operand count move value =>
      refine ⟨⟨direction, some operand, move⟩, fun operand' ho => ?_⟩
      obtain rfl : operand' = operand := by simpa [operandsOf, move] using ho
      exact ⟨count, value⟩
  · rintro ⟨⟨direction, steps, hs⟩, hvalues⟩
    cases steps with
    | none => exact ⟨_, .one hs⟩
    | some operand =>
      obtain ⟨count, hc⟩ := hvalues operand (by simp [operandsOf, hs])
      exact ⟨_, .counted hs hc⟩

theorem exists_forall₂_steps_iff {body : List Line} :
    (∃ parts, List.Forall₂ (Steps entries k) body parts)
      ↔ ∀ line ∈ body, ∃ part, Steps entries k line part := by
  induction body with
  | nil =>
    constructor
    · intro _ line hline
      cases hline
    · intro _
      exact ⟨[], .nil⟩
  | cons line body ih =>
    rw [List.forall_mem_cons, ← ih]
    constructor
    · rintro ⟨parts, h⟩
      cases h with
      | cons head tail => exact ⟨⟨_, head⟩, ⟨_, tail⟩⟩
    · rintro ⟨⟨part, head⟩, ⟨parts, tail⟩⟩
      exact ⟨part :: parts, .cons head tail⟩

/-- An entry yields steps when its statement, its body and its operands are right. -/
theorem exists_yields_iff {e : Entry} (hbody : e.line.isLoop = false → e.body = []) :
    (∃ part, Yields entries k e part) ↔
      (∃ statement, e.line.statement = .ok statement ∧ statement ≠ .unsupported) ∧
      (∀ line ∈ e.body, ∃ direction steps, line.statement = .ok (.move direction steps)) ∧
      ∀ line ∈ e.lines, ∀ operand ∈ operandsOf line, ∃ value, HasValue entries k operand value := by
  have alone {statement : Statement} (hs : e.line.statement = .ok statement)
      (hne : ∀ name count, statement ≠ .loop name count) : e.body = [] := by
    refine hbody (Bool.eq_false_iff.2 fun hloop => ?_)
    obtain ⟨name, count, hloop⟩ := Line.isLoop_eq_true_iff.1 hloop
    exact hne name count (Except.ok.inj (hs.symm.trans hloop))
  rw [Entry.lines, List.forall_mem_cons]
  constructor
  · rintro ⟨part, h⟩
    cases h with
    | @assignment name operand value assigns value_of =>
      have hnil := alone assigns (by simp)
      refine ⟨⟨_, assigns, by simp⟩, by simp [hnil], fun operand' ho => ?_, by simp [hnil]⟩
      obtain rfl : operand' = operand := by simpa [operandsOf, assigns] using ho
      exact ⟨value, value_of⟩
    | move steps =>
      obtain ⟨⟨direction, operand, hs⟩, hvalues⟩ := exists_steps_iff.1 ⟨part, steps⟩
      have hnil := alone hs (by simp)
      exact ⟨⟨_, hs, by simp⟩, by simp [hnil], hvalues, by simp [hnil]⟩
    | @loop name operand count parts header value body =>
      have hlines := exists_forall₂_steps_iff.1 ⟨parts, body⟩
      refine ⟨⟨_, header, by simp⟩, fun line hline => (exists_steps_iff.1 (hlines line hline)).1,
        fun operand' ho => ?_, fun line hline => (exists_steps_iff.1 (hlines line hline)).2⟩
      obtain rfl : operand' = operand := by simpa [operandsOf, header] using ho
      exact ⟨count, value⟩
  · rintro ⟨⟨statement, hs, hne⟩, hmoves, hhead, htail⟩
    cases statement with
    | assignment name operand =>
      obtain ⟨value, hv⟩ := hhead operand (by simp [operandsOf, hs])
      exact ⟨_, .assignment hs hv⟩
    | loop name operand =>
      obtain ⟨count, hc⟩ := hhead operand (by simp [operandsOf, hs])
      obtain ⟨parts, hparts⟩ := exists_forall₂_steps_iff.2 fun line hline =>
        exists_steps_iff.2 ⟨hmoves line hline, htail line hline⟩
      exact ⟨_, .loop hs hc hparts⟩
    | move direction steps =>
      obtain ⟨part, hpart⟩ := exists_steps_iff.2 ⟨⟨direction, steps, hs⟩, hhead⟩
      exact ⟨part, .move hpart⟩
    | unsupported => exact absurd rfl hne

theorem exists_yieldsFrom_iff {todo : List Entry} :
    (∃ plan, YieldsFrom entries k todo plan)
      ↔ ∀ i e, todo[i]? = some e → ∃ part, Yields entries (k + i) e part := by
  induction todo generalizing k with
  | nil =>
    constructor
    · intro _ i e hi
      simp at hi
    · intro _
      exact ⟨[], .nil k⟩
  | cons e todo ih =>
    constructor
    · rintro ⟨plan, h⟩ i e' hi
      cases h with
      | cons head tail =>
        cases i with
        | zero =>
          obtain rfl : e = e' := by simpa using hi
          exact ⟨_, head⟩
        | succ i =>
          have := ih.1 ⟨_, tail⟩ i e' (by simpa using hi)
          rwa [Nat.add_right_comm, Nat.add_assoc] at this
    · intro h
      obtain ⟨part, head⟩ := h 0 e (by simp)
      obtain ⟨plan, tail⟩ := (ih (k := k + 1)).2 fun i e' hi => by
        have := h (i + 1) e' (by simpa using hi)
        rwa [Nat.add_right_comm, Nat.add_assoc]
      exact ⟨part ++ plan, .cons head tail⟩

theorem exists_denotes_iff (lines : List Line) :
    (∃ plan, Denotes (outline lines) plan) ↔ Valid (outline lines) := by
  have entry {k : Nat} {e : Entry} (he : (outline lines)[k]? = some e) :=
    @exists_yields_iff (outline lines) k e (body_eq_nil_of_mem_outline (List.mem_of_getElem? he))
  unfold Denotes
  rw [exists_yieldsFrom_iff]
  simp only [Nat.zero_add]
  constructor
  · intro h
    refine ⟨fun e he => ?_, fun e he => ?_, fun k e he => ((entry he).1 (h k e he)).2.2⟩
    · obtain ⟨k, hk⟩ := List.mem_iff_getElem?.1 he
      exact ((entry hk).1 (h k e hk)).1
    · obtain ⟨k, hk⟩ := List.mem_iff_getElem?.1 he
      exact ((entry hk).1 (h k e hk)).2.1
  · intro h k e he
    have hmem := List.mem_of_getElem? he
    exact (entry he).2 ⟨h.statements e hmem, h.bodies e hmem, h.operands k e he⟩

end Valid

/-- A program without a limit compiles exactly when it is valid, and to the plan that it denotes. -/
theorem compile_unlimited_iff (program : String) :
    ((∃ plan, compile program .unlimited = .ok plan) ↔ Valid (outline (Line.ofText program))) ∧
    ∀ plan, compile program .unlimited = .ok plan
      ↔ Denotes (outline (Line.ofText program)) plan := by
  have denotes (plan : Plan) :
      compile program .unlimited = .ok plan ↔ Denotes (outline (Line.ofText program)) plan :=
    planOf_unlimited_eq_ok_iff
  refine ⟨?_, denotes⟩
  rw [← exists_denotes_iff]
  exact exists_congr denotes

end GridWalk.Compile

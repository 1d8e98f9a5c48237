/-! The variables of a program.  A name has one value at a time, and a new assignment replaces the
value that was there. -/

namespace GridWalk

structure Symbols where
  bindings : List (String × UInt32)
  distinct : (bindings.map Prod.fst).Nodup
  deriving DecidableEq, Repr

namespace Symbols

def empty : Symbols := ⟨[], .nil⟩

instance : Inhabited Symbols := ⟨empty⟩

def get? (s : Symbols) (name : String) : Option UInt32 := s.bindings.lookup name

def size (s : Symbols) : Nat := s.bindings.length

def isEmpty (s : Symbols) : Bool := s.bindings.isEmpty

/-- The table in which `name` has the value `value` and all other names keep theirs. -/
def define (s : Symbols) (name : String) (value : UInt32) : Symbols where
  bindings := (name, value) :: s.bindings.filter fun b => b.1 != name
  distinct := by
    refine List.nodup_cons.2 ⟨?_, s.distinct.sublist ((List.filter_sublist).map _)⟩
    simp

@[simp] theorem get?_empty (name : String) : empty.get? name = none := rfl

@[simp] theorem get?_define_self (s : Symbols) (name : String) (value : UInt32) :
    (s.define name value).get? name = some value := by
  simp [get?, define]

theorem get?_define_of_ne (s : Symbols) {name other : String} (value : UInt32)
    (h : other ≠ name) : (s.define name value).get? other = s.get? other := by
  have hne : (other == name) = false := by simpa using h
  simp only [get?, define, List.lookup_cons, hne]
  induction s.bindings with
  | nil => rfl
  | cons b bs ih =>
    by_cases hb : b.1 = name
    · have : (other == b.1) = false := by simpa [hb] using h
      rw [List.filter_cons_of_neg (by simp [hb]), ih, List.lookup_cons, this]
    · rw [List.filter_cons_of_pos (by simp [hb]), List.lookup_cons, List.lookup_cons, ih]

end Symbols

end GridWalk

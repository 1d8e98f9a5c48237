import GridWalk.Json.Codec

/-! Codecs of records.  A record is written as an object with its fields in their order.  It is read
from an object, where the order of the fields is free and unknown fields are passed over, or from an
array of the field values in their order. -/

namespace GridWalk.Json

structure Field (α : Type) where
  name : String
  codec : Codec α
  /-- The value when an object lacks the field. -/
  absent : Option α
  /-- The value when an array ends before the field. -/
  short : Option α
  /-- The values for which the field is left out. -/
  omits : α → Bool

namespace Field

variable {α : Type}

/-- A field that is always there. -/
def required (name : String) (codec : Codec α) : Field α :=
  ⟨name, codec, none, none, fun _ => false⟩

/-- A field that can be `null` and that an object may lack. -/
def optional (name : String) (codec : Codec α) : Field (Option α) :=
  ⟨name, codec.option, some none, none, fun _ => false⟩

/-- An optional field that an array may lack too. -/
def defaulted (name : String) (codec : Codec α) : Field (Option α) :=
  { optional name codec with short := some none }

/-- The field with its absent values left out. -/
def omitting (f : Field (Option α)) : Field (Option α) :=
  { f with omits := Option.isNone }

end Field

inductive Fields : List Type → Type 1 where
  | nil : Fields []
  | cons {α : Type} {ts : List Type} (f : Field α) (fs : Fields ts) : Fields (α :: ts)

def Values : List Type → Type
  | [] => Unit
  | α :: ts => α × Values ts

/-- The values of the fields that were read so far. -/
def Slots : List Type → Type
  | [] => Unit
  | α :: ts => Option α × Slots ts

namespace Fields

variable {ts : List Type}

def count : {ts : List Type} → Fields ts → Nat
  | _, nil => 0
  | _, cons _ fs => fs.count + 1

def entries : {ts : List Type} → Fields ts → Values ts → List (String × Json)
  | _, nil, _ => []
  | _, cons f fs, (v, vs) =>
    if f.omits v then fs.entries vs else (f.name, f.codec.encode v) :: fs.entries vs

def unread : {ts : List Type} → Fields ts → Slots ts
  | _, nil => ()
  | _, cons _ fs => (none, fs.unread)

/-- Reads the value of the field named `key`.  There is no result when no field has that name. -/
def put? : {ts : List Type} → Fields ts → Access → Slots ts → String → Draft →
    Option (Except Fault (Slots ts))
  | _, nil, _, _, _, _ => none
  | _, cons f fs, access, (slot, slots), key, d =>
    if f.name = key then
      match slot with
      | some _ => some (.error (.duplicateField key))
      | none => some ((f.codec.decode access d).map fun v => (some v, slots))
    else (fs.put? access slots key d).map fun result => result.map fun slots => (slot, slots)

def close : {ts : List Type} → Fields ts → Slots ts → Except Fault (Values ts)
  | _, nil, _ => .ok ()
  | _, cons f fs, (slot, slots) =>
    match slot.or f.absent with
    | none => .error (.missingField f.name)
    | some v => (fs.close slots).map fun vs => (v, vs)

/-- Reads the entries of an object in turn.  A field that is there twice is a fault before its
second value is read.  The value of an unknown field only has to be whole. -/
def readEntries (fs : Fields ts) (access : Access) :
    Slots ts → List (Option String × Draft) → Except Fault (Slots ts)
  | slots, [] => .ok slots
  | _, (none, _) :: _ => .error .malformed
  | slots, (some key, d) :: rest =>
    match fs.put? access slots key d with
    | some (.ok slots) => readEntries fs access slots rest
    | some (.error fault) => .error fault
    | none => if d.isWhole then readEntries fs access slots rest else .error .malformed

/-- Reads the items of an array in turn.  The second result is the list of the items that are left.
`index` counts the items before these, and `expected` is what the message about a short array says
there should be. -/
def readItems (access : Access) (ending : Ending) (expected : String) :
    {ts : List Type} → Fields ts → Nat → List Draft → Except Fault (Values ts × List Draft)
  | _, nil, _, items => .ok ((), items)
  | _, cons f fs, index, d :: items =>
    match f.codec.decode access d with
    | .error fault => .error fault
    | .ok v =>
      (readItems access ending expected fs (index + 1) items).map fun (vs, left) => ((v, vs), left)
  | _, cons f fs, index, [] =>
    match ending, f.short with
    | .broken, _ => .error .malformed
    | .closed, none => .error (.invalidLength index expected)
    | .closed, some v =>
      (readItems access ending expected fs (index + 1) []).map fun (vs, left) => ((v, vs), left)

def decodeObject (fs : Fields ts) (access : Access) (entries : List (Option String × Draft))
    (ending : Ending) : Except Fault (Values ts) :=
  match fs.readEntries access fs.unread entries with
  | .error fault => .error fault
  | .ok slots => Codec.whenClosed ending (fs.close slots)

/-- What to say about items that no field takes. -/
def leftover (access : Access) (count left : Nat) : Fault :=
  match access with
  | .text _ => .malformed
  | .buffer => .invalidLength (count + left) (Fault.elements count ++ " in sequence")

/-- Reads a record from the items of an array.  `label` is what messages call the record. -/
def decodeArray (fs : Fields ts) (label : String) (access : Access) (items : List Draft)
    (ending : Ending) : Except Fault (Values ts) :=
  match readItems access ending (label ++ " with " ++ Fault.elements fs.count) fs 0 items with
  | .error fault => .error fault
  | .ok (vs, []) => Codec.whenClosed ending (.ok vs)
  | .ok (_, left) => .error (leftover access fs.count left.length)

def decode (fs : Fields ts) (label : String) (access : Access) :
    Draft → Except Fault (Values ts)
  | .array items ending =>
    match access.inside? with
    | none => .error .malformed
    | some inside => fs.decodeArray label inside items ending
  | .object entries ending =>
    match access.inside? with
    | none => .error .malformed
    | some inside => fs.decodeObject inside entries ending
  | d => .error (d.mismatch label)

end Fields

def Codec.record {α : Type} {ts : List Type} (name : String) (fs : Fields ts)
    (ofValues : Values ts → α) (toValues : α → Values ts) : Codec α where
  encode a := .object (fs.entries (toValues a))
  decode access d := (fs.decode ("struct " ++ name) access d).map ofValues

end GridWalk.Json

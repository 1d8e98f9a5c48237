import GridWalk.Json.Record

/-! Codecs of types with several variants that have fields of their own.  A value is written as an
object whose first entry, the tag, names the variant.  It is read from an object with the tag
anywhere, or from an array of the tag and the field values.  The other parts are read as sound
values first, and as fields once all of them and the tag are known. -/

namespace GridWalk.Json

/-- One variant of a type: its name, and how it is read from what stands beside the tag. -/
structure Variant (α : Type) where
  name : String
  decode : Draft → Except Fault α

namespace Variant

variable {α : Type}

def record {ts : List Type} (type name label : String) (fs : Fields ts)
    (ofValues : Values ts → α) : Variant α :=
  ⟨name, fun d => (fs.decode ("struct variant " ++ type ++ "::" ++ label) .buffer d).map ofValues⟩

/-- A variant without fields.  It allows any entries beside the tag and no items. -/
def unit (name : String) (a : α) : Variant α where
  name := name
  decode
    | .array (d :: ds) _ =>
      .error (.invalidLength (d :: ds).length (Fault.elements 0 ++ " in sequence"))
    | _ => .ok a

end Variant

namespace Tagged

variable {α : Type}

/-- The variant that the value of a tag names.  In a buffer an integer that is not negative stands
for the variant with that index. -/
def readTag (variants : List (Variant α)) (access : Access) : Draft → Except Fault (Variant α)
  | .string (some s) =>
    match variants.find? fun v => v.name == s with
    | some v => .ok v
    | none => .error (.unknownVariant s (variants.map Variant.name))
  | d =>
    match access, d with
    | .buffer, .number (some (.integer n)) =>
      if n < 0 then .error (d.mismatch "variant identifier")
      else
        match variants[n.toNat]? with
        | some v => .ok v
        | none =>
          .error (.invalidValue (.number (.integer n))
            ("variant index 0 <= i < " ++ variants.length.repr))
    | _, d => .error (d.mismatch "variant identifier")

/-- What can be kept of a value until its type is known: all of it, if it is sound. -/
def isKept (access : Access) (d : Draft) : Bool :=
  match access with
  | .text room => d.isSound room
  | .buffer => true

/-- The variant that the tag names, once it was read, and the other entries with the last one
first. -/
structure Split (α : Type) where
  variant : Option (Variant α)
  others : List (Option String × Draft)

def readEntries (tag : String) (variants : List (Variant α)) (access : Access) :
    Split α → List (Option String × Draft) → Except Fault (Split α)
  | s, [] => .ok s
  | _, (none, _) :: _ => .error .malformed
  | s, (some key, d) :: rest =>
    if key = tag then
      match s.variant with
      | some _ => .error (.duplicateField tag)
      | none =>
        match readTag variants access d with
        | .error fault => .error fault
        | .ok v => readEntries tag variants access { s with variant := some v } rest
    else if isKept access d then
      readEntries tag variants access { s with others := (some key, d) :: s.others } rest
    else .error .malformed

def decodeObject (tag : String) (variants : List (Variant α)) (access : Access)
    (entries : List (Option String × Draft)) (ending : Ending) : Except Fault α :=
  match readEntries tag variants access ⟨none, []⟩ entries with
  | .error fault => .error fault
  | .ok s =>
    Codec.whenClosed ending <|
      match s.variant with
      | none => .error (.missingField tag)
      | some v => v.decode (.object s.others.reverse .closed)

def decodeArray (tag : String) (variants : List (Variant α)) (access : Access)
    (items : List Draft) (ending : Ending) : Except Fault α :=
  match items with
  | [] => Codec.whenClosed ending (.error (.missingField tag))
  | d :: ds =>
    match readTag variants access d with
    | .error fault => .error fault
    | .ok v =>
      if ds.all (isKept access) then Codec.whenClosed ending (v.decode (.array ds .closed))
      else .error .malformed

def decode (type tag : String) (variants : List (Variant α)) (access : Access) :
    Draft → Except Fault α
  | .array items ending =>
    match access.inside? with
    | none => .error .malformed
    | some inside => decodeArray tag variants inside items ending
  | .object entries ending =>
    match access.inside? with
    | none => .error .malformed
    | some inside => decodeObject tag variants inside entries ending
  | d => .error (d.mismatch ("internally tagged enum " ++ type))

end Tagged

/-- The codec of a type with variants.  `write` gives the name of the variant of a value and the
entries of its fields. -/
def Codec.tagged {α : Type} (type tag : String) (variants : List (Variant α))
    (write : α → String × List (String × Json)) : Codec α where
  encode a :=
    let (name, entries) := write a
    .object ((tag, .string name) :: entries)
  decode := Tagged.decode type tag variants

end GridWalk.Json

import GridWalk.Json.Codec

/-! Codecs of types with finitely many values, each of which has a name.  A value is written as its
name.  It is read from its name or from an object that has the name as its only key and `null` as
the value of that key. -/

namespace GridWalk.Json.Choice

variable {α : Type}

def ofName (all : List α) (name : α → String) (s : String) : Except Fault α :=
  match all.find? fun a => name a == s with
  | some a => .ok a
  | none => .error (.unknownVariant s (all.map name))

/-- The draft stands for no value at all: it is `null` or, in a buffer, an object without
entries. -/
def isUnit (access : Access) : Draft → Bool
  | .null => true
  | .object [] _ => access == .buffer
  | _ => false

/-- Reads the object form.  In a text, where the first key is read before what follows it, a first
key that names no value is the fault; in a buffer the number of keys comes first. -/
def ofObject (all : List α) (name : α → String) (access : Access)
    (entries : List (Option String × Draft)) (ending : Ending) : Except Fault α :=
  match access, entries with
  | .buffer, [(some key, d)] | .text _, (some key, d) :: _ =>
    match ofName all name key with
    | .error fault => .error fault
    | .ok a =>
      if !isUnit access d then .error (d.mismatch "unit")
      else if entries.length = 1 then Codec.whenClosed ending (.ok a)
      else .error .malformed
  | .buffer, _ => .error (.invalidValue .object "map with a single key")
  | .text _, _ => .error .malformed

def decode (all : List α) (name : α → String) (access : Access) : Draft → Except Fault α
  | .string (some s) => ofName all name s
  | .object entries ending =>
    match access.inside? with
    | none => .error .malformed
    | some _ => ofObject all name access entries ending
  | d =>
    match access with
    | .text _ => .error .malformed
    | .buffer => .error (d.mismatch "string or map")

end Choice

/-- The codec of the values in `all`, in the order in which messages list them. -/
def Codec.choice {α : Type} (all : List α) (name : α → String) : Codec α where
  encode a := .string (name a)
  decode := Choice.decode all name

end GridWalk.Json

import GridWalk.Grid.Basic
import GridWalk.Wire.Program

/-! The JSON forms of levels.  A grid is written as its description and checked when it is read. -/

namespace GridWalk

open Json

def Cell.wireName : Cell → String
  | empty => "EMPTY"
  | wall => "WALL"
  | start => "START"
  | goal => "GOAL"
  | coin => "COIN"
  | obstacle => "OBSTACLE"

/-- Every kind of cell, in the order in which messages list them. -/
def Cell.all : List Cell := [.empty, .wall, .start, .goal, .coin, .obstacle]

def Cell.codec : Codec Cell := .choice all wireName

namespace GridDescriptor

def fields : Fields [Option UInt64, Layout, Position] :=
  .cons (.omitting (.defaulted "grid_size" (.uint64 "usize"))) <|
  .cons (.required "layout" (.list (.list Cell.codec))) <|
  .cons (.required "start" Position.codec) .nil

def codec : Codec GridDescriptor :=
  .record "GridDescriptor" fields (fun (size, layout, start, _) => ⟨size, layout, start⟩)
    fun d => (d.size, d.layout, d.start, ())

end GridDescriptor

def Grid.codec : Codec Grid :=
  .refine GridDescriptor.codec (fun d => d.grid.mapError GridFault.message) GridDescriptor.ofGrid

end GridWalk

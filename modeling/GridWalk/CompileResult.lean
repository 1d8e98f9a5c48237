import GridWalk.Compile
import GridWalk.Digest.Sha256

/-! What compiling a program gives, in one record that names the program by its hash. -/

namespace GridWalk

/-- The hash of the bytes of a program text, in hexadecimal digits. -/
def sourceHash (program : String) : String := Digest.Sha256.hex program.toUTF8.toList

structure CompileResult where
  success : Bool
  actions : Option Plan
  error : Option CompileError
  sourceHash : String
  deriving DecidableEq, Repr

def CompileResult.ofProgram (program : String) (options : CompilerOptions) : CompileResult :=
  match compile program options with
  | .ok plan => ⟨true, some plan, none, GridWalk.sourceHash program⟩
  | .error e => ⟨false, none, some e, GridWalk.sourceHash program⟩

end GridWalk

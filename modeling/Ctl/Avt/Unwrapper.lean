import Ctl.Avt.Line
import Ctl.Proto.History

/-!
# Joining wrapped lines

Model of `TextUnwrapper` in `ctmux/avt/src/util.rs`: the lines of the emulator are pushed one by one, and each
line that is not wrapped completes a text.
-/

namespace Ctl.Avt
open Ctl.Proto

/-- The text of the wrapped lines so far (Rust `TextUnwrapper`). -/
structure TextUnwrapper where
  wrappedLine : Text

namespace TextUnwrapper

def new : TextUnwrapper := ⟨[]⟩

/-- The text that the line completes, and the state after it (Rust `push`). -/
def push (unwrapper : TextUnwrapper) (line : Line) : Option Text × TextUnwrapper :=
  if line.wrapped then (none, ⟨unwrapper.wrappedLine ++ line.text⟩)
  else (some (unwrapper.wrappedLine ++ trimEnd line.text), ⟨[]⟩)

/-- The texts that lines complete (Rust `filter_map` with `push`). -/
def pushAll (unwrapper : TextUnwrapper) : List Line → List Text
  | [] => []
  | line :: lines =>
    match unwrapper.push line with
    | (some text, unwrapper) => text :: unwrapper.pushAll lines
    | (none, unwrapper) => unwrapper.pushAll lines

/-- What is left when nothing follows (Rust `flush`). -/
def flush (unwrapper : TextUnwrapper) : Option Text :=
  if unwrapper.wrappedLine.isEmpty then none else some unwrapper.wrappedLine

end TextUnwrapper

end Ctl.Avt

/- Colors of a terminal. A styled text is opened by its style and ends in a reset; after any
   reset inside of it the style is opened again. -/
namespace HostHealth.CommandLine

inductive Color
  | red | green | yellow | blue | cyan
  deriving DecidableEq, Repr

structure Style where
  color : Color
  bold : Bool
  deriving DecidableEq, Repr

def Color.plain (color : Color) : Style := ⟨color, false⟩

def Color.bold (color : Color) : Style := ⟨color, true⟩

def Color.code : Color → String
  | .red => "31"
  | .green => "32"
  | .yellow => "33"
  | .blue => "34"
  | .cyan => "36"

namespace Style

def opening (style : Style) : List Char :=
  '\x1b' :: '[' :: ((if style.bold then "1;" else "") ++ style.color.code).toList ++ ['m']

def reset : List Char := ['\x1b', '[', '0', 'm']

/-- The text with the style opened again after every reset. -/
def reopened (style : Style) : List Char → List Char
  | '\x1b' :: '[' :: '0' :: 'm' :: rest => reset ++ style.opening ++ style.reopened rest
  | c :: rest => c :: style.reopened rest
  | [] => []

def paint (style : Style) (colored : Bool) (text : String) : String :=
  if colored then String.ofList (style.opening ++ style.reopened text.toList ++ reset)
  else text

end Style
end HostHealth.CommandLine

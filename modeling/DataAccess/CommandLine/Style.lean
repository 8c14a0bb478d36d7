/-!
Colours of a terminal.
-/

namespace DataAccess.CommandLine

-- The codes for a look, as a terminal takes them.
structure Style where
  codes : String

namespace Style

def reset : String :=
  "\x1b[0m"

def opening (s : Style) : String :=
  "\x1b[" ++ s.codes ++ "m"

-- Shows text in a style, unless there are no colours. A reset within the text does not end it.
def paint (s : Style) (color : Bool) (text : String) : String :=
  if color then s.opening ++ text.replace reset (reset ++ s.opening) ++ reset else text

def dimmed : Style := ⟨"2"⟩

def white : Style := ⟨"37"⟩

def yellow : Style := ⟨"33"⟩

def cyan : Style := ⟨"36"⟩

def boldCyan : Style := ⟨"1;36"⟩

def boldGreen : Style := ⟨"1;32"⟩

def boldRed : Style := ⟨"1;31"⟩

end Style
end DataAccess.CommandLine

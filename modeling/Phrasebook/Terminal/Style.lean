/-!
Styled text on a terminal.

A style is a list of codes. It holds until the reset at the end of the text. A reset inside the
text is followed by the style again.
-/

namespace Phrasebook.Terminal

/-- The codes of a style, in the order in which they are written. -/
abbrev Style := List Nat

def bold : Style := [1]

def dimmed : Style := [2]

def red : Style := [31]

def green : Style := [32]

def yellow : Style := [33]

def cyan : Style := [36]

/-- The text that ends a style. -/
def reset : List Char := ['\x1b', '[', '0', 'm']

/-- The text that begins a style. -/
def Style.start (s : Style) : List Char :=
  ['\x1b', '['] ++ (";".intercalate (s.map fun n => n.repr)).toList ++ ['m']

/-- Begins a style again behind each reset in a text. `skip` characters of a reset are still to
come. -/
def resume (start : List Char) : Nat → List Char → List Char
  | _, [] => []
  | 0, c :: cs => c :: (if reset.isPrefixOf (c :: cs) then resume start 3 cs else resume start 0 cs)
  | 1, c :: cs => c :: start ++ resume start 0 cs
  | n + 2, c :: cs => c :: resume start (n + 1) cs

/-- A text in a style, if the terminal shows colors. -/
def paint (color : Bool) (s : Style) (text : String) : String :=
  if color then String.ofList (s.start ++ resume s.start 0 text.toList ++ reset) else text

end Phrasebook.Terminal

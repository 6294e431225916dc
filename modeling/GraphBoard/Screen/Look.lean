namespace GraphBoard.Screen

inductive Color where
  | reset
  | black
  | red
  | green
  | yellow
  | magenta
  | cyan
  | gray
  | darkGray
  | lightRed
  | lightBlue
  | white
  | rgb (r g b : Nat)
  deriving DecidableEq, Repr

def Color.name : Color → String
  | reset => "Reset"
  | black => "Black"
  | red => "Red"
  | green => "Green"
  | yellow => "Yellow"
  | magenta => "Magenta"
  | cyan => "Cyan"
  | gray => "Gray"
  | darkGray => "DarkGray"
  | lightRed => "LightRed"
  | lightBlue => "LightBlue"
  | white => "White"
  | rgb r g b => "Rgb(" ++ Nat.repr r ++ ", " ++ Nat.repr g ++ ", " ++ Nat.repr b ++ ")"

structure Look where
  fg : Color
  bg : Color
  bold : Bool
  dim : Bool
  italic : Bool
  deriving DecidableEq, Repr

def Look.plain : Look := ⟨.reset, .reset, false, false, false⟩

/-- A change of look: the colours it has replace those that are there. -/
structure Style where
  fg : Option Color
  bg : Option Color
  bold : Bool
  dim : Bool
  italic : Bool
  deriving DecidableEq, Repr

namespace Style

def none : Style := ⟨.none, .none, false, false, false⟩

def ofFg (c : Color) : Style := { none with fg := some c }

def ofColors (fg bg : Color) : Style := { none with fg := some fg, bg := some bg }

def withBold (s : Style) : Style := { s with bold := true }
def withDim (s : Style) : Style := { s with dim := true }
def withItalic (s : Style) : Style := { s with italic := true }

end Style

def Look.apply (look : Look) (style : Style) : Look :=
  { fg := style.fg.getD look.fg
    bg := style.bg.getD look.bg
    bold := look.bold || style.bold
    dim := look.dim || style.dim
    italic := look.italic || style.italic }

def Look.toStyle (look : Look) : Style :=
  ⟨some look.fg, some look.bg, look.bold, look.dim, look.italic⟩

end GraphBoard.Screen

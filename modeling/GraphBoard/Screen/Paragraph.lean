import GraphBoard.Screen.Label
import GraphBoard.Text.Blank

namespace GraphBoard.Screen

open GraphBoard.Text

inductive TextAlign where
  | left
  | center
  | right
  deriving DecidableEq, Repr

structure Glyph where
  symbol : List Char
  style : Style
  deriving DecidableEq, Repr

namespace Glyph

def width (g : Glyph) : Nat := graphemeWidth g.symbol

/-- Whether a line may be broken here. A space that does not break is none. -/
def isGap (g : Glyph) : Bool :=
  g.symbol == ['\u200b'] || (g.symbol.all isBlank && g.symbol != ['\xa0'])

def totalWidth (gs : List Glyph) : Nat := (gs.map width).foldl (· + ·) 0

end Glyph

def glyphs (spans : List Span) : List Glyph :=
  spans.flatMap fun span => span.symbols.map (⟨·, span.style⟩)

/-- As much of a line as there is room for. What is wider than the whole room is left out. -/
def cutLine (limit room : Nat) : List Glyph → List Glyph
  | [] => []
  | g :: rest =>
    if limit < g.width then cutLine limit room rest
    else if room < g.width then []
    else g :: cutLine limit (room - g.width) rest

/-- A line that is being broken: what is broken off, the line under way, the gap behind it and the
word behind that. -/
structure Wrap where
  broken : List (List Glyph)
  line : List Glyph
  gap : List Glyph
  word : List Glyph
  inWord : Bool

namespace Wrap

def joined (w : Wrap) : List Glyph := (if w.line.isEmpty then [] else w.line ++ w.gap) ++ w.word

def closeWord (w : Wrap) : Wrap := { w with line := w.joined, gap := [], word := [] }

def trimGap (room : Nat) : List Glyph → List Glyph
  | [] => []
  | g :: rest => if room < g.width then g :: rest else trimGap (room - g.width) rest

def push (w : Wrap) (g : Glyph) : Wrap :=
  if g.isGap then { w with gap := w.gap ++ [g], inWord := false }
  else { w with word := w.word ++ [g], inWord := true }

def step (limit : Nat) (w : Wrap) (g : Glyph) : Wrap :=
  if limit < g.width then w
  else
    let tooWide (gs : List Glyph) : Bool := limit < Glyph.totalWidth gs + g.width
    let closes := (w.inWord && g.isGap) || (w.line.isEmpty && (tooWide w.word || tooWide w.gap))
    let w := if closes then w.closeWord else w
    let used := Glyph.totalWidth w.line
    let ahead := used + Glyph.totalWidth w.gap + Glyph.totalWidth w.word
    if limit ≤ used || (0 < g.width && limit ≤ ahead) then
      let gap := trimGap (limit - used) w.gap
      let w := { w with broken := w.broken ++ [w.line], line := [], gap }
      if g.isGap && gap.isEmpty then w else w.push g
    else w.push g

def finish (w : Wrap) : List (List Glyph) :=
  let broken :=
    if w.line.isEmpty && w.word.isEmpty && !w.gap.isEmpty then w.broken ++ [[]] else w.broken
  let last := w.joined
  let lines := if last.isEmpty then broken else broken ++ [last]
  if lines.isEmpty then [[]] else lines

end Wrap

def wrapLine (limit : Nat) (line : List Glyph) : List (List Glyph) :=
  (line.foldl (Wrap.step limit) ⟨[], [], [], [], false⟩).finish

structure Paragraph where
  lines : List (List Span)
  style : Style
  alignment : TextAlign
  wraps : Bool
  deriving Repr

namespace Paragraph

def textLines (s : String) : List (List Span) :=
  if s.isEmpty then [[]] else (splitLines s.toList).map fun line => [⟨line, .none⟩]

def offset (alignment : TextAlign) (room width : Nat) : Nat :=
  match alignment with
  | .left => 0
  | .center => room / 2 - width / 2
  | .right => room - width

def fitted (p : Paragraph) (limit : Nat) : List (List Glyph) :=
  if p.wraps then p.lines.flatMap fun line => wrapLine limit (glyphs line)
  else p.lines.map fun line => cutLine limit limit (glyphs line)

def drawGlyphs (g : Grid) (x y : Nat) : List Glyph → Grid
  | [] => g
  | glyph :: rest =>
    if glyph.width == 0 then drawGlyphs g x y rest
    else drawGlyphs (g.put x y glyph.symbol glyph.style) (x + glyph.width) y rest

def drawLines (alignment : TextAlign) (g : Grid) (a : Area) : List (List Glyph) → Grid
  | [] => g
  | line :: rest =>
    if a.height == 0 then g
    else
      let x := a.x + offset alignment a.width (Glyph.totalWidth line)
      drawLines alignment (drawGlyphs g x a.y line) ⟨a.x, a.y + 1, a.width, a.height - 1⟩ rest

def draw (p : Paragraph) (g : Grid) (a : Area) : Grid :=
  let g := g.restyle a p.style
  if a.isEmpty then g else drawLines p.alignment g a (p.fitted a.width)

end Paragraph

end GraphBoard.Screen

import ActorDiagram.Text.Ranges

/-!
White space as Unicode 14 and the four ASCII separators FS, GS, RS and US define it, and the two
ways of dropping it: at the ends of a text, and between words.
-/

namespace ActorDiagram.Text

/-- Blank characters: tab to carriage return, the ASCII separators, and every Unicode space. A
zero-width space or a byte-order mark is none. -/
def blankRanges : List (Nat × Nat) := [
  (9, 13), (28, 32), (133, 133), (160, 160), (5760, 5760), (8192, 8202), (8232, 8233),
  (8239, 8239), (8287, 8287), (12288, 12288)]

def isBlank (c : Char) : Bool := inRanges blankRanges c.toNat

def trimLeft (cs : List Char) : List Char := cs.dropWhile isBlank

def trimRight (cs : List Char) : List Char := (cs.reverse.dropWhile isBlank).reverse

def trim (cs : List Char) : List Char := trimRight (trimLeft cs)

/-- Each run of blanks becomes one space; `inRun` says that the character before was blank. -/
def collapseFrom (inRun : Bool) : List Char → List Char
  | [] => []
  | c :: cs =>
    if isBlank c then
      if inRun then collapseFrom true cs else ' ' :: collapseFrom true cs
    else c :: collapseFrom false cs

def collapseBlanks (cs : List Char) : List Char := collapseFrom false cs

def allBlank (cs : List Char) : Bool := cs.all isBlank

end ActorDiagram.Text

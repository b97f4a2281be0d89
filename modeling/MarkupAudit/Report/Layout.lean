import MarkupAudit.Text.Blank
import MarkupAudit.Text.CellWidth

/-! Styled text in lines of a fixed number of cells. Every character belongs to a run; a run is
written in one style, and is closed at the end of a line and opened again on the next. -/
namespace MarkupAudit.Report

inductive Style where
  | plain
  | bold
  | dim
  | blue
  | cyan
  | green
  | red
  | white
  | yellow
  | boldGreen
  | boldYellow
  | boldRed
  deriving DecidableEq, Repr

def Style.code : Style → String
  | .plain => ""
  | .bold => "1"
  | .dim => "2"
  | .red => "31"
  | .green => "32"
  | .yellow => "33"
  | .blue => "34"
  | .cyan => "36"
  | .white => "37"
  | .boldGreen => "1;32"
  | .boldYellow => "1;33"
  | .boldRed => "1;31"

/-- A character, and the number and style of the run that it belongs to. -/
structure Cell where
  char : Char
  run : Nat
  style : Style
  deriving DecidableEq, Repr

abbrev Line := List Cell

/-- Characters that move the cursor rather than show something; they are left out. -/
def isMotion (c : Char) : Bool :=
  [7, 8, 11, 12, 13].contains c.toNat

def styledFrom (run : Nat) : List (String × Style) → Line
  | [] => []
  | (s, style) :: rest =>
    (s.toList.filter (!isMotion ·)).map (⟨·, run, style⟩) ++ styledFrom (run + 1) rest

def styled (runs : List (String × Style)) : Line :=
  styledFrom 0 runs

namespace Line

def chars (line : Line) : List Char :=
  line.map Cell.char

def cells (line : Line) : Nat :=
  Text.cellsOf line.chars

def split : Line → List Line
  | [] => [[]]
  | c :: rest =>
    if c.char = '\n' then [] :: split rest
    else
      match split rest with
      | [] => [[c]]
      | line :: lines => (c :: line) :: lines

def tabSize : Nat := 8

def expandTabs (position : Nat) : Line → Line
  | [] => []
  | c :: rest =>
    if c.char = '\t' then
      let blanks := tabSize - position % tabSize
      List.replicate blanks { c with char := ' ' } ++ expandTabs (position + blanks) rest
    else c :: expandTabs (position + Text.cellWidth c.char) rest

/-- Cuts a line to a number of cells. A wide character across the cut becomes a blank. -/
def crop (width : Nat) : Line → Line
  | [] => []
  | c :: rest =>
    let w := Text.cellWidth c.char
    if width = 0 then []
    else if width < w then [{ c with char := ' ' }]
    else c :: crop (width - w) rest

def firstWord (cs : List Char) : List Char :=
  let lead := run Text.isBlank cs
  let body := run (fun c => !Text.isBlank c) (cs.drop lead)
  let trail := run Text.isBlank (cs.drop (lead + body))
  if body = 0 then [] else cs.take (lead + body + trail)
where
  /-- How many characters in a row pass a test. -/
  run (p : Char → Bool) (cs : List Char) : Nat := (cs.takeWhile p).length

/-- The words of a line, each with the blanks in front of the first one and behind it. -/
def words (cs : List Char) : List (List Char) :=
  match h : firstWord cs with
  | [] => []
  | c :: word => (c :: word) :: words (cs.drop (word.length + 1))
termination_by cs.length
decreasing_by
  cases cs with
  | nil => simp [firstWord, firstWord.run] at h
  | cons d ds =>
    rw [List.length_drop, List.length_cons]
    omega

def trimEnd (cs : List Char) : List Char :=
  (cs.reverse.dropWhile Text.isBlank).reverse

def chop (width : Nat) (used count : Nat) : List Char → List Nat
  | [] => [count]
  | c :: cs =>
    let w := Text.cellWidth c
    if width < used + w then count :: chop width w 1 cs else chop width (used + w) (count + 1) cs

/-- Where new lines begin, given the position of the next word and the cells taken on its line. -/
def breaks (width start offset : Nat) : List (List Char) → List Nat
  | [] => []
  | word :: rest =>
    let needed := Text.cellsOf (trimEnd word)
    let next := start + word.length
    if needed ≤ width - offset then breaks width next (offset + Text.cellsOf word) rest
    else if width < needed then
      let lengths := chop width 0 0 word
      let starts := lengths.dropLast.scanl (· + ·) start
      let last := word.drop (lengths.dropLast.foldl (· + ·) 0)
      starts.filter (· ≠ 0) ++ breaks width next (Text.cellsOf last) rest
    else if offset ≠ 0 && start ≠ 0 then start :: breaks width next (Text.cellsOf word) rest
    else breaks width next offset rest

def divide (position : Nat) : List Nat → Line → List Line
  | [], line => [line]
  | b :: bs, line => line.take (b - position) :: divide b bs (line.drop (b - position))

/-- Takes blanks off the end of a line as far as it is longer than `width` characters. -/
def trimExcess (width : Nat) (line : Line) : Line :=
  let blanks := (line.reverse.takeWhile fun c => Text.isBlank c.char).length
  line.take (line.length - min blanks (line.length - width))

def wrap (width : Nat) (line : Line) : List Line :=
  line.split.flatMap fun line =>
    let line := expandTabs 0 line
    (divide 0 (breaks width 0 0 (words line.chars)) line).map fun line =>
      crop width (trimExcess width line)

def runs : Line → List (List Char × Style)
  | [] => []
  | c :: rest =>
    let more := rest.takeWhile fun d => d.run = c.run
    (c.char :: more.map Cell.char, c.style) :: runs (rest.drop more.length)
termination_by line => line.length
decreasing_by
  rw [List.length_drop, List.length_cons]
  omega

def runText (color : Bool) (text : List Char) (style : Style) : String :=
  if color && style != .plain then
    "\x1b[" ++ style.code ++ "m" ++ String.ofList text ++ "\x1b[0m"
  else String.ofList text

def text (color : Bool) (line : Line) : String :=
  String.join (line.runs.map fun (text, style) => runText color text style) ++ "\n"

end Line

end MarkupAudit.Report

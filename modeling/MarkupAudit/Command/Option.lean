import MarkupAudit.Text.Similarity

/-! The options of the command, and the words of a command line sorted into options and operands. -/
namespace MarkupAudit.Command

inductive Flag where
  | version
  | report
  | out
  | config
  | disable
  | strict
  | verbose
  | quiet
  | help
  deriving DecidableEq, Repr

namespace Flag

def all : List Flag :=
  [version, report, out, config, disable, strict, verbose, quiet, help]

def word : Flag → String
  | version => "--version"
  | report => "--report"
  | out => "--out"
  | config => "--config"
  | disable => "--disable"
  | strict => "--strict"
  | verbose => "--verbose"
  | quiet => "--quiet"
  | help => "--help"

def letter? : Flag → Option Char
  | verbose => some 'v'
  | quiet => some 'q'
  | _ => none

def takesValue : Flag → Bool
  | report | out | config | disable => true
  | _ => false

def ofWord? (word : String) : Option Flag :=
  all.find? fun f => f.word = word

def ofLetter? (letter : Char) : Option Flag :=
  all.find? fun f => f.letter? = some letter

end Flag

/-- Why the words of a command line cannot be sorted. -/
inductive WordError where
  | unknownOption (name : String) (similar : List String)
  | missingValue (flag : Flag)
  | unwantedValue (flag : Flag)
  deriving DecidableEq, Repr

/-- The options in the order they were given, with the values of those that take one, and the words
that are no options. -/
structure Words where
  options : List (Flag × String) := []
  operands : List String := []
  deriving DecidableEq, Repr

namespace Words

def addOption (flag : Flag) (value : String) (w : Words) : Words :=
  { w with options := (flag, value) :: w.options }

def addOperand (word : String) (w : Words) : Words :=
  { w with operands := word :: w.operands }

/-- Options that an unknown one may have been meant to be, the three most similar at most. -/
def suggestions (name : String) : List String :=
  let better (a b : String × Nat × Nat) : Bool :=
    let (x, p, q) := a
    let (y, r, s) := b
    if p * s = r * q then y < x else r * q < p * s
  let similar := (Flag.all.map Flag.word).filter fun w => Text.areSimilar w name
  let ranked := (similar.map fun w => (w, Text.similarity w name)).mergeSort fun a b => better a b
  ((ranked.take 3).map Prod.fst).mergeSort fun a b => a ≤ b

/-- A word of letters after a dash. The rest of the word is the value of the first option in it that
takes one; without a rest, the next word is. -/
inductive Letters where
  | done (flags : List Flag)
  | wantsValue (flags : List Flag) (flag : Flag) (rest : String)
  | unknown (letter : Char)

def readLetters (flags : List Flag) : List Char → Letters
  | [] => .done flags
  | c :: rest =>
    match Flag.ofLetter? c with
    | none => .unknown c
    | some flag =>
      if flag.takesValue then .wantsValue flags flag (String.ofList rest)
      else readLetters (flags ++ [flag]) rest

def splitAtEquals (word : String) : String × Option String :=
  let cs := word.toList
  let name := cs.takeWhile (· ≠ '=')
  (String.ofList name,
    if cs.contains '=' then some (String.ofList (cs.drop (name.length + 1))) else none)

def isOption (word : String) : Bool :=
  word.startsWith "-" && word ≠ "-"

/-- How one word is taken, the next word being looked at only by an option that wants a value. -/
inductive Taken where
  | operand
  | flags (flags : List Flag)
  | valued (before : List Flag) (flag : Flag) (value : String)
  | wantsNext (before : List Flag) (flag : Flag)
  | restAreOperands
  | error (e : WordError)

def takeLetters (word : String) : Taken :=
  match readLetters [] (word.toList.drop 1) with
  | .done flags => .flags flags
  | .unknown letter => .error (.unknownOption (String.ofList ['-', letter]) [])
  | .wantsValue before flag rest =>
    if rest = "" then .wantsNext before flag else .valued before flag rest

def takeWord (word : String) : Taken :=
  if word = "--" then .restAreOperands
  else if !isOption word then .operand
  else
    let (name, value) := splitAtEquals word
    match Flag.ofWord? name, value with
    | some flag, none => if flag.takesValue then .wantsNext [] flag else .flags [flag]
    | some flag, some value =>
      if flag.takesValue then .valued [] flag value else .error (.unwantedValue flag)
    | none, _ =>
      if word.startsWith "--" then .error (.unknownOption name (suggestions name))
      else takeLetters word

def addFlags (flags : List Flag) (w : Words) : Words :=
  flags.foldr (fun f w => w.addOption f "") w

def ofArguments : List String → Except WordError Words
  | [] => .ok {}
  | word :: rest =>
    match takeWord word with
    | .error e => .error e
    | .restAreOperands => .ok { operands := rest }
    | .operand => (ofArguments rest).map (addOperand word)
    | .flags flags => (ofArguments rest).map (addFlags flags)
    | .valued before flag value =>
      (ofArguments rest).map fun w => addFlags before (w.addOption flag value)
    | .wantsNext before flag =>
      match rest with
      | [] => .error (.missingValue flag)
      | value :: rest => (ofArguments rest).map fun w => addFlags before (w.addOption flag value)

def flags (w : Words) : List Flag :=
  (w.options.map Prod.fst).eraseDups

def has (w : Words) (flag : Flag) : Bool :=
  w.flags.contains flag

def values (w : Words) (flag : Flag) : List String :=
  (w.options.filter fun o => o.1 = flag).map Prod.snd

/-- The value of an option that was given; the last one counts. -/
def value? (w : Words) (flag : Flag) : Option String :=
  (w.values flag).getLast?

end Words

end MarkupAudit.Command

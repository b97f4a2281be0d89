import MarkupAudit.Files.Store
import MarkupAudit.Log
import MarkupAudit.Source.Convert

/-! Reading markup out of a source text or a source file. A source whose tree holds a fault is
refused as a whole, at the first fault. -/
namespace MarkupAudit

/-- A grammar gives the tree of a source, or nothing when it refuses the source without saying
where. -/
abbrev Grammar := String → Option SourceNode

/-- Why an input yields no markup. -/
inductive MarkupError where
  | malformed (position : Option Text.Position)
  | fileNotFound (path : FilePath)
  | unreadableFile (path : FilePath) (error : ReadError)
  | malformedFile (path : FilePath) (position : Option Text.Position)
  deriving DecidableEq, Repr

def malformedMessage (position : Option Text.Position) : String :=
  match position with
  | none => "Syntax error"
  | some p => "Syntax error at line " ++ toString p.line ++ ", column " ++ toString p.column

namespace MarkupError

def message : MarkupError → String
  | malformed position => malformedMessage position
  | fileNotFound path => "File not found: " ++ path.text
  | unreadableFile path error => "Cannot read " ++ path.text ++ ": " ++ error.message
  | malformedFile path position => path.text ++ ": " ++ malformedMessage position

def position? : MarkupError → Option Text.Position
  | malformed position | malformedFile _ position => position
  | _ => none

def inFile (path : FilePath) : MarkupError → MarkupError
  | malformed position => malformedFile path position
  | e => e

end MarkupError

inductive ParseFailure where
  | input (error : MarkupError)
  | conversion (failure : ConversionFailure)
  deriving DecidableEq, Repr

def ParseFailure.message : ParseFailure → String
  | input error => error.message
  | conversion failure => failure.message

def ParseFailure.inFile (path : FilePath) : ParseFailure → ParseFailure
  | input error => input (error.inFile path)
  | conversion failure => conversion failure

def Document.ofTree (bytes : Array UInt8) (tree : SourceNode) : Except ParseFailure Document :=
  if tree.hasError then
    .error (.input (.malformed (tree.firstFault.map fun n => Text.positionAt bytes n.start)))
  else
    match Conversion.convert bytes tree.outermostMarkup with
    | .ok children => .ok ⟨children⟩
    | .error e => .error (.conversion e)

def parsedRecord (d : Document) : LogRecord :=
  ⟨.debug, .parsing, "Parsed " ++ toString d.children.length ++ " top-level element tree(s)"⟩

def parseSource (grammar : Grammar) (source : String) : Logged (Except ParseFailure Document) :=
  match grammar source with
  | none => ⟨.error (.input (.malformed none)), []⟩
  | some tree =>
    match Document.ofTree (Text.Utf8.bytesOf source) tree with
    | .ok d => ⟨.ok d, [parsedRecord d]⟩
    | .error e => ⟨.error e, []⟩

/-- The suffixes of component files; all of them are read by one grammar. -/
def componentSuffixes : List String := [".tsx", ".jsx", ".ts", ".js", ".mjs", ".cjs"]

def suffixRecords (path : FilePath) : List LogRecord :=
  if path.suffix = "" || componentSuffixes.contains path.suffix then []
  else
    [⟨.debug, .parsing,
      "Parsing " ++ path.text ++ " with the TSX grammar despite unknown extension"⟩]

def readSource (store : FileStore) (path : FilePath) : Except MarkupError String :=
  match store.readText path with
  | .ok source => .ok source
  | .error (.os ⟨.noSuchFile, _⟩) => .error (.fileNotFound path)
  | .error e => .error (.unreadableFile path e)

/-- The markup of a source file, with its text. -/
def parseFile (grammar : Grammar) (store : FileStore) (path : FilePath) :
    Logged (Except ParseFailure (Document × String)) :=
  match readSource store path with
  | .error e => ⟨.error (.input e), []⟩
  | .ok source =>
    let parsed := parseSource grammar source
    ⟨match parsed.value with
      | .ok d => .ok (d, source)
      | .error e => .error (e.inFile path),
      suffixRecords path ++ parsed.records⟩

end MarkupAudit

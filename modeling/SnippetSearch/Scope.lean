import SnippetSearch.Text.Lines

/-!
# Enclosing declarations

The scope of a line is read off the lines above it, from the nearest to the
first.  Type and namespace declarations are collected, and the first method
declaration with a readable name ends the search.
-/

namespace SnippetSearch

namespace Scope

/-- The keywords of type declarations, in the order in which they are tried. -/
def typeKeywords : List Text :=
  ["class".toList, "interface".toList, "struct".toList, "enum".toList]

/-- Words of which a method declaration has at least one. -/
def methodMarks : List Text :=
  ["void ".toList, "async ".toList, "Task ".toList, "public ".toList, "private ".toList,
   "protected ".toList, "internal ".toList]

def endsName (character : Char) : Bool :=
  character == ' ' || character == '\x7b' || character == ':' || character == '('

/-- The name after the first place where the keyword and a space stand, or nothing. -/
def nameAfter (keyword line : Text) : Text :=
  match Text.after? (keyword ++ [' ']) line with
  | none => []
  | some rest => Text.trim (rest.trim.takeWhile fun character => !endsName character)

/-- The word directly before the first opening parenthesis, or nothing. -/
def methodName (line : Text) : Text :=
  if line.contains '(' then
    let before := Text.trim (line.takeWhile (· != '('))
    if before.contains ' ' then Text.trim (before.afterLast ' ') else []
  else
    []

/-- The name that a declaration line declares; other lines have none, not even an empty one. -/
def declaredName? (line : Text) : Option Text :=
  if "namespace ".toList.isPrefixOf line then
    some (nameAfter "namespace".toList line)
  else
    (typeKeywords.find? fun keyword => line.includes (keyword ++ [' '])).map fun keyword =>
      nameAfter keyword line

def isMethodDeclaration (line : Text) : Bool :=
  methodMarks.any line.includes && line.contains '(' &&
    !Text.startsWithAny ["//".toList, "/*".toList] line

/-- How far the search upwards has come. -/
inductive ScanState where
  | seekingDeclaration
  | foundMethod
  | done
deriving Repr, DecidableEq

/-- The state of the search with the names found so far, the outermost first. -/
structure Scan where
  state : ScanState
  parts : List Text
deriving Repr, DecidableEq

namespace Scan

def start : Scan := ⟨.seekingDeclaration, []⟩

/-- The search after one more line, whose leading blank space has been removed. -/
def step (scan : Scan) (line : Text) : Scan :=
  match scan.state with
  | .seekingDeclaration =>
      match declaredName? line with
      | some name =>
          if name.isEmpty then scan else { scan with parts := name :: scan.parts }
      | none =>
          if isMethodDeclaration line && !(methodName line).isEmpty then
            ⟨.foundMethod, methodName line :: scan.parts⟩
          else
            scan
  | .foundMethod | .done => { scan with state := .done }

/-- The search through lines from the nearest upwards, ended by the first method. -/
def upwards (scan : Scan) : List Text → Scan
  | [] => { scan with state := .done }
  | line :: above =>
      let next := scan.step line.trimStart
      if next.state = .seekingDeclaration then next.upwards above else next

end Scan

/-- The lines above the line with the given number, of which the first is one. -/
def linesAbove (lines : List Text) (lineNumber : Int) : List Text :=
  lines.take (lineNumber - 1).toNat

def ofLines (lines : List Text) (lineNumber : Int) : Text :=
  Text.join ['.'] (Scan.start.upwards (linesAbove lines lineNumber).reverse).parts

def unknown : Text := "Unknown".toList

/-- The scope of a line of a file with the given text, if the file could be read. -/
def ofFile (text? : Option Text) (lineNumber : Int) : Text :=
  match text? with
  | none => unknown
  | some text => ofLines text.lines lineNumber

end Scope

end SnippetSearch

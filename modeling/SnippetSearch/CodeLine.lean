import SnippetSearch.Text.Word

/-!
# Which texts carry code

A code line is a line that is neither blank nor marked as a comment at its
start.  A text carries code if it has three code lines, or if one of them
holds a structural keyword as a whole word.
-/

namespace SnippetSearch

namespace CodeLine

/-- What a line starts with if it is taken for a comment. -/
def commentMarks : List Text :=
  ["//".toList, "/*".toList, "*".toList]

/-- Words that show structure even in a short text. -/
def structuralKeywords : List Text :=
  ["class".toList, "interface".toList, "struct".toList, "enum".toList, "void".toList,
   "async".toList, "return".toList, "public".toList, "private".toList, "protected".toList]

/-- How many code lines are enough without any structural keyword. -/
def sufficientCount : Nat := 3

def isCode (line : Text) : Bool :=
  !line.isAllBlank && !Text.startsWithAny commentMarks line.trimStart

/-- The code lines of a text, which is cut at line feeds only. -/
def codeLines (text : Text) : List Text :=
  (text.cut '\n').filter isCode

def carriesCode (text : Text) : Bool :=
  decide (sufficientCount ≤ (codeLines text).length) ||
    (codeLines text).any (Text.includesWord structuralKeywords)

end CodeLine

end SnippetSearch

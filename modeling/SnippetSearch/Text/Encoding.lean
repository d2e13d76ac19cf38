import SnippetSearch.Text.Lines

/-!
# The text of a file

A file is read as well-formed UTF-8.  One byte order mark at the start is
dropped, and so is a file that ends inside it; after that every kind of
newline becomes a line feed.
-/

namespace SnippetSearch

namespace Text

def byteOrderMark : List UInt8 := [0xEF, 0xBB, 0xBF]

def ofUtf8? (bytes : List UInt8) : Option Text :=
  (String.fromUTF8? bytes.toByteArray).map String.toList

def toUtf8 (text : Text) : List UInt8 :=
  (String.ofList text).toByteArray.data.toList

/-- The text of a file with the given bytes, or nothing if they are not well-formed. -/
def ofFileBytes? (bytes : List UInt8) : Option Text :=
  if bytes.isPrefixOf byteOrderMark then
    some []
  else if byteOrderMark.isPrefixOf bytes then
    (ofUtf8? (bytes.drop byteOrderMark.length)).map unifyNewlines
  else
    (ofUtf8? bytes).map unifyNewlines

end Text

end SnippetSearch

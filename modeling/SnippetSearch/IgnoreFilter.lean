import SnippetSearch.Glob

/-!
# Ignored files

A file is ignored if its path matches one of the glob patterns.  Backslashes
count as slashes on both sides, and a pattern without any separator is also
tried on the last component of the path alone.
-/

namespace SnippetSearch

/-- The patterns of the files that are left out, in two lists. -/
structure IgnoreFilter where
  defaultPatterns : List Text
  userPatterns : List Text
deriving Repr, DecidableEq

namespace IgnoreFilter

/-- The patterns that are in force unless they are replaced: build output and generated code. -/
def standardPatterns : List Text :=
  ["**/obj/**".toList, "**/bin/**".toList, "**/*.generated.cs".toList,
   "**/*.designer.cs".toList, "**/*.g.cs".toList, "**/*.AssemblyInfo.cs".toList]

def withStandard (userPatterns : List Text) : IgnoreFilter :=
  ⟨standardPatterns, userPatterns⟩

def patterns (filter : IgnoreFilter) : List Text :=
  filter.defaultPatterns ++ filter.userPatterns

def withSlashes (text : Text) : Text :=
  text.replaceChar '\\' '/'

/-- Whether one pattern matches a path, or its last component if the pattern names no folder. -/
def patternIgnores (pattern path : Text) : Bool :=
  let pattern := withSlashes pattern
  let path := withSlashes path
  Glob.matchesText pattern path ||
    (!pattern.contains '/' && Glob.matchesText pattern (path.afterLast '/'))

def ignores (filter : IgnoreFilter) (path : Text) : Bool :=
  filter.patterns.any fun pattern => patternIgnores pattern path

end IgnoreFilter

end SnippetSearch

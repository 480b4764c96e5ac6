/-!
# The language reference

What the program prints when it is asked for the language of expressions.
-/

namespace DocFilter.Program

/-- The lines of the language reference. -/
def referenceLines : List String :=
  ["DOCEXPR EXPRESSIONS",
   "",
   "Expressions select and order JSON documents. They compile to a SQLite",
   "fragment plus positional parameters.",
   "",
   "IDENTIFIERS",
   "",
   "  _                 The document root",
   "  id                The row identifier (an integer column, not a JSON path)",
   "  x                 A closure parameter, inside some(x => ...) / every(x => ...)",
   "",
   "ACCESS",
   "",
   "  _.foo.bar         Property access",
   "  _.tags[0]         Index access",
   "  _.foo[_.key]      Computed key",
   "  _.name.length     String length, array length, or the value's own \"length\"",
   "",
   "LITERALS",
   "",
   "  \"red\"  'red'      Strings; escapes \\\" \\' \\\\ \\b \\f \\n \\r \\t \\uXXXX",
   "  3  0.5            Numbers",
   "  [1, \"a\", _.b]     Arrays",
   "",
   "OPERATORS (loosest first, all left-associative)",
   "",
   "  &&  ||            Boolean",
   "  >  >=  ==  <  <=  !=",
   "                    Comparison; a > b > c means (a > b) > c",
   "  !  -              Prefix negation",
   "",
   "METHODS",
   "",
   "  .toLowerCase()    Lower-case a string",
   "  .toUpperCase()    Upper-case a string",
   "  .includes(x)      Array contains x",
   "  .some(x => p)     Some element satisfies p",
   "  .every(x => p)    Every element satisfies p",
   "",
   "FUNCTIONS",
   "",
   "  like(value, pattern)",
   "                    SQL LIKE: % matches any run, _ one character",
   "  glob(value, pattern)",
   "                    Unix glob: * and ?, case-sensitive",
   "",
   "EXAMPLES",
   "",
   "  _.size >= 3",
   "  _.tags.includes(\"red\") && !(_.archived == 1)",
   "  _.tags.some(t => t.toUpperCase() == \"RED\")",
   "  like(_.name, \"A%\") || id < 10"]

/-- The language reference. -/
def languageReference : String :=
  String.join (referenceLines.map (· ++ "\n"))

end DocFilter.Program

import CallGraph.Text.Basic
/-!
# Class names

A declaring class is given in internal form: slashes between packages, with or without the `L` in front and the `;`
behind that mark a reference type. Here are the forms derived from it: the name that exclusion patterns see, the dotted
name that signatures show, and the file the class was compiled from.
-/

namespace CallGraph.ClassName

/-- The name without the leading mark. -/
def unmarked (name : String) : String :=
  String.ofList (Text.dropFirst 'L' name.toList)

/-- The characters of the name without either mark. -/
def bare (name : String) : List Char :=
  Text.dropLast ';' (Text.dropFirst 'L' name.toList)

/-- The name as source code writes it, with dots between packages. -/
def dotted (name : String) : String :=
  String.ofList ((bare name).map fun c => if c = '/' then '.' else c)

/-- The source file of a class. Nested and anonymous classes, named after a `$`, share their top-level class's file. -/
def sourceFile (name : String) : String :=
  String.ofList ((bare name).takeWhile (· ≠ '$')) ++ ".java"

end CallGraph.ClassName

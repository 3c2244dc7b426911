import ModelRepositories.TypeScript.Syntax

/-!
The layout of generated files: four spaces of indentation, a line feed after every line, and one
empty line between two statements and between two methods of a class.
-/

namespace ModelRepositories.TypeScript

def indentation : String := "    "

def exportWord (exported : Bool) : String :=
  if exported then "export " else ""

def asyncWord (isAsync : Bool) : String :=
  if isAsync then "async " else ""

def Parameter.text (parameter : Parameter) : String :=
  parameter.name ++ ": " ++ parameter.typeText

def Method.header (method : Method) : String :=
  asyncWord method.isAsync ++ method.name ++ "(" ++
    ", ".intercalate (method.parameters.map (·.text)) ++ "): " ++ method.returnType ++ " \x7b"

def Method.lines (method : Method) : List String :=
  (indentation ++ method.header) ::
    method.body.map (indentation ++ indentation ++ ·) ++ [indentation ++ "\x7d"]

/-- Blocks of lines with an empty line between each two. -/
def spaced (blocks : List (List String)) : List String :=
  [""].intercalate blocks

def Class.lines (declared : Class) : List String :=
  (exportWord declared.exported ++ "class " ++ declared.name ++ " \x7b") ::
    spaced (declared.methods.map (·.lines)) ++ ["\x7d"]

def Statement.lines : Statement → List String
  | .importNames source names =>
    ["import \x7b " ++ ", ".intercalate names ++ " \x7d from \"" ++ source ++ "\";"]
  | .constant name initializer exported =>
    [exportWord exported ++ "const " ++ name ++ " = " ++ initializer ++ ";"]
  | .typeAlias name typeText exported =>
    [exportWord exported ++ "type " ++ name ++ " = " ++ typeText ++ ";"]
  | .classDeclaration declared => declared.lines

def SourceFile.lines (file : SourceFile) : List String :=
  spaced (file.statements.map (·.lines))

def SourceFile.render (file : SourceFile) : String :=
  String.join (file.lines.map (· ++ "\n"))

end ModelRepositories.TypeScript

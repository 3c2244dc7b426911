/-!
The part of TypeScript that generated files consist of. Names, types and expressions are text.
-/

namespace ModelRepositories.TypeScript

structure Parameter where
  name : String
  typeText : String
  deriving DecidableEq, Repr

structure Method where
  name : String
  isAsync : Bool
  parameters : List Parameter
  returnType : String
  /-- The statements of the body, a line each and without indentation. -/
  body : List String
  deriving DecidableEq, Repr

structure Class where
  name : String
  exported : Bool
  methods : List Method
  deriving DecidableEq, Repr

inductive Statement
  | importNames (source : String) (names : List String)
  | constant (name : String) (initializer : String) (exported : Bool)
  | typeAlias (name : String) (typeText : String) (exported : Bool)
  | classDeclaration (declared : Class)
  deriving DecidableEq, Repr

structure SourceFile where
  statements : List Statement
  deriving DecidableEq, Repr

end ModelRepositories.TypeScript

import ModelRepositories.Schema.Basic
import ModelRepositories.Text.Words
import ModelRepositories.TypeScript.Syntax

/-!
The methods of a repository. They all speak about one model through a `Subject`, so that every
method addresses a row in the same way.
-/

namespace ModelRepositories

open Schema TypeScript

def clientName : String := "prisma"

def clientType : String := "PrismaClient"

def braced (text : String) : String :=
  "\x7b " ++ text ++ " \x7d"

def promise (typeText : String) : String :=
  "Promise<" ++ typeText ++ ">"

theorem promise_append (typeText ending : String) :
    promise (typeText ++ ending) = "Promise<" ++ typeText ++ (ending ++ ">") := by
  simp only [promise, String.append_assoc]

structure Subject where
  modelName : String
  handle : String
  idName : String
  deriving DecidableEq, Repr

namespace Subject

/-- A model without an identifier still reaches its relations through `id`. -/
def ofModel (model : Model) : Subject where
  modelName := model.name
  handle := Text.camelCase model.name
  idName := (model.identifier?.map (·.name)).getD "id"

def aliasName (subject : Subject) : String :=
  "Required" ++ subject.modelName ++ "Fields"

def idParameter (subject : Subject) : Parameter :=
  ⟨"id", subject.modelName ++ "['" ++ subject.idName ++ "']"⟩

def dataParameter (subject : Subject) : Parameter :=
  ⟨"data", subject.aliasName⟩

def filter (subject : Subject) : String :=
  "where: " ++ braced (if subject.idName = "id" then "id" else subject.idName ++ ": id")

def call (subject : Subject) (operation argument : String) : String :=
  "await " ++ clientName ++ "." ++ subject.handle ++ "." ++ operation ++ "(" ++ argument ++ ")"

def create (subject : Subject) : Method where
  name := "create"
  isAsync := true
  parameters := [subject.dataParameter]
  returnType := promise subject.modelName
  body := ["return " ++ subject.call "create" (braced "data")]

def getAll (subject : Subject) : Method where
  name := "getAll"
  isAsync := true
  parameters := []
  returnType := promise (subject.modelName ++ "[]")
  body := ["return " ++ subject.call "findMany" ""]

def getById (subject : Subject) : Method where
  name := "getById"
  isAsync := true
  parameters := [subject.idParameter]
  returnType := promise (subject.modelName ++ " | null")
  body := ["return " ++ subject.call "findFirst" (braced subject.filter)]

def updateById (subject : Subject) : Method where
  name := "updateById"
  isAsync := true
  parameters := [subject.idParameter, subject.dataParameter]
  returnType := promise (subject.modelName ++ " | null")
  body := ["return " ++ subject.call "update" (braced (subject.filter ++ ", data"))]

def deleteById (subject : Subject) : Method where
  name := "deleteById"
  isAsync := true
  parameters := [subject.idParameter]
  returnType := promise "void"
  body := [subject.call "delete" (braced subject.filter)]

/-- Addressing single rows needs an identifier. -/
def rowMethods (subject : Subject) (hasIdentifier : Bool) : List Method :=
  [subject.create, subject.getAll] ++
    if hasIdentifier then [subject.getById, subject.updateById, subject.deleteById] else []

end Subject

def getterName (handle fieldName : String) : String :=
  "get" ++ Text.capitalize handle ++ Text.capitalize fieldName

def Subject.getter (subject : Subject) (relation : Field) : Method where
  name := getterName subject.handle relation.name
  isAsync := true
  parameters := [subject.idParameter]
  returnType := promise (relation.typeName ++ "[]")
  body := [
    "const data = " ++ subject.call "findFirst"
      (braced (subject.filter ++ ", select: " ++ braced (relation.name ++ ": true"))),
    "return data?." ++ relation.name ++ " ?? []"]

end ModelRepositories

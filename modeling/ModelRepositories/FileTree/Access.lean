import ModelRepositories.Text.Quoted

/-!
Why a file, a directory or a stream could not be used.
-/

namespace ModelRepositories

inductive AccessFault
  | notFound
  | alreadyExists
  | notDirectory
  | isDirectory
  | nameTooLong
  | tooManyLinks
  | notText
  | writeRefused
  | nulInPath
  deriving DecidableEq, Repr

namespace AccessFault

def code? : AccessFault → Option Nat
  | .notFound => some 2
  | .alreadyExists => some 17
  | .notDirectory => some 20
  | .isDirectory => some 21
  | .nameTooLong => some 36
  | .tooManyLinks => some 40
  | .notText => none
  | .writeRefused => none
  | .nulInPath => none

def all : List AccessFault :=
  [.notFound, .alreadyExists, .notDirectory, .isDirectory, .nameTooLong, .tooManyLinks, .notText,
    .writeRefused, .nulInPath]

def ofCode? (code : Nat) : Option AccessFault :=
  all.find? (·.code? == some code)

def kind : AccessFault → String
  | .notFound => "NotFound"
  | .alreadyExists => "AlreadyExists"
  | .notDirectory => "NotADirectory"
  | .isDirectory => "IsADirectory"
  | .nameTooLong => "InvalidFilename"
  | .tooManyLinks => "FilesystemLoop"
  | .notText => "InvalidData"
  | .writeRefused => "WriteZero"
  | .nulInPath => "InvalidInput"

def message : AccessFault → String
  | .notFound => "No such file or directory"
  | .alreadyExists => "File exists"
  | .notDirectory => "Not a directory"
  | .isDirectory => "Is a directory"
  | .nameTooLong => "File name too long"
  | .tooManyLinks => "Too many levels of symbolic links"
  | .notText => "stream did not contain valid UTF-8"
  | .writeRefused => "failed to write whole buffer"
  | .nulInPath => "file name contained an unexpected NUL byte"

def text (fault : AccessFault) : String :=
  match fault.code? with
  | some code => fault.message ++ " (os error " ++ toString code ++ ")"
  | none => fault.message

def debug (fault : AccessFault) : String :=
  match fault.code? with
  | some code =>
    "Os \x7b code: " ++ toString code ++ ", kind: " ++ fault.kind ++ ", message: " ++
      Text.quoted fault.message ++ " \x7d"
  | none =>
    "Error \x7b kind: " ++ fault.kind ++ ", message: " ++ Text.quoted fault.message ++ " \x7d"

end AccessFault

end ModelRepositories

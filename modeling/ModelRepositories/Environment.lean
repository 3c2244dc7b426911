/-!
Environment variables.
-/

namespace ModelRepositories

structure Environment where
  bindings : List (String × String)

/--
A name that is empty or holds `=` or NUL counts as unset, as the standard library documents it; the
lookup of the platform itself may find a variable of such a name.
-/
def Environment.get? (environment : Environment) (name : String) : Option String :=
  if name.isEmpty || name.toList.contains '=' || name.toList.contains '\x00' then none
  else environment.bindings.lookup name

end ModelRepositories

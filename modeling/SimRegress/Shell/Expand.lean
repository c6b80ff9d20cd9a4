import SimRegress.Text.Alphanumeric

/-!
Expanding `~` and environment variables in a path, as a shell does.

`$$` stands for one `$`. `$NAME` takes the longest run of letters, digits and underscores, in
any script, as the name, and `${NAME}` the text up to the next `}`, where `${NAME:-text}` gives
`text` when the variable is not set. A `$` followed by no name, and a `${` that is never closed,
stand for themselves. An unset variable
without a default fails the whole expansion. A leading `~` alone or before `/` becomes the home
directory, unless it came out of a variable.
-/

namespace SimRegress.Shell

/-- Environment variables, by name. -/
structure Environment where
  vars : List (String × String)

def Environment.get? (env : Environment) (name : String) : Option String := env.vars.lookup name

/-- A variable that is not set. -/
structure UnsetVariable where
  name : String
  deriving DecidableEq, Repr

def notFound : String := "environment variable not found"

/-- The text of the fault, followed by its cause. -/
def UnsetVariable.message (e : UnsetVariable) : String :=
  "error looking key " ++ String.singleton (Char.ofNat 39) ++ e.name ++
    String.singleton (Char.ofNat 39) ++ " up: " ++ notFound ++ ": " ++ notFound

/-- A character of a variable name after `$`. -/
def isNameChar (c : Char) : Bool := Text.isAlphanumeric c || c == '_'

/-- Splits `text` at the first occurrence of `sep`: the text before it and the text after it. -/
def splitAt (sep : List Char) : List Char → Option (List Char × List Char)
  | [] => none
  | c :: rest =>
    if sep.isPrefixOf (c :: rest) then some ([], (c :: rest).drop sep.length)
    else (splitAt sep rest).map fun (before, after) => (c :: before, after)

/-- The value of `${inner}`: a name, or a name and a default after `:-`. -/
def bracedValue (env : Environment) (inner : List Char) : Except UnsetVariable String :=
  let (name, fallback) := match splitAt [':', '-'] inner with
    | some (name, text) => if name.isEmpty then (inner, none) else (name, some text)
    | none => (inner, none)
  let name := String.ofList name
  match env.get? name, fallback with
  | some v, _ => .ok v
  | none, some text => .ok (String.ofList text)
  | none, none => .error ⟨name⟩

/-- Expands the variables in the characters left, appending to `done`; `fuel` bounds the steps. -/
def expandLoop (env : Environment) : Nat → List Char → String → Except UnsetVariable String
  | 0, _, done => .ok done
  | _, [], done => .ok done
  | fuel + 1, '$' :: '$' :: rest, done => expandLoop env fuel rest (done.push '$')
  | fuel + 1, '$' :: '{' :: rest, done =>
    match rest.span (· != '}') with
    | (inner, _ :: after) => do
      let v ← bracedValue env inner
      expandLoop env fuel after (done ++ v)
    | (_, []) => expandLoop env fuel rest (done ++ "$\x7b")
  | fuel + 1, '$' :: rest, done =>
    let (name, after) := rest.span isNameChar
    if name.isEmpty then expandLoop env fuel rest (done.push '$')
    else
      match env.get? (String.ofList name) with
      | some v => expandLoop env fuel after (done ++ v)
      | none => .error ⟨String.ofList name⟩
  | fuel + 1, c :: rest, done => expandLoop env fuel rest (done.push c)

/-- Expands the variables of a text. -/
def expandVariables (env : Environment) (text : String) : Except UnsetVariable String :=
  expandLoop env (text.length + 1) text.toList ""

/-- Replaces a leading `~`, alone or before `/`, by the home directory when there is one. -/
def expandTilde (env : Environment) (text : String) : String :=
  match text.toList, env.get? "HOME" with
  | '~' :: rest, some home =>
    if rest.isEmpty || rest.head? == some '/' then home ++ String.ofList rest else text
  | _, _ => text

/-- Expands the variables and then a leading `~` of a path; a `~` that a variable brought in
stays as it is. -/
def expandPath (env : Environment) (text : String) : Except UnsetVariable String := do
  let expanded ← expandVariables env text
  if expanded == text then pure (expandTilde env text)
  else if !text.startsWith "~" && expanded.startsWith "~" then pure expanded
  else pure (expandTilde env expanded)

end SimRegress.Shell

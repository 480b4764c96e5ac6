import DocFilter.Program.Command

/-!
# Arguments of the program

The first argument names the command.  Options may stand before and behind the
expression, each at most once, and behind a bare `--` every argument is an
expression.
-/

namespace DocFilter.Program

/-- What one argument, or an option with its value, says. -/
inductive Setting where
  | expression (text : String)
  | documentColumn (name : String)
  | rowColumn (name : String)
  | asTree
  | pretty
deriving DecidableEq

/-- Whether an argument is read as an option. -/
def isOption (argument : String) : Bool :=
  argument.toList.head? == some '-' && argument != "-"

/-- The setting that an option makes of the value behind it. -/
def valueOption? : String → Option (String → Setting)
  | "--root" => some .documentColumn
  | "--row-id" => some .rowColumn
  | _ => none

/-- The setting of an option that needs no further argument. -/
def fullOption? (argument : String) : Option Setting :=
  let option := String.ofList (argument.toList.takeWhile (· != '='))
  match argument.toList.dropWhile (· != '=') with
  | [] =>
    match option with
    | "--ast" => some .asTree
    | "--pretty" => some .pretty
    | "-p" => some .pretty
    | _ => none
  | _ :: value => (valueOption? option).map (· (String.ofList value))

/-- The settings of the arguments behind the name of a command. -/
def settings? : List String → Option (List Setting)
  | [] => some []
  | "--" :: others => some (others.map .expression)
  | argument :: others =>
    if isOption argument then
      match valueOption? argument, others with
      | some setting, value :: others =>
        if isOption value then none else (settings? others).map
          (setting value :: ·)
      | some _, [] => none
      | none, others => do
        let setting ← fullOption? argument
        return setting :: (← settings? others)
    else (settings? others).map (.expression argument :: ·)

/-- Gives a part of a request its value, once. -/
def once {α : Type} (current : Option α) (value : α) : Option (Option α) :=
  if current.isNone then some (some value) else none

/-- Adds a setting to a request.  No setting may be made twice. -/
def CompileRequest.add (request : CompileRequest) :
    Setting → Option CompileRequest
  | .expression text => do
    return { request with expression := ← once request.expression text }
  | .documentColumn name => do
    return { request with documentColumn := ← once request.documentColumn name }
  | .rowColumn name => do
    return { request with rowColumn := ← once request.rowColumn name }
  | .asTree =>
    if request.asTree then none else some { request with asTree := true }
  | .pretty =>
    if request.isPretty then none else some { request with isPretty := true }

/-- Whether an argument asks for the version.  What is glued to the short option
does not matter. -/
def asksForVersion (argument : String) : Bool :=
  argument == "--version" || argument.toList.take 2 == ['-', 'V']

/-- The command with a name and settings. -/
def Command.ofSettings? : String → List Setting → Option Command
  | "compile", settings => .compile <$> settings.foldlM CompileRequest.add {}
  | "tokens", [] => some (.tokens none)
  | "tokens", [.expression text] => some (.tokens (some text))
  | "docs", [] => some .reference
  | _, _ => none

/-- The command that the arguments of the program stand for. -/
def Command.ofArguments? : List String → Option Command
  | [] => none
  | name :: arguments =>
    if asksForVersion name then some .version
    else (settings? arguments).bind (Command.ofSettings? name)

/-- How a run of the program ends. -/
inductive Outcome where
  | done (output : String)
  | failed (message : String)
  /-- The arguments stand for no command. -/
  | rejected
deriving DecidableEq

/-- What the program does with its arguments and its standard input. -/
def outcome (arguments : List String) (input : ByteArray) : Outcome :=
  match Command.ofArguments? arguments with
  | none => .rejected
  | some command =>
    match command.run input with
    | .ok output => .done output
    | .error trouble => .failed trouble.message

end DocFilter.Program

import ReactiveResource.Log
import ReactiveResource.Settings

/-!
# Arguments

What a user asks for on the command line: the name of a resource, options with a value, and flags.
Arguments are read from the left, and the first one that asks for something else than a run, or
makes no sense, decides. No option and no flag may be given twice.

* `Arguments`: what is asked for;
* `ValueOption`, `Flag`, `Switch`: the switches that are known;
* `Token`: the forms of an argument;
* `Misuse`, `Stop`: what is wrong with arguments, and why there is no run;
* `Arguments.ofTexts`: the arguments that texts stand for.
-/

namespace ReactiveResource.CommandLine

/-- What a user asks for. -/
structure Arguments where
  resource : Option String := none
  baseUrl : Option String := none
  team : Option String := none
  site : Option String := none
  /-- Parameters as JSON text, to be set over those of the catalog. -/
  params : Option String := none
  pages : Option UInt64 := none
  output : Option OutputFormat := none
  list : Bool := false
  save : Bool := false
  /-- The level of the log; none inside stands for no log. -/
  logLevel : Option (Option LogLevel) := none
  deriving DecidableEq, Repr, Inhabited

/-! ### Switches -/

/-- The options, which have a value. -/
inductive ValueOption where
  | baseUrl
  | team
  | site
  | params
  | pages
  | output
  | logLevel
  deriving DecidableEq, Repr, Inhabited

/-- The flags, which have none. -/
inductive Flag where
  | list
  | save
  deriving DecidableEq, Repr, Inhabited

/-- What may stand after one or two dashes. -/
inductive Switch where
  | value (option : ValueOption)
  | flag (flag : Flag)
  | help
  | version
  deriving DecidableEq, Repr, Inhabited

/-- The name of an option. -/
def ValueOption.name : ValueOption → String
  | .baseUrl => "base-url"
  | .team => "team"
  | .site => "site"
  | .params => "params"
  | .pages => "pages"
  | .output => "output"
  | .logLevel => "log-level"

/-- The name of a flag. -/
def Flag.name : Flag → String
  | .list => "list"
  | .save => "save"

/-- The switch of a name. -/
def Switch.ofName? : String → Option Switch
  | "base-url" => some (.value .baseUrl)
  | "team" => some (.value .team)
  | "site" => some (.value .site)
  | "params" => some (.value .params)
  | "pages" => some (.value .pages)
  | "output" => some (.value .output)
  | "log-level" => some (.value .logLevel)
  | "list" => some (.flag .list)
  | "save" => some (.flag .save)
  | "help" => some .help
  | "version" => some .version
  | _ => none

/-- The switch of a letter. -/
def Switch.ofLetter? : Char → Option Switch
  | 'b' => some (.value .baseUrl)
  | 't' => some (.value .team)
  | 'p' => some (.value .params)
  | 'o' => some (.value .output)
  | 'h' => some .help
  | 'V' => some .version
  | _ => none

/-! ### Forms of an argument -/

/-- The forms of an argument: two dashes alone, a name after two dashes, perhaps with a value after
an equals sign, a letter after one dash with what follows it, or a text that stands for itself. -/
inductive Token where
  | separator
  | named (name : String) (value : Option String)
  | lettered (letter : Char) (rest : List Char)
  | plain (text : String)
  deriving DecidableEq, Repr, Inhabited

/-- The form of an argument. One dash alone stands for itself. -/
def Token.ofText (arg : String) : Token :=
  match arg.toList with
  | ['-', '-'] => .separator
  | '-' :: '-' :: rest =>
    .named (String.ofList (rest.takeWhile (· != '=')))
      (match rest.dropWhile (· != '=') with
        | [] => none
        | _ :: value => some (String.ofList value))
  | '-' :: letter :: rest => .lettered letter rest
  | _ => .plain arg

/-! ### What can be wrong -/

/-- What is wrong with arguments. -/
inductive Misuse where
  | unexpected (arg : String)
  | missingValue (option : ValueOption)
  | badValue (option : ValueOption) (value : String)
  | needlessValue (name value : String)
  | repeated (name : String)
  deriving DecidableEq, Repr, Inhabited

/-- The text of a misuse. -/
def Misuse.message : Misuse → String
  | .unexpected arg => "unexpected argument '" ++ arg ++ "' found"
  | .missingValue option =>
    "a value is required for '--" ++ option.name ++ "' but none was supplied"
  | .badValue option value => "invalid value '" ++ value ++ "' for '--" ++ option.name ++ "'"
  | .needlessValue name value =>
    "unexpected value '" ++ value ++ "' for '--" ++ name ++ "' found; no more were expected"
  | .repeated name => "the argument '--" ++ name ++ "' cannot be used multiple times"

/-- Why there is no run. -/
inductive Stop where
  | help
  | version
  | misuse (misuse : Misuse)
  deriving DecidableEq, Repr, Inhabited

/-! ### Reading -/

/-- A number below 2⁶⁴ in decimal digits, perhaps after a plus sign. -/
def readCount? (text : String) : Option UInt64 :=
  let digits :=
    match text.toList with
    | '+' :: rest => rest
    | cs => cs
  if digits.isEmpty || !digits.all (·.isDigit) then none
  else
    let n := digits.foldl (fun n c => 10 * n + (c.toNat - '0'.toNat)) 0
    if n < UInt64.size then some (UInt64.ofNat n) else none

/-- The level of a name; none inside stands for no log. -/
def readLevel? : String → Option (Option LogLevel)
  | "off" => some none
  | "error" => some (some .error)
  | "warn" => some (some .warn)
  | "info" => some (some .info)
  | "debug" => some (some .debug)
  | "trace" => some (some .trace)
  | _ => none

namespace Arguments

/-- The text that is given for an option with texts for values. -/
def putText (option : ValueOption) (seen : Option String) (value : String) :
    Except Stop (Option String) :=
  if seen.isSome then .error (.misuse (.repeated option.name)) else .ok (some value)

/-- The value that is read for an option. -/
def putRead {α : Type} (option : ValueOption) (seen : Option α) (read? : String → Option α)
    (value : String) : Except Stop (Option α) :=
  if seen.isSome then .error (.misuse (.repeated option.name))
  else
    match read? value with
    | some a => .ok (some a)
    | none => .error (.misuse (.badValue option value))

/-- The arguments with an option. -/
def put (a : Arguments) (option : ValueOption) (value : String) : Except Stop Arguments :=
  match option with
  | .baseUrl => (putText option a.baseUrl value).map fun v => { a with baseUrl := v }
  | .team => (putText option a.team value).map fun v => { a with team := v }
  | .site => (putText option a.site value).map fun v => { a with site := v }
  | .params => (putText option a.params value).map fun v => { a with params := v }
  | .pages => (putRead option a.pages readCount? value).map fun v => { a with pages := v }
  | .output =>
    (putRead option a.output OutputFormat.ofName? value).map fun v => { a with output := v }
  | .logLevel => (putRead option a.logLevel readLevel? value).map fun v => { a with logLevel := v }

/-- The arguments with a flag. -/
def raise (a : Arguments) : Flag → Except Stop Arguments
  | .list =>
    if a.list then .error (.misuse (.repeated Flag.list.name)) else .ok { a with list := true }
  | .save =>
    if a.save then .error (.misuse (.repeated Flag.save.name)) else .ok { a with save := true }

/-- The arguments with a text that stands for itself: the name of the resource. -/
def name (a : Arguments) (text : String) : Except Stop Arguments :=
  if a.resource.isSome then .error (.misuse (.unexpected text))
  else .ok { a with resource := some text }

/-- A switch without a value of its own. -/
def press (a : Arguments) : Switch → Except Stop Arguments
  | .flag flag => a.raise flag
  | .help => .error .help
  | .version => .error .version
  | .value option => .error (.misuse (.missingValue option))

/-- The value that is attached to a letter, if there is one; an equals sign before it is left
out. -/
def attached : List Char → Option String
  | [] => none
  | '=' :: rest => some (String.ofList rest)
  | rest => some (String.ofList rest)

/-- What an argument says, given the arguments before it. An option without a value of its own is
left to the argument after it. -/
def take (a : Arguments) (arg : String) : Except Stop (Arguments × Option ValueOption) :=
  let done (result : Except Stop Arguments) : Except Stop (Arguments × Option ValueOption) :=
    result.map fun a => (a, none)
  match Token.ofText arg with
  | .separator => .ok (a, none)
  | .plain text => done (a.name text)
  | .named name value =>
    match Switch.ofName? name, value with
    | none, _ => .error (.misuse (.unexpected arg))
    | some (.value option), some value => done (a.put option value)
    | some (.value option), none => .ok (a, some option)
    | some _, some value => .error (.misuse (.needlessValue name value))
    | some switch, none => done (a.press switch)
  | .lettered letter rest =>
    match Switch.ofLetter? letter, attached rest with
    | none, _ => .error (.misuse (.unexpected arg))
    | some (.value option), some value => done (a.put option value)
    | some (.value option), none => .ok (a, some option)
    | some switch, _ => done (a.press switch)

/-- The arguments that texts stand for, given those before them and an option that still has no
value. After two dashes alone all texts stand for themselves. -/
def read (a : Arguments) : Option ValueOption → List String → Except Stop Arguments
  | none, [] => .ok a
  | some option, [] => .error (.misuse (.missingValue option))
  | some option, arg :: rest =>
    match Token.ofText arg with
    | .plain value =>
      match a.put option value with
      | .ok a => read a none rest
      | .error stop => .error stop
    | _ => .error (.misuse (.missingValue option))
  | none, arg :: rest =>
    if Token.ofText arg = .separator then rest.foldlM name a
    else
      match a.take arg with
      | .ok (a, pending) => read a pending rest
      | .error stop => .error stop

/-- The arguments that texts stand for. -/
def ofTexts (texts : List String) : Except Stop Arguments := read {} none texts

/-- How many pages are asked for. -/
def pageCount (a : Arguments) : Nat := (a.pages.getD 1).toNat

end Arguments

end ReactiveResource.CommandLine

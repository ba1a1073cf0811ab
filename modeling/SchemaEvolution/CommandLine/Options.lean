/-! # Options on a command line
Arguments are options or **words**. An option has a long name after two dashes and may have a letter
after one dash; letters can be written together. The value of an option follows an equals sign, the
letter itself, or is the next argument, which must not look like an option. After two dashes on
their own all arguments are words. A **request** is an option that is answered at once: what comes
after it is not read. -/

namespace SchemaEvolution

/-- Why a command line is refused. -/
inductive UsageError where
  /-- There is no option of that name here. -/
  | unknownOption (argument : String)
  /-- There is no command of that name. -/
  | unknownCommand (argument : String)
  /-- An option is given twice. -/
  | repeatedOption (name : String)
  /-- An option lacks its value. -/
  | missingValue (name : String)
  /-- An option takes no value. -/
  | unwantedValue (name : String)
  /-- The value of an option cannot be read. -/
  | invalidValue (name value : String)
  /-- The number of words is wrong. -/
  | wordCount (expected actual : Nat)
  deriving DecidableEq, Repr

/-- The text shown for a refused command line. -/
def UsageError.message : UsageError → String
  | .unknownOption argument => "error: unexpected argument '" ++ argument ++ "' found"
  | .unknownCommand argument => "error: unrecognized subcommand '" ++ argument ++ "'"
  | .repeatedOption name => "error: the argument '--" ++ name ++ "' cannot be used multiple times"
  | .missingValue name => "error: a value is required for '--" ++ name ++ "' but none was supplied"
  | .unwantedValue name => "error: no value is accepted for '--" ++ name ++ "'"
  | .invalidValue name value => "error: invalid value '" ++ value ++ "' for '" ++ name ++ "'"
  | .wordCount expected actual =>
    "error: " ++ toString expected ++ " arguments are required but " ++ toString actual ++
      " were supplied"

/-- The kinds of options. -/
inductive OptionKind where
  /-- An option without a value. -/
  | flag
  /-- An option with a value. -/
  | setting
  /-- An option without a value, after which nothing is read. -/
  | request
  deriving DecidableEq, Repr

/-- An option that a command knows. -/
structure OptionSpec where
  /-- Its long name. -/
  name : String
  /-- Its letter. -/
  letter : Option Char
  /-- Its kind. -/
  kind : OptionKind
  deriving DecidableEq, Repr

/-- What arguments say. -/
inductive Item where
  /-- An option without a value. -/
  | flag (name : String)
  /-- An option with its value. -/
  | setting (name value : String)
  /-- An option that is answered at once. -/
  | request (name : String)
  /-- A word. -/
  | word (text : String)
  deriving DecidableEq, Repr

namespace Item

/-- The name of an option. -/
def name? : Item → Option String
  | .flag name => some name
  | .setting name _ => some name
  | .request name => some name
  | .word _ => none

/-- The text of a word. -/
def word? : Item → Option String
  | .word text => some text
  | _ => none

/-- The value of an option of a given name. -/
def value? (name : String) : Item → Option String
  | .setting other value => if other = name then some value else none
  | _ => none

/-- Whether an option is answered at once. -/
def isRequest : Item → Bool
  | .request _ => true
  | _ => false

end Item

/-! ## One argument -/

/-- What one argument says: some items, and possibly an option whose value is the next argument. -/
structure ArgumentReading where
  /-- The items that are complete. -/
  items : List Item
  /-- The option that still needs its value. -/
  pending : Option String
  deriving DecidableEq, Repr

/-- Whether an argument has the form of an option. A dash on its own has not. -/
def isOption (argument : String) : Bool :=
  argument.toList.head? = some '-' && argument != "-"

/-- The reading of letters written together. The first one that has a value takes what follows it,
and letters after a request are not read. -/
def readLetters (specs : List OptionSpec) : List Char → Except UsageError ArgumentReading
  | [] => .ok ⟨[], none⟩
  | c :: cs =>
    match specs.find? fun spec => spec.letter == some c with
    | none => .error (.unknownOption (String.ofList ['-', c]))
    | some spec =>
      match spec.kind, cs with
      | .request, _ => .ok ⟨[.request spec.name], none⟩
      | .setting, [] => .ok ⟨[], some spec.name⟩
      | .setting, d :: ds =>
        .ok ⟨[.setting spec.name (String.ofList (if d = '=' then ds else d :: ds))], none⟩
      | .flag, _ =>
        (readLetters specs cs).map fun reading =>
          { reading with items := .flag spec.name :: reading.items }

/-- The reading of what follows two dashes. -/
def readLongOption (specs : List OptionSpec) (body : List Char) :
    Except UsageError ArgumentReading :=
  let name := String.ofList (body.takeWhile fun c => c != '=')
  match specs.find? fun spec => spec.name == name with
  | none => .error (.unknownOption (String.ofList ('-' :: '-' :: body)))
  | some spec =>
    match spec.kind, body.dropWhile fun c => c != '=' with
    | .setting, [] => .ok ⟨[], some spec.name⟩
    | .setting, _ :: value => .ok ⟨[.setting spec.name (String.ofList value)], none⟩
    | .flag, [] => .ok ⟨[.flag spec.name], none⟩
    | .request, [] => .ok ⟨[.request spec.name], none⟩
    | _, _ :: _ => .error (.unwantedValue spec.name)

/-- The reading of one argument. -/
def readArgument (specs : List OptionSpec) (argument : String) :
    Except UsageError ArgumentReading :=
  if !isOption argument then .ok ⟨[.word argument], none⟩
  else
    match argument.toList with
    | _ :: '-' :: body => readLongOption specs body
    | _ :: letters => readLetters specs letters
    | [] => .ok ⟨[], none⟩

/-! ## All arguments -/

/-- The items of a list of arguments, up to the first request. -/
def readItems (specs : List OptionSpec) : List String → Except UsageError (List Item)
  | [] => .ok []
  | argument :: rest =>
    if argument = "--" then .ok (rest.map .word)
    else
      match readArgument specs argument, rest with
      | .error cause, _ => .error cause
      | .ok ⟨items, none⟩, rest =>
        if items.any Item.isRequest then .ok items
        else (readItems specs rest).map fun others => items ++ others
      | .ok ⟨_, some name⟩, [] => .error (.missingValue name)
      | .ok ⟨items, some name⟩, value :: rest =>
        if isOption value then .error (.missingValue name)
        else (readItems specs rest).map fun others => items ++ .setting name value :: others

/-- A name that a list holds twice. -/
def firstRepeated? : List String → Option String
  | [] => none
  | name :: names => if names.contains name then some name else firstRepeated? names

/-- The items of a list of arguments, in which no option may be repeated. -/
def readUniqueItems (specs : List OptionSpec) (arguments : List String) :
    Except UsageError (List Item) := do
  let items ← readItems specs arguments
  match firstRepeated? (items.filterMap Item.name?) with
  | some name => throw (.repeatedOption name)
  | none => return items

end SchemaEvolution

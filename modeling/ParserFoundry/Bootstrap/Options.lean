/-!
# Options

The arguments of the command: flags and options with a value, each under a long name and a letter,
and free arguments in between. Letters may be joined, and a value may follow its letter at once or
its long name after an equals sign.
-/

namespace ParserFoundry.Bootstrap

/-- An option of the command. -/
inductive OptionKind where
  | help
  | revision
  | package
  | file
deriving DecidableEq, Repr

namespace OptionKind

def all : List OptionKind := [help, revision, package, file]

def longName : OptionKind → String
  | help => "help"
  | revision => "revision"
  | package => "package"
  | file => "file"

def letter : OptionKind → Char
  | help => 'h'
  | revision => 'r'
  | package => 'p'
  | file => 'f'

def takesValue : OptionKind → Bool
  | help => false
  | _ => true

def mayRepeat : OptionKind → Bool
  | file => true
  | _ => false

def ofLetter? (c : Char) : Option OptionKind :=
  all.find? fun kind => kind.letter = c

/-- The option that a name stands for; a name of a single byte is a letter. -/
def ofName? (name : List Char) : Option OptionKind :=
  match name with
  | [c] => if c.utf8Size = 1 then ofLetter? c else none
  | name => all.find? fun kind => kind.longName.toList = name

end OptionKind

/-- Why arguments are refused. -/
inductive OptionError where
  | unrecognized (name : String)
  | missingValue (name : String)
  | unexpectedValue (name : String)
  | repeated (kind : OptionKind)
deriving DecidableEq, Repr

def OptionError.message : OptionError → String
  | unrecognized name => "Unrecognized option: '" ++ name ++ "'"
  | missingValue name => "Argument to option '" ++ name ++ "' missing"
  | unexpectedValue name => "Option '" ++ name ++ "' does not take an argument"
  | repeated kind => "Option '" ++ kind.longName ++ "' given more than once"

/-- The arguments, sorted out. -/
structure Arguments where
  /-- The options in order, with their values. -/
  options : List (OptionKind × Option String) := []
  free : List String := []
deriving DecidableEq, Repr

namespace Arguments

/-- The values of an option. -/
def values (arguments : Arguments) (kind : OptionKind) : List String :=
  arguments.options.filterMap fun entry => if entry.1 = kind then entry.2 else none

def has (arguments : Arguments) (kind : OptionKind) : Bool :=
  arguments.options.any fun entry => entry.1 = kind

/-- Put an option in front. -/
def withOption (arguments : Arguments) (kind : OptionKind) (value? : Option String) : Arguments :=
  { arguments with options := (kind, value?) :: arguments.options }

/-- What joined letters say: the flags among them, and the option that takes the rest as its value,
or that needs a value if there is no rest. -/
structure Letters where
  flags : List OptionKind
  option? : Option (OptionKind × Option String)
deriving DecidableEq, Repr

/-- Read joined letters. -/
def readLetters : List Char → Except OptionError Letters
  | [] => .ok ⟨[], none⟩
  | c :: rest =>
    match OptionKind.ofLetter? c with
    | none => .error (.unrecognized (String.singleton c))
    | some kind =>
      -- The first letter that takes a value takes the rest of the argument, whatever it is.
      if kind.takesValue then
        .ok ⟨[], some (kind, if rest.isEmpty then none else some (String.ofList rest))⟩
      else do
        let others ← readLetters rest
        return { others with flags := kind :: others.flags }

/-- What an argument is. -/
inductive Item where
  | free
  /-- The mark after which all arguments are free. -/
  | mark
  | long (name : List Char) (value? : Option String)
  | short (letters : List Char)
deriving DecidableEq, Repr

/-- Classify an argument; a single dash is free. -/
def classify (argument : String) : Item :=
  match argument.toList with
  | '-' :: '-' :: [] => .mark
  | '-' :: '-' :: rest =>
    match rest.dropWhile (· != '=') with
    | _ :: value => .long (rest.takeWhile (· != '=')) (some (String.ofList value))
    | [] => .long rest none
  | '-' :: c :: rest => .short (c :: rest)
  | _ => .free

/-- Sort out arguments in order. An option without its value takes the next argument for it. -/
def readAll : List String → Except OptionError Arguments
  | [] => .ok {}
  | argument :: rest =>
    match classify argument with
    | .free => (readAll rest).map fun found => { found with free := argument :: found.free }
    | .mark => .ok { free := rest }
    | .long name value? =>
      match OptionKind.ofName? name with
      | none => .error (.unrecognized (String.ofList name))
      | some kind =>
        if !kind.takesValue then
          if value?.isSome then .error (.unexpectedValue (String.ofList name))
          else (readAll rest).map fun found => found.withOption kind none
        else
          match value?, rest with
          | some value, rest => (readAll rest).map fun found => found.withOption kind (some value)
          | none, value :: rest =>
            (readAll rest).map fun found => found.withOption kind (some value)
          | none, [] => .error (.missingValue (String.ofList name))
    | .short letters =>
      match readLetters letters with
      | .error cause => .error cause
      | .ok ⟨flags, option?⟩ =>
        -- Flags come before the option that they are joined with, in the order of their letters.
        let withFlags (found : Arguments) : Arguments :=
          flags.foldr (fun kind found => found.withOption kind none) found
        match option?, rest with
        | none, rest => (readAll rest).map withFlags
        | some (kind, some value), rest =>
          (readAll rest).map fun found => withFlags (found.withOption kind (some value))
        | some (kind, none), value :: rest =>
          (readAll rest).map fun found => withFlags (found.withOption kind (some value))
        | some (kind, none), [] => .error (.missingValue (String.singleton kind.letter))

/-- Sort out the arguments. An option that may not repeat is given once at most. -/
def read (arguments : List String) : Except OptionError Arguments := do
  let found ← readAll arguments
  let repeats (kind : OptionKind) : Bool :=
    !kind.mayRepeat && 1 < found.options.countP fun entry => entry.1 = kind
  -- Repeats are looked for last, so that every other error is reported first.
  match OptionKind.all.find? repeats with
  | some kind => throw (.repeated kind)
  | none => return found

end Arguments

end ParserFoundry.Bootstrap

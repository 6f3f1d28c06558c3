import BoundedCrawl.Text.Ascii
set_option autoImplicit false

/-!
# Arguments

The program is told a URL, perhaps four numbers, and options in between.  An option has a long
name behind two hyphens and perhaps a letter behind one; letters may be written together.  A
value stands behind an equals sign, directly behind a letter, or as the next argument, which
then must not look like an option.  Behind two hyphens alone, nothing is an option.
-/

namespace BoundedCrawl.CommandLine

/-- What the program is asked to do. -/
structure Options where
  /-- The URL and the numbers, as they were written. -/
  operands : List String := []
  depth : Option Nat := none
  downloaders : Option Nat := none
  extractors : Option Nat := none
  perHost : Option Nat := none
  /-- The file with the settings. -/
  config : Option String := none
  excludes : List String := []
  hosts : List String := []
  /-- How often more was asked to be told. -/
  verbosity : Nat := 0
  /-- Nothing is to be told but errors. -/
  quiet : Bool := false
  deriving DecidableEq, Repr, Inhabited

/-- Why the program does not do what it is for. -/
inductive Stop where
  /-- It was asked for its version. -/
  | version
  /-- It was asked how it is used. -/
  | help
  /-- It was not used as it can be. -/
  | misuse
  deriving DecidableEq, Repr, Inhabited

/-! ## Values -/

/-- The number that digits write, perhaps behind a plus sign, if it fits into 64 bits. -/
def readCount? (text : List Char) : Option Nat :=
  let digits := match text with
    | '+' :: rest => rest
    | _ => text
  if !digits.isEmpty && digits.all Text.isDigit then
    let n := Text.readNumber 10 digits
    if n < Nat.pow 2 64 then some n else none
  else none

/-- The options that take a value. -/
inductive Valued where
  | config
  | exclude
  | host
  deriving DecidableEq, Repr, Inhabited

/-- Adds an operand: the URL first, and then the numbers. -/
def Options.addOperand (o : Options) (text : String) : Except Stop Options :=
  let added : Options := { o with operands := o.operands ++ [text] }
  match o.operands.length, readCount? text.toList with
  | 0, _ => .ok added
  | 1, some n => .ok { added with depth := some n }
  | 2, some n => .ok { added with downloaders := some n }
  | 3, some n => .ok { added with extractors := some n }
  | 4, some n => .ok { added with perHost := some n }
  | _, _ => .error .misuse

/-- Adds the value of an option.  There is one file with settings at most, and it has a name. -/
def Options.addValue (o : Options) (option : Valued) (value : List Char) :
    Except Stop Options :=
  let value := String.ofList value
  match option with
  | .config =>
    if o.config.isSome || value.isEmpty then .error .misuse
    else .ok { o with config := some value }
  | .exclude => .ok { o with excludes := o.excludes ++ [value] }
  | .host => .ok { o with hosts := o.hosts ++ [value] }

/-- Notes that nothing is to be told but errors. -/
def Options.hush (o : Options) : Except Stop Options :=
  if o.quiet then .error .misuse else .ok { o with quiet := true }

/-- Notes that more is to be told. -/
def Options.speakUp (o : Options) : Options := { o with verbosity := o.verbosity + 1 }

/-! ## Reading -/

/-- What an argument or a group of letters leads to. -/
inductive Reading where
  | done (o : Options)
  /-- The value of an option is the next argument. -/
  | wants (o : Options) (option : Valued)
  | stopped (why : Stop)
  deriving DecidableEq, Repr, Inhabited

/-- A reading that ends with options or a reason to stop. -/
def Reading.ofExcept : Except Stop Options → Reading
  | .ok o => .done o
  | .error why => .stopped why

/-- Reads letters behind a hyphen. -/
def readLetters (o : Options) : List Char → Reading
  | [] => .done o
  | letter :: rest =>
    let valued (option : Valued) : Reading :=
      match rest with
      | [] => .wants o option
      | '=' :: value => .ofExcept (o.addValue option value)
      | value => .ofExcept (o.addValue option value)
    match letter with
    | 'c' => valued .config
    | 'e' => valued .exclude
    | 'v' => readLetters o.speakUp rest
    | 'q' =>
      match o.hush with
      | .ok o => readLetters o rest
      | .error why => .stopped why
    | 'V' => .stopped .version
    | 'h' => .stopped .help
    | _ => .stopped .misuse

/-- Reads what stands behind two hyphens. -/
def readLong (o : Options) (text : List Char) : Reading :=
  let name := String.ofList (text.takeWhile (· != '='))
  let value : Option (List Char) := match text.dropWhile (· != '=') with
    | [] => none
    | _ :: value => some value
  let valued (option : Valued) : Reading :=
    match value with
    | none => .wants o option
    | some value => .ofExcept (o.addValue option value)
  match name, value with
  | "config", _ => valued .config
  | "exclude", _ => valued .exclude
  | "host", _ => valued .host
  | "verbose", none => .done o.speakUp
  | "quiet", none => .ofExcept o.hush
  | "version", none => .stopped .version
  | "help", none => .stopped .help
  | _, _ => .stopped .misuse

/-- Reads an argument that is not the value of an option. -/
def readArgument (o : Options) (text : String) : Reading :=
  match text.toList with
  | '-' :: '-' :: rest => readLong o rest
  | '-' :: letter :: rest => readLetters o (letter :: rest)
  | _ => .ofExcept (o.addOperand text)

/-- The argument looks like an option. -/
def looksLikeOption (text : String) : Bool :=
  match text.toList with
  | '-' :: _ :: _ => true
  | _ => false

/-- Reads arguments.  `pending` is the option whose value comes next. -/
def readAll (o : Options) (pending : Option Valued) : List String → Except Stop Options
  | [] => if pending.isSome then .error .misuse else .ok o
  | text :: rest =>
    match pending with
    | some option =>
      if looksLikeOption text then .error .misuse
      else do readAll (← o.addValue option text.toList) none rest
    | none =>
      if text == "--" then rest.foldlM Options.addOperand o
      else
        match readArgument o text with
        | .done o => readAll o none rest
        | .wants o option => readAll o (some option) rest
        | .stopped why => .error why

/-- Reads the arguments of the program. -/
def Options.read (arguments : List String) : Except Stop Options := do
  let o ← readAll {} none arguments
  if o.operands.isEmpty || (o.quiet && 0 < o.verbosity) then throw .misuse
  return o

end BoundedCrawl.CommandLine

import StreamRehearsal.Text.Cut

/-! # Grammar of a command line

A command line is a list of words: options, which start with a dash, and operands.

* An option has a long name, after two dashes, and may have a short one, a letter after one dash.
  Its value is the next word, or is attached: `--name=value`, `-nvalue`, `-n=value`.  The letters
  of options without values can share one dash.
* No option may be given twice.  A word that starts with a dash is no value, unless it is attached
  or is the dash alone.  After the word `--` all words are operands.
* `Grammar.scan` takes the words of a command line up to the name of a subcommand. -/

namespace StreamRehearsal

/-- What a command line may ask for instead of an action. -/
inductive Notice where
  | help
  | version
  deriving DecidableEq, Repr

/-- Why a command line leads to no action. -/
inductive Stop where
  | notice (n : Notice)
  | misuse
  deriving DecidableEq, Repr

/-- What an option does. -/
inductive OptionRole where
  /-- It is given or not. -/
  | switch
  /-- It has a value of a certain form. -/
  | valued (accepts : String → Bool)
  /-- It ends the command line at once. -/
  | notice (n : Notice)

/-- An option of a command line. -/
structure OptionRule where
  long : String
  short : Option Char
  role : OptionRole

/-- The options, operands and subcommands of a command line. -/
structure Grammar where
  options : List OptionRule
  /-- The greatest number of operands. -/
  operandLimit : Nat
  acceptsOperand : String → Bool
  subcommands : List String

/-- What a command line gives. -/
structure Given where
  /-- The long names of the options and their values; switches have an empty one. -/
  options : List (String × String)
  operands : List String
  deriving DecidableEq, Repr

namespace Given

/-- The value of an option. -/
def value? (g : Given) (long : String) : Option String :=
  (g.options.find? fun o => o.1 == long).map Prod.snd

/-- Whether an option is given. -/
def has (g : Given) (long : String) : Bool := (g.value? long).isSome

/-- Adds an option that is not given yet. -/
def add (g : Given) (long value : String) : Except Stop Given :=
  if g.has long then .error .misuse else .ok { g with options := g.options ++ [(long, value)] }

end Given

/-- Adds the value of an option, if it has the right form. -/
def OptionRule.give (o : OptionRule) (value : String) (g : Given) : Except Stop Given :=
  match o.role with
  | .switch => .error .misuse
  | .valued accepts => if accepts value then g.add o.long value else .error .misuse
  | .notice _ => .error .misuse

namespace Grammar

/-- The option with this long name. -/
def long? (grammar : Grammar) (name : String) : Option OptionRule :=
  grammar.options.find? fun o => o.long == name

/-- The option with this letter. -/
def short? (grammar : Grammar) (letter : Char) : Option OptionRule :=
  grammar.options.find? fun o => o.short == some letter

/-- Adds an operand, if there is room for it and it has the right form. -/
def giveOperand (grammar : Grammar) (word : String) (g : Given) : Except Stop Given :=
  if g.operands.length < grammar.operandLimit && grammar.acceptsOperand word then
    .ok { g with operands := g.operands ++ [word] }
  else .error .misuse

/-- Takes a long option without its dashes.  An option that is left without its value is returned
beside what is given. -/
def scanLong (grammar : Grammar) (g : Given) (cs : List Char) :
    Except Stop (Given × Option OptionRule) :=
  let name := String.ofList (cs.takeWhile (· != '='))
  match grammar.long? name, cs.dropWhile (· != '=') with
  | none, _ => .error .misuse
  | some o, [] =>
    match o.role with
    | .switch => (g.add o.long "").map fun g => (g, none)
    | .valued _ => .ok (g, some o)
    | .notice n => .error (.notice n)
  | some o, _ :: value => (o.give (String.ofList value) g).map fun g => (g, none)

/-- Takes short options that share a dash.  An option that is left without its value is returned
beside what is given. -/
def scanShort (grammar : Grammar) : Given → List Char → Except Stop (Given × Option OptionRule)
  | g, [] => .ok (g, none)
  | g, letter :: rest =>
    match grammar.short? letter with
    | none => .error .misuse
    | some o =>
      match o.role with
      | .notice n => .error (.notice n)
      | .switch =>
        match g.add o.long "" with
        | .ok g => scanShort grammar g rest
        | .error stop => .error stop
      | .valued _ =>
        if rest = [] then .ok (g, some o)
        else (o.give (String.ofList (Cut.dropLeading '=' rest)) g).map fun g => (g, none)

/-- Whether a word is taken for an option. -/
def isDashed (word : String) : Bool := word.toList.head? == some '-' && word != "-"

/-- Where a command line ends: at its end, or at the name of a subcommand, with the words after
it. -/
abbrev End := Option (String × List String)

/-- Takes the words of a command line.  An option that waits for its value comes first, and the
flag tells that only operands are left. -/
def scanWords (grammar : Grammar) :
    Option OptionRule → Bool → Given → List String → Except Stop (Given × End)
  | none, _, g, [] => .ok (g, none)
  | some _, _, _, [] => .error .misuse
  | some o, onlyOperands, g, word :: rest =>
    if isDashed word then .error .misuse
    else
      match o.give word g with
      | .ok g => scanWords grammar none onlyOperands g rest
      | .error stop => .error stop
  | none, true, g, word :: rest =>
    match grammar.giveOperand word g with
    | .ok g => scanWords grammar none true g rest
    | .error stop => .error stop
  | none, false, g, word :: rest =>
    if grammar.subcommands.contains word then .ok (g, some (word, rest))
    else
      match word.toList with
      | ['-', '-'] => scanWords grammar none true g rest
      | '-' :: '-' :: cs =>
        match grammar.scanLong g cs with
        | .ok (g, waiting) => scanWords grammar waiting false g rest
        | .error stop => .error stop
      | '-' :: c :: cs =>
        match grammar.scanShort g (c :: cs) with
        | .ok (g, waiting) => scanWords grammar waiting false g rest
        | .error stop => .error stop
      | _ =>
        match grammar.giveOperand word g with
        | .ok g => scanWords grammar none false g rest
        | .error stop => .error stop

/-- Takes the words of a command line. -/
def scan (grammar : Grammar) (words : List String) : Except Stop (Given × End) :=
  grammar.scanWords none false ⟨[], []⟩ words

end Grammar

end StreamRehearsal

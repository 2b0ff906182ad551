import Signpost.Path
import Signpost.Policy
import Signpost.Text.Cut

/-!
# The command line

Arguments are a command and options. An option is written with two hyphens and its name, or with one
hyphen and a letter; letters can be put together behind one hyphen. The value of an option follows
as the next argument, after an equals sign, or right after the letter. What cannot be read that way
has no meaning at all.
-/

namespace Signpost

inductive Command where
  | check
  | nav
  | config
deriving DecidableEq, Repr

def Command.ofName? : String → Option Command
  | "check" => some .check
  | "nav" => some .nav
  | "config" => some .config
  | _ => none

structure Options where
  verbose : Bool := false
  compact : Bool := false
  config : Option Path := none
  profile : Option String := none
  sourceDir : Option Path := none
  sidebars : Option Path := none
  onBrokenLinks : Option Policy := none
  sidebar : Option String := none
deriving DecidableEq, Repr

inductive Switch where
  | verbose
  | compact
deriving DecidableEq, Repr

inductive Setting where
  | config
  | profile
  | sourceDir
  | sidebars
  | onBrokenLinks
  | sidebar
deriving DecidableEq, Repr

namespace Options

def turnOn (o : Options) : Switch → Option Options
  | .verbose => if o.verbose then none else some { o with verbose := true }
  | .compact => if o.compact then none else some { o with compact := true }

def once {α : Type} (old : Option α) (new : α) : Option (Option α) :=
  match old with
  | some _ => none
  | none => some (some new)

def path? (text : String) : Option Path :=
  if text = "" then none else some ⟨text⟩

/-- The options with one more value; each may be given once, and has to be of its kind. -/
def give (o : Options) (setting : Setting) (text : String) : Option Options := do
  match setting with
  | .config => return { o with config := ← once o.config (← path? text) }
  | .profile => return { o with profile := ← once o.profile text }
  | .sourceDir => return { o with sourceDir := ← once o.sourceDir (← path? text) }
  | .sidebars => return { o with sidebars := ← once o.sidebars (← path? text) }
  | .onBrokenLinks =>
    return { o with onBrokenLinks := ← once o.onBrokenLinks (← Policy.ofName? text) }
  | .sidebar => return { o with sidebar := ← once o.sidebar text }

end Options

namespace CommandLine

def switch? (command : Command) (name : String) : Option Switch :=
  match name with
  | "verbose" => some .verbose
  | "compact" => if command = .check then none else some .compact
  | _ => none

def setting? (command : Command) (name : String) : Option Setting :=
  match name with
  | "config" => some .config
  | "profile" => some .profile
  | "source-dir" => some .sourceDir
  | "sidebars" => some .sidebars
  | "on-broken-links" => some .onBrokenLinks
  | "sidebar" => if command = .nav then some .sidebar else none
  | _ => none

def settingOfLetter? : Char → Option Setting
  | 'c' => some .config
  | 'p' => some .profile
  | 's' => some .sourceDir
  | _ => none

def nameAndValue (body : String) : String × Option String :=
  match Text.cut '=' body with
  | [] => ("", none)
  | [name] => (name, none)
  | name :: parts => (name, some (Text.join "=" parts))

structure Reading where
  options : Options := {}
  awaited : Option Setting := none
  closed : Bool := false

def readNamed (command : Command) (r : Reading) (body : String) : Option Reading :=
  match nameAndValue body with
  | (name, none) =>
    match switch? command name with
    | some switch => (r.options.turnOn switch).map fun options => { r with options }
    | none => (setting? command name).map fun setting => { r with awaited := some setting }
  | (name, some value) =>
    (setting? command name).bind fun setting =>
      (r.options.give setting value).map fun options => { r with options }

/-- Reads letters behind one hyphen. What follows the letter of an option with a value is the value,
with or without an equals sign. -/
def readLetters (r : Reading) : List Char → Option Reading
  | [] => some r
  | 'v' :: letters =>
    (r.options.turnOn .verbose).bind fun options => readLetters { r with options } letters
  | letter :: rest =>
    (settingOfLetter? letter).bind fun setting =>
      let give (value : List Char) : Option Reading :=
        (r.options.give setting (String.ofList value)).map fun options => { r with options }
      match rest with
      | [] => some { r with awaited := some setting }
      | '=' :: value => give value
      | value => give value

def readArgument (command : Command) (r : Reading) (argument : String) : Option Reading :=
  if r.closed then none
  else
    match r.awaited, argument.toList with
    | none, ['-', '-'] => some { r with closed := true }
    | none, '-' :: '-' :: body => readNamed command r (String.ofList body)
    | none, '-' :: letter :: letters => readLetters r (letter :: letters)
    | none, _ => none
    | some setting, ['-'] => (r.options.give setting "-").map fun options => { options }
    | some _, '-' :: _ => none
    | some setting, _ => (r.options.give setting argument).map fun options => { options }

def optionsOf? (command : Command) (arguments : List String) : Option Options :=
  (arguments.foldlM (readArgument command) {}).bind fun r =>
    if r.awaited.isSome then none else some r.options

end CommandLine

inductive Request where
  | version
  | run (command : Command) (options : Options)
deriving DecidableEq, Repr

namespace Request

def usage : String :=
  "Usage: docnav [-v] <check|nav|config> [-c FILE] [-p PROFILE] [-s DIR] [--sidebars FILE] " ++
    "[--on-broken-links POLICY] [--sidebar NAME] [--compact]"

inductive Opening where
  | version
  | goOn (verbose : Bool)
deriving DecidableEq, Repr

def readLetters (verbose : Bool) : List Char → Option Opening
  | [] => some (.goOn verbose)
  | 'v' :: letters => if verbose then none else readLetters true letters
  | 'V' :: _ => some .version
  | _ => none

def readOpening (verbose : Bool) (argument : String) : Option Opening :=
  if argument = "--verbose" then readLetters verbose ['v']
  else if argument = "--version" then some .version
  else
    match argument.toList with
    | '-' :: letter :: letters => readLetters verbose (letter :: letters)
    | _ => none

def ofArguments? (verbose : Bool) : List String → Option Request
  | [] => none
  | argument :: rest =>
    match Command.ofName? argument with
    | some command =>
      (CommandLine.optionsOf? command rest).map fun options =>
        .run command { options with verbose := verbose || options.verbose }
    | none =>
      match readOpening verbose argument with
      | some .version => some .version
      | some (.goOn verbose) => ofArguments? verbose rest
      | none => none

end Request

end Signpost

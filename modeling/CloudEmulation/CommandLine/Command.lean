import CloudEmulation.Number.Numeral
import CloudEmulation.Oracle.Order
/-!
Commands, and how they are read from arguments. Every option has a value and is given at most once.
-/

namespace CloudEmulation.CommandLine

inductive GoogleCommand where
  | list (project zone : String) (filter : Option String) (maxResults : Option Nat)
  | insert (project zone name : String) (body : Option String)
  | get (project zone name : String)
  | machineTypes (project zone : String) (filter : Option String)
  deriving Repr

inductive AzureCommand where
  | list (subscription group : String)
  | create (subscription group name location : String) (size : Option String)
  | get (subscription group name : String)
  deriving Repr

inductive OracleCommand where
  | list (compartment : String) (sortBy : Option Oracle.SortKey) (order : Option Oracle.SortOrder)
  | launch (compartment : String) (name domain shape : Option String)
  | get (id : String)
  | shapes (compartment : String)
  | attachments (compartment : String) (instanceId : Option String)
  deriving Repr

inductive Command where
  | google (c : GoogleCommand)
  | azure (c : AzureCommand)
  | oracle (c : OracleCommand)
  deriving Repr

/-- A command, and the file that configures the cloud if one is named. -/
structure Invocation where
  config : Option String
  command : Command
  deriving Repr

/-- What arguments ask for. -/
inductive Wish where
  | version
  | invocation (i : Invocation)
  deriving Repr

/-! Options. -/

/-- Options that were given, with their values. -/
abbrev Given := List (String × String)

/-- Whether an argument is an option rather than a value. -/
def isOption (s : String) : Bool := s.toList.head? = some '-' && s ≠ "-"

/-- The name of a long option, and its value if that is part of the argument. -/
def longOption? (s : String) : Option (String × Option String) :=
  match s.toList with
  | '-' :: '-' :: r =>
    let name := String.ofList (r.takeWhile (· ≠ '='))
    match r.dropWhile (· ≠ '=') with
    | _ :: value => some (name, some (String.ofList value))
    | [] => some (name, none)
  | _ => none

/-- The letter of a short option, and its value if that is part of the argument. -/
def shortOption? (s : String) : Option (Char × Option String) :=
  match s.toList with
  | '-' :: c :: r =>
    if c = '-' then none
    else match r with
      | [] => some (c, none)
      | '=' :: value => some (c, some (String.ofList value))
      | value => some (c, some (String.ofList value))
  | _ => none

/-- The full name of an option among those that are known. -/
def optionName? (names : List String) (letters : List (Char × String)) (s : String) :
    Option (String × Option String) :=
  match longOption? s with
  | some (name, value) => if name ∈ names then some (name, value) else none
  | none =>
    match shortOption? s with
    | some (c, value) => (letters.lookup c).map (·, value)
    | none => none

/-- Whether an argument asks for the version; what follows its letter does not matter. -/
def isVersion (s : String) : Bool := s = "--version" || s.toList.take 2 = ['-', 'V']

/-- Whether the options end at an argument. -/
def endsOptions (s : String) : Bool := !isOption s || s = "--" || isVersion s

/-- Reads options up to the first argument that is none. -/
def readOptions (names : List String) (letters : List (Char × String)) :
    Given → List String → Option (Given × List String)
  | given, [] => some (given, [])
  | given, a :: rest =>
    if endsOptions a then some (given, a :: rest)
    else
      match optionName? names letters a with
      | none => none
      | some (name, value) =>
        if given.any (·.1 = name) then none
        else
          match value, rest with
          | some value, rest => readOptions names letters (given ++ [(name, value)]) rest
          | none, value :: rest =>
            if isOption value then none
            else readOptions names letters (given ++ [(name, value)]) rest
          | none, [] => none

/-- The options of a command, with nothing after them. -/
def onlyOptions (names : List String) (args : List String) : Option Given := do
  let (given, rest) ← readOptions names [] [] args
  if rest = [] || rest = ["--"] then return given else none

/-- One of the values that an option may have, if it is given. -/
def choose (given : Given) (name : String) (choices : List (String × α)) : Option (Option α) :=
  match given.lookup name with
  | none => some none
  | some v => (choices.lookup v).map some

/-- A number of 32 bits; a zero may have a minus sign. -/
def word32? (s : String) : Option Nat :=
  match s.toList with
  | '-' :: r => if r ≠ [] && r.all (· = '0') then some 0 else none
  | _ => Numeral.word32? s

/-- A number, if the option is given. -/
def count (given : Given) (name : String) : Option (Option Nat) :=
  match given.lookup name with
  | none => some none
  | some v => (word32? v).map some

/-! Commands. -/

def GoogleCommand.read : List String → Option GoogleCommand
  | "list" :: args => do
    let g ← onlyOptions ["project", "zone", "filter", "max-results"] args
    return .list (← g.lookup "project") (← g.lookup "zone") (g.lookup "filter")
      (← count g "max-results")
  | "insert" :: args => do
    let g ← onlyOptions ["project", "zone", "name", "body"] args
    return .insert (← g.lookup "project") (← g.lookup "zone") (← g.lookup "name") (g.lookup "body")
  | "get" :: args => do
    let g ← onlyOptions ["project", "zone", "name"] args
    return .get (← g.lookup "project") (← g.lookup "zone") (← g.lookup "name")
  | "machine-types" :: args => do
    let g ← onlyOptions ["project", "zone", "filter"] args
    return .machineTypes (← g.lookup "project") (← g.lookup "zone") (g.lookup "filter")
  | _ => none

def defaultLocation : String := "eastus"

def AzureCommand.read : List String → Option AzureCommand
  | "list" :: args => do
    let g ← onlyOptions ["subscription", "resource-group"] args
    return .list (← g.lookup "subscription") (← g.lookup "resource-group")
  | "create" :: args => do
    let g ← onlyOptions ["subscription", "resource-group", "name", "location", "vm-size"] args
    return .create (← g.lookup "subscription") (← g.lookup "resource-group") (← g.lookup "name")
      ((g.lookup "location").getD defaultLocation) (g.lookup "vm-size")
  | "get" :: args => do
    let g ← onlyOptions ["subscription", "resource-group", "name"] args
    return .get (← g.lookup "subscription") (← g.lookup "resource-group") (← g.lookup "name")
  | _ => none

def sortKeys : List (String × Oracle.SortKey) :=
  [("time-created", .timeCreated), ("display-name", .displayName)]

def sortOrders : List (String × Oracle.SortOrder) :=
  [("asc", .ascending), ("desc", .descending)]

def OracleCommand.read : List String → Option OracleCommand
  | "list" :: args => do
    let g ← onlyOptions ["compartment", "sort-by", "sort-order"] args
    return .list (← g.lookup "compartment") (← choose g "sort-by" sortKeys)
      (← choose g "sort-order" sortOrders)
  | "launch" :: args => do
    let g ← onlyOptions ["compartment", "display-name", "availability-domain", "shape"] args
    return .launch (← g.lookup "compartment") (g.lookup "display-name")
      (g.lookup "availability-domain") (g.lookup "shape")
  | "get" :: args => do
    let g ← onlyOptions ["instance-id"] args
    return .get (← g.lookup "instance-id")
  | "shapes" :: args => do
    let g ← onlyOptions ["compartment"] args
    return .shapes (← g.lookup "compartment")
  | "vnic-attachments" :: args => do
    let g ← onlyOptions ["compartment", "instance-id"] args
    return .attachments (← g.lookup "compartment") (g.lookup "instance-id")
  | _ => none

def Command.read : List String → Option Command
  | "google" :: args => (GoogleCommand.read args).map .google
  | "azure" :: args => (AzureCommand.read args).map .azure
  | "oracle" :: args => (OracleCommand.read args).map .oracle
  | _ => none

def logLevels : List String := ["off", "error", "warn", "info", "debug", "trace"]

/-- What arguments ask for, if they are well formed. -/
def Wish.read (args : List String) : Option Wish := do
  let (given, rest) ← readOptions ["config", "log-level"] [('c', "config")] [] args
  if (given.lookup "config") = some "" then none
  if (given.lookup "log-level").any (! logLevels.contains ·) then none
  if rest.head?.any isVersion then return .version
  return .invocation ⟨given.lookup "config", ← Command.read rest⟩

/-- The file that configures the cloud: the one that is named, else one that the environment names,
else the user's own. -/
def Invocation.configPath? (i : Invocation) (fromEnvironment own : Option String) :
    Option String :=
  i.config.or ((fromEnvironment.filter (· ≠ "")).or own)

end CloudEmulation.CommandLine

import Forum.Config.Basic
import Forum.Toml.Document

/-!
# Where the configuration comes from

Layers, from the lowest: the names of the service and of its environment, a file for all, a file for
the environment, a file for the service, and the variables of the environment.

* `Config.ofVariables`: the settings among the variables;
* `Config.load`: the configuration, if every layer can be read.
-/

namespace Forum.Config

/-- What every variable of the configuration starts with, in small letters. -/
def variableStart : List Char := "answer_".toList

/-- A text with every pair of underscores made a dot. -/
def dotted : List Char → List Char
  | '_' :: '_' :: s => '.' :: dotted s
  | c :: s => c :: dotted s
  | [] => []

/-- The key that a variable sets, if it sets one. Case makes no difference. -/
def variableKey? (name : String) : Option String :=
  let s := (Text.lowercase name).toList
  if variableStart.isPrefixOf s then some (String.ofList (dotted (s.drop variableStart.length)))
  else none

/-- The value of a variable: a truth value, an integer or a number if it spells one. -/
def variableValue (s : String) : Tree :=
  if Text.equalAscii s "true" then .bool true
  else if Text.equalAscii s "false" then .bool false
  else
    match Text.Width.int64.read s.toList, Binary64.read s.toList with
    | some n, _ => .int n
    | none, some x => .float x
    | none, none => .text s

/-- The settings among the variables. -/
def ofVariables (env : List (String × String)) : List (String × Tree) :=
  env.filterMap fun (name, v) => (variableKey? name).map fun key => (key, variableValue v)

/-- The text of a file, whose ending may be there twice. A file that has nothing but its ending is
passed over. -/
def fileText? (files : List (String × String)) (name : String) : Option String :=
  match files.lookup (name ++ ".toml") with
  | some text => if name = "" then none else some text
  | none => files.lookup (name ++ ".toml.toml")

/-- The settings of a file; a file that is not there has none. -/
def fileLayer? (files : List (String × String)) (name : String) : Option (List (String × Tree)) :=
  match fileText? files name with
  | some text => Toml.document? text
  | none => some []

/-- The name of the environment. -/
def environmentName (env : List (String × String)) : String :=
  (env.lookup "ANSWER_ENV").getD "development"

/-- The port that one variable sets after all else; what is no port is passed over. -/
def portOverride? (env : List (String × String)) : Option Int :=
  (env.lookup "ANSWER_PORT").bind fun s => Text.Width.nat16.read s.toList

/-- The layers of a service, the lowest first. -/
def layers? (service : String) (files env : List (String × String)) :
    Option (List (List (String × Tree))) := do
  let name := environmentName env
  return [[("service_name", .text service), ("environment", .text name)],
    ← fileLayer? files "default", ← fileLayer? files name, ← fileLayer? files service,
    ofVariables env]

/-- The configuration of a service. -/
def load (service : String) (files env : List (String × String)) : Option Config := do
  let layers ← layers? service files env
  let c ← ofTree? (layers.foldl Tree.addLayer (.table []))
  match portOverride? env with
  | some port => return { c with server := { c.server with port } }
  | none => return c

end Forum.Config

import TokenGrammar.Settings.Decode
import TokenGrammar.Settings.KeyPath
import TokenGrammar.Toml.Document

namespace TokenGrammar.Settings

/-- How files are looked up: the name that a path leads to, and the text of the file. -/
abbrev Lookup := String → Option (String × String)

/-- What configuration comes from. Overrides win over all files, wherever they are given. -/
inductive Layer where
  | file (path : String) (required : Bool)
  | override (key : String) (v : Value)

mutual

/-- A document's value, told where it comes from. -/
def ofToml (origin : Origin) : Toml.Value → Value
  | .string s => .string origin s
  | .integer n => .integer origin n
  | .float x => .float origin x
  | .bool b => .bool origin b
  | .moment text => .string origin text
  | .array vs => .array origin (ofTomlAll origin vs)
  | .table entries => .table origin (ofTomlEntries origin entries)

def ofTomlAll (origin : Origin) : List Toml.Value → List Value
  | [] => []
  | v :: vs => ofToml origin v :: ofTomlAll origin vs

def ofTomlEntries (origin : Origin) : List (String × Toml.Value) → List (String × Value)
  | [] => []
  | (k, v) :: entries => (k, ofToml origin v) :: ofTomlEntries origin entries

end

/-- The lines of the defaults. -/
def defaultLines : List String :=
  ["# Built-in defaults for the matching engine. Files layered through",
   "# `config::Loader` override these keys.",
   "",
   "[repetition]",
   "# Upper bound on iterations for repetitions built by a grammar.",
   "# Leave unset for unbounded repetition.",
   "# max = 1000",
   "",
   "[parse]",
   "# `CompiledGrammar::parse` fails unless the start rule consumes every token.",
   "require_complete = true"]

/-- The text of the defaults. -/
def defaultText : String := String.join (defaultLines.map (· ++ "\n"))

/-- The configuration with a document's entry. A key that is no path is taken as a name. -/
def addEntry (root : Value) (entry : String × Value) : Value :=
  ((KeyPath.ofText? entry.1).getD (.ofName entry.1)).set entry.2 root

def addEntries (origin : Origin) (root : Value) (entries : List (String × Toml.Value)) : Value :=
  (ofTomlEntries origin entries).foldl addEntry root

/-- The configuration that all layers are put on. -/
def defaults : Value := addEntries none .emptyTable ((Toml.ofText? defaultText).getD [])

/-- The configuration with a file's text added. -/
def addFile (root : Value) (uri text : String) : Loaded Value :=
  match Toml.ofText? text with
  | none => .error (.malformedFile uri)
  | some entries => .ok (addEntries (some uri) root entries)

/-- The configuration with the files of all layers added. -/
def addFiles (find : Lookup) : Value → List Layer → Loaded Value
  | root, [] => .ok root
  | root, .override _ _ :: layers => addFiles find root layers
  | root, .file path required :: layers =>
    match find path with
    | some (uri, text) => do addFiles find (← addFile root uri text) layers
    | none => if required then .error (.missingFile path) else addFiles find root layers

/-- The overrides of all layers; the last one of a key stands for all of it. -/
def overrides : List Layer → Loaded (List (KeyPath × Value))
  | [] => .ok []
  | .file _ _ :: layers => overrides layers
  | .override key v :: layers =>
    match KeyPath.ofText? key with
    | none => .error .badKey
    | some path => do
      let later ← overrides layers
      return if (later.lookup path).isSome then later else (path, v) :: later

/-- The configuration of all layers. -/
def merge (find : Lookup) (layers : List Layer) : Loaded Value := do
  let last ← overrides layers
  let root ← addFiles find defaults layers
  return last.foldl (fun root (path, v) => path.set v root) root

/-- The settings of all layers. -/
def load (find : Lookup) (layers : List Layer) : Loaded Settings := do
  ofValue (← merge find layers)

end TokenGrammar.Settings

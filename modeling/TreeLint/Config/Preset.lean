import TreeLint.Config.Document

/-!
The document that every configuration starts from, and the presets that are built in.
-/
namespace TreeLint.Preset

/-- What holds unless some document says otherwise. -/
def defaults : Document where
  version := some 1
  included := some ["src/**"]
  excluded := some ["node_modules", "dist", "build", "coverage"]

def base : Document where
  name := some "base"
  description := some "Common include and exclude settings for JavaScript and TypeScript projects"
  included := some ["src/**"]
  excluded := some ["node_modules", "dist", "build", "coverage", ".next", "**/*.d.ts"]

/-- A layer as an option of a rule. -/
def layer (name : String) (allowed : List String) : Value :=
  .ofMembers ([("name", .string name), ("pattern", .string s!"src/{name}/**")] ++
    if allowed = [] then [] else [("allowed", .strings allowed)])

def cleanArchitecture : Document where
  name := some "clean-architecture"
  description := some
    "Dependencies point inwards: domain <- application <- infrastructure, presentation"
  bases := ["builtin/base"]
  rules := some [{
    id := "clean-architecture-layers"
    kind := "import-boundary"
    message := some "Clean architecture"
    options := [("layers", .array [
      layer "domain" [],
      layer "application" ["domain"],
      layer "infrastructure" ["domain", "application"],
      layer "presentation" ["domain", "application"]])] }]

def featureModules : Document where
  name := some "feature-modules"
  description := some "Feature folders are only reachable through their index file"
  bases := ["builtin/base"]
  rules := some [{
    id := "feature-public-api"
    kind := "public-api"
    options := [("barrel", .string "index.ts"), ("modules", .string "src/features/*")] }]

/-- The built-in presets with their names. -/
def builtins : List (String × Document) :=
  [("base", base), ("clean-architecture", cleanArchitecture), ("feature-modules", featureModules)]

def names : List String := builtins.map (·.1)

def builtin? (name : String) : Option Document := Ascending.find? name builtins

/-- What a preset is called where it is referred to. -/
def builtinStart : String := "builtin/"

/-- Each preset as it is referred to, with its description. -/
def descriptions : List (String × String) :=
  builtins.map fun (name, d) => (builtinStart ++ name, d.description.getD "")

end TreeLint.Preset

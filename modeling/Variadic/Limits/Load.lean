import Variadic.FileTree.Basic
import Variadic.Issue
import Variadic.Toml.Document

/-!
# Ceilings from manifests

The ceilings are set in the manifests of the directory being compiled and of those above it, up to
the first that declares a workspace. The nearest manifest's package metadata wins over the
workspace's, and either over the default, for each ceiling on its own.

How a text that is no manifest is explained to the user is up to the parser, so the explanation of
every text (`explain`) is given from outside.
-/

namespace Variadic

def manifestName : String := "Cargo.toml"

/-- The manifests of a directory and of those above it, nearest first. -/
def FileTree.manifests (t : FileTree) (dir : String) : List String :=
  ((ancestors dir).map (inDirectory · manifestName)).filter t.isFile

/-- A manifest that was read. -/
structure Manifest where
  path : String
  content : Toml.Value
deriving Repr

namespace Manifest

/-- The key of these settings among the metadata that manifests hold for all kinds of tools. -/
def metadataKey : String := "va-iter"

def declaresWorkspace (m : Manifest) : Bool :=
  (m.content.get? "workspace").isSome

/-- The settings under the top-level key `area`, if they are a table. -/
def settings? (m : Manifest) (area : String) : Option Toml.Table := do
  let value ← m.content.get? area
  let value ← value.get? "metadata"
  let value ← value.get? metadataKey
  value.asTable?

/-- Parses texts, nearest first, up to the first that declares a workspace. -/
def collect (explain : String → String) :
    List (String × String) → Except ConfigurationFault (List Manifest)
  | [] => .ok []
  | (path, text) :: texts =>
    match Toml.parse? text with
    | none => .error (.malformed path (explain text))
    | some content =>
      let m : Manifest := ⟨path, content⟩
      if m.declaresWorkspace then .ok [m]
      else
        match collect explain texts with
        | .error e => .error e
        | .ok ms => .ok (m :: ms)

/-- The manifests that count for a directory. Files that hold no text are passed over. -/
def load (explain : String → String) (files : FileTree) (dir : String) :
    Except ConfigurationFault (List Manifest) :=
  collect explain ((files.manifests dir).filterMap fun path => (files.text? path).map (path, ·))

end Manifest

namespace Limits

/-- The settings to look at, with the path of their manifest, most important first. -/
def tables (ms : List Manifest) : List (String × Toml.Table) :=
  let package := ms.head?.bind fun m => (m.settings? "package").map (m.path, ·)
  let workspaces := ms.filterMap fun m => (m.settings? "workspace").map (m.path, ·)
  package.toList ++ workspaces

/-- The first value of a key, and the manifest it stands in. -/
def lookup? (ts : List (String × Toml.Table)) (key : String) : Option (String × Toml.Value) :=
  ts.findSome? fun (path, t) => (t.get? key).map (path, ·)

/-- The ceiling that a value sets. -/
def ofValue? (v : Toml.Value) : Option Nat :=
  match v.asInteger? with
  | some (.ofNat n) => if 1 ≤ n && n ≤ ConfigurationFault.maxLimit then some n else none
  | _ => none

/-- The ceiling that the settings set, or else the default one. The first value decides, and if it
sets no ceiling the configuration is at fault. -/
def resolveCeiling (ts : List (String × Toml.Table)) (c : Ceiling) (default : Nat) :
    Except ConfigurationFault Nat :=
  match lookup? ts c.key with
  | none => .ok default
  | some (path, v) =>
    match ofValue? v with
    | some n => .ok n
    | none => .error (.unusable c.key path v)

def resolve (ms : List Manifest) : Except ConfigurationFault Limits := do
  let ts := tables ms
  let defaults : Limits := {}
  let count ← resolveCeiling ts .count defaults.count
  let each ← resolveCeiling ts .each defaults.each
  pure ⟨count, each⟩

/-- The limits for a directory. Without one the defaults apply. -/
def load (explain : String → String) (files : FileTree) (dir : Option String) :
    Except Issue Limits :=
  match dir with
  | none => .ok {}
  | some dir =>
    match Manifest.load explain files dir >>= resolve with
    | .ok limits => .ok limits
    | .error e => .error (Issue.general (.configuration e))

end Limits

end Variadic

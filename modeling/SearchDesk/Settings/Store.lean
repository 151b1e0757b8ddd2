import SearchDesk.Files.Directory
import SearchDesk.Settings.Basic

/-!
# Loading settings and keeping them

`Store` knows where the settings come from and keeps them once they are loaded:

* the configuration directory is the one of the project, unless a variable of the environment
  names another one;
* a file of variables may be at hand: a load first gives each of its variables to the
  environment, unless the variable is set there already, and the variable stays set;
* a configuration file that is not there counts as empty;
* `Store.get` loads the settings if none are kept, and keeps them if that succeeds, so a
  load that fails is tried again the next time;
* `Store.clear` forgets the settings that are kept.

Looking for a file leaves a `ConfigNotice`.
-/

namespace SearchDesk

/-- A directory of configuration files, and the path by which messages name it. -/
structure ConfigDirectory where
  path : String
  directory : Files.Directory
deriving DecidableEq, Repr, Inhabited

/-- What was found when a configuration file was looked for. -/
inductive ConfigNotice where
  | absent (path : String)
  | loaded (path : String)
deriving DecidableEq, Repr

/-- The message of a notice. -/
def ConfigNotice.message : ConfigNotice → String
  | .absent path => "No configuration file at " ++ path ++ ", using defaults"
  | .loaded path => "Loaded configuration from " ++ path

namespace ConfigDirectory

/-- The name of the settings file. -/
def settingsFile : String := "settings.yaml"

/-- The path by which messages name a file of the directory. -/
def pathOf (c : ConfigDirectory) (name : String) : String :=
  ((Files.Path.ofText c.path).append (Files.Path.ofText name)).text

/-- The document of the text of a configuration file: a mapping. An empty text stands for
an empty one. -/
def documentOf (path text : String) : Except LoadFault Yaml.Document :=
  match Yaml.Document.ofText text with
  | .error f => .error (.unreadable path f)
  | .ok d =>
    match d.cell d.root with
    | .map _ => .ok d
    | .scalar .null => .ok Yaml.Document.noPairs
    | _ => .error (.notAMapping path)

/-- The fault of a configuration file that cannot be read as text. -/
def readFault (path : String) : Files.TextFault → LoadFault
  | .file f => .file { f with path := path }
  | .undecodable f => .undecodable f

/-- The document of a configuration file, with the notice that it leaves. -/
def document (c : ConfigDirectory) (name : String) :
    Except LoadFault Yaml.Document × List ConfigNotice :=
  let path := c.pathOf name
  let file := Files.Path.ofText name
  match c.directory.probe file with
  | .error f => (.error (.file { f with path := path }), [])
  | .ok false => (.ok Yaml.Document.noPairs, [.absent path])
  | .ok true =>
    match c.directory.readText file with
    | .error f => (.error (readFault path f), [])
    | .ok text =>
      match documentOf path text with
      | .error f => (.error f, [])
      | .ok d => (.ok d, [.loaded path])

/-- A directory with a settings file of the given text, or without one. -/
def withSettings (path : String) (text : Option String) : ConfigDirectory where
  path := path
  directory := match text with
    | some t => ({} : Files.Directory).add settingsFile (.text t)
    | none => {}

/-- The settings file of the project, which spells out the defaults. -/
def projectSettings : String :=
  "query:\n  max_depth: 50\n\ndetection:\n  sample_size: 50\n  kind_field: _type\n"
    ++ "  default_kind: default\n  internal_prefix: \"_\"\n  reserved_fields:\n    - _type\n"
    ++ "    - _id\n    - _embeddings\n    - _summaries\n"

end ConfigDirectory

/-- What the variable that names the configuration directory stands for. -/
inductive ConfigPlace where
  /-- The directory of the project: the variable is set, but empty. -/
  | home
  /-- The directory that the file of variables names. -/
  | supplied
  | other (c : ConfigDirectory)
deriving DecidableEq, Repr

/-- What the file of variables says about settings; its values do not refer to variables. -/
structure Supplied where
  /-- The configuration directory that it names. -/
  directory : Option ConfigDirectory := none
  overrides : Overrides := {}
deriving DecidableEq, Repr, Inhabited

/-- Where settings come from, and those that are kept. -/
structure Store where
  /-- The configuration directory of the project. -/
  home : ConfigDirectory
  /-- The configuration directory that the environment names. -/
  chosen : Option ConfigPlace := none
  /-- The variables of the environment that override settings. -/
  overrides : Overrides := {}
  /-- The file of variables, which is empty if there is none. -/
  supplied : Supplied := {}
  /-- The settings that are kept. -/
  kept : Option Settings := none
deriving DecidableEq, Repr, Inhabited

/-- The variables, and those of a file where they are not set. -/
def Overrides.orElse (o file : Overrides) : Overrides where
  maxDepth := o.maxDepth.or file.maxDepth
  sampleSize := o.sampleSize.or file.sampleSize

namespace Store

/-- The configuration directory in force. -/
def directory (s : Store) : ConfigDirectory :=
  match s.chosen with
  | some (.other c) => c
  | some .supplied => s.supplied.directory.getD s.home
  | _ => s.home

/-- The store with the variables of the file where they are not set. -/
def filled (s : Store) : Store where
  home := s.home
  chosen := s.chosen.or (s.supplied.directory.map fun _ => .supplied)
  overrides := s.overrides.orElse s.supplied.overrides
  supplied := s.supplied
  kept := s.kept

/-- The settings that are in the configuration directory, with the variables that are set. -/
def read (s : Store) : Except LoadFault Settings × List ConfigNotice :=
  match s.directory.document ConfigDirectory.settingsFile with
  | (.error f, notices) => (.error f, notices)
  | (.ok d, notices) => (Settings.load s.overrides (.ofDocument d), notices)

/-- The settings as the file and the environment are now, with the notices. -/
def fresh (s : Store) : Except LoadFault Settings × List ConfigNotice := s.filled.read

/-- The settings: those that are kept, or else fresh ones, which are kept from then on. The
variables that were filled in stay set, also if the load fails. -/
def get (s : Store) : (Except LoadFault Settings × List ConfigNotice) × Store :=
  match s.kept with
  | some settings => ((.ok settings, []), s)
  | none =>
    match s.fresh with
    | (.ok settings, notices) => ((.ok settings, notices), { s.filled with kept := some settings })
    | (.error f, notices) => ((.error f, notices), s.filled)

/-- Forget the settings that are kept. -/
def clear (s : Store) : Store := { s with kept := none }

end Store

end SearchDesk

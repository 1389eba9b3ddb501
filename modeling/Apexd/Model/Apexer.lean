import Mathlib.Data.Finmap

/-! # Build information

`ValidateArgs` and `GenerateBuildInfo` of `apexer.py`: the options that an APEX was built with are
recorded in a file, which a later build takes its defaults from.
-/

namespace Apexd

namespace Apexer

/-- What the file system has at a path. -/
inductive Entry where
  | dir
  | file (bytes : List UInt8)
  deriving DecidableEq

abbrev Files := Finmap fun _ : String => Entry

/-- `NamedTemporaryFile`, whose file is a new one. -/
structure TempFiles where
  name : Files → String
  fresh : ∀ files, name files ∉ files

inductive PayloadType where
  | image
  deriving DecidableEq

inductive PayloadFsType where
  | ext4 | f2fs | erofs
  deriving DecidableEq

def PayloadFsType.text : PayloadFsType → String
  | .ext4 => "ext4"
  | .f2fs => "f2fs"
  | .erofs => "erofs"

/-- The options that `ValidateArgs` and `GenerateBuildInfo` look at; none is an option that was
not given. -/
structure Args where
  inputDir : String
  output : String
  force : Bool
  manifest : String
  androidManifest : Option String
  loggingParent : Option String
  fileContexts : Option String
  cannedFsConfig : Option String
  key : Option String
  payloadType : PayloadType
  payloadFsType : PayloadFsType
  overrideApkPackageName : Option String
  noHashtree : Bool
  targetSdkVersion : Option String
  minSdkVersion : Option String
  includeCmdLineInBuildInfo : Bool
  buildInfo : Option String
  payloadOnly : Bool
  unsignedPayloadOnly : Bool
  unsignedPayload : Bool
  deriving DecidableEq

/-- The message `ApexBuildInfo`; a field that was not set is empty. -/
structure ApexBuildInfo where
  apexerCommandLine : String
  fileContexts : List UInt8
  cannedFsConfig : List UInt8
  androidManifest : List UInt8
  minSdkVersion : String
  targetSdkVersion : String
  noHashtree : Bool
  overrideApkPackageName : String
  loggingParent : String
  payloadFsType : String
  deriving DecidableEq

/-- How a validation fails: it prints a text and returns False, or it raises an exception. -/
inductive Failure where
  | printed (text : String)
  | raised
  deriving DecidableEq

/-- Whether a text option counts as given in a condition. -/
def given (option : Option String) : Bool :=
  option.getD "" ≠ ""

/-! ## Validation -/

/-- `ParseFromString` -/
abbrev Parser := List UInt8 → Option ApexBuildInfo

variable (temp : TempFiles) (parse : Parser)

/-- `open` and `read` of a file -/
def readFile (files : Files) (path : String) : Option (List UInt8) :=
  match files.lookup path with
  | some (.file bytes) => some bytes
  | _ => none

def readBuildInfo (files : Files) : Option String → Except Failure (Option ApexBuildInfo)
  | none => .ok none
  | some path =>
    if path ∉ files then .error (.printed ("Build info file '" ++ path ++ "' does not exist"))
    else
      match (readFile files path).bind parse with
      | some info => .ok (some info)
      | none => .error .raised

/-- The checks of a manifest, of which `kind` is the name in the texts. -/
def checkFile (kind : String) (files : Files) (path : String) : Except Failure Unit :=
  match files.lookup path with
  | none => .error (.printed (kind ++ " file '" ++ path ++ "' does not exist"))
  | some .dir => .error (.printed (kind ++ " file '" ++ path ++ "' is not a file"))
  | some (.file _) => .ok ()

def writeTemp (bytes : List UInt8) (files : Files) : String × Files :=
  (temp.name files, files.insert (temp.name files) (.file bytes))

def androidManifestOption (info : Option ApexBuildInfo) (args : Args) (files : Files) :
    Except Failure (Args × Files) :=
  match args.androidManifest, info with
  | some path, _ => match checkFile "Android Manifest" files path with
    | .error e => .error e
    | .ok () => .ok (args, files)
  | none, some info =>
    let (name, files) := writeTemp temp info.androidManifest files
    .ok ({ args with androidManifest := some name }, files)
  | none, none => .ok (args, files)

def checkPlaces (args : Args) (files : Files) : Except Failure Unit :=
  match files.lookup args.inputDir with
  | none => .error (.printed ("Input directory '" ++ args.inputDir ++ "' does not exist"))
  | some (.file _) => .error (.printed ("Input directory '" ++ args.inputDir ++
      "' is not a directory"))
  | some .dir =>
    if !args.force ∧ args.output ∈ files then
      .error (.printed (args.output ++ " already exists. Use --force to overwrite."))
    else .ok ()

def impliedOptions (args : Args) : Args :=
  if args.unsignedPayloadOnly then { args with payloadOnly := true, unsignedPayload := true }
  else args

/-- An option that names a file, by default a new one with the recorded contents. -/
def fileOption (option : Option String) (recorded : Option (List UInt8)) (missing : String)
    (files : Files) : Except Failure (Option String × Files) :=
  if given option then .ok (option, files)
  else
    match recorded with
    | some bytes =>
      let (name, files) := writeTemp temp bytes files
      .ok (some name, files)
    | none => .error (.printed missing)

def fileContextsOption (info : Option ApexBuildInfo) (args : Args) (files : Files) :
    Except Failure (Args × Files) :=
  match fileOption temp args.fileContexts (info.map (·.fileContexts))
      "Missing --file_contexts \x7bcontexts\x7d argument, or a --build_info argument!" files with
  | .error e => .error e
  | .ok (option, files) => .ok ({ args with fileContexts := option }, files)

def cannedFsConfigOption (info : Option ApexBuildInfo) (args : Args) (files : Files) :
    Except Failure (Args × Files) :=
  match fileOption temp args.cannedFsConfig (info.map (·.cannedFsConfig))
      "Missing ----canned_fs_config \x7bconfig\x7d argument, or a --build_info argument!" files with
  | .error e => .error e
  | .ok (option, files) => .ok ({ args with cannedFsConfig := option }, files)

/-- An option with a text, by default the recorded one. -/
def textOption (option : Option String) (info : Option ApexBuildInfo)
    (recorded : ApexBuildInfo → String) : Option String :=
  if given option then option
  else
    match info with
    | some info => if recorded info ≠ "" then some (recorded info) else option
    | none => option

/-- The options that are restored last. -/
def restoreValues (info : Option ApexBuildInfo) (args : Args) : Args :=
  { args with
    targetSdkVersion := textOption args.targetSdkVersion info (·.targetSdkVersion)
    noHashtree := args.noHashtree || (info.map (·.noHashtree)).getD false
    minSdkVersion := textOption args.minSdkVersion info (·.minSdkVersion)
    overrideApkPackageName :=
      textOption args.overrideApkPackageName info (·.overrideApkPackageName)
    loggingParent := textOption args.loggingParent info (·.loggingParent) }

/-- `ValidateArgs`: the options and files it leaves behind where it returns True. -/
def validateArgs (args : Args) (files : Files) : Except Failure (Args × Files) := do
  let info ← readBuildInfo parse files args.buildInfo
  checkFile "Manifest" files args.manifest
  let (args, files) ← androidManifestOption temp info args files
  checkPlaces args files
  let args := impliedOptions args
  if !given args.key ∧ !args.unsignedPayload then
    throw (.printed "Missing --key \x7bkeyfile\x7d argument!")
  else
    let (args, files) ← fileContextsOption temp info args files
    let (args, files) ← cannedFsConfigOption temp info args files
    pure (restoreValues info args, files)

/-! ## Recording -/

/-- What is read from an option that names a file; `open` raises an exception if there is none. -/
def contents (option : Option String) (files : Files) : Option (List UInt8) :=
  option.bind (readFile files)

/-- `GenerateBuildInfo` -/
def generateBuildInfo (argv : String) (args : Args) (files : Files) : Option ApexBuildInfo := do
  let fileContexts ← contents args.fileContexts files
  let cannedFsConfig ← contents args.cannedFsConfig files
  let androidManifest ← contents args.androidManifest files
  pure {
    apexerCommandLine := if args.includeCmdLineInBuildInfo then argv else ""
    fileContexts := fileContexts
    cannedFsConfig := cannedFsConfig
    androidManifest := androidManifest
    minSdkVersion := args.minSdkVersion.getD ""
    targetSdkVersion := args.targetSdkVersion.getD ""
    noHashtree := args.noHashtree
    overrideApkPackageName := args.overrideApkPackageName.getD ""
    loggingParent := args.loggingParent.getD ""
    payloadFsType := match args.payloadType with
      | .image => args.payloadFsType.text }

end Apexer

end Apexd

import Apexd.Model.Apexer
import Mathlib.Order.Lattice.Nat

/-! # Rebuilding from recorded options

A build that leaves the recorded options to its build information gets them back, except the type
of the payload's file system, which is recorded but never restored.
-/

namespace Apexd

namespace Apexer

variable {temp : TempFiles} {parse : Parser} {args args' : Args} {files files' : Files}
  {info : ApexBuildInfo}

/-! ## Temporary files -/

theorem name_writeTemp (bytes : List UInt8) :
    readFile (writeTemp temp bytes files).2 (writeTemp temp bytes files).1 = some bytes := by
  simp [readFile, writeTemp]

/-- The files that there are keep their contents. -/
theorem lookup_writeTemp {path : String} (bytes : List UInt8) (there : path ∈ files) :
    (writeTemp temp bytes files).2.lookup path = files.lookup path :=
  Finmap.lookup_insert_of_ne _ fun same => temp.fresh files (same ▸ there)

theorem readFile_writeTemp {path : String} {bytes : List UInt8} (other : List UInt8)
    (read : readFile files path = some bytes) :
    readFile (writeTemp temp other files).2 path = some bytes := by
  have there : path ∈ files := by
    refine Finmap.lookup_isSome.mp (Option.isSome_iff_exists.mpr ?_)
    unfold readFile at read
    split at read
    · next found => exact ⟨_, found⟩
    · cases read
  rw [readFile, lookup_writeTemp other there]
  exact read

/-! ## The second build -/

/-- The inputs, the output, the key and the build information are given, and the recorded options
are left at their defaults. -/
structure Rebuilds (temp : TempFiles) (parse : Parser) (info : ApexBuildInfo) (args : Args)
    (files : Files) : Prop where
  manifest : ∃ bytes, files.lookup args.manifest = some (.file bytes)
  inputDir : files.lookup args.inputDir = some .dir
  /-- the output may be written, also after the temporary files were -/
  output : args.force = true ∨ (args.output ∉ files ∧ ∀ files, temp.name files ≠ args.output)
  key : given args.key = true ∨ args.unsignedPayload = true ∨ args.unsignedPayloadOnly = true
  buildInfo : ∃ path bytes, args.buildInfo = some path ∧ readFile files path = some bytes ∧
    parse bytes = some info
  fileContexts : args.fileContexts = none
  cannedFsConfig : args.cannedFsConfig = none
  androidManifest : args.androidManifest = none
  targetSdkVersion : args.targetSdkVersion = none
  minSdkVersion : args.minSdkVersion = none
  noHashtree : args.noHashtree = false
  overrideApkPackageName : args.overrideApkPackageName = none
  loggingParent : args.loggingParent = none
  payloadFsType : args.payloadFsType = .ext4

/-- The recorded options have the same values, and those that name files the same contents. -/
structure SameOptions (args : Args) (files : Files) (args' : Args) (files' : Files) : Prop where
  fileContexts : contents args'.fileContexts files' = contents args.fileContexts files
  cannedFsConfig : contents args'.cannedFsConfig files' = contents args.cannedFsConfig files
  androidManifest : contents args'.androidManifest files' = contents args.androidManifest files
  targetSdkVersion : args'.targetSdkVersion = args.targetSdkVersion
  minSdkVersion : args'.minSdkVersion = args.minSdkVersion
  noHashtree : args'.noHashtree = args.noHashtree
  overrideApkPackageName : args'.overrideApkPackageName = args.overrideApkPackageName
  loggingParent : args'.loggingParent = args.loggingParent
  payloadFsType : args'.payloadFsType = args.payloadFsType

/-- An option as it comes out of its record. -/
def recordedOption (text : String) : Option String :=
  if text ≠ "" then some text else none

theorem textOption_none (recorded : ApexBuildInfo → String) :
    textOption none (some info) recorded = recordedOption (recorded info) := rfl

theorem recordedOption_eq_iff {option : Option String} :
    recordedOption (option.getD "") = option ↔ option ≠ some "" := by
  unfold recordedOption
  cases option with
  | none => simp
  | some text =>
    by_cases empty : text = ""
    · simp [empty]
    · simp [empty]

theorem impliedOptions_eq (args : Args) : ∃ payloadOnly unsignedPayload : Bool,
    impliedOptions args = { args with
      payloadOnly := payloadOnly
      unsignedPayload := unsignedPayload } ∧
      (args.unsignedPayload = true ∨ args.unsignedPayloadOnly = true → unsignedPayload = true) := by
  unfold impliedOptions
  by_cases only : args.unsignedPayloadOnly = true
  · rw [if_pos only]
    exact ⟨true, true, rfl, fun _ => rfl⟩
  · rw [if_neg only]
    exact ⟨args.payloadOnly, args.unsignedPayload, rfl, fun either => either.resolve_right only⟩

/-- A file option that was not given takes the recorded contents. -/
theorem fileOption_none {option : Option String} {bytes : List UInt8} {missing : String}
    (default : option = none) :
    fileOption temp option (some bytes) missing files =
      .ok (some (writeTemp temp bytes files).1, (writeTemp temp bytes files).2) := by
  subst default
  rfl

theorem androidManifestOption_none (default : args.androidManifest = none) :
    androidManifestOption temp (some info) args files =
      .ok ({ args with androidManifest := some (writeTemp temp info.androidManifest files).1 },
        (writeTemp temp info.androidManifest files).2) := by
  unfold androidManifestOption
  rw [default]

theorem fileContextsOption_none (default : args.fileContexts = none) :
    fileContextsOption temp (some info) args files =
      .ok ({ args with fileContexts := some (writeTemp temp info.fileContexts files).1 },
        (writeTemp temp info.fileContexts files).2) := by
  unfold fileContextsOption
  rw [Option.map_some, fileOption_none default]

theorem cannedFsConfigOption_none (default : args.cannedFsConfig = none) :
    cannedFsConfigOption temp (some info) args files =
      .ok ({ args with cannedFsConfig := some (writeTemp temp info.cannedFsConfig files).1 },
        (writeTemp temp info.cannedFsConfig files).2) := by
  unfold cannedFsConfigOption
  rw [Option.map_some, fileOption_none default]

/-- The places that were there still are after a temporary file was written. -/
theorem checkPlaces_writeTemp (bytes : List UInt8) (inputDir : files.lookup args.inputDir = some .dir)
    (output : args.force = true ∨ (args.output ∉ files ∧
      ∀ files, temp.name files ≠ args.output)) :
    checkPlaces args (writeTemp temp bytes files).2 = .ok () := by
  have there : args.inputDir ∈ files :=
    Finmap.lookup_isSome.mp (Option.isSome_iff_exists.mpr ⟨_, inputDir⟩)
  have free : ¬ ((!args.force) = true ∧ args.output ∈ (writeTemp temp bytes files).2) := by
    rintro ⟨notForced, taken⟩
    rcases output with forced | ⟨absent, other⟩
    · simp [forced] at notForced
    · rcases Finmap.mem_insert.mp taken with same | old
      · exact other files same.symm
      · exact absent old
  simp only [checkPlaces, lookup_writeTemp bytes there, inputDir, free, if_false]

/-- The options and files that the second build goes on with. -/
theorem validateArgs_rebuilds (rebuilds : Rebuilds temp parse info args files) :
    ∃ args' files', validateArgs temp parse args files = .ok (args', files') ∧
      contents args'.fileContexts files' = some info.fileContexts ∧
      contents args'.cannedFsConfig files' = some info.cannedFsConfig ∧
      contents args'.androidManifest files' = some info.androidManifest ∧
      args'.targetSdkVersion = recordedOption info.targetSdkVersion ∧
      args'.minSdkVersion = recordedOption info.minSdkVersion ∧
      args'.noHashtree = info.noHashtree ∧
      args'.overrideApkPackageName = recordedOption info.overrideApkPackageName ∧
      args'.loggingParent = recordedOption info.loggingParent ∧
      args'.payloadFsType = .ext4 := by
  obtain ⟨manifestBytes, manifest⟩ := rebuilds.manifest
  obtain ⟨path, bytes, buildInfo, read, parsed⟩ := rebuilds.buildInfo
  have there : path ∈ files := by
    by_contra absent
    rw [readFile, Finmap.lookup_eq_none.mpr absent] at read
    cases read
  have infoRead : readBuildInfo parse files args.buildInfo = .ok (some info) := by
    rw [buildInfo, readBuildInfo, if_neg (not_not.mpr there), read]
    simp [parsed]
  have manifestChecked : checkFile "Manifest" files args.manifest = .ok () := by
    simp only [checkFile, manifest]
  -- the three temporary files, one after the other
  let first := writeTemp temp info.androidManifest files
  let second := writeTemp temp info.fileContexts first.2
  let third := writeTemp temp info.cannedFsConfig second.2
  have places : checkPlaces { args with androidManifest := some first.1 } first.2 = .ok () :=
    checkPlaces_writeTemp _ rebuilds.inputDir rebuilds.output
  obtain ⟨payloadOnly, unsignedPayload, implied, unsigned⟩ :=
    impliedOptions_eq { args with androidManifest := some first.1 }
  have keyed : ¬ ((!given args.key) = true ∧ (!unsignedPayload) = true) := by
    rintro ⟨noKey, signed⟩
    rcases rebuilds.key with key | other
    · simp [key] at noKey
    · simp [unsigned other] at signed
  have validated : validateArgs temp parse args files = .ok (restoreValues (some info) { args with
      androidManifest := some first.1
      payloadOnly := payloadOnly
      unsignedPayload := unsignedPayload
      fileContexts := some second.1
      cannedFsConfig := some third.1 }, third.2) := by
    simp only [validateArgs, infoRead, manifestChecked, bind, Except.bind,
      androidManifestOption_none rebuilds.androidManifest, first]
    simp only [first] at places implied
    simp only [places, implied, keyed, if_false,
      fileContextsOption_none (show Args.fileContexts { args with
        androidManifest := some _
        payloadOnly := payloadOnly
        unsignedPayload := unsignedPayload } = none from rebuilds.fileContexts),
      cannedFsConfigOption_none (show Args.cannedFsConfig { args with
        androidManifest := some _
        payloadOnly := payloadOnly
        unsignedPayload := unsignedPayload
        fileContexts := some _ } = none from rebuilds.cannedFsConfig)]
    rfl
  have androidManifest : readFile third.2 first.1 = some info.androidManifest :=
    readFile_writeTemp _ (readFile_writeTemp _ (name_writeTemp _))
  have fileContexts : readFile third.2 second.1 = some info.fileContexts :=
    readFile_writeTemp _ (name_writeTemp _)
  have cannedFsConfig : readFile third.2 third.1 = some info.cannedFsConfig := name_writeTemp _
  refine ⟨_, _, validated, fileContexts, cannedFsConfig, androidManifest, ?_⟩
  simp [restoreValues, rebuilds.targetSdkVersion, rebuilds.minSdkVersion,
    rebuilds.noHashtree, rebuilds.overrideApkPackageName, rebuilds.loggingParent,
    rebuilds.payloadFsType, textOption_none]

/-- What was read when the options were recorded. -/
theorem generateBuildInfo_eq_some {argv : String}
    (generated : generateBuildInfo argv args files = some info) :
    contents args.fileContexts files = some info.fileContexts ∧
      contents args.cannedFsConfig files = some info.cannedFsConfig ∧
      contents args.androidManifest files = some info.androidManifest ∧
      info.targetSdkVersion = args.targetSdkVersion.getD "" ∧
      info.minSdkVersion = args.minSdkVersion.getD "" ∧
      info.noHashtree = args.noHashtree ∧
      info.overrideApkPackageName = args.overrideApkPackageName.getD "" ∧
      info.loggingParent = args.loggingParent.getD "" := by
  unfold generateBuildInfo at generated
  cases fileContexts : contents args.fileContexts files with
  | none => simp [fileContexts] at generated
  | some fileContextsBytes =>
    cases cannedFsConfig : contents args.cannedFsConfig files with
    | none => simp [fileContexts, cannedFsConfig] at generated
    | some cannedFsConfigBytes =>
      cases androidManifest : contents args.androidManifest files with
      | none => simp [fileContexts, cannedFsConfig, androidManifest] at generated
      | some androidManifestBytes =>
        simp only [fileContexts, cannedFsConfig, androidManifest, bind, Option.bind, pure,
          Option.some.injEq] at generated
        subst generated
        exact ⟨rfl, rfl, rfl, rfl, rfl, rfl, rfl, rfl⟩

/-- The options of a build are those of the one that its build information is from if that had
the default type of file system and no text option that was given as an empty text. -/
theorem validateArgs_generateBuildInfo_iff {argv : String} {rebuild : Args} {filesThen : Files}
    (generated : generateBuildInfo argv args filesThen = some info)
    (rebuilds : Rebuilds temp parse info rebuild files) :
    (∃ args' files', validateArgs temp parse rebuild files = .ok (args', files') ∧
      SameOptions args filesThen args' files') ↔
      args.payloadFsType = .ext4 ∧ ∀ option ∈ [args.targetSdkVersion, args.minSdkVersion,
        args.overrideApkPackageName, args.loggingParent], option ≠ some "" := by
  obtain ⟨args', files', validated, fileContexts, cannedFsConfig, androidManifest,
    targetSdkVersion, minSdkVersion, noHashtree, overrideApkPackageName, loggingParent,
    payloadFsType⟩ := validateArgs_rebuilds rebuilds
  obtain ⟨fileContextsThen, cannedFsConfigThen, androidManifestThen, target, min, hashtree,
    override, parent⟩ := generateBuildInfo_eq_some generated
  rw [target] at targetSdkVersion
  rw [min] at minSdkVersion
  rw [override] at overrideApkPackageName
  rw [parent] at loggingParent
  simp only [List.forall_mem_cons, List.not_mem_nil, false_implies, implies_true, and_true,
    ← recordedOption_eq_iff]
  constructor
  · rintro ⟨args'', files'', validated', same⟩
    rw [validated] at validated'
    cases validated'
    exact ⟨same.payloadFsType.symm.trans payloadFsType, targetSdkVersion.symm.trans same.targetSdkVersion,
      minSdkVersion.symm.trans same.minSdkVersion,
      overrideApkPackageName.symm.trans same.overrideApkPackageName,
      loggingParent.symm.trans same.loggingParent⟩
  · rintro ⟨ext4, targetGiven, minGiven, overrideGiven, parentGiven⟩
    exact ⟨args', files', validated, {
      fileContexts := fileContexts.trans fileContextsThen.symm
      cannedFsConfig := cannedFsConfig.trans cannedFsConfigThen.symm
      androidManifest := androidManifest.trans androidManifestThen.symm
      targetSdkVersion := targetSdkVersion.trans targetGiven
      minSdkVersion := minSdkVersion.trans minGiven
      noHashtree := noHashtree.trans hashtree
      overrideApkPackageName := overrideApkPackageName.trans overrideGiven
      loggingParent := loggingParent.trans parentGiven
      payloadFsType := payloadFsType.trans ext4.symm }⟩

/-! ## A build and its rebuild -/

/-- Temporary files with a longer name than any file has. -/
def longNames : TempFiles where
  name files := .ofList (List.replicate (files.keys.sup String.length + 1) 'x')
  fresh := by
    intro files taken
    have bound := Finset.le_sup (f := String.length) (Finmap.mem_keys.mpr taken)
    rw [← String.length_toList, String.toList_ofList, List.length_replicate] at bound
    omega

/-- The files of the build, and the build information that it wrote. -/
def buildFiles (recorded : List UInt8) : Files :=
  [⟨"file_contexts", .file [1]⟩, ⟨"canned_fs_config", .file [2]⟩,
    ⟨"AndroidManifest.xml", .file [3]⟩, ⟨"apex_manifest.pb", .file [4]⟩, ⟨"input", .dir⟩,
    ⟨"apex_build_info.pb", .file recorded⟩].toFinmap

def buildArgs (payloadFsType : PayloadFsType) : Args where
  inputDir := "input"
  output := "test.apex"
  force := true
  manifest := "apex_manifest.pb"
  androidManifest := some "AndroidManifest.xml"
  loggingParent := none
  fileContexts := some "file_contexts"
  cannedFsConfig := some "canned_fs_config"
  key := some "key.pem"
  payloadType := .image
  payloadFsType := payloadFsType
  overrideApkPackageName := none
  noHashtree := true
  targetSdkVersion := some "30"
  minSdkVersion := none
  includeCmdLineInBuildInfo := false
  buildInfo := none
  payloadOnly := false
  unsignedPayloadOnly := false
  unsignedPayload := false

def buildInfo (payloadFsType : PayloadFsType) : ApexBuildInfo where
  apexerCommandLine := ""
  fileContexts := [1]
  cannedFsConfig := [2]
  androidManifest := [3]
  minSdkVersion := ""
  targetSdkVersion := "30"
  noHashtree := true
  overrideApkPackageName := ""
  loggingParent := ""
  payloadFsType := payloadFsType.text

/-- The message as it is serialized: a tag, a length and the value of each field that is set. -/
def serialized (payloadFsType : PayloadFsType) : List UInt8 :=
  let fsType : List UInt8 :=
    match payloadFsType with
    | .ext4 => [4, 0x65, 0x78, 0x74, 0x34]
    | .f2fs => [4, 0x66, 0x32, 0x66, 0x73]
    | .erofs => [5, 0x65, 0x72, 0x6F, 0x66, 0x73]
  [0x12, 1, 1, 0x1A, 1, 2, 0x22, 1, 3, 0x32, 2, 0x33, 0x30, 0x38, 1, 0x52] ++ fsType

def parseBuildInfo (payloadFsType : PayloadFsType) : Parser := fun bytes =>
  if bytes = serialized payloadFsType then some (buildInfo payloadFsType) else none

def rebuildArgs : Args :=
  { buildArgs .ext4 with
    androidManifest := none
    fileContexts := none
    cannedFsConfig := none
    noHashtree := false
    targetSdkVersion := none
    buildInfo := some "apex_build_info.pb" }

theorem generateBuildInfo_buildArgs (payloadFsType : PayloadFsType) :
    generateBuildInfo "" (buildArgs payloadFsType) (buildFiles (serialized payloadFsType)) =
      some (buildInfo payloadFsType) := by
  cases payloadFsType <;> decide +kernel

theorem rebuilds_rebuildArgs (payloadFsType : PayloadFsType) :
    Rebuilds longNames (parseBuildInfo payloadFsType) (buildInfo payloadFsType) rebuildArgs
      (buildFiles (serialized payloadFsType)) where
  manifest := ⟨[4], by cases payloadFsType <;> decide +kernel⟩
  inputDir := by cases payloadFsType <;> decide +kernel
  output := .inl rfl
  key := .inl (by decide)
  buildInfo := ⟨_, serialized payloadFsType, rfl, by cases payloadFsType <;> decide +kernel,
    if_pos rfl⟩
  fileContexts := rfl
  cannedFsConfig := rfl
  androidManifest := rfl
  targetSdkVersion := rfl
  minSdkVersion := rfl
  noHashtree := rfl
  overrideApkPackageName := rfl
  loggingParent := rfl
  payloadFsType := rfl

theorem sameOptions_ext4 : ∃ args' files',
    validateArgs longNames (parseBuildInfo .ext4) rebuildArgs (buildFiles (serialized .ext4)) =
        .ok (args', files') ∧
      SameOptions (buildArgs .ext4) (buildFiles (serialized .ext4)) args' files' :=
  (validateArgs_generateBuildInfo_iff (generateBuildInfo_buildArgs .ext4)
    (rebuilds_rebuildArgs .ext4)).mpr ⟨rfl, by decide⟩

theorem not_sameOptions_erofs :
    generateBuildInfo "" (buildArgs .erofs) (buildFiles (serialized .erofs)) =
        some (buildInfo .erofs) ∧
      Rebuilds longNames (parseBuildInfo .erofs) (buildInfo .erofs) rebuildArgs
        (buildFiles (serialized .erofs)) ∧
      ¬ ∃ args' files', validateArgs longNames (parseBuildInfo .erofs) rebuildArgs
          (buildFiles (serialized .erofs)) = .ok (args', files') ∧
        SameOptions (buildArgs .erofs) (buildFiles (serialized .erofs)) args' files' := by
  refine ⟨generateBuildInfo_buildArgs .erofs, rebuilds_rebuildArgs .erofs, ?_⟩
  rintro ⟨args', files', validated, same⟩
  obtain ⟨_, _, validated', _, _, _, _, _, _, _, _, ext4⟩ :=
    validateArgs_rebuilds (rebuilds_rebuildArgs .erofs)
  rw [validated'] at validated
  cases validated
  have erofs := same.payloadFsType
  rw [ext4] at erofs
  cases erofs

end Apexer

end Apexd

import Apexd.Model.Paths
import Apexd.Text.Decimal

/-! # APEX files

An APEX is an archive with a manifest, a bundled public key and either a mountable image or,
when it is compressed, another APEX.  `openContent` makes the checks of `ApexFile::Open`.
-/

namespace Apexd

open Storage

/-- The fields of `apex_manifest.pb` that apexd decides on. -/
structure ApexManifest where
  name : String
  version : Int64
  provideSharedApexLibs : Bool
  supportsRebootlessUpdate : Bool
  provideNativeLibs : List String
  requireSharedApexLibs : List String
  jniLibs : List String
  vndkVersion : String
  deriving DecidableEq

/-- A zip file with the entries of an APEX; `image` stands for the bytes of its payload. -/
structure Archive where
  manifest : ApexManifest
  isCompressed : Bool
  bundledPublicKey : String
  image : Nat
  deriving DecidableEq

/-- An archive with the given name and version, and nothing special about it. -/
def Archive.plain (name : String) (version : Int64) (image : Nat) : Archive where
  manifest := {
    name := name
    version := version
    provideSharedApexLibs := false
    supportsRebootlessUpdate := true
    provideNativeLibs := []
    requireSharedApexLibs := []
    jniLibs := []
    vndkVersion := "" }
  isCompressed := false
  bundledPublicKey := "key"
  image := image

/-- What a file contains: an APEX archive, or bytes that are none. -/
inductive Content where
  | apex (archive : Archive)
  | data (bytes : String)
  deriving DecidableEq

/-- The class `ApexFile`: an archive and the path it was opened at. -/
structure ApexFile where
  path : FilePath
  archive : Archive
  deriving DecidableEq

def ApexFile.manifest (apex : ApexFile) : ApexManifest :=
  apex.archive.manifest

def ApexFile.isCompressed (apex : ApexFile) : Bool :=
  apex.archive.isCompressed

/-- `ParseManifest`, after the bytes were read as a manifest. -/
def parseManifest (manifest : ApexManifest) : Except String ApexManifest :=
  if manifest.name = "" then
    .error "Missing required field \"name\" from APEX manifest."
  else if manifest.version = 0 then
    .error "Missing required field \"version\" from APEX manifest."
  else
    .ok manifest

/-- `ApexFile::Open` on a file that could be read. -/
def ApexFile.openContent (path : FilePath) : Content → Except String ApexFile
  | .data _ => .error ("Failed to open package " ++ pathText path ++ ": Invalid file")
  | .apex archive => do
    let manifest ← parseManifest archive.manifest
    if archive.isCompressed && manifest.provideSharedApexLibs then
      .error "Apex providing sharedlibs shouldn't be compressed"
    else
      .ok ⟨path, archive⟩

/-- `GetPackageId` -/
def getPackageId (manifest : ApexManifest) : String :=
  manifest.name ++ "@" ++ toString manifest.version

def kApexPackageSuffix : String := ".apex"

/-! ## What an opened file is -/

/-- The conditions on an archive under which it can be opened. -/
def Archive.IsValid (archive : Archive) : Prop :=
  archive.manifest.name ≠ "" ∧ archive.manifest.version ≠ 0 ∧
    ¬ (archive.isCompressed = true ∧ archive.manifest.provideSharedApexLibs = true)

instance (archive : Archive) : Decidable archive.IsValid :=
  inferInstanceAs (Decidable (_ ∧ _))

theorem openContent_eq_ok_iff {path : FilePath} {content : Content} {apex : ApexFile} :
    ApexFile.openContent path content = .ok apex ↔
      content = .apex apex.archive ∧ apex.path = path ∧ apex.archive.IsValid := by
  obtain ⟨apexPath, archive⟩ := apex
  cases content with
  | data bytes => simp [ApexFile.openContent]
  | apex found =>
    simp only [ApexFile.openContent, parseManifest, Archive.IsValid, bind, Except.bind]
    by_cases named : found.manifest.name = ""
    · rw [if_pos named]
      grind
    · rw [if_neg named]
      by_cases versioned : found.manifest.version = 0
      · rw [if_pos versioned]
        grind
      · rw [if_neg versioned]
        grind

/-! ## Package ids -/

theorem toString_version (version : Int64) : toString version = toString version.toInt := rfl

theorem at_not_mem_version (version : Int64) : '@' ∉ (toString version).toList := by
  intro member
  rcases Text.eq_minus_or_isDigit_of_mem member with minus | digit
  · exact absurd minus (by decide)
  · exact absurd digit (by decide)

/-- The package id determines the name and the version. -/
theorem getPackageId_inj {first second : ApexManifest}
    (same : getPackageId first = getPackageId second) :
    first.name = second.name ∧ first.version = second.version := by
  obtain ⟨name, version⟩ := Text.append_separator_inj (c := '@') same
    (at_not_mem_version _) (at_not_mem_version _)
  exact ⟨name, Int64.toInt_inj.mp (Text.toString_int_inj version)⟩

end Apexd

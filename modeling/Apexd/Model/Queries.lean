import Apexd.Model.Lifecycle

/-! # Queries

What the binder service and the boot sequence ask about packages: the files of a staged session,
the active packages, the factory packages and the lists that are made of them.
-/

namespace Apexd

open Process Storage

/-! ## Staged sessions -/

/-- Mount every APEX on a temporary mount point and derive the class path of them all; what was
mounted is unmounted in any case. -/
def mountAndDeriveClassPath {α : Type} (env : Environment)
    (deriveClassPath : List String → Except String α) (apexFiles : List ApexFile) :
    Procedure α := do
  let guard : Procedure Unit := apexFiles.forM unmountTempMount
  let mountAll : Procedure α := do
    let tempMountedApexPaths ← .collect (fun apex => do
      let tempMountPoint := getPackageTempMountPoint apex.manifest
      mountPackage env apex tempMountPoint (getPackageId apex.manifest ++ ".tmp") false true
      pure tempMountPoint) apexFiles
    .ofExcept (deriveClassPath tempMountedApexPaths)
  let classPath ← mountAll.onError guard
  guard.ignore
  pure classPath

/-! ## Active and factory packages -/

/-- The APEX files that can be opened. -/
def openAll : List FilePath → Procedure (List ApexFile)
  | [] => pure []
  | path :: rest => do
    let opened ← (ApexFile.open path).attempt
    let apexFiles ← openAll rest
    match opened with
    | .ok apexFile => pure (apexFile :: apexFiles)
    | .error _ => pure apexFiles

def getActivePackages : Procedure (List ApexFile) := do
  let mounts ← databaseCall (.forallMountedApexes false)
  openAll ((mounts.filter fun (_, _, latest) => latest).map fun (_, data, _) => data.fullPath)

/-- The decompressed APEXes that are active and the pre-installed ones, without the compressed
APEXes that have been decompressed already. -/
def getFactoryPackages (env : Environment) : Procedure (List ApexFile) := do
  let activePkgs ← getActivePackages
  let decompressed := activePkgs.filter env.repository.isDecompressedApex
  let decompressedPkgNames := decompressed.map fun apex => apex.manifest.name
  let preInstalled ← openAll (env.repository.preInstalledStore.toList.map ApexFile.path)
  pure (decompressed ++ preInstalled.filter fun apexFile =>
    !(apexFile.isCompressed && apexFile.manifest.name ∈ decompressedPkgNames))

/-- The files that are at none of the paths of `active`. -/
def withoutPathsOf (active apexFiles : List ApexFile) : List ApexFile :=
  apexFiles.filter fun apex =>
    !active.any fun activeApex => pathText apex.path = pathText activeApex.path

def calculateInactivePackages (env : Environment) (active : List ApexFile) :
    Procedure (List ApexFile) := do
  let inactive ← getFactoryPackages env
  pure (withoutPathsOf active inactive)

/-- The active and inactive packages that `EmitApexInfoList` writes. -/
def emitApexInfoList (env : Environment) (isBootstrap : Bool) :
    Procedure (List ApexFile × List ApexFile) := do
  let active ← getActivePackages
  -- non-activated built-in APEXes are skipped in bootstrap mode
  let inactive ← if isBootstrap then pure [] else calculateInactivePackages env active
  pure (active, inactive)

/-- The active and inactive packages that `OnOtaChrootBootstrap` writes. -/
def otaChrootApexInfoList (env : Environment) : Procedure (List ApexFile × List ApexFile) := do
  let activeApexes ← getActivePackages
  let inactiveApexes ← getFactoryPackages env
  pure (activeApexes, withoutPathsOf activeApexes inactiveApexes)

/-- `ApexService::getAllPackages`: every package with whether it is active. -/
def getAllPackages (env : Environment) : Procedure (List (ApexFile × Bool)) := do
  let active ← getActivePackages
  let factory ← getFactoryPackages env
  pure (active.map (·, true) ++ (withoutPathsOf active factory).map (·, false))

end Apexd

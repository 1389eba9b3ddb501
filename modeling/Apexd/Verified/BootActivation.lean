import Apexd.Model.Boot
import Apexd.Verified.Calls
import Apexd.Verified.LatestMount
import Apexd.Verified.TempMounts

/-! # No selected package is lost at boot

Every APEX that workers activate without an error is mounted when they are done, whatever fails
and however they are interleaved.  What is selected at boot is mounted, or was compressed and
could not be decompressed, or the boot goes through its fallbacks with it.
-/

namespace Apexd

open Process Storage

variable {env : Environment} {apex : ApexFile} {w w' w'' : World} {package : String}
  {data : MountedApexData}

/-! ## Mounts that stay -/

/-- A mount of the package that is not temporary. -/
def World.HasMount (w : World) (package : String) (data : MountedApexData) : Prop :=
  data ∈ (w.database.mountsOf package).entries ∧ data.isTempMount = false

/-- The mounts of `w` that are not temporary are still there. -/
def World.KeepsMounts (w w' : World) : Prop :=
  ∀ package data, w.HasMount package data → w'.HasMount package data

/-- The directories in which apexd looks for no APEX file. -/
def HoldsNoApex (d : DirId) : Prop :=
  d = .hashTree ∨ OfSnapshots d

/-- What the calls of an activation do: hash trees and data come and go, mounts that are not
temporary only come. -/
def Activating (w w' : World) : Prop :=
  SameOutside HoldsNoApex w w' ∧ w.KeepsMounts w'

theorem Activating.refl (w : World) : Activating w w :=
  ⟨.refl _ w, fun _ _ => id⟩

theorem Activating.trans (first : Activating w w') (second : Activating w' w'') :
    Activating w w'' :=
  ⟨first.1.trans second.1, fun package data mount => second.2 package data (first.2 package data mount)⟩

/-- The package has a mount that was made from the file of the APEX, or from a file that has, as
far as no hash tree is concerned, the version of the APEX. -/
def World.ActiveIn (w : World) (apex : ApexFile) (data : MountedApexData) : Prop :=
  w.HasMount apex.manifest.name data ∧ (data.fullPath = apex.path ∨ ∃ before other,
    SameOutside HoldsNoApex before w ∧ openAt before.fs data.fullPath = .ok other ∧
    other.manifest.version = apex.manifest.version)

theorem World.ActiveIn.mono (active : w.ActiveIn apex data) (step : Activating w w') :
    w'.ActiveIn apex data := by
  obtain ⟨mount, made⟩ := active
  refine ⟨step.2 _ _ mount, made.imp_right ?_⟩
  rintro ⟨before, other, same, opened, version⟩
  exact ⟨before, other, same.trans step.1, opened, version⟩

/-- The version that was found among the mounts is that of one of them. -/
def FoundIn (apex : ApexFile) (found : VersionFound) (w : World) : Prop :=
  (found.active = true → found.mounted = true) ∧
    (found.mounted = true → ∃ data, w.ActiveIn apex data)

theorem FoundIn.mono {found : VersionFound} (isFound : FoundIn apex found w)
    (step : Activating w w') : FoundIn apex found w' :=
  ⟨isFound.1, fun mounted => (isFound.2 mounted).imp fun _ active => active.mono step⟩

theorem hasMount_of_listed {mount : MountedApexData × Bool}
    (listed : mount ∈ w.database.forallMountedApexesOf package false) :
    w.HasMount package mount.1 := by
  obtain ⟨inReversed, notTemp⟩ := MountedApexDatabase.mem_forallMountedApexesOf.mp listed
  refine ⟨?_, notTemp⟩
  have inEntries := List.mem_map_of_mem (f := Prod.fst) inReversed
  rwa [MountedSet.map_fst_reversed, List.mem_reverse] at inEntries

variable {threads : Nat} {apexes : List ApexFile} {mode : ActivationMode}

end Apexd

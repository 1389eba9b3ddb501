import Apexd.Verified.BootActivation
import Apexd.Verified.BootSelection
import Apexd.Verified.Snapshots

/-! # What becomes of a selected package

A selected package is mounted when the boot is done, or it was compressed and could not be
decompressed, or the boot went through its fallbacks with it.
-/

namespace Apexd

open Process Storage

variable {env : BootEnvironment} {w w' : World} {file apex capex : ApexFile}

/-! ## Decompression -/

/-- In a run of `ProcessCompressedApex` over a list, from `w` to `w'`, this APEX was tried and could
not be processed: the result has what came of the APEXes before and after it only. -/
inductive FailedToProcess (env : BootEnvironment) (capex : ApexFile) (w w' : World) :
    List ApexFile → List ApexFile → Prop
  | intro {before after done others : List ApexFile} {e : String} {w₁ w₂ : World}
      (earlier : Runs failing (processCompressedApexes env false before) w (.ok done) w₁)
      (failed : Runs failing (processCompressedApex env false capex) w₁ (.error e) w₂)
      (later : Runs failing (processCompressedApexes env false after) w₂ (.ok others) w') :
      FailedToProcess env capex w w' (before ++ capex :: after) (done ++ others)

theorem processCompressedApexes_cons {rest others : List ApexFile} {w₁ : World}
    {result : Except String ApexFile}
    (process : Runs failing (processCompressedApex env false capex) w result w₁)
    (run : Runs failing (processCompressedApexes env false rest) w₁ (.ok others) w') :
    Runs failing (processCompressedApexes env false (capex :: rest)) w
      (.ok (result.toOption.toList ++ others)) w' := by
  refine runs_bind.mpr ⟨.ok result, w₁, runs_attempt.mpr ⟨result, process, rfl⟩, ?_⟩
  refine runs_bind.mpr ⟨.ok others, w', run, ?_⟩
  cases result with
  | ok apex => exact runs_done.mpr ⟨rfl, rfl⟩
  | error e => exact runs_done.mpr ⟨rfl, rfl⟩

theorem FailedToProcess.cons {other : ApexFile} {capexes apexes : List ApexFile} {w₁ : World}
    {result : Except String ApexFile}
    (process : Runs failing (processCompressedApex env false other) w result w₁)
    (failed : FailedToProcess env capex w₁ w' capexes apexes) :
    FailedToProcess env capex w w' (other :: capexes) (result.toOption.toList ++ apexes) := by
  cases failed with
  | intro earlier failed later =>
    rw [← List.append_assoc, ← List.cons_append]
    exact .intro (processCompressedApexes_cons process earlier) failed later

end Apexd

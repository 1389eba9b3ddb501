import Apexd.Model.Verification
import Apexd.Model.Verity
import Apexd.Process.Loop
import Apexd.Storage.InputStream
import Apexd.Text.Split

/-! # Hashes of the shim

`CalculateSha512` and `ValidateUpdate` of `apex_shim.cpp`: an update of the CTS shim has to have
one of the hashes that the pre-installed shim lists.
-/

namespace Apexd

open Process Storage

namespace Shim

def kBufSize : Nat := 1024
def kHashFilePath : String := "etc/hash.txt"

variable (sha512 : List UInt8 → List UInt8)

/-- The stream and the bytes that the hash context was updated with. -/
structure Hashing where
  apex : InputStream
  ctx : List UInt8

/-- One test and pass of the loop of `CalculateSha512`. -/
def Hashing.pass (path : String) (state : Hashing) : Pass Hashing (Except String String) :=
  if !state.apex.eofbit then
    let (buf, apex) := state.apex.read kBufSize
    if apex.badbit then .leave (.error ("Failed to read " ++ path))
    else .again { apex := apex, ctx := state.ctx ++ buf }
  else .leave (.ok (bytesToHex (sha512 state.ctx)))

/-- `CalculateSha512` comes to an end with this result. -/
def CalculateSha512 (path : String) (file : FileState) (result : Except String String) : Prop :=
  let apex := InputStream.create file
  if apex.badbit then result = .error ("Failed to open " ++ path)
  else Loop.Returns (Hashing.pass sha512 path) { apex := apex, ctx := [] } result

/-- The files that `ValidateUpdate` reads, as streams and with `ReadFileToString`. -/
structure ShimFiles where
  stream : String → FileState
  readFileToString : String → Except String String

def GetAllowedHashes (files : ShimFiles) (path : String)
    (result : Except String (List String)) : Prop :=
  let filePath := path ++ "/" ++ kHashFilePath
  match files.readFileToString filePath with
  | .error e => result = .error ("Failed to read " ++ filePath ++ ": " ++ e)
  | .ok hash =>
    let systemShim := pathText ⟨kApexPackageSystemDir, kSystemShimApexName⟩
    ∃ systemShimHash, CalculateSha512 sha512 systemShim (files.stream systemShim) systemShimHash ∧
      match systemShimHash with
      | .error e => result = .error e
      | .ok digest => result = .ok (Text.split '\n' hash ++ [digest])

def ValidateUpdate (files : ShimFiles) (systemApexPath newApexPath : String)
    (result : Except String Unit) : Prop :=
  ∃ allowed, GetAllowedHashes sha512 files systemApexPath allowed ∧
    match allowed with
    | .error e => result = .error e
    | .ok hashes =>
      ∃ actual, CalculateSha512 sha512 newApexPath (files.stream newApexPath) actual ∧
        match actual with
        | .error e => result = .error e
        | .ok digest =>
          if digest ∈ hashes then result = .ok ()
          else result = .error (newApexPath ++ " has unexpected SHA512 hash " ++ digest)

end Shim

end Apexd

import Apexd.Process.Execution
import Apexd.Text.Hex

/-! # Hash trees

`PrepareHashTree` of `apexd_verity.cpp`: the dm-verity hash tree of an image is kept in a file of
its own, which is generated unless the digest of its first block is that of the descriptor.
-/

namespace Apexd

open Process

/-! ## Digests as texts -/

/-- `HexToBin(char)`, in `uint8_t`. -/
def hexDigitToBin (h : Char) : UInt8 :=
  let value : UInt8 := .ofNat h.toNat
  if 'A' ≤ h ∧ h ≤ 'H' then value - 65 + 10
  else if 'a' ≤ h ∧ h ≤ 'h' then value - 97 + 10
  else value - 48

/-- `HexToBin`; a last odd digit is dropped. -/
def hexToBin : List Char → List UInt8
  | high :: low :: rest => ((hexDigitToBin high <<< 4) + hexDigitToBin low) :: hexToBin rest
  | _ => []

/-- `BytesToHex`, and `HashTreeBuilder::BytesArrayToString`, which does the same. -/
def bytesToHex (bytes : List UInt8) : String :=
  .ofList (Text.hexDigits bytes)

/-- `resize` of a container: cut off, or filled up with zeros. -/
def resize {α : Type} (zero : α) (size : Nat) (values : List α) : List α :=
  values.take size ++ List.replicate (size - values.length) zero

/-! ## The builder -/

/-- The class `HashTreeBuilder` of the verity library; a failing method returns none. -/
structure HashTreeBuilder where
  HashFunction : Type
  State : Type
  hashFunction : String → Option HashFunction
  /-- the constructor and `Initialize` -/
  init : (blockSize : Nat) → HashFunction → (imageSize : Nat) → (salt : List UInt8) →
    Option State
  update : State → List UInt8 → Option State
  buildHashTree : State → Option State
  rootHash : State → List UInt8
  /-- what `WriteHashTreeToFd` writes -/
  hashTree : State → List UInt8
  calculateRootDigest : State → (rootVerity : List UInt8) → Option (List UInt8)

/-- What `ApexVerityData` holds of the hashtree descriptor. -/
structure ApexVerityData where
  hashBlockSize : Nat
  imageSize : Nat
  hashAlgorithm : String
  /-- hexadecimal -/
  salt : String
  /-- hexadecimal -/
  rootDigest : String

/-- What `PrepareHashTree` needs of an `ApexFile`. -/
structure ApexImage where
  path : String
  isCompressed : Bool
  imageOffset : Option Nat

/-- The files: that of the APEX, and the directory of hash trees with the file of this one. -/
structure VerityFiles where
  apex : List UInt8
  dirExists : Bool
  hashtree : Option (List UInt8)
  deriving DecidableEq

inductive VerityCall where
  | createDirIfNeeded
  | pathExists
  /-- open the hash tree and read its first bytes with `ReadFully` -/
  | readHashtree (size : Nat)
  /-- `ReadFully` of the image -/
  | readApex (position size : Nat)
  /-- open the hash tree with `O_CREAT` and `O_TRUNC` -/
  | truncateHashtree
  | writeHashtree (bytes : List UInt8)

namespace VerityCall

@[reducible] def Reply : VerityCall → Type
  | .pathExists => Bool
  | .readHashtree _ | .readApex _ _ => List UInt8
  | _ => Unit

end VerityCall

@[reducible] def verityFiles : Interface where
  Call := VerityCall
  Reply := VerityCall.Reply

/-- `ReadFully`, which reads all the bytes or fails. -/
def readFully (position size : Nat) (bytes : List UInt8) : Except String (List UInt8) :=
  if position + size ≤ bytes.length then .ok ((bytes.drop position).take size)
  else .error "unexpected end of file"

def VerityCall.effect : Effect verityFiles String VerityFiles
  | .createDirIfNeeded, files => (.ok (), { files with dirExists := true })
  | .pathExists, files => (.ok files.hashtree.isSome, files)
  | .readHashtree size, files => match files.hashtree with
    | none => (.error "No such file or directory", files)
    | some bytes => (readFully 0 size bytes, files)
  | .readApex position size, files => (readFully position size files.apex, files)
  | .truncateHashtree, files =>
    if files.dirExists then (.ok (), { files with hashtree := some [] })
    else (.error "No such file or directory", files)
  | .writeHashtree bytes, files => (.ok (), { files with hashtree := some bytes })

def verityCall (request : VerityCall) : Program verityFiles String request.Reply :=
  .call request .done

/-! ## The procedures -/

variable (builder : HashTreeBuilder)

/-- The loop of `GenerateHashTree` over the blocks of the image. -/
def updateBlocks (blockSize : Nat) : (blockCount position : Nat) → builder.State →
    Program verityFiles String builder.State
  | 0, _, state => pure state
  | blockCount + 1, position, state => do
    let buf ← (verityCall (.readApex position blockSize)).mapError fun _ => "Failed to read"
    match builder.update state buf with
    | none => .throw "Failed to build hashtree: Update"
    | some state' => updateBlocks blockSize blockCount (position + blockSize) state'

/-- The hash function and the initialized builder, which both procedures start with. -/
def newBuilder (verityData : ApexVerityData) : Except String builder.State :=
  match builder.hashFunction verityData.hashAlgorithm with
  | none => .error ("Unsupported hash algorithm " ++ verityData.hashAlgorithm)
  | some hashFn =>
    match builder.init verityData.hashBlockSize hashFn verityData.imageSize
        (hexToBin verityData.salt.toList) with
    | none => .error ("Invalid image size " ++ toString verityData.imageSize)
    | some state => .ok state

def generateHashTree (apex : ApexImage) (verityData : ApexVerityData) (hashtreeFile : String) :
    Program verityFiles String Unit := do
  let blockSize := verityData.hashBlockSize
  let state ← .ofExcept (newBuilder builder verityData)
  match apex.imageOffset with
  | none => .throw "Cannot generate HashTree without image offset"
  | some offset =>
    let updated ← updateBlocks builder blockSize (verityData.imageSize / blockSize) offset state
    match builder.buildHashTree updated with
    | none => .throw "Failed to build hashtree: incomplete data"
    | some built =>
      let goldenDigest := hexToBin verityData.rootDigest.toList
      -- the root hash is padded with zeros
      if resize 0 goldenDigest.length (builder.rootHash built) ≠ goldenDigest then
        .throw "Failed to build hashtree: root digest mismatch"
      else
        Program.mapError (fun _ => "Failed to write hashtree to " ++ hashtreeFile) do
          verityCall .truncateHashtree
          verityCall (.writeHashtree (builder.hashTree built))

def calculateRootDigest (verityData : ApexVerityData) (hashtreeFile : String) :
    Program verityFiles String (List Char) := do
  let blockSize := verityData.hashBlockSize
  let rootVerity ← (verityCall (.readHashtree blockSize)).mapError fun _ =>
    "Failed to read " ++ toString blockSize ++ " bytes from " ++ hashtreeFile
  let state ← .ofExcept (newBuilder builder verityData)
  match builder.calculateRootDigest state rootVerity with
  | none => .throw ("Failed to calculate digest of " ++ hashtreeFile)
  | some rootDigest =>
    pure (resize '\x00' verityData.rootDigest.length (bytesToHex rootDigest).toList)

inductive PrepareHashTreeResult where
  | kReuse
  | KRegenerate
  deriving DecidableEq

def prepareHashTree (apex : ApexImage) (verityData : ApexVerityData) (hashtreeFile : String) :
    Program verityFiles String PrepareHashTreeResult := do
  if apex.isCompressed then .throw "Cannot prepare HashTree of compressed APEX"
  else
    verityCall .createDirIfNeeded
    let shouldRegenerateHashtree ←
      if ← verityCall .pathExists then do
        let digest ← calculateRootDigest builder verityData hashtreeFile
        pure (decide (digest ≠ verityData.rootDigest.toList))
      else pure true
    if shouldRegenerateHashtree then
      generateHashTree builder apex verityData hashtreeFile
      pure .KRegenerate
    else pure .kReuse

end Apexd

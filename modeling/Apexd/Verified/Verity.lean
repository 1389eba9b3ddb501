import Apexd.Model.Verity

/-! # Reuse of hash trees

Whether a hash tree is reused depends on its first block only, which is the root of the tree.
-/

namespace Apexd

open Process

variable {builder : HashTreeBuilder} {apex : ApexImage} {verityData : ApexVerityData}
  {files files' : VerityFiles} {hashtreeFile : String}

/-- The semantics of the calls on the hash tree. -/
abbrev verityDisk : Semantics verityFiles String VerityFiles :=
  deterministic VerityCall.effect

theorem wp_verityCall {request : VerityCall} {reply : Except String request.Reply}
    (effect : VerityCall.effect request files = (reply, files'))
    {Q : Except String request.Reply → VerityFiles → Prop} (post : Q reply files') :
    wp verityDisk Anything (verityCall request) Q files := by
  refine wp_call_deterministic trivial ?_
  rw [effect]
  exact post

/-! ## Digests as texts -/

theorem hexToBin_hexDigits (bytes : List UInt8) : hexToBin (Text.hexDigits bytes) = bytes := by
  have one := Text.forall_byte (P := fun byte =>
    hexToBin (Text.hexByte byte) = [byte]) (by decide +kernel)
  induction bytes with
  | nil => rfl
  | cons byte rest ih =>
    have head := one byte
    simp only [Text.hexByte, hexToBin] at head
    simp only [Text.hexDigits, List.flatMap_cons, Text.hexByte, List.cons_append, List.nil_append,
      hexToBin] at ih ⊢
    rw [ih, List.cons.injEq]
    exact ⟨List.singleton_inj.mp head, rfl⟩

theorem hexDigits_injective {first second : List UInt8}
    (same : Text.hexDigits first = Text.hexDigits second) : first = second := by
  rw [← hexToBin_hexDigits first, same, hexToBin_hexDigits]

theorem resize_of_isPrefix {α : Type} {zero : α} {front values : List α} (isPrefix : front <+: values) :
    resize zero front.length values = front := by
  obtain ⟨rest, rfl⟩ := isPrefix
  have enough : front.length - (front ++ rest).length = 0 := by
    rw [List.length_append]
    omega
  rw [resize, List.take_left, enough, List.replicate_zero, List.append_nil]

/-- The texts agree exactly where the golden digest is a prefix of the padded one. -/
theorem resize_hexDigits {golden digest : List UInt8} :
    resize '\x00' (Text.hexDigits golden).length (Text.hexDigits digest) = Text.hexDigits golden ↔
      golden <+: digest := by
  constructor
  · intro same
    have enough : golden.length ≤ digest.length := by
      by_contra short
      -- a digest that is too short is filled up with zeros, which are no digits
      have filled : '\x00' ∈ resize '\x00' (Text.hexDigits golden).length (Text.hexDigits digest) := by
        refine List.mem_append_right _ (List.mem_replicate.mpr ⟨?_, rfl⟩)
        rw [Text.length_hexDigits, Text.length_hexDigits]
        omega
      rw [same] at filled
      exact Text.nul_notMem_hexDigits golden filled
    have front : golden = digest.take golden.length := by
      apply hexDigits_injective
      have split : Text.hexDigits digest = Text.hexDigits (digest.take golden.length) ++
          Text.hexDigits (digest.drop golden.length) := by
        rw [← Text.hexDigits_append, List.take_append_drop]
      have lengths : (Text.hexDigits golden).length =
          (Text.hexDigits (digest.take golden.length)).length := by
        rw [Text.length_hexDigits, Text.length_hexDigits, List.length_take]
        omega
      rw [← same, lengths, split]
      exact resize_of_isPrefix (List.prefix_append _ _)
    exact front ▸ List.take_prefix _ _
  · rintro ⟨rest, rfl⟩
    rw [Text.hexDigits_append]
    exact resize_of_isPrefix (List.prefix_append _ _)

/-! ## The tree of an image -/

/-- The blocks of the image, in the order in which they are read. -/
def imageBlocks (blockSize : Nat) (bytes : List UInt8) : (blockCount position : Nat) →
    List (List UInt8)
  | 0, _ => []
  | blockCount + 1, position => (bytes.drop position).take blockSize ::
    imageBlocks blockSize bytes blockCount (position + blockSize)

/-- The tree that the builder computes of the image of an APEX with the given bytes. -/
structure TreeOf (builder : HashTreeBuilder) (apex : ApexImage) (verityData : ApexVerityData)
    (bytes golden tree : List UInt8) where
  offset : Nat
  state : builder.State
  updated : builder.State
  built : builder.State
  notCompressed : apex.isCompressed = false
  hasOffset : apex.imageOffset = some offset
  inside : offset + verityData.imageSize ≤ bytes.length
  starts : newBuilder builder verityData = .ok state
  updates : (imageBlocks verityData.hashBlockSize bytes
    (verityData.imageSize / verityData.hashBlockSize) offset).foldlM builder.update state =
      some updated
  builds : builder.buildHashTree updated = some built
  writes : builder.hashTree built = tree
  /-- the root of the tree is that of the descriptor -/
  described : verityData.rootDigest = bytesToHex golden
  agrees : golden <+: builder.rootHash built

variable {bytes golden tree : List UInt8}

/-- What the builder promises: the tree starts with its root block, the root hash is the digest of
that block, and there is a digest of every block. -/
structure TreeOf.RootFirst (treeOf : TreeOf builder apex verityData bytes golden tree) : Prop where
  rootBlock : verityData.hashBlockSize ≤ tree.length
  rootDigest : builder.calculateRootDigest treeOf.state (tree.take verityData.hashBlockSize) =
    some (builder.rootHash treeOf.built)
  hasDigest : ∀ block, block.length = verityData.hashBlockSize →
    ∃ digest, builder.calculateRootDigest treeOf.state block = some digest

/-- The first block of a stored tree has the digest of the descriptor. -/
def TreeOf.RootMatches (treeOf : TreeOf builder apex verityData bytes golden tree)
    (stored : List UInt8) : Prop :=
  ∃ digest, builder.calculateRootDigest treeOf.state (stored.take verityData.hashBlockSize) =
    some digest ∧ golden <+: digest

theorem TreeOf.RootFirst.matches_self {treeOf : TreeOf builder apex verityData bytes golden tree}
    (rootFirst : treeOf.RootFirst) : treeOf.RootMatches tree :=
  ⟨_, rootFirst.rootDigest, treeOf.agrees⟩

/-! ## Generating -/

theorem wp_updateBlocks {blockSize blockCount position : Nat} {state updated : builder.State}
    (inside : position + blockCount * blockSize ≤ files.apex.length)
    (updates : (imageBlocks blockSize files.apex blockCount position).foldlM builder.update state =
      some updated) {Q : Except String builder.State → VerityFiles → Prop}
    (post : Q (.ok updated) files) :
    wp verityDisk Anything (updateBlocks builder blockSize blockCount position state) Q files := by
  induction blockCount generalizing position state with
  | zero =>
    cases updates
    exact post
  | succ blockCount ih =>
    rw [Nat.succ_mul] at inside
    rw [updateBlocks, wp_bind, wp_mapError]
    have read : VerityCall.effect (.readApex position blockSize) files =
        (.ok ((files.apex.drop position).take blockSize), files) := by
      rw [VerityCall.effect, readFully, if_pos (by omega)]
    refine wp_verityCall read ?_
    dsimp only [Except.mapError]
    rw [imageBlocks, List.foldlM_cons] at updates
    cases one : builder.update state ((files.apex.drop position).take blockSize) with
    | none =>
      rw [one] at updates
      cases updates
    | some state' =>
      rw [one] at updates
      exact ih (by omega) updates

theorem TreeOf.wp_generateHashTree (treeOf : TreeOf builder apex verityData files.apex golden tree)
    (exists_dir : files.dirExists = true) {Q : Except String Unit → VerityFiles → Prop}
    (post : Q (.ok ()) { files with hashtree := some tree }) :
    wp verityDisk Anything (generateHashTree builder apex verityData hashtreeFile) Q files := by
  have goldenDigest : hexToBin verityData.rootDigest.toList = golden := by
    rw [treeOf.described, bytesToHex, String.toList_ofList, hexToBin_hexDigits]
  rw [generateHashTree]
  simp only [treeOf.starts, Program.ofExcept, Program.done_ok_bind, treeOf.hasOffset]
  rw [wp_bind]
  refine wp_updateBlocks ?_ treeOf.updates ?_
  · have whole := Nat.div_mul_le_self verityData.imageSize verityData.hashBlockSize
    have inside := treeOf.inside
    omega
  · simp only [treeOf.builds, goldenDigest]
    rw [if_neg (not_not.mpr (resize_of_isPrefix treeOf.agrees)), wp_mapError, wp_bind]
    have opened : VerityCall.effect .truncateHashtree files =
        (.ok (), { files with hashtree := some [] }) := by
      simp only [VerityCall.effect, exists_dir, if_true]
    refine wp_verityCall opened (wp_verityCall rfl ?_)
    rw [treeOf.writes]
    exact post

theorem TreeOf.wp_calculateRootDigest
    (treeOf : TreeOf builder apex verityData bytes golden tree) {stored digest : List UInt8}
    (found : files.hashtree = some stored) (long : verityData.hashBlockSize ≤ stored.length)
    (digests : builder.calculateRootDigest treeOf.state
      (stored.take verityData.hashBlockSize) = some digest)
    {Q : Except String (List Char) → VerityFiles → Prop}
    (post : Q (.ok (resize '\x00' verityData.rootDigest.length (Text.hexDigits digest))) files) :
    wp verityDisk Anything (calculateRootDigest builder verityData hashtreeFile) Q files := by
  rw [calculateRootDigest, wp_bind, wp_mapError]
  have read : VerityCall.effect (.readHashtree verityData.hashBlockSize) files =
      (.ok (stored.take verityData.hashBlockSize), files) := by
    simp only [VerityCall.effect, found, readFully, Nat.zero_add, if_pos long, List.drop_zero]
  refine wp_verityCall read ?_
  simp only [treeOf.starts, Program.ofExcept, Program.done_ok_bind]
  dsimp only [Except.mapError]
  rw [digests]
  simp only [bytesToHex, String.toList_ofList]
  exact post

/-! ## Preparing -/

/-- A stored tree whose root matches is left alone. -/
theorem TreeOf.wp_prepareHashTree_reuse
    (treeOf : TreeOf builder apex verityData bytes golden tree) {stored : List UInt8}
    (found : files.hashtree = some stored) (long : verityData.hashBlockSize ≤ stored.length)
    (isMatch : treeOf.RootMatches stored)
    {Q : Except String PrepareHashTreeResult → VerityFiles → Prop}
    (post : Q (.ok .kReuse) { files with dirExists := true }) :
    wp verityDisk Anything (prepareHashTree builder apex verityData hashtreeFile) Q files := by
  obtain ⟨digest, digests, agrees⟩ := isMatch
  rw [prepareHashTree, if_neg (by simp [treeOf.notCompressed]), wp_bind]
  refine wp_verityCall rfl ?_
  dsimp only
  rw [wp_bind]
  have there : VerityCall.effect .pathExists { files with dirExists := true } =
      (.ok true, { files with dirExists := true }) := by
    rw [VerityCall.effect, found, Option.isSome_some]
  refine wp_verityCall there ?_
  dsimp only
  rw [if_pos rfl, wp_bind]
  have found' : { files with dirExists := true }.hashtree = some stored := found
  refine treeOf.wp_calculateRootDigest found' long digests ?_
  have same : resize '\x00' verityData.rootDigest.length (Text.hexDigits digest) =
      verityData.rootDigest.toList := by
    rw [treeOf.described, bytesToHex, String.length_ofList, String.toList_ofList]
    exact resize_hexDigits.mpr agrees
  simp only [same, ne_eq, not_true_eq_false, decide_false]
  exact post

/-- Otherwise the tree is generated. -/
theorem TreeOf.wp_prepareHashTree_regenerate
    (treeOf : TreeOf builder apex verityData files.apex golden tree) (rootFirst : treeOf.RootFirst)
    (long : ∀ stored, files.hashtree = some stored → verityData.hashBlockSize ≤ stored.length)
    (noMatch : ∀ stored, files.hashtree = some stored → ¬ treeOf.RootMatches stored)
    {Q : Except String PrepareHashTreeResult → VerityFiles → Prop}
    (post : Q (.ok .KRegenerate) { files with dirExists := true, hashtree := some tree }) :
    wp verityDisk Anything (prepareHashTree builder apex verityData hashtreeFile) Q files := by
  rw [prepareHashTree, if_neg (by simp [treeOf.notCompressed]), wp_bind]
  refine wp_verityCall rfl ?_
  dsimp only
  have generates : wp verityDisk Anything
      (generateHashTree builder apex verityData hashtreeFile >>= fun _ => pure .KRegenerate) Q
      { files with dirExists := true } := by
    rw [wp_bind]
    have there : { files with dirExists := true }.dirExists = true := rfl
    have treeOf' : TreeOf builder apex verityData { files with dirExists := true }.apex golden tree :=
      treeOf
    exact treeOf'.wp_generateHashTree there post
  rw [wp_bind]
  cases found : files.hashtree.isSome with
  | false =>
    have absent : VerityCall.effect .pathExists { files with dirExists := true } =
        (.ok false, { files with dirExists := true }) := by
      rw [VerityCall.effect, found]
    exact wp_verityCall absent generates
  | true =>
    obtain ⟨stored, found'⟩ := Option.isSome_iff_exists.mp found
    have there : VerityCall.effect .pathExists { files with dirExists := true } =
        (.ok true, { files with dirExists := true }) := by
      rw [VerityCall.effect, found]
    refine wp_verityCall there ?_
    dsimp only
    rw [if_pos rfl, wp_bind]
    obtain ⟨digest, digests⟩ := rootFirst.hasDigest (stored.take verityData.hashBlockSize) (by
      rw [List.length_take]
      have := long stored found'
      omega)
    have found'' : { files with dirExists := true }.hashtree = some stored := found'
    refine treeOf.wp_calculateRootDigest found'' (long stored found') digests ?_
    have differs : resize '\x00' verityData.rootDigest.length (Text.hexDigits digest) ≠
        verityData.rootDigest.toList := by
      rw [treeOf.described, bytesToHex, String.length_ofList, String.toList_ofList]
      intro same
      exact noMatch stored found' ⟨digest, digests, resize_hexDigits.mp same⟩
    simp only [decide_true, ne_eq, differs, not_false_eq_true]
    exact generates

/-! ## The tree afterwards -/

/-- The tree is reused where its first block has the digest of the descriptor and generated
otherwise; once it is prepared, it is reused. -/
theorem prepareHashTree_reuses_or_generates
    (treeOf : TreeOf builder apex verityData files.apex golden tree) (rootFirst : treeOf.RootFirst)
    (long : ∀ stored, files.hashtree = some stored → verityData.hashBlockSize ≤ stored.length) :
    (∃ result files', Runs verityDisk (prepareHashTree builder apex verityData hashtreeFile) files
      result files') ∧
    ∀ result files', Runs verityDisk (prepareHashTree builder apex verityData hashtreeFile) files
        result files' →
      ((∃ stored, files.hashtree = some stored ∧ treeOf.RootMatches stored) →
        result = .ok .kReuse ∧ files'.hashtree = files.hashtree) ∧
      ((¬ ∃ stored, files.hashtree = some stored ∧ treeOf.RootMatches stored) →
        result = .ok .KRegenerate ∧ files'.hashtree = some tree) ∧
      ∀ again files'', Runs verityDisk (prepareHashTree builder apex verityData hashtreeFile) files'
          again files'' → again = .ok .kReuse ∧ files'' = files' := by
  refine ⟨exists_runs_deterministic _ _, fun result files' run => ?_⟩
  -- the second call finds the directory, and a tree whose root matches
  have reused {files : VerityFiles} {stored : List UInt8} (there : files.dirExists = true)
      (found : files.hashtree = some stored) (long : verityData.hashBlockSize ≤ stored.length)
      (isMatch : treeOf.RootMatches stored) {again : Except String PrepareHashTreeResult}
      {files'' : VerityFiles}
      (run : Runs verityDisk (prepareHashTree builder apex verityData hashtreeFile) files again
        files'') : again = .ok .kReuse ∧ files'' = files := by
    suffices wp verityDisk Anything (prepareHashTree builder apex verityData hashtreeFile)
        (fun again files'' => again = .ok .kReuse ∧ files'' = files) files from wp_runs this run
    refine treeOf.wp_prepareHashTree_reuse found long isMatch ⟨rfl, ?_⟩
    rw [← there]
  by_cases reusable : ∃ stored, files.hashtree = some stored ∧ treeOf.RootMatches stored
  · obtain ⟨stored, found, isMatch⟩ := reusable
    suffices prepared : wp verityDisk Anything
        (prepareHashTree builder apex verityData hashtreeFile)
        (fun result files' => result = .ok .kReuse ∧ files' = { files with dirExists := true })
        files by
      obtain ⟨rfl, rfl⟩ := wp_runs prepared run
      refine ⟨fun _ => ⟨rfl, rfl⟩, fun none => absurd ⟨stored, found, isMatch⟩ none, ?_⟩
      have found' : { files with dirExists := true }.hashtree = some stored := found
      exact fun again files'' => reused rfl found' (long stored found) isMatch
    exact treeOf.wp_prepareHashTree_reuse found (long stored found) isMatch ⟨rfl, rfl⟩
  · suffices prepared : wp verityDisk Anything
        (prepareHashTree builder apex verityData hashtreeFile)
        (fun result files' => result = .ok .KRegenerate ∧
          files' = { files with dirExists := true, hashtree := some tree }) files by
      obtain ⟨rfl, rfl⟩ := wp_runs prepared run
      refine ⟨fun some => absurd some reusable, fun _ => ⟨rfl, rfl⟩, ?_⟩
      exact fun again files'' => reused rfl rfl rootFirst.rootBlock rootFirst.matches_self
    refine treeOf.wp_prepareHashTree_regenerate rootFirst long ?_ ⟨rfl, rfl⟩
    exact fun stored found isMatch => reusable ⟨stored, found, isMatch⟩

/-! ## A tree of two levels -/

/-- The levels of a tree, the root first, each the digests of the blocks of the one below. -/
def treeLevels (digest : List UInt8 → List UInt8) (blockSize : Nat) : Nat → List UInt8 → List UInt8
  | 0, level => level
  | levels + 1, level =>
    if level.length ≤ blockSize then level
    else treeLevels digest blockSize levels (nextLevel level) ++ level
where
  nextLevel (level : List UInt8) : List UInt8 :=
    let digests := (imageBlocks blockSize level (level.length / blockSize) 0).flatMap digest
    resize 0 ((digests.length + blockSize - 1) / blockSize * blockSize) digests

structure BuilderState where
  blockSize : Nat
  imageSize : Nat
  salt : List UInt8
  data : List UInt8
  deriving DecidableEq

def BuilderState.update (state : BuilderState) (block : List UInt8) : Option BuilderState :=
  some { state with data := state.data ++ block }

theorem foldlM_update (blocks : List (List UInt8)) (state : BuilderState) :
    blocks.foldlM BuilderState.update state =
      some { state with data := state.data ++ blocks.flatten } := by
  induction blocks generalizing state with
  | nil => simp
  | cons block rest ih =>
    rw [List.foldlM_cons, BuilderState.update]
    refine (ih { state with data := state.data ++ block }).trans ?_
    rw [List.flatten_cons, List.append_assoc]

/-- The builder over one hash function. -/
def builderOf (algorithm : String) (hash : List UInt8 → List UInt8) : HashTreeBuilder where
  HashFunction := Unit
  State := BuilderState
  hashFunction name := if name = algorithm then some () else none
  init blockSize _ imageSize salt :=
    if imageSize % blockSize = 0 then some ⟨blockSize, imageSize, salt, []⟩ else none
  update := BuilderState.update
  buildHashTree state := if state.data.length = state.imageSize then some state else none
  rootHash state := hash (state.salt ++ (tree state).take state.blockSize)
  hashTree := tree
  calculateRootDigest state block :=
    if block.length = state.blockSize then some (hash (state.salt ++ block)) else none
where
  tree (state : BuilderState) : List UInt8 :=
    let digest block := hash (state.salt ++ block)
    treeLevels digest state.blockSize state.data.length
      (treeLevels.nextLevel digest state.blockSize state.data)

theorem builds_of_complete {algorithm : String} {hash : List UInt8 → List UInt8}
    {state : BuilderState} (complete : state.data.length = state.imageSize) :
    (builderOf algorithm hash).buildHashTree state = some state :=
  if_pos complete

theorem writes_tree {algorithm : String} {hash : List UInt8 → List UInt8} {state : BuilderState} :
    (builderOf algorithm hash).hashTree state = builderOf.tree hash state := rfl

theorem agrees_of_digest {algorithm : String} {hash : List UInt8 → List UInt8}
    {state : BuilderState} {golden : List UInt8}
    (digest : hash (state.salt ++ (builderOf.tree hash state).take state.blockSize) = golden) :
    golden <+: (builderOf algorithm hash).rootHash state :=
  digest ▸ List.prefix_refl _

def zeroBlock : List UInt8 := List.replicate 128 0

def zeroDigest : List UInt8 :=
  [0x38, 0x72, 0x3a, 0x2e, 0x5e, 0x8a, 0x17, 0xaa, 0x79, 0x50, 0xdc, 0x00, 0x82, 0x09, 0x94, 0x4e,
   0x89, 0x8f, 0x69, 0xa7, 0xbd, 0x10, 0xa2, 0x3c, 0x83, 0x9d, 0x34, 0x1e, 0x93, 0x5f, 0xd5, 0xca]

def zeroRootDigest : List UInt8 :=
  [0x2d, 0xf2, 0x27, 0x82, 0x23, 0x16, 0x6d, 0xe7, 0x83, 0xcd, 0x74, 0x28, 0xa9, 0x34, 0xb7, 0xef,
   0x20, 0x02, 0x47, 0xad, 0x23, 0x20, 0x96, 0xb2, 0x74, 0xba, 0xaf, 0x78, 0x17, 0x26, 0x3e, 0x29]

/-- The first and the second block of digests of five blocks of zeros. -/
def zeroLevel : List UInt8 × List UInt8 :=
  ((List.replicate 4 zeroDigest).flatten, resize 0 128 zeroDigest)

/-- The digests of these two blocks. -/
def zeroLevelDigests : List UInt8 × List UInt8 :=
  ([0xfe, 0xc1, 0x2b, 0x09, 0x33, 0x31, 0x28, 0x34, 0x79, 0x1f, 0x07, 0x64, 0x1a, 0xed, 0x30, 0x53,
    0x11, 0x1f, 0x15, 0x3e, 0x1e, 0x3e, 0xd1, 0xf0, 0xcd, 0x16, 0xcb, 0x39, 0x25, 0xfd, 0x5f, 0x84],
   [0x32, 0x6d, 0x5b, 0xcd, 0x77, 0x36, 0x8a, 0x8b, 0xf0, 0xed, 0xe8, 0x1b, 0x31, 0x19, 0x0d, 0x7a,
    0x75, 0xac, 0x30, 0x94, 0xbc, 0xab, 0x88, 0x89, 0x2f, 0x0d, 0xce, 0x5a, 0x2c, 0xaf, 0x1e, 0x45])

/-- The root block of the tree, but for its first byte. -/
def damagedRoot : List UInt8 :=
  (resize 0 128 (zeroLevelDigests.1 ++ zeroLevelDigests.2)).set 0 0xff

def damagedRootDigest : List UInt8 :=
  [0xc7, 0xda, 0x13, 0xa6, 0x59, 0xab, 0x8e, 0x47, 0x36, 0xd3, 0xff, 0x93, 0xea, 0x69, 0x60, 0x68,
   0x3c, 0x38, 0xaa, 0x1b, 0xac, 0xdf, 0x37, 0xd8, 0xf4, 0x22, 0x46, 0x8b, 0x52, 0x08, 0x87, 0xaa]

/-- SHA-256, for the blocks of the tree of five blocks of zeros and for the damaged root block. -/
def sha256 (bytes : List UInt8) : List UInt8 :=
  if bytes = zeroBlock then zeroDigest
  else if bytes = zeroLevel.1 then zeroLevelDigests.1
  else if bytes = zeroLevel.2 then zeroLevelDigests.2
  else if bytes = damagedRoot then damagedRootDigest
  else zeroRootDigest

def zeroImage : ApexImage := ⟨"/data/apex/active/foo@1.apex", false, some 0⟩

def zeroTreeFile : String := "/data/apex/hashtree/foo@1"

def zeroVerityData : ApexVerityData where
  hashBlockSize := 128
  imageSize := 640
  hashAlgorithm := "sha256"
  salt := ""
  rootDigest := bytesToHex zeroRootDigest

def zeroState (data : List UInt8) : BuilderState := ⟨128, 640, [], data⟩

def zeroBytes : List UInt8 := List.replicate 640 0

def zeroTree : List UInt8 := builderOf.tree sha256 (zeroState zeroBytes)

def zeroTreeOf : TreeOf (builderOf "sha256" sha256) zeroImage zeroVerityData zeroBytes
    zeroRootDigest zeroTree where
  offset := 0
  state := zeroState []
  updated := zeroState zeroBytes
  built := zeroState zeroBytes
  notCompressed := rfl
  hasOffset := rfl
  inside := by decide +kernel
  starts := rfl
  updates := (foldlM_update _ _).trans (congrArg some (by decide +kernel))
  builds := builds_of_complete (by decide +kernel)
  writes := writes_tree.trans zeroTree.eq_1.symm
  described := rfl
  agrees := agrees_of_digest (by decide +kernel)

theorem zeroTreeOf_rootFirst : zeroTreeOf.RootFirst where
  rootBlock := by decide +kernel
  rootDigest := by decide +kernel
  hasDigest block length := ⟨_, if_pos length⟩

/-- The tree with a damaged root block. -/
def damagedRootTree : List UInt8 := zeroTree.set 0 0xff

theorem not_rootMatches_damagedRootTree : ¬ zeroTreeOf.RootMatches damagedRootTree := by
  rintro ⟨digest, digests, agrees⟩
  have computed : (builderOf "sha256" sha256).calculateRootDigest zeroTreeOf.state
      (damagedRootTree.take zeroVerityData.hashBlockSize) = some damagedRootDigest := by
    decide +kernel
  cases computed.symm.trans digests
  exact absurd agrees (by decide)

/-- Where the root block of the hash tree is damaged, the tree of the image is generated, and it is
reused by the second call. -/
theorem prepareHashTree_generates_zeroTree :
    ∃ result files', Runs verityDisk
        (prepareHashTree (builderOf "sha256" sha256) zeroImage zeroVerityData zeroTreeFile)
        ⟨zeroBytes, true, some damagedRootTree⟩ result files' ∧
      result = .ok .KRegenerate ∧ files'.hashtree = some zeroTree ∧
      ∀ again files'', Runs verityDisk
        (prepareHashTree (builderOf "sha256" sha256) zeroImage zeroVerityData zeroTreeFile)
        files' again files'' → again = .ok .kReuse ∧ files'' = files' := by
  have long (stored : List UInt8)
      (found : (VerityFiles.mk zeroBytes true (some damagedRootTree)).hashtree = some stored) :
      zeroVerityData.hashBlockSize ≤ stored.length := by
    rw [← show damagedRootTree = stored from Option.some.inj found]
    decide +kernel
  have prepared : (∃ result files', Runs verityDisk
      (prepareHashTree (builderOf "sha256" sha256) zeroImage zeroVerityData zeroTreeFile)
      (VerityFiles.mk zeroBytes true (some damagedRootTree)) result files') ∧ _ :=
    prepareHashTree_reuses_or_generates zeroTreeOf zeroTreeOf_rootFirst long
  obtain ⟨⟨result, files', run⟩, all⟩ := prepared
  obtain ⟨-, generates, reuses⟩ := all result files' run
  have noMatch : ¬ ∃ stored, some damagedRootTree = some stored ∧ zeroTreeOf.RootMatches stored := by
    rintro ⟨stored, found, isMatch⟩
    rw [← Option.some.inj found] at isMatch
    exact not_rootMatches_damagedRootTree isMatch
  exact ⟨result, files', run, (generates noMatch).1, (generates noMatch).2, reuses⟩

/-- The last byte of the tree is not in its first block. -/
def damagedTree : List UInt8 := zeroTree.set 383 1

theorem damaged_tree_reused : zeroTreeOf.RootFirst ∧ damagedTree ≠ zeroTree ∧
    ¬ ∀ result files', Runs verityDisk
        (prepareHashTree (builderOf "sha256" sha256) zeroImage zeroVerityData zeroTreeFile)
        ⟨zeroBytes, true, some damagedTree⟩ result files' →
      result = .ok .KRegenerate ∧ files'.hashtree = some zeroTree := by
  have differs : damagedTree ≠ zeroTree := by decide +kernel
  refine ⟨zeroTreeOf_rootFirst, differs, fun regenerates => ?_⟩
  obtain ⟨result, files', run⟩ : ∃ result files', Runs verityDisk
      (prepareHashTree (builderOf "sha256" sha256) zeroImage zeroVerityData zeroTreeFile)
      ⟨zeroBytes, true, some damagedTree⟩ result files' := exists_runs_deterministic _ _
  suffices reused : wp verityDisk Anything
      (prepareHashTree (builderOf "sha256" sha256) zeroImage zeroVerityData zeroTreeFile)
      (fun result _ => result = .ok .kReuse) ⟨zeroBytes, true, some damagedTree⟩ by
    cases (wp_runs reused run).symm.trans (regenerates result files' run).1
  have sameRoot : damagedTree.take 128 = zeroTree.take 128 := by decide +kernel
  refine zeroTreeOf.wp_prepareHashTree_reuse rfl (by decide +kernel) ?_ rfl
  refine ⟨_, ?_, zeroTreeOf.agrees⟩
  rw [show zeroVerityData.hashBlockSize = 128 from rfl, sameRoot]
  exact zeroTreeOf_rootFirst.rootDigest

end Apexd

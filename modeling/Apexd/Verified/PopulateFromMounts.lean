import Apexd.Model.PopulateFromMounts
import Apexd.Verified.ParallelActivation

/-! # A restart finds the mounts again

What `PopulateFromMounts` reads from /proc/mounts and /sys/block is what was recorded when the
APEXes were mounted, in whichever order the kernel lists the mounts and the slaves of a device; only
a file on dm-verity that is in none of the directories of apexd is not found.
-/

namespace Apexd

open Process Storage

variable {w : World} {package : String} {data : MountedApexData}

/-! ## Databases with the same mounts -/

namespace MountedApexDatabase

variable {database added : MountedApexDatabase} {mounts : List (String × MountedApexData)}

theorem mem_allMounts : (package, data) ∈ database.allMounts ↔
    data ∈ (database.mountsOf package).entries := by
  simp only [allMounts, List.mem_flatMap, List.mem_map, Prod.mk.injEq]
  constructor
  · rintro ⟨_, -, _, member, rfl, rfl⟩
    exact member
  · intro member
    refine ⟨package, ?_, data, member, rfl, rfl⟩
    rw [Directory.mem_names]
    by_contra absent
    rw [mountsOf, Finmap.lookup_eq_none.mpr absent] at member
    cases member

theorem nodup_allMounts (database : MountedApexDatabase) : database.allMounts.Nodup := by
  refine List.nodup_flatMap.mpr ⟨fun name _ => (MountedSet.nodup_entries _).map fun _ _ same => ?_, ?_⟩
  · exact (Prod.mk.inj same).2
  · refine (Directory.nodup_names database).imp fun {a b} ne => ?_
    rintro ⟨name, entry⟩ first second
    obtain ⟨_, -, same⟩ := List.mem_map.mp first
    obtain ⟨_, -, same'⟩ := List.mem_map.mp second
    exact ne ((Prod.mk.inj same).1.trans (Prod.mk.inj same').1.symm)

/-- A set is determined by its entries, which are in order. -/
theorem entries_eq_of_mem_iff {first second : List MountedApexData}
    (isFirst : first.Pairwise fun a b => a.key < b.key)
    (isSecond : second.Pairwise fun a b => a.key < b.key)
    (same : ∀ entry, entry ∈ first ↔ entry ∈ second) : first = second := by
  have nodup {entries : List MountedApexData} (sorted : entries.Pairwise fun a b => a.key < b.key) :
      entries.Nodup := MountedSet.nodup_entries ⟨entries, sorted⟩
  have perm := (List.perm_ext_iff_of_nodup (nodup isFirst) (nodup isSecond)).mpr same
  exact perm.eq_of_pairwise (fun a b _ _ below above => (lt_asymm below above).elim) isFirst isSecond

/-- No loop device and no device-mapper device is used for two mounts. -/
def UniqueLoopDm (mounts : List (String × MountedApexData)) : Prop :=
  ((mounts.map Prod.snd).flatMap fun mount =>
    [mount.loopName, mount.hashtreeLoopName].filter (· ≠ "")).Nodup ∧
  (((mounts.map Prod.snd).map MountedApexData.deviceName).filter (· ≠ "")).Nodup

theorem hasUniqueLoopDm_iff : database.hasUniqueLoopDm = true ↔ UniqueLoopDm database.allMounts := by
  simp only [hasUniqueLoopDm, UniqueLoopDm, Bool.and_eq_true, decide_eq_true_eq]

theorem UniqueLoopDm.of_subperm {other : List (String × MountedApexData)}
    (unique : UniqueLoopDm mounts) (fewer : other.Subperm mounts) : UniqueLoopDm other := by
  obtain ⟨some', perm, sublist⟩ := fewer
  have smaller := sublist.map Prod.snd
  have same := perm.map Prod.snd
  constructor
  · refine (List.Perm.nodup_iff (same.flatMap_right _)).mp (unique.1.sublist ?_)
    exact smaller.flatMap _
  · refine (List.Perm.nodup_iff ((same.map _).filter _)).mp (unique.2.sublist ?_)
    exact (smaller.map _).filter _

/-- The mount that is added is of a loop device that no other one uses. -/
theorem UniqueLoopDm.loopName_ne {mount : String × MountedApexData}
    (unique : UniqueLoopDm (mount :: mounts)) (some' : mount.2.loopName ≠ "")
    {other : String × MountedApexData} (member : other ∈ mounts) :
    other.2.loopName ≠ mount.2.loopName := by
  intro same
  have apart := unique.1
  rw [List.map_cons, List.flatMap_cons, List.nodup_append] at apart
  refine apart.2.2 mount.2.loopName ?_ mount.2.loopName ?_ rfl
  · simp [some']
  · refine List.mem_flatMap.mpr ⟨other.2, List.mem_map_of_mem member, ?_⟩
    simp [same, some']

/-- Every mount can be added, if their devices are distinct, and nothing else is there then. -/
theorem exists_addAll (unique : UniqueLoopDm (mounts ++ database.allMounts))
    (named : ∀ mount ∈ mounts, mount.2.loopName ≠ "") :
    ∃ all, mounts.foldlM (fun (database : MountedApexDatabase) mount =>
      database.addMountedApex mount.1 mount.2) database = some all ∧
      all.allMounts.Perm (mounts ++ database.allMounts) := by
  induction mounts generalizing database with
  | nil => exact ⟨database, rfl, .refl _⟩
  | cons mount rest ih =>
    obtain ⟨package, data⟩ := mount
    have here : UniqueLoopDm ((package, data) :: database.allMounts) :=
      unique.of_subperm (((List.sublist_append_right rest _).cons_cons _).subperm)
    have fresh : ∀ other ∈ (database.mountsOf package).entries, other.key ≠ data.key := by
      intro other member same
      refine here.loopName_ne (named _ List.mem_cons_self) (mem_allMounts.mpr member) ?_
      have rest : (ofLex other.key).2 = (ofLex data.key).2 := by rw [same]
      exact congrArg (fun part => (ofLex part).1) rest
    obtain ⟨set, emplaced⟩ : ∃ set, (database.mountsOf package).emplace data = some set :=
      ⟨_, dif_pos fresh⟩
    have entries (other : String) (entry : MountedApexData) :
        entry ∈ ((MountedApexDatabase.mountsOf (database.insert package set) other).entries) ↔
          (other = package ∧ entry = data) ∨ entry ∈ (database.mountsOf other).entries := by
      rw [mountsOf_insert]
      split_ifs with isPackage
      · rw [isPackage, MountedSet.entries_of_emplace emplaced, MountedSet.mem_insertSorted]
        simp
      · simp [isPackage]
    have perm : (MountedApexDatabase.allMounts (database.insert package set)).Perm
        ((package, data) :: database.allMounts) := by
      refine (List.perm_ext_iff_of_nodup (nodup_allMounts _) (List.nodup_cons.mpr ⟨?_, nodup_allMounts _⟩)).mpr ?_
      · exact fun member => fresh data (mem_allMounts.mp member) rfl
      · rintro ⟨other, entry⟩
        rw [mem_allMounts, entries, List.mem_cons, mem_allMounts, Prod.mk.injEq]
    have isUnique : hasUniqueLoopDm (database.insert package set) = true :=
      hasUniqueLoopDm_iff.mpr (here.of_subperm perm.subperm)
    have isAdded : database.addMountedApex package data = some (database.insert package set) := by
      simp [addMountedApex, emplaced, isUnique]
    have unique' := (perm.append_left rest).trans List.perm_middle
    obtain ⟨all, ran, all'⟩ := ih (unique.of_subperm unique'.subperm) fun mount member =>
      named mount (List.mem_cons_of_mem _ member)
    refine ⟨all, ?_, all'.trans unique'⟩
    rw [List.foldlM_cons, isAdded]
    exact ran

end MountedApexDatabase

/-! ## What the kernel shows -/

/-- A path that can be read back from the way it is spelled. -/
structure Spellable (path : FilePath) : Prop where
  reads : pathOfText (pathText path) = path
  trimmed : Text.Trimmed (pathText path)
  notDeleted : Text.endsWith (pathText path) "(deleted)" = false

/-- What the kernel says of a file that backs a loop device, which may have been deleted since. -/
def backingFile (path : FilePath) (deleted : Bool) : String :=
  if deleted then pathText path ++ " (deleted)" else pathText path

/-- A loop device in /sys/block that is backed by a file. -/
structure SysBlock.LoopOn (sys : SysBlock) (node : BlockDevice) (file : String) : Prop where
  isLoop : Text.startsWith node.name "loop" = true
  noSlash : '/' ∉ node.name.toList
  noSpace : ' ' ∉ node.name.toList
  isBlockFile : sys.isBlockFile node.name = true
  backingFile : sys.readFile node.name "loop/backing_file" = some (file ++ "\n")

/-- A device-mapper device in /sys/block. -/
structure SysBlock.Mapped (sys : SysBlock) (node : BlockDevice) (deviceName : String) : Prop where
  isMapped : Text.startsWith node.name "dm-" = true
  noSlash : '/' ∉ node.name.toList
  noSpace : ' ' ∉ node.name.toList
  dmName : sys.readFile node.name "dm/name" = some (deviceName ++ "\n")
  trimmed : Text.Trimmed deviceName
  named : deviceName ≠ ""

/-- How the mount of an image shows: which block device is mounted. -/
inductive SysBlock.Shows (sys : SysBlock) (dirs : ApexDirs) (data : MountedApexData) :
    BlockDevice → Prop
  /-- a loop device -/
  | loop {node : BlockDevice} (loopOn : sys.LoopOn node (backingFile data.fullPath data.deleted))
      (loopName : data.loopName = node.devPath)
      (deviceName : data.deviceName = "") (hashtree : data.hashtreeLoopName = "") :
      Shows sys dirs data node
  /-- dm-verity over a loop device -/
  | verity {node dataNode : BlockDevice} (mapped : sys.Mapped node data.deviceName)
      (loopOn : sys.LoopOn dataNode (backingFile data.fullPath data.deleted))
      (loopName : data.loopName = dataNode.devPath) (hashtree : data.hashtreeLoopName = "")
      (slaves : (sys.listSlaves node.name).Perm [dataNode.name]) : Shows sys dirs data node
  /-- dm-verity over a loop device, with the hash tree on another one -/
  | verityWithHashtree {node dataNode treeNode : BlockDevice} {tree : String}
      (mapped : sys.Mapped node data.deviceName)
      (loopOn : sys.LoopOn dataNode (backingFile data.fullPath data.deleted))
      (loopName : data.loopName = dataNode.devPath)
      (treeOn : sys.LoopOn treeNode tree) (trimmed : Text.Trimmed tree)
      (inside : Text.startsWith tree dirs.apexHashTreeDir = true)
      (hashtree : data.hashtreeLoopName = treeNode.devPath)
      (slaves : (sys.listSlaves node.name).Perm [dataNode.name, treeNode.name]) :
      Shows sys dirs data node

/-- The directory of hash trees is not inside or above those of APEX files. -/
structure ApexDirs.Apart (dirs : ApexDirs) : Prop where
  active : Text.startsWith dirs.apexHashTreeDir dirs.activeApexDir = false ∧
    Text.startsWith dirs.activeApexDir dirs.apexHashTreeDir = false
  decompression : Text.startsWith dirs.apexHashTreeDir dirs.decompressionDir = false ∧
    Text.startsWith dirs.decompressionDir dirs.apexHashTreeDir = false
  noSpace : ' ' ∉ dirs.activeApexDir.toList ∧ ' ' ∉ dirs.decompressionDir.toList
  named : dirs.apexHashTreeDir ≠ ""

/-- A mount that can be told to be that of an APEX file. -/
def ApexDirs.Restores (dirs : ApexDirs) (data : MountedApexData) : Bool :=
  data.deviceName = "" || dirs.isDataLoopDevice (pathText data.fullPath)

section Spelling

variable {path : FilePath} {deleted : Bool}

theorem pathText_ne_empty (path : FilePath) : pathText path ≠ "" := by
  intro empty
  have inside : '/' ∈ (pathText path).toList := by simp [pathText]
  rw [empty] at inside
  cases inside

theorem backingFile_ne_empty : backingFile path deleted ≠ "" := by
  cases deleted with
  | false => exact pathText_ne_empty path
  | true =>
    intro empty
    have inside : '/' ∈ (pathText path ++ " (deleted)").toList := by simp [pathText]
    rw [show pathText path ++ " (deleted)" = "" from empty] at inside
    cases inside

theorem startsWith_backingFile {dir : String} (noSpace : ' ' ∉ dir.toList) :
    Text.startsWith (backingFile path deleted) dir = Text.startsWith (pathText path) dir := by
  cases deleted with
  | false => rfl
  | true =>
    rw [backingFile, if_pos rfl, Bool.eq_iff_iff, Text.startsWith, Text.startsWith, List.isPrefixOf_iff_prefix,
      List.isPrefixOf_iff_prefix, String.toList_append]
    refine ⟨fun isPrefix => ?_, fun isPrefix => isPrefix.trans (List.prefix_append _ _)⟩
    rcases Nat.le_total dir.toList.length (pathText path).toList.length with shorter | longer
    · exact List.prefix_of_prefix_length_le isPrefix (List.prefix_append _ _) shorter
    · obtain ⟨more, split⟩ := List.prefix_of_prefix_length_le (List.prefix_append _ _) isPrefix longer
      rw [← split, List.prefix_append_right_inj] at isPrefix
      cases more with
      | nil => rw [← split, List.append_nil]
      | cons c rest =>
        obtain ⟨_, same⟩ := isPrefix
        have space : c = ' ' := (List.cons.inj same).1
        exact absurd (by rw [← split, space]; simp) noSpace

theorem trimmed_backingFile (spellable : Spellable path) : Text.Trimmed (backingFile path deleted) := by
  cases deleted with
  | false => exact spellable.trimmed
  | true =>
    rw [backingFile, if_pos rfl]
    have some' : (pathText path).toList ≠ [] := by simpa using pathText_ne_empty path
    refine ⟨fun c isHead => spellable.trimmed.1 c ?_, fun c isLast => ?_⟩
    · rwa [String.toList_append, List.head?_append_of_ne_nil _ some'] at isHead
    · rw [String.toList_append, List.getLast?_append] at isLast
      have last : c = ')' := by simpa using isLast.symm
      rw [last]
      rfl

theorem normalizeIfDeleted_backingFile (spellable : Spellable path) :
    normalizeIfDeleted (backingFile path deleted) = (pathText path, deleted) := by
  cases deleted with
  | false => simp [normalizeIfDeleted, backingFile, spellable.notDeleted]
  | true =>
    have split : pathText path ++ " (deleted)" = pathText path ++ " " ++ "(deleted)" := by
      rw [String.append_assoc]
      rfl
    rw [normalizeIfDeleted, backingFile, if_pos rfl, split, if_pos (Text.endsWith_append _ _),
      Text.consumeSuffix_append, Text.trimRight_append spellable.trimmed.2 (by simp [Text.isSpace])]

end Spelling

/-! ## Reading a mount back -/

namespace BlockDevice

theorem ofPath_devPath {node : BlockDevice} (noSlash : '/' ∉ node.name.toList) :
    ofPath node.devPath = node := by
  rw [ofPath, devPath, Text.filename_append noSlash]

theorem getProperty_eq {sys : SysBlock} {node : BlockDevice} {property value : String}
    (content : sys.readFile node.name property = some (value ++ "\n")) (trimmed : Text.Trimmed value)
    (some' : value ≠ "") : node.getProperty sys property = .ok value := by
  rw [getProperty, content]
  exact congrArg Except.ok (Text.trim_append trimmed (by simp [Text.isSpace]) some')

theorem getType_loop {sys : SysBlock} {node : BlockDevice} {file : String}
    (loopOn : sys.LoopOn node file) : node.getType = .loopDevice := by
  rw [getType, if_pos loopOn.isLoop]

theorem getType_mapped {sys : SysBlock} {node : BlockDevice} {name : String}
    (mapped : sys.Mapped node name) : node.getType = .deviceMapperDevice := by
  have notLoop : Text.startsWith node.name "loop" = false := by
    rw [Bool.eq_false_iff]
    intro isLoop
    obtain ⟨rest, same⟩ := Text.startsWith_iff.mp isLoop
    obtain ⟨rest', same'⟩ := Text.startsWith_iff.mp mapped.isMapped
    have first := congrArg (fun text => text.toList.head?) (same.symm.trans same')
    simp at first
  rw [getType, notLoop, if_neg Bool.false_ne_true, if_pos mapped.isMapped]

end BlockDevice

section Resolve

variable {sys : SysBlock} {dirs : ApexDirs} {node dataNode treeNode : BlockDevice}
  {file tree mountPoint : String}

theorem backingFiles_of_forall {pairs : List (BlockDevice × String)}
    (all : ∀ pair ∈ pairs, sys.LoopOn pair.1 pair.2 ∧ Text.Trimmed pair.2 ∧ pair.2 ≠ "") :
    backingFiles sys (pairs.map Prod.fst) = .ok pairs := by
  induction pairs with
  | nil => rfl
  | cons pair rest ih =>
    obtain ⟨loopOn, trimmed, some'⟩ := all pair List.mem_cons_self
    have rest' := ih fun other member => all other (List.mem_cons_of_mem _ member)
    rw [backingFiles] at rest' ⊢
    rw [List.map_cons, List.mapM_cons, rest', BlockDevice.getType_loop loopOn,
      BlockDevice.getProperty_eq loopOn.backingFile trimmed some']
    rfl

theorem eq_or_eq_of_perm_pair {α : Type} {xs : List α} {a b : α} (perm : xs.Perm [a, b]) :
    xs = [a, b] ∨ xs = [b, a] := by
  obtain ⟨x, y, rfl⟩ := List.length_eq_two.mp perm.length_eq
  rcases List.mem_pair.mp (perm.mem_iff.mp List.mem_cons_self) with rfl | rfl
  · rw [List.perm_singleton.mp perm.cons_inv]
    exact .inl rfl
  · rw [List.perm_singleton.mp (perm.trans (.swap _ _ _)).cons_inv]
    exact .inr rfl

theorem getSlaves_perm {names : List String} (slaves : (sys.listSlaves node.name).Perm names)
    (areBlocks : ∀ name ∈ names, sys.isBlockFile name = true) :
    (node.getSlaves sys).Perm (names.map .mk) := by
  rw [BlockDevice.getSlaves]
  refine (slaves.filter _).map _ |>.trans ?_
  rw [List.filter_eq_self.mpr areBlocks]

theorem isDataLoopDevice_backingFile (apart : dirs.Apart) {path : FilePath} {deleted : Bool} :
    dirs.isDataLoopDevice (backingFile path deleted) = dirs.isDataLoopDevice (pathText path) := by
  rw [ApexDirs.isDataLoopDevice, ApexDirs.isDataLoopDevice, startsWith_backingFile apart.noSpace.1,
    startsWith_backingFile apart.noSpace.2]

/-- A hash tree is not taken for an APEX file. -/
theorem ApexDirs.Apart.not_isDataLoopDevice (apart : dirs.Apart)
    (inside : Text.startsWith tree dirs.apexHashTreeDir = true) : dirs.isDataLoopDevice tree = false := by
  have differs {dir : String} (isApart : Text.startsWith dirs.apexHashTreeDir dir = false ∧
      Text.startsWith dir dirs.apexHashTreeDir = false) : Text.startsWith tree dir = false := by
    rw [Bool.eq_false_iff]
    intro isPrefix
    simp only [Text.startsWith, Bool.eq_false_iff, ne_eq, List.isPrefixOf_iff_prefix] at isApart inside isPrefix
    rcases List.prefix_or_prefix_of_prefix inside isPrefix with below | above
    · exact isApart.2 below
    · exact isApart.1 above
  rw [ApexDirs.isDataLoopDevice, differs apart.active, differs apart.decompression, Bool.or_false]

/-- What is found below a dm-verity device, if the file is in a directory of APEX files. -/
def ApexDirs.foundBelow (dirs : ApexDirs) (data : MountedApexData) (file : String) : Option LoopInfo :=
  if dirs.isDataLoopDevice file then some ⟨data.loopName, file, data.hashtreeLoopName⟩ else none

section Below

variable (loopOn : sys.LoopOn dataNode file) (trimmed : Text.Trimmed file) (named : file ≠ "")
  (loopName : data.loopName = dataNode.devPath)

include loopOn trimmed named loopName

theorem populateLoopInfo_of_single (hashtree : data.hashtreeLoopName = "")
    (slaves : (sys.listSlaves node.name).Perm [dataNode.name]) :
    (populateLoopInfo sys dirs node).toOption = dirs.foundBelow data file := by
  have below : node.getSlaves sys = [dataNode] :=
    List.perm_singleton.mp (getSlaves_perm slaves (by simp [loopOn.isBlockFile]))
  have all : ∀ pair ∈ [(dataNode, file)], sys.LoopOn pair.1 pair.2 ∧ Text.Trimmed pair.2 ∧ pair.2 ≠ "" := by
    simp [loopOn, trimmed, named]
  have files : backingFiles sys [dataNode] = .ok [(dataNode, file)] := backingFiles_of_forall all
  have arranged : populateLoopInfo sys dirs node = classifySlaves dirs node [(dataNode, file)] := by
    simp only [populateLoopInfo, below, files]
    rfl
  rw [arranged, ApexDirs.foundBelow, loopName, hashtree, classifySlaves]
  cases dirs.isDataLoopDevice file <;> rfl

theorem populateLoopInfo_of_pair (apart : dirs.Apart) (treeOn : sys.LoopOn treeNode tree)
    (treeTrimmed : Text.Trimmed tree) (inside : Text.startsWith tree dirs.apexHashTreeDir = true)
    (hashtree : data.hashtreeLoopName = treeNode.devPath)
    (slaves : (sys.listSlaves node.name).Perm [dataNode.name, treeNode.name]) :
    (populateLoopInfo sys dirs node).toOption = dirs.foundBelow data file := by
  have treeNamed : tree ≠ "" := by
    rintro rfl
    obtain ⟨rest, same⟩ := Text.startsWith_iff.mp inside
    exact apart.named (String.append_eq_empty_iff.mp same.symm).1
  have notData := apart.not_isDataLoopDevice inside
  have all : ∀ pair ∈ [(dataNode, file), (treeNode, tree)],
      sys.LoopOn pair.1 pair.2 ∧ Text.Trimmed pair.2 ∧ pair.2 ≠ "" := by
    simp [loopOn, trimmed, named, treeOn, treeTrimmed, treeNamed]
  have below := getSlaves_perm slaves (by simp [loopOn.isBlockFile, treeOn.isBlockFile])
  rcases eq_or_eq_of_perm_pair below with below | below
  · have files : backingFiles sys [dataNode, treeNode] = .ok [(dataNode, file), (treeNode, tree)] :=
      backingFiles_of_forall all
    have arranged : populateLoopInfo sys dirs node = classifySlaves dirs node
        [(dataNode, file), (treeNode, tree)] := by
      simp only [populateLoopInfo, below, files]
      rfl
    rw [arranged, ApexDirs.foundBelow, loopName, hashtree]
    cases isData : dirs.isDataLoopDevice file <;> simp [classifySlaves, notData, inside, isData] <;> rfl
  · have all' : ∀ pair ∈ [(treeNode, tree), (dataNode, file)],
        sys.LoopOn pair.1 pair.2 ∧ Text.Trimmed pair.2 ∧ pair.2 ≠ "" :=
      fun pair member => all pair (by simpa [or_comm] using member)
    have files : backingFiles sys [treeNode, dataNode] = .ok [(treeNode, tree), (dataNode, file)] :=
      backingFiles_of_forall all'
    have arranged : populateLoopInfo sys dirs node = classifySlaves dirs node
        [(treeNode, tree), (dataNode, file)] := by
      simp only [populateLoopInfo, below, files]
      rfl
    rw [arranged, ApexDirs.foundBelow, loopName, hashtree]
    cases isData : dirs.isDataLoopDevice file <;> simp [classifySlaves, notData, inside, isData] <;> rfl

end Below

/-- The mount of an image is read back from the block device it is on. -/
theorem resolveMountInfo_of_shows (apart : dirs.Apart) (spellable : Spellable data.fullPath)
    (shows : sys.Shows dirs data node) (temp : data.isTempMount = Text.endsWith data.mountPoint ".tmp") :
    (resolveMountInfo sys dirs node data.mountPoint).toOption =
      if dirs.Restores data then some { data with version := 0 } else none := by
  have below (mapped : sys.Mapped node data.deviceName) (found :
      (populateLoopInfo sys dirs node).toOption =
        dirs.foundBelow data (backingFile data.fullPath data.deleted)) :
      (resolveMountInfo sys dirs node data.mountPoint).toOption =
        if dirs.Restores data then some { data with version := 0 } else none := by
    have name := BlockDevice.getProperty_eq mapped.dmName mapped.trimmed mapped.named
    have restores : dirs.Restores data =
        dirs.isDataLoopDevice (backingFile data.fullPath data.deleted) := by
      rw [ApexDirs.Restores, decide_eq_false mapped.named, Bool.false_or, isDataLoopDevice_backingFile apart]
    simp only [resolveMountInfo, BlockDevice.getType_mapped mapped, name, restores]
    cases info : populateLoopInfo sys dirs node with
    | error e =>
      rw [info, ApexDirs.foundBelow] at found
      cases isData : dirs.isDataLoopDevice (backingFile data.fullPath data.deleted) with
      | false => rfl
      | true => simp [isData, Except.toOption] at found
    | ok info =>
      rw [info, ApexDirs.foundBelow] at found
      cases isData : dirs.isDataLoopDevice (backingFile data.fullPath data.deleted) with
      | false => simp [isData, Except.toOption] at found
      | true =>
        rw [isData, if_pos rfl] at found
        obtain rfl := Option.some.inj found
        simp only [bind, Except.bind, pure, Except.pure, Except.toOption,
          normalizeIfDeleted_backingFile spellable, spellable.reads, if_true, ← temp]
  cases shows with
  | loop loopOn loopName deviceName hashtree =>
    have read := BlockDevice.getProperty_eq loopOn.backingFile (trimmed_backingFile spellable)
      backingFile_ne_empty
    simp only [resolveMountInfo, BlockDevice.getType_loop loopOn, read, ApexDirs.Restores, deviceName,
      bind, Except.bind, pure, Except.pure, Except.toOption, decide_true, Bool.true_or, if_true,
      normalizeIfDeleted_backingFile spellable, spellable.reads, ← temp, ← loopName, ← hashtree]
  | verity mapped loopOn loopName hashtree slaves =>
    exact below mapped (populateLoopInfo_of_single loopOn (trimmed_backingFile spellable)
      backingFile_ne_empty loopName hashtree slaves)
  | verityWithHashtree mapped loopOn loopName treeOn trimmed inside hashtree slaves =>
    exact below mapped (populateLoopInfo_of_pair loopOn (trimmed_backingFile spellable)
      backingFile_ne_empty loopName apart treeOn trimmed inside hashtree slaves)

end Resolve

/-! ## Reading a line back -/

/-- A package name that can be read from a mount point in /proc/mounts. -/
structure PlainName (package : String) : Prop where
  noAt : '@' ∉ package.toList
  noSlash : '/' ∉ package.toList
  noSpace : ' ' ∉ package.toList

/-- The versions that the database can represent. -/
def InIntRange (version : Int64) : Prop :=
  -2147483648 ≤ version.toInt ∧ version.toInt ≤ 2147483647

section Line

variable {sys : SysBlock} {dirs : ApexDirs} {manifest : ApexManifest} {deleted : MountedApexData → Bool}

theorem not_mem_version {version : Int64} {c : Char} (notMinus : c ≠ '-') (notDigit : c.isDigit = false) :
    c ∉ (toString version).toList := by
  intro member
  rcases Text.eq_minus_or_isDigit_of_mem member with minus | digit
  · exact notMinus minus
  · exact Bool.false_ne_true (notDigit.symm.trans digit)

theorem not_mem_getPackageId {c : Char} (name : c ∉ manifest.name.toList) (notAt : c ≠ '@')
    (notMinus : c ≠ '-') (notDigit : c.isDigit = false) : c ∉ (getPackageId manifest).toList := by
  simp only [getPackageId, String.toList_append, List.mem_append, not_or]
  exact ⟨⟨name, by simpa using notAt⟩, not_mem_version notMinus notDigit⟩

theorem filename_packageMountPoint (plain : PlainName manifest.name) :
    Text.filename (getPackageMountPoint manifest) = getPackageId manifest :=
  Text.filename_append (not_mem_getPackageId plain.noSlash (by decide) (by decide) (by decide))

theorem parentPath_packageMountPoint (plain : PlainName manifest.name) :
    Text.parentPath (getPackageMountPoint manifest) = kApexRoot := by
  have ends : ∀ c ∈ kApexRoot.toList.getLast?, c ≠ '/' := by
    intro c last
    obtain rfl : 'x' = c := Option.some.inj last
    decide
  exact Text.parentPath_append
    (not_mem_getPackageId plain.noSlash (by decide) (by decide) (by decide)) (by decide) ends

/-- Name and version are read back from a mount point. -/
theorem parseMountPoint_packageMountPoint (plain : PlainName manifest.name)
    (inRange : InIntRange manifest.version) : parseMountPoint (getPackageMountPoint manifest) =
      (manifest.name, manifest.version.toInt32) := by
  have joined : getPackageId manifest = Text.join '@' [manifest.name, toString manifest.version] := by
    rw [← String.toList_inj]
    simp [getPackageId, Text.join]
  have fields : Text.split '@' (getPackageId manifest) = [manifest.name, toString manifest.version] := by
    rw [joined, Text.split_join (by simp)]
    simp [plain.noAt, at_not_mem_version]
  have version := Text.parseInt_toString inRange.1 inRange.2
  simp only [parseMountPoint, filename_packageMountPoint plain, fields, toString_version, version]
  rw [Int32.ofInt_int64ToInt]

theorem endsWith_tmp_packageMountPoint (manifest : ApexManifest) :
    Text.endsWith (getPackageMountPoint manifest) ".tmp" = false := by
  rw [Bool.eq_false_iff, ne_eq, Text.endsWith, List.isSuffixOf_iff_suffix]
  rintro ⟨front, same⟩
  obtain ⟨digits, last, version, digit⟩ := Text.getLast_isDigit manifest.version.toInt
  have ends : (getPackageMountPoint manifest).toList.getLast? = some last := by
    simp only [getPackageMountPoint, getPackageId, toString_version, String.toList_append, version,
      ← List.append_assoc, List.getLast?_concat]
  rw [← same, List.getLast?_append] at ends
  have isP : 'p' = last := by simpa using ends
  rw [← isP] at digit
  exact absurd digit (by decide)

theorem parseMountInfo_join {device target : String} {rest : List String}
    (deviceField : ' ' ∉ device.toList) (targetField : ' ' ∉ target.toList)
    (restFields : ∀ field ∈ rest, ' ' ∉ field.toList) :
    parseMountInfo (Text.join ' ' (device :: target :: rest)) = (device, target) := by
  rw [parseMountInfo, Text.split_join (by simp)]
  intro field member
  rcases List.mem_cons.mp member with rfl | member
  · exact deviceField
  · rcases List.mem_cons.mp member with rfl | member
    · exact targetField
    · exact restFields field member

theorem noSpace_devPath {node : BlockDevice} (noSpace : ' ' ∉ node.name.toList) :
    ' ' ∉ node.devPath.toList := by
  simpa [BlockDevice.devPath, kDevBlock] using noSpace

theorem SysBlock.Shows.node {node : BlockDevice} (shows : sys.Shows dirs data node) :
    '/' ∉ node.name.toList ∧ ' ' ∉ node.name.toList ∧ data.loopName ≠ "" := by
  have named {loop : BlockDevice} (loopName : data.loopName = loop.devPath) : data.loopName ≠ "" := by
    intro empty
    have inside : '/' ∈ loop.devPath.toList := by simp [BlockDevice.devPath]
    rw [← loopName, empty] at inside
    cases inside
  cases shows with
  | loop loopOn loopName _ _ => exact ⟨loopOn.noSlash, loopOn.noSpace, named loopName⟩
  | verity mapped _ loopName _ _ => exact ⟨mapped.noSlash, mapped.noSpace, named loopName⟩
  | verityWithHashtree mapped _ loopName _ _ _ _ _ =>
    exact ⟨mapped.noSlash, mapped.noSpace, named loopName⟩

/-- The data of a mount as a restart finds them: whether the file was deleted is what the kernel
says. -/
def MountedApexData.refresh (deleted : MountedApexData → Bool) (data : MountedApexData) :
    MountedApexData :=
  { data with deleted := deleted data }

/-- The line of a mount in /proc/mounts. -/
def Mount.ShownAs (sys : SysBlock) (dirs : ApexDirs) (deleted : MountedApexData → Bool) (mount : Mount)
    (line : String) : Prop :=
  ∃ node rest, sys.Shows dirs (mount.image.refresh deleted) node ∧ (∀ field ∈ rest, ' ' ∉ field.toList) ∧
    line = Text.join ' ' (node.devPath :: mount.target :: rest)

/-- A bind mount is passed over. -/
theorem resolveLine_of_active {mount : Mount} {line : String}
    (shown : mount.ShownAs sys dirs deleted line)
    (noSpace : ' ' ∉ mount.target.toList) (noAt : '@' ∉ mount.target.toList) :
    resolveLine sys dirs line = none := by
  obtain ⟨node, rest, shows, fields, rfl⟩ := shown
  have parsed := parseMountInfo_join (noSpace_devPath shows.node.2.1) noSpace fields
  simp [resolveLine, parsed, isActiveMountPoint, noAt]

/-- The mount of a version is read back. -/
theorem resolveLine_of_package {image : MountedApexData} {line : String} (apart : dirs.Apart)
    (shown : Mount.ShownAs sys dirs deleted ⟨image.mountPoint, image⟩ line)
    (spellable : Spellable image.fullPath) (plain : PlainName manifest.name)
    (inRange : InIntRange manifest.version) (notTemp : image.isTempMount = false)
    (mountPoint : image.mountPoint = getPackageMountPoint manifest)
    (version : image.version = manifest.version.toInt32) :
    resolveLine sys dirs line =
      if dirs.Restores image then some (manifest.name, image.refresh deleted) else none := by
  obtain ⟨node, rest, shows, fields, rfl⟩ := shown
  have noSpace : ' ' ∉ image.mountPoint.toList := by
    have inId := not_mem_getPackageId plain.noSpace (by decide) (by decide) (by decide)
    simpa [mountPoint, getPackageMountPoint, kApexRoot] using inId
  have parsed := parseMountInfo_join (noSpace_devPath shows.node.2.1) noSpace fields
  have notActive : isActiveMountPoint image.mountPoint = false := by
    rw [mountPoint]
    simpa [isActiveMountPoint] using at_mem_packageMountPoint manifest
  have temp : image.isTempMount = Text.endsWith image.mountPoint ".tmp" := by
    rw [notTemp, mountPoint, endsWith_tmp_packageMountPoint]
  have resolved : (resolveMountInfo sys dirs node image.mountPoint).toOption =
      if dirs.Restores image then some { image.refresh deleted with version := 0 } else none :=
    resolveMountInfo_of_shows apart (show Spellable (image.refresh deleted).fullPath from spellable)
      shows temp
  have point := parseMountPoint_packageMountPoint plain inRange
  have parent := parentPath_packageMountPoint plain
  rw [← mountPoint] at point parent
  simp only [resolveLine, parsed, parent, notActive, BlockDevice.ofPath_devPath shows.node.1, point]
  cases info : resolveMountInfo sys dirs node image.mountPoint with
  | error e =>
    rw [info] at resolved
    cases restores : dirs.Restores image with
    | false => simp
    | true => simp [restores, Except.toOption] at resolved
  | ok mountData =>
    rw [info] at resolved
    cases restores : dirs.Restores image with
    | false => simp [restores, Except.toOption] at resolved
    | true =>
      rw [restores, if_pos rfl] at resolved
      obtain rfl := Option.some.inj resolved
      simp [MountedApexData.refresh, ← version]

end Line

/-! ## All lines -/

/-- A line of /proc/mounts that is of no APEX. -/
def Unrelated (line : String) : Prop :=
  Text.parentPath (parseMountInfo line).2 ≠ kApexRoot ∨ '@' ∉ (parseMountInfo line).2.toList

/-- The lines of /proc/mounts, in any order: one for each mount, and others. -/
structure World.ListedBy (w : World) (sys : SysBlock) (dirs : ApexDirs)
    (deleted : MountedApexData → Bool) (lines : List String) (shown : List (Mount × String))
    (others : List String) : Prop where
  mounts : shown.map Prod.fst = w.mounts
  perm : lines.Perm (shown.map Prod.snd ++ others)
  shows : ∀ entry ∈ shown, entry.1.ShownAs sys dirs deleted entry.2
  unrelated : ∀ line ∈ others, Unrelated line

/-- The database has one entry for each version that is mounted, and no other. -/
structure World.Accounted (w : World) : Prop where
  settled : ∀ package, w.Settled package
  complete : w.Complete
  unique : w.database.hasUniqueLoopDm = true

/-- What is mounted is spelled in a way that can be read back. -/
structure World.Legible (w : World) : Prop where
  plain : ∀ package, ∀ data ∈ (w.database.mountsOf package).entries, PlainName package
  spellable : ∀ package, ∀ data ∈ (w.database.mountsOf package).entries, Spellable data.fullPath
  inRange : ∀ package, ∀ data ∈ (w.database.mountsOf package).entries, ∀ apex,
    openAt w.fs data.fullPath = .ok apex → InIntRange apex.manifest.version
  noSpace : ∀ mount ∈ w.mounts, ' ' ∉ mount.target.toList

theorem World.Complete.recorded (complete : w.Complete) {mount : Mount} (member : mount ∈ w.mounts)
    (isAt : '@' ∈ mount.target.toList) : ∃ package,
      mount.image ∈ (w.database.mountsOf package).entries ∧ mount.image.mountPoint = mount.target :=
  complete mount.target isAt mount.image
    (List.mem_map_of_mem (List.mem_filter.mpr ⟨member, decide_eq_true rfl⟩))

section Populate

variable {sys : SysBlock} {dirs : ApexDirs} {lines others : List String} {shown : List (Mount × String)}
  {deleted : MountedApexData → Bool}

theorem resolveLine_of_unrelated {line : String} (unrelated : Unrelated line) :
    resolveLine sys dirs line = none := by
  simp only [resolveLine]
  split
  · rfl
  · rename_i under
    rcases unrelated with outside | noAt
    · exact absurd outside (by simpa using under)
    · rw [if_pos (by simpa [isActiveMountPoint] using noAt)]

/-- What a mount adds to the database, but for what the kernel says of its file. -/
def Mount.restored (dirs : ApexDirs) (mount : Mount) : Option (String × MountedApexData) :=
  if '@' ∈ mount.target.toList ∧ dirs.Restores mount.image = true then
    some ((parseMountPoint mount.target).1, mount.image)
  else none

/-- What a mount adds to the database with what the kernel says of its file. -/
def refreshEntry (deleted : MountedApexData → Bool) (entry : String × MountedApexData) :
    String × MountedApexData :=
  (entry.1, entry.2.refresh deleted)

theorem uniqueLoopDm_refresh {mounts : List (String × MountedApexData)} :
    MountedApexDatabase.UniqueLoopDm (mounts.map (refreshEntry deleted)) ↔
      MountedApexDatabase.UniqueLoopDm mounts := by
  simp [MountedApexDatabase.UniqueLoopDm, refreshEntry, MountedApexData.refresh, List.flatMap_map,
    Function.comp_def]

variable (accounted : w.Accounted) (legible : w.Legible)
include accounted legible

/-- The package of an entry is that of its mount point. -/
theorem World.Accounted.parseMountPoint_eq (member : data ∈ (w.database.mountsOf package).entries) :
    (parseMountPoint data.mountPoint).1 = package := by
  obtain ⟨apex, opened, rfl, -, mountPoint⟩ := ((accounted.settled package).recorded data member).file
  rw [mountPoint, parseMountPoint_packageMountPoint (legible.plain _ data member)
    (legible.inRange _ data member apex opened)]

theorem resolveLine_of_shown (apart : dirs.Apart) {mount : Mount} (member : mount ∈ w.mounts)
    {line : String} (shown : mount.ShownAs sys dirs deleted line) :
    resolveLine sys dirs line = (mount.restored dirs).map (refreshEntry deleted) := by
  by_cases isAt : '@' ∈ mount.target.toList
  · obtain ⟨package, isEntry, target⟩ := accounted.complete.recorded member isAt
    have recorded := (accounted.settled package).recorded mount.image isEntry
    obtain ⟨apex, opened, rfl, version, mountPoint⟩ := recorded.file
    have shown' : Mount.ShownAs sys dirs deleted ⟨mount.image.mountPoint, mount.image⟩ line := by
      rw [target]
      exact shown
    rw [resolveLine_of_package apart shown' (legible.spellable _ _ isEntry) (legible.plain _ _ isEntry)
      (legible.inRange _ _ isEntry apex opened) recorded.notTemp mountPoint version, Mount.restored,
      ← target, accounted.parseMountPoint_eq legible isEntry]
    cases restores : dirs.Restores mount.image <;> simp [target, isAt, refreshEntry]
  · rw [resolveLine_of_active shown (legible.noSpace mount member) isAt, Mount.restored,
      if_neg fun both => isAt both.1]
    rfl

theorem restored_eq_some {mount : Mount} (member : mount ∈ w.mounts) :
    mount.restored dirs = some (package, data) ↔ '@' ∈ mount.target.toList ∧
      dirs.Restores data = true ∧ mount.image = data ∧ data.mountPoint = mount.target ∧
        data ∈ (w.database.mountsOf package).entries := by
  rw [Mount.restored]
  constructor
  · intro restored
    split at restored
    · rename_i both
      obtain ⟨other, isEntry, target⟩ := accounted.complete.recorded member both.1
      rw [← target, accounted.parseMountPoint_eq legible isEntry] at restored
      cases restored
      exact ⟨both.1, both.2, rfl, target, isEntry⟩
    · cases restored
  · rintro ⟨isAt, restores, rfl, target, isEntry⟩
    rw [if_pos ⟨isAt, restores⟩, ← target, accounted.parseMountPoint_eq legible isEntry]

/-- Every entry that can be restored is so by exactly one mount. -/
theorem perm_restored : (w.mounts.filterMap (Mount.restored dirs)).Perm
    (w.database.allMounts.filter fun entry => dirs.Restores entry.2) := by
  have nodup : (w.mounts.filterMap (Mount.restored dirs)).Nodup := by
    refine List.nodup_iff_count_le_one.mpr fun ⟨package, data⟩ => ?_
    rw [List.count_filterMap]
    by_cases any : ∃ mount ∈ w.mounts, mount.restored dirs = some (package, data)
    · obtain ⟨mount, member, restored⟩ := any
      have isEntry := ((restored_eq_some accounted legible member).mp restored).2.2.2.2
      have mounted := ((accounted.settled package).recorded data isEntry).mounted
      calc w.mounts.countP (fun mount => mount.restored dirs == some (package, data))
        _ ≤ w.mounts.countP (fun mount => mount.target = data.mountPoint) := by
          refine List.countP_mono_left fun other isMount restored => ?_
          exact decide_eq_true ((restored_eq_some accounted legible isMount).mp
            (eq_of_beq restored)).2.2.2.1.symm
        _ = (imagesAt w.mounts data.mountPoint).length := by
          rw [imagesAt, List.length_map, List.countP_eq_length_filter]
        _ ≤ 1 := by rw [mounted, List.length_singleton]
    · have none : w.mounts.countP (fun mount => mount.restored dirs == some (package, data)) = 0 :=
        List.countP_eq_zero.mpr fun mount member restored => any ⟨mount, member, eq_of_beq restored⟩
      rw [none]
      exact Nat.zero_le 1
  refine (List.perm_ext_iff_of_nodup nodup
    ((MountedApexDatabase.nodup_allMounts _).filter _)).mpr fun ⟨package, data⟩ => ?_
  rw [List.mem_filterMap, List.mem_filter, MountedApexDatabase.mem_allMounts]
  constructor
  · rintro ⟨mount, member, restored⟩
    obtain ⟨-, restores, -, -, isEntry⟩ := (restored_eq_some accounted legible member).mp restored
    exact ⟨isEntry, restores⟩
  · rintro ⟨isEntry, restores⟩
    have recorded := (accounted.settled package).recorded data isEntry
    obtain ⟨apex, -, -, -, mountPoint⟩ := recorded.file
    have isMounted : data ∈ imagesAt w.mounts data.mountPoint := by simp [recorded.mounted]
    obtain ⟨mount, member, image⟩ := List.mem_map.mp isMounted
    obtain ⟨isMount, target⟩ := List.mem_filter.mp member
    have target := of_decide_eq_true target
    refine ⟨mount, isMount, (restored_eq_some accounted legible isMount).mpr
      ⟨?_, restores, image, target.symm, isEntry⟩⟩
    rw [target, mountPoint]
    exact at_mem_packageMountPoint _

omit accounted legible in
/-- The lines that are of no APEX do not matter. -/
theorem populateFromMounts_eq (database : MountedApexDatabase) :
    database.populateFromMounts sys dirs lines = (lines.filterMap (resolveLine sys dirs)).foldlM
      (fun database mount => database.addMountedApex mount.1 mount.2) database := by
  induction lines generalizing database with
  | nil => rfl
  | cons line rest ih =>
    simp only [MountedApexDatabase.populateFromMounts] at ih ⊢
    rw [List.foldlM_cons, List.filterMap_cons]
    cases resolveLine sys dirs line with
    | none => exact ih database
    | some mount =>
      rw [List.foldlM_cons]
      cases added : database.addMountedApex mount.1 mount.2 with
      | none => simp [added]
      | some database' => simpa [added] using ih database'

theorem filterMap_resolveLine (apart : dirs.Apart)
    (listed : w.ListedBy sys dirs deleted lines shown others) :
    (lines.filterMap (resolveLine sys dirs)).Perm
      ((w.mounts.filterMap (Mount.restored dirs)).map (refreshEntry deleted)) := by
  have nothing : others.filterMap (resolveLine sys dirs) = [] :=
    List.filterMap_eq_nil_iff.mpr fun line member => resolveLine_of_unrelated (listed.unrelated line member)
  have same : (shown.map Prod.snd).filterMap (resolveLine sys dirs) =
      (w.mounts.filterMap (Mount.restored dirs)).map (refreshEntry deleted) := by
    rw [← listed.mounts, List.filterMap_map, List.map_filterMap, List.filterMap_map]
    refine List.filterMap_congr fun entry member => ?_
    have isMount : entry.1 ∈ w.mounts := listed.mounts ▸ List.mem_map_of_mem member
    rw [Function.comp_apply, Function.comp_apply]
    exact resolveLine_of_shown accounted legible apart isMount (listed.shows entry member)
  refine (listed.perm.filterMap _).trans ?_
  rw [List.filterMap_append, nothing, List.append_nil, same]

/-- Every CHECK passes, and the database has the entries that can be restored. -/
theorem exists_populated (apart : dirs.Apart)
    (listed : w.ListedBy sys dirs deleted lines shown others) :
    ∃ rebuilt, MountedApexDatabase.populateFromMounts ∅ sys dirs lines = some rebuilt ∧
      rebuilt.allMounts.Perm ((w.database.allMounts.filter fun entry =>
        dirs.Restores entry.2).map (refreshEntry deleted)) := by
  have perm := (filterMap_resolveLine accounted legible apart listed).trans
    ((perm_restored accounted legible).map (refreshEntry deleted))
  have empty : MountedApexDatabase.allMounts ∅ = [] := rfl
  have unique : MountedApexDatabase.UniqueLoopDm (lines.filterMap (resolveLine sys dirs) ++
      MountedApexDatabase.allMounts ∅) := by
    rw [empty, List.append_nil]
    have unique := MountedApexDatabase.hasUniqueLoopDm_iff.mp accounted.unique
    have fewer := unique.of_subperm (List.filter_sublist (p := fun entry => dirs.Restores entry.2)).subperm
    exact (uniqueLoopDm_refresh.mpr fewer).of_subperm perm.subperm
  obtain ⟨rebuilt, ran, all⟩ := MountedApexDatabase.exists_addAll unique fun mount member => by
    obtain ⟨restored, inRestored, rfl⟩ := List.mem_map.mp
      ((filterMap_resolveLine accounted legible apart listed).mem_iff.mp member)
    obtain ⟨isMount, inMounts, restored⟩ := List.mem_filterMap.mp inRestored
    obtain ⟨-, -, same, -, -⟩ := (restored_eq_some accounted legible inMounts).mp restored
    rw [← listed.mounts] at inMounts
    obtain ⟨entry, inShown, rfl⟩ := List.mem_map.mp inMounts
    obtain ⟨node, rest, shows, -⟩ := listed.shows entry inShown
    rw [same] at shows
    exact shows.node.2.2
  rw [empty, List.append_nil] at all
  exact ⟨rebuilt, (populateFromMounts_eq _).trans ran, all.trans perm⟩

omit accounted legible in
theorem entries_of_perm_allMounts {rebuilt : MountedApexDatabase} {keeps : MountedApexData → Bool}
    (perm : rebuilt.allMounts.Perm ((w.database.allMounts.filter fun entry =>
      keeps entry.2).map (refreshEntry deleted))) :
    (rebuilt.mountsOf package).entries =
      ((w.database.mountsOf package).entries.filter keeps).map (MountedApexData.refresh deleted) := by
  -- what the kernel says of the files does not change the order
  refine MountedApexDatabase.entries_eq_of_mem_iff (rebuilt.mountsOf package).sorted
    (List.pairwise_map.mpr ((w.database.mountsOf package).sorted.filter _)) fun entry => ?_
  rw [← MountedApexDatabase.mem_allMounts, perm.mem_iff]
  simp [refreshEntry, MountedApexDatabase.mem_allMounts]

/-- A restart finds the mounts again: whatever the order of the mounts and of the slaves of a
device, the database holds the entries it held, but for those on dm-verity that are of no file in
the directories of apexd, with what the kernel says of their files. -/
theorem populateFromMounts_of_listedBy (apart : dirs.Apart)
    (listed : w.ListedBy sys dirs deleted lines shown others) :
    ∃ rebuilt, MountedApexDatabase.populateFromMounts ∅ sys dirs lines = some rebuilt ∧
      ∀ package, (rebuilt.mountsOf package).entries =
        ((w.database.mountsOf package).entries.filter dirs.Restores).map (MountedApexData.refresh deleted) := by
  obtain ⟨rebuilt, populated, perm⟩ := exists_populated accounted legible apart listed
  exact ⟨rebuilt, populated, fun package => entries_of_perm_allMounts perm⟩

end Populate

/-! ## One package -/

/-- What the kernel shows of an APEX on dm-verity with its hash tree apart, which it lists first. -/
def fooSys : SysBlock where
  readFile name property :=
    (([("loop0", "loop/backing_file", "/data/apex/active/foo@2.apex\n"),
      ("loop1", "loop/backing_file", "/data/apex/hashtree/foo@2\n"),
      ("dm-0", "dm/name", "foo@2\n")].find? fun entry =>
        entry.1 = name ∧ entry.2.1 = property).map fun entry => entry.2.2)
  listSlaves _ := ["loop1", "loop0"]
  isBlockFile _ := true

def fooMount : MountedApexData where
  version := 2
  loopName := "/dev/block/loop0"
  fullPath := fooFile "2"
  mountPoint := "/apex/foo@2"
  deviceName := "foo@2"
  hashtreeLoopName := "/dev/block/loop1"
  deleted := false
  isTempMount := false

def fooShown : List (Mount × String) :=
  [(⟨"/apex/foo", fooMount⟩, "/dev/block/dm-0 /apex/foo ext4 ro 0 0"),
    (⟨"/apex/foo@2", fooMount⟩, "/dev/block/dm-0 /apex/foo@2 ext4 ro 0 0")]

def fooLines : List String :=
  ["tmpfs /apex tmpfs rw 0 0", "/dev/block/dm-0 /apex/foo@2 ext4 ro 0 0",
    "/dev/block/dm-0 /apex/foo ext4 ro 0 0"]

theorem shownAs_fooShown : ∀ entry ∈ fooShown,
    entry.1.ShownAs fooSys .config (fun _ => false) entry.2 := by
  have mapped : fooSys.Mapped ⟨"dm-0"⟩ fooMount.deviceName :=
    ⟨by decide +kernel, by decide, by decide, by decide +kernel, by decide, by decide⟩
  have dataLoop : fooSys.LoopOn ⟨"loop0"⟩ (backingFile fooMount.fullPath false) :=
    ⟨by decide +kernel, by decide, by decide, rfl, by decide +kernel⟩
  have treeLoop : fooSys.LoopOn ⟨"loop1"⟩ "/data/apex/hashtree/foo@2" :=
    ⟨by decide +kernel, by decide, by decide, rfl, by decide +kernel⟩
  have shows : fooSys.Shows .config fooMount ⟨"dm-0"⟩ :=
    .verityWithHashtree mapped dataLoop rfl treeLoop (by decide)
      (by decide +kernel) rfl (.swap _ _ _)
  intro entry member
  have fields : ∀ field ∈ ["ext4", "ro", "0", "0"], ' ' ∉ field.toList := by decide
  simp only [fooShown, List.mem_cons, List.not_mem_nil, or_false] at member
  rcases member with rfl | rfl <;> exact ⟨⟨"dm-0"⟩, _, shows, fields, by decide +kernel⟩

theorem listedBy_fooLines (mounts : w.mounts = fooShown.map Prod.fst) :
    w.ListedBy fooSys .config (fun _ => false) fooLines fooShown ["tmpfs /apex tmpfs rw 0 0"] where
  mounts := mounts.symm
  perm := by decide +kernel
  shows := shownAs_fooShown
  unrelated line member := by
    rw [List.mem_singleton.mp member]
    exact .inr (by decide +kernel)

/-- The second version is activated. -/
theorem exists_activated_foo : ∃ w : World, w.Accounted ∧ w.Legible ∧
    w.mounts = fooShown.map Prod.fst ∧ (w.database.mountsOf "foo").entries = [fooMount] ∧
    openAt w.fs fooMount.fullPath = .ok ⟨fooFile "2", .plain "foo" 2 1⟩ := by
  let foo : ApexFile := ⟨fooFile "2", .plain "foo" 2 1⟩
  have computed : (execPool deviceHandler (activateFromQueue fooEnvironment .bootstrap) 100 1 [foo]
      twoFoos).any fun found => decide (found.2.mounts = fooShown.map Prod.fst ∧
        (found.2.database.mountsOf "foo").entries = [fooMount]) := by decide +kernel
  obtain ⟨⟨results, w⟩, worked, outcome⟩ := (Option.any_eq_true _ _).mp computed
  obtain ⟨mounts, entries⟩ := of_decide_eq_true outcome
  have unmounted : twoFoos.WellMounted :=
    wellMounted_of_serves (.start rfl : Serves ServiceCall.KeepsBound twoFoos)
  have queued : twoFoos.Queued fooEnvironment [foo] :=
    queued_bothFoos.of_sublist (List.sublist_cons_self _ _)
  have sound : deviceHandler.Sound fallible := deviceHandler_sound.withFaults
  obtain ⟨perm, all⟩ := activatedAll_of_pool (fun _ => Nat.one_pos) unmounted queued
    (runs_of_execPool sound worked)
  have onlyFoo {package : String} {data : MountedApexData}
      (member : data ∈ (w.database.mountsOf package).entries) : package = "foo" ∧ data.fullPath = foo.path := by
    rcases all.activated.only package data member with old | ⟨apex, inResults, rfl, ofApex⟩
    · cases old
    · obtain rfl := List.mem_singleton.mp (perm.mem_iff.mp inResults)
      exact ⟨rfl, ofApex.fullPath⟩
  refine ⟨w, ⟨all.activated.settled, all.complete (fun _ _ _ shown => by cases shown),
      all.activated.unique (by decide +kernel)⟩,
    ⟨fun package data member => ?_, fun package data member => ?_, fun package data member apex opened => ?_,
      fun mount member => ?_⟩, mounts, entries, ?_⟩
  · rw [(onlyFoo member).1]
    exact ⟨by decide, by decide, by decide⟩
  · rw [(onlyFoo member).2]
    exact ⟨by decide +kernel, by decide +kernel, by decide +kernel⟩
  · rw [(onlyFoo member).2, all.activated.fs, queued.opened foo List.mem_cons_self] at opened
    cases opened
    exact ⟨by decide, by decide⟩
  · rw [mounts] at member
    revert mount
    decide +kernel
  · rw [all.activated.fs]
    exact queued.opened foo List.mem_cons_self

/-- It is found again after a restart. -/
theorem populateFromMounts_of_listedBy_foo : ∃ rebuilt,
    MountedApexDatabase.populateFromMounts ∅ fooSys .config fooLines = some rebuilt ∧
      (rebuilt.mountsOf "foo").entries = [fooMount] := by
  obtain ⟨w, accounted, legible, mounts, entries, -⟩ := exists_activated_foo
  have apart : ApexDirs.config.Apart := ⟨by decide +kernel, by decide +kernel, by decide, by decide⟩
  obtain ⟨rebuilt, populated, restored⟩ :=
    populateFromMounts_of_listedBy accounted legible apart (listedBy_fooLines mounts)
  refine ⟨rebuilt, populated, ?_⟩
  rw [restored, entries]
  decide +kernel

end Apexd

import Mathlib.Data.Finmap
import Mathlib.Data.List.Sort
import Mathlib.Data.String.Basic
import Mathlib.Logic.Function.Basic
import Apexd.Process.Semantics

/-! # Directories of files

A file system maps the directories that exist to their permissions and their regular files by
name.  What a directory is called (`δ`) and what a file contains (`χ`) are parameters.  Files
are linked and renamed as a whole, so a name is bound to a content and two links of one file
are two names of the same content.
-/

namespace Storage

open Process

/-- The regular files of a directory by name. -/
abbrev Directory (χ : Type) := Finmap fun _ : String => χ

namespace Directory

variable {χ : Type}

/-- The names of a directory in increasing order. -/
def names (directory : Directory χ) : List String :=
  Quotient.liftOn directory.entries
    (fun entries => (entries.map Sigma.fst).insertionSort (· ≤ ·))
    (fun _ _ same => ((List.perm_insertionSort _ _).trans
      ((same.map Sigma.fst).trans (List.perm_insertionSort _ _).symm)).eq_of_pairwise
        (fun _ _ _ _ => le_antisymm) (List.pairwise_insertionSort _ _)
        (List.pairwise_insertionSort _ _))

theorem mem_names {directory : Directory χ} {name : String} :
    name ∈ directory.names ↔ name ∈ directory := by
  obtain ⟨entries, nodup⟩ := directory
  induction entries using Quotient.inductionOn with
  | h entries =>
    change name ∈ (entries.map Sigma.fst).insertionSort (· ≤ ·) ↔ name ∈ entries.map Sigma.fst
    exact (List.perm_insertionSort _ _).mem_iff

theorem nodup_names (directory : Directory χ) : directory.names.Nodup := by
  obtain ⟨entries, nodup⟩ := directory
  induction entries using Quotient.inductionOn with
  | h entries =>
    change ((entries.map Sigma.fst).insertionSort (· ≤ ·)).Nodup
    exact (List.perm_insertionSort _ _).nodup_iff.mpr nodup

/-- The names in some order, as a directory listing returns them. -/
def IsListing (directory : Directory χ) (listing : List String) : Prop :=
  listing.Perm directory.names

theorem IsListing.mem_iff {directory : Directory χ} {listing : List String}
    (isListing : directory.IsListing listing) {name : String} :
    name ∈ listing ↔ ∃ content, directory.lookup name = some content := by
  rw [List.Perm.mem_iff isListing, mem_names, ← Option.isSome_iff_exists, Finmap.lookup_isSome]

theorem IsListing.nodup {directory : Directory χ} {listing : List String}
    (isListing : directory.IsListing listing) : listing.Nodup :=
  (List.Perm.nodup_iff isListing).mpr directory.nodup_names

/-- The directory with one more file, unless there is a file of that name. -/
def insertNew (directory : Directory χ) (name : String) (content : χ) : Option (Directory χ) :=
  if (directory.lookup name).isSome then none else some (directory.insert name content)

/-- Two files can be added in either order. -/
theorem insertNew_comm (directory : Directory χ) (first second : String) (content content' : χ) :
    ((directory.insertNew first content).bind fun added => added.insertNew second content') =
      (directory.insertNew second content').bind fun added => added.insertNew first content := by
  unfold insertNew
  by_cases same : first = second
  · subst same
    split
    · rfl
    · simp
  · rcases isFirst : directory.lookup first with _ | one <;>
      rcases isSecond : directory.lookup second with _ | two <;>
      simp [Finmap.lookup_insert_of_ne _ same, Finmap.lookup_insert_of_ne _ (Ne.symm same),
        isFirst, isSecond]
    exact Finmap.insert_insert_of_ne directory same

end Directory

/-! ## File systems -/

/-- Where a file is: its directory and its name there. -/
structure Path (δ : Type) where
  dir : δ
  name : String
  deriving DecidableEq

/-- An existing directory: its permissions and its files. -/
structure Dir (χ : Type) where
  mode : Nat
  files : Directory χ

@[ext] structure FileSystem (δ χ : Type) where
  dir : δ → Option (Dir χ)

/-- Which directories lie inside which; removing a directory removes what is inside it. -/
class Nested (δ : Type) where
  inside : δ → δ → Bool
  inside_self : ∀ d, inside d d = true

namespace FileSystem

variable {δ χ : Type}

def has (fs : FileSystem δ χ) (d : δ) : Bool :=
  (fs.dir d).isSome

/-- The files of a directory; none when the directory does not exist. -/
def files (fs : FileSystem δ χ) (d : δ) : Directory χ :=
  match fs.dir d with
  | some dir => dir.files
  | none => ∅

def file (fs : FileSystem δ χ) (path : Path δ) : Option χ :=
  (fs.files path.dir).lookup path.name

/-- The contents of a directory by name. -/
def view (fs : FileSystem δ χ) (d : δ) : String → Option χ := fun name =>
  fs.file ⟨d, name⟩

variable [DecidableEq δ]

def set (fs : FileSystem δ χ) (d : δ) (dir : Option (Dir χ)) : FileSystem δ χ :=
  ⟨fun x => if x = d then dir else fs.dir x⟩

/-- Change the files of a directory, if it exists. -/
def update (fs : FileSystem δ χ) (d : δ) (f : Directory χ → Directory χ) : FileSystem δ χ :=
  fs.set d ((fs.dir d).map fun dir => { dir with files := f dir.files })

def write (fs : FileSystem δ χ) (path : Path δ) (content : χ) : FileSystem δ χ :=
  fs.update path.dir (·.insert path.name content)

def remove (fs : FileSystem δ χ) (path : Path δ) : FileSystem δ χ :=
  fs.update path.dir (·.erase path.name)

@[simp] theorem dir_set_self (fs : FileSystem δ χ) (d : δ) (dir : Option (Dir χ)) :
    (fs.set d dir).dir d = dir := by
  simp [set]

@[simp] theorem set_set (fs : FileSystem δ χ) (d : δ) (first second : Option (Dir χ)) :
    (fs.set d first).set d second = fs.set d second := by
  ext1
  funext x
  by_cases same : x = d <;> simp [set, same]

theorem dir_set_ne (fs : FileSystem δ χ) {d x : δ} (ne : x ≠ d) (dir : Option (Dir χ)) :
    (fs.set d dir).dir x = fs.dir x := by
  simp [set, ne]

omit [DecidableEq δ] in
theorem files_of_dir_eq {fs fs' : FileSystem δ χ} {d : δ} (same : fs'.dir d = fs.dir d) :
    fs'.files d = fs.files d := by
  rw [files, files, same]

theorem dir_update_ne (fs : FileSystem δ χ) {d x : δ} (ne : x ≠ d)
    (f : Directory χ → Directory χ) : (fs.update d f).dir x = fs.dir x :=
  fs.dir_set_ne ne _

@[simp] theorem has_update (fs : FileSystem δ χ) (d x : δ) (f : Directory χ → Directory χ) :
    (fs.update d f).has x = fs.has x := by
  by_cases same : x = d
  · subst same
    simp [has, update]
  · rw [has, has, fs.dir_update_ne same]

theorem files_update_self {fs : FileSystem δ χ} {d : δ} (exists' : fs.has d)
    (f : Directory χ → Directory χ) : (fs.update d f).files d = f (fs.files d) := by
  obtain ⟨dir, found⟩ := Option.isSome_iff_exists.mp exists'
  simp [files, update, found]

theorem files_update_ne (fs : FileSystem δ χ) {d x : δ} (ne : x ≠ d)
    (f : Directory χ → Directory χ) : (fs.update d f).files x = fs.files x :=
  files_of_dir_eq (fs.dir_update_ne ne f)

omit [DecidableEq δ] in
theorem has_of_file {fs : FileSystem δ χ} {path : Path δ} {content : χ}
    (found : fs.file path = some content) : fs.has path.dir := by
  rw [has]
  cases exists' : fs.dir path.dir with
  | none => simp [file, files, exists'] at found
  | some dir => rfl

theorem files_write {fs : FileSystem δ χ} {path : Path δ} (exists' : fs.has path.dir)
    (content : χ) :
    (fs.write path content).files path.dir = (fs.files path.dir).insert path.name content :=
  files_update_self exists' _

theorem files_write_ne (fs : FileSystem δ χ) {path : Path δ} {d : δ} (ne : d ≠ path.dir)
    (content : χ) : (fs.write path content).files d = fs.files d :=
  fs.files_update_ne ne _

theorem files_remove (fs : FileSystem δ χ) (path : Path δ) :
    (fs.remove path).files path.dir = (fs.files path.dir).erase path.name := by
  cases exists' : fs.dir path.dir with
  | none => simp [files, remove, update, exists']; rfl
  | some dir => simp [files, remove, update, exists']

theorem files_remove_ne (fs : FileSystem δ χ) {path : Path δ} {d : δ} (ne : d ≠ path.dir) :
    (fs.remove path).files d = fs.files d :=
  fs.files_update_ne ne _

@[simp] theorem has_write (fs : FileSystem δ χ) (path : Path δ) (content : χ) (d : δ) :
    (fs.write path content).has d = fs.has d :=
  fs.has_update _ _ _

@[simp] theorem has_remove (fs : FileSystem δ χ) (path : Path δ) (d : δ) :
    (fs.remove path).has d = fs.has d :=
  fs.has_update _ _ _

omit [DecidableEq δ] in
theorem view_of_dir_eq {fs fs' : FileSystem δ χ} {d : δ} (same : fs'.dir d = fs.dir d) :
    fs'.view d = fs.view d := by
  funext name
  rw [view, view, file, file, files_of_dir_eq same]

/-- Replacing a directory by one with the same files changes no file. -/
theorem file_set (fs : FileSystem δ χ) {d : δ} {dir : Dir χ} (same : dir.files = fs.files d) :
    (fs.set d (some dir)).file = fs.file := by
  funext path
  by_cases isDir : path.dir = d
  · rw [file, file, isDir, ← same]
    simp [files]
  · rw [file, file, files_of_dir_eq (fs.dir_set_ne isDir _)]

theorem file_write (fs : FileSystem δ χ) (path : Path δ) (exists' : fs.has path.dir)
    (content : χ) : (fs.write path content).file = Function.update fs.file path (some content) := by
  funext other
  by_cases same : other = path
  · subst same
    rw [file, files_write exists', Function.update_self, Finmap.lookup_insert]
  · rw [Function.update_of_ne same]
    by_cases sameDir : other.dir = path.dir
    · have ne : other.name ≠ path.name := by
        intro sameName
        cases other
        cases path
        exact same (by simp_all)
      rw [file, sameDir, files_write exists', Finmap.lookup_insert_of_ne _ ne, file, sameDir]
    · rw [file, fs.files_write_ne sameDir, file]

theorem file_remove (fs : FileSystem δ χ) (path : Path δ) :
    (fs.remove path).file = Function.update fs.file path none := by
  funext other
  by_cases same : other = path
  · subst same
    rw [file, files_remove, Function.update_self, Finmap.lookup_erase]
  · rw [Function.update_of_ne same]
    by_cases sameDir : other.dir = path.dir
    · have ne : other.name ≠ path.name := by
        intro sameName
        cases other
        cases path
        exact same (by simp_all)
      rw [file, sameDir, files_remove, Finmap.lookup_erase_ne ne, file, sameDir]
    · rw [file, fs.files_remove_ne sameDir, file]

theorem view_write (fs : FileSystem δ χ) (path : Path δ) (exists' : fs.has path.dir)
    (content : χ) : (fs.write path content).view path.dir =
      Function.update (fs.view path.dir) path.name (some content) := by
  funext name
  rw [view, file, files_write exists']
  by_cases same : name = path.name
  · subst same
    simp
  · rw [Finmap.lookup_insert_of_ne _ same, Function.update_of_ne same]
    rfl

theorem view_remove (fs : FileSystem δ χ) (path : Path δ) :
    (fs.remove path).view path.dir = Function.update (fs.view path.dir) path.name none := by
  funext name
  rw [view, file, files_remove]
  by_cases same : name = path.name
  · subst same
    simp
  · rw [Finmap.lookup_erase_ne same, Function.update_of_ne same]
    rfl

end FileSystem

/-! ## Calls -/

/-- The calls on files and directories, as the kernel and the C++ library offer them. -/
inductive FsCall (δ : Type) where
  | stat (dir : δ)
  | mkdir (dir : δ) (mode : Nat)
  | chmod (dir : δ) (mode : Nat)
  | readDir (dir : δ)
  | access (path : Path δ)
  | read (path : Path δ)
  | unlink (path : Path δ)
  | link (source target : Path δ)
  | rename (source target : Path δ)
  /-- `std::filesystem::remove_all` on a file: no error when there is none -/
  | removeFile (path : Path δ)
  /-- `std::filesystem::remove_all` on a directory -/
  | removeDir (dir : δ)
  | renameDir (source target : δ)
  /-- copy a directory to one that does not exist yet -/
  | copyDir (source target : δ)
  deriving DecidableEq

namespace FsCall

variable {δ χ : Type}

@[reducible] def Reply (χ : Type) : FsCall δ → Type
  | .stat _ => Option Nat
  | .readDir _ => List String
  | .access _ => Bool
  | .read _ => χ
  | _ => Unit

/-- The texts of `strerror`. -/
def noSuchFile : String := "No such file or directory"
def fileExists : String := "File exists"
def notEmpty : String := "Directory not empty"

variable [DecidableEq δ] [Nested δ]

/-- What a call does; a directory is listed in increasing order of the names. -/
def effect : (request : FsCall δ) → FileSystem δ χ →
    Except String (request.Reply χ) × FileSystem δ χ
  | .stat d, fs => (.ok ((fs.dir d).map Dir.mode), fs)
  | .mkdir d mode, fs =>
    if fs.has d then (.error fileExists, fs) else (.ok (), fs.set d (some ⟨mode, ∅⟩))
  | .chmod d mode, fs => match fs.dir d with
    | none => (.error noSuchFile, fs)
    | some dir => (.ok (), fs.set d (some { dir with mode := mode }))
  | .readDir d, fs => match fs.dir d with
    | none => (.error noSuchFile, fs)
    | some dir => (.ok dir.files.names, fs)
  | .access path, fs => (.ok (fs.file path).isSome, fs)
  | .read path, fs => match fs.file path with
    | none => (.error noSuchFile, fs)
    | some content => (.ok content, fs)
  | .unlink path, fs => match fs.file path with
    | none => (.error noSuchFile, fs)
    | some _ => (.ok (), fs.remove path)
  | .link source target, fs => match fs.file source with
    | none => (.error noSuchFile, fs)
    | some content =>
      if (fs.file target).isSome then (.error fileExists, fs)
      else if fs.has target.dir then (.ok (), fs.write target content)
      else (.error noSuchFile, fs)
  | .rename source target, fs => match fs.file source with
    | none => (.error noSuchFile, fs)
    | some content =>
      if fs.has target.dir then (.ok (), (fs.remove source).write target content)
      else (.error noSuchFile, fs)
  | .removeFile path, fs => (.ok (), fs.remove path)
  | .removeDir d, fs => (.ok (), ⟨fun x => if Nested.inside x d then none else fs.dir x⟩)
  | .renameDir source target, fs => match fs.dir source with
    | none => (.error noSuchFile, fs)
    | some dir =>
      if (fs.files target).names = [] then (.ok (), (fs.set source none).set target (some dir))
      else (.error notEmpty, fs)
  | .copyDir source target, fs => match fs.dir source with
    | none => (.error noSuchFile, fs)
    | some dir =>
      if fs.has target then (.error fileExists, fs) else (.ok (), fs.set target (some dir))

/-- The answers the kernel may give: those of `effect`, in any order of a listing. -/
def Answers : (request : FsCall δ) → FileSystem δ χ → Except String (request.Reply χ) →
    FileSystem δ χ → Prop
  | .readDir d, fs, reply, fs' => fs' = fs ∧ match fs.dir d with
    | none => reply = .error noSuchFile
    | some dir => ∃ listing, dir.files.IsListing listing ∧ reply = .ok listing
  | request, fs, reply, fs' => (reply, fs') = effect request fs

theorem answers_effect (request : FsCall δ) (fs : FileSystem δ χ) :
    request.Answers fs (request.effect fs).1 (request.effect fs).2 := by
  cases request with
  | readDir d =>
    cases found : fs.dir d with
    | none => simp [Answers, effect, found]
    | some dir =>
      simp only [Answers, effect, found]
      exact ⟨trivial, _, List.Perm.refl _, rfl⟩
  | _ => rfl

/-- The directories a call may change. -/
def changes : FsCall δ → δ → Bool
  | .mkdir d _, x | .chmod d _, x => x = d
  | .unlink path, x | .link _ path, x | .removeFile path, x => x = path.dir
  | .rename source target, x => x = source.dir || x = target.dir
  | .removeDir d, x => Nested.inside x d
  | .renameDir source target, x => x = source || x = target
  | .copyDir _ target, x => x = target
  | _, _ => false

/-- A call that fails has no effect. -/
theorem effect_of_error {request : FsCall δ} {fs : FileSystem δ χ} {e : String}
    (failed : (request.effect fs).1 = .error e) : (request.effect fs).2 = fs := by
  cases request <;> simp only [effect] at failed ⊢ <;> grind

theorem effect_frame {request : FsCall δ} {fs : FileSystem δ χ} {d : δ}
    (unchanged : request.changes d = false) : (request.effect fs).2.dir d = fs.dir d := by
  cases request with
  | stat | readDir | access | read =>
    simp only [effect]
    try split
    all_goals rfl
  | mkdir target mode =>
    have ne : d ≠ target := by simpa [changes] using unchanged
    simp only [effect]
    split
    · rfl
    · exact fs.dir_set_ne ne _
  | chmod target mode =>
    have ne : d ≠ target := by simpa [changes] using unchanged
    simp only [effect]
    split
    · rfl
    · exact fs.dir_set_ne ne _
  | unlink path =>
    have ne : d ≠ path.dir := by simpa [changes] using unchanged
    simp only [effect]
    split
    · rfl
    · exact fs.dir_update_ne ne _
  | link source target =>
    have ne : d ≠ target.dir := by simpa [changes] using unchanged
    simp only [effect]
    split
    · rfl
    · split
      · rfl
      · split
        · exact fs.dir_update_ne ne _
        · rfl
  | rename source target =>
    have ne : d ≠ source.dir ∧ d ≠ target.dir := by simpa [changes] using unchanged
    simp only [effect]
    split
    · rfl
    · split
      · exact ((fs.remove source).dir_update_ne ne.2 _).trans (fs.dir_update_ne ne.1 _)
      · rfl
  | removeFile path =>
    have ne : d ≠ path.dir := by simpa [changes] using unchanged
    exact fs.dir_update_ne ne _
  | removeDir target =>
    have outside : Nested.inside d target = false := by simpa [changes] using unchanged
    simp [effect, outside]
  | renameDir source target =>
    have ne : d ≠ source ∧ d ≠ target := by simpa [changes] using unchanged
    simp only [effect]
    split
    · rfl
    · split
      · exact ((fs.set source none).dir_set_ne ne.2 _).trans (fs.dir_set_ne ne.1 _)
      · rfl
  | copyDir source target =>
    have ne : d ≠ target := by simpa [changes] using unchanged
    simp only [effect]
    split
    · rfl
    · split
      · rfl
      · exact fs.dir_set_ne ne _

/-- A directory the call does not change stays what it is. -/
theorem Answers.frame {request : FsCall δ} {fs fs' : FileSystem δ χ}
    {reply : Except String (request.Reply χ)} (answer : request.Answers fs reply fs') {d : δ}
    (unchanged : request.changes d = false) : fs'.dir d = fs.dir d := by
  cases request with
  | readDir => rw [answer.1]
  | _ => exact (congrArg (fun outcome => outcome.2.dir d) answer).trans (effect_frame unchanged)

end FsCall

end Storage

import Apexd.Process.Execution
import Apexd.Storage.FileTree
import Apexd.Text.Decimal

/-! # Moving a directory

`MoveDir` of `apexd_utils.h`, which moves the sessions to their new directory: each entry is copied
recursively and then removed.
-/

namespace Apexd

open Process Storage

/-- What `stat` finds. -/
inductive FileKind where
  | directory
  | other
  deriving DecidableEq

/-- The directory that is moved from and the one that is moved to. -/
structure MoveState (χ : Type) where
  sourceKind : Option FileKind
  targetKind : Option FileKind
  source : FileTree χ
  target : FileTree χ

inductive MoveCall where
  /-- `stat` of the target -/
  | statTarget
  /-- iterate over the entries of the source -/
  | list
  /-- iterate over what is at a path of the source and below it -/
  | walk (path : List String)
  /-- copy the directory or the regular file at a path, without what is in it -/
  | copyEntry (path : List String)
  /-- remove the empty directory or the regular file at a path of the source -/
  | removeEntry (path : List String)

@[reducible] def MoveCall.Reply : MoveCall → Type
  | .statTarget => FileKind
  | .list => List String
  | .walk _ => List (List String)
  | _ => Unit

@[reducible] def moves : Interface where
  Call := MoveCall
  Reply := MoveCall.Reply

namespace MoveState

variable {χ : Type}

/-- The directory in which an entry is created. -/
def hasParent (tree : FileTree χ) (path : List String) : Bool :=
  path.dropLast = [] || tree.lookup path.dropLast matches some .dir

/-- `copy_file` without an option: an existing file is an error. -/
def copyFile (state : MoveState χ) (path : List String) (content : χ) :
    Except String Unit × MoveState χ :=
  match state.target.lookup path with
  | some _ => (.error "File exists", state)
  | none =>
    if hasParent state.target path then
      (.ok (), { state with target := state.target.insert path (.file content) })
    else (.error "No such file or directory", state)

/-- One step of `std::filesystem::copy` with `copy_options::recursive`. -/
def copyEntry (state : MoveState χ) (path : List String) : Except String Unit × MoveState χ :=
  match state.source.lookup path with
  | none => (.error "No such file or directory", state)
  | some .dir => match state.target.lookup path with
    | some .dir => (.ok (), state)
    | some (.file _) => (.error "Is a directory", state)
    | none =>
      if hasParent state.target path then
        (.ok (), { state with target := state.target.insert path .dir })
      else (.error "No such file or directory", state)
  | some (.file content) => match state.target.lookup path with
    -- a file is copied into a directory of its name
    | some .dir => state.copyFile (path ++ path.getLast?.toList) content
    | _ => state.copyFile path content

def removeEntry (state : MoveState χ) (path : List String) : Except String Unit × MoveState χ :=
  if (state.source.walk path).any (· ≠ path) then (.error "Directory not empty", state)
  else (.ok (), { state with source := state.source.erase path })

end MoveState

namespace MoveCall

variable {χ : Type}

def effect : Effect moves String (MoveState χ)
  | .statTarget, state => match state.targetKind with
    | some kind => (.ok kind, state)
    | none => (.error "No such file or directory", state)
  | .list, state => match state.sourceKind with
    | some .directory => (.ok state.source.listing, state)
    | some .other => (.error "Not a directory", state)
    | none => (.error "No such file or directory", state)
  | .walk path, state => (.ok (state.source.walk path), state)
  | .copyEntry path, state => state.copyEntry path
  | .removeEntry path, state => state.removeEntry path

/-- The answers that may be given: those of `effect`, in any order of the entries. -/
def trees : Semantics moves String (MoveState χ)
  | .list, state, reply, state' => state' = state ∧ match state.sourceKind with
    | some .directory => ∃ names, state.source.IsListing names ∧ reply = .ok names
    | _ => reply = (effect .list state).1
  | .walk path, state, reply, state' => state' = state ∧
    ∃ paths, state.source.IsWalk path paths ∧ reply = .ok paths
  | request, state, reply, state' => (reply, state') = effect request state

def handler : Handler moves String (MoveState χ) :=
  fun request state => some (effect request state)

theorem handler_sound : (handler (χ := χ)).Sound trees := by
  intro request state reply state' handled
  cases request with
  | list =>
    cases kind : state.sourceKind with
    | none =>
      simp only [handler, effect, kind, Option.some.injEq, Prod.mk.injEq] at handled
      simp only [trees, effect, kind]
      exact ⟨handled.2.symm, handled.1.symm⟩
    | some found =>
      cases found with
      | directory =>
        simp only [handler, effect, kind, Option.some.injEq, Prod.mk.injEq] at handled
        simp only [trees, kind]
        exact ⟨handled.2.symm, _, state.source.isListing_listing, handled.1.symm⟩
      | other =>
        simp only [handler, effect, kind, Option.some.injEq, Prod.mk.injEq] at handled
        simp only [trees, effect, kind]
        exact ⟨handled.2.symm, handled.1.symm⟩
  | walk path =>
    simp only [handler, effect, Option.some.injEq, Prod.mk.injEq] at handled
    exact ⟨handled.2.symm, _, state.source.isWalk_walk path, handled.1.symm⟩
  | _ => exact (Option.some.inj handled).symm

end MoveCall

def moveCall (request : MoveCall) : Program moves String request.Reply :=
  .call request .done

/-- `std::filesystem::copy` with `copy_options::recursive`. -/
def copyRecursive (path : List String) : Program moves String Unit := do
  let paths ← moveCall (.walk path)
  paths.forM fun entry => moveCall (.copyEntry entry)

/-- `std::filesystem::remove_all`: what is in a directory before the directory. -/
def removeAll (path : List String) : Program moves String Unit := do
  let paths ← moveCall (.walk path)
  paths.reverse.forM fun entry => moveCall (.removeEntry entry)

/-- The body of the loop of `MoveDir`; the errors quote the paths. -/
def moveEntry (fromDir toDir name : String) : Program moves String Unit := do
  (copyRecursive [name]).mapError fun e =>
    "Failed to copy " ++ Text.quoted (fromDir ++ "/" ++ name) ++ " to " ++
      Text.quoted (toDir ++ "/" ++ name) ++ " : " ++ e
  (removeAll [name]).mapError fun e =>
    "Failed to delete " ++ Text.quoted (fromDir ++ "/" ++ name) ++ " : " ++ e

def moveDir (fromDir toDir : String) : Program moves String Unit := do
  let kind ← (moveCall .statTarget).mapError fun e => "Failed to stat " ++ toDir ++ ": " ++ e
  if kind ≠ .directory then .throw (toDir ++ " is not a directory")
  else
    let names ← (moveCall .list).mapError fun e => "Can't read " ++ fromDir ++ " : " ++ e
    names.forM fun name => moveEntry fromDir toDir name

/-- `ApexSessionManager::MigrateFromOldSessionsDir` -/
def migrateFromOldSessionsDir (sessionsBaseDir oldSessionsBaseDir : String) :
    Program moves String Unit :=
  if oldSessionsBaseDir = sessionsBaseDir then pure ()
  else moveDir oldSessionsBaseDir sessionsBaseDir

end Apexd

import Apexd.Model.World

/-! # SELinux labels

The device together with the label of every file.  A new file has any label, a rename or a link
keeps that of the source, and restoring the labels gives what the policy says.
-/

namespace Apexd

open Process Storage

structure LabelledWorld where
  world : World
  /-- the labels of the files that exist -/
  labels : FilePath → String

namespace LabelledWorld

/-- `GetfileconPath` -/
def fileContext (s : LabelledWorld) (path : FilePath) : Except String String :=
  if (s.world.fs.file path).isSome then .ok (s.labels path)
  else .error ("Failed to getfilecon " ++ pathText path ++ ": " ++ FsCall.noSuchFile)

end LabelledWorld

/-- The labels after a call that succeeded, where `policy` labels what is new or restored. -/
def relabel (policy labels : FilePath → String) : Call → FilePath → String
  | .fs (.link source target) | .fs (.rename source target) =>
    Function.update labels target (labels source)
  | .fs (.renameDir source target) => fun path =>
    if path.dir = target then labels ⟨source, path.name⟩ else labels path
  | .fs (.copyDir _ target) => fun path => if path.dir = target then policy path else labels path
  | .createFile path _ => Function.update labels path (policy path)
  | .restorecon (.file path) => Function.update labels path (policy path)
  | .restorecon (.dir d) => fun path =>
    if Nested.inside path.dir d then policy path else labels path
  | _ => labels

/-- The labels after a call; one that failed left them as they were. -/
def labelsAfter {α : Type} (policy labels : FilePath → String) (request : Call) :
    Except String α → FilePath → String
  | .ok _ => relabel policy labels request
  | .error _ => labels

/-- The semantics of apexd's calls, with the labels. -/
def labelled : Semantics apexd String LabelledWorld
  | .outside (.getfileconPath path), s, reply, s' => reply = s.fileContext path ∧ s' = s
  | request, s, reply, s' => device request s.world reply s'.world ∧
    ∃ policy, s'.labels = labelsAfter policy s.labels request reply

/-- One answer for every call, with one label for every new file. -/
def labelledHandler (label : String) : Handler apexd String LabelledWorld
  | .outside (.getfileconPath path), s => some (s.fileContext path, s)
  | request, s => (deviceHandler request s.world).map fun (reply, w') =>
    (reply, ⟨w', labelsAfter (fun _ => label) s.labels request reply⟩)

/-- Apart from the context of a file, every call is one of the device. -/
theorem labelled_of_ne_getfileconPath {request : Call}
    (other : ∀ path, request ≠ .outside (.getfileconPath path)) {s s' : LabelledWorld}
    {reply : Except String (apexd.Reply request)} :
    labelled request s reply s' ↔ device request s.world reply s'.world ∧
      ∃ policy, s'.labels = labelsAfter policy s.labels request reply := by
  unfold labelled
  split
  · exact absurd rfl (other _)
  · rfl

theorem labelledHandler_sound (label : String) : (labelledHandler label).Sound labelled := by
  intro request s reply s' computed
  unfold labelledHandler at computed
  split at computed
  · cases computed
    exact ⟨rfl, rfl⟩
  · rename_i request s other
    obtain ⟨⟨reply, w'⟩, answered, same⟩ := Option.map_eq_some_iff.mp computed
    cases same
    exact (labelled_of_ne_getfileconPath fun path is => other path is).mpr
      ⟨deviceHandler_sound answered, _, rfl⟩

end Apexd

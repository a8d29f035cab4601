import Mathlib.Logic.Function.Basic

namespace Annex

/-! Files of texts, with writes that may fail. -/

/-- What stands at a path. A file that cannot be read may still be seen to exist. -/
inductive FileEntry where
  | absent
  | text (contents : String)
  | unreadable (seen : Bool) (error : String)
deriving DecidableEq, Repr

/-- A write that fails, with what it leaves at the path. -/
structure WriteFault where
  error : String
  leaves : FileEntry
deriving DecidableEq, Repr

inductive ReadError where
  | notFound
  | other (error : String)
deriving DecidableEq, Repr

structure FileSystem where
  files : String → FileEntry
  /-- What becomes of the next writes. All after them succeed. -/
  faults : List (Option WriteFault)

namespace FileSystem

def readToString (system : FileSystem) (path : String) : Except ReadError String :=
  match system.files path with
  | .absent => .error .notFound
  | .text contents => .ok contents
  | .unreadable _ error => .error (.other error)

/-- `Path::exists`. -/
def isPresent (system : FileSystem) (path : String) : Bool :=
  match system.files path with
  | .absent => false
  | .text _ => true
  | .unreadable seen _ => seen

def write (system : FileSystem) (path contents : String) : Except String Unit × FileSystem :=
  match system.faults with
  | some fault :: rest =>
      (.error fault.error,
        { files := Function.update system.files path fault.leaves, faults := rest })
  | none :: rest =>
      (.ok (), { files := Function.update system.files path (.text contents), faults := rest })
  | [] => (.ok (), { files := Function.update system.files path (.text contents), faults := [] })

/-- The file system with one file in it, where every write succeeds. -/
def holding (path contents : String) : FileSystem where
  files := Function.update (fun _ => .absent) path (.text contents)
  faults := []

variable {system : FileSystem} {path contents : String}

theorem files_of_readToString (read : system.readToString path = .ok contents) :
    system.files path = .text contents := by
  cases entry : system.files path <;> simp_all [readToString]

theorem isPresent_of_readToString (read : system.readToString path = .ok contents) :
    system.isPresent path = true := by
  simp [isPresent, files_of_readToString read]

/-- A text is read back from where it was written. -/
theorem readToString_write (written : (system.write path contents).1 = .ok ()) :
    (system.write path contents).2.readToString path = .ok contents := by
  match faults : system.faults with
  | some fault :: rest => simp [write, faults] at written
  | none :: rest => simp [write, faults, readToString]
  | [] => simp [write, faults, readToString]

end FileSystem

end Annex

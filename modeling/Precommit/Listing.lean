import Precommit.Classifier
import Precommit.Directory

/-!
# Listing the files to audit

The files come from the version control, which prints one path on each line, or from
the directory itself. The directory is walked in the order of the names; excluded
directories are left out, and below the greatest depth nothing is visited.
-/

namespace Precommit

/-- Where the list of files comes from. -/
inductive FileSource
  /-- The files staged for the commit. -/
  | staged
  /-- All tracked files. -/
  | all
  /-- One path as given. -/
  | file (path : String)
deriving DecidableEq, Repr

/-- How a command of the version control ended. -/
structure CommandOutcome where
  status : Nat
  output : Bytes
deriving DecidableEq, Repr

/-- The outcomes of the two listing commands; there are none if there is no version control. -/
structure VersionControl where
  staged : Option CommandOutcome := none
  tracked : Option CommandOutcome := none
deriving DecidableEq, Repr

namespace CommandOutcome

/-- The paths printed by a command that succeeded. -/
def paths? (outcome : CommandOutcome) : Option (List String) :=
  if outcome.status = 0 then
    some
      (((Text.lines (Utf8.decodeLossy outcome.output)).map Text.trim).filter (!·.isEmpty)
        |>.map String.ofList)
  else none

end CommandOutcome

namespace Directory

/-- The greatest number of directories above a file that the walk visits. -/
def maxDepth : Nat := 64

/-- The bytes that a path may still have behind the `./` at which the walk starts. -/
def walkRoom : Nat := Path.maxBytes - 2

/-- Put what the entries of a directory contribute into the order of their names. -/
def inOrder (found : List (String × List (List String))) : List (List String) :=
  (found.mergeSort fun left right => decide (left.1 ≤ right.1)).flatMap Prod.snd

/--
For each entry of a directory, the files to scan in it, as lists of names; `depth`
directories may still be entered.
-/
def scannableEntries (classifier : Classifier) (depth : Nat) :
    Directory → List (String × List (List String))
  | .empty => []
  | .file name _ rest =>
      let found := if classifier.isScannableExtension name then [[name]] else []
      (name, found) :: scannableEntries classifier depth rest
  | .folder name inner rest =>
      let found :=
        if classifier.isExcludedDir name || depth = 0 then []
        else (inOrder (scannableEntries classifier (depth - 1) inner)).map (name :: ·)
      (name, found) :: scannableEntries classifier depth rest

/-- The files to scan in a directory, as normalized paths. -/
def scannableFiles (classifier : Classifier) (directory : Directory) : List String :=
  (inOrder (scannableEntries classifier maxDepth directory)).map fun names =>
    Path.normalize (String.intercalate "/" names)

end Directory

namespace FileSource

/--
The listed paths. Without an answer from the version control there are no staged files,
and the tracked files are taken to be those found in the directory, as far as the walk
can follow their paths.
-/
def paths (source : FileSource) (classifier : Classifier) (versionControl : VersionControl)
    (directory : Directory) : List String :=
  match source with
  | .staged => (versionControl.staged.bind (·.paths?)).getD []
  | .all =>
      (versionControl.tracked.bind (·.paths?)).getD
        ((directory.within Directory.walkRoom).scannableFiles classifier)
  | .file path => [path]

end FileSource

end Precommit

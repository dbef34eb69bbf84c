import Precommit.Glob.Parser
import Precommit.Path
import Precommit.Policy.Basic
import Precommit.SetupError

/-!
# Classifying paths

A classifier answers which files are scanned and which checks a file is exempt from.
It is made from the scan section of a policy, whose globs have to be readable.
-/

namespace Precommit

/-- The scan section of a policy with its globs read. -/
structure Classifier where
  scan : ScanPolicy
  secretExempt : List Glob

namespace Classifier

def readGlob (glob : String) : Except SetupError Glob :=
  match Glob.parse? glob.toList with
  | some read => .ok read
  | none => .error (.invalidGlob glob)

/--
The classifier of a policy. The first unreadable glob is reported; if only the automata
for the globs cannot be built, all globs are. The size of the automata is limited unless
the limit is `none`.
-/
def ofPolicy (scan : ScanPolicy) (limit : Option Nat := some Pattern.sizeLimit) :
    Except SetupError Classifier := do
  let globs ← scan.secretExempt.mapM readGlob
  if Glob.areBuildable limit globs then pure { scan := scan, secretExempt := globs }
  else throw (.invalidGlob (String.intercalate ", " scan.secretExempt))

/-- Policy documents quote forbidden phrases as rules. -/
def isGovernanceFile (classifier : Classifier) (path : String) : Bool :=
  (Path.baseName? path).any classifier.scan.governanceFiles.contains

def isScannableExtension (classifier : Classifier) (path : String) : Bool :=
  (Path.extension? path).any classifier.scan.extensions.contains

/-- Whether a directory of this name is left out. -/
def isExcludedDir (classifier : Classifier) (name : String) : Bool :=
  classifier.scan.excludedDirs.contains name

/-- Whether some component of the path names a directory that is left out. -/
def isExcludedPath (classifier : Classifier) (path : String) : Bool :=
  (Path.names path).any classifier.isExcludedDir

/-- Whether the file is scanned at all. -/
def isScannable (classifier : Classifier) (path : String) : Bool :=
  classifier.isScannableExtension path && !classifier.isExcludedPath path

/-- Source files are subject to the code checks. -/
def isSourceFile (classifier : Classifier) (path : String) : Bool :=
  Path.extension? path == some classifier.scan.sourceExtension

/-- Whether the base name has the ending of a test file. -/
def isTestFile (classifier : Classifier) (path : String) : Bool :=
  (Path.baseName? path).any fun name =>
    classifier.scan.testSuffixes.any fun suffix => suffix.toList.isSuffixOf name.toList

def isSecretExempt (classifier : Classifier) (path : String) : Bool :=
  classifier.secretExempt.any fun glob => glob.isMatch (Path.normalize path).toList

end Classifier

end Precommit

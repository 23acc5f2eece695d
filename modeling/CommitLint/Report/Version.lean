import CommitLint.Report.Item

/-!
# Versions

The version of this program beside the one that the package records know, and
a warning when they differ.
-/

namespace CommitLint.Report

/-- The version of this program. -/
def currentVersion : Text := "0.3.0".toList

/-- The recorded version in words; there may be no record. -/
def installedVersion (recorded : Option Text) : Text := recorded.getD "unknown".toList

/-- What is shown about the versions and about where the program is. -/
def versionPieces (recorded : Option Text) (location : Text) : List Piece :=
  let installed := installedVersion recorded
  [⟨"git-smart-lint\n".toList, .boldBlue⟩,
    ⟨"Current version: ".toList ++ currentVersion ++ ['\n'], .green⟩,
    ⟨"Installed version: ".toList ++ installed ++ ['\n'], .cyan⟩,
    ⟨"Installation path: ".toList ++ location ++ ['\n'], .yellow⟩] ++
  if currentVersion = installed then []
  else
    [⟨"\nVersion mismatch detected!\n".toList, .red⟩,
      ⟨"Consider reinstalling: pip install -e .\n".toList, .yellow⟩]

/-- The versions on the console. -/
def versions (recorded : Option Text) (location : Text) : Item :=
  panelOf "Version Information".toList .blue (versionPieces recorded location)

end CommitLint.Report

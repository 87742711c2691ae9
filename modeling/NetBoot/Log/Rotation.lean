/-
# Rotated log files

A log file with a limit on its size and a number of backups.  An entry that would
bring the file up to its limit first makes the file the first backup; each older
backup becomes the next one, and the oldest is lost.  Without backups, or with a
limit that is not positive, the file only grows.

The size of the file is counted in bytes and the new entry in characters.
-/
import NetBoot.Files
import NetBoot.Text.Utf8

namespace NetBoot

/-- A log file that is rotated. -/
structure RotatedFile where
  path : FilePath
  limit : Int
  backups : Int
  deriving DecidableEq, Repr

namespace RotatedFile

/-- The path of a backup. -/
def backup (file : RotatedFile) (number : Nat) : FilePath :=
  file.path.extended ("." ++ toString number)

/-- Make each backup the next one, beginning with the last. -/
def shift (file : RotatedFile) (files : Files) : Files :=
  (List.range (file.backups.toNat - 1)).reverse.foldl
    (fun files index => files.rename (file.backup (index + 1)) (file.backup (index + 2))) files

/-- Make the file the first backup and begin a new one. -/
def rotate (file : RotatedFile) (files : Files) : Files :=
  if 0 < file.backups then
    ((file.shift files).rename file.path (file.backup 1)).append file.path []
  else files

/-- Would some more characters bring the file up to its limit? -/
def isFull (file : RotatedFile) (files : Files) (more : Nat) : Bool :=
  0 < file.limit && file.limit ≤ ((files.read? file.path).getD []).length + more

/-- Add an entry. -/
def write (file : RotatedFile) (entry : String) (files : Files) : Files :=
  let line := entry ++ "\n"
  let ready := if file.isFull files line.length then file.rotate files else files
  ready.append file.path (Text.Utf8.encode line)

end RotatedFile
end NetBoot

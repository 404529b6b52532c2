import HostAudit.FileTree
import HostAudit.Settings.Reader
import HostAudit.Settings.Writer

/-
This file finds the settings of the program among the files, and writes settings to begin with.
-/

namespace HostAudit

/-- Why there are no settings, or why none are written. -/
inductive SettingsFault where
  | unreadable (path reason : String)
  | malformed
  | alreadyThere (path : String)
deriving DecidableEq, Repr

namespace Settings

/-- The settings of a directory stand in this file. -/
def fileName : String := ".benchlens.toml"

def load (files : FileTree) (path : String) : Except SettingsFault Settings :=
  match files.text path with
  | .error fault => .error (.unreadable path fault.message)
  | .ok text =>
      match read? text with
      | some settings => .ok settings
      | none => .error .malformed

/-- The settings of the file that is named, or else of the working directory, or else of the user.
Without any of these files they are the standard ones. -/
def find (files : FileTree) (ofUser : Option String) (named : Option String) :
    Except SettingsFault Settings :=
  match named with
  | some path => load files path
  | none =>
      match (fileName :: ofUser.toList).find? files.holds with
      | some path => load files path
      | none => .ok .standard

end Settings

end HostAudit

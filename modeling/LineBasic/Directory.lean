import LineBasic.Text

/-!
# Directories

What a path leads to, and a directory held in memory to look paths up in. A
path is a sequence of steps between slashes: `.` and the empty step stay in
place, `..` goes up, and a name goes down. Only a directory can be stepped out
of, so a path through a file leads nowhere. A path may climb out of the
directory; what surrounds it is known to be directories, but by no name, so
there is no way back down.
-/

namespace LineBasic

/-- What a path leads to. -/
inductive Entry
  | missing
  /-- Something is there, but it cannot be read as a file. -/
  | unreadable (reason : String)
  | file (contents : Bytes)

/-- A directory is there but cannot be read as a file. -/
def Entry.directory : Entry := .unreadable "Is a directory (os error 21)"

/-- Files with their contents and directories, by the names on the way there. -/
structure Directory where
  files : List (List Text × Bytes)
  directories : List (List Text)

namespace Directory

/-- The steps of a path. -/
def steps (path : Text) : List Text := path.splitOn '/'

/-- The step stays in place. -/
def isStay (step : Text) : Bool := decide (step = [] ∨ step = ['.'])

/-- The step goes up. -/
def isClimb (step : Text) : Bool := decide (step = ['.', '.'])

/-- The names on the way of a path that never goes up. -/
def names (path : Text) : List Text := (steps path).filter (!isStay ·)

/-- Whether a directory stands at a place, by itself or around something. -/
def isDirectory (d : Directory) (place : List Text) : Bool :=
  place.isEmpty
    || d.directories.any (fun other => place.isPrefixOf other)
    || d.files.any (fun (other, _) => place.isPrefixOf other && place != other)

/-- What stands at a place. -/
def entryAt (d : Directory) (place : List Text) : Entry :=
  match d.files.lookup place with
  | some contents => .file contents
  | none => if d.isDirectory place then .directory else .missing

/-- Where steps lead that start outside the directory: nowhere once one of
them is a name. -/
def outside (steps : List Text) : Entry :=
  if steps.all (fun step => isStay step || isClimb step) then .directory else .missing

/-- Follows steps from a place, which is given last name first. -/
def follow (d : Directory) (place : List Text) : (steps : List Text) → Entry
  | [] => d.entryAt place.reverse
  | step :: later =>
    if !d.isDirectory place.reverse then .missing
    else if isStay step then d.follow place later
    else if isClimb step then
      match place with
      | [] => outside later
      | _ :: above => d.follow above later
    else d.follow (step :: place) later

/-- The most bytes a path may have. Longer ones lead nowhere. -/
def longestPath : Nat := 4095

/-- What a path leads to. The empty path leads nowhere, and a path that starts
with a slash starts outside the directory. -/
def find (d : Directory) (path : Text) : Entry :=
  if longestPath < byteSize path then .missing
  else
    match path with
    | [] => .missing
    | '/' :: rest => outside (steps rest)
    | _ => d.follow [] (steps path)

end Directory

end LineBasic

import PeakSlowness.Failure

set_option autoImplicit false

/-!
The host of a run, as far as paths depend on it, and the home directories that a `~` in front of a path stands
for.
-/

namespace PeakSlowness

open Text (Unencodable)

/-- What a path may depend on: the working directory, the home directory, and those of other users. -/
structure Host where
  cwd : Place
  home : String
  homes : List (String × String)

namespace Host

/-- The home directory of the user that stands behind a `~`; no name stands for the host's own. -/
def homeOf? (host : Host) : List Char → Option String
  | [] => some host.home
  | user => (host.homes.find? fun e => e.1.toList == user).map (·.2)

/-- The home directory that a `~` and a user stand for. The user is looked up by octets. -/
def homeFor (host : Host) (user : List Char) : Except Failure String :=
  match Unencodable.inPath? (FileName.lettersOf user) with
  | some u => .error (.unencodable u)
  | none =>
    if '\x00' ∈ user then .error .nulInPath
    else
      match host.homeOf? user with
      | none => .error .noHome
      | some home => if home.toList.head? = some '~' then .error .noHome else .ok home

end Host

namespace FilePath

/-- The path of a home directory. Slashes at the end do not count; what is empty without them is the root. -/
def ofHome (home : String) : FilePath :=
  let text := (home.toList.reverse.dropWhile (· == '/')).reverse
  .ofString (if text.isEmpty then "/" else String.ofList text)

/-- The user behind the `~` in front of a relative path. -/
def user? (p : FilePath) : Option (List Char) :=
  match p.anchor, p.parts with
  | .relative, first :: _ =>
    match first.toList with
    | '~' :: user => some user
    | _ => none
  | _, _ => none

/-- A path in a home directory, without its first name. -/
def inHome (p : FilePath) (home : String) : FilePath :=
  .ofNames (ofHome home).anchor ((ofHome home).parts ++ p.parts.tail)

/-- The path that a path stands for once its home directory is known. -/
def expanded (p : FilePath) (host : Host) : Except Failure FilePath :=
  match p.user? with
  | none => .ok p
  | some user => (host.homeFor user).map p.inHome

end FilePath

end PeakSlowness

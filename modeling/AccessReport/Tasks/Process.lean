import AccessReport.Tasks.Script
/-!
# Other programs

Finding a program by its name, and running it. A program is a script among the files, or one of
the few of the system that the shell knows as commands.
-/
namespace AccessReport

/-- Files, of which some are programs, and variables. -/
structure Workshop where
  tree : FileTree
  /-- The locations of the programs. -/
  programs : List (List String) := []
  environment : List (String × String) := []

namespace Workshop

open Text

/-- The directories in which programs are looked for. -/
def directories (shop : Workshop) : List String :=
  match shop.environment.lookup "PATH" with
  | some path => (splitAt ':' path.toList).map String.ofList
  | none => ["/bin", "/usr/bin"]

/-- How a program ended: its code, what it printed, and the files afterwards. -/
structure Ended where
  code : Nat
  stdout : String
  tree : FileTree

/-- How a script leaves things. -/
def Ended.ofProgress (progress : Script.Progress) : Ended where
  code := progress.code
  stdout := progress.stdout
  tree := progress.tree

/-- The name of a program of the system. -/
def systemName? (path : String) : Option String :=
  ["true", "false", "echo", "test", "sh"].find? fun name =>
    path = "/bin/" ++ name || path = "/usr/bin/" ++ name

/-- Runs a program of the system: the shell with a script in its arguments, or a command that the
shell has too. -/
def runSystem (shop : Workshop) (name : String) (arguments : List String) : Ended :=
  match name, arguments with
  | "sh", "-c" :: text :: rest => .ofProgress (Script.ofText text (rest.drop 1) shop.tree)
  | "sh", _ => { code := 0, stdout := "", tree := shop.tree }
  | name, arguments =>
    .ofProgress (Script.command { tree := shop.tree } (name :: arguments) none)

/-- Runs the program at a path. -/
def runAt (shop : Workshop) (path : String) (arguments : List String) : Except FileFault Ended :=
  match systemName? path with
  | some name => .ok (shop.runSystem name arguments)
  | none => do
    let location ← shop.tree.locate path
    let text ← match shop.tree.read path with
      | .ok text => pure text
      | .error .isDirectory => throw .denied
      | .error fault => throw fault
    if !shop.programs.contains location then throw .denied
    if ['#', '!'].isPrefixOf text.toList then
      pure (.ofProgress (Script.ofText text arguments shop.tree))
    else throw (.ofCode 8 "Exec format error")

/-- Runs the first program of a name that the directories hold. A file that is no program is
passed over, and only counts if there is nothing else. -/
def runIn (shop : Workshop) (name : String) (arguments : List String) (fault : FileFault) :
    List String → Except FileFault Ended
  | [] => .error fault
  | directory :: rest =>
    let directory := if directory.isEmpty then "." else directory
    match shop.runAt (Path.join directory name) arguments with
    | .error .denied => runIn shop name arguments .denied rest
    | .error .notFound | .error .notDirectory => runIn shop name arguments fault rest
    | ended => ended

/-- Runs a program by its name, or by its path if there is a slash in it. -/
def run (shop : Workshop) (name : String) (arguments : List String) : Except FileFault Ended :=
  if (name :: arguments).any (·.toList.contains '\x00') then .error .invalidName
  else if name.toList.contains '/' then shop.runAt name arguments
  else if name.isEmpty then .error .notFound
  else shop.runIn name arguments .notFound shop.directories

end Workshop
end AccessReport

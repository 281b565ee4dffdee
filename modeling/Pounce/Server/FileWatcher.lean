/-
# The file watcher

In development mode a thread looks at the watched directories again and again, and compares what it
sees with what it saw before. A file counts if no part of its path is excluded and its suffix is one
of the watched ones; a change is any file that is new, gone, or has another time of modification.
-/

import Pounce.Math.Dict

namespace Pounce

open Pounce.Math

/-- The files below the watched directories, by the parts of their paths, and their `st_mtime`. -/
abbrev WatchedFiles (Stamp : Type) := Dict (List String) Stamp

/-- `_EXCLUDE_DIRS` -/
def excludeDirs : List String :=
  ["__pycache__", ".git", ".hg", ".svn", "node_modules", ".venv", "venv", ".env", "env", ".tox",
    ".nox", ".mypy_cache", ".ruff_cache", ".pytest_cache", "dist", "build", ".eggs"]

/-- `_WATCH_EXTENSIONS` -/
def watchExtensions : List String :=
  [".py", ".pyi", ".yaml", ".yml", ".toml", ".json", ".cfg", ".ini", ".md", ".html", ".css", ".js",
    ".svg"]

/-- The suffix of a file name: its last dot and what follows, unless there are only dots before. -/
def suffix (name : String) : String :=
  let backwards := name.toList.reverse
  match backwards.dropWhile (· ≠ '.') with
  | [] => ""
  | dot :: stem =>
      if stem.all (· = '.') then "" else String.ofList (dot :: (backwards.takeWhile (· ≠ '.')).reverse)

/-- `_should_watch`: no part may be excluded, not even above the watched directory. -/
def shouldWatch (extensions path : List String) : Bool :=
  path.all (· ∉ excludeDirs) && suffix (path.getLastD "") ∈ extensions

section

variable {Stamp : Type}

/-- `_snapshot` -/
def watchedSnapshot (extensions : List String) (files : WatchedFiles Stamp) : WatchedFiles Stamp :=
  files.filter fun entry => shouldWatch extensions entry.1

variable [DecidableEq Stamp]

/-- `detect_changes`, from the snapshot before and the new one. -/
def detectChanges (current previous : WatchedFiles Stamp) : List (List String) :=
  (current.entries.filter fun entry => previous.get entry.1 ≠ some entry.2).map Prod.fst ++
    previous.keys.filter fun path => (current.get path).isNone

/-- The extensions that are watched, with those of `reload_include`. -/
def watchedExtensions (reloadInclude : List String) : List String := watchExtensions ++ reloadInclude

end

end Pounce

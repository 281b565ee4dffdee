/-
# Files of a mount

`StaticFiles` looks for the file of a URL path under the first mount that matches. The real
path below the directory of the mount has to stay in it and may not be hidden. What is found
there may be a directory, whose index file is then looked for, and in place of a file a
precompressed variant of it may be served.

The model is over any tree. The text of a path is a list of characters. Which codings are
acceptable is given, in the order of the server. The time of a file is a floating point number,
and is taken for the rational number that it is. Where the links on a path run in a circle the
path counts as not resolved; the library goes on as if one of them were none.

The checks are made on the real path, in which no link is left, before the index file is
added, and a variant is checked once more. So the test for a link of the file itself does not
see the links on the way, and nothing looks at what an index file is. A file is confined to the
mount exactly if neither of these lets it out.
-/

import Mathlib.Algebra.Order.Ring.Rat
import Mathlib.Data.Rat.Floor
import Pounce.Math.FileTree

namespace Pounce.Static

open Pounce.Math

/-! ## Paths -/

/-- The text of a path, or of a name in it. -/
abbrev Text : Type := List Char

/-- The text between the slashes. -/
def splitSlash : Text → List Text
  | [] => [[]]
  | char :: text =>
      if char = '/' then [] :: splitSlash text
      else
        match splitSlash text with
        | [] => [[char]]
        | first :: rest => (char :: first) :: rest

/-- Put a slash between the texts. -/
def joinSlash : List Text → Text
  | [] => []
  | [text] => text
  | text :: rest => text ++ '/' :: joinSlash rest

/-- The slashes a normal path begins with: none, one or, if there are two of them, two. -/
def initialSlashes (path : Text) : ℕ :=
  match path.takeWhile (· = '/') with
  | [] => 0
  | [_, _] => 2
  | _ => 1

/-- Take a part of a path after the parts that are left of those before it. -/
def normalPart (rooted : Bool) (parts : List Text) (part : Text) : List Text :=
  if part = [] ∨ part = ['.'] then parts
  else if part ≠ ['.', '.'] ∨ (rooted = false ∧ parts = []) ∨ parts.getLast? = some ['.', '.'] then
    parts ++ [part]
  else parts.dropLast

/-- `os.path.normpath`. -/
def normpath (path : Text) : Text :=
  let slashes := initialSlashes path
  let parts := (splitSlash path).foldl (normalPart (slashes ≠ 0)) []
  match List.replicate slashes '/' ++ joinSlash parts with
  | [] => ['.']
  | normal => normal

/-- The steps of a path that is written down. -/
def parseSteps (path : Text) : List (PathStep Text) :=
  ((splitSlash path).filter fun part => part ≠ [] ∧ part ≠ ['.']).map fun part =>
    if part = ['.', '.'] then .up else .into part

/-- `Path.__truediv__`. -/
def joinPath (base : List (PathStep Text)) (path : Text) : List (PathStep Text) :=
  if path.head? = some '/' then parseSteps path else base ++ parseSteps path

/-- Append to the name of a path. -/
def withSuffix (path : List (PathStep Text)) (suffix : Text) : List (PathStep Text) :=
  match path.getLast? with
  | some (.into name) => path.dropLast ++ [.into (name ++ suffix)]
  | _ => path

/-! ## Mounts -/

/-- `StaticMount`, as it has been prepared. -/
structure StaticMount where
  urlPath : Text
  /-- Where its directory really is. -/
  directory : List Text
  precompressed : Bool := true
  followSymlinks : Bool := false
  indexFile : Option Text := some "index.html".toList
  statCache : Bool := false
  statCacheSize : ℕ := 1024
  deriving DecidableEq, Repr

/-- What of a normal path is below a mount. -/
def StaticMount.relative? (mount : StaticMount) (path : Text) : Option Text :=
  if mount.urlPath = ['/'] then
    if path = ['/'] then some []
    else if path.head? = some '/' then some path.tail
    else none
  else if path = mount.urlPath then some []
  else if mount.urlPath ++ ['/'] <+: path then some (path.drop (mount.urlPath.length + 1))
  else none

/-- The name is hidden. -/
def isHidden (name : Text) : Bool := name.head? = some '.' && name ≠ ".well-known".toList

/-- The place is in the mount, and nothing below it is hidden. -/
def StaticMount.admits (mount : StaticMount) (path : List Text) : Bool :=
  mount.directory <+: path && (path.drop mount.directory.length).all (!isHidden ·)

/-! ## Times -/

/-- The exponent of the power of two that is next below the size of a number. -/
def binaryExponent (value : ℚ) : ℤ :=
  let guess : ℤ := (Nat.log2 value.num.natAbs : ℤ) - Nat.log2 value.den
  if (2 : ℚ) ^ guess ≤ |value| then guess else guess - 1

/-- The whole number that is nearest, of two the even one. -/
def nearestInt (value : ℚ) : ℤ :=
  let rest := value - ⌊value⌋
  if rest < 1 / 2 ∨ rest = 1 / 2 ∧ ⌊value⌋ % 2 = 0 then ⌊value⌋ else ⌊value⌋ + 1

/-- The floating point number that is nearest, in the range of those with 53 bits. -/
def nearestFloat (value : ℚ) : ℚ :=
  let unit : ℚ := 2 ^ max (binaryExponent value - 52) (-1074)
  nearestInt (value / unit) * unit

/-- `int` of a floating point number. -/
def truncate (value : ℚ) : ℤ := value.num.tdiv value.den

example : nearestFloat (1699999999999999999 / 10 ^ 9) = 1700000000 ∧
    truncate (nearestFloat (-1 / 2)) = 0 := by
  decide +kernel

/-! ## Files -/

/-- What a file has besides its content. -/
structure FileStat where
  /-- `st_mtime`. -/
  mtime : ℚ
  size : ℕ
  deriving DecidableEq, Repr

/-- A file system, with the links that are followed on a path. -/
structure Disk where
  tree : FileTree Text FileStat
  /-- As many as the kernel follows. -/
  limit : ℕ := 40
  /-- As many as there may be on a path that is resolved. -/
  depth : ℕ := 1000

namespace Disk

variable (disk : Disk)

/-- `Path.resolve`. -/
def resolve (path : List (PathStep Text)) : Option (Walked Text) :=
  disk.tree.realpath disk.depth [] path

/-- `Path.stat`. -/
def stat (path : List (PathStep Text)) : Option (TreeEntry Text FileStat) :=
  disk.tree.stat disk.limit path

/-- `Path.lstat`. -/
def lstat (path : List (PathStep Text)) : Option (TreeEntry Text FileStat) :=
  disk.tree.lstat disk.limit path

end Disk

/-- A content coding variants are stored in. -/
inductive Coding where
  | zstd
  | gzip
  deriving DecidableEq, Repr

/-- The name of a coding. -/
def Coding.name : Coding → Text
  | .zstd => "zstd".toList
  | .gzip => "gzip".toList

/-- What the names of its variants end with. -/
def Coding.suffix : Coding → Text
  | .zstd => ".zst".toList
  | .gzip => ".gz".toList

/-- What a stat tells. -/
def statOf : TreeEntry Text FileStat → Option FileStat
  | .directory stat | .regular stat | .special stat => some stat
  | .symlink _ => none

/-- What a stat tells of a regular file. -/
def regularStat : TreeEntry Text FileStat → Option FileStat
  | .regular stat => some stat
  | _ => none

/-- Hexadecimal digits. -/
def hex (value : ℕ) : Text := Nat.toDigits 16 value

/-- What `hex` gives for a number, without the first two characters. -/
def hexTail (value : ℤ) : Text :=
  if 0 ≤ value then hex value.natAbs else 'x' :: hex value.natAbs

/-- `_generate_etag`. -/
def generateEtag (stat : FileStat) (coding : Option Coding) : Text :=
  "W/\"".toList ++ hexTail (truncate (nearestFloat (stat.mtime * 1000000))) ++
    '-' :: hex stat.size ++
    (match coding with
      | none => []
      | some coding => '-' :: coding.name) ++ ['"']

/-- What `StaticFile` has of the file itself. -/
structure ResolvedFile where
  path : List (PathStep Text)
  size : ℕ
  mtime : ℚ
  etag : Text
  coding : Option Coding
  deriving DecidableEq, Repr

namespace Disk

variable (disk : Disk) (mount : StaticMount)

/-- `_validate_precompressed`. -/
def validatePrecompressed (variant : List (PathStep Text)) : Bool :=
  match disk.resolve variant with
  | none => false
  | some real =>
      mount.admits real.path &&
        !(!mount.followSymlinks && (disk.lstat variant).any (·.isSymlink)) &&
          ((disk.stat (stepsOf real.path)).bind regularStat).isSome

/-- The variant of a file in a coding, if it may be served. -/
def variant? (path : List (PathStep Text)) (original : FileStat) (coding : Coding) :
    Option (List (PathStep Text) × Option Coding) :=
  let variant := withSuffix path coding.suffix
  if (disk.stat variant).isSome ∧ disk.validatePrecompressed mount variant then
    match (disk.stat variant).bind statOf with
    | some stat => if original.mtime ≤ stat.mtime then some (variant, some coding) else none
    | none => none
  else none

/-- `_find_precompressed`. -/
def findPrecompressed (path : List (PathStep Text)) (codings : List Coding)
    (original : FileStat) : List (PathStep Text) × Option Coding :=
  if mount.precompressed then
    (codings.findSome? (disk.variant? mount path original)).getD (path, none)
  else (path, none)

/-- The index file of a directory, and anything else itself. -/
def index (real : List Text) (entry : TreeEntry Text FileStat) :
    Option (List (PathStep Text) × TreeEntry Text FileStat) :=
  match entry with
  | .directory _ =>
      match mount.indexFile.filter fun name => name ≠ [] with
      | none => none
      | some name =>
          let path := joinPath (stepsOf real) name
          (disk.stat path).map fun entry => (path, entry)
  | _ => some (stepsOf real, entry)

/-- Which file is served for what is found, itself or a variant of it. -/
def choose (path : List (PathStep Text)) (entry : TreeEntry Text FileStat)
    (codings : List Coding) : Option ResolvedFile :=
  (regularStat entry).bind fun original =>
    let final := disk.findPrecompressed mount path codings original
    let finalStat := if final.1 = path then some original else (disk.stat final.1).bind statOf
    finalStat.map fun stat =>
      { path := final.1
        size := stat.size
        mtime := original.mtime
        etag := generateEtag stat final.2
        coding := final.2 }

/-- What is asked for below a mount, if it may be served. A directory stands for its index
file. -/
def locate (relative : Text) : Option (List (PathStep Text) × TreeEntry Text FileStat) :=
  if '\x00' ∈ relative then none
  else
    (disk.resolve (joinPath (stepsOf mount.directory) relative)).bind fun real =>
      if mount.admits real.path then
        (disk.lstat (stepsOf real.path)).bind fun link =>
          if link.isSymlink ∧ mount.followSymlinks = false then none
          else (disk.stat (stepsOf real.path)).bind (disk.index mount real.path)
      else none

/-- `_resolve_file_uncached`, for what is below a mount. -/
def resolveIn (relative : Text) (codings : List Coding) : Option ResolvedFile :=
  (disk.locate mount relative).bind fun found => disk.choose mount found.1 found.2 codings

end Disk

/-- The mount of a normal path, and what of it is below. -/
def mountOf (mounts : List StaticMount) (path : Text) : Option (StaticMount × Text) :=
  mounts.findSome? fun mount => (mount.relative? path).map fun relative => (mount, relative)

/-- `_resolve_file_uncached`. -/
def Disk.resolveFileUncached (disk : Disk) (mounts : List StaticMount) (urlPath : Text)
    (codings : List Coding) : Option ResolvedFile :=
  (mountOf mounts (normpath urlPath)).bind fun (mount, relative) =>
    disk.resolveIn mount relative codings

/-! ## What is found -/

namespace Disk

variable {disk : Disk} {mount : StaticMount} {relative : Text} {codings : List Coding}

variable (disk mount codings) in
/-- Either the file itself is served, or a variant that has been checked. -/
theorem findPrecompressed_cases (path : List (PathStep Text)) (original : FileStat) :
    disk.findPrecompressed mount path codings original = (path, none) ∨
      ∃ coding, disk.findPrecompressed mount path codings original =
          (withSuffix path coding.suffix, some coding) ∧
        (disk.stat (withSuffix path coding.suffix)).isSome ∧
          disk.validatePrecompressed mount (withSuffix path coding.suffix) := by
  rw [findPrecompressed]
  split
  case isFalse => exact .inl rfl
  case isTrue =>
    cases hfound : codings.findSome? (disk.variant? mount path original) with
    | none => exact .inl rfl
    | some found =>
        obtain ⟨coding, -, hvariant⟩ := List.exists_of_findSome?_eq_some hfound
        rw [variant?] at hvariant
        split at hvariant
        case isFalse => cases hvariant
        case isTrue hvalid =>
          split at hvariant
          case h_2 => cases hvariant
          case h_1 =>
            obtain ⟨-, hserved⟩ := Option.ite_none_right_eq_some.mp hvariant
            obtain rfl := Option.some.inj hserved
            exact .inr ⟨coding, rfl, hvalid⟩

/-- An index file is what it is found to be. -/
theorem stat_of_index {real : List Text} {entry found : TreeEntry Text FileStat}
    {path : List (PathStep Text)} (hentry : disk.stat (stepsOf real) = some entry)
    (hindex : disk.index mount real entry = some (path, found)) : disk.stat path = some found := by
  rw [index.eq_def] at hindex
  split at hindex
  case h_2 =>
    obtain ⟨rfl, rfl⟩ := Prod.mk.inj (Option.some.inj hindex)
    exact hentry
  case h_1 =>
    split at hindex
    case h_1 => cases hindex
    case h_2 =>
      obtain ⟨there, hthere, heq⟩ := Option.map_eq_some_iff.mp hindex
      obtain ⟨rfl, rfl⟩ := Prod.mk.inj heq
      exact hthere

/-- What may be served was found at the real path of what is asked for. -/
theorem locate_eq_some {path : List (PathStep Text)} {found : TreeEntry Text FileStat}
    (hlocate : disk.locate mount relative = some (path, found)) :
    ∃ real entry, disk.resolve (joinPath (stepsOf mount.directory) relative) = some real ∧
      mount.admits real.path ∧ disk.stat (stepsOf real.path) = some entry ∧
      disk.index mount real.path entry = some (path, found) := by
  rw [locate] at hlocate
  split at hlocate
  case isTrue => cases hlocate
  case isFalse =>
    obtain ⟨real, hreal, hlocate⟩ := Option.bind_eq_some_iff.mp hlocate
    split at hlocate
    case isFalse => cases hlocate
    case isTrue hadmits =>
      obtain ⟨link, -, hlocate⟩ := Option.bind_eq_some_iff.mp hlocate
      split at hlocate
      case isTrue => cases hlocate
      case isFalse =>
        obtain ⟨entry, hentry, hindex⟩ := Option.bind_eq_some_iff.mp hlocate
        exact ⟨real, entry, hreal, hadmits, hentry, hindex⟩

/-- What may be served is what it is found to be. -/
theorem stat_of_locate {path : List (PathStep Text)} {found : TreeEntry Text FileStat}
    (hlocate : disk.locate mount relative = some (path, found)) : disk.stat path = some found := by
  obtain ⟨real, entry, -, -, hentry, hindex⟩ := locate_eq_some hlocate
  exact stat_of_index hentry hindex

/-- A regular file is served, itself or by a variant. -/
theorem choose_eq_some {path : List (PathStep Text)} {entry : TreeEntry Text FileStat}
    {file : ResolvedFile} (hchoose : disk.choose mount path entry codings = some file) :
    ∃ original stat, entry = .regular original ∧
      (if (disk.findPrecompressed mount path codings original).1 = path then some original
        else (disk.stat (disk.findPrecompressed mount path codings original).1).bind statOf) =
          some stat ∧
      file = {
        path := (disk.findPrecompressed mount path codings original).1
        size := stat.size
        mtime := original.mtime
        etag := generateEtag stat (disk.findPrecompressed mount path codings original).2
        coding := (disk.findPrecompressed mount path codings original).2 } := by
  obtain ⟨original, hregular, hchoose⟩ := Option.bind_eq_some_iff.mp hchoose
  obtain ⟨stat, hstat, hfile⟩ := Option.map_eq_some_iff.mp hchoose
  refine ⟨original, stat, ?_, hstat, hfile.symm⟩
  cases entry with
  | regular stat => exact congrArg _ (Option.some.inj hregular)
  | directory | special | symlink => cases hregular

end Disk

end Pounce.Static

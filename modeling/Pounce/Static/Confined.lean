/-
# Files outside of their mount

A file that is served should really be in the directory of its mount, with no hidden name below
it, and where links are not followed none below it should have led there.

What the request names is checked when no link is left in it, so that a link on the way is not
seen. The index file of a directory is not checked at all, and may be a link to anything. A
variant is checked. So the files that are served are confined exactly as far as the way to them
has no link below the mount, where links are not followed, and the index file is itself in the
mount.
-/

import Pounce.Static.Resolve

namespace Pounce.Static

open Pounce.Math

/-! ## What is promised -/

/-- The place is below the directory of the mount. -/
def StaticMount.Below (mount : StaticMount) (place : List Text) : Prop :=
  mount.directory <+: place ∧ place ≠ mount.directory

/-- No link that may not be followed is among these. -/
def StaticMount.Permits (mount : StaticMount) (links : List (List Text)) : Prop :=
  mount.followSymlinks = false → ∀ link ∈ links, ¬ mount.Below link

namespace Disk

variable (disk : Disk) (mount : StaticMount) (relative : Text) (codings : List Coding)

/-- Where a path really leads, and the links on it. -/
def reach (path : List (PathStep Text)) : Option (Walked Text) :=
  disk.tree.walk disk.limit [] path

/-- What is asked for is reached over permitted links only. -/
def Direct : Prop :=
  ∀ real, disk.resolve (joinPath (stepsOf mount.directory) relative) = some real →
    mount.Permits real.links

/-- A file is really in the mount, is not hidden, and was reached over permitted links only. -/
structure IsConfined (file : ResolvedFile) : Prop where
  direct : disk.Direct mount relative
  reached : ∃ walked, disk.reach file.path = some walked ∧ mount.admits walked.path ∧
    mount.Permits walked.links

/-- If a directory is asked for, its index file or the variant that is served for it is reached
over permitted links only, and the index file is in the mount and not hidden if it is served
itself. -/
def IndexConfined : Prop :=
  ∀ real stat path original walked,
    disk.resolve (joinPath (stepsOf mount.directory) relative) = some real →
    disk.stat (stepsOf real.path) = some (.directory stat) →
    disk.index mount real.path (.directory stat) = some (path, .regular original) →
    disk.reach (disk.findPrecompressed mount path codings original).1 = some walked →
    mount.Permits walked.links ∧
      ((disk.findPrecompressed mount path codings original).2 = none → mount.admits walked.path)

end Disk

/-! ## Variants -/

namespace Disk

variable {disk : Disk} {mount : StaticMount} {relative : Text} {codings : List Coding}

/-- What exists is reached. -/
theorem reach_of_stat {path : List (PathStep Text)} (hstat : (disk.stat path).isSome) :
    ∃ walked, disk.reach path = some walked := by
  obtain ⟨entry, hentry⟩ := Option.isSome_iff_exists.mp hstat
  obtain ⟨walked, hwalked, -⟩ := Option.bind_eq_some_iff.mp hentry
  exact ⟨walked, hwalked⟩

/-- A variant that has been checked is really in the mount, and not hidden. -/
theorem admits_of_validate {variant : List (PathStep Text)} {walked : Walked Text}
    (hvalid : disk.validatePrecompressed mount variant)
    (hwalked : disk.reach variant = some walked) : mount.admits walked.path := by
  rw [validatePrecompressed] at hvalid
  split at hvalid
  case h_1 => cases hvalid
  case h_2 real hreal =>
    rw [Bool.and_eq_true, Bool.and_eq_true] at hvalid
    obtain rfl := FileTree.realpath_eq_of_walk hwalked hreal
    exact hvalid.1.1

/-- Nor is it a link, if links are not followed. -/
theorem lstat_of_validate {variant : List (PathStep Text)} {entry : TreeEntry Text FileStat}
    (hvalid : disk.validatePrecompressed mount variant) (hfollow : mount.followSymlinks = false)
    (hentry : disk.lstat variant = some entry) : entry.isSymlink = false := by
  rw [validatePrecompressed] at hvalid
  split at hvalid
  case h_1 => cases hvalid
  case h_2 real hreal =>
    rw [Bool.and_eq_true, Bool.and_eq_true, hfollow, hentry] at hvalid
    simpa using hvalid.1.2

/-- A place without links, and what is beside it, is reached without links but for the last
name. -/
theorem reach_beside {real : List Text} {name : Text} {walked : Walked Text}
    (hfree : disk.tree.LinkFree real) (hentry : (disk.tree.entry real).isSome)
    (hwalked : disk.reach (stepsOf real.dropLast ++ [.into name]) = some walked)
    (hlink : ∀ entry, disk.lstat (stepsOf real.dropLast ++ [.into name]) = some entry →
      entry.isSymlink = false) : walked.links = [] := by
  have hparentFree : disk.tree.LinkFree ([] ++ real.dropLast) :=
    hfree.of_prefix (List.dropLast_prefix real)
  have hdirectory : real.dropLast ≠ [] →
      ∃ stat, disk.tree.entry ([] ++ real.dropLast) = some (.directory stat) := by
    intro hne
    have hreal : real ≠ [] := fun hnot => hne (by rw [hnot]; rfl)
    have hsplit := List.dropLast_append_getLast hreal
    exact FileTree.isSome_of_append (by rw [List.nil_append, hsplit]; exact hentry)
      (List.cons_ne_nil (real.getLast hreal) [])
  have hparent := FileTree.walk_append [] real.dropLast disk.limit [] hparentFree hdirectory
  rw [List.append_nil] at hparent
  rw [reach, FileTree.walk_append [] real.dropLast disk.limit [.into name] hparentFree hdirectory,
    List.nil_append] at hwalked
  have hlast : disk.lstat (stepsOf real.dropLast ++ [.into name]) =
      disk.tree.entry (real.dropLast ++ [name]) := by
    obtain ⟨onLink, hwalk⟩ := FileTree.walk_eq disk.tree disk.limit
    rw [Disk.lstat, FileTree.lstat, List.getLast?_concat]
    dsimp only
    rw [List.dropLast_concat, hparent, hwalk]
    rfl
  obtain ⟨onLink, hwalk⟩ := FileTree.walk_eq disk.tree disk.limit
  rw [hwalk, FileTree.walkSteps] at hwalked
  cases hthere : disk.tree.entry (real.dropLast ++ [name]) with
  | none =>
      rw [hthere] at hwalked
      cases hwalked
  | some entry =>
      have hplain := hlink entry (hlast.trans hthere)
      rw [hthere] at hwalked
      cases entry with
      | symlink target => cases hplain
      | directory | regular | special =>
          obtain rfl := Option.some.inj hwalked
          rfl

/-- A file or a variant of it is confined, where the file is what was asked for. -/
theorem chosen_confined {real : List Text} {original : FileStat} {walked : Walked Text}
    (hfree : disk.tree.LinkFree real) (hadmits : mount.admits real)
    (hentry : disk.tree.entry real = some (.regular original))
    (hwalked : disk.reach (disk.findPrecompressed mount (stepsOf real) codings original).1 =
      some walked) : mount.admits walked.path ∧ mount.Permits walked.links := by
  have hhere := FileTree.walk_linkFree [] real disk.limit hfree (Option.isSome_of_eq_some hentry)
  rcases findPrecompressed_cases disk mount codings (stepsOf real) original with
    hself | ⟨coding, hfound, hstat, hvalid⟩
  · rw [hself] at hwalked
    obtain rfl := Option.some.inj (hwalked.symm.trans hhere)
    exact ⟨hadmits, fun _ _ hnot => absurd hnot List.not_mem_nil⟩
  · rw [hfound] at hwalked
    refine ⟨admits_of_validate hvalid hwalked, ?_⟩
    intro hfollow
    have hlinks : walked.links = [] := by
      by_cases hreal : real = []
      case pos =>
        subst hreal
        obtain rfl := Option.some.inj (hwalked.symm.trans hhere)
        rfl
      case neg =>
        have hname : withSuffix (stepsOf real) coding.suffix =
            stepsOf real.dropLast ++ [.into (real.getLast hreal ++ coding.suffix)] := by
          rw [withSuffix, stepsOf, List.getLast?_map, List.getLast?_eq_getLast_of_ne_nil hreal,
            stepsOf, List.map_dropLast]
          rfl
        rw [hname] at hwalked hvalid
        exact reach_beside hfree (hentry ▸ rfl) hwalked fun entry hlstat =>
          lstat_of_validate hvalid hfollow hlstat
    rw [hlinks]
    exact fun link hnot => absurd hnot List.not_mem_nil

/-! ## Files -/

/-- What a resolved file comes from. -/
theorem resolveIn_eq_some {file : ResolvedFile}
    (hfile : disk.resolveIn mount relative codings = some file) :
    ∃ real entry path original,
      disk.resolve (joinPath (stepsOf mount.directory) relative) = some real ∧
      mount.admits real.path ∧ disk.tree.LinkFree real.path ∧
      disk.stat (stepsOf real.path) = some entry ∧
      disk.index mount real.path entry = some (path, .regular original) ∧
      file.path = (disk.findPrecompressed mount path codings original).1 ∧
      ∃ walked, disk.reach file.path = some walked := by
  obtain ⟨⟨path, found⟩, hlocate, hchoose⟩ := Option.bind_eq_some_iff.mp hfile
  obtain ⟨original, stat, rfl, hstat, rfl⟩ := choose_eq_some hchoose
  obtain ⟨real, entry, hreal, hadmits, hentry, hindex⟩ := locate_eq_some hlocate
  refine ⟨real, entry, path, original, hreal, hadmits,
    FileTree.realpath_linkFree FileTree.linkFree_nil hreal, hentry, hindex, rfl, reach_of_stat ?_⟩
  dsimp only at hstat ⊢
  split at hstat
  case isFalse =>
    obtain ⟨final, hfinal, -⟩ := Option.bind_eq_some_iff.mp hstat
    rw [hfinal]
    rfl
  case isTrue hself =>
    rw [hself, stat_of_index hentry hindex]
    rfl

/-- What is served for a path below a mount is confined as far as nothing lets it out. -/
theorem resolveIn_confined_iff {file : ResolvedFile}
    (hfile : disk.resolveIn mount relative codings = some file) :
    disk.IsConfined mount relative file ↔
      disk.Direct mount relative ∧ disk.IndexConfined mount relative codings := by
  obtain ⟨real, entry, path, original, hreal, hadmits, hfree, hentry, hindex, hpath, walked,
    hwalked⟩ := resolveIn_eq_some hfile
  constructor
  · intro hconfined
    refine ⟨hconfined.direct, ?_⟩
    intro other stat otherPath otherOriginal otherWalked hother hstat hotherIndex hotherWalked
    obtain rfl := Option.some.inj (hreal.symm.trans hother)
    obtain rfl := Option.some.inj (hentry.symm.trans hstat)
    obtain ⟨rfl, heq⟩ := Prod.mk.inj (Option.some.inj (hindex.symm.trans hotherIndex))
    obtain rfl := TreeEntry.regular.inj heq
    obtain ⟨reached, hreached, hin, hpermits⟩ := hconfined.reached
    rw [hpath] at hreached
    obtain rfl := Option.some.inj (hreached.symm.trans hotherWalked)
    exact ⟨hpermits, fun _ => hin⟩
  · rintro ⟨hdirect, hindexConfined⟩
    refine ⟨hdirect, walked, hwalked, ?_⟩
    rw [hpath] at hwalked
    by_cases hdirectory : entry.isDirectory
    case pos =>
      cases entry with
      | regular | special | symlink => cases hdirectory
      | directory stat =>
          obtain ⟨hpermits, hin⟩ :=
            hindexConfined real stat path original walked hreal hentry hindex hwalked
          refine ⟨?_, hpermits⟩
          rcases findPrecompressed_cases disk mount codings path original with
            hself | ⟨coding, hfound, hstat, hvalid⟩
          · exact hin (congrArg Prod.snd hself)
          · rw [hfound] at hwalked
            exact admits_of_validate hvalid hwalked
    case neg =>
      have hhere : path = stepsOf real.path ∧ entry = .regular original := by
        cases entry with
        | directory stat => exact absurd rfl hdirectory
        | regular | special | symlink =>
            obtain ⟨rfl, heq⟩ := Prod.mk.inj (Option.some.inj hindex)
            exact ⟨rfl, heq⟩
      obtain ⟨rfl, rfl⟩ := hhere
      rw [Disk.stat, FileTree.stat_linkFree hfree] at hentry
      exact chosen_confined hfree hadmits hentry hwalked

end Disk

/-- A file that is served is confined exactly if the way to it has no link below the mount,
where links are not followed, and the index file of a directory is confined. -/
theorem resolved_confined_iff (disk : Disk) (mounts : List StaticMount) (urlPath : Text)
    (codings : List Coding) {mount : StaticMount} {relative : Text} {file : ResolvedFile}
    (hmount : mountOf mounts (normpath urlPath) = some (mount, relative))
    (hfile : disk.resolveFileUncached mounts urlPath codings = some file) :
    disk.IsConfined mount relative file ↔
      disk.Direct mount relative ∧ disk.IndexConfined mount relative codings := by
  apply Disk.resolveIn_confined_iff
  rw [Disk.resolveFileUncached, hmount] at hfile
  exact hfile

/-! ## A linked index file -/

/-- A place in the tree below. -/
def place (names : List String) : List Text := names.map String.toList

/-- What is on a disk with a page whose index file is a link. -/
def linkedEntries : List (List Text × TreeEntry Text FileStat) :=
  [([], .directory ⟨0, 0⟩),
    (place ["etc"], .directory ⟨0, 0⟩),
    (place ["etc", "passwd"], .regular ⟨0, 7⟩),
    (place ["srv"], .directory ⟨0, 0⟩),
    (place ["srv", "app.css"], .regular ⟨0, 5⟩),
    (place ["srv", "index.html"], .symlink ⟨true, stepsOf (place ["etc", "passwd"])⟩)]

/-- The disk. -/
def linkedDisk : Disk where
  tree := .ofEntries linkedEntries (by decide)

/-- The mount. -/
def linkedMount : StaticMount where
  urlPath := "/static".toList
  directory := place ["srv"]

/-- A style sheet in the mount. -/
def linkedSheet : ResolvedFile where
  path := [.into "srv".toList, .into "app.css".toList]
  size := 5
  mtime := 0
  etag := "W/\"0-5\"".toList
  coding := none

theorem resolved_confined_file :
    linkedDisk.resolveFileUncached [linkedMount] "/static/app.css".toList [] = some linkedSheet ∧
      (linkedDisk.IsConfined linkedMount "app.css".toList linkedSheet ↔
        linkedDisk.Direct linkedMount "app.css".toList ∧
          linkedDisk.IndexConfined linkedMount "app.css".toList []) := by
  have hmount : mountOf [linkedMount] (normpath "/static/app.css".toList) =
      some (linkedMount, "app.css".toList) := by
    decide +kernel
  have hfile : linkedDisk.resolveFileUncached [linkedMount] "/static/app.css".toList [] =
      some linkedSheet := by
    decide +kernel
  exact ⟨hfile, resolved_confined_iff linkedDisk [linkedMount] _ [] hmount hfile⟩

/-- Where the index file leads. -/
theorem reach_linkedIndex :
    (linkedDisk.resolveFileUncached [linkedMount] "/static/".toList []).bind
      (fun file => linkedDisk.reach file.path) =
        some ⟨place ["etc", "passwd"], [place ["srv", "index.html"]]⟩ := by
  decide +kernel

/-- The index file is served from outside of the mount. -/
theorem resolved_confined_linked :
    ¬ ∀ (disk : Disk) (mounts : List StaticMount) (urlPath : Text) (codings : List Coding)
      (mount : StaticMount) (relative : Text) (file : ResolvedFile),
      mountOf mounts (normpath urlPath) = some (mount, relative) →
      disk.resolveFileUncached mounts urlPath codings = some file →
        disk.IsConfined mount relative file := by
  intro hclaim
  obtain ⟨file, hfile, hreach⟩ := Option.bind_eq_some_iff.mp reach_linkedIndex
  have hmount : mountOf [linkedMount] (normpath "/static/".toList) = some (linkedMount, []) := by
    decide +kernel
  obtain ⟨walked, hwalked, hin, -⟩ := (hclaim linkedDisk [linkedMount] "/static/".toList []
    linkedMount [] file hmount hfile).reached
  rw [hreach] at hwalked
  obtain rfl := Option.some.inj hwalked
  exact absurd hin (by decide +kernel)

end Pounce.Static

/-
# File trees

A tree has directories, files and symbolic links, each at the list of names that leads to it
from the root. A path goes down into names and up again, and the links on it stand for the
paths they hold.

There are two ways to follow a path. A walk is that of the kernel: everything on the way has to
be there, and only directories lead on. The real path is only text: what is not there is taken
as it is written. Both give up after a number of links, both tell which links they have met,
and what the real path comes to has no link in it. Where both get to an end it is the same.
-/

import Mathlib.Data.List.Infix

namespace Pounce.Math

universe u v

/-- A step of a path. -/
inductive PathStep (Name : Type u) where
  | up
  | into (name : Name)
  deriving DecidableEq, Repr

/-- What a symbolic link holds. -/
structure LinkTarget (Name : Type u) where
  absolute : Bool
  steps : List (PathStep Name)
  deriving DecidableEq, Repr

/-- What is in a tree. -/
inductive TreeEntry (Name : Type u) (Stat : Type v) where
  | directory (stat : Stat)
  | regular (stat : Stat)
  /-- A socket, a device and the like. -/
  | special (stat : Stat)
  | symlink (target : LinkTarget Name)
  deriving DecidableEq, Repr

/-- The entry is a directory. -/
def TreeEntry.isDirectory {Name : Type u} {Stat : Type v} : TreeEntry Name Stat → Bool
  | .directory _ => true
  | _ => false

/-- The entry is a link. -/
def TreeEntry.isSymlink {Name : Type u} {Stat : Type v} : TreeEntry Name Stat → Bool
  | .symlink _ => true
  | _ => false

/-- Where a path has led to, and the links on it. -/
structure Walked (Name : Type u) where
  path : List Name
  links : List (List Name)
  deriving DecidableEq, Repr

/-- A tree. Its root is no link, and what is in it is in a directory. -/
structure FileTree (Name : Type u) (Stat : Type v) where
  entry : List Name → Option (TreeEntry Name Stat)
  root : ∀ target, entry [] ≠ some (.symlink target)
  parent : ∀ path name, (entry (path ++ [name])).isSome →
    ∃ stat, entry path = some (.directory stat)

/-- The path to something in a tree. -/
def stepsOf {Name : Type u} (path : List Name) : List (PathStep Name) := path.map .into

namespace FileTree

variable {Name : Type u} {Stat : Type v} (tree : FileTree Name Stat)

/-- Where a link that is met in a directory starts from. -/
def linkBase (dir : List Name) (target : LinkTarget Name) : List Name :=
  if target.absolute then [] else dir

/-- Add a link that was met. -/
def meet (link : List Name) (walked : Walked Name) : Walked Name :=
  { walked with links := link :: walked.links }

/-- Walk along a path, and along another one at the first link. -/
def walkSteps (onLink : List Name → List (PathStep Name) → Option (Walked Name))
    (dir : List Name) : List (PathStep Name) → Option (Walked Name)
  | [] => some ⟨dir, []⟩
  | .up :: rest => walkSteps onLink dir.dropLast rest
  | .into name :: rest =>
      match tree.entry (dir ++ [name]) with
      | none => none
      | some (.directory _) => walkSteps onLink (dir ++ [name]) rest
      | some (.symlink target) =>
          (onLink (linkBase dir target) (target.steps ++ rest)).map (meet (dir ++ [name]))
      | some (.regular _) | some (.special _) =>
          if rest = [] then some ⟨dir ++ [name], []⟩ else none

/-- Walk along a path, over at most so many links. -/
def walk : ℕ → List Name → List (PathStep Name) → Option (Walked Name)
  | 0 => tree.walkSteps fun _ _ => none
  | limit + 1 => tree.walkSteps (walk limit)

/-- The real path, with another one from the first link on. -/
def realSteps (onLink : List Name → List (PathStep Name) → Option (Walked Name))
    (dir : List Name) : List (PathStep Name) → Option (Walked Name)
  | [] => some ⟨dir, []⟩
  | .up :: rest => realSteps onLink dir.dropLast rest
  | .into name :: rest =>
      match tree.entry (dir ++ [name]) with
      | some (.symlink target) =>
          (onLink (linkBase dir target) (target.steps ++ rest)).map (meet (dir ++ [name]))
      | _ => realSteps onLink (dir ++ [name]) rest

/-- The real path, over at most so many links. -/
def realpath : ℕ → List Name → List (PathStep Name) → Option (Walked Name)
  | 0 => tree.realSteps fun _ _ => none
  | limit + 1 => tree.realSteps (realpath limit)

/-- What a path leads to. -/
def stat (limit : ℕ) (steps : List (PathStep Name)) : Option (TreeEntry Name Stat) :=
  (tree.walk limit [] steps).bind fun walked => tree.entry walked.path

/-- What a path leads to, if the last link is not followed. -/
def lstat (limit : ℕ) (steps : List (PathStep Name)) : Option (TreeEntry Name Stat) :=
  match steps.getLast? with
  | some (.into name) =>
      (tree.walk limit [] steps.dropLast).bind fun walked => tree.entry (walked.path ++ [name])
  | _ => tree.stat limit steps

/-- No link is on the way to a place, nor there. -/
def LinkFree (path : List Name) : Prop :=
  ∀ before target, before <+: path → tree.entry before ≠ some (.symlink target)

variable {tree} {dir names : List Name} {limit : ℕ}

/-- A directory on the way to a place without links is one itself. -/
theorem LinkFree.of_prefix {path : List Name} (hfree : tree.LinkFree path)
    (hbelow : names <+: path) : tree.LinkFree names :=
  fun before target hbefore => hfree before target (hbefore.trans hbelow)

theorem LinkFree.concat {name : Name} (hfree : tree.LinkFree dir)
    (hentry : ∀ target, tree.entry (dir ++ [name]) ≠ some (.symlink target)) :
    tree.LinkFree (dir ++ [name]) := by
  intro before target hbefore
  rcases List.prefix_concat_iff.mp hbefore with rfl | hbefore
  · exact hentry target
  · exact hfree before target hbefore

/-- There is nothing on the way to the root. -/
theorem linkFree_nil : tree.LinkFree [] := by
  intro before target hbefore
  obtain rfl := List.prefix_nil.mp hbefore
  exact tree.root target

/-- What a place is in exists, and is a directory. -/
theorem isSome_of_append {after : List Name} (hentry : (tree.entry (dir ++ after)).isSome)
    (hafter : after ≠ []) : ∃ stat, tree.entry dir = some (.directory stat) := by
  induction after using List.reverseRecOn with
  | nil => exact absurd rfl hafter
  | append_singleton before name ih =>
      rw [← List.append_assoc] at hentry
      obtain ⟨stat, hstat⟩ := tree.parent _ _ hentry
      cases before with
      | nil => exact ⟨stat, by simpa using hstat⟩
      | cons first rest => exact ih (by rw [hstat]; rfl) (List.cons_ne_nil _ _)

/-- One link after the other, a real path has none in it. -/
theorem realSteps_linkFree {onLink : List Name → List (PathStep Name) → Option (Walked Name)}
    (honLink : ∀ dir steps walked, tree.LinkFree dir → onLink dir steps = some walked →
      tree.LinkFree walked.path)
    {steps : List (PathStep Name)} {walked : Walked Name} (hdir : tree.LinkFree dir)
    (hreal : tree.realSteps onLink dir steps = some walked) : tree.LinkFree walked.path := by
  induction steps generalizing dir with
  | nil =>
      obtain rfl := Option.some.inj hreal
      exact hdir
  | cons step rest ih =>
      cases step with
      | up => exact ih (hdir.of_prefix (List.dropLast_prefix dir)) hreal
      | into name =>
          rw [realSteps] at hreal
          split at hreal
          case h_1 target hentry =>
            obtain ⟨reached, hreached, rfl⟩ := Option.map_eq_some_iff.mp hreal
            apply honLink _ _ reached _ hreached
            rw [linkBase]
            split
            · exact linkFree_nil
            · exact hdir
          case h_2 hentry => exact ih (hdir.concat fun target hnot => hentry target hnot) hreal

/-- A real path has no link in it. -/
theorem realpath_linkFree {steps : List (PathStep Name)}
    {walked : Walked Name} (hdir : tree.LinkFree dir)
    (hreal : tree.realpath limit dir steps = some walked) : tree.LinkFree walked.path := by
  induction limit generalizing dir steps walked with
  | zero =>
      apply realSteps_linkFree _ hdir hreal
      exact fun _ _ _ _ hnot => (by cases hnot)
  | succ limit ih =>
      apply realSteps_linkFree _ hdir hreal
      exact fun _ _ _ hfree hnext => ih hfree hnext

/-- Where a walk gets to an end, the real path does not lead elsewhere. -/
theorem realSteps_eq_of_walkSteps
    {onWalk onReal : List Name → List (PathStep Name) → Option (Walked Name)}
    (hboth : ∀ dir steps walked real, onWalk dir steps = some walked →
      onReal dir steps = some real → real = walked)
    {steps : List (PathStep Name)} {walked real : Walked Name}
    (hwalk : tree.walkSteps onWalk dir steps = some walked)
    (hreal : tree.realSteps onReal dir steps = some real) : real = walked := by
  induction steps generalizing dir with
  | nil => exact (Option.some.inj hreal).symm.trans (Option.some.inj hwalk)
  | cons step rest ih =>
      cases step with
      | up => exact ih hwalk hreal
      | into name =>
          rw [walkSteps] at hwalk
          rw [realSteps] at hreal
          cases hentry : tree.entry (dir ++ [name]) with
          | none =>
              rw [hentry] at hwalk
              cases hwalk
          | some entry =>
              rw [hentry] at hwalk hreal
              cases entry with
              | directory stat => exact ih hwalk hreal
              | symlink target =>
                  obtain ⟨reached, hreached, rfl⟩ := Option.map_eq_some_iff.mp hwalk
                  obtain ⟨found, hfound, rfl⟩ := Option.map_eq_some_iff.mp hreal
                  exact congrArg (meet _) (hboth _ _ _ _ hreached hfound)
              | regular stat | special stat =>
                  obtain ⟨rfl, hwalked⟩ := Option.ite_none_right_eq_some.mp hwalk
                  exact (Option.some.inj hreal).symm.trans (Option.some.inj hwalked)

/-- Where a walk gets to an end, the real path does not lead elsewhere. -/
theorem realpath_eq_of_walk {depth : ℕ} {steps : List (PathStep Name)} {walked real : Walked Name}
    (hwalk : tree.walk limit dir steps = some walked)
    (hreal : tree.realpath depth dir steps = some real) : real = walked := by
  induction limit generalizing depth dir steps walked real with
  | zero =>
      cases depth with
      | zero => exact realSteps_eq_of_walkSteps (fun _ _ _ _ hnot => (by cases hnot)) hwalk hreal
      | succ depth => exact realSteps_eq_of_walkSteps (fun _ _ _ _ hnot => (by cases hnot)) hwalk hreal
  | succ limit ih =>
      cases depth with
      | zero =>
          exact realSteps_eq_of_walkSteps (fun _ _ _ _ _ hnot => (by cases hnot)) hwalk hreal
      | succ depth =>
          exact realSteps_eq_of_walkSteps (fun _ _ _ _ hwalked hfound => ih hwalked hfound)
            hwalk hreal

variable (tree limit) in
/-- A walk is one along the steps up to the first link. -/
theorem walk_eq : ∃ onLink, tree.walk limit = tree.walkSteps onLink := by
  cases limit with
  | zero => exact ⟨_, rfl⟩
  | succ limit => exact ⟨_, rfl⟩

variable (limit dir names) in
/-- To walk to a place without links is to get there. -/
theorem walk_linkFree (hfree : tree.LinkFree (dir ++ names))
    (hentry : (tree.entry (dir ++ names)).isSome) :
    tree.walk limit dir (stepsOf names) = some ⟨dir ++ names, []⟩ := by
  obtain ⟨onLink, hwalk⟩ := walk_eq tree limit
  rw [hwalk]
  clear hwalk
  induction names generalizing dir with
  | nil => exact congrArg (fun path => some (Walked.mk path [])) (List.append_nil dir).symm
  | cons name rest ih =>
      have hsplit : dir ++ name :: rest = (dir ++ [name]) ++ rest := List.append_cons dir name rest
      rw [hsplit] at hfree hentry ⊢
      have hnext := ih (dir ++ [name]) hfree hentry
      show tree.walkSteps onLink dir (.into name :: stepsOf rest) = _
      rw [walkSteps]
      by_cases hrest : rest = []
      case neg =>
        obtain ⟨stat, hstat⟩ := isSome_of_append hentry hrest
        rw [hstat]
        exact hnext
      case pos =>
        subst hrest
        rw [List.append_nil] at hentry hfree ⊢
        obtain ⟨entry, hentry⟩ := Option.isSome_iff_exists.mp hentry
        rw [hentry]
        cases entry with
        | directory stat => rfl
        | symlink target => exact absurd hentry (hfree _ target (List.prefix_refl _))
        | regular stat | special stat => rfl

variable (dir names) in
/-- A walk without links ends where its names say. -/
theorem eq_of_walk_linkFree {walked : Walked Name} (hfree : tree.LinkFree (dir ++ names))
    (hwalk : tree.walk limit dir (stepsOf names) = some walked) :
    walked = ⟨dir ++ names, []⟩ := by
  obtain ⟨onLink, hsteps⟩ := walk_eq tree limit
  rw [hsteps] at hwalk
  clear hsteps
  induction names generalizing dir with
  | nil =>
      obtain rfl := Option.some.inj hwalk
      exact congrArg (fun path => Walked.mk path []) (List.append_nil dir).symm
  | cons name rest ih =>
      have hsplit : dir ++ name :: rest = (dir ++ [name]) ++ rest := List.append_cons dir name rest
      rw [hsplit] at hfree ⊢
      replace hwalk : tree.walkSteps onLink dir (.into name :: stepsOf rest) = some walked := hwalk
      rw [walkSteps] at hwalk
      cases hentry : tree.entry (dir ++ [name]) with
      | none =>
          rw [hentry] at hwalk
          cases hwalk
      | some entry =>
          rw [hentry] at hwalk
          cases entry with
          | directory stat => exact ih (dir ++ [name]) hfree hwalk
          | symlink target => exact absurd hentry (hfree _ target (List.prefix_append _ _))
          | regular stat | special stat =>
              obtain ⟨hrest, hwalked⟩ := Option.ite_none_right_eq_some.mp hwalk
              rw [List.map_eq_nil_iff.mp hrest, List.append_nil]
              exact (Option.some.inj hwalked).symm

variable (limit dir names) in
/-- A walk through a directory without links goes on from there. -/
theorem walk_append (steps : List (PathStep Name)) (hfree : tree.LinkFree (dir ++ names))
    (hentry : names ≠ [] → ∃ stat, tree.entry (dir ++ names) = some (.directory stat)) :
    tree.walk limit dir (stepsOf names ++ steps) = tree.walk limit (dir ++ names) steps := by
  obtain ⟨onLink, hwalk⟩ := walk_eq tree limit
  rw [hwalk]
  clear hwalk
  induction names generalizing dir with
  | nil => rw [List.append_nil]; rfl
  | cons name rest ih =>
      have hsplit : dir ++ name :: rest = (dir ++ [name]) ++ rest := List.append_cons dir name rest
      rw [hsplit] at hfree hentry ⊢
      have hthere := hentry (List.cons_ne_nil _ _)
      have hnext := ih (dir ++ [name]) hfree fun _ => hthere
      have hdirectory : ∃ stat, tree.entry (dir ++ [name]) = some (.directory stat) := by
        by_cases hrest : rest = []
        case pos => simpa [hrest] using hthere
        case neg =>
          obtain ⟨stat, hstat⟩ := hthere
          exact isSome_of_append (by rw [hstat]; rfl) hrest
      obtain ⟨stat, hstat⟩ := hdirectory
      show tree.walkSteps onLink dir (.into name :: (stepsOf rest ++ steps)) = _
      rw [walkSteps, hstat]
      exact hnext

/-- What is at a place without links. -/
theorem stat_linkFree (hfree : tree.LinkFree names) :
    tree.stat limit (stepsOf names) = tree.entry names := by
  cases hentry : tree.entry names with
  | some entry =>
      have hwalk := walk_linkFree [] names limit hfree (Option.isSome_of_eq_some hentry)
      rw [stat, hwalk]
      exact hentry
  | none =>
      rw [stat, Option.bind_eq_none_iff]
      intro walked hwalk
      obtain rfl := eq_of_walk_linkFree [] names hfree hwalk
      exact hentry

/-! ## Listed trees -/

variable [DecidableEq Name]

/-- Find an entry in a list. -/
def lookup (entries : List (List Name × TreeEntry Name Stat)) (path : List Name) :
    Option (TreeEntry Name Stat) :=
  (entries.find? fun entry => entry.1 = path).map (·.2)

/-- The entries are those of a tree. -/
def isListing (entries : List (List Name × TreeEntry Name Stat)) : Bool :=
  !(lookup entries []).any (·.isSymlink) &&
    entries.all fun entry => entry.1 = [] || (lookup entries entry.1.dropLast).any (·.isDirectory)

/-- The tree of the entries. -/
def ofEntries (entries : List (List Name × TreeEntry Name Stat))
    (hentries : isListing entries = true) : FileTree Name Stat where
  entry := lookup entries
  root target hroot := by
    rw [isListing, hroot] at hentries
    exact absurd hentries (by simp [TreeEntry.isSymlink])
  parent path name hentry := by
    rw [isListing, Bool.and_eq_true, List.all_eq_true] at hentries
    obtain ⟨_, hfound⟩ := Option.isSome_iff_exists.mp hentry
    obtain ⟨entry, hfind, -⟩ := Option.map_eq_some_iff.mp hfound
    have htest := List.find?_some hfind
    have hpath : entry.1 = path ++ [name] := by simpa using htest
    have hparent := hentries.2 entry (List.mem_of_find?_eq_some hfind)
    rw [hpath, List.dropLast_concat] at hparent
    cases hdirectory : lookup entries path with
    | none => simp [hdirectory] at hparent
    | some found =>
        cases found with
        | directory stat => exact ⟨stat, rfl⟩
        | regular | special | symlink => simp [hdirectory, TreeEntry.isDirectory] at hparent

end FileTree

end Pounce.Math

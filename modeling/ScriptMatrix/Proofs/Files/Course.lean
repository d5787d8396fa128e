import ScriptMatrix.Proofs.Files.Tree

/-!
# `ScriptMatrix.Proofs.Files.Course`: one path from two directories

A relative path says which way to go, and not from where. Its `Course` is what this way
comes to: up from the start by some directories, and down again by some names. Where a
path leads anywhere, it leads to the end of its course (`walkFrom_eq_course`). So from two
directories it leads to one place just if these are below one directory at the height that
the course goes up to (`walkFrom_agree_iff`). A path that does not go up leads to one place
from one directory only.

`within` is a tree seen from another directory. `walk_within_agree_iff` says when a path
leads there to where it led before, also in a tree that has got more files since.
-/

set_option autoImplicit false

namespace ScriptMatrix.Sandbox

/-! ### Courses -/

/-- The directory that is `n` directories above a place; nothing is above the root. -/
def ancestor (n : Nat) (place : Location) : Location := place.take (place.length - n)

/-- Above an ancestor is the next one, and the root is above itself. -/
theorem dropLast_ancestor (n : Nat) (place : Location) :
    (ancestor n place).dropLast = ancestor (n + 1) place := by
  -- Dropping the last of what is taken is taking one fewer.
  rw [ancestor, ancestor, List.dropLast_eq_take, List.take_take, List.length_take]
  congr 1
  omega

/-- A way up and down again. All steps of a path come to such a way: going up after a name
takes the name back. -/
structure Course where
  /-- How many directories it goes up from the start. -/
  up : Nat
  /-- The names that it then goes down by. -/
  down : List String

namespace Course

/-- The way from a directory to itself, with no steps. -/
def stay : Course := ⟨0, []⟩

/-- The place that a way leads to from a start, whatever the tree has there. -/
def goFrom (c : Course) (start : Location) : Location := ancestor c.up start ++ c.down

/-- A way and one more step. A step up shortens the way down, or starts higher where there
is none. -/
def step (c : Course) (s : String) : Course :=
  if s == "" || s == "." then c
  else if s == ".." then
    if c.down.isEmpty then ⟨c.up + 1, []⟩ else ⟨c.up, c.down.dropLast⟩
  else ⟨c.up, c.down ++ [s]⟩

/-- What steps come to, taken one after the other. -/
def ofSteps (steps : List String) : Course := steps.foldl step stay

/-- What a path comes to behind its start. -/
def ofPath (p : Path) : Course := ofSteps (Tree.steps p)

/-- Who stays is still at the start. -/
theorem goFrom_stay (start : Location) : stay.goFrom start = start := by
  rw [goFrom, stay, ancestor, Nat.sub_zero, List.take_length, List.append_nil]

/-- One more step is taken from the end of a way. So a course says where `Tree.stepFrom`
leads, step by step. -/
theorem goFrom_step (c : Course) (s : String) (start : Location) :
    (c.step s).goFrom start = Tree.stepFrom (c.goFrom start) s := by
  rw [step, Tree.stepFrom]
  -- A step may say nothing, go up, or go down to a name. Going up is from the last name, or
  -- higher.
  split
  · rfl
  · split
    · split
      case isTrue hdown =>
        rw [goFrom, goFrom, List.isEmpty_iff.mp hdown, List.append_nil, List.append_nil,
          dropLast_ancestor]
      case isFalse hdown =>
        rw [goFrom, goFrom, List.dropLast_append_of_ne_nil (by simpa using hdown)]
    · rw [goFrom, goFrom, List.append_assoc]

end Course

namespace Tree

variable {t t' : Tree} {place : Location} {p : Path} {steps : List String}

/-- Steps lead to the end of their course, if they lead anywhere. The tree can only keep a
walk from its end, not turn it elsewhere. -/
theorem walkFrom_eq_course {start : Location} (h : t.walkFrom start steps = .ok place) :
    place = (Course.ofSteps steps).goFrom start := by
  -- The course so far is general, as the steps are folded from the left.
  suffices hway : ∀ c : Course, t.walkFrom (c.goFrom start) steps = .ok place →
      place = (steps.foldl Course.step c).goFrom start by
    exact hway Course.stay (by rw [Course.goFrom_stay]; exact h)
  clear h
  induction steps with
  | nil =>
    intro c h
    cases h
    rfl
  | cons s steps ih =>
    intro c h
    exact ih (c.step s) (by rw [Course.goFrom_step]; exact (walkFrom_cons_eq_ok.mp h).2)

/-- From another start the same steps lead to the same place just if they lead anywhere and
the two starts are below one directory where the course turns. -/
theorem walkFrom_agree_iff {start other : Location} (h : t.walkFrom start steps = .ok place) :
    t'.walkFrom other steps = .ok place ↔
      ancestor (Course.ofSteps steps).up other = ancestor (Course.ofSteps steps).up start ∧
        ∃ q, t'.walkFrom other steps = .ok q := by
  have hplace : place = _ := walkFrom_eq_course h
  constructor
  · intro hother
    refine ⟨?_, place, hother⟩
    have hsame := (walkFrom_eq_course hother).symm.trans hplace
    exact List.append_cancel_right hsame
  · rintro ⟨hsame, q, hq⟩
    -- Both walks end where their course does, and from the turn on the courses are the
    -- same.
    have hend : q = place := by
      rw [walkFrom_eq_course hq, hplace, Course.goFrom, Course.goFrom, hsame]
    rw [← hend]
    exact hq

/-! ### Another current directory -/

/-- The tree as seen from a directory. This is the tree that a started program walks in. -/
def within (t : Tree) (dir : Location) : Tree := { t with current := dir }

/-- Steps from a place do not depend on the current directory. -/
theorem walkFrom_within (t : Tree) (dir start : Location) (steps : List String) :
    (t.within dir).walkFrom start steps = t.walkFrom start steps := by
  induction steps generalizing start with
  | nil => rfl
  | cons s steps ih =>
    rw [walkFrom, walkFrom]
    simp only [ih]
    rfl

/-- A path that is one starts at the root or at the directory. -/
theorem walk_within (hfault : pathFault? p = none) (t : Tree) (dir : Location) :
    (t.within dir).walk p = t.walkFrom (if p.isAbsolute then [] else dir) (Tree.steps p) := by
  rw [walk, hfault]
  exact walkFrom_within ..

/-- Nothing but a path leads anywhere. -/
theorem pathFault?_of_walk (h : t.walk p = .ok place) : pathFault? p = none := by
  rw [walk] at h
  split at h
  case h_1 => cases h
  case h_2 hfault => exact hfault

/-- A path that leads to something leads to a place. -/
theorem exists_walk_of_find? (h : (t.find? p).isSome = true) : ∃ place, t.walk p = .ok place := by
  rw [find?] at h
  split at h
  case h_1 place hwalk => exact ⟨place, hwalk⟩
  case h_2 => cases h

/-- An absolute path leads to the same place from everywhere. -/
theorem walk_within_of_isAbsolute (h : p.isAbsolute = true) (t : Tree) (dir : Location) :
    (t.within dir).walk p = t.walk p := by
  cases hfault : pathFault? p with
  | some fault => rw [walk, walk, hfault]
  | none =>
    have hhere : t.walk p = (t.within t.current).walk p := rfl
    rw [hhere, walk_within hfault, walk_within hfault, h, if_pos rfl, if_pos rfl]

/-- A dot leads to the current directory, which is the end of the empty course. -/
theorem eq_current_of_walk (h : t.walk ⟨"."⟩ = .ok place) : place = t.current := by
  have hstep : t.walkFrom t.current ["."] = .ok place := h
  exact (walkFrom_eq_course hstep).trans (Course.goFrom_stay _)

/-- **When a path keeps its place.** In a tree that keeps what was there and is seen from
another directory, a path leads to where it led before just if it is absolute, or it leads
anywhere and the directories are below one at the height that it goes up to. -/
theorem walk_within_agree_iff (h : t.walk p = .ok place) (hkeeps : Keeps t t') (dir : Location) :
    (t'.within dir).walk p = .ok place ↔ p.isAbsolute = true ∨
      ancestor (Course.ofPath p).up dir = ancestor (Course.ofPath p).up t.current ∧
        ∃ q, (t'.within dir).walk p = .ok q := by
  have hfault := pathFault?_of_walk h
  have hwalk : t.walkFrom (if p.isAbsolute then [] else t.current) (Tree.steps p) = .ok place := by
    rw [← walk_within hfault t]
    exact h
  rw [walk_within hfault]
  -- An absolute path starts at the root in both trees, and a relative one at the two
  -- directories.
  cases habsolute : p.isAbsolute with
  | true =>
    rw [habsolute] at hwalk
    exact ⟨fun _ => .inl rfl, fun _ => hkeeps.walkFrom hwalk⟩
  | false =>
    rw [habsolute] at hwalk
    exact (walkFrom_agree_iff hwalk).trans (or_iff_right Bool.false_ne_true).symm

end Tree

end ScriptMatrix.Sandbox

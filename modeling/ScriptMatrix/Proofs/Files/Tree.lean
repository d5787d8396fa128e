import ScriptMatrix.Sandbox.Tree

/-!
# `ScriptMatrix.Proofs.Files.Tree`: what a write changes

`get?_put` reads a place back after something was put there or elsewhere.
Walking looks only at which places are directories and which hold anything, so
it leads to the same places in a tree that keeps both (`Keeps.walk`).

`write_cases` is the step lemma of writing: afterwards the path leads to a
place, the file is there, and all other places are as before. `write_place` says
how the path leads there before. Directories that
are made on the way are new places and change no file (`makeDirectories_grows`).
-/

set_option autoImplicit false

namespace ScriptMatrix.Sandbox.Tree

variable {t t' t'' : Tree} {p : Path} {b : Bytes}

/-! ### Reading a place -/

/-- A place is among the entries if something is found there. `put` asks the one, and `get?`
the other. -/
theorem any_eq_isSome_lookup (entries : List (Location × Entry)) (place : Location) :
    entries.any (·.1 == place) = (entries.lookup place).isSome := by
  induction entries with
  | nil => rfl
  | cons x entries ih =>
    rw [List.any_cons, ih, List.lookup_cons]
    by_cases h : x.1 = place
    · simp [h]
    · rw [beq_eq_false_iff_ne.mpr h, beq_eq_false_iff_ne.mpr (Ne.symm h)]
      rfl

/-- Replacing an entry is seen at its place only. It is not seen at all where nothing was. -/
theorem lookup_replace (entries : List (Location × Entry)) (place q : Location) (e : Entry) :
    (entries.map fun x => if x.1 == place then (place, e) else x).lookup q
      = if q = place then (entries.lookup q).map fun _ => e else entries.lookup q := by
  induction entries with
  | nil => split <;> rfl
  | cons x entries ih =>
    rw [List.map_cons, List.lookup_cons, List.lookup_cons, ih]
    -- The first entry is the one that is replaced, or not; and it is the one that is looked
    -- for, or not.
    by_cases hx : x.1 = place
    · by_cases hq : q = place
      · simp [hx, hq]
      · simp [hx, hq, beq_eq_false_iff_ne.mpr hq]
    · by_cases hq : q = place
      · simp [hx, hq, beq_eq_false_iff_ne.mpr (Ne.symm hx)]
      · simp [hx, hq]

/-- What is put at a place is there, and nothing else has changed. At the root it would not
be, hence `hplace`. -/
theorem get?_put (t : Tree) {place : Location} (hplace : place ≠ []) (e : Entry) (q : Location) :
    (t.put place e).get? q = if q = place then some e else t.get? q := by
  by_cases hroot : q = []
  · rw [hroot, if_neg (Ne.symm hplace)]
    rfl
  · have hlookup : (t.put place e).entries.lookup q
        = if q = place then some e else t.entries.lookup q := by
      -- An entry that is there is replaced, and a new one comes last.
      rw [put, any_eq_isSome_lookup]
      cases hfound : t.entries.lookup place with
      | none =>
        rw [if_neg (by simp), List.lookup_append, List.lookup_cons]
        by_cases hq : q = place
        · simp [hq, hfound]
        · simp [hq, beq_eq_false_iff_ne.mpr hq]
      | some e' =>
        rw [if_pos Option.isSome_some, lookup_replace]
        by_cases hq : q = place
        · simp [hq, hfound]
        · simp [hq]
    simpa [get?, hroot] using hlookup

/-- Putting something somewhere does not move to another directory. -/
@[simp] theorem current_put (t : Tree) (place : Location) (e : Entry) :
    (t.put place e).current = t.current := by
  rw [put]
  split <;> rfl

/-! ### Walking -/

/-- Where one step leads, if it leads anywhere. This depends on the step alone; whether the
tree has that place is left to `CanStep`. -/
def stepFrom (place : Location) (s : String) : Location :=
  if s == "" || s == "." then place else if s == ".." then place.dropLast else place ++ [s]

/-- One step leads somewhere: it starts in a directory and, if it is a name, something there
has this name. -/
structure CanStep (t : Tree) (place : Location) (s : String) : Prop where
  directory : t.get? place = some .directory
  name : s = "" ∨ s = "." ∨ s = ".." ∨
    s.utf8ByteSize ≤ nameLimit ∧ (t.get? (place ++ [s])).isSome = true

/-- Steps lead to a place if the first one leads somewhere, and the others from there to the
place. `Keeps.walkFrom` and `Course` go by this, and not by the checks of `walkFrom`. -/
theorem walkFrom_cons_eq_ok {start place : Location} {s : String} {rest : List String} :
    t.walkFrom start (s :: rest) = .ok place ↔
      t.CanStep start s ∧ t.walkFrom (stepFrom start s) rest = .ok place := by
  -- The checks of a step in their order, against what `CanStep` asks.
  rw [walkFrom, stepFrom]
  grind [CanStep]

/-- Directories are still directories, and no place has become empty. This is all that
walking looks at, so paths that led somewhere lead there still. -/
structure Keeps (t t' : Tree) : Prop where
  directory : ∀ q, t.get? q = some .directory → t'.get? q = some .directory
  isSome : ∀ q, (t.get? q).isSome → (t'.get? q).isSome
  current : t'.current = t.current

namespace Keeps

/-- A tree keeps what it has. -/
theorem refl (t : Tree) : Keeps t t := ⟨fun _ h => h, fun _ h => h, rfl⟩

/-- What is kept twice is kept. -/
theorem trans (h : Keeps t t') (h' : Keeps t' t'') : Keeps t t'' :=
  ⟨fun q hq => h'.directory q (h.directory q hq), fun q hq => h'.isSome q (h.isSome q hq),
    h'.current.trans h.current⟩

/-- A file in place of anything but a directory keeps all that is. In place of a directory
it would cut off the paths below. -/
theorem put {place : Location} (hplace : t.get? place ≠ some .directory) (e : Entry) :
    Keeps t (t.put place e) := by
  have hne : place ≠ [] := by
    rintro rfl
    exact hplace rfl
  refine ⟨fun q hq => ?_, fun q hq => ?_, current_put t place e⟩ <;> rw [get?_put t hne]
  · -- A directory is not where the file is put.
    rw [if_neg]
    · exact hq
    · rintro rfl
      exact hplace hq
  · split
    · rfl
    · exact hq

/-- What one step needs of the tree is kept. -/
theorem canStep (h : Keeps t t') {place : Location} {s : String} (hstep : t.CanStep place s) :
    t'.CanStep place s :=
  ⟨h.directory _ hstep.directory,
    hstep.name.imp_right (.imp_right (.imp_right (.imp_right (h.isSome _))))⟩

/-- Steps lead to the same place, one after the other. -/
theorem walkFrom (h : Keeps t t') {start place : Location} {steps : List String}
    (hwalk : t.walkFrom start steps = .ok place) : t'.walkFrom start steps = .ok place := by
  induction steps generalizing start with
  | nil => exact hwalk
  | cons s rest ih =>
    obtain ⟨hstep, hrest⟩ := walkFrom_cons_eq_ok.mp hwalk
    exact walkFrom_cons_eq_ok.mpr ⟨h.canStep hstep, ih hrest⟩

/-- A walk begins at the same place: the root, or the current directory. -/
theorem startOf (h : Keeps t t') (p : Path) : t'.startOf p = t.startOf p := by
  rw [Tree.startOf, Tree.startOf, h.current]

/-- A path leads to the same place. The faults of a path do not depend on the tree. -/
theorem walk (h : Keeps t t') {place : Location} (hwalk : t.walk p = .ok place) :
    t'.walk p = .ok place := by
  rw [Tree.walk] at hwalk ⊢
  split at hwalk
  case h_1 => cases hwalk
  case h_2 =>
    rw [h.startOf]
    exact h.walkFrom hwalk

end Keeps

/-- Steps after others are taken from where those lead. The fault of the first is the fault
of all. -/
theorem walkFrom_append (t : Tree) (start : Location) (steps rest : List String) :
    t.walkFrom start (steps ++ rest) =
      (t.walkFrom start steps).bind fun place => t.walkFrom place rest := by
  induction steps generalizing start with
  | nil => rfl
  | cons s steps ih =>
    rw [List.cons_append, walkFrom, walkFrom]
    simp only [ih]
    repeat' split
    all_goals rfl

/-- One step to a name leads from a directory to what it has by this name. -/
theorem walkFrom_name {start : Location} {s : String} (hs : s ≠ "" ∧ s ≠ "." ∧ s ≠ "..") :
    t.walkFrom start [s] =
      if t.get? start ≠ some .directory then .error .notDirectory
      else if nameLimit < s.utf8ByteSize then .error .nameTooLong
      else if (t.get? (start ++ [s])).isSome then .ok (start ++ [s])
      else .error .notFound := by
  simp [walkFrom, hs.1, hs.2.1, hs.2.2]

/-! ### Writing -/

/-- The steps of a path that ends with what it asks for, and with no slash behind it. -/
theorem steps_of_splitSteps {front : List String} {last : String}
    (h : splitSteps p = (front, last, false)) : steps p = front ++ [last] := by
  rw [splitSteps] at h
  split at h
  case h_1 => cases h
  case h_2 s rest hdrop =>
    simp only [Prod.mk.injEq, Bool.not_eq_false', List.isEmpty_iff] at h
    obtain ⟨rfl, rfl, hidle⟩ := h
    -- Steps are split from behind, where no empty one is left out.
    have hreverse : (steps p).reverse = s :: rest := calc
      (steps p).reverse = (steps p).reverse.takeWhile (· == "")
          ++ (steps p).reverse.dropWhile (· == "") := List.takeWhile_append_dropWhile.symm
      _ = s :: rest := by rw [hidle, hdrop, List.nil_append]
    rw [← List.reverse_reverse (steps p), hreverse, List.reverse_cons]

/-- A target is a name in a directory, to which the steps before it lead. All checks that
`target` makes are told here, so that no later proof goes through them. -/
theorem target_eq_ok {place : Location} (h : t.target p = .ok (place, false)) :
    ∃ front last d, steps p = front ++ [last] ∧ pathFault? p = none ∧
      t.walkFrom (t.startOf p) front = .ok d ∧ t.get? d = some .directory ∧
      (last ≠ "" ∧ last ≠ "." ∧ last ≠ "..") ∧ ¬ nameLimit < last.utf8ByteSize ∧
      place = d ++ [last] := by
  rw [target] at h
  split at h
  case h_1 => cases h
  case h_2 hfault =>
    split at h
    case h_1 front last trailing hsplit =>
    split at h
    case h_1 => cases h
    case h_2 d hd =>
      split at h
      case isTrue => cases h
      case isFalse hdirectory =>
        split at h
        case isTrue => cases h
        case isFalse hname =>
          split at h
          case isTrue => cases h
          case isFalse hlong =>
            cases h
            exact ⟨front, last, d, steps_of_splitSteps hsplit, hfault, hd,
              by simpa using hdirectory, by simpa [and_assoc] using hname, hlong, rfl⟩

/-- A path leads to its target once there is something. Both trees come in: the target is
that of the tree before, and the walk is in the tree after. -/
theorem walk_of_target {place : Location} (h : t.target p = .ok (place, false))
    (hkeeps : Keeps t t') (hsome : (t'.get? place).isSome) : t'.walk p = .ok place := by
  obtain ⟨front, last, d, hsteps, hfault, hd, hdirectory, hname, hlong, rfl⟩ := target_eq_ok h
  rw [walk, hfault, hsteps, hkeeps.startOf]
  dsimp only
  -- The steps before the last lead to `d` as before, and the last one leads to what is
  -- there now.
  rw [walkFrom_append, hkeeps.walkFrom hd]
  show t'.walkFrom d [last] = _
  rw [walkFrom_name hname, if_neg (not_not_intro (hkeeps.directory d hdirectory)), if_neg hlong,
    if_pos hsome]

/-- A write that succeeds goes to the place that the path leads to, or to a new one that is
its target. It is no directory, and nothing else is changed. What is written to a device is
gone. -/
theorem write_place (h : t.write p b = .ok t') :
    ∃ place, (t.walk p = .ok place ∨ t.get? place = none ∧ t.target p = .ok (place, false)) ∧
      t.get? place ≠ some .directory ∧
      (t.get? place = some .void ∧ t' = t ∨ t' = t.put place (.file b)) := by
  rw [write] at h
  split at h
  case h_1 place hwalk =>
    split at h
    case h_1 => cases h
    case h_2 hvoid =>
      cases h
      exact ⟨place, .inl hwalk, by simp [hvoid], .inl ⟨hvoid, rfl⟩⟩
    case h_3 hdirectory _ =>
      cases h
      exact ⟨place, .inl hwalk, hdirectory, .inr rfl⟩
  case h_2 hwalk =>
    split at h
    case isFalse => cases h
    case isTrue =>
      split at h
      case h_1 => cases h
      case h_2 place trailing htarget =>
        cases trailing with
        | true => cases h
        | false =>
          cases h
          -- The walk did not reach the target, so nothing is there.
          have hnone : t.get? place = none := by
            cases hplace : t.get? place with
            | none => rfl
            | some e =>
              rw [walk_of_target htarget (Keeps.refl t) (by rw [hplace]; rfl)] at hwalk
              cases hwalk
          exact ⟨place, .inr ⟨hnone, htarget⟩, by simp [hnone], .inr rfl⟩

/-- **A write that succeeds** makes the path lead to the file, and changes nothing else.
Unlike `write_place`, this speaks of the tree afterwards. -/
theorem write_cases (h : t.write p b = .ok t') :
    ∃ place, t'.walk p = .ok place ∧ t.get? place ≠ some .directory ∧
      (t.get? place = some .void ∧ t' = t ∨ t' = t.put place (.file b)) := by
  obtain ⟨place, hleads, hdirectory, hresult⟩ := write_place h
  have hkeeps : Keeps t t' := by
    rcases hresult with ⟨-, rfl⟩ | rfl
    · exact Keeps.refl _
    · exact Keeps.put hdirectory _
  refine ⟨place, ?_, hdirectory, hresult⟩
  rcases hleads with hwalk | ⟨hnone, htarget⟩
  · exact hkeeps.walk hwalk
  · -- A new place is no device, so the file is there.
    have hsome : (t'.get? place).isSome := by
      have hne : place ≠ [] := by
        rintro rfl
        cases hnone
      rcases hresult with ⟨hvoid, -⟩ | rfl
      · rw [hnone] at hvoid
        cases hvoid
      · rw [get?_put t hne, if_pos rfl]
        rfl
    exact walk_of_target htarget hkeeps hsome

/-- The file that a path leads to is what is read. -/
theorem read_of_walk {place : Location} (hwalk : t.walk p = .ok place)
    (hfile : t.get? place = some (.file b)) : t.read p = .ok b := by
  rw [read, hwalk]
  dsimp only
  rw [hfile]

/-! ### Making directories -/

/-- Nothing has changed but that there are more directories. Unlike in `Keeps`, every place
that held something still holds the same. -/
structure Grows (t t' : Tree) : Prop where
  get? : ∀ q, t'.get? q = t.get? q ∨ (t.get? q = none ∧ t'.get? q = some .directory)
  current : t'.current = t.current

namespace Grows

/-- A tree is grown from itself. -/
theorem refl (t : Tree) : Grows t t := ⟨fun _ => .inl rfl, rfl⟩

/-- A tree may grow twice. What is new in the first step is a directory, so the second
leaves it. -/
theorem trans (h : Grows t t') (h' : Grows t' t'') : Grows t t'' := by
  refine ⟨fun q => ?_, h'.current.trans h.current⟩
  rcases h'.get? q with hq' | ⟨hnone, hq'⟩ <;> rcases h.get? q with hq | ⟨hnone', hq⟩
  · exact .inl (hq'.trans hq)
  · exact .inr ⟨hnone', hq'.trans hq⟩
  · exact .inr ⟨hq ▸ hnone, hq'⟩
  · exact .inr ⟨hnone', hq'⟩

end Grows

/-- Making a directory changes no file: it is made only where nothing is. -/
theorem makeDirectory_grows (h : t.makeDirectory p = .ok t') : Grows t t' := by
  rw [makeDirectory] at h
  split at h
  case h_1 => cases h
  case h_2 place _ _ =>
    split at h
    case isTrue => cases h
    case isFalse hnone =>
      cases h
      have hnone : t.get? place = none := by simpa using hnone
      have hne : place ≠ [] := by
        rintro rfl
        cases hnone
      refine ⟨fun q => ?_, current_put t place _⟩
      rw [get?_put t hne]
      by_cases hq : q = place
      · rw [if_pos hq]
        exact .inr ⟨hq ▸ hnone, rfl⟩
      · rw [if_neg hq]
        exact .inl rfl

/-- Making a directory and those above it changes no file. The induction is on the fuel, as
each round goes one directory up. -/
theorem makeDirectoriesFrom_grows {fuel : Nat} (h : t.makeDirectoriesFrom fuel p = .ok t') :
    Grows t t' := by
  induction fuel generalizing t' p with
  | zero => cases h
  | succ fuel ih =>
    rw [makeDirectoriesFrom] at h
    split at h
    case isTrue =>
      cases h
      exact Grows.refl t
    case isFalse =>
      split at h
      case h_1 hmade =>
        cases h
        exact makeDirectory_grows hmade
      case h_2 =>
        split at h
        case h_1 => cases h
        case h_2 dir _ =>
          -- The directory above is made first, and then this one in what has come of that.
          cases habove : t.makeDirectoriesFrom fuel dir with
          | error fault =>
            rw [habove] at h
            cases h
          | ok above =>
            rw [habove] at h
            dsimp only [bind, Except.bind] at h
            split at h
            case h_1 hmade =>
              cases h
              exact (ih habove).trans (makeDirectory_grows hmade)
            case h_2 =>
              split at h <;> cases h
              exact ih habove
      case h_3 =>
        split at h <;> cases h
        exact Grows.refl t

/-- Making directories changes no file, so what `render_keeps_apart` says of other places
starts from here. -/
theorem makeDirectories_grows (h : t.makeDirectories p = .ok t') : Grows t t' :=
  makeDirectoriesFrom_grows h

end ScriptMatrix.Sandbox.Tree

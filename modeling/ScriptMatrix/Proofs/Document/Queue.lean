import ScriptMatrix.Proofs.Document.Stack

/-!
# `ScriptMatrix.Proofs.Document.Queue`: a source is a queue of lines

Seen from outside, a source is the list of the lines that are still to
come (`Source.pending`). A call for the next line takes the head of that
list, an include puts the lines of a document in front of it, and an
include that fails changes nothing. `Source.Served` says so.

`Source.run` makes any number of calls one after the other. `run_queue`
proves that a source serves every call this way, whatever calls came
before, and what follows for the whole run: each line that is given is
the line of its document that its number says, and the lines that came in
are those that were given and those still to come.

The files do not change, and each file that can be opened can be read
(`Files.Readable`): directories are left out.
-/

set_option autoImplicit false

namespace ScriptMatrix

namespace Files

/-- Every file that can be opened can be read. A directory can be opened and not read, and
would stop a source in the middle. -/
def Readable (fs : Files) : Prop := ∀ file, fs.content file ≠ .directory

/-- The lines of a file with their places under a path. -/
def linesAt (fs : Files) (path : Path) (file : Nat) : List SourceLine :=
  match fs.content file with
  | .bytes c => numbered path 0 (linesOf c)
  | _ => []

end Files

namespace Source

/-- The calls that a source takes. -/
inductive Call where
  | nextLine
  | inclusion (path : String)
  deriving Repr, DecidableEq

/-- What a source answers to a call. -/
inductive Answer where
  | line (l : SourceLine)
  | atEnd
  | included
  | failed (e : Error)
  deriving Repr, DecidableEq

/-- The line that an answer gives. -/
def Answer.line? : Answer → Option SourceLine
  | .line l => some l
  | _ => none

/-- One call: the answer, and the source after it. -/
def call (fs : Files) (s : Source) : Call → Answer × Source
  | .nextLine =>
    match s.nextLine with
    | (.ok (some l), s') => (.line l, s')
    | (.ok none, s') => (.atEnd, s')
    | (.error e, s') => (.failed e, s')
  | .inclusion p =>
    match s.include? fs p with
    | .ok s' => (.included, s')
    | .error e => (.failed e, s)

/-- Calls one after the other: the answers, and the source after them. -/
def run (fs : Files) (s : Source) : List Call → List Answer × Source
  | [] => ([], s)
  | c :: calls =>
    let (a, s') := s.call fs c
    let (answers, s'') := run fs s' calls
    (a :: answers, s'')

/-- The lines that come in with a call that was answered: those of the document that an
include has found, if it was not refused. -/
def entered (fs : Files) (rootDir : Path) : Call × Answer → List SourceLine
  | (.inclusion p, .included) =>
    match fs.find? rootDir p with
    | some (path, file) => fs.linesAt path file
    | none => []
  | _ => []

/-- Why an include fails: its path names no file, a file that is open, or
a file that cannot be opened. -/
inductive Refused (fs : Files) (s : Source) (p : String) : Error → Prop where
  | notFound (hfind : fs.find? s.rootDir p = none) :
      Refused fs s p (.resourceNotFound p [⟨p⟩, s.rootDir.join p])
  | cycle (path : Path) (file : Nat) (hfind : fs.find? s.rootDir p = some (path, file))
      (hopen : file ∈ s.frames.map (·.file)) : Refused fs s p (.includeCycle path)
  | closed (path : Path) (file : Nat) (fault : Fault)
      (hfind : fs.find? s.rootDir p = some (path, file))
      (hclosed : fs.content file = .closed fault) : Refused fs s p (.unreadable path fault)

/-- How a queue of lines serves a call. The next line is the head of the
lines to come and leaves their tail; when there is none, no document
stays open. An include puts the lines of the document that it finds in
front, on top of what is open, or leaves the source as it was. -/
inductive Served (fs : Files) (s : Source) : Call → Answer × Source → Prop where
  | line (l : SourceLine) (s' : Source) (hpending : s.pending = l :: s'.pending)
      (hdir : s'.rootDir = s.rootDir) : Served fs s .nextLine (.line l, s')
  | atEnd (s' : Source) (hpending : s.pending = []) (hdepth : s'.depth = 0)
      (hdir : s'.rootDir = s.rootDir) : Served fs s .nextLine (.atEnd, s')
  | included (p : String) (path : Path) (file : Nat) (s' : Source)
      (hfind : fs.find? s.rootDir p = some (path, file))
      (hpending : s'.pending = fs.linesAt path file ++ s.pending)
      (hdepth : s'.depth = s.depth + 1) (hdir : s'.rootDir = s.rootDir) :
      Served fs s (.inclusion p) (.included, s')
  | refused (p : String) (e : Error) (hwhy : Refused fs s p e) :
      Served fs s (.inclusion p) (.failed e, s)

/-! ### One call -/

/-- Documents that have nothing left have no lines to come, so closing them leaves the queue
as it is. -/
theorem pending_closed {done frames : List Frame} (hdone : ∀ g ∈ done, g.unread = .ok []) :
    (done ++ frames).flatMap Frame.pending = frames.flatMap Frame.pending := by
  have hnone : done.flatMap Frame.pending = [] := by
    refine List.flatMap_eq_nil_iff.mpr fun g hg => ?_
    rw [Frame.pending, Frame.lines_of_ok (hdone g hg), linesOf_nil, numbered_nil]
  rw [List.flatMap_append, hnone, List.nil_append]

/-- A document of a source that can be read is no directory, and can be read itself. -/
theorem Sound.unread_ne_error {fs : Files} {s : Source} (hfs : fs.Readable) (h : s.Sound fs)
    {f : Frame} (hf : f ∈ s.frames) (fault : Fault) : f.unread ≠ .error fault := by
  cases (h.follows f hf).rest with
  | text c u hc hu => simp [hu]
  | directory hc => exact absurd hc (hfs f.file)

/-- A queue serves the call for the next line. Of the ways that `Asked` lists, a source
cannot be stuck where files are `Readable`. -/
theorem Sound.nextLine_served {fs : Files} {s : Source} (hfs : fs.Readable) (h : s.Sound fs) :
    Served fs s .nextLine (s.call fs .nextLine) := by
  have hasked := nextOf_asked s.frames
  unfold call Source.nextLine
  generalize nextOf s.frames = r at hasked
  cases hasked with
  | atEnd hall =>
    have hnone : s.pending = [] := by
      have hclosed : (s.frames ++ []).flatMap Frame.pending = [] := pending_closed hall
      rwa [List.append_nil] at hclosed
    exact .atEnd _ hnone rfl rfl
  | stuck done f rest fault hframes hdone hf =>
    -- Only a directory can stop a source, and there is none.
    exact absurd hf (h.unread_ne_error hfs (by simp [hframes]) fault)
  | line done f rest l u hframes hdone hf =>
    -- Behind what is closed, the line is the first one to come.
    refine .line _ _ ?_ rfl
    rw [pending, hframes, pending_closed hdone, List.flatMap_cons, Frame.pending, hf, numbered_cons]
    rfl

/-- A document that is put on top has the lines of its file to come, in front of all others. -/
theorem pending_push {fs : Files} {s s' : Source} {path : Path} {file : Nat}
    (h : push fs s path file = .ok s') : s'.pending = fs.linesAt path file ++ s.pending := by
  obtain ⟨f, rfl, rfl, rfl, hline, -, hrest⟩ := push_ok h
  have hlines : f.pending = fs.linesAt f.path f.file := by
    cases hrest with
    | text c u hc hu hlines =>
      rw [hline, List.drop_zero] at hlines
      rw [Frame.pending, Frame.lines_of_ok hu, hlines, hline, Files.linesAt, hc]
    | directory hc hu =>
      rw [Frame.pending, Frame.lines_of_error hu, Files.linesAt, hc, numbered_nil]
  rw [pending, List.flatMap_cons, hlines]
  rfl

/-- A document that cannot be put on top is open already, or it cannot be opened. These are
the last two ways of `Refused`. -/
theorem push_error {fs : Files} {s : Source} {path : Path} {file : Nat} {e : Error}
    (h : push fs s path file = .error e) :
    (file ∈ s.frames.map (·.file) ∧ e = .includeCycle path) ∨
      ∃ fault, fs.content file = .closed fault ∧ e = .unreadable path fault := by
  -- Whether the file is open already is asked before its content is looked at.
  unfold push at h
  split at h
  · rename_i hopen
    cases h
    obtain ⟨f, hf, hfile⟩ := List.any_eq_true.mp hopen
    exact .inl ⟨List.mem_map.mpr ⟨f, hf, by simpa using hfile⟩, rfl⟩
  · cases hc : fs.content file with
    | bytes c => simp [hc] at h
    | directory => simp [hc] at h
    | closed fault =>
      rw [hc] at h
      cases h
      exact .inr ⟨fault, rfl, rfl⟩

/-- The call for an include that succeeds. -/
theorem call_of_include?_ok {fs : Files} {s s' : Source} {p : String}
    (h : s.include? fs p = .ok s') : s.call fs (.inclusion p) = (.included, s') := by
  simp only [call, h]

/-- The call for an include that fails. -/
theorem call_of_include?_error {fs : Files} {s : Source} {p : String} {e : Error}
    (h : s.include? fs p = .error e) : s.call fs (.inclusion p) = (.failed e, s) := by
  simp only [call, h]

/-- A queue serves an include, for all files. It is found and goes on top, is found and
refused by `push`, or is not found. -/
theorem inclusion_served (fs : Files) (s : Source) (p : String) :
    Served fs s (.inclusion p) (s.call fs (.inclusion p)) := by
  cases hinclude : s.include? fs p with
  | ok s' =>
    rw [call_of_include?_ok hinclude]
    rw [include?_eq] at hinclude
    split at hinclude
    · rename_i path file hfind
      obtain ⟨f, rfl, -⟩ := push_ok hinclude
      exact .included p path file _ hfind (pending_push hinclude) rfl rfl
    · cases hinclude
  | error e =>
    rw [call_of_include?_error hinclude]
    refine .refused p e ?_
    rw [include?_eq] at hinclude
    split at hinclude
    · rename_i path file hfind
      rcases push_error hinclude with ⟨hopen, rfl⟩ | ⟨fault, hclosed, rfl⟩
      · exact .cycle path file hfind hopen
      · exact .closed path file fault hfind hclosed
    · rename_i hfind
      cases hinclude
      exact .notFound hfind

/-- A queue serves every call: the step lemma of this module. -/
theorem Sound.call_served {fs : Files} {s : Source} (hfs : fs.Readable) (h : s.Sound fs)
    (c : Call) : Served fs s c (s.call fs c) := by
  cases c with
  | nextLine => exact h.nextLine_served hfs
  | inclusion p => exact inclusion_served fs s p

/-- A call keeps a source sound. Together with `call_served` this lets an induction over
calls go on. -/
theorem Sound.call {fs : Files} {s : Source} (h : s.Sound fs) (c : Call) :
    (s.call fs c).2.Sound fs := by
  cases c with
  | nextLine =>
    have hstate : (s.call fs .nextLine).2 = s.nextLine.2 := by
      unfold Source.call
      rcases s.nextLine with ⟨_ | _ | _, s'⟩ <;> rfl
    rw [hstate]
    exact h.nextLine
  | inclusion p =>
    cases hinclude : s.include? fs p with
    | ok s' =>
      rw [call_of_include?_ok hinclude]
      exact h.include? hinclude
    | error e =>
      rw [call_of_include?_error hinclude]
      exact h

/-- What a call gives, and what is still to come after it, is what was to come before it and
what came in with it. Order is left out here, since an include puts its lines in front;
`Served` keeps it. -/
theorem Served.perm {fs : Files} {s : Source} {c : Call} {r : Answer × Source}
    (h : Served fs s c r) :
    (r.1.line?.toList ++ r.2.pending).Perm (s.pending ++ entered fs s.rootDir (c, r.1)) := by
  cases h with
  | line l s' hpending => simp [Answer.line?, entered, hpending]
  | atEnd s' hpending hdepth =>
    -- Depth zero is no open document, so nothing is to come behind the end either.
    have hnone : s'.pending = [] := by
      rw [pending, List.length_eq_zero_iff.mp hdepth, List.flatMap_nil]
    simp [Answer.line?, entered, hpending, hnone]
  | included p path file s' hfind hpending =>
    simp only [Answer.line?, entered, hfind, hpending, Option.toList_none, List.nil_append]
    exact List.perm_append_comm
  | refused p e => simp [Answer.line?, entered]

/-- A call leaves the root directory, so that `entered` means the same for all calls of a
run. -/
theorem Served.rootDir_eq {fs : Files} {s : Source} {c : Call} {r : Answer × Source}
    (h : Served fs s c r) : r.2.rootDir = s.rootDir := by
  cases h with
  | line l s' hpending hdir => exact hdir
  | atEnd s' hpending hdepth hdir => exact hdir
  | included p path file s' hfind hpending hdepth hdir => exact hdir
  | refused p e => rfl

/-- A line that is given was the first of those to come, so what is known of these holds of
it. -/
theorem Served.mem_pending {fs : Files} {s s' : Source} {c : Call} {l : SourceLine}
    (h : Served fs s c (.line l, s')) : l ∈ s.pending := by
  cases h with
  | line l s' hpending => simp [hpending]

/-- A line still to come is the line of its document that its number says. `Frame.Rest` has
the lines behind those that are read, and `numbered` counts on from there. -/
theorem Sound.nth_line {fs : Files} {s : Source} (h : s.Sound fs) {l : SourceLine}
    (hl : l ∈ s.pending) :
    ∃ file c, fs.resolve l.place.path = some file ∧ fs.content file = .bytes c ∧
      0 < l.place.line ∧ (linesOf c)[l.place.line - 1]? = some l.bytes := by
  obtain ⟨f, hf, hlf⟩ := List.mem_flatMap.mp hl
  obtain ⟨hpath, i, hline, hi⟩ := mem_numbered hlf
  have hfollows := h.follows f hf
  cases hfollows.rest with
  | text c u hc hu hlines =>
    rw [Frame.lines_of_ok hu, hlines, List.getElem?_drop] at hi
    refine ⟨f.file, c, by rw [hpath]; exact hfollows.named, hc, by omega, ?_⟩
    rw [hline, Nat.add_sub_cancel]
    exact hi
  | directory hc hu =>
    rw [Frame.lines_of_error hu] at hi
    simp at hi

/-! ### Any number of calls -/

/-- Calls keep a source sound, one after the other. -/
theorem Sound.run {fs : Files} {s : Source} (h : s.Sound fs) (calls : List Call) :
    (s.run fs calls).2.Sound fs := by
  induction calls generalizing s with
  | nil => exact h
  | cons c calls ih => exact ih (h.call c)

/-- Every line that calls give is the line of its document that its number says. It was to
come at its own call, in a source that was sound. -/
theorem Sound.nth_line_of_run {fs : Files} {s : Source} (hfs : fs.Readable) (h : s.Sound fs)
    (calls : List Call) {l : SourceLine} (hl : .line l ∈ (s.run fs calls).1) :
    ∃ file c, fs.resolve l.place.path = some file ∧ fs.content file = .bytes c ∧
      0 < l.place.line ∧ (linesOf c)[l.place.line - 1]? = some l.bytes := by
  induction calls generalizing s with
  | nil => simp [Source.run] at hl
  | cons c calls ih =>
    rw [Source.run, List.mem_cons] at hl
    -- The line is given by the first call, in a sound source, or by a later one.
    rcases hl with hl | hl
    · have hserved := h.call_served hfs c
      rw [← Prod.eta (s.call fs c), ← hl] at hserved
      exact h.nth_line hserved.mem_pending
    · exact ih (h.call c) hl

/-- What calls give, and what is still to come after them, is what was to come before them
and what came in with them. The induction puts `Served.perm` of one call in front of the
rest of the run. -/
theorem Sound.run_perm {fs : Files} {s : Source} (hfs : fs.Readable) (h : s.Sound fs)
    (calls : List Call) :
    ((s.run fs calls).1.filterMap Answer.line? ++ (s.run fs calls).2.pending).Perm
      (s.pending ++ (calls.zip (s.run fs calls).1).flatMap (entered fs s.rootDir)) := by
  induction calls generalizing s with
  | nil => simp [Source.run]
  | cons c calls ih =>
    have hserved := h.call_served hfs c
    have hrest := ih (h.call c)
    rw [hserved.rootDir_eq] at hrest
    have hgiven : (s.run fs (c :: calls)).1.filterMap Answer.line?
        = (s.call fs c).1.line?.toList
          ++ ((s.call fs c).2.run fs calls).1.filterMap Answer.line? := by
      rw [Source.run, List.filterMap_cons]
      cases (s.call fs c).1.line? <;> rfl
    rw [hgiven, List.append_assoc]
    -- The rest of the run is exchanged first, then the first call.
    refine (hrest.append_left _).trans ?_
    rw [← List.append_assoc]
    refine (hserved.perm.append_right _).trans ?_
    rw [List.append_assoc]
    rfl

/-- The source of a root document has the lines of that document to come, and nothing else
is open. -/
theorem start_pending {fs : Files} {root : Path} {s : Source} (h : start fs root = .ok s) :
    ∃ file, fs.resolve root = some file ∧ s.pending = fs.linesAt root file ∧ s.depth = 1 := by
  unfold start at h
  split at h
  · cases h
  · rename_i file hfile
    have hpending := pending_push h
    obtain ⟨f, rfl, -⟩ := push_ok h
    exact ⟨file, hfile, by simpa [pending] using hpending, rfl⟩

/-- **A source is a queue of lines.** It starts with the lines of the root
document. After any calls it serves the next one as a queue does. Each
line that is given is the line of its document that its number says. No
line is lost or given twice: up to their order, the lines given and those
still to come are the lines of the root document and of each include, as
often as it was included. -/
theorem run_queue (fs : Files) (hfs : fs.Readable) (root : Path) (s₀ : Source)
    (hstart : start fs root = .ok s₀) (calls : List Call) :
    (∃ file, fs.resolve root = some file ∧ s₀.pending = fs.linesAt root file ∧ s₀.depth = 1) ∧
    (∀ c, Served fs (s₀.run fs calls).2 c ((s₀.run fs calls).2.call fs c)) ∧
    (∀ l, .line l ∈ (s₀.run fs calls).1 →
      ∃ file c, fs.resolve l.place.path = some file ∧ fs.content file = .bytes c ∧
        0 < l.place.line ∧ (linesOf c)[l.place.line - 1]? = some l.bytes) ∧
    ((s₀.run fs calls).1.filterMap Answer.line? ++ (s₀.run fs calls).2.pending).Perm
      (s₀.pending ++ (calls.zip (s₀.run fs calls).1).flatMap (entered fs s₀.rootDir)) := by
  have hsound := start_sound hstart
  refine ⟨start_pending hstart, (hsound.run calls).call_served hfs, ?_, ?_⟩
  · exact fun l hl => hsound.nth_line_of_run hfs calls hl
  · exact hsound.run_perm hfs calls

/-- `run_queue` where an include comes between two lines of the root
document and a second one is refused. -/
theorem run_queue_between_lines :
    let fs : Files :=
      ⟨[.bytes (Text.encode "a\nb"), .bytes (Text.encode "c\n")],
        fun p => if p = ⟨"root"⟩ then some 0 else if p = ⟨"./child"⟩ then some 1 else none⟩
    let s₀ : Source := ⟨⟨"."⟩, [⟨⟨"root"⟩, 0, .ok (Text.encode "a\nb"), 0⟩]⟩
    let calls : List Call :=
      [.nextLine, .inclusion "child", .inclusion "root", .nextLine, .nextLine, .nextLine]
    fs.Readable ∧ start fs ⟨"root"⟩ = .ok s₀ ∧
      (s₀.run fs calls).1 =
        [.line ⟨Text.encode "a", ⟨"root"⟩, 1⟩, .included, .failed (.includeCycle ⟨"root"⟩),
          .line ⟨Text.encode "c", ⟨"./child"⟩, 1⟩, .line ⟨Text.encode "b", ⟨"root"⟩, 2⟩, .atEnd] ∧
      ∀ c, Served fs (s₀.run fs calls).2 c ((s₀.run fs calls).2.call fs c) := by
  intro fs s₀ calls
  have hfs : fs.Readable := by
    intro file
    match file with
    | 0 => simp [fs, Files.content]
    | 1 => simp [fs, Files.content]
    | n + 2 => simp [fs, Files.content]
  have hstart : start fs ⟨"root"⟩ = .ok s₀ := by
    have hdir : directoryOf ⟨"root"⟩ = ⟨"."⟩ := by decide +kernel
    rw [start, show fs.resolve ⟨"root"⟩ = some 0 from rfl, hdir]
    rfl
  exact ⟨hfs, hstart, by decide +kernel, (run_queue fs hfs ⟨"root"⟩ s₀ hstart calls).2.1⟩

end Source

end ScriptMatrix

import RpcBindings.Proofs.Support

/-! What a store of support files answers, call after call, whatever becomes of the disk in between.
The disk decides about a file as long as no call has found it; the first content that is found is the
answer to every later call. A call that fails leaves the store as it was, so that it makes no
difference to any other one. -/
namespace RpcBindings

open Outcome

namespace SupportStore

/-! ### Calls -/

/-- What a store is called for: the content of a support file, or a copy of it that a value names. -/
inductive Call where
  | read (file : String)
  | bundle (file : String) (name : Value)

def Call.file : Call → String
  | .read file => file
  | .bundle file _ => file

inductive Reply where
  | content (bytes : ByteArray)
  | copy (made : SupportCopy)

/-- The content of the file that a reply is about. -/
def Reply.bytes : Reply → ByteArray
  | .content bytes => bytes
  | .copy made => made.content

/-- The reply to a call on a file that has the content. -/
def Call.reply (c : Call) (bytes : ByteArray) : Reply :=
  match c with
  | .read _ => .content bytes
  | .bundle file name => .copy ⟨if name.truthy then name else .text file, bytes⟩

@[simp] theorem Call.bytes_reply (c : Call) (bytes : ByteArray) : (c.reply bytes).bytes = bytes := by
  cases c <;> rfl

/-- The answer to a call, and the store as the call leaves it. -/
def answer (s : SupportStore) (d : Disk) (c : Call) : Except SupportError Reply × SupportStore :=
  match c with
  | .read file => ((s.read d file).1.map .content, (s.read d file).2)
  | .bundle file name => ((s.bundle d file name).1.map .copy, (s.bundle d file name).2)

/-- Every call reads the file and makes its reply from the content. -/
theorem answer_eq (s : SupportStore) (d : Disk) (c : Call) :
    s.answer d c = ((s.read d c.file).1.map c.reply, (s.read d c.file).2) := by
  cases c with
  | read file => rfl
  | bundle file name =>
    rw [answer, bundle, Call.file]
    rcases s.read d file with ⟨_ | _, _⟩ <;> rfl

/-! ### Histories -/

/-- What happens to a store: the disk becomes another one, or a call is made. -/
inductive Event where
  | change (disk : Disk)
  | call (c : Call)

/-- A store and the disk that it reads from. -/
structure Site where
  store : SupportStore
  disk : Disk

/-- A store that has read nothing, at a disk. -/
def opened (directory : Path) (disk : Disk) : Site := ⟨{ directory }, disk⟩

namespace Site

/-- The answer to a call. -/
def ask (w : Site) (c : Call) : Except SupportError Reply := (w.store.answer w.disk c).1

def step (w : Site) : Event → Site
  | .change disk => { w with disk }
  | .call c => { w with store := (w.store.answer w.disk c).2 }

def after (w : Site) (history : List Event) : Site := history.foldl step w

/-- The content of a file if it has been read before. -/
def kept? (w : Site) (file : String) : Option ByteArray := w.store.contents.lookup file

/-- What a call on a file finds: what has been read before, else what the disk shows now. -/
def sight (w : Site) (file : String) : Disk.Sight :=
  match w.kept? file with
  | some bytes => .ok bytes
  | none => w.disk.look (pathOf w.store.directory file)

/-- The error of a call on a file that the disk does not give. -/
def refusal (w : Site) (file : String) (error : DiskError) : SupportError :=
  ⟨file, w.store.directory, ⟨error, pathOf w.store.directory file⟩, w.disk.list w.store.directory⟩

/-- Whether a call of a history on the file was answered with the content. -/
def Got (w : Site) (history : List Event) (file : String) (bytes : ByteArray) : Prop :=
  ∃ before c rest reply, history = before ++ .call c :: rest ∧ c.file = file ∧
    (w.after before).ask c = .ok reply ∧ reply.bytes = bytes

variable {w : Site} {c : Call} {file : String} {bytes : ByteArray}

@[simp] theorem after_append (w : Site) (history later : List Event) :
    w.after (history ++ later) = (w.after history).after later := List.foldl_append

@[simp] theorem after_cons (w : Site) (event : Event) (history : List Event) :
    w.after (event :: history) = (w.step event).after history := rfl

/-! ### One call -/

/-- A call that gives the content of its file: the content is kept from then on. -/
structure Gives (w : Site) (c : Call) (bytes : ByteArray) : Prop where
  found : w.sight c.file = .ok bytes
  answered : w.ask c = .ok (c.reply bytes)
  directory : (w.step (.call c)).store.directory = w.store.directory
  kept : ∀ file, (w.step (.call c)).kept? file = if file = c.file then some bytes else w.kept? file

/-- A call that the disk refuses: nothing is kept. -/
structure Refuses (w : Site) (c : Call) (error : DiskError) : Prop where
  new : w.kept? c.file = none
  refused : w.disk.look (pathOf w.store.directory c.file) = .error error
  answered : w.ask c = .error (w.refusal c.file error)
  same : w.step (.call c) = w

theorem gives_or_refuses (w : Site) (c : Call) :
    (∃ bytes, w.Gives c bytes) ∨ ∃ error, w.Refuses c error := by
  have asked : w.ask c = (w.store.read w.disk c.file).1.map c.reply := by rw [ask, answer_eq]
  have stepped : w.step (.call c) = { w with store := (w.store.read w.disk c.file).2 } := by
    rw [step, answer_eq]
  cases kept : w.kept? c.file with
  | some bytes =>
    have read : w.store.read w.disk c.file = (.ok bytes, w.store) := read_of_lookup kept w.disk
    rw [read] at asked stepped
    refine .inl ⟨bytes, by simp [sight, kept], asked, by rw [stepped], fun file => ?_⟩
    rw [stepped]
    split
    next here => rw [here, kept]
    next => rfl
  | none =>
    cases seen : w.disk.look (pathOf w.store.directory c.file) with
    | ok bytes =>
      rw [read_of_look kept seen] at asked stepped
      refine .inl ⟨bytes, by simp [sight, kept, seen], asked, by rw [stepped], fun file => ?_⟩
      rw [stepped, kept?, List.lookup_cons]
      by_cases here : file = c.file
      · simp [here]
      · simp [here, beq_false_of_ne here, kept?]
    | error error =>
      rw [read_of_fault kept seen] at asked stepped
      exact .inr ⟨error, kept, seen, asked, stepped⟩

theorem directory_step (w : Site) (event : Event) :
    (w.step event).store.directory = w.store.directory := by
  cases event with
  | change disk => rfl
  | call c =>
    rcases w.gives_or_refuses c with ⟨bytes, gives⟩ | ⟨error, refuses⟩
    · exact gives.directory
    · rw [refuses.same]

/-- A file that has been read stays as it was read. -/
theorem kept?_step_of_kept (event : Event) (kept : w.kept? file = some bytes) :
    (w.step event).kept? file = some bytes := by
  cases event with
  | change disk => exact kept
  | call c =>
    rcases w.gives_or_refuses c with ⟨found, gives⟩ | ⟨error, refuses⟩
    · rw [gives.kept]
      split
      next here =>
        have again := gives.found
        rw [← here, sight, kept] at again
        cases again
        rfl
      next => exact kept
    · rw [refuses.same, kept]

theorem ask_of_kept (kept : w.kept? c.file = some bytes) : w.ask c = .ok (c.reply bytes) := by
  rcases w.gives_or_refuses c with ⟨found, gives⟩ | ⟨error, refuses⟩
  · have again := gives.found
    rw [sight, kept] at again
    cases again
    exact gives.answered
  · rw [refuses.new] at kept
    cases kept

/-- A file that has not been read is what the disk shows now. -/
theorem ask_ok_iff_of_new (new : w.kept? c.file = none) {reply : Reply} :
    w.ask c = .ok reply ↔
      ∃ bytes, w.disk.look (pathOf w.store.directory c.file) = .ok bytes ∧ reply = c.reply bytes := by
  have sight_eq : w.sight c.file = w.disk.look (pathOf w.store.directory c.file) := by
    rw [sight, new]
  rcases w.gives_or_refuses c with ⟨bytes, gives⟩ | ⟨error, refuses⟩
  · simp [gives.answered, ← sight_eq, gives.found, eq_comm]
  · simp [refuses.answered, refuses.refused]

theorem refuses_of_ask {e : SupportError} (failed : w.ask c = .error e) :
    ∃ error, w.Refuses c error ∧ e = w.refusal c.file error := by
  rcases w.gives_or_refuses c with ⟨bytes, gives⟩ | ⟨error, refuses⟩
  · cases gives.answered.symm.trans failed
  · exact ⟨error, refuses, Except.error.inj (failed.symm.trans refuses.answered)⟩

/-- A refusal is reported unless the path cannot be looked for or the directory cannot be listed. -/
theorem breakdown?_refusal (w : Site) (file : String) (error : DiskError) :
    (w.refusal file error).breakdown? = none ↔
      error ≠ .nulInPath ∧ ∃ files, w.disk.list w.store.directory = .names files := by
  by_cases nul : error = .nulInPath
  · simp [SupportError.breakdown?, refusal, nul]
  · cases listed : w.disk.list w.store.directory <;>
      simp [SupportError.breakdown?, refusal, nul, listed]

/-! ### Calls one after the other -/

@[simp] theorem directory_after (w : Site) (history : List Event) :
    (w.after history).store.directory = w.store.directory := by
  induction history generalizing w with
  | nil => rfl
  | cons event history ih => rw [after_cons, ih, directory_step]

theorem kept?_after_of_kept (history : List Event) (kept : w.kept? file = some bytes) :
    (w.after history).kept? file = some bytes := by
  induction history generalizing w with
  | nil => exact kept
  | cons event history ih => exact ih (kept?_step_of_kept event kept)

/-- What is kept after one event more was kept before it or is what a call has just got. -/
theorem kept?_step_cases {event : Event} (kept : (w.step event).kept? file = some bytes) :
    w.kept? file = some bytes ∨
      ∃ c, event = .call c ∧ c.file = file ∧ w.ask c = .ok (c.reply bytes) := by
  cases event with
  | change disk => exact .inl kept
  | call c =>
    rcases w.gives_or_refuses c with ⟨found, gives⟩ | ⟨error, refuses⟩
    · rw [gives.kept] at kept
      split at kept
      next here =>
        cases kept
        exact .inr ⟨c, rfl, here.symm, gives.answered⟩
      next => exact .inl kept
    · rw [refuses.same] at kept
      exact .inl kept

theorem Got.concat {history : List Event} (got : w.Got history file bytes) (event : Event) :
    w.Got (history ++ [event]) file bytes := by
  obtain ⟨before, c, rest, reply, rfl, got⟩ := got
  exact ⟨before, c, rest ++ [event], reply, by simp, got⟩

/-- What is kept after a history is what was kept before it and what calls of the history got. -/
theorem kept?_after_iff (w : Site) (history : List Event) :
    (w.after history).kept? file = some bytes ↔
      w.kept? file = some bytes ∨ w.Got history file bytes := by
  constructor
  · intro kept
    induction history using List.reverseRecOn with
    | nil => exact .inl kept
    | append_singleton history event ih =>
      rw [after_append, after_cons] at kept
      rcases kept?_step_cases kept with before | ⟨c, rfl, here, answered⟩
      · exact (ih before).imp_right (·.concat event)
      · exact .inr ⟨history, c, [], _, rfl, here, answered, c.bytes_reply bytes⟩
  · rintro (old | ⟨before, c, rest, reply, rfl, rfl, answered, rfl⟩)
    · exact kept?_after_of_kept history old
    · rw [after_append, after_cons]
      refine kept?_after_of_kept rest ?_
      rcases (w.after before).gives_or_refuses c with ⟨found, gives⟩ | ⟨error, refuses⟩
      · cases gives.answered.symm.trans answered
        rw [gives.kept, if_pos rfl, c.bytes_reply]
      · cases refuses.answered.symm.trans answered

/-- A new store keeps what calls have got, and nothing else. -/
theorem kept?_opened_iff (directory : Path) (disk : Disk) (history : List Event) :
    ((opened directory disk).after history).kept? file = some bytes ↔
      (opened directory disk).Got history file bytes := by
  have empty : (opened directory disk).kept? file ≠ some bytes := nofun
  rw [kept?_after_iff, or_iff_right empty]

/-- Calls on a new store, with any changes of the disk before, between and after them. Once a call has
got the content of a file, every later call on that file gets the same content. Until then a call
succeeds exactly if the disk shows the file at that moment, and gets what it shows. A call that fails
leaves everything as it was, so that every later answer is the one that would be given without it; it
says why the disk refused the file, and reports that unless the path cannot even be looked for or the
directory cannot be listed. -/
theorem answers_settled (directory : Path) (disk : Disk) (history : List Event) (c : Call) :
    let start := opened directory disk
    let now := start.after history
    let path := pathOf directory c.file
    (∀ bytes, start.Got history c.file bytes → now.ask c = .ok (c.reply bytes)) ∧
    ((∀ bytes, ¬ start.Got history c.file bytes) →
      ∀ reply, now.ask c = .ok reply ↔ ∃ bytes, now.disk.look path = .ok bytes ∧ reply = c.reply bytes) ∧
    ∀ e, now.ask c = .error e →
      now.step (.call c) = now ∧
      (∀ later next,
        (start.after (history ++ .call c :: later)).ask next = (start.after (history ++ later)).ask next) ∧
      (∃ error, now.disk.look path = .error error ∧ e = now.refusal c.file error) ∧
      (e.breakdown? = none ↔
        path.toString.contains '\x00' = false ∧ ∃ files, now.disk.list directory = .names files) := by
  intro start now path
  have place : now.store.directory = directory := directory_after start history
  refine ⟨fun bytes got => ?_, fun never reply => ?_, fun e failed => ?_⟩
  · exact ask_of_kept ((kept?_opened_iff directory disk history).mpr got)
  · have new : now.kept? c.file = none := by
      refine Option.eq_none_iff_forall_ne_some.mpr fun bytes kept => never bytes ?_
      exact (kept?_opened_iff directory disk history).mp kept
    rw [ask_ok_iff_of_new new, place]
  · obtain ⟨error, refuses, rfl⟩ := refuses_of_ask failed
    have refused := refuses.refused
    rw [place] at refused
    refine ⟨refuses.same, fun later next => ?_, ⟨error, refused, rfl⟩, ?_⟩
    · have same : start.after (history ++ .call c :: later) = start.after (history ++ later) := by
        rw [after_append, after_append, after_cons]
        exact congrArg (·.after later) refuses.same
      rw [same]
    · have nul : error ≠ .nulInPath ↔ path.toString.contains '\x00' = false := by
        rw [← Bool.not_eq_true, ← Disk.look_nul_iff (d := now.disk), refused]
        simp
      rw [breakdown?_refusal, nul, place]

/-- A disk with one file in the directory of the support files. -/
def shelf (text : String) : Disk where
  working := ["work"]
  entries := [(["work", "rt", "k"], .file text.toUTF8), (["work", "rt"], .directory),
    (["work"], .directory)]

theorem look_shelf (text : String) :
    (shelf text).look (pathOf ⟨"", ["rt"]⟩ "k") = .ok text.toUTF8 := by
  have path : pathOf ⟨"", ["rt"]⟩ "k" = ⟨"", ["rt", "k"]⟩ := by decide +kernel
  have located : (shelf text).locate ⟨"", ["rt", "k"]⟩ = .ok ["work", "rt", "k"] := by
    rw [Disk.locate_eq_follow _ (by decide +kernel) (by decide +kernel)]
    rfl
  rw [path, Disk.look_of_located located rfl rfl]

theorem look_empty : Disk.empty.look (pathOf ⟨"", ["rt"]⟩ "z") = .error .notFound := by
  have path : pathOf ⟨"", ["rt"]⟩ "z" = ⟨"", ["rt", "z"]⟩ := by decide +kernel
  have located : Disk.empty.locate ⟨"", ["rt", "z"]⟩ = .error .notFound := by
    rw [Disk.locate_eq_follow _ (by decide +kernel) (by decide +kernel)]
    rfl
  rw [path, Disk.look, Disk.find, located]
  rfl

theorem list_empty : Disk.empty.list ⟨"", ["rt"]⟩ = .names [] := by
  have located : Disk.empty.locate ⟨"", ["rt"]⟩ = .ok ["work", "rt"] := by
    rw [Disk.locate_eq_follow _ (by decide +kernel) (by decide +kernel)]
    rfl
  have bare : Disk.empty.children ["work", "rt"] = [] := rfl
  simp [Disk.list, located, bare, Text.sorted]

/-- What a file holds is fixed by the first call that finds it, though the file is written over and
then removed, and though a call on another file fails and says so. -/
theorem answers_settled_rewritten :
    let start := opened ⟨"", ["rt"]⟩ .empty
    let history : List Event := [.change (shelf "x"), .call (.read "k"), .change (shelf "y"),
      .change .empty]
    let copy : Call := .bundle "k" (.string "lib/k")
    (start.after history).ask copy = .ok (.copy ⟨.string "lib/k", "x".toUTF8⟩) ∧
    ∃ e, (start.after history).ask (.read "z") = .error e ∧ e.breakdown? = none ∧
      (start.after (history ++ [.call (.read "z")])).ask copy =
        .ok (.copy ⟨.string "lib/k", "x".toUTF8⟩) := by
  intro start history copy
  have never : ∀ bytes, ¬ start.Got [.change (shelf "x")] "k" bytes := by
    rintro bytes ⟨before, c, rest, reply, split, -⟩
    have member : Event.call c ∈ [Event.change (shelf "x")] := split ▸ by simp
    simp at member
  have other : ∀ bytes, ¬ start.Got history "z" bytes := by
    rintro bytes ⟨before, c, rest, reply, split, file, -⟩
    have member : Event.call c ∈ history := split ▸ by simp
    obtain rfl : c = .read "k" := by simpa [history] using member
    exact absurd file (by decide)
  have found : (start.after [.change (shelf "x")]).ask (.read "k") = .ok (.content "x".toUTF8) :=
    ((answers_settled _ _ _ _).2.1 never _).mpr ⟨_, look_shelf "x", rfl⟩
  have got : start.Got history "k" "x".toUTF8 :=
    ⟨[.change (shelf "x")], .read "k", _, _, rfl, rfl, found, rfl⟩
  have fixed : (start.after history).ask copy = .ok (.copy ⟨.string "lib/k", "x".toUTF8⟩) :=
    (answers_settled _ _ _ copy).1 _ got
  have absent : ∀ reply, (start.after history).ask (.read "z") ≠ .ok reply := by
    intro reply answered
    obtain ⟨bytes, seen, -⟩ := ((answers_settled _ _ _ _).2.1 other reply).mp answered
    cases look_empty.symm.trans seen
  rcases ok_or_error ((start.after history).ask (.read "z")) with ⟨reply, answered⟩ | ⟨e, failed⟩
  · exact absurd answered (absent reply)
  · obtain ⟨-, later, -, report⟩ := (answers_settled _ _ _ _).2.2 e failed
    refine ⟨fixed, e, failed, report.mpr ⟨?_, [], list_empty⟩, ?_⟩
    · rw [← Bool.not_eq_true, ← Disk.look_nul_iff (d := .empty)]
      exact fun nul => by cases look_empty.symm.trans nul
    · exact (later [] copy).trans (by rw [List.append_nil]; exact fixed)

/-- The call is for a file by a name that no disk can look for: it fails and does not report it. -/
theorem nul_unreported : ∃ e,
    (opened ⟨"", ["rt"]⟩ .empty).ask (.read "a\x00b") = .error e ∧
      e.breakdown? = some (.disk ⟨.nulInPath, ⟨"", ["rt", "a\x00b"]⟩⟩) := by
  have path : pathOf ⟨"", ["rt"]⟩ "a\x00b" = ⟨"", ["rt", "a\x00b"]⟩ := by decide +kernel
  have refused : Disk.empty.look (pathOf ⟨"", ["rt"]⟩ "a\x00b") = .error .nulInPath := by
    have nul : (⟨"", ["rt", "a\x00b"]⟩ : Path).toString.toList.contains '\x00' = true := by
      decide +kernel
    rw [Disk.look_nul_iff, path]
    simpa using nul
  rcases (opened ⟨"", ["rt"]⟩ .empty).gives_or_refuses (.read "a\x00b") with
    ⟨bytes, gives⟩ | ⟨error, refuses⟩
  · cases refused.symm.trans gives.found
  · cases refused.symm.trans refuses.refused
    exact ⟨_, refuses.answered, by simpa [SupportError.breakdown?, refusal, opened, Call.file] using path⟩

end Site

end SupportStore

end RpcBindings

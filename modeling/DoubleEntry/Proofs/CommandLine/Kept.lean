/-
DoubleEntry/Proofs/CommandLine/Kept.lean

What a command keeps in the files.  A property of the files is given for each
location: what may stand there (`Files.Every`).  Directories do not count, so
that making one keeps every such property; opening a ledger or an event log
keeps it if bringing the tables up to date does, and a command on a ledger or
an event log keeps it if its action does (`onLedger_every`, `onLog_every`).

`Action.Ensures` is the triple that carries this over the text of the
commands.
-/
import DoubleEntry.Proofs.CommandLine.AlikeFiles
import DoubleEntry.Proofs.Json.Fields

namespace DoubleEntry.CommandLine

open DoubleEntry.Text DoubleEntry.CommandLine.Action

/-! ### Triples -/

namespace Action

variable {σ τ α β : Type} {P : σ → Prop} {Q : α → σ → Prop} {R : σ → Prop}

/-- Run in a state with `P`, the action gives a value with `Q`, or it stops in
a state with `R`. -/
structure Ensures (P : σ → Prop) (a : Action σ α) (Q : α → σ → Prop) (R : σ → Prop) : Prop where
  ends : ∀ s, P s →
    match a s with
    | (.ok x, s') => Q x s'
    | (.error _, s') => R s'

theorem ensures_pure {x : α} (h : ∀ s, P s → Q x s) : Ensures P (pure x) Q R :=
  ⟨fun s hs => h s hs⟩

theorem ensures_throw {t : Stop} (h : ∀ s, P s → R s) :
    Ensures P (throw t : Action σ α) Q R :=
  ⟨fun s hs => h s hs⟩

theorem ensures_bind {M : β → σ → Prop} {a : Action σ β} {f : β → Action σ α}
    (ha : Ensures P a M R) (hf : ∀ x, Ensures (M x) (f x) Q R) :
    Ensures P (a >>= f) Q R := by
  constructor
  intro s hs
  have hends := ha.ends s hs
  rw [bind_apply]
  generalize a s = ended at hends
  obtain ⟨_ | x, s'⟩ := ended
  · exact hends
  · exact (hf x).ends s' hends

/-- A result that is no error is known to be the one that was wanted. -/
theorem ensures_orFail {ε : Type} {failure : ε → Failure} {r : Except ε α}
    (hok : ∀ x, r = .ok x → ∀ s, P s → Q x s) (herror : ∀ s, P s → R s) :
    Ensures P (orFail failure r) Q R := by
  cases r with
  | ok x => exact ensures_pure (hok x rfl)
  | error e => exact ensures_throw herror

theorem ensures_orCrash {o : Option α} (hsome : ∀ x, o = some x → ∀ s, P s → Q x s)
    (hnone : ∀ s, P s → R s) : Ensures P (orCrash o) Q R := by
  cases o with
  | some x => exact ensures_pure (hsome x rfl)
  | none => exact ensures_throw hnone

/-- The state that is read is the state that there is. -/
theorem ensures_get : Ensures P (get : Action σ σ) (fun x s => x = s ∧ P s) R :=
  ⟨fun _ hs => ⟨rfl, hs⟩⟩

theorem ensures_set {Q : PUnit → σ → Prop} {x : σ} (h : ∀ s, P s → Q ⟨⟩ x) :
    Ensures P (set x : Action σ PUnit) Q R :=
  ⟨h⟩

theorem ensures_modify {Q : PUnit → σ → Prop} {f : σ → σ} (h : ∀ s, P s → Q ⟨⟩ (f s)) :
    Ensures P (modify f : Action σ PUnit) Q R :=
  ⟨fun s hs => h s hs⟩

theorem ensures_within {context : String} {a : Action σ α} (ha : Ensures P a Q R) :
    Ensures P (within context a) Q R := by
  constructor
  intro s hs
  have hends := ha.ends s hs
  rw [within_apply]
  generalize a s = ended at hends
  obtain ⟨t | x, s'⟩ := ended
  · cases t <;> exact hends
  · exact hends

/-- What the action leaves of the part is put back, however it ends. -/
theorem ensures_focus {P : τ → Prop} {Q : τ → Prop} {part : σ} {putBack : σ → τ → τ}
    {a : Action σ α} (h : ∀ t, P t → Q (putBack (a part).2 t)) :
    Ensures P (focus part putBack a) (fun _ => Q) Q := by
  constructor
  intro t ht
  have hback := h t ht
  unfold focus
  generalize a part = ended at hback
  obtain ⟨_ | x, s⟩ := ended <;> exact hback

/-- What holds however the action ends. -/
theorem Ensures.after {a : Action σ α} (h : Ensures P a (fun _ => R) R) {s : σ} (hs : P s) :
    R (a s).2 := by
  have hends := h.ends s hs
  generalize a s = ended at hends
  obtain ⟨_ | x, s'⟩ := ended <;> exact hends

end Action

/-! ### Files and directories -/

theorem FileNode.eq_ledger {n : FileNode} {db : Database} (h : n.ledger? = some db) :
    n = .ledger db := by
  cases n <;> cases h
  rfl

theorem FileNode.eq_log {n : FileNode} {log : EventLog} (h : n.log? = some log) :
    n = .log log := by
  cases n <;> cases h
  rfl

namespace Files

variable {fs fs' : Files} {l l' : Location} {n : FileNode}

theorem node?_put (hl : l ≠ []) :
    (fs.put l n).node? l' = if l' = l then some n else fs.node? l' := by
  cases l' with
  | nil =>
      rw [if_neg (Ne.symm hl)]
      rfl
  | cons name rest =>
      show ((l, n) :: fs.nodes.filter fun e => e.1 ≠ l).lookup (name :: rest) = _
      by_cases h : name :: rest = l
      · subst h
        simp
      · rw [if_neg h, Json.lookup_cons_of_ne h]
        exact Json.lookup_filter_ne h fs.nodes

/-- What is at a location, if it is no directory. -/
def file? (fs : Files) (l : Location) : Option FileNode :=
  match fs.node? l with
  | some .directory | none => none
  | some n => some n

theorem file?_of_node? (h : fs.node? l = some n) (hn : n ≠ .directory) : fs.file? l = some n := by
  unfold file?
  rw [h]
  cases n with
  | directory => exact absurd rfl hn
  | _ => rfl

theorem node?_of_file? (h : fs.file? l = some n) : fs.node? l = some n := by
  unfold file? at h
  split at h
  · cases h
  · cases h
  case h_3 m _ hnode => rw [hnode, Option.some.inj h]

theorem file?_eq_none_iff : fs.file? l = none ↔ fs.isFile l = false := by
  unfold file? isFile
  rcases fs.node? l with - | n
  · simp
  · cases n <;> simp

theorem file?_put (hl : l ≠ []) (hn : n ≠ .directory) :
    (fs.put l n).file? l' = if l' = l then some n else fs.file? l' := by
  by_cases h : l' = l
  · rw [if_pos h]
    exact file?_of_node? (by rw [node?_put hl, if_pos h]) hn
  · unfold file?
    rw [node?_put hl, if_neg h, if_neg h]

/-- A directory where there was no file changes no file. -/
theorem file?_put_directory (hl : l ≠ []) (h : fs.file? l = none) :
    (fs.put l .directory).file? = fs.file? := by
  funext l'
  by_cases hl' : l' = l
  · subst hl'
    rw [h]
    unfold file?
    rw [node?_put hl, if_pos rfl]
  · unfold file?
    rw [node?_put hl, if_neg hl']

/-- Making directories where there are no files changes no file. -/
theorem file?_makeSteps (ls : List Location) (hls : ∀ l ∈ ls, fs.file? l = none) :
    (ls.foldl (fun fs l => if fs.isDirectory l then fs else fs.put l .directory) fs).file? =
      fs.file? := by
  induction ls generalizing fs with
  | nil => rfl
  | cons l ls ih =>
      obtain ⟨hl, hls⟩ := List.forall_mem_cons.mp hls
      rw [List.foldl_cons]
      by_cases hdir : fs.isDirectory l = true
      · rw [if_pos hdir]
        exact ih hls
      · have hroot : l ≠ [] := fun h => hdir (h ▸ rfl)
        have hput := file?_put_directory hroot hl
        rw [if_neg hdir]
        exact (ih fun l' hl' => by rw [hput, hls l' hl']).trans hput

theorem file?_createDirectory (h : fs.createDirectory l = .ok fs') : fs'.file? = fs.file? := by
  unfold createDirectory at h
  split at h
  case isTrue => cases h
  case isFalse =>
    split at h
    case isTrue => cases h
    case isFalse hsteps =>
      obtain rfl := Except.ok.inj h
      apply file?_makeSteps
      intro step hstep
      rw [file?_eq_none_iff]
      have hnone := List.any_eq_false.mp (Bool.eq_false_iff.mpr hsteps)
      simpa using hnone step hstep

/-- What a file is opened with stands in it, or is new where there is no
file. -/
theorem openFile_ok {α : Type} {contents? : FileNode → Option α} {new a : α} {failure : String}
    {node : α → FileNode} (hnode : ∀ n a, contents? n = some a → n = node a)
    (hfile : ∀ a, node a ≠ .directory) (h : fs.openFile l contents? new failure = .ok a) :
    l ≠ [] ∧ ((fs.file? l = none ∧ a = new) ∨ fs.file? l = some (node a)) := by
  unfold openFile at h
  split at h
  case h_1 hnone =>
    refine ⟨?_, .inl ⟨?_, (Except.ok.inj h).symm⟩⟩
    · rintro rfl
      cases hnone
    · unfold file?
      rw [hnone]
  case h_2 n _ hsome =>
    cases hcontents : contents? n with
    | none =>
        rw [hcontents] at h
        cases h
    | some a' =>
        rw [hcontents] at h
        obtain rfl := Except.ok.inj h
        rw [hnode n a' hcontents] at hsome
        refine ⟨?_, .inr (file?_of_node? hsome (hfile a'))⟩
        -- at the root there is a directory
        rintro rfl
        exact hfile a' (Option.some.inj hsome).symm
  case h_3 => cases h

/-- A ledger that can be opened is one that is there, or a new one. -/
theorem openLedger_ok {db : Database} (h : fs.openLedger l = .ok db) :
    l ≠ [] ∧ ((fs.file? l = none ∧ db = {}) ∨ fs.file? l = some (.ledger db)) :=
  openFile_ok (fun _ _ => FileNode.eq_ledger) (by simp) h

/-- So is an event log. -/
theorem openLog_ok {log : EventLog} (h : fs.openLog l = .ok log) :
    l ≠ [] ∧ ((fs.file? l = none ∧ log = {}) ∨ fs.file? l = some (.log log)) :=
  openFile_ok (fun _ _ => FileNode.eq_log) (by simp) h

/-! ### Properties of the files -/

/-- At each location there is a file as it may be there, or none. -/
def Every (Φ : Location → Option FileNode → Prop) (fs : Files) : Prop :=
  ∀ l, Φ l (fs.file? l)

variable {Φ : Location → Option FileNode → Prop}

theorem Every.put (h : fs.Every Φ) (hl : l ≠ []) (hn : n ≠ .directory) (hΦ : Φ l (some n)) :
    (fs.put l n).Every Φ := by
  intro l'
  rw [file?_put hl hn]
  by_cases hl' : l' = l
  · rw [if_pos hl', hl']
    exact hΦ
  · rw [if_neg hl']
    exact h l'

/-- Only what is at the locations matters. -/
theorem Every.congr (h : fs.Every Φ) (hfiles : fs'.file? = fs.file?) : fs'.Every Φ := by
  intro l
  rw [hfiles]
  exact h l

end Files

/-! ### Opening -/

/-- Opening an event log or a ledger keeps the property, also where there was
no file. -/
structure KeptByOpening (Φ : Location → Option FileNode → Prop) : Prop where
  newLog : ∀ l log, ({} : EventLog).prepare = .ok log → Φ l none → Φ l (some (.log log))
  oldLog : ∀ l log log', EventLog.prepare log = .ok log' → Φ l (some (.log log)) →
    Φ l (some (.log log'))
  newLedger : ∀ l, Φ l none → Φ l (some (.ledger ({} : Database).migrate.2))
  oldLedger : ∀ l db, Φ l (some (.ledger db)) → Φ l (some (.ledger db.migrate.2))

section Opening

variable (h : Host) {Φ : Location → Option FileNode → Prop}

theorem findDirectory_ensures {P : Files → Prop} :
    (findDirectory h).Ensures P (fun _ => P) P := by
  unfold findDirectory
  split
  · exact ensures_pure fun _ hs => hs
  · exact ensures_throw fun _ hs => hs

theorem makeDirectory_ensures (dir : String) :
    (makeDirectory h dir).Ensures (Files.Every Φ) (fun _ => Files.Every Φ) (Files.Every Φ) := by
  unfold makeDirectory
  apply ensures_bind ensures_get
  intro fs
  apply ensures_bind (M := fun made _ => made.Every Φ)
  case ha =>
    apply ensures_orFail
    · rintro made hmade _ ⟨rfl, hfs⟩
      exact hfs.congr (Files.file?_createDirectory hmade)
    · rintro _ ⟨-, hfs⟩
      exact hfs
  intro made
  exact ensures_set fun _ hmade => hmade

theorem openLog_ensures (hΦ : KeptByOpening Φ) (dir : String) :
    (openLog h dir).Ensures (Files.Every Φ)
      (fun log fs => fs.Every Φ ∧ fs.file? (h.locate (Host.logPath dir)) = some (.log log))
      (Files.Every Φ) := by
  unfold openLog
  apply ensures_bind ensures_get
  intro fs
  -- the log before its tables are brought up to date, which is not in the files yet
  apply ensures_bind (M := fun log s =>
    s.Every Φ ∧ fs.openLog (h.locate (Host.logPath dir)) = .ok log ∧ s = fs)
  case ha =>
    apply ensures_orFail
    · rintro log hlog _ ⟨rfl, hfs⟩
      exact ⟨hfs, hlog, rfl⟩
    · rintro _ ⟨-, hfs⟩
      exact hfs
  intro log
  apply ensures_bind (M := fun log' s => s.Every Φ ∧ h.locate (Host.logPath dir) ≠ [] ∧
    Φ (h.locate (Host.logPath dir)) (some (.log log')))
  case ha =>
    apply ensures_orFail
    · rintro log' hlog' _ ⟨hfs, hopened, rfl⟩
      obtain ⟨hroot, ⟨hnone, rfl⟩ | hsome⟩ := Files.openLog_ok hopened
      · have hthere := hfs (h.locate (Host.logPath dir))
        rw [hnone] at hthere
        exact ⟨hfs, hroot, hΦ.newLog _ _ hlog' hthere⟩
      · have hthere := hfs (h.locate (Host.logPath dir))
        rw [hsome] at hthere
        exact ⟨hfs, hroot, hΦ.oldLog _ _ _ hlog' hthere⟩
    · rintro _ ⟨hfs, -⟩
      exact hfs
  intro log'
  apply ensures_bind (M := fun _ s => s.Every Φ ∧
    s.file? (h.locate (Host.logPath dir)) = some (.log log'))
  case ha =>
    apply ensures_modify
    rintro s ⟨hs, hroot, hthere⟩
    refine ⟨hs.put hroot (by simp) hthere, ?_⟩
    rw [Files.file?_put hroot (by simp), if_pos rfl]
  intro _
  exact ensures_pure fun _ hs => hs

theorem openLedger_ensures (hΦ : KeptByOpening Φ) (dir : String) :
    (openLedger h dir).Ensures (Files.Every Φ)
      (fun opened fs => fs.Every Φ ∧ opened.2.1 ≠ [] ∧
        Φ opened.2.1 (some (.ledger opened.2.2))) (Files.Every Φ) := by
  unfold openLedger
  apply ensures_bind ensures_get
  intro fs
  dsimp only
  apply ensures_bind (M := fun _ s => s.Every Φ)
  case ha =>
    apply ensures_orFail
    · rintro _ _ _ ⟨-, hfs⟩
      exact hfs
    · rintro _ ⟨-, hfs⟩
      exact hfs
  intro config
  apply ensures_bind ensures_get
  intro fs
  apply ensures_bind (M := fun db s =>
    s.Every Φ ∧ fs.openLedger (h.locate (config.dbPath dir)) = .ok db ∧ s = fs)
  case ha =>
    apply ensures_orFail
    · rintro db hdb _ ⟨rfl, hfs⟩
      exact ⟨hfs, hdb, rfl⟩
    · rintro _ ⟨-, hfs⟩
      exact hfs
  intro db
  apply ensures_bind (M := fun _ s => s.Every Φ ∧ h.locate (config.dbPath dir) ≠ [] ∧
    Φ (h.locate (config.dbPath dir)) (some (.ledger db.migrate.2)))
  case ha =>
    apply ensures_modify
    rintro _ ⟨hfs, hopened, rfl⟩
    have hthere := hfs (h.locate (config.dbPath dir))
    obtain ⟨hroot, ⟨hnone, rfl⟩ | hsome⟩ := Files.openLedger_ok hopened
    · rw [hnone] at hthere
      have hnew := hΦ.newLedger _ hthere
      exact ⟨hfs.put hroot (by simp) hnew, hroot, hnew⟩
    · rw [hsome] at hthere
      have hold := hΦ.oldLedger _ _ hthere
      exact ⟨hfs.put hroot (by simp) hold, hroot, hold⟩
  intro _
  apply ensures_bind (M := fun _ s => s.Every Φ ∧ h.locate (config.dbPath dir) ≠ [] ∧
    Φ (h.locate (config.dbPath dir)) (some (.ledger db.migrate.2)))
  case ha =>
    apply ensures_orFail
    · exact fun _ _ _ hs => hs
    · exact fun _ hs => hs.1
  intro _
  exact ensures_pure fun _ hs => hs

end Opening

/-! ### Commands -/

section Commands

variable {h : Host} {Φ : Location → Option FileNode → Prop} {fs : Files}

/-- A command on the ledger keeps what its action keeps. -/
theorem onLedger_every (hΦ : KeptByOpening Φ) (json : Bool)
    {act : Session → Action Database String}
    (hact : ∀ s : Session, s.env = h.surroundings → ∀ l db, Φ l (some (.ledger db)) →
      Φ l (some (.ledger (act s db).2)))
    (hfs : fs.Every Φ) : (onLedger h json act fs).2.Every Φ := by
  have hensures : (onLedger h json act).Ensures (Files.Every Φ) (fun _ => Files.Every Φ)
      (Files.Every Φ) := by
    unfold onLedger
    apply ensures_bind (findDirectory_ensures h)
    intro dir
    apply ensures_bind (ensures_within (makeDirectory_ensures h dir))
    intro _
    apply ensures_bind (ensures_within (openLedger_ensures h hΦ dir))
    rintro ⟨config, l, db⟩
    dsimp only
    apply ensures_bind (M := fun _ s => s.Every Φ ∧ l ≠ [] ∧ Φ l (some (.ledger db)))
    case ha =>
      apply ensures_orCrash
      · exact fun _ _ _ hs => hs
      · exact fun _ hs => hs.1
    intro lifetime
    apply ensures_focus
    rintro s ⟨hs, hroot, hdb⟩
    exact hs.put hroot (by simp) (hact _ rfl l db hdb)
  exact hensures.after hfs

/-- A command on the event log keeps what its action keeps. -/
theorem onLog_every (hΦ : KeptByOpening Φ) (json : Bool)
    {act : LogSession → Action EventLog String}
    (hact : ∀ s l log, Φ l (some (.log log)) → Φ l (some (.log (act s log).2)))
    (hfs : fs.Every Φ) : (onLog h json act fs).2.Every Φ := by
  have hensures : (onLog h json act).Ensures (Files.Every Φ) (fun _ => Files.Every Φ)
      (Files.Every Φ) := by
    unfold onLog
    apply ensures_bind (findDirectory_ensures h)
    intro dir
    apply ensures_bind (makeDirectory_ensures h dir)
    intro _
    apply ensures_bind (openLog_ensures h hΦ dir)
    intro log
    dsimp only
    apply ensures_focus
    rintro s ⟨hs, hthere⟩
    have hlog := hs (h.locate (Host.logPath dir))
    rw [hthere] at hlog
    have hroot : h.locate (Host.logPath dir) ≠ [] := by
      intro hnil
      rw [hnil] at hthere
      cases hthere
    exact hs.put hroot (by simp) (hact _ _ _ hlog)
  exact hensures.after hfs

/-- Opening the log for the event of a run keeps what opening keeps. -/
theorem openRecorder_every (hΦ : KeptByOpening Φ) (hfs : fs.Every Φ) :
    (openRecorder h fs).2.Every Φ ∧
      ∀ l log, (openRecorder h fs).1 = some (l, log) →
        (openRecorder h fs).2.file? l = some (.log log) := by
  have hensures : (opening h).Ensures (Files.Every Φ)
      (fun opened fs => fs.Every Φ ∧ fs.file? opened.1 = some (.log opened.2))
      (Files.Every Φ) := by
    unfold opening
    apply ensures_bind (findDirectory_ensures h)
    intro dir
    apply ensures_bind (makeDirectory_ensures h dir)
    intro _
    apply ensures_bind (openLog_ensures h hΦ dir)
    intro log
    exact ensures_pure fun _ hs => hs
  have hends := hensures.ends fs hfs
  rw [openRecorder_eq]
  generalize opening h fs = ended at hends
  obtain ⟨t | ⟨l, log⟩, fs'⟩ := ended
  · exact ⟨hends, fun _ _ hnone => nomatch hnone⟩
  · refine ⟨hends.1, ?_⟩
    intro l' log' hsome
    cases hsome
    exact hends.2

end Commands

/-! ### Runs -/

/-- The commands on the ledger, as actions on it. -/
def Session.work (s : Session) : Command → Action Database String
  | .account c => s.runAccount c
  | .transfer c => s.runTransfer c
  | .entry c => s.runEntry c
  | .user c => s.runUser c
  | .verify c => s.runVerify c
  | .status => s.runStatus
  | .logs _ => pure ""

/-- Every command but those on the event log is one on the ledger. -/
theorem Invocation.action_eq {i : Invocation} (hrecorded : i.command.isRecorded = true)
    (h : Host) : i.action h = onLedger h i.json fun s => s.work i.command := by
  obtain ⟨json, c⟩ := i
  cases c with
  | logs c => cases hrecorded
  | _ => rfl

/-- The others are on the event log. -/
theorem Invocation.exists_action_eq {i : Invocation} (hrecorded : i.command.isRecorded = false)
    (h : Host) : ∃ c, i.action h = onLog h i.json fun s => s.run c := by
  obtain ⟨json, c⟩ := i
  cases c with
  | logs c => exact ⟨c, rfl⟩
  | _ => cases hrecorded

/-- The log for the event of a run, if it leaves one and the log can be
opened. -/
def recorder (h : Host) (i : Invocation) (fs : Files) : Option (Location × EventLog) :=
  if i.command.isRecorded then (openRecorder h fs).1 else none

/-- What the command of a run ends with, and the files behind it, before the
event of the run is recorded. -/
def ended (h : Host) (i : Invocation) (fs : Files) : Except Stop String × Files :=
  i.action h (if i.command.isRecorded then (openRecorder h fs).2 else fs)

/-- What is reported leaves the files as they are. -/
theorem conclude_files (color json : Bool) (result : Except Stop String) (files : Files) :
    (conclude color json result files).files = files := by
  unfold conclude
  cases result with
  | ok text => rfl
  | error t =>
      cases t with
      | crash => rfl
      | failed f => cases json <;> rfl
      | unanswered question => cases json <;> rfl

/-- A run is its command, its event and its report. -/
theorem run_eq {args : List String} {i : Invocation} (hargs : parse args = .ok i) (h : Host)
    (fs : Files) :
    run h args fs = conclude h.color i.json (ended h i fs).1
      (recordEvent h (recorder h i fs) (eventOf h i.command (ended h i fs).1) (ended h i fs).2) := by
  unfold run
  rw [hargs]
  show runCommand h i fs = _
  unfold runCommand recorder ended
  cases i.command.isRecorded <;> rfl

/-- Arguments that do not fit lead to nothing. -/
theorem run_files_of_error {args : List String} {halt : Halt} (hargs : parse args = .error halt)
    (h : Host) (fs : Files) : (run h args fs).files = fs := by
  unfold run
  rw [hargs]
  cases halt <;> rfl

section Runs

variable {h : Host} {Φ : Location → Option FileNode → Prop} {fs : Files}

/-- The log for the event of a run was opened, and is a file. -/
theorem openRecorder_of_recorder {i : Invocation} {l : Location} {log : EventLog}
    (hrecorder : recorder h i fs = some (l, log)) :
    (openRecorder h fs).1 = some (l, log) ∧ l ≠ [] := by
  have hopened : (openRecorder h fs).1 = some (l, log) := by
    unfold recorder at hrecorder
    split at hrecorder
    · exact hrecorder
    · cases hrecorder
  have hanything : KeptByOpening fun _ _ => True :=
    ⟨fun _ _ _ _ => trivial, fun _ _ _ _ _ => trivial, fun _ _ => trivial, fun _ _ _ => trivial⟩
  have hfile := (openRecorder_every (h := h) hanything fun _ => trivial).2 l log hopened
  refine ⟨hopened, ?_⟩
  rintro rfl
  cases hfile

/-- A run keeps what its command keeps and its event keeps. -/
theorem run_every {args : List String} (hfs : fs.Every Φ)
    (hended : ∀ i, (ended h i fs).2.Every Φ)
    (hrecord : ∀ l log log' e, (openRecorder h fs).1 = some (l, log) →
      log.record logSource h.stamp e = .ok log' → Φ l (some (.log log'))) :
    (run h args fs).files.Every Φ := by
  cases hargs : parse args with
  | error halt =>
      rw [run_files_of_error hargs]
      exact hfs
  | ok i =>
      rw [run_eq hargs, conclude_files]
      unfold recordEvent
      split
      case h_2 => exact hended i
      case h_1 l log e hrecorder _ =>
        split
        case h_2 => exact hended i
        case h_1 log' hrecorded =>
          obtain ⟨hopened, hroot⟩ := openRecorder_of_recorder hrecorder
          exact (hended i).put hroot (by simp) (hrecord l log log' e hopened hrecorded)

end Runs

/-! ### Sequences of runs -/

/-- The files after some runs of the program, one after the other. -/
def after (fs : Files) (runs : List (Host × List String)) : Files :=
  runs.foldl (fun fs r => (run r.1 r.2 fs).files) fs

end DoubleEntry.CommandLine

/-
DoubleEntry/Proofs/CommandLine/AlikeFiles.lean

Commands on alike files.  Trees of files are alike if they are the same but
for the owners, balances and amounts in their ledgers.  On such trees the
program opens the same event log and ledgers that are alike, so that whatever
it does there ends alike (`Invocation.action_agree`).
-/
import DoubleEntry.Proofs.CommandLine.Alike

namespace DoubleEntry.CommandLine

open DoubleEntry.Text DoubleEntry.CommandLine.Action

/-! ### Alike files -/

/-- The same file, or ledgers that are alike. -/
inductive FileNode.Alike : FileNode → FileNode → Prop
  | same {n n' : FileNode} (h : n' = n) : Alike n n'
  | ledger {db db' : Database} (h : db.Alike db') : Alike (.ledger db) (.ledger db')

/-- The same files but for the owners, balances and amounts in ledgers. -/
def Files.Alike (fs fs' : Files) : Prop :=
  List.Forall₂ (fun e e' => e.1 = e'.1 ∧ e.2.Alike e'.2) fs.nodes fs'.nodes

/-- Related values are found under the same key. -/
theorem lookup_forall₂ {κ α : Type} [BEq κ] {R : α → α → Prop} {es es' : List (κ × α)}
    (h : List.Forall₂ (fun e e' => e.1 = e'.1 ∧ R e.2 e'.2) es es') (k : κ) :
    Option.Rel R (es.lookup k) (es'.lookup k) := by
  induction h with
  | nil => exact .none
  | @cons e e' es es' he _ ih =>
      obtain ⟨hkey, hvalue⟩ := he
      rw [List.lookup_cons, List.lookup_cons, ← hkey]
      cases k == e.1 with
      | true => exact .some hvalue
      | false => exact ih

namespace Files

variable {fs fs' : Files}

theorem Alike.node? (hfs : fs.Alike fs') (l : Location) :
    Option.Rel FileNode.Alike (fs.node? l) (fs'.node? l) := by
  cases l with
  | nil => exact .some (.same rfl)
  | cons name l => exact lookup_forall₂ hfs (name :: l)

theorem Alike.isDirectory_eq (hfs : fs.Alike fs') (l : Location) :
    fs'.isDirectory l = fs.isDirectory l := by
  have hnode := hfs.node? l
  unfold isDirectory
  generalize fs.node? l = n at hnode
  generalize fs'.node? l = n' at hnode
  cases hnode with
  | none => rfl
  | some h =>
      cases h with
      | same h => rw [h]
      | ledger h => rfl

theorem Alike.isFile_eq (hfs : fs.Alike fs') (l : Location) : fs'.isFile l = fs.isFile l := by
  have hnode := hfs.node? l
  unfold isFile
  generalize fs.node? l = n at hnode
  generalize fs'.node? l = n' at hnode
  cases hnode with
  | none => rfl
  | some h =>
      cases h with
      | same h => rw [h]
      | ledger h => rfl

theorem Alike.put (hfs : fs.Alike fs') (l : Location) {n n' : FileNode} (hn : n.Alike n') :
    (fs.put l n).Alike (fs'.put l n') := by
  refine .cons ⟨rfl, hn⟩ ?_
  apply List.rel_filter _ hfs
  rintro e e' ⟨hkey, -⟩
  dsimp only
  rw [hkey]

/-- Each step on the way is made in both trees or in neither. -/
theorem Alike.makeSteps (hfs : fs.Alike fs') (ls : List Location) :
    (ls.foldl (fun fs l => if fs.isDirectory l then fs else fs.put l .directory) fs).Alike
      (ls.foldl (fun fs l => if fs.isDirectory l then fs else fs.put l .directory) fs') := by
  induction ls generalizing fs fs' with
  | nil => exact hfs
  | cons l ls ih =>
      rw [List.foldl_cons, List.foldl_cons, hfs.isDirectory_eq]
      apply ih
      split
      · exact hfs
      · exact hfs.put l (.same rfl)

theorem Alike.createDirectory_agree (hfs : fs.Alike fs') (l : Location) :
    ResultsAgree Alike (fs.createDirectory l) (fs'.createDirectory l) := by
  have hisFile : fs'.isFile = fs.isFile := funext hfs.isFile_eq
  unfold createDirectory
  rw [hisFile]
  split
  · exact .error _
  split
  · exact .error _
  exact .ok (hfs.makeSteps (steps l))

theorem Alike.settingsFile_eq (hfs : fs.Alike fs') (l : Location) :
    fs'.settingsFile l = fs.settingsFile l := by
  have hnode := hfs.node? l
  unfold settingsFile
  generalize fs.node? l = n at hnode
  generalize fs'.node? l = n' at hnode
  cases hnode with
  | none => rfl
  | some h =>
      cases h with
      | same h => rw [h]
      | ledger h => rfl

theorem Alike.openLedger_agree (hfs : fs.Alike fs') (l : Location) :
    ResultsAgree Database.Alike (fs.openLedger l) (fs'.openLedger l) := by
  have hnode := hfs.node? l
  unfold openLedger openFile
  rw [hfs.isDirectory_eq]
  generalize fs.node? l = n at hnode
  generalize fs'.node? l = n' at hnode
  cases fs.isDirectory l.dropLast with
  | false => exact .error _
  | true =>
      cases hnode with
      | none => exact .ok (.refl _)
      | @some n n' h =>
          cases h with
          | ledger h => exact .ok h
          | same h =>
              rw [h]
              cases n with
              | ledger db => exact .ok (.refl db)
              | _ => exact .error _

/-- An event log is the same in both trees. -/
theorem Alike.openLog_eq (hfs : fs.Alike fs') (l : Location) : fs'.openLog l = fs.openLog l := by
  have hnode := hfs.node? l
  unfold openLog openFile
  rw [hfs.isDirectory_eq]
  generalize fs.node? l = n at hnode
  generalize fs'.node? l = n' at hnode
  cases hnode with
  | none => rfl
  | some h =>
      cases h with
      | same h => rw [h]
      | ledger h => cases fs.isDirectory l.dropLast <;> rfl

end Files

/-! ### Opening -/

section Opening

variable {P : Error → Prop} (h : Host)

theorem findDirectory_agree : (findDirectory h).Agree P Eq Files.Alike (findDirectory h) := by
  unfold findDirectory
  split
  · exact agree_pure rfl
  · exact agree_stop _

theorem makeDirectory_agree (dir : String) :
    (makeDirectory h dir).Agree P Eq Files.Alike (makeDirectory h dir) := by
  unfold makeDirectory
  apply agree_bind agree_get
  intro fs fs' hfs
  apply agree_bind (agree_orFail _ (hfs.createDirectory_agree _))
  intro fs fs' hfs
  exact agree_set hfs

theorem openLog_agree (dir : String) :
    (openLog h dir).Agree P Eq Files.Alike (openLog h dir) := by
  unfold openLog
  apply agree_bind agree_get
  intro fs fs' hfs
  rw [hfs.openLog_eq]
  apply agree_bind (agree_orFail _ (.refl _))
  rintro log _ rfl
  apply agree_bind (agree_orFail _ (.refl _))
  rintro log _ rfl
  apply agree_bind (agree_modify fun fs fs' hfs => hfs.put _ (.same rfl))
  rintro _ _ _
  exact agree_pure rfl

/-- Opens the log in which events are recorded. -/
def opening : Action Files (Location × EventLog) := do
  let dir ← findDirectory h
  makeDirectory h dir
  return (h.locate (Host.logPath dir), ← openLog h dir)

/-- There is a log to record in if it can be opened. -/
theorem openRecorder_eq (fs : Files) :
    openRecorder h fs = ((opening h fs).1.toOption, (opening h fs).2) := by
  unfold openRecorder
  dsimp only
  split
  case h_1 recorder fs' hopened =>
    have hopening : opening h fs = (.ok recorder, fs') := hopened
    rw [hopening]
    rfl
  case h_2 t fs' hopened =>
    have hopening : opening h fs = (.error t, fs') := hopened
    rw [hopening]
    rfl

/-- The events of both runs are recorded in the same log, or in none. -/
theorem openRecorder_agree {fs fs' : Files} (hfs : fs.Alike fs') :
    (openRecorder h fs').1 = (openRecorder h fs).1 ∧
      (openRecorder h fs).2.Alike (openRecorder h fs').2 := by
  have hopening : (opening h).Agree (fun _ => False) Eq Files.Alike (opening h) := by
    apply agree_bind (findDirectory_agree h)
    rintro dir _ rfl
    apply agree_bind (makeDirectory_agree h dir)
    rintro _ _ _
    exact agree_map (openLog_agree h dir) fun log log' hlog => by rw [hlog]
  have hends := hopening fs fs' hfs
  rw [openRecorder_eq, openRecorder_eq]
  generalize opening h fs = ended at hends
  generalize opening h fs' = ended' at hends
  cases hends with
  | done answer after => exact ⟨by rw [answer], after⟩
  | stopped t after => exact ⟨rfl, after⟩
  | unanswered _ _ after => exact ⟨rfl, after⟩
  | left _ hfalse => exact hfalse.elim
  | right _ hfalse => exact hfalse.elim

theorem openLedger_agree (dir : String) :
    (openLedger h dir).Agree P
      (fun opened opened' => opened'.1 = opened.1 ∧ opened'.2.1 = opened.2.1 ∧
        opened.2.2.Alike opened'.2.2) Files.Alike (openLedger h dir) := by
  unfold openLedger
  apply agree_bind agree_get
  intro fs fs' hfs
  rw [hfs.settingsFile_eq]
  apply agree_bind (agree_orFail _ (.refl _))
  rintro config _ rfl
  apply agree_bind agree_get
  intro fs fs' hfs
  apply agree_bind (agree_orFail _ (hfs.openLedger_agree _))
  intro db db' hdb
  obtain ⟨hreport, hmigrated⟩ := hdb.migrate
  generalize db.migrate = migrated at hreport hmigrated
  generalize db'.migrate = migrated' at hreport hmigrated
  apply agree_bind (agree_modify fun fs fs' hfs => hfs.put _ (.ledger hmigrated))
  rintro _ _ _
  rw [hreport]
  apply agree_bind (agree_orFail _ (.refl _))
  rintro _ _ _
  exact agree_pure ⟨rfl, rfl, hmigrated⟩

end Opening

/-! ### Runs of a command -/

/-- Sessions that agree on alike ledgers do so on alike files. -/
theorem onLedger_agree (h : Host) (json : Bool) {act act' : Session → Action Database String}
    (hact : ∀ s : Session, s.env.failOn = none →
      (act s).Agree Error.IsPersonal anyAnswers Database.Alike (act' s)) :
    (onLedger h json act).Agree Error.IsPersonal anyAnswers Files.Alike
      (onLedger h json act') := by
  unfold onLedger
  apply agree_bind (findDirectory_agree h)
  rintro dir _ rfl
  apply agree_bind (agree_within _ (makeDirectory_agree h dir))
  rintro _ _ _
  apply agree_bind (agree_within _ (openLedger_agree h dir))
  rintro ⟨config, l, db⟩ ⟨config', l', db'⟩ ⟨hconfig, hl, hdb⟩
  cases hconfig
  cases hl
  apply agree_bind (agree_orCrash (Duration.ofMinutes? config.verifyEmailTtlMinutes))
  rintro lifetime _ rfl
  have hput : ∀ (db db' : Database) (fs fs' : Files), db.Alike db' → fs.Alike fs' →
      (fs.put l (.ledger db)).Alike (fs'.put l (.ledger db')) :=
    fun db db' fs fs' hdb hfs => hfs.put l (.ledger hdb)
  exact agree_focus hdb hput (hact _ rfl)

/-- **What a command does on alike files ends alike.** -/
theorem Invocation.action_agree (h : Host) {i i' : Invocation} (hjson : i'.json = i.json)
    (hcommand : i.command.Alike i'.command) (hrecorded : i.command.isRecorded = true) :
    (i.action h).Agree Error.IsPersonal anyAnswers Files.Alike (i'.action h) := by
  obtain ⟨json, c⟩ := i
  obtain ⟨json', c'⟩ := i'
  cases hjson
  cases hcommand with
  | @account c c' hc =>
      show (onLedger h json fun s => s.runAccount c).Agree _ _ _
        (onLedger h json fun s => s.runAccount c')
      apply onLedger_agree
      intro s hfail
      exact s.runAccount_agree hfail hc
  | @transfer c c' hc =>
      show (onLedger h json fun s => s.runTransfer c).Agree _ _ _
        (onLedger h json fun s => s.runTransfer c')
      apply onLedger_agree
      intro s hfail
      exact s.runTransfer_agree hfail hc
  | entry c =>
      show (onLedger h json fun s => s.runEntry c).Agree _ _ _
        (onLedger h json fun s => s.runEntry c)
      apply onLedger_agree
      intro s _
      exact s.runEntry_agree c
  | user c =>
      show (onLedger h json fun s => s.runUser c).Agree _ _ _
        (onLedger h json fun s => s.runUser c)
      apply onLedger_agree
      intro s _
      exact s.runUser_agree c
  | verify c =>
      show (onLedger h json fun s => s.runVerify c).Agree _ _ _
        (onLedger h json fun s => s.runVerify c)
      apply onLedger_agree
      intro s hfail
      exact s.runVerify_agree hfail c
  | status =>
      show (onLedger h json fun s => s.runStatus).Agree _ _ _
        (onLedger h json fun s => s.runStatus)
      apply onLedger_agree
      intro s _
      exact s.runStatus_agree
  | logs c => cases hrecorded

end DoubleEntry.CommandLine

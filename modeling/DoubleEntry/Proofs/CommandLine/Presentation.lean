/-
DoubleEntry/Proofs/CommandLine/Presentation.lean

The option for JSON output changes what is printed and nothing else
(`presentation_only`).  A run with it and one without end with the same exit
code and the same files, and so with the same rows and the same event.

A command performs an operation of the ledger and prints what it gives.  Text
may need more of the ledger than JSON does: transfers and entries are printed
in the currency of an account, which is looked up.  That this never fails
rests on the ledger being in order (`Database.InOrder`), as it is after any
sequence of runs (`ledgersInOrder_after`).

The two commands that ask a question before they do anything do not ask it
when the output is JSON, and are left out unless the answer is given with
them.
-/
import DoubleEntry.Proofs.CommandLine.JsonOption
import DoubleEntry.Proofs.CommandLine.Outcome
import DoubleEntry.Proofs.Ledger.Traceable

namespace DoubleEntry.CommandLine

open DoubleEntry.Text DoubleEntry.CommandLine.Action

/-! ### What is left without the text -/

namespace Action

variable {σ τ α β : Type} {P R : σ → Prop}

/-- What an action ends with, but for its value. -/
def mute (r : Except Stop α × σ) : Except Stop Unit × σ :=
  (r.1.map fun _ => (), r.2)

/-- On states with `P`, two actions end alike but for their values. -/
def Matches (P : σ → Prop) (a b : Action σ α) : Prop :=
  ∀ s, P s → mute (a s) = mute (b s)

/-- Actions with the same start match if they do from there on. -/
theorem matches_bind {M : β → σ → Prop} {a : Action σ β} {f g : β → Action σ α}
    (ha : a.Ensures P M R) (hfg : ∀ x, (f x).Matches (M x) (g x)) :
    (a >>= f).Matches P (a >>= g) := by
  intro s hs
  have hends := ha.ends s hs
  rw [bind_apply, bind_apply]
  generalize a s = ended at hends
  obtain ⟨_ | x, s'⟩ := ended
  · rfl
  · exact hfg x s' hends

/-- An action ensures no less than nothing. -/
theorem ensures_true (a : Action σ α) :
    a.Ensures (fun _ => True) (fun _ _ => True) fun _ => True := by
  constructor
  intro s _
  generalize a s = ended
  obtain ⟨_ | x, s'⟩ := ended <;> trivial

theorem matches_focus {P : τ → Prop} {part : σ} {putBack : σ → τ → τ} {a b : Action σ α}
    (h : ∀ t, P t → mute (a part) = mute (b part)) :
    (focus part putBack a).Matches P (focus part putBack b) := by
  intro t ht
  obtain ⟨hresult, hstate⟩ := Prod.mk.inj (h t ht)
  show ((a part).1.map _, putBack (a part).2 t) = ((b part).1.map _, putBack (b part).2 t)
  rw [hresult, hstate]

/-- JSON and text that is sure to be there are both printed. -/
theorem mute_present (json : Bool) (j : Json) {text : Action σ String} {s : σ}
    (htext : ∃ t, text s = (.ok t, s)) : mute (present json j text s) = (.ok (), s) := by
  obtain ⟨t, ht⟩ := htext
  cases json with
  | true => rfl
  | false =>
      show mute (text s) = _
      rw [ht]
      rfl

theorem mute_present_congr (json json' : Bool) (j : Json) {text : Action σ String} {s : σ}
    (htext : ∃ t, text s = (.ok t, s)) :
    mute (present json j text s) = mute (present json' j text s) := by
  rw [mute_present json j htext, mute_present json' j htext]

end Action

/-! ### Commands on the ledger -/

/-- Performs an operation and prints what it gives. -/
def printed {α : Type} (json : Bool) (f : Database → Ran α) (toJson : α → Json)
    (text : α → Action Database String) : Action Database String := do
  let a ← perform f
  present json (toJson a) (text a)

section Printed

variable {α : Type} {f : Database → Ran α} {db : Database}

/-- But for what is printed, only the operation matters. -/
theorem mute_printed (json : Bool) (toJson : α → Json) {text : α → Action Database String}
    (htext : ∀ a db', f db = { outcome := .ok a, db := db' } → ∃ t, text a db' = (.ok t, db')) :
    mute (printed json f toJson text db) = mute (perform f db) := by
  unfold printed
  rw [bind_apply]
  unfold perform
  generalize f db = ran at htext
  obtain ⟨outcome, db'⟩ := ran
  cases outcome with
  | ok a => exact mute_present json _ (htext a db' rfl)
  | error e => rfl
  | crash => rfl

/-- Most texts take nothing from the ledger. -/
theorem mute_printed_pure (json : Bool) (toJson : α → Json) (text : α → String) :
    mute (printed json f toJson (fun a => pure (text a)) db) = mute (perform f db) :=
  mute_printed json toJson fun _ _ _ => ⟨_, rfl⟩

end Printed

/-- An operation keeps the ledger in order, however it ends. -/
theorem ensures_perform (env : Surroundings) (op : Ledger.Operation) :
    (perform (op.perform env)).Ensures Database.InOrder (fun _ => Database.InOrder)
      Database.InOrder := by
  constructor
  intro db hdb
  have hafter := hdb.perform env op
  unfold perform
  generalize op.perform env db = ran at hafter
  obtain ⟨outcome, db'⟩ := ran
  cases outcome <;> exact hafter

namespace Session

variable (s : Session) {db : Database}

/-- The currency of an account that can be read is found. -/
theorem exists_text {id : Int64} (hdb : db.InOrder) (hid : db.rows.ReadsAccount id)
    (f : Currency → String) :
    ∃ t, (do return f (← s.currencyOf id) : Action Database String) db = (.ok t, db) := by
  obtain ⟨a, ha⟩ := hdb.getAccount hid s.env
  refine ⟨f a.currency, ?_⟩
  have hperform : perform (Ledger.getAccount s.env id) db = (.ok a, db) := by
    unfold perform
    rw [ha]
  unfold currencyOf
  rw [bind_apply, bind_apply, hperform]
  rfl

/-- The account of rows on a page is found, if there are any rows. -/
theorem exists_listText {α : Type} {id : Int64} (hdb : db.InOrder)
    (hid : db.rows.ReadsAccount id) (none : String) (items : List α) (f : Currency → String) :
    ∃ t, (if items.isEmpty then pure (infoLine s.color none)
      else do return f (← s.currencyOf id) : Action Database String) db = (.ok t, db) := by
  split
  · exact ⟨_, rfl⟩
  · exact s.exists_text hdb hid f

/-- Every command but the closing of an account is, but for what it prints,
one operation of the ledger. -/
theorem mute_work {c : Command} (hrecorded : c.isRecorded = true)
    (hcloses : ∀ id force, c ≠ .account (.close id force)) (hdb : db.InOrder) :
    ∃ op : Ledger.Operation, ∀ json,
      mute (({ s with json } : Session).work c db) = mute (perform (op.perform s.env) db) := by
  cases c with
  | account c =>
      cases c with
      | openNew owner currency balance =>
          refine ⟨.openAccount owner balance currency, fun json => ?_⟩
          exact mute_printed_pure json _ _
      | info id =>
          refine ⟨.getAccount id, fun json => ?_⟩
          exact mute_printed_pure json _ fun a => accountTable [a]
      | list owner limit offset =>
          refine ⟨.listAccounts owner (s.page limit offset), fun json => ?_⟩
          apply mute_printed json
          intro as db' _
          split
          · exact ⟨_, rfl⟩
          · exact ⟨_, rfl⟩
      | close id force => exact absurd rfl (hcloses id force)
      | adjust id amount =>
          refine ⟨.adjustBalance id amount, fun json => ?_⟩
          exact mute_printed_pure json _ _
  | transfer c =>
      cases c with
      | send fromId toId amount =>
          refine ⟨.transferFunds { fromId, toId, amount }, fun json => ?_⟩
          exact mute_printed_pure json _ _
      | info id =>
          refine ⟨.getTransfer id, fun json => ?_⟩
          apply mute_printed json
          intro t db' hok
          have hdb' := hdb.performed (.getTransfer id) hok
          exact s.exists_text hdb' (hdb.readsAccount_of_getTransfer hok) _
      | list accountId limit offset =>
          refine ⟨.listTransfers accountId (s.page limit offset), fun json => ?_⟩
          apply mute_printed json
          intro ts db' hok
          have hdb' := hdb.performed (.listTransfers accountId (s.page limit offset)) hok
          exact s.exists_listText hdb' (Ledger.readsAccount_of_pageWork rfl hok) _ ts _
  | entry c =>
      cases c with
      | info id =>
          refine ⟨.getEntry id, fun json => ?_⟩
          apply mute_printed json
          intro e db' hok
          have hdb' := hdb.performed (.getEntry id) hok
          exact s.exists_text hdb' (hdb.readsAccount_of_getEntry hok) _
      | list accountId limit offset =>
          refine ⟨.listEntries accountId (s.page limit offset), fun json => ?_⟩
          apply mute_printed json
          intro es db' hok
          have hdb' := hdb.performed (.listEntries accountId (s.page limit offset)) hok
          exact s.exists_listText hdb' (Ledger.readsAccount_of_pageWork rfl hok) _ es _
  | user c =>
      cases c with
      | register username fullName email =>
          refine ⟨.createUser username fullName email, fun json => ?_⟩
          exact mute_printed_pure json _ _
      | info username =>
          refine ⟨.getUser username, fun json => ?_⟩
          exact mute_printed_pure json _ _
  | verify c =>
      cases c with
      | request username =>
          refine ⟨.requestVerification s.lifetime username s.secretCode, fun json => ?_⟩
          exact mute_printed_pure json _ _
      | confirm id secretCode =>
          refine ⟨.verifyEmail id (trim secretCode), fun json => ?_⟩
          exact mute_printed_pure json _ _
  | status =>
      refine ⟨.status, fun json => ?_⟩
      show mute (({ s with json } : Session).runStatus db) = _
      unfold runStatus
      rw [look_eq_perform]
      exact mute_printed_pure json _ _
  | logs c => cases hrecorded

/-- Closing an account keeps the ledger in order. -/
theorem inOrder_closeAccount (id : Int64) (force : Bool) (hdb : db.InOrder) :
    (s.closeAccount id force db).2.InOrder := by
  have hensures : (s.closeAccount id force).Ensures Database.InOrder (fun _ => Database.InOrder)
      Database.InOrder := by
    unfold closeAccount
    apply ensures_bind (ensures_perform s.env (.getAccount id))
    intro a
    apply ensures_bind (ensures_confirm _ _ _)
    intro yes
    split
    · apply ensures_bind (ensures_perform s.env (.closeAccount id))
      intro _
      exact ensures_present _ _ (fun _ hs => hs) (ensures_pure fun _ hs => hs)
    · exact ensures_pure fun _ hs => hs
  exact hensures.after hdb

/-- Every command keeps the ledger in order. -/
theorem inOrder_work (c : Command) (hdb : db.InOrder) : (s.work c db).2.InOrder := by
  by_cases hcloses : ∃ id force, c = .account (.close id force)
  · obtain ⟨id, force, rfl⟩ := hcloses
    exact s.inOrder_closeAccount id force hdb
  cases hrecorded : c.isRecorded with
  | false =>
      cases c with
      | logs c => exact hdb
      | _ => cases hrecorded
  | true =>
      have hothers : ∀ id force, c ≠ .account (.close id force) :=
        fun id force heq => hcloses ⟨id, force, heq⟩
      obtain ⟨op, hop⟩ := s.mute_work hrecorded hothers hdb
      have hstate : (s.work c db).2 = (perform (op.perform s.env) db).2 :=
        congrArg Prod.snd (hop s.json)
      rw [hstate]
      exact (ensures_perform s.env op).after hdb

end Session

/-! ### JSON or text -/

/-- Whether a command asks a question before it does anything. -/
def Command.asks : Command → Bool
  | .account (.close _ force) => !force
  | .logs (.clear _ force) => !force
  | _ => false

namespace Session

variable (s : Session) {db : Database}

theorem closeAccount_matches (json json' : Bool) (id : Int64) :
    (({ s with json } : Session).closeAccount id true).Matches (fun _ => True)
      (({ s with json := json' } : Session).closeAccount id true) := by
  unfold closeAccount
  apply matches_bind (ensures_true _)
  intro a db _
  -- the answer is known, so that there is no question
  let text := fun _ : Unit => successLine s.color ("Closed account " ++ int64Text id)
  show mute (printed json _ _ (fun u => pure (text u)) db) =
    mute (printed json' _ _ (fun u => pure (text u)) db)
  rw [mute_printed_pure, mute_printed_pure]

/-- **A command on the ledger** ends alike with JSON and with text. -/
theorem work_matches (json json' : Bool) {c : Command} (hrecorded : c.isRecorded = true)
    (hasks : c.asks = false) :
    (({ s with json } : Session).work c).Matches Database.InOrder
      (({ s with json := json' } : Session).work c) := by
  intro db hdb
  by_cases hcloses : ∃ id force, c = .account (.close id force)
  · obtain ⟨id, force, rfl⟩ := hcloses
    cases force with
    | false => cases hasks
    | true => exact s.closeAccount_matches json json' id db trivial
  · have hothers : ∀ id force, c ≠ .account (.close id force) :=
      fun id force heq => hcloses ⟨id, force, heq⟩
    obtain ⟨op, hop⟩ := s.mute_work hrecorded hothers hdb
    rw [hop json, hop json']

end Session

/-- So does one on the event log. -/
theorem LogSession.run_matches (s : LogSession) (json json' : Bool) {c : LogsCommand}
    (hasks : (Command.logs c).asks = false) :
    (({ s with json } : LogSession).run c).Matches (fun _ => True)
      (({ s with json := json' } : LogSession).run c) := by
  cases c with
  | list limit errors =>
      apply matches_bind (ensures_true _)
      intro log
      apply matches_bind (ensures_true _)
      intro es log _
      have htext : ∃ t, (if es.isEmpty then pure (infoLine s.color "No log entries found.")
          else pure (logText s.color errors es) : Action EventLog String) log = (.ok t, log) := by
        split
        · exact ⟨_, rfl⟩
        · exact ⟨_, rfl⟩
      exact mute_present_congr json json' _ htext
  | clear days force =>
      cases force with
      | false => cases hasks
      | true =>
          apply matches_bind (ensures_true _)
          intro cutoff log _
          let deleted := log.deleteBefore cutoff.toMillis
          have htext : ∃ t, (pure (lines ["Deleted " ++ natText deleted.1 ++ " log entries"]) :
              Action EventLog String) deleted.2 = (.ok t, deleted.2) := ⟨_, rfl⟩
          exact mute_present_congr json json' _ htext
  | stats =>
      apply matches_bind (ensures_true _)
      intro log log' _
      let stats : LogStats :=
        { total := log.count, byKind := log.errorCounts, path := s.path, size := s.size }
      have htext : ∃ t, (pure (stats.text s.color) : Action EventLog String) log' =
        (.ok t, log') := ⟨_, rfl⟩
      exact mute_present_congr json json' _ htext

/-! ### From the files -/

section Files

variable {h : Host} {Φ : Location → Option FileNode → Prop} {fs : Files}

theorem onLedger_matches (hΦ : KeptByOpening Φ) (json json' : Bool)
    {act : Session → Action Database String}
    (hact : ∀ (s : Session) l db, Φ l (some (.ledger db)) →
      mute (act { s with json } db) = mute (act { s with json := json' } db)) :
    (onLedger h json act).Matches (Files.Every Φ) (onLedger h json' act) := by
  unfold onLedger
  apply matches_bind (findDirectory_ensures h)
  intro dir
  apply matches_bind (ensures_within (makeDirectory_ensures h dir))
  intro _
  apply matches_bind (ensures_within (openLedger_ensures h hΦ dir))
  rintro ⟨config, l, db⟩
  dsimp only
  apply matches_bind (M := fun _ _ => Φ l (some (.ledger db))) (R := fun _ => True)
  case ha =>
    apply ensures_orCrash
    · exact fun _ _ _ hs => hs.2.2
    · exact fun _ _ => trivial
  intro lifetime
  apply matches_focus
  intro _ hdb
  let session : Session :=
    { json, color := h.color, reply := h.reply, env := h.surroundings,
      pageSize := config.defaultPageSize, lifetime, secretCode := h.secretCode }
  exact hact session l db hdb

theorem onLog_matches (json json' : Bool) {act : LogSession → Action EventLog String}
    (hact : ∀ (s : LogSession) log,
      mute (act { s with json } log) = mute (act { s with json := json' } log)) :
    (onLog h json act).Matches (fun _ => True) (onLog h json' act) := by
  unfold onLog
  apply matches_bind (ensures_true _)
  intro dir
  apply matches_bind (ensures_true _)
  intro _
  apply matches_bind (ensures_true _)
  intro log
  apply matches_focus
  intro _ _
  let session : LogSession :=
    { json, color := h.color, reply := h.reply, now := h.clock 0, path := Host.logPath dir,
      size := h.logSize }
  exact hact session log

end Files

/-! ### Ledgers over runs -/

/-- Each ledger among the files is in order. -/
def LedgersInOrder (_ : Location) (n : Option FileNode) : Prop :=
  ∀ db, n = some (.ledger db) → db.InOrder

theorem keptByOpening_ledgersInOrder : KeptByOpening LedgersInOrder where
  newLog _ _ _ _ := by
    rintro _ ⟨⟩
  oldLog _ _ _ _ _ := by
    rintro _ ⟨⟩
  newLedger _ _ := by
    rintro _ ⟨⟩
    exact Database.inOrder_migrate_empty
  oldLedger _ db hthere := by
    rintro _ ⟨⟩
    exact (hthere db rfl).migrate

section Runs

variable {h : Host} {fs : Files}

/-- A command leaves ledgers in order. -/
theorem ledgersInOrder_ended (i : Invocation) (hfs : fs.Every LedgersInOrder) :
    (ended h i fs).2.Every LedgersInOrder := by
  unfold ended
  cases hrecorded : i.command.isRecorded with
  | true =>
      rw [if_pos rfl, Invocation.action_eq hrecorded]
      apply onLedger_every keptByOpening_ledgersInOrder _ _
        (openRecorder_every keptByOpening_ledgersInOrder hfs).1
      rintro s - l db hthere _ ⟨⟩
      exact s.inOrder_work i.command (hthere db rfl)
  | false =>
      obtain ⟨c, haction⟩ := Invocation.exists_action_eq hrecorded h
      rw [if_neg (by decide), haction]
      apply onLog_every keptByOpening_ledgersInOrder _ _ hfs
      rintro s l log - _ ⟨⟩

/-- So does a run. -/
theorem ledgersInOrder_run (args : List String) (hfs : fs.Every LedgersInOrder) :
    (run h args fs).files.Every LedgersInOrder := by
  apply run_every hfs
  · exact fun i => ledgersInOrder_ended i hfs
  · rintro l log log' e - - _ ⟨⟩

/-- **After any sequence of runs** the ledgers are in order. -/
theorem ledgersInOrder_after (runs : List (Host × List String))
    (hfs : fs.Every LedgersInOrder) : (after fs runs).Every LedgersInOrder := by
  induction runs generalizing fs with
  | nil => exact hfs
  | cons r runs ih => exact ih (ledgersInOrder_run r.2 hfs)

/-- The same command ends alike with JSON and with text. -/
theorem mute_ended {i i' : Invocation} (hsame : i'.command = i.command)
    (hasks : i.command.asks = false) (hfs : fs.Every LedgersInOrder) :
    mute (ended h i' fs) = mute (ended h i fs) := by
  obtain ⟨json, c⟩ := i
  obtain ⟨json', c'⟩ := i'
  obtain rfl : c' = c := hsame
  cases hrecorded : c'.isRecorded with
  | true =>
      have hmatches : (onLedger h json' fun s => s.work c').Matches (Files.Every LedgersInOrder)
          (onLedger h json fun s => s.work c') := by
        apply onLedger_matches keptByOpening_ledgersInOrder
        intro s l db hthere
        exact s.work_matches json' json hrecorded hasks db (hthere db rfl)
      unfold ended
      rw [Invocation.action_eq hrecorded, Invocation.action_eq hrecorded]
      dsimp only
      rw [hrecorded]
      exact hmatches _ (openRecorder_every keptByOpening_ledgersInOrder hfs).1
  | false =>
      cases c' with
      | logs c =>
          have hmatches : (onLog h json' fun s => s.run c).Matches (fun _ => True)
              (onLog h json fun s => s.run c) := by
            apply onLog_matches
            intro s log
            exact s.run_matches json' json hasks log trivial
          exact hmatches fs trivial
      | _ => cases hrecorded

end Runs

/-! ### What is left of a run -/

/-- Two runs end with the same exit code, and with the same files. -/
structure Report.Matches (r r' : Report) : Prop where
  exitCode : r.exitCode = r'.exitCode
  files : r.files = r'.files

/-- Neither the exit code nor the event depends on what is printed. -/
theorem ends_congr (h : Host) (c : Command) {result result' : Except Stop String}
    (hresult : result.map (fun _ => ()) = result'.map fun _ => ()) :
    Ending.of result = Ending.of result' ∧ eventOf h c result = eventOf h c result' := by
  cases result with
  | ok text =>
      cases result' with
      | ok text' => exact ⟨rfl, rfl⟩
      | error t => cases hresult
  | error t =>
      cases result' with
      | ok text' => cases hresult
      | error t' =>
          cases hresult
          exact ⟨rfl, rfl⟩

theorem run_matches {h : Host} {args args' : List String} {fs : Files}
    (hargs : parse args' = (parse args).map Invocation.withJson)
    (hasks : ∀ i, parse args = .ok i → i.command.asks = false)
    (hfs : fs.Every LedgersInOrder) : (run h args' fs).Matches (run h args fs) := by
  cases hparse : parse args with
  | error halt =>
      rw [hparse] at hargs
      have hrun : run h args' fs = run h args fs := by
        unfold run
        rw [hparse, hargs]
        rfl
      rw [hrun]
      exact ⟨rfl, rfl⟩
  | ok i =>
      rw [hparse] at hargs
      have hends : mute (ended h i.withJson fs) = mute (ended h i fs) :=
        mute_ended rfl (hasks i hparse) hfs
      obtain ⟨hresult, hfiles⟩ := Prod.mk.inj hends
      obtain ⟨hending, hevent⟩ := ends_congr h i.command hresult
      rw [run_eq hargs, run_eq hparse]
      constructor
      case exitCode => rw [exitCode_conclude, exitCode_conclude, hending]
      case files =>
        rw [conclude_files, conclude_files]
        show recordEvent h (recorder h i fs) (eventOf h i.command _) _ = _
        rw [hevent, hfiles]

/-- **The option for JSON output only changes what is printed.**  After any
runs that began without a ledger, a command line that asks no question ends
with the same exit code with the option and without it, and leaves the same
files: the same rows in every ledger, and the same event in the log.  Both runs
read the same times off the clock and have the same code to issue.  The option
may stand in front, or wherever else it makes the command line ask for the same
command with JSON. -/
theorem presentation_only {start : Files} (hstart : ∀ l db, start.node? l ≠ some (.ledger db))
    (runs : List (Host × List String)) (h : Host) {args : List String}
    (hasks : ∀ i, parse args = .ok i → i.command.asks = false) :
    (args.head? ≠ some "--json" →
        (run h ("--json" :: args) (after start runs)).Matches (run h args (after start runs))) ∧
      ∀ args', parse args' = (parse args).map Invocation.withJson →
        (run h args' (after start runs)).Matches (run h args (after start runs)) := by
  have hempty : start.Every LedgersInOrder := by
    intro l db hledger
    exact absurd (Files.node?_of_file? hledger) (hstart l db)
  have hfs := ledgersInOrder_after runs hempty
  constructor
  · intro hhead
    exact run_matches (parse_json_cons hhead) hasks hfs
  · intro args' hargs
    exact run_matches hargs hasks hfs

/-- A transfer that was made can be shown, as JSON or as a table. -/
theorem presentation_only_of_transfer :
    let h := bareHost "a"
    let fs := after {} [(h, ["account", "open", "ann", "--balance", "100"]),
      (h, ["account", "open", "bob"]), (h, ["transfer", "send", "1", "2", "30"])]
    parse ["transfer", "show", "1"] = .ok { json := false, command := .transfer (.info 1) } ∧
      (run h ["--json", "transfer", "show", "1"] fs).Matches
        (run h ["transfer", "show", "1"] fs) ∧
      (run h ["transfer", "show", "1", "--json"] fs).Matches
        (run h ["transfer", "show", "1"] fs) := by
  intro h fs
  have hparse : parse ["transfer", "show", "1"] =
      .ok { json := false, command := .transfer (.info 1) } := by decide +kernel
  have hparse' : parse ["transfer", "show", "1", "--json"] =
      .ok { json := true, command := .transfer (.info 1) } := by decide +kernel
  have hstart : ∀ l db, ({} : Files).node? l ≠ some (.ledger db) := by
    rintro (- | ⟨name, l⟩) db ⟨⟩
  have hasks : ∀ i, parse ["transfer", "show", "1"] = .ok i → i.command.asks = false := by
    intro i hi
    obtain rfl := Except.ok.inj (hparse.symm.trans hi)
    rfl
  obtain ⟨hfront, hplaces⟩ := presentation_only hstart _ h hasks
  refine ⟨hparse, hfront (by decide), hplaces _ ?_⟩
  rw [hparse, hparse']
  rfl

end DoubleEntry.CommandLine

/-
DoubleEntry/Proofs/Ledger/ReadBack.lean

What was stored is read back.  A query that stores a record is among those of
a run that were kept, or of the transaction that is open after the run
(`Played`).  The record that it answered is held from then on, as long as no
later query takes effect that changes or removes the row (`holds_of_played`);
and a record that is held is what every query answers that reads it
(`ReadsBack`).

Instants go through a text on their way.  None of this depends on the clock:
what the text of an instant cannot tell, the query that stored it did not
answer either.
-/
import DoubleEntry.Proofs.Ledger.Played
import DoubleEntry.Proofs.Store.Records

namespace DoubleEntry

variable {P : Instant → Prop} {db db' : Database} {env : Surroundings} {s : Scope} {q : Query}

/-! ### Answers -/

/-- A query that is answered was performed. -/
theorem Issued.Took.answers {a : q.Answer} (h : Issued.Took P db ⟨q, .ok a⟩ db') :
    ∃ now, (q.perform now db).Answers a db' := by
  -- the constructors tell the query only together with its outcome
  generalize hi : (⟨q, .ok a⟩ : Issued) = i at h
  cases h with
  | @performed now q' time possible =>
      obtain ⟨rfl, houtcome⟩ := Issued.mk.inj hi
      refine ⟨now, ?_, rfl⟩
      cases hresult : (q.perform now db).result with
      | ok b =>
          rw [hresult] at houtcome
          cases houtcome
          rfl
      | error e =>
          rw [hresult] at houtcome
          cases houtcome
  | held effect =>
      obtain ⟨rfl, houtcome⟩ := Issued.mk.inj hi
      cases houtcome
      cases effect

/-- A query is answered over the rows of a scope: by itself, or in the
scope. -/
inductive Scope.Answers (env : Surroundings) (s : Scope) (q : Query) (a : q.Answer) : Prop
  | submitted (now : Instant) (answered : (submit now q s.db).outcome = .ok a)
  | issued (answered : (s.issue env q).1 = .ok a)

theorem Scope.Answers.performed {a : q.Answer} (h : s.Answers env q a) :
    ∃ now db', (q.perform now s.db).Answers a db' := by
  cases h with
  | submitted now answered => exact ⟨now, _, (submit_outcome_ok_iff.mp answered).2, rfl⟩
  | issued answered =>
      obtain ⟨-, -, -, hresult, -⟩ := Scope.issue_ok answered
      exact ⟨_, _, hresult, rfl⟩

/-- In a scope that goes on, a query is answered that is not made to fail. -/
theorem Scope.issue_of_result {a : q.Answer} (hfail : env.failOn ≠ some q.name)
    (hcancelled : s.cancelled = false) (hspoiled : s.spoiled = false)
    (hpossible : q.isImpossible (env.clock s.calls.length) = false)
    (hresult : (q.perform (env.clock s.calls.length) s.db).result = .ok a) :
    (s.issue env q).1 = .ok a := by
  simp only [issue, answer, if_neg hfail, hpossible, hcancelled, hspoiled, Bool.false_eq_true,
    if_false, hresult]
  rfl

/-! ### Records that are read back -/

/-- Over the rows of a scope a record is read back by whatever query reads
it. -/
structure ReadsBack (env : Surroundings) (s : Scope) (r : Record) : Prop where
  /-- It is found under its key. -/
  got : ∀ now, submit now r.key.get s.db = { outcome := .ok r.answer, db := s.db }
  /-- It is found under its key within the scope, as long as that goes on. -/
  issued : s.cancelled = false → s.spoiled = false → env.failOn ≠ some r.key.get.name →
    (s.issue env r.key.get).1 = .ok r.answer
  /-- Whatever is shown under its key is the same record. -/
  shown : ∀ (q : Query) (a : q.Answer), s.Answers env q a → ∀ r' ∈ q.shown a, r'.key = r.key →
    r' = r
  /-- It is on each first page that is about it and not full. -/
  listed : ∀ (q : Query) (a : q.Answer) (page : Page), s.Answers env q a → q.Concerns r →
    q.page? = some page → page.offset = 0 → (q.shown a).length < page.limit.toInt →
    r ∈ q.shown a

/-- What is held in a migrated ledger is read back. -/
theorem readsBack_of_holds {r : Record} (hkeyed : s.db.Keyed) (hmigrated : s.db.Migrated)
    (hr : s.db.rows.Holds r) (env : Surroundings) : ReadsBack env s r := by
  have htable : s.db.catalog.hasTable r.key.table.name = true := by
    rw [hmigrated]
    exact r.key.fresh_hasTable
  constructor
  case got => exact hkeyed.submit_get htable hr
  case issued =>
    intro hcancelled hspoiled hfail
    let now := env.clock s.calls.length
    have hanswers : (r.key.get.perform now s.db).Answers r.answer s.db :=
      hkeyed.get_iff.mpr ⟨htable, hr, rfl⟩
    exact Scope.issue_of_result hfail hcancelled hspoiled (r.key.get_possible now) hanswers.1
  case shown =>
    intro q a hanswers r' hr' hkey
    obtain ⟨now, db', h⟩ := hanswers.performed
    exact hkeyed.eq_of_holds (hkeyed.holds_of_shown h hr') hr hkey
  case listed =>
    intro q a page hanswers hconcerns hpage hfirst hshort
    obtain ⟨now, db', h⟩ := hanswers.performed
    exact hr.shown h hconcerns hpage hfirst hshort

/-! ### From the query that stored it on -/

/-- What is held stays until a query takes effect that changes the row. -/
theorem Played.holds {issued : List Issued} {r : Record} (h : Played P db issued db')
    (hlater : ∀ q ∈ effective issued, q.changed? ≠ some r.key) (hdb : db.rows.Holds r) :
    db'.rows.Holds r := by
  refine h.keeps (M := fun d => d.rows.Holds r) ?idle ?took hdb
  case idle =>
    intro d d' idle hd
    rw [idle.rows]
    exact hd
  case took =>
    intro i hi d d' took hd
    cases took.made.cameOut with
    | done effect change =>
        have heffective : i.query ∈ effective issued :=
          List.mem_map_of_mem (List.mem_filter.mpr ⟨hi, effect⟩)
        exact Query.preserves_holds (hlater _ heffective) change hd
    | failed effect sequences forward same =>
        rw [same]
        exact hd

/-- A record that was stored is held, if its row has not been changed since. -/
theorem holds_of_played {before later : List Issued} {a : q.Answer} {r : Record}
    (h : Played P {} (before ++ ⟨q, .ok a⟩ :: later) db') (hr : q.stored? a = some r)
    (hlater : ∀ q ∈ effective later, q.changed? ≠ some r.key) :
    (∃ now, q.Gives now a) ∧ db'.Keyed ∧ db'.Migrated ∧ db'.rows.Holds r := by
  obtain ⟨db₁, db₂, hbefore, htook, hafter⟩ := h.split
  obtain ⟨now, hanswers⟩ := htook.answers
  obtain ⟨htable, hholds⟩ := Rows.holds_of_stored hanswers hr
  have hmigrated : db₁.Migrated := by
    -- a record cannot be stored before its table is there
    rcases hbefore.empty_or_migrated (.inl rfl) with hempty | hmigrated
    · rw [hempty] at htable
      cases htable
    · exact hmigrated
  have hmigrated' : db₂.Migrated := htook.succeeds.catalog.trans hmigrated
  exact ⟨⟨now, Query.gives_of_answers hanswers⟩, h.keyed (.empty {}),
    hafter.migrated hmigrated', hafter.holds hlater hholds⟩

/-- **What is stored is what was given.**  The text of an instant of the years 0
to 9999 tells the instant.  A record that a query has stored, by itself or
within a transaction, is what the query was given.  And if the query was one of
those of a run that were kept, or of a transaction that is still open, then the
record is read back as it was answered until a query changes or removes its
row. -/
theorem stored_as_given :
    (∀ t : Instant, t.IsRegular → Instant.read? t.storedText = some t) ∧
    (∀ (now : Instant) (q : Query) (db : Database) (a : q.Answer),
      (submit now q db).outcome = .ok a → q.Gives now a) ∧
    (∀ (env : Surroundings) (q : Query) (s : Scope) (a : q.Answer),
      (s.issue env q).1 = .ok a → q.Gives (env.clock s.calls.length) a) ∧
    ∀ (steps : List Ledger.Step) (α : Type) (env : Surroundings) (p : Program α)
      (before later : List Issued) (q : Query) (a : q.Answer) (r : Record),
      let db := ({} : Database).after steps
      ({} : Database).keptIssued steps ++ p.issued env { db } = before ++ ⟨q, .ok a⟩ :: later →
      q.stored? a = some r → (∀ q' ∈ effective later, q'.changed? ≠ some r.key) →
      (∃ now, q.Gives now a) ∧ ReadsBack env (p.run env { db }).2 r := by
  refine ⟨fun t => Instant.read?_storedText, ?submitted, ?issued, ?read⟩
  case submitted =>
    intro now q db a h
    exact Query.gives_of_answers ⟨(submit_outcome_ok_iff.mp h).2, rfl⟩
  case issued =>
    intro env q s a h
    obtain ⟨-, -, -, hresult, -⟩ := Scope.issue_ok h
    exact Query.gives_of_answers ⟨hresult, rfl⟩
  case read =>
    intro steps α env p before later q a r db hsplit hr hlater
    -- what the run has kept, and then what the open transaction has issued
    have hrun : Played (fun _ => True) {} (({} : Database).keptIssued steps) db :=
      Database.played (fun step _ => step.clocked_true) (.inl rfl)
    have hopen : Played (fun _ => True) db (p.issued env { db }) (p.run env { db }).2.db :=
      p.played (fun _ => trivial) { db }
    have hplayed := hrun.trans hopen
    rw [hsplit] at hplayed
    obtain ⟨hgives, hkeyed, hmigrated, hholds⟩ := holds_of_played hplayed hr hlater
    exact ⟨hgives, readsBack_of_holds hkeyed hmigrated hholds env⟩

/-- Money that is added to another account does not show in this one. -/
theorem stored_as_given_of_ann :
    let ann : Account := ⟨1, "ann", 100, .usd, startOf1970⟩
    let steps : List Ledger.Step :=
      [.migrate, .transaction (.statement startOf1970 (.createAccount "ann" 100 .usd)),
        .transaction (.statement startOf1970 (.createAccount "bob" 20 .usd)),
        .transaction (.statement startOf1970 (.addBalance 2 5))]
    let db := ({} : Database).after steps
    ReadsBack (.at startOf1970) { db } (.account ann) ∧
      submit startOf1970 (.account 1) db = { outcome := .ok ann, db } := by
  intro ann steps db
  let opened := ({} : Database).after (steps.take 1)
  let stored := submit startOf1970 (.createAccount "ann" 100 .usd) opened
  let later : List Issued := (({} : Database).keptIssued steps).tail
  have hstored : stored.outcome = .ok ann := by decide +kernel
  have hsplit : ({} : Database).keptIssued steps ++
      (Program.done ()).issued (.at startOf1970) { db } =
        [] ++ ⟨.createAccount "ann" 100 .usd, .ok ann⟩ :: later := by
    rw [← hstored]
    rfl
  have hlater : ∀ q ∈ effective later, q.changed? ≠ some (Record.account ann).key := by
    decide +kernel
  have hread := stored_as_given.2.2.2 steps Unit (.at startOf1970) (.done ()) [] later _ _
    (.account ann) hsplit rfl hlater
  exact ⟨hread.2, hread.2.got startOf1970⟩

end DoubleEntry

/-
DoubleEntry/Proofs/Ledger/Lifetime.lean

The lifetime of codes that a configuration sets.  A configuration is loaded
with any positive number of minutes, but the ledger can use a number only as
long as three bounds allow it:

* it has to be a duration (`Duration.ofMinutes?_eq_none_iff`);
* the expiry has to be an instant (`Instant.add?_ofMinutes_eq_none_iff`);
* the expiry has to be of a year of four digits, as otherwise its stored text
  is not read back (`Instant.hasSignedYear_of_lt`).

`accepted_lifetime` says what becomes of every configuration that is loaded:
where its lifetime is within the bounds, a user who awaits a code gets one
that expires after exactly that many minutes and can be looked up as it was
answered; beyond each bound the ledger breaks off or refuses.
-/
import DoubleEntry.Proofs.Ledger.Alike
import DoubleEntry.Proofs.Store.Issued
import DoubleEntry.Proofs.Store.SingleStatement
import DoubleEntry.Proofs.Store.UserAnswers
import DoubleEntry.Proofs.Store.Usable
import DoubleEntry.Settings.Config

namespace DoubleEntry

/-! ### Minutes -/

section Minutes

variable {minutes : Int64} {lifetime : Duration} {now : Instant}

/-- A positive number of minutes is a duration below 2 ^ 63 milliseconds. -/
theorem Duration.ofMinutes?_eq_none_iff (hpos : 0 < minutes.toInt) :
    ofMinutes? minutes = none ↔ 153722867280912 < minutes.toInt := by
  simp only [ofMinutes?, ofSeconds?, ite_eq_right_iff, reduceCtorEq, imp_false]
  omega

theorem Duration.nanos_of_ofMinutes? (h : ofMinutes? minutes = some lifetime) :
    lifetime.nanos = minutes.toInt * 60 * 1000000000 := by
  simp only [ofMinutes?, ofSeconds?, Option.ite_none_right_eq_some, Option.some.injEq] at h
  rw [← h.2]

/-- Minutes are whole seconds, so only the seconds of an instant change. -/
theorem Instant.later_ofMinutes (hnow : now.nanos < 1000000000)
    (h : Duration.ofMinutes? minutes = some lifetime) :
    now.later lifetime = { now with seconds := now.seconds + 60 * minutes.toInt } := by
  obtain ⟨nanos⟩ := lifetime
  obtain rfl : nanos = 60 * minutes.toInt * 1000000000 := by
    rw [Int.mul_comm 60]
    exact Duration.nanos_of_ofMinutes? h
  exact later_ofSeconds hnow _

/-- Some minutes later than a regular instant comes no instant any more. -/
theorem Instant.add?_ofMinutes_eq_none_iff (hnow : now.IsRegular) (hpos : 0 < minutes.toInt)
    (h : Duration.ofMinutes? minutes = some lifetime) :
    now.add? lifetime = none ↔ 8210266876799 < now.seconds + 60 * minutes.toInt := by
  obtain ⟨hfirst, -, hnanos⟩ := isRegular_iff.mp hnow
  simp only [add?, later_ofMinutes hnanos h, inRange, firstSecond, lastSecond, Bool.and_eq_true,
    decide_eq_true_eq, ite_eq_right_iff, reduceCtorEq, imp_false]
  omega

/-- The difference between the two instants of a verification. -/
theorem Instant.toNanos_later_ofMinutes (hnow : now.nanos < 1000000000)
    (h : Duration.ofMinutes? minutes = some lifetime) :
    (now.later lifetime).toNanos - now.toNanos = minutes.toInt * 60 * 1000000000 := by
  rw [toNanos_later hnow, Duration.nanos_of_ofMinutes? h, add_sub_cancel_left]

end Minutes

/-! ### Configurations that are loaded -/

namespace Config

theorem lifetime_pos_of_validate {c : Config} {u : Unit} (h : c.validate = .ok u) :
    0 < c.verifyEmailTtlMinutes.toInt := by
  simp only [validate] at h
  split at h
  · cases h
  split at h
  · cases h
  · omega

/-- A configuration that is loaded has been checked. -/
theorem validate_of_load {dir : String} {file : StoredFile} {vars : Environment} {c : Config}
    (h : load dir file vars = .ok c) : c.validate = .ok () := by
  simp only [load] at h
  rcases hs : readSettings dir file with e | s
  · rw [hs] at h
    cases h
  rw [hs] at h
  rcases hl : lifetimeOf vars s.ledger with e | minutes
  · simp only [bind, Except.bind, hl] at h
    cases h
  simp only [bind, Except.bind, hl] at h
  split at h
  · cases h
  case h_2 u hvalid =>
    cases h
    exact hvalid

end Config

/-! ### Requests -/

/-- A user who can be read has not confirmed the address, and there is room
for another code. -/
structure Database.AwaitsCode (db : Database) (username : String) : Prop where
  keyed : db.Keyed
  userTable : db.catalog.hasTable Migration.userTable.name = true
  verificationTable : db.catalog.hasTable Migration.verificationTable.name = true
  ids : db.sequences.verification < 9223372036854775807
  user : ∃ row user, db.rows.user? username = some row ∧ row.read = .ok user ∧
    user.isEmailVerified = false

namespace Ledger

variable {env : Surroundings} {db : Database} {username secretCode : String} {lifetime : Duration}

/-- A code was issued that expires so many minutes after its creation, and
looking it up gives what was answered. -/
structure IssuedFor (minutes : Int64) (username secretCode : String) (v : Verification)
    (ran : Ran Verification) : Prop where
  outcome : ran.outcome = .ok v
  username_eq : v.username = username
  secretCode_eq : v.secretCode = secretCode
  unused : v.isUsed = false
  lifetime : v.expiredAt.toNanos - v.createdAt.toNanos = minutes.toInt * 60 * 1000000000
  kept : ∀ env : Surroundings, getVerification env v.id ran.db = { outcome := .ok v, db := ran.db }

/-- Behind the checks a request is a single statement. -/
theorem submitEach_requestWork (env : Surroundings) (hdb : db.AwaitsCode username)
    (lifetime : Duration) (secretCode : String) :
    ∃ email, (requestWork lifetime username secretCode).submitEach env.clock db =
      submit (env.clock 1) (.createVerification username email secretCode lifetime) db := by
  obtain ⟨row, user, hrow, hread, hunverified⟩ := hdb.user
  have hname : user.username = username := by
    rw [UserRow.eq_of_read hread]
    exact Rows.user?_username hrow
  have hfound : submit (env.clock 0) (.user username) db = { outcome := .ok user, db } :=
    submit_ok_iff.mpr ⟨rfl, answers_findUser_iff.mpr ⟨hdb.userTable, row, hrow, hread, rfl⟩⟩
  refine ⟨user.email, ?_⟩
  rw [requestWork, Work.submitEach_of_answered env.clock hfound, hunverified, hname]
  show (Work.query _).submitEach _ db = _
  exact Work.submitEach_query_eq _ _ db

/-- A code whose expiry is of a year of four digits is issued. -/
theorem requestVerification_of_isRegular {minutes : Int64} (henv : env.Orderly)
    (hdb : db.AwaitsCode username) (hlifetime : Duration.ofMinutes? minutes = some lifetime)
    (hexpiry : ((env.clock 1).later lifetime).IsRegular) (secretCode : String) :
    ∃ v, IssuedFor minutes username secretCode v
      (requestVerification env lifetime username secretCode db) := by
  obtain ⟨email, hwork⟩ := submitEach_requestWork env hdb lifetime secretCode
  obtain ⟨id, hid⟩ := exists_nextId hdb.ids
  have hlast := Text.toInt_of_toInt64? hid
  let now := env.clock 1
  let row := VerificationRow.written now (now.later lifetime) id username email secretCode
  let v : Verification :=
    { id, username, email, secretCode, isUsed := false, createdAt := now,
      expiredAt := now.later lifetime }
  have hread : row.read = .ok v := by
    rw [VerificationRow.read_eq (henv.clock 1) rfl]
    show (readInstant "expired_at" (now.later lifetime).storedText).map _ = _
    rw [readInstant_storedText hexpiry]
    rfl
  have hpossible : (Query.createVerification username email secretCode lifetime).isImpossible now =
      false := by
    show (now.add? lifetime).isNone = false
    rw [Instant.add?, if_pos hexpiry.inRange]
    rfl
  have hstored : submit now (.createVerification username email secretCode lifetime) db =
      { outcome := .ok v, db := db.addVerification row } :=
    submit_ok_iff.mpr ⟨hpossible, answers_createVerification_iff.mpr
      ⟨hdb.verificationTable, id, hlast, hread, rfl⟩⟩
  have hran : requestVerification env lifetime username secretCode db =
      { outcome := .ok v, db := db.addVerification row } :=
    Work.execute_of_answered (neverCancels_requestWork _ _ _) henv.failOn rfl (hwork.trans hstored)
  -- the id is new, so that it is the new row that is found under it
  have hfound : (db.addVerification row).rows.verification? id = some row := by
    have hnew : db.rows.verification? id = none := by
      apply List.find?_eq_none.mpr
      intro r hr heq
      have hne := (hdb.keyed.ids .verification).ne hlast (List.mem_map_of_mem hr)
      exact hne (of_decide_eq_true heq)
    show (db.rows.verifications ++ [row]).find? _ = _
    rw [List.find?_append, show db.rows.verifications.find? _ = none from hnew]
    simp [row, VerificationRow.written]
  refine ⟨v, ?_⟩
  rw [hran]
  constructor
  case outcome => rfl
  case username_eq => rfl
  case secretCode_eq => rfl
  case unused => rfl
  case lifetime => exact Instant.toNanos_later_ofMinutes (henv.clock 1).nanos_lt hlifetime
  case kept =>
    intro env'
    apply submit_ok_iff.mpr
    exact ⟨rfl, answers_findVerification_iff.mpr ⟨hdb.verificationTable, row, hfound, hread, rfl⟩⟩

/-- One whose expiry is of a year with a sign is stored, cannot be read back
and is undone. -/
theorem requestVerification_of_hasSignedYear (henv : env.Orderly) (hdb : db.AwaitsCode username)
    (hinstant : ((env.clock 1).add? lifetime).isSome = true)
    (hexpiry : ((env.clock 1).later lifetime).HasSignedYear) (secretCode : String) :
    let ran := requestVerification env lifetime username secretCode db
    ran.outcome = .error (.database (.undecodable "expired_at")) ∧ ran.db.rows = db.rows := by
  obtain ⟨email, hwork⟩ := submitEach_requestWork env hdb lifetime secretCode
  obtain ⟨id, hstored⟩ := submit_createVerification_of_hasSignedYear (henv.clock 1)
    hdb.verificationTable hdb.ids hinstant hexpiry username email secretCode
  have hlive : ({} : CancelToken).isCancelled = false := rfl
  have hran := Work.execute_of_refused (neverCancels_requestWork _ _ _) henv.failOn hlive
    (hwork.trans hstored)
  rw [show requestVerification env lifetime username secretCode db = _ from hran]
  exact ⟨rfl, rfl⟩

/-- One that would expire after the last instant is not even stored. -/
theorem requestVerification_of_add?_eq_none (henv : env.Orderly) (hdb : db.AwaitsCode username)
    (hinstant : (env.clock 1).add? lifetime = none) (secretCode : String) :
    let ran := requestVerification env lifetime username secretCode db
    ran.outcome = .crash ∧ ran.db.rows = db.rows := by
  obtain ⟨email, hwork⟩ := submitEach_requestWork env hdb lifetime secretCode
  have himpossible : (Query.createVerification username email secretCode lifetime).isImpossible
      (env.clock 1) = true := by
    rw [Query.isImpossible, hinstant]
    rfl
  have hcrash : submit (env.clock 1) (.createVerification username email secretCode lifetime) db =
      { outcome := .crash, db } := if_pos himpossible
  have hlive : ({} : CancelToken).isCancelled = false := rfl
  have hran := Work.execute_of_crashed (neverCancels_requestWork _ _ _) henv.failOn hlive
    (hwork.trans hcrash)
  rw [show requestVerification env lifetime username secretCode db = _ from hran]
  exact ⟨rfl, rfl⟩

/-! ### Lifetimes -/

/-- **The lifetime of a configuration that is loaded** is positive.  It is a
duration up to 153722867280912 minutes.  A user who awaits a code is then
issued one that expires after exactly that many minutes, as long as the expiry
is of a year up to 9999; later expiries are refused, and those after the last
instant break the ledger off.  Whatever is not issued leaves the rows alone. -/
theorem accepted_lifetime {dir : String} {file : StoredFile} {vars : Environment} {config : Config}
    (hload : Config.load dir file vars = .ok config) :
    let minutes := config.verifyEmailTtlMinutes
    0 < minutes.toInt ∧
      (Duration.ofMinutes? minutes = none ↔ 153722867280912 < minutes.toInt) ∧
      ∀ (lifetime : Duration) (env : Surroundings) (db : Database) (username secretCode : String),
        Duration.ofMinutes? minutes = some lifetime → env.Orderly → db.AwaitsCode username →
        let ran := requestVerification env lifetime username secretCode db
        let expiry := (env.clock 1).seconds + 60 * minutes.toInt
        (expiry ≤ 253402300799 → ∃ v, IssuedFor minutes username secretCode v ran) ∧
          (253402300799 < expiry → ran.db.rows = db.rows) ∧
          (253402300799 < expiry → expiry ≤ 8210266876799 →
            ran.outcome = .error (.database (.undecodable "expired_at"))) ∧
          (8210266876799 < expiry → ran.outcome = .crash) := by
  intro minutes
  have hpos : 0 < minutes.toInt := Config.lifetime_pos_of_validate (Config.validate_of_load hload)
  refine ⟨hpos, Duration.ofMinutes?_eq_none_iff hpos, ?_⟩
  intro lifetime env db username secretCode hlifetime henv hdb ran expiry
  have hnow := henv.clock 1
  obtain ⟨hfirst, -, hnanos⟩ := Instant.isRegular_iff.mp hnow
  have hlater := Instant.later_ofMinutes hnanos hlifetime
  have hlast := Instant.add?_ofMinutes_eq_none_iff hnow hpos hlifetime
  have hissued : expiry ≤ 253402300799 →
      ∃ v, IssuedFor minutes username secretCode v ran := by
    intro hnear
    apply requestVerification_of_isRegular henv hdb hlifetime
    rw [hlater, Instant.isRegular_iff]
    refine ⟨?_, hnear, hnanos⟩
    show -62167219200 ≤ (env.clock 1).seconds + 60 * minutes.toInt
    omega
  have hrefused : 253402300799 < expiry → expiry ≤ 8210266876799 →
      ran.outcome = .error (.database (.undecodable "expired_at")) ∧ ran.db.rows = db.rows := by
    intro hfar hinstant
    apply requestVerification_of_hasSignedYear henv hdb
    · rw [Option.isSome_iff_ne_none]
      intro hnone
      have hbeyond := hlast.mp hnone
      omega
    · rw [hlater]
      exact Instant.hasSignedYear_of_lt hfar
  have hcrashed : 8210266876799 < expiry → ran.outcome = .crash ∧ ran.db.rows = db.rows :=
    fun hbeyond => requestVerification_of_add?_eq_none henv hdb (hlast.mpr hbeyond) secretCode
  refine ⟨hissued, ?_, fun hfar hinstant => (hrefused hfar hinstant).1, fun h => (hcrashed h).1⟩
  intro hfar
  by_cases hinstant : expiry ≤ 8210266876799
  · exact (hrefused hfar hinstant).2
  · exact (hcrashed (by omega)).2

/-- Without any settings, a user who was just created is issued a code for a
quarter of an hour. -/
theorem accepted_lifetime_of_defaults :
    let db := (submit startOf1970 (.createUser "ann" "Ann" "ann@example.com") .fresh).db
    Config.load "" .absent (fun _ => none) = .ok {} ∧
      db.AwaitsCode "ann" ∧
      ∃ v, IssuedFor 15 "ann" "secret" v
        (requestVerification (.at startOf1970) ⟨900000000000⟩ "ann" "secret" db) := by
  intro db
  have hload : Config.load "" .absent (fun _ => none) = .ok {} := by decide +kernel
  have hregular : startOf1970.IsRegular := by decide
  have horderly : (Surroundings.at startOf1970).Orderly := ⟨rfl, fun _ => hregular⟩
  let row : UserRow := .written startOf1970 "ann" "Ann" "ann@example.com"
  have huser : db.rows.user? "ann" = some row := by decide +kernel
  obtain ⟨user, hread⟩ := UserRow.exists_read_written hregular "ann" "Ann" "ann@example.com"
  have hawaits : db.AwaitsCode "ann" := by
    constructor
    case keyed => exact ((submit_made _ _ _).grown (.empty _)).keyed
    case userTable => decide +kernel
    case verificationTable => decide +kernel
    case ids => decide +kernel
    case user => exact ⟨row, user, huser, hread, by rw [UserRow.eq_of_read hread]; rfl⟩
  have hlifetime : Duration.ofMinutes? ({} : Config).verifyEmailTtlMinutes =
      some ⟨900000000000⟩ := by decide
  refine ⟨hload, hawaits, ?_⟩
  exact ((accepted_lifetime hload).2.2 _ _ _ _ "secret" hlifetime horderly hawaits).1 (by decide)

/-- **Not every configuration that is loaded can be used**: the greatest
number of minutes is accepted, and is no duration. -/
theorem accepted_lifetime_without_duration :
    ¬ ∀ (dir : String) (file : StoredFile) (vars : Environment) (config : Config),
      Config.load dir file vars = .ok config →
      ∃ lifetime, Duration.ofMinutes? config.verifyEmailTtlMinutes = some lifetime ∧
        ∀ (env : Surroundings) (db : Database) (username secretCode : String),
          env.Orderly → db.AwaitsCode username →
          ∃ v, IssuedFor config.verifyEmailTtlMinutes username secretCode v
            (requestVerification env lifetime username secretCode db) := by
  intro h
  let vars : Environment := fun name =>
    if name = "TALLY_VERIFY_EMAIL_TTL_MINUTES" then some "9223372036854775807" else none
  let config : Config := { verifyEmailTtlMinutes := 9223372036854775807 }
  have hload : Config.load "" .absent vars = .ok config := by decide +kernel
  obtain ⟨lifetime, hlifetime, -⟩ := h _ _ _ _ hload
  have hnone : Duration.ofMinutes? config.verifyEmailTtlMinutes = none := by decide
  rw [hnone] at hlifetime
  cases hlifetime

end Ledger

end DoubleEntry

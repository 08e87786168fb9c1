/-
DoubleEntry/Proofs/Ledger/Verification.lean

The verification of email addresses, over whole runs of the ledger's
operations.  Any number of users may have any number of codes outstanding, and
any codes may be guessed at any time.

`Books.CodesSound` is the invariant: every verification belongs to a user, a
user is verified exactly if one of its codes is used, and the codes that were
confirmed are used codes, each confirmed once.  `Books.StaysVerified` is what
no operation undoes.  Both are derived from the four effects that an operation
can have on users and verifications.
-/
import DoubleEntry.Proofs.Ledger.Steps
import DoubleEntry.Proofs.Ledger.VerificationEffect

namespace DoubleEntry

namespace Ledger

/-! ### Runs -/

/-- An operation that is requested, and in what surroundings. -/
structure Request where
  operation : Operation
  env : Surroundings

namespace Books

/-- The books after a request, at whatever instant. -/
def serve (b : Books) (r : Request) : Books :=
  { db := (r.operation.perform r.env b.db).db
    history := b.history ++ [⟨r.operation, (r.operation.perform r.env b.db).outcome⟩] }

/-- The books after a run. -/
def serveAll (b : Books) (requests : List Request) : Books :=
  requests.foldl serve b

/-- The ids of the codes that were confirmed. -/
def confirmations (b : Books) : List Int64 :=
  b.history.filterMap Event.confirmation?

/-- A request adds at most its own confirmation. -/
theorem confirmations_serve (b : Books) (r : Request) :
    (b.serve r).confirmations = b.confirmations ++
      (Event.confirmation? ⟨r.operation, (r.operation.perform r.env b.db).outcome⟩).toList := by
  unfold confirmations serve
  rw [List.filterMap_append]
  rfl

end Books

/-! ### What a confirmation does -/

namespace CodeConfirmed

variable {user : UserRow} {row : VerificationRow} {db db' : Database}

/-- The user is verified, and all others are as they were. -/
theorem mem_users_iff (h : CodeConfirmed user row db db') {u : UserRow} :
    u ∈ db'.rows.users ↔
      u ∈ db.rows.users ∧ u.username ≠ user.username ∨
        u = { user with isEmailVerified := true } := by
  rw [h.users]
  refine mem_replaced_iff.trans (or_congr_right ?_)
  exact and_iff_left ⟨user, h.user_mem, rfl⟩

/-- The code is used, and all others are as they were. -/
theorem mem_verifications_iff (h : CodeConfirmed user row db db') {v : VerificationRow} :
    v ∈ db'.rows.verifications ↔
      v ∈ db.rows.verifications ∧ v.id ≠ row.id ∨ v = { row with isUsed := true } := by
  rw [h.verifications]
  refine mem_replaced_iff.trans (or_congr_right ?_)
  exact and_iff_left ⟨row, h.row_mem, rfl⟩

/-- A code that is used is another one. -/
theorem id_ne_of_used (h : CodeConfirmed user row db db') (hkeyed : db.Keyed)
    {v : VerificationRow} (hv : v ∈ db.rows.verifications) (hused : v.isUsed = true) :
    v.id ≠ row.id := by
  intro hid
  rw [hkeyed.verification_eq hv h.row_mem hid, h.unused] at hused
  cases hused

/-- Names and addresses of users stay. -/
theorem exists_user (h : CodeConfirmed user row db db') (hkeyed : db.Keyed) {u : UserRow}
    (hu : u ∈ db.rows.users) :
    ∃ u' ∈ db'.rows.users, u'.username = u.username ∧ u'.email = u.email := by
  by_cases hname : u.username = user.username
  · obtain rfl := hkeyed.user_eq hu h.user_mem hname
    exact ⟨_, h.mem_users_iff.mpr (.inr rfl), rfl, rfl⟩
  · exact ⟨u, h.mem_users_iff.mpr (.inl ⟨hu, hname⟩), rfl, rfl⟩

end CodeConfirmed

/-! ### The invariant -/

namespace Books

/-- Verifications belong to users, a user is verified exactly if a code of it
is used, and each code that was confirmed is used and was confirmed once. -/
structure CodesSound (b : Books) : Prop where
  keyed : b.db.Keyed
  owned : ∀ v ∈ b.db.rows.verifications,
    ∃ u ∈ b.db.rows.users, u.username = v.username ∧ u.email = v.email
  verified_iff : ∀ u ∈ b.db.rows.users, u.isEmailVerified = true ↔
    ∃ v ∈ b.db.rows.verifications, v.username = u.username ∧ v.isUsed = true
  confirmed : ∀ id ∈ b.confirmations, ∃ v ∈ b.db.rows.verifications, v.id = id ∧ v.isUsed = true
  once : b.confirmations.Nodup

/-- A user that is verified stays as it is, so does a code that is used, and no
code is issued to a user that is verified. -/
structure StaysVerified (b b' : Books) : Prop where
  used : ∀ v ∈ b.db.rows.verifications, v.isUsed = true → v ∈ b'.db.rows.verifications
  verified : ∀ u ∈ b.db.rows.users, u.isEmailVerified = true → u ∈ b'.db.rows.users
  closed : ∀ u ∈ b.db.rows.users, u.isEmailVerified = true →
    ∀ v' ∈ b'.db.rows.verifications, v'.username = u.username →
      ∃ v ∈ b.db.rows.verifications, v.id = v'.id ∧ v.username = v'.username

variable {b b' b'' : Books}

theorem codesSound_empty : empty.CodesSound where
  keyed := .empty _
  owned v hv := by cases hv
  verified_iff u hu := by cases hu
  confirmed id hid := by cases hid
  once := List.nodup_nil

/-- The requests keep the keys of the tables, as everything does. -/
theorem keyed_serve (h : b.db.Keyed) (r : Request) : (b.serve r).db.Keyed :=
  ((Step.operation r.env r.operation).grown h).keyed

namespace CodesSound

variable {user : UserRow} {row : VerificationRow}

/-- The invariant does not depend on anything but users, verifications and
confirmations. -/
theorem of_sameUsers (h : b.CodesSound) (hkeyed : b'.db.Keyed)
    (same : b.db.rows.SameUsers b'.db.rows) (hconfirmations : b'.confirmations = b.confirmations) :
    b'.CodesSound := by
  constructor
  case keyed => exact hkeyed
  case owned => rw [same.users, same.verifications]; exact h.owned
  case verified_iff => rw [same.users, same.verifications]; exact h.verified_iff
  case confirmed => rw [hconfirmations, same.verifications]; exact h.confirmed
  case once => rw [hconfirmations]; exact h.once

/-- It is kept where a user is registered. -/
theorem of_registered (h : b.CodesSound) (hkeyed : b'.db.Keyed)
    (fresh : ∀ u ∈ b.db.rows.users, u.username ≠ user.username)
    (unverified : user.isEmailVerified = false)
    (users : b'.db.rows.users = b.db.rows.users ++ [user])
    (verifications : b'.db.rows.verifications = b.db.rows.verifications)
    (hconfirmations : b'.confirmations = b.confirmations) : b'.CodesSound := by
  constructor
  case keyed => exact hkeyed
  case owned =>
    rw [users, verifications]
    intro v hv
    obtain ⟨u, hu, howner⟩ := h.owned v hv
    exact ⟨u, List.mem_append_left _ hu, howner⟩
  case verified_iff =>
    rw [users, verifications, List.forall_mem_append, List.forall_mem_singleton]
    refine ⟨h.verified_iff, ?_⟩
    -- a new user has no code, since codes belong to users that were there
    rw [unverified]
    refine iff_of_false Bool.false_ne_true ?_
    rintro ⟨v, hv, hname, -⟩
    obtain ⟨u, hu, howner, -⟩ := h.owned v hv
    exact fresh u hu (howner.trans hname)
  case confirmed => rw [hconfirmations, verifications]; exact h.confirmed
  case once => rw [hconfirmations]; exact h.once

/-- It is kept where a code is issued. -/
theorem of_codeIssued (h : b.CodesSound) (hkeyed : b'.db.Keyed)
    (made : CodeIssued user row b.db b'.db) (hconfirmations : b'.confirmations = b.confirmations) :
    b'.CodesSound := by
  constructor
  case keyed => exact hkeyed
  case owned =>
    rw [made.users, made.verifications, List.forall_mem_append, List.forall_mem_singleton]
    exact ⟨h.owned, user, made.user_mem, made.username.symm, made.email.symm⟩
  case verified_iff =>
    rw [made.users, made.verifications]
    intro u hu
    rw [h.verified_iff u hu]
    constructor
    · rintro ⟨v, hv, hcode⟩
      exact ⟨v, List.mem_append_left _ hv, hcode⟩
    · rintro ⟨v, hv, hname, hused⟩
      rcases List.mem_append.mp hv with hv | hv
      · exact ⟨v, hv, hname, hused⟩
      · rw [List.mem_singleton.mp hv, made.unused] at hused
        cases hused
  case confirmed =>
    rw [hconfirmations, made.verifications]
    intro id hid
    obtain ⟨v, hv, hused⟩ := h.confirmed id hid
    exact ⟨v, List.mem_append_left _ hv, hused⟩
  case once => rw [hconfirmations]; exact h.once

/-- It is kept where a code is confirmed. -/
theorem of_codeConfirmed (h : b.CodesSound) (hkeyed : b'.db.Keyed)
    (made : CodeConfirmed user row b.db b'.db)
    (hconfirmations : b'.confirmations = b.confirmations ++ [row.id]) : b'.CodesSound := by
  constructor
  case keyed => exact hkeyed
  case owned =>
    have howned : ∀ v ∈ b.db.rows.verifications, ∃ u' ∈ b'.db.rows.users,
        u'.username = v.username ∧ u'.email = v.email := by
      intro v hv
      obtain ⟨u, hu, hname, hemail⟩ := h.owned v hv
      obtain ⟨u', hu', hname', hemail'⟩ := made.exists_user h.keyed hu
      exact ⟨u', hu', hname'.trans hname, hemail'.trans hemail⟩
    intro v hv
    rcases made.mem_verifications_iff.mp hv with ⟨hv, -⟩ | rfl
    · exact howned v hv
    · exact howned row made.row_mem
  case verified_iff =>
    intro u hu
    rcases made.mem_users_iff.mp hu with ⟨hu, hname⟩ | rfl
    · rw [h.verified_iff u hu]
      constructor
      · rintro ⟨v, hv, howner, hused⟩
        have hid := made.id_ne_of_used h.keyed hv hused
        exact ⟨v, made.mem_verifications_iff.mpr (.inl ⟨hv, hid⟩), howner, hused⟩
      · rintro ⟨v, hv, howner, hused⟩
        rcases made.mem_verifications_iff.mp hv with ⟨hv, -⟩ | rfl
        · exact ⟨v, hv, howner, hused⟩
        · -- the code that was confirmed is not one of this user
          exact absurd (howner.symm.trans made.owner.symm) hname
    · exact iff_of_true rfl
        ⟨_, made.mem_verifications_iff.mpr (.inr rfl), made.owner.symm, rfl⟩
  case confirmed =>
    rw [hconfirmations, List.forall_mem_append, List.forall_mem_singleton]
    refine ⟨?_, _, made.mem_verifications_iff.mpr (.inr rfl), rfl, rfl⟩
    intro id hid
    obtain ⟨v, hv, hv_id, hused⟩ := h.confirmed id hid
    have hne := made.id_ne_of_used h.keyed hv hused
    exact ⟨v, made.mem_verifications_iff.mpr (.inl ⟨hv, hne⟩), hv_id, hused⟩
  case once =>
    rw [hconfirmations, ← List.concat_eq_append, List.nodup_concat]
    refine ⟨?_, h.once⟩
    -- a code that was confirmed before is used, and this one was not
    intro hmem
    obtain ⟨v, hv, hid, hused⟩ := h.confirmed row.id hmem
    exact made.id_ne_of_used h.keyed hv hused hid

/-- Every operation keeps the invariant. -/
theorem serve (h : b.CodesSound) (r : Request) : (b.serve r).CodesSound := by
  have hkeyed := keyed_serve h.keyed r
  have hconfirmations := b.confirmations_serve r
  have heffect : VerificationEffect b.db (b.serve r).db _ :=
    r.operation.verificationEffect r.env b.db
  cases heffect with
  | idle same confirmation =>
      rw [confirmation, Option.toList_none, List.append_nil] at hconfirmations
      exact h.of_sameUsers hkeyed same hconfirmations
  | registered user fresh unverified users verifications confirmation =>
      rw [confirmation, Option.toList_none, List.append_nil] at hconfirmations
      exact h.of_registered hkeyed fresh unverified users verifications hconfirmations
  | requested user row made confirmation =>
      rw [confirmation, Option.toList_none, List.append_nil] at hconfirmations
      exact h.of_codeIssued hkeyed made hconfirmations
  | confirmed user row made confirmation =>
      rw [confirmation, Option.toList_some] at hconfirmations
      exact h.of_codeConfirmed hkeyed made hconfirmations

end CodesSound

/-- No operation undoes a verification. -/
theorem CodesSound.staysVerified (h : b.CodesSound) (r : Request) :
    b.StaysVerified (b.serve r) := by
  have heffect : VerificationEffect b.db (b.serve r).db _ :=
    r.operation.verificationEffect r.env b.db
  have hsame : ∀ v ∈ b.db.rows.verifications,
      ∃ w ∈ b.db.rows.verifications, w.id = v.id ∧ w.username = v.username :=
    fun v hv => ⟨v, hv, rfl, rfl⟩
  cases heffect with
  | idle same confirmation =>
      constructor
      case used => rw [same.verifications]; exact fun v hv _ => hv
      case verified => rw [same.users]; exact fun u hu _ => hu
      case closed => rw [same.verifications]; exact fun u _ _ v hv _ => hsame v hv
  | registered user fresh unverified users verifications confirmation =>
      constructor
      case used => rw [verifications]; exact fun v hv _ => hv
      case verified => rw [users]; exact fun u hu _ => List.mem_append_left _ hu
      case closed => rw [verifications]; exact fun u _ _ v hv _ => hsame v hv
  | requested user row made confirmation =>
      constructor
      case used => rw [made.verifications]; exact fun v hv _ => List.mem_append_left _ hv
      case verified => rw [made.users]; exact fun u hu _ => hu
      case closed =>
        rw [made.verifications]
        intro u hu hverified v' hv' hname
        rcases List.mem_append.mp hv' with hv' | hv'
        · exact hsame v' hv'
        · -- a code is not issued to a user that is verified
          obtain rfl := List.mem_singleton.mp hv'
          have hsameUser := made.username.symm.trans hname
          rw [h.keyed.user_eq hu made.user_mem hsameUser.symm, made.unverified] at hverified
          cases hverified
  | confirmed user row made confirmation =>
      constructor
      case used =>
        intro v hv hused
        exact made.mem_verifications_iff.mpr (.inl ⟨hv, made.id_ne_of_used h.keyed hv hused⟩)
      case verified =>
        intro u hu hverified
        by_cases hname : u.username = user.username
        · -- verifying a user that is verified changes nothing
          obtain rfl := h.keyed.user_eq hu made.user_mem hname
          have hagain : { u with isEmailVerified := true } = u := by rw [← hverified]
          exact made.mem_users_iff.mpr (.inr hagain.symm)
        · exact made.mem_users_iff.mpr (.inl ⟨hu, hname⟩)
      case closed =>
        intro u _ _ v' hv' _
        rcases made.mem_verifications_iff.mp hv' with ⟨hv', -⟩ | rfl
        · exact hsame v' hv'
        · exact ⟨row, made.row_mem, rfl, rfl⟩

namespace StaysVerified

theorem refl (b : Books) : b.StaysVerified b where
  used _ hv _ := hv
  verified _ hu _ := hu
  closed _ _ _ v hv _ := ⟨v, hv, rfl, rfl⟩

theorem trans (h : b.StaysVerified b') (h' : b'.StaysVerified b'') : b.StaysVerified b'' where
  used v hv hused := h'.used v (h.used v hv hused) hused
  verified u hu hverified := h'.verified u (h.verified u hu hverified) hverified
  closed u hu hverified v'' hv'' hname := by
    obtain ⟨v', hv', hid', hname'⟩ :=
      h'.closed u (h.verified u hu hverified) hverified v'' hv'' hname
    obtain ⟨v, hv, hid, hname⟩ := h.closed u hu hverified v' hv' (hname'.trans hname)
    exact ⟨v, hv, hid.trans hid', hname.trans hname'⟩

end StaysVerified

/-! ### Whole runs -/

theorem CodesSound.serveAll (h : b.CodesSound) (requests : List Request) :
    (b.serveAll requests).CodesSound ∧ b.StaysVerified (b.serveAll requests) := by
  induction requests generalizing b with
  | nil => exact ⟨h, .refl b⟩
  | cons r requests ih =>
      obtain ⟨hsound, hstays⟩ := ih (h.serve r)
      exact ⟨hsound, (h.staysVerified r).trans hstays⟩

end Books

/-- What holds of users and verifications at one time of a run, and at a later
one. -/
structure VerificationInvariant (b b' : Books) : Prop where
  /-- Every verification is that of a user, and goes to the user's address. -/
  owned : ∀ v ∈ b.db.rows.verifications,
    ∃ u ∈ b.db.rows.users, u.username = v.username ∧ u.email = v.email
  /-- A user is verified exactly if at least one of its codes is used. -/
  verified_iff : ∀ u ∈ b.db.rows.users, u.isEmailVerified = true ↔
    ∃ v ∈ b.db.rows.verifications, v.username = u.username ∧ v.isUsed = true
  /-- What is used or verified stays so. -/
  used_stays : ∀ v ∈ b.db.rows.verifications, v.isUsed = true → v ∈ b'.db.rows.verifications
  verified_stays : ∀ u ∈ b.db.rows.users, u.isEmailVerified = true → u ∈ b'.db.rows.users
  /-- Each code is confirmed at most once. -/
  confirmed_once : ∀ id, b.confirmations.count id ≤ 1
  /-- From when a user is verified, it gets no more codes. -/
  closed : ∀ u ∈ b.db.rows.users, u.isEmailVerified = true →
    ∀ v' ∈ b'.db.rows.verifications, v'.username = u.username →
      ∃ v ∈ b.db.rows.verifications, v.id = v'.id

/-- **The verification invariant**, after any requests and any more of
them. -/
theorem verification_invariant (requests later : List Request) :
    let b := Books.empty.serveAll requests
    VerificationInvariant b (b.serveAll later) := by
  intro b
  obtain ⟨hsound, -⟩ := Books.codesSound_empty.serveAll requests
  obtain ⟨-, hstays⟩ := hsound.serveAll later
  constructor
  case owned => exact hsound.owned
  case verified_iff => exact hsound.verified_iff
  case used_stays => exact hstays.used
  case verified_stays => exact hstays.verified
  case confirmed_once => exact List.nodup_iff_count_le_one.mp hsound.once
  case closed =>
    intro u hu hverified v' hv' hname
    obtain ⟨v, hv, hid, -⟩ := hstays.closed u hu hverified v' hv' hname
    exact ⟨v, hv, hid⟩

end Ledger

end DoubleEntry

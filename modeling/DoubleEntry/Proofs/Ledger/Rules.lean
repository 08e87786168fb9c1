/-
DoubleEntry/Proofs/Ledger/Rules.lean

What the operations of the ledger store meets the rules that they check.
`Rows.MeetRules` says what the rules are for what is stored: owners have
names, transfers move something to somewhere else, no entry is zero, and users
could register again as they stand.  Names have no blanks around them.

A query that stores what meets them keeps them (`Query.preserves_meetRules`),
and no operation issues any other (`Operation.meetsRules`).  Names are checked
before the blanks around them are gone, which comes to the same as checking the
name that is stored (`owner_of_checkOpening`, `validateNew_trim`).
-/
import DoubleEntry.Proofs.Ledger.Preserved
import DoubleEntry.Proofs.Ledger.Queries
import DoubleEntry.Proofs.Ledger.Verification
import DoubleEntry.Proofs.Text.Trimmed

namespace DoubleEntry

open DoubleEntry.Text

/-! ### Rules for rows -/

/-- All that is stored meets the rules that it has to meet before it is stored. -/
structure Rows.MeetRules (rows : Rows) : Prop where
  owners : ∀ r ∈ rows.accounts, r.owner ≠ "" ∧ IsTrimmed r.owner
  transfers : ∀ t ∈ rows.transfers, 0 < t.amount.toInt ∧ t.fromId ≠ t.toId
  entries : ∀ e ∈ rows.entries, e.amount ≠ 0
  users : ∀ u ∈ rows.users,
    User.validateNew u.username u.fullName u.email = .ok () ∧ IsTrimmed u.fullName

/-! ### Rules for queries -/

/-- The query stores nothing but what meets the rules. -/
def Query.MeetsRules : Query → Prop
  | createAccount owner _ _ => owner ≠ "" ∧ IsTrimmed owner
  | createEntry _ amount => amount ≠ 0
  | createTransfer request => 0 < request.amount.toInt ∧ request.fromId ≠ request.toId
  | createUser username fullName email =>
      User.validateNew username fullName email = .ok () ∧ IsTrimmed fullName
  | updateUser _ fullName _ => fullName = none
  | _ => True

/-- **Such a query keeps the rules.** -/
theorem Query.preserves_meetRules {q : Query} (hq : q.MeetsRules) :
    q.Preserves Rows.MeetRules := by
  rintro db db' hchange ⟨howners, htransfers, hentries, husers⟩
  cases hchange with
  | createAccount now id owner balance currency =>
      refine ⟨?_, htransfers, hentries, husers⟩
      exact List.forall_mem_append.mpr ⟨howners, List.forall_mem_singleton.mpr hq⟩
  | addBalance row balance amount found =>
      have hrow := howners row (Rows.account?_eq_some found).1
      exact ⟨forall_mem_replaced howners hrow, htransfers, hentries, husers⟩
  | deleteAccount row =>
      refine ⟨?_, htransfers, hentries, husers⟩
      exact fun r hr => howners r (List.mem_filter.mp hr).1
  | createEntry now id accountId amount =>
      refine ⟨howners, htransfers, ?_, husers⟩
      exact List.forall_mem_append.mpr ⟨hentries, List.forall_mem_singleton.mpr hq⟩
  | createTransfer now id request =>
      refine ⟨howners, ?_, hentries, husers⟩
      exact List.forall_mem_append.mpr ⟨htransfers, List.forall_mem_singleton.mpr hq⟩
  | createUser now username fullName email =>
      refine ⟨howners, htransfers, hentries, ?_⟩
      exact List.forall_mem_append.mpr ⟨husers, List.forall_mem_singleton.mpr hq⟩
  | updateUser row fullName isEmailVerified found =>
      -- only the address may come to be verified, which no rule asks about
      obtain rfl : fullName = none := hq
      have hrow := husers row (Rows.user?_mem found)
      exact ⟨howners, htransfers, hentries, forall_mem_replaced husers hrow⟩
  | createVerification | updateVerification => exact ⟨howners, htransfers, hentries, husers⟩
  | lookUp => exact ⟨howners, htransfers, hentries, husers⟩

namespace Ledger

/-! ### Checks -/

/-- The owner of an account that may be opened has a name, and the blanks
around it are gone. -/
theorem owner_of_checkOpening {owner currency : String} {checked : String × Currency}
    (h : checkOpening owner currency = .ok checked) : checked.1 ≠ "" ∧ IsTrimmed checked.1 := by
  unfold checkOpening ensure at h
  cases hname : allBlank owner with
  | true =>
      rw [hname] at h
      cases h
  | false =>
      rw [hname] at h
      cases hparse : Currency.parse currency with
      | error e =>
          rw [hparse] at h
          cases h
      | ok c =>
          rw [hparse] at h
          cases h
          refine ⟨?_, isTrimmed_trim owner⟩
          rw [ne_eq, trim_eq_empty_iff, hname]
          exact Bool.false_ne_true

/-- It does not matter whether the blanks around a name are gone. -/
theorem validateNew_trim (username fullName email : String) :
    User.validateNew username (trim fullName) email =
      User.validateNew username fullName email := by
  unfold User.validateNew
  rw [allBlank_trim]

/-- The opposite of a positive amount is not zero. -/
theorem neg_ne_zero_of_pos {amount : Int64} (h : 0 < amount.toInt) : -amount ≠ 0 := by
  intro hzero
  have hneg := toInt_neg_of_pos h
  rw [hzero, Int64.toInt_zero] at hneg
  omega

/-! ### Operations -/

theorem transferWork_meetsRules (r : TransferRequest) :
    (transferWork r).Issues Query.MeetsRules := by
  refine transferWork_issues (fun hvalid => ?_) trivial trivial
  obtain ⟨hpos, hids⟩ := TransferRequest.validate_ok_iff.mp hvalid
  refine ⟨⟨hpos, hids⟩, neg_ne_zero_of_pos hpos, ?_⟩
  intro hzero
  rw [hzero] at hpos
  exact absurd hpos (by decide)

/-- **No operation stores anything that breaks the rules**, whatever it is
asked for. -/
theorem Operation.meetsRules (op : Operation) : op.Issues Query.MeetsRules := by
  cases op with
  | openAccount owner balance currency => exact fun checked => owner_of_checkOpening
  | closeAccount id => exact closeWork_issues trivial trivial trivial
  | adjustBalance id amount => exact fun hamount => adjustWork_issues trivial hamount trivial
  | transferFunds request | transferFundsWith token cancelled request =>
      exact transferWork_meetsRules request
  | listTransfers accountId page | listEntries accountId page =>
      exact pageWork_issues trivial trivial
  | createUser username fullName email =>
      intro hvalid
      rw [← validateNew_trim] at hvalid
      exact ⟨hvalid, isTrimmed_trim fullName⟩
  | requestVerification lifetime username secretCode =>
      exact requestWork_issues trivial fun _ _ => trivial
  | verifyEmail id secretCode => exact fun now => confirmWork_issues trivial trivial fun _ => rfl
  | getAccount id | listAccounts owner page | getTransfer id | getEntry id | getUser username
  | getVerification id | status => trivial

/-! ### Runs -/

theorem Books.meetRules_serveAll {b : Books} (h : b.db.rows.MeetRules) (requests : List Request) :
    (b.serveAll requests).db.rows.MeetRules := by
  induction requests generalizing b with
  | nil => exact h
  | cons r requests ih =>
      have hissues := r.operation.meetsRules.imp fun _ => Query.preserves_meetRules
      exact ih (b := b.serve r) (Operation.perform_preserves hissues r.env h)

/-- **Every run from an empty ledger stores only what meets the rules**, with
whatever texts and numbers the operations are requested. -/
theorem meetRules_of_requests (requests : List Request) :
    (Books.empty.serveAll requests).db.rows.MeetRules := by
  refine Books.meetRules_serveAll ?_ requests
  constructor <;> exact fun _ h => absurd h List.not_mem_nil

/-- Ann is stored without the blanks around her, one of which is no ASCII
character; an owner of nothing but blanks is not stored. -/
example :
    (Books.empty.serveAll
      [⟨.openAccount "\u2003ann " 5 "USD", epoch⟩,
        ⟨.openAccount "\u2003 " 5 "USD", epoch⟩]).db.rows.accounts.map (·.owner) = ["ann"] := by
  decide +kernel

end Ledger

end DoubleEntry

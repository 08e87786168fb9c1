/-
DoubleEntry/Proofs/Ledger/Queries.lean

Which queries a unit of work of the ledger issues: whatever holds of these
queries holds of all that the unit may issue.  There is one lemma for each
unit, and no other proof has to go through a unit to find out.  What a unit
checks before it issues a query may be used (`transferWork_issues`).
-/
import DoubleEntry.Ledger.Accounts
import DoubleEntry.Ledger.Verifications
import DoubleEntry.Proofs.Store.Frame

namespace DoubleEntry.Ledger

variable {P : Query → Prop}

/-! ### Units that move money -/

theorem closeWork_issues {id : Int64} (hlock : P (.accountForUpdate id))
    (hentries : P (.entries id { limit := 1, offset := 0 })) (hdelete : P (.deleteAccount id)) :
    (closeWork id).Issues P := by
  refine Work.issues_query_bind hlock fun account => ?_
  refine Work.issues_query_bind hentries fun entries => ?_
  exact Work.issues_check_bind fun _ _ => Work.issues_query hdelete

theorem adjustWork_issues {id amount : Int64} (hlock : P (.accountForUpdate id))
    (hentry : P (.createEntry id amount)) (hadd : P (.addBalance id amount)) :
    (adjustWork id amount).Issues P := by
  refine Work.issues_query_bind hlock fun account => ?_
  refine Work.issues_query_bind hentry fun entry => ?_
  exact Work.issues_query_bind hadd fun account => trivial

theorem addMoney_issues {id₁ amount₁ id₂ amount₂ : Int64} (hfirst : P (.addBalance id₁ amount₁))
    (hsecond : P (.addBalance id₂ amount₂)) : (addMoney id₁ amount₁ id₂ amount₂).Issues P := by
  -- whichever of the balances is changed first
  unfold addMoney
  split
  · exact ⟨hfirst, fun _ => ⟨hsecond, fun _ => trivial⟩⟩
  · exact ⟨hsecond, fun _ => ⟨hfirst, fun _ => trivial⟩⟩

/-- The rows of a transfer are stored only if its request is valid. -/
theorem transferWork_issues {r : TransferRequest}
    (hrows : r.validate = .ok () → P (.createTransfer r) ∧ P (.createEntry r.fromId (-r.amount)) ∧
      P (.createEntry r.toId r.amount))
    (hdebit : P (.addBalance r.fromId (-r.amount))) (hcredit : P (.addBalance r.toId r.amount)) :
    (transferWork r).Issues P := by
  refine Work.issues_check_bind fun _ hvalid => ?_
  obtain ⟨htransfer, hfrom, hto⟩ := hrows hvalid
  refine Work.issues_query_bind htransfer fun transfer => ?_
  refine Work.issues_query_bind hfrom fun fromEntry => ?_
  refine Work.issues_query_bind hto fun toEntry => ?_
  exact Work.issues_bind (addMoney_issues hdebit hcredit) fun accounts => trivial

/-! ### Pages -/

theorem pageWork_issues {accountId : Int64} {page : Page} {q : Query}
    (hfind : P (.account accountId)) (hq : P q) : (pageWork accountId page q).Issues P := by
  refine Work.issues_check_bind fun _ _ => ?_
  exact Work.issues_query_bind hfind fun account => Work.issues_query hq

/-! ### Codes -/

theorem requestWork_issues {lifetime : Duration} {username secretCode : String}
    (hfind : P (.user username))
    (hcreate : ∀ name email, P (.createVerification name email secretCode lifetime)) :
    (requestWork lifetime username secretCode).Issues P := by
  refine Work.issues_query_bind hfind fun user => ?_
  exact Work.issues_check_bind fun _ _ => Work.issues_query (hcreate _ _)

theorem confirmWork_issues {id : Int64} {secretCode : String} {now : Instant}
    (hfind : P (.verification id)) (hcode : P (.updateVerification id true))
    (huser : ∀ name, P (.updateUser name none (some true))) :
    (confirmWork id secretCode now).Issues P := by
  refine Work.issues_query_bind hfind fun record => ?_
  refine Work.issues_check_bind fun _ _ => ?_
  refine Work.issues_check_bind fun _ _ => ?_
  refine Work.issues_check_bind fun _ _ => ?_
  refine Work.issues_query_bind hcode fun verification => ?_
  exact Work.issues_query_bind (huser _) fun user => trivial

end DoubleEntry.Ledger

/-
DoubleEntry/Proofs/CommandLine/Alike.lean

Commands on alike ledgers.  A command that gets other owners, balances and
amounts, on a ledger that holds others, ends alike (`EndsAgree`): both runs
print something, or both stop with the same failure, or one of them fails
with an error that a personal value has brought about.

Actions are built from a few constructs, and each construct has one lemma
here which says that it keeps this relation.  The lemma on a command follows
its text.
-/
import DoubleEntry.CommandLine.Run
import DoubleEntry.Proofs.Ledger.Alike

namespace DoubleEntry.CommandLine

open DoubleEntry.Text DoubleEntry.CommandLine.Action

variable {σ τ α β γ δ : Type} {P : Error → Prop} {R : α → β → Prop} {S : σ → σ → Prop}

/-! ### Actions that agree -/

/-- Two actions end alike: both with values, both for the same reason, or one
of them with an error of the sort `P`.  Questions may differ. -/
inductive EndsAgree (P : Error → Prop) (R : α → β → Prop) (S : σ → σ → Prop) :
    Except Stop α × σ → Except Stop β × σ → Prop
  | done {a : α} {b : β} {s s' : σ} (answer : R a b) (after : S s s') :
      EndsAgree P R S (.ok a, s) (.ok b, s')
  | stopped (t : Stop) {s s' : σ} (after : S s s') :
      EndsAgree P R S (.error t, s) (.error t, s')
  | unanswered (question question' : String) {s s' : σ} (after : S s s') :
      EndsAgree P R S (.error (.unanswered question), s) (.error (.unanswered question'), s')
  | left {f : Failure} {e : Error} (cause : f.cause = some e) (hP : P e) (s : σ)
      (ended : Except Stop β × σ) : EndsAgree P R S (.error (.failed f), s) ended
  | right {f : Failure} {e : Error} (cause : f.cause = some e) (hP : P e)
      (ended : Except Stop α × σ) (s : σ) : EndsAgree P R S ended (.error (.failed f), s)

namespace Action

/-- Actions that end alike on states that are alike. -/
def Agree (P : Error → Prop) (R : α → β → Prop) (S : σ → σ → Prop) (a : Action σ α)
    (b : Action σ β) : Prop :=
  ∀ s s', S s s' → EndsAgree P R S (a s) (b s')

theorem pure_apply (x : α) (s : σ) : (pure x : Action σ α) s = (.ok x, s) :=
  rfl

/-- What follows an action gets its value, if it has one. -/
theorem bind_apply (a : Action σ α) (f : α → Action σ β) (s : σ) :
    (a >>= f) s =
      match a s with
      | (.ok x, s) => f x s
      | (.error t, s) => (.error t, s) := by
  simp only [bind, ExceptT.bind, ExceptT.mk, StateT.bind]
  cases a s with
  | mk r s => cases r <;> rfl

theorem agree_pure {a : α} {b : β} (h : R a b) :
    (pure a : Action σ α).Agree P R S (pure b : Action σ β) :=
  fun _ _ hs => .done h hs

theorem agree_bind {Q : γ → δ → Prop} {a : Action σ γ} {b : Action σ δ} (h : a.Agree P Q S b)
    {f : γ → Action σ α} {g : δ → Action σ β} (hf : ∀ x y, Q x y → (f x).Agree P R S (g y)) :
    (a >>= f).Agree P R S (b >>= g) := by
  intro s s' hs
  have hends := h s s' hs
  rw [bind_apply, bind_apply]
  generalize a s = ended at hends
  generalize b s' = ended' at hends
  cases hends with
  | done answer after => exact hf _ _ answer _ _ after
  | stopped t after => exact .stopped t after
  | unanswered question question' after => exact .unanswered question question' after
  | left cause hP => exact .left cause hP _ _
  | right cause hP => exact .right cause hP _ _

/-- What is made of a value is made after the action. -/
theorem agree_map {Q : γ → δ → Prop} {a : Action σ γ} {b : Action σ δ} (h : a.Agree P Q S b)
    {f : γ → α} {g : δ → β} (hf : ∀ x y, Q x y → R (f x) (g y)) :
    (do return f (← a) : Action σ α).Agree P R S (do return g (← b)) :=
  agree_bind h fun x y hxy => agree_pure (hf x y hxy)

theorem agree_stop (f : Failure) :
    (stop f : Action σ α).Agree P R S (stop f : Action σ β) :=
  fun _ _ hs => .stopped _ hs

/-- A result that is a value for both or the same error for both. -/
theorem agree_orFail {ε : Type} (failure : ε → Failure) {r : Except ε α} {r' : Except ε β}
    (h : ResultsAgree R r r') :
    (orFail failure r : Action σ α).Agree P R S (orFail failure r') := by
  cases h with
  | ok h => exact agree_pure h
  | error e => exact agree_stop _

/-- A value that is there for both or for neither. -/
theorem agree_orCrash (a : Option α) :
    (orCrash a : Action σ α).Agree P Eq S (orCrash a) := by
  cases a with
  | some a => exact agree_pure rfl
  | none => exact fun _ _ hs => .stopped _ hs

/-- The states are alike to begin with. -/
theorem agree_get : (get : Action σ σ).Agree P S S get :=
  fun _ _ hs => .done hs hs

theorem agree_set {s s' : σ} (h : S s s') : (set s : Action σ PUnit).Agree P Eq S (set s') :=
  fun _ _ _ => .done rfl h

theorem agree_modify {f g : σ → σ} (h : ∀ s s', S s s' → S (f s) (g s')) :
    (modify f : Action σ PUnit).Agree P Eq S (modify g) :=
  fun s s' hs => .done rfl (h s s' hs)

/-- An action on a part leaves the whole alike when it leaves the part so. -/
theorem agree_focus {T : τ → τ → Prop} {part part' : σ} (hpart : S part part')
    {putBack : σ → τ → τ} (hput : ∀ s s' t t', S s s' → T t t' → T (putBack s t) (putBack s' t'))
    {a : Action σ α} {b : Action σ β} (h : a.Agree P R S b) :
    (focus part putBack a).Agree P R T (focus part' putBack b) := by
  intro t t' ht
  have hends := h part part' hpart
  unfold focus
  generalize a part = ended at hends
  generalize b part' = ended' at hends
  cases hends with
  | done answer after => exact .done answer (hput _ _ _ _ after ht)
  | stopped stop after => exact .stopped stop (hput _ _ _ _ after ht)
  | unanswered question question' after =>
      exact .unanswered question question' (hput _ _ _ _ after ht)
  | left cause hP => exact .left cause hP _ _
  | right cause hP => exact .right cause hP _ _

/-- An operation carries the relation of the store over to actions. -/
theorem agree_perform {f : Database → Ran α} {g : Database → Ran β}
    (h : ∀ {db db' : Database}, db.Alike db' → (f db).Agree R (g db')) :
    (perform f).Agree Error.IsPersonal R Database.Alike (perform g) := by
  intro db db' hdb
  have hagree := h hdb
  unfold perform
  generalize f db = ran at hagree
  generalize g db' = ran' at hagree
  cases hagree with
  | answered answer after => exact .done answer after
  | failed e after => exact .stopped _ after
  | crashed after => exact .stopped _ after
  | left personal => exact .left rfl personal _ _
  | right personal => exact .right rfl personal _ _

/-- Looking is an operation that changes nothing. -/
theorem look_eq_perform (read : Database → Except Error α) :
    look read = perform fun db => { outcome := .ofExcept (read db), db } := by
  funext db
  unfold look perform
  dsimp only
  cases read db <;> rfl

/-- What was being done is put above the failure. -/
theorem within_apply (context : String) (a : Action σ α) (s : σ) :
    within context a s =
      match a s with
      | (.ok x, s) => (.ok x, s)
      | (.error (.failed f), s) => (.error (.failed (f.within context)), s)
      | (.error t, s) => (.error t, s) := by
  unfold within
  simp only [tryCatch, tryCatchThe, MonadExceptOf.tryCatch, ExceptT.tryCatch, ExceptT.mk, bind,
    StateT.bind]
  cases a s with
  | mk r s =>
      cases r with
      | ok x => rfl
      | error t => cases t <;> rfl

/-- A text above the failure is the same for both. -/
theorem agree_within (context : String) {a : Action σ α} {b : Action σ β} (h : a.Agree P R S b) :
    (within context a).Agree P R S (within context b) := by
  intro s s' hs
  have hends := h s s' hs
  rw [within_apply, within_apply]
  generalize a s = ended at hends
  generalize b s' = ended' at hends
  cases hends with
  | done answer after => exact .done answer after
  | stopped t after =>
      cases t with
      | failed f => exact .stopped (.failed (f.within context)) after
      | unanswered question => exact .stopped (.unanswered question) after
      | crash => exact .stopped .crash after
  | unanswered question question' after => exact .unanswered question question' after
  | @left f e cause hP s ended =>
      -- the texts above an error leave it the cause
      have hcause : (f.within context).cause = some e := cause
      exact .left hcause hP _ _
  | @right f e cause hP ended s =>
      have hcause : (f.within context).cause = some e := cause
      exact .right hcause hP _ _

/-- A question that is asked for both or for neither. -/
theorem agree_confirm (known : Bool) (reply : Option Bool) (question question' : String) :
    (confirm known reply question).Agree P Eq S (confirm known reply question') := by
  cases known with
  | true => exact agree_pure rfl
  | false =>
      cases reply with
      | some yes => exact agree_pure rfl
      | none => exact fun _ _ hs => .unanswered question question' hs

end Action

/-! ### Printing -/

theorem agree_present (json : Bool) (j j' : Json) {text text' : Action σ String}
    (h : text.Agree P anyAnswers S text') :
    (present json j text).Agree P anyAnswers S (present json j' text') := by
  cases json with
  | true => exact agree_pure trivial
  | false => exact h

/-- A record that an operation gives is printed. -/
theorem agree_printed {f g : Database → Ran α} {R : α → α → Prop}
    (h : ∀ {db db' : Database}, db.Alike db' → (f db).Agree R (g db')) (json : Bool)
    (toJson : α → Json) (text : α → String) :
    (do
      let a ← perform f
      present json (toJson a) (pure (text a)) : Action Database String).Agree Error.IsPersonal
      anyAnswers Database.Alike (do
        let a ← perform g
        present json (toJson a) (pure (text a))) := by
  apply agree_bind (agree_perform h)
  intro a a' _
  exact agree_present json _ _ (agree_pure trivial)

/-- Lists that are both empty or both not are printed in the same way. -/
theorem agree_presentList (json color : Bool) (toJson : α → Json) (none : String)
    {items items' : List α} (hlength : items'.length = items.length)
    {text text' : Action σ String} (h : text.Agree P anyAnswers S text') :
    (presentList json color toJson none items text).Agree P anyAnswers S
      (presentList json color toJson none items' text') := by
  have hempty : items'.isEmpty = items.isEmpty := by
    rw [Bool.eq_iff_iff, List.isEmpty_iff_length_eq_zero, List.isEmpty_iff_length_eq_zero, hlength]
  apply agree_present
  rw [hempty]
  split
  · exact agree_pure trivial
  · exact h

/-- A list is printed where its text takes nothing from the ledger. -/
theorem agree_presentList_pure (json color : Bool) (toJson : α → Json) (none : String)
    (items items' : List α) (text text' : String) :
    (presentList json color toJson none items (pure text) : Action σ String).Agree P anyAnswers S
      (presentList json color toJson none items' (pure text')) := by
  apply agree_present
  split
  · split
    · exact agree_pure trivial
    · exact agree_pure trivial
  · split
    · exact agree_pure trivial
    · exact agree_pure trivial

/-! ### Commands -/

/-- The same command about accounts with other owners, balances and
amounts. -/
inductive AccountCommand.Alike : AccountCommand → AccountCommand → Prop
  | openNew (owner owner' currency : String) (balance balance' : Int64) :
      Alike (.openNew owner currency balance) (.openNew owner' currency balance')
  | info (id : Int64) : Alike (.info id) (.info id)
  | list {owner owner' : Option String} (given : owner'.isSome = owner.isSome)
      (limit : Option Int64) (offset : Int64) :
      Alike (.list owner limit offset) (.list owner' limit offset)
  | close (id : Int64) (force : Bool) : Alike (.close id force) (.close id force)
  | adjust (id amount amount' : Int64) : Alike (.adjust id amount) (.adjust id amount')

/-- The same command about transfers with another amount. -/
inductive TransferCommand.Alike : TransferCommand → TransferCommand → Prop
  | send (fromId toId amount amount' : Int64) :
      Alike (.send fromId toId amount) (.send fromId toId amount')
  | info (id : Int64) : Alike (.info id) (.info id)
  | list (accountId : Int64) (limit : Option Int64) (offset : Int64) :
      Alike (.list accountId limit offset) (.list accountId limit offset)

/-- The same command with other owners, balances and amounts. -/
inductive Command.Alike : Command → Command → Prop
  | account {c c' : AccountCommand} (h : c.Alike c') : Alike (.account c) (.account c')
  | transfer {c c' : TransferCommand} (h : c.Alike c') : Alike (.transfer c) (.transfer c')
  | entry (c : EntryCommand) : Alike (.entry c) (.entry c)
  | user (c : UserCommand) : Alike (.user c) (.user c)
  | verify (c : VerifyCommand) : Alike (.verify c) (.verify c)
  | status : Alike .status .status
  | logs (c : LogsCommand) : Alike (.logs c) (.logs c)

/-- Commands that are alike go under one name. -/
theorem Command.Alike.name_eq {c c' : Command} (h : c.Alike c') : c'.name = c.name := by
  cases h <;> rfl

/-- Commands that are alike both leave an event, or neither does. -/
theorem Command.Alike.isRecorded_eq {c c' : Command} (h : c.Alike c') :
    c'.isRecorded = c.isRecorded := by
  cases h <;> rfl

namespace Session

variable (s : Session)

/-- The currency of an account that is looked up. -/
theorem currencyOf_agree (accountId : Int64) :
    (s.currencyOf accountId).Agree Error.IsPersonal anyAnswers Database.Alike
      (s.currencyOf accountId) :=
  agree_map (agree_perform fun hdb => Ledger.getAccount_agree hdb accountId) fun _ _ _ => trivial

theorem closeAccount_agree (hfail : s.env.failOn = none) (id : Int64) (force : Bool) :
    (s.closeAccount id force).Agree Error.IsPersonal anyAnswers Database.Alike
      (s.closeAccount id force) := by
  unfold closeAccount
  apply agree_bind (agree_perform fun hdb => Ledger.getAccount_agree hdb id)
  intro a a' _
  -- the question names the owner, but is not part of any event
  apply agree_bind (agree_confirm _ s.reply _ _)
  rintro yes _ rfl
  split
  · apply agree_bind (agree_perform fun hdb => Ledger.closeAccount_agree hfail hdb id)
    intro _ _ _
    exact agree_present _ _ _ (agree_pure trivial)
  · exact agree_pure trivial

theorem runAccount_agree (hfail : s.env.failOn = none) {c c' : AccountCommand} (h : c.Alike c') :
    (s.runAccount c).Agree Error.IsPersonal anyAnswers Database.Alike (s.runAccount c') := by
  cases h with
  | openNew owner owner' currency balance balance' =>
      exact agree_printed
        (fun hdb => Ledger.openAccount_agree hdb owner owner' balance balance' currency) _ _ _
  | info id =>
      exact agree_printed (fun hdb => Ledger.getAccount_agree hdb id) _ _ _
  | list given limit offset =>
      apply agree_bind (agree_perform fun hdb => Ledger.listAccounts_agree hdb _ _ _)
      intro as as' _
      exact agree_presentList_pure _ _ _ _ _ _ _ _
  | close id force => exact s.closeAccount_agree hfail id force
  | adjust id amount amount' =>
      exact agree_printed
        (fun hdb => Ledger.adjustBalance_agree hfail hdb id amount amount') _ _ _

theorem runTransfer_agree (hfail : s.env.failOn = none) {c c' : TransferCommand}
    (h : c.Alike c') :
    (s.runTransfer c).Agree Error.IsPersonal anyAnswers Database.Alike (s.runTransfer c') := by
  cases h with
  | send fromId toId amount amount' =>
      exact agree_printed
        (fun hdb => Ledger.transferFunds_agree hfail hdb fromId toId amount amount') _ _ _
  | info id =>
      apply agree_bind (agree_perform fun hdb => Ledger.getTransfer_agree hdb id)
      intro t t' hfrom
      apply agree_present
      rw [hfrom]
      exact agree_map (s.currencyOf_agree _) fun _ _ _ => trivial
  | list accountId limit offset =>
      apply agree_bind (agree_perform fun hdb => Ledger.listTransfers_agree hdb accountId _)
      intro ts ts' hlength
      apply agree_presentList _ _ _ _ hlength
      exact agree_map (s.currencyOf_agree _) fun _ _ _ => trivial

theorem runEntry_agree (c : EntryCommand) :
    (s.runEntry c).Agree Error.IsPersonal anyAnswers Database.Alike (s.runEntry c) := by
  cases c with
  | info id =>
      apply agree_bind (agree_perform fun hdb => Ledger.getEntry_agree hdb id)
      intro e e' haccount
      apply agree_present
      rw [haccount]
      exact agree_map (s.currencyOf_agree _) fun _ _ _ => trivial
  | list accountId limit offset =>
      apply agree_bind (agree_perform fun hdb => Ledger.listEntries_agree hdb accountId _)
      intro es es' hlength
      apply agree_presentList _ _ _ _ hlength
      exact agree_map (s.currencyOf_agree _) fun _ _ _ => trivial

theorem runUser_agree (c : UserCommand) :
    (s.runUser c).Agree Error.IsPersonal anyAnswers Database.Alike (s.runUser c) := by
  cases c with
  | register username fullName email =>
      exact agree_printed (fun hdb => Ledger.createUser_agree hdb username fullName email) _ _ _
  | info username =>
      exact agree_printed (fun hdb => Ledger.getUser_agree hdb username) _ _ _

theorem runVerify_agree (hfail : s.env.failOn = none) (c : VerifyCommand) :
    (s.runVerify c).Agree Error.IsPersonal anyAnswers Database.Alike (s.runVerify c) := by
  cases c with
  | request username =>
      exact agree_printed
        (fun hdb => Ledger.requestVerification_agree hfail hdb s.lifetime username s.secretCode)
        _ _ _
  | confirm id secretCode =>
      exact agree_printed
        (fun hdb => Ledger.verifyEmail_agree hfail hdb id (trim secretCode)) _ _ _

theorem runStatus_agree :
    s.runStatus.Agree Error.IsPersonal anyAnswers Database.Alike s.runStatus := by
  unfold runStatus
  rw [look_eq_perform]
  exact agree_printed (fun hdb => LedgerStatus.of_agree hdb) _ _ _

end Session

end DoubleEntry.CommandLine

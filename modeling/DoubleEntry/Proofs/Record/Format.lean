/-
DoubleEntry/Proofs/Record/Format.lean

The formats of the records: for each type of record its fields in their
order, and the proof that encoder and decoder keep to them
(`Account.format_describes` and its like).  `decode_record` draws the
conclusions for all types: a record whose instants are regular is read back
from its text and from every other text that holds it, and a malformed text
is refused.
-/
import DoubleEntry.EventLog.Event
import DoubleEntry.Proofs.Json.Format
import DoubleEntry.Record.Codec

namespace DoubleEntry

open DoubleEntry.Json

/-! ### Values of fields -/

namespace Json

theorem string?_toWritten (s : String) : (Json.string s).toWritten.string? = some s :=
  rfl

theorem bool?_toWritten (b : Bool) : (Json.bool b).toWritten.bool? = some b :=
  rfl

theorem everyNumber_ofInt64 (n : Int64) : (Json.ofInt64 n).EveryNumber Number.IsInteger :=
  isInteger_ofInt64 n

theorem everyNumber_ofUInt64 (n : UInt64) : (Json.int n.toNat).EveryNumber Number.IsInteger :=
  isInteger_ofUInt64 n

variable {U V α : Type} {name : String} {v : V} {read? : Written → Option α}
  {o : Option Written} {a : α}

theorem required_plain {get : V → Json} (h : (Field.plain name get).Holds v o)
    (hread : read? (get v).toWritten = some a) : required read? o = some a := by
  obtain rfl : o = some (get v).toWritten := h
  exact hread

theorem required_record {get : V → U} {F : Format U} {read? : Written → Option U}
    (h : (Field.record name get F).Holds v o)
    (hread : ∀ {w}, F.Writes (get v) w → read? w = some (get v)) :
    required read? o = some (get v) := by
  obtain ⟨w, rfl, hw⟩ := h
  exact hread hw

/-- A value that may be absent is written as itself, and as null where it is. -/
theorem ofOption_toWritten (encode : α → Json) (o : Option α) :
    (∃ a, o = some a ∧ (encode a).toWritten = (ofOption encode o).toWritten) ∨
      (o = none ∧ (ofOption encode o).toWritten = .null) := by
  cases o with
  | none => exact .inr ⟨rfl, rfl⟩
  | some a => exact .inl ⟨a, rfl, rfl⟩

theorem everyNumber_ofOption {p : Number → Prop} {encode : α → Json} {o : Option α}
    (h : ∀ a ∈ o, (encode a).EveryNumber p) : (ofOption encode o).EveryNumber p := by
  cases o with
  | none => trivial
  | some a => exact h a rfl

/-- Such a value is read back, also where it is left out, if no value is
written as null. -/
theorem optional_option {get : V → Option Json} {encode : U → Json} {read? : Written → Option U}
    {u : Option U} (h : (Field.option name get).Holds v o) (hget : get v = u.map encode)
    (hread : ∀ a ∈ u, (encode a).toWritten ≠ .null ∧ read? (encode a).toWritten = some a) :
    optional read? o = some u := by
  rw [Field.holds_option, hget] at h
  cases u with
  | none =>
      rcases h with rfl | ⟨-, rfl⟩
      · rfl
      · rfl
  | some a =>
      obtain rfl : o = some (encode a).toWritten := h.resolve_right fun hnone => nomatch hnone.1
      obtain ⟨hne, hread⟩ := hread a rfl
      unfold optional
      split
      case h_1 heq => cases heq
      case h_2 heq => exact absurd (Option.some.inj heq) hne
      case h_3 w heq =>
        cases heq
        rw [hread]
        rfl

theorem optional_string? {get : V → Option String}
    (h : (Field.option name fun v => (get v).map Json.string).Holds v o) :
    optional Written.string? o = some (get v) :=
  optional_option h rfl fun s _ => ⟨nofun, string?_toWritten s⟩

end Json

theorem Currency.ofWritten?_toWritten (c : Currency) :
    Currency.ofWritten? c.toJson.toWritten = some c := by
  show (some c.code).bind Currency.ofCode? = some c
  exact Currency.ofCode?_code c

theorem Instant.ofWritten?_toWritten {t : Instant} (h : t.IsRegular) :
    Instant.ofWritten? t.toJson.toWritten = some t := by
  rw [Instant.ofWritten?, Instant.toJson, string?_toWritten, Option.bind_some, readLoosely?_text h]

/-! ### Accounts -/

namespace Account

/-- The instants of an account. -/
def instants (a : Account) : List Instant :=
  [a.createdAt]

/-- The format of an account. -/
def format : Format Account :=
  [.plain "id" (Json.ofInt64 ·.id), .plain "owner" (Json.string ·.owner),
    .plain "balance" (Json.ofInt64 ·.balance), .plain "currency" (·.currency.toJson),
    .plain "created_at" (·.createdAt.toJson)]

theorem format_describes : format.Describes toJson ofWritten? instants where
  writes a := Format.writes_object (by simp) (by simp [format, List.lookup_cons])
  integers a := by
    simp [toJson, EveryNumber, EveryNumberOfFields, everyNumber_ofInt64, Currency.toJson,
      Instant.toJson]
  reads {a w} hregular h := by
    -- the fields that are found are those of the format, one by one
    obtain ⟨os, hos, hall⟩ := h.exists_fields?
    obtain _ | ⟨h₁, _ | ⟨h₂, _ | ⟨h₃, _ | ⟨h₄, _ | ⟨h₅, ⟨⟩⟩⟩⟩⟩⟩ := hall
    have hcreated : a.createdAt.IsRegular := hregular _ List.mem_cons_self
    have hos : w.fields? fieldNames = _ := hos
    simp [ofWritten?, hos, required_plain h₁ (int64?_toWritten _),
      required_plain h₂ (string?_toWritten _), required_plain h₃ (int64?_toWritten _),
      required_plain h₄ (Currency.ofWritten?_toWritten _),
      required_plain h₅ (Instant.ofWritten?_toWritten hcreated)]
  refuses {a w} h := by
    simp only [ofWritten?] at h
    split at h
    case h_2 => cases h
    case h_1 hos =>
      -- a record that is read has been read field by field
      simp only [Option.bind_eq_bind, Option.bind_eq_some_iff] at h
      obtain ⟨_, h₁, _, h₂, _, h₃, _, h₄, _, h₅, -⟩ := h
      exact Format.not_malformed hos <| .cons (Field.admits_plain _ h₁) <|
        .cons (Field.admits_plain _ h₂) <| .cons (Field.admits_plain _ h₃) <|
        .cons (Field.admits_plain _ h₄) <| .cons (Field.admits_plain _ h₅) <| .nil

end Account

/-! ### Entries -/

namespace Entry

/-- The instants of an entry. -/
def instants (e : Entry) : List Instant :=
  [e.createdAt]

/-- The format of an entry. -/
def format : Format Entry :=
  [.plain "id" (Json.ofInt64 ·.id), .plain "account_id" (Json.ofInt64 ·.accountId),
    .plain "amount" (Json.ofInt64 ·.amount), .plain "created_at" (·.createdAt.toJson)]

theorem format_describes : format.Describes toJson ofWritten? instants where
  writes e := Format.writes_object (by simp) (by simp [format, List.lookup_cons])
  integers e := by
    simp [toJson, EveryNumber, EveryNumberOfFields, everyNumber_ofInt64, Instant.toJson]
  reads {e w} hregular h := by
    obtain ⟨os, hos, hall⟩ := h.exists_fields?
    obtain _ | ⟨h₁, _ | ⟨h₂, _ | ⟨h₃, _ | ⟨h₄, ⟨⟩⟩⟩⟩⟩ := hall
    have hcreated : e.createdAt.IsRegular := hregular _ List.mem_cons_self
    have hos : w.fields? fieldNames = _ := hos
    simp [ofWritten?, hos, required_plain h₁ (int64?_toWritten _),
      required_plain h₂ (int64?_toWritten _), required_plain h₃ (int64?_toWritten _),
      required_plain h₄ (Instant.ofWritten?_toWritten hcreated)]
  refuses {e w} h := by
    simp only [ofWritten?] at h
    split at h
    case h_2 => cases h
    case h_1 hos =>
      simp only [Option.bind_eq_bind, Option.bind_eq_some_iff] at h
      obtain ⟨_, h₁, _, h₂, _, h₃, _, h₄, -⟩ := h
      exact Format.not_malformed hos <| .cons (Field.admits_plain _ h₁) <|
        .cons (Field.admits_plain _ h₂) <| .cons (Field.admits_plain _ h₃) <|
        .cons (Field.admits_plain _ h₄) <| .nil

end Entry

/-! ### Transfers -/

namespace Transfer

/-- The instants of a transfer. -/
def instants (t : Transfer) : List Instant :=
  [t.createdAt]

/-- The format of a transfer. -/
def format : Format Transfer :=
  [.plain "id" (Json.ofInt64 ·.id), .plain "from_account_id" (Json.ofInt64 ·.fromId),
    .plain "to_account_id" (Json.ofInt64 ·.toId), .plain "amount" (Json.ofInt64 ·.amount),
    .plain "created_at" (·.createdAt.toJson)]

theorem format_describes : format.Describes toJson ofWritten? instants where
  writes t := Format.writes_object (by simp) (by simp [format, List.lookup_cons])
  integers t := by
    simp [toJson, EveryNumber, EveryNumberOfFields, everyNumber_ofInt64, Instant.toJson]
  reads {t w} hregular h := by
    obtain ⟨os, hos, hall⟩ := h.exists_fields?
    obtain _ | ⟨h₁, _ | ⟨h₂, _ | ⟨h₃, _ | ⟨h₄, _ | ⟨h₅, ⟨⟩⟩⟩⟩⟩⟩ := hall
    have hcreated : t.createdAt.IsRegular := hregular _ List.mem_cons_self
    have hos : w.fields? fieldNames = _ := hos
    simp [ofWritten?, hos, required_plain h₁ (int64?_toWritten _),
      required_plain h₂ (int64?_toWritten _), required_plain h₃ (int64?_toWritten _),
      required_plain h₄ (int64?_toWritten _),
      required_plain h₅ (Instant.ofWritten?_toWritten hcreated)]
  refuses {t w} h := by
    simp only [ofWritten?] at h
    split at h
    case h_2 => cases h
    case h_1 hos =>
      simp only [Option.bind_eq_bind, Option.bind_eq_some_iff] at h
      obtain ⟨_, h₁, _, h₂, _, h₃, _, h₄, _, h₅, -⟩ := h
      exact Format.not_malformed hos <| .cons (Field.admits_plain _ h₁) <|
        .cons (Field.admits_plain _ h₂) <| .cons (Field.admits_plain _ h₃) <|
        .cons (Field.admits_plain _ h₄) <| .cons (Field.admits_plain _ h₅) <| .nil

end Transfer

namespace TransferRequest

/-- The instants of a request. -/
def instants (_ : TransferRequest) : List Instant :=
  []

/-- The format of a request. -/
def format : Format TransferRequest :=
  [.plain "from_account_id" (Json.ofInt64 ·.fromId), .plain "to_account_id" (Json.ofInt64 ·.toId),
    .plain "amount" (Json.ofInt64 ·.amount)]

theorem format_describes : format.Describes toJson ofWritten? instants where
  writes r := Format.writes_object (by simp) (by simp [format, List.lookup_cons])
  integers r := by
    simp [toJson, EveryNumber, EveryNumberOfFields, everyNumber_ofInt64]
  reads {r w} _ h := by
    obtain ⟨os, hos, hall⟩ := h.exists_fields?
    obtain _ | ⟨h₁, _ | ⟨h₂, _ | ⟨h₃, ⟨⟩⟩⟩⟩ := hall
    have hos : w.fields? fieldNames = _ := hos
    simp [ofWritten?, hos, required_plain h₁ (int64?_toWritten _),
      required_plain h₂ (int64?_toWritten _), required_plain h₃ (int64?_toWritten _)]
  refuses {r w} h := by
    simp only [ofWritten?] at h
    split at h
    case h_2 => cases h
    case h_1 hos =>
      simp only [Option.bind_eq_bind, Option.bind_eq_some_iff] at h
      obtain ⟨_, h₁, _, h₂, _, h₃, -⟩ := h
      exact Format.not_malformed hos <| .cons (Field.admits_plain _ h₁) <|
        .cons (Field.admits_plain _ h₂) <| .cons (Field.admits_plain _ h₃) <| .nil

end TransferRequest

namespace TransferReceipt

/-- The instants of the receipt of a transfer. -/
def instants (r : TransferReceipt) : List Instant :=
  r.transfer.instants ++ r.fromEntry.instants ++ r.toEntry.instants ++ r.fromAccount.instants
    ++ r.toAccount.instants

/-- The format of the receipt of a transfer. -/
def format : Format TransferReceipt :=
  [.record "transfer" (·.transfer) Transfer.format, .record "from_entry" (·.fromEntry) Entry.format,
    .record "to_entry" (·.toEntry) Entry.format,
    .record "from_account" (·.fromAccount) Account.format,
    .record "to_account" (·.toAccount) Account.format]

theorem format_describes : format.Describes toJson ofWritten? instants where
  writes r := Format.writes_object (by simp) (by
    simp [format, List.lookup_cons, Account.format_describes.writes, Entry.format_describes.writes,
      Transfer.format_describes.writes])
  integers r := by
    simp [toJson, EveryNumber, EveryNumberOfFields, Account.format_describes.integers,
      Entry.format_describes.integers, Transfer.format_describes.integers]
  reads {r w} hregular h := by
    obtain ⟨os, hos, hall⟩ := h.exists_fields?
    obtain _ | ⟨h₁, _ | ⟨h₂, _ | ⟨h₃, _ | ⟨h₄, _ | ⟨h₅, ⟨⟩⟩⟩⟩⟩⟩ := hall
    simp only [instants, List.forall_mem_append] at hregular
    obtain ⟨⟨⟨⟨r₁, r₂⟩, r₃⟩, r₄⟩, r₅⟩ := hregular
    have hos : w.fields? fieldNames = _ := hos
    simp [ofWritten?, hos, required_record h₁ (Transfer.format_describes.reads r₁),
      required_record h₂ (Entry.format_describes.reads r₂),
      required_record h₃ (Entry.format_describes.reads r₃),
      required_record h₄ (Account.format_describes.reads r₄),
      required_record h₅ (Account.format_describes.reads r₅)]
  refuses {r w} h := by
    simp only [ofWritten?] at h
    split at h
    case h_2 => cases h
    case h_1 hos =>
      simp only [Option.bind_eq_bind, Option.bind_eq_some_iff] at h
      obtain ⟨_, h₁, _, h₂, _, h₃, _, h₄, _, h₅, -⟩ := h
      exact Format.not_malformed hos <|
        .cons (Field.admits_record _ Transfer.format_describes.refuses h₁) <|
        .cons (Field.admits_record _ Entry.format_describes.refuses h₂) <|
        .cons (Field.admits_record _ Entry.format_describes.refuses h₃) <|
        .cons (Field.admits_record _ Account.format_describes.refuses h₄) <|
        .cons (Field.admits_record _ Account.format_describes.refuses h₅) <| .nil

end TransferReceipt

/-! ### Adjustments -/

namespace AdjustmentReceipt

/-- The instants of the receipt of an adjustment. -/
def instants (r : AdjustmentReceipt) : List Instant :=
  r.entry.instants ++ r.account.instants

/-- The format of the receipt of an adjustment. -/
def format : Format AdjustmentReceipt :=
  [.record "entry" (·.entry) Entry.format, .record "account" (·.account) Account.format]

theorem format_describes : format.Describes toJson ofWritten? instants where
  writes r := Format.writes_object (by simp) (by
    simp [format, List.lookup_cons, Account.format_describes.writes, Entry.format_describes.writes])
  integers r := by
    simp [toJson, EveryNumber, EveryNumberOfFields, Account.format_describes.integers,
      Entry.format_describes.integers]
  reads {r w} hregular h := by
    obtain ⟨os, hos, hall⟩ := h.exists_fields?
    obtain _ | ⟨h₁, _ | ⟨h₂, ⟨⟩⟩⟩ := hall
    simp only [instants, List.forall_mem_append] at hregular
    obtain ⟨r₁, r₂⟩ := hregular
    have hos : w.fields? fieldNames = _ := hos
    simp [ofWritten?, hos, required_record h₁ (Entry.format_describes.reads r₁),
      required_record h₂ (Account.format_describes.reads r₂)]
  refuses {r w} h := by
    simp only [ofWritten?] at h
    split at h
    case h_2 => cases h
    case h_1 hos =>
      simp only [Option.bind_eq_bind, Option.bind_eq_some_iff] at h
      obtain ⟨_, h₁, _, h₂, -⟩ := h
      exact Format.not_malformed hos <|
        .cons (Field.admits_record _ Entry.format_describes.refuses h₁) <|
        .cons (Field.admits_record _ Account.format_describes.refuses h₂) <| .nil

end AdjustmentReceipt

/-! ### Users -/

namespace User

/-- The instants of a user. -/
def instants (u : User) : List Instant :=
  [u.createdAt]

/-- The format of a user. -/
def format : Format User :=
  [.plain "username" (Json.string ·.username), .plain "full_name" (Json.string ·.fullName),
    .plain "email" (Json.string ·.email), .plain "is_email_verified" (Json.bool ·.isEmailVerified),
    .plain "created_at" (·.createdAt.toJson)]

theorem format_describes : format.Describes toJson ofWritten? instants where
  writes u := Format.writes_object (by simp) (by simp [format, List.lookup_cons])
  integers u := by
    simp [toJson, EveryNumber, EveryNumberOfFields, Instant.toJson]
  reads {u w} hregular h := by
    obtain ⟨os, hos, hall⟩ := h.exists_fields?
    obtain _ | ⟨h₁, _ | ⟨h₂, _ | ⟨h₃, _ | ⟨h₄, _ | ⟨h₅, ⟨⟩⟩⟩⟩⟩⟩ := hall
    have hcreated : u.createdAt.IsRegular := hregular _ List.mem_cons_self
    have hos : w.fields? fieldNames = _ := hos
    simp [ofWritten?, hos, required_plain h₁ (string?_toWritten _),
      required_plain h₂ (string?_toWritten _), required_plain h₃ (string?_toWritten _),
      required_plain h₄ (bool?_toWritten _),
      required_plain h₅ (Instant.ofWritten?_toWritten hcreated)]
  refuses {u w} h := by
    simp only [ofWritten?] at h
    split at h
    case h_2 => cases h
    case h_1 hos =>
      simp only [Option.bind_eq_bind, Option.bind_eq_some_iff] at h
      obtain ⟨_, h₁, _, h₂, _, h₃, _, h₄, _, h₅, -⟩ := h
      exact Format.not_malformed hos <| .cons (Field.admits_plain _ h₁) <|
        .cons (Field.admits_plain _ h₂) <| .cons (Field.admits_plain _ h₃) <|
        .cons (Field.admits_plain _ h₄) <| .cons (Field.admits_plain _ h₅) <| .nil

end User

/-! ### Verifications -/

namespace Verification

/-- The instants of a verification. -/
def instants (v : Verification) : List Instant :=
  [v.createdAt, v.expiredAt]

/-- The format of a verification. -/
def format : Format Verification :=
  [.plain "id" (Json.ofInt64 ·.id), .plain "username" (Json.string ·.username),
    .plain "email" (Json.string ·.email), .plain "secret_code" (Json.string ·.secretCode),
    .plain "is_used" (Json.bool ·.isUsed), .plain "created_at" (·.createdAt.toJson),
    .plain "expired_at" (·.expiredAt.toJson)]

theorem format_describes : format.Describes toJson ofWritten? instants where
  writes v := Format.writes_object (by simp) (by simp [format, List.lookup_cons])
  integers v := by
    simp [toJson, EveryNumber, EveryNumberOfFields, everyNumber_ofInt64, Instant.toJson]
  reads {v w} hregular h := by
    obtain ⟨os, hos, hall⟩ := h.exists_fields?
    obtain _ | ⟨h₁, _ | ⟨h₂, _ | ⟨h₃, _ | ⟨h₄, _ | ⟨h₅, _ | ⟨h₆, _ | ⟨h₇, ⟨⟩⟩⟩⟩⟩⟩⟩⟩ := hall
    have hcreated : v.createdAt.IsRegular := hregular _ List.mem_cons_self
    have hexpired : v.expiredAt.IsRegular :=
      hregular _ (List.mem_cons_of_mem _ List.mem_cons_self)
    have hos : w.fields? fieldNames = _ := hos
    simp [ofWritten?, hos, required_plain h₁ (int64?_toWritten _),
      required_plain h₂ (string?_toWritten _), required_plain h₃ (string?_toWritten _),
      required_plain h₄ (string?_toWritten _), required_plain h₅ (bool?_toWritten _),
      required_plain h₆ (Instant.ofWritten?_toWritten hcreated),
      required_plain h₇ (Instant.ofWritten?_toWritten hexpired)]
  refuses {v w} h := by
    simp only [ofWritten?] at h
    split at h
    case h_2 => cases h
    case h_1 hos =>
      simp only [Option.bind_eq_bind, Option.bind_eq_some_iff] at h
      obtain ⟨_, h₁, _, h₂, _, h₃, _, h₄, _, h₅, _, h₆, _, h₇, -⟩ := h
      exact Format.not_malformed hos <| .cons (Field.admits_plain _ h₁) <|
        .cons (Field.admits_plain _ h₂) <| .cons (Field.admits_plain _ h₃) <|
        .cons (Field.admits_plain _ h₄) <| .cons (Field.admits_plain _ h₅) <|
        .cons (Field.admits_plain _ h₆) <| .cons (Field.admits_plain _ h₇) <| .nil

end Verification

namespace VerificationReceipt

/-- The instants of the receipt of a verification. -/
def instants (r : VerificationReceipt) : List Instant :=
  r.user.instants ++ r.verification.instants

/-- The format of the receipt of a verification. -/
def format : Format VerificationReceipt :=
  [.record "user" (·.user) User.format, .record "verify_email" (·.verification) Verification.format]

theorem format_describes : format.Describes toJson ofWritten? instants where
  writes r := Format.writes_object (by simp) (by
    simp [format, List.lookup_cons, User.format_describes.writes, Verification.format_describes.writes])
  integers r := by
    simp [toJson, EveryNumber, EveryNumberOfFields, User.format_describes.integers,
      Verification.format_describes.integers]
  reads {r w} hregular h := by
    obtain ⟨os, hos, hall⟩ := h.exists_fields?
    obtain _ | ⟨h₁, _ | ⟨h₂, ⟨⟩⟩⟩ := hall
    simp only [instants, List.forall_mem_append] at hregular
    obtain ⟨r₁, r₂⟩ := hregular
    have hos : w.fields? fieldNames = _ := hos
    simp [ofWritten?, hos, required_record h₁ (User.format_describes.reads r₁),
      required_record h₂ (Verification.format_describes.reads r₂)]
  refuses {r w} h := by
    simp only [ofWritten?] at h
    split at h
    case h_2 => cases h
    case h_1 hos =>
      simp only [Option.bind_eq_bind, Option.bind_eq_some_iff] at h
      obtain ⟨_, h₁, _, h₂, -⟩ := h
      exact Format.not_malformed hos <|
        .cons (Field.admits_record _ User.format_describes.refuses h₁) <|
        .cons (Field.admits_record _ Verification.format_describes.refuses h₂) <| .nil

end VerificationReceipt

/-! ### Events and their entries -/

namespace LogEvent

/-- An event has no instant of its own. -/
def instants (_ : LogEvent) : List Instant :=
  []

/-- The format of an event. -/
def format : Format LogEvent :=
  [.plain "event" (Json.string ·.event), .option "command" (·.command.map .string),
    .option "operation_id" (·.operationId.map .string),
    .option "error_kind" (·.errorKind.map .string),
    .option "error_message" (·.errorMessage.map .string)]

/-- The keys that are given are some of the names, in their order. -/
theorem keys_sublist {key : String} (o : Option String) :
    ((o.map fun s => (key, Json.string s)).toList.map Prod.fst).Sublist [key] := by
  cases o <;> simp

theorem lookup_field {key other : String} (o : Option String) :
    (o.map fun s => (key, Json.string s)).toList.lookup other =
      if other = key then o.map Json.string else none := by
  by_cases h : other = key
  · subst h
    cases o <;> simp
  · cases o <;> simp [h, lookup_cons_of_ne]

theorem format_describes : format.Describes toJson ofWritten? instants where
  writes e := by
    refine Format.writes_object ?_ ?_
    · refine List.Nodup.sublist (?_ : List.Sublist _ fieldNames) (by decide)
      simp only [List.map_append]
      exact ((((List.Sublist.refl ["event"]).append (keys_sublist _)).append
        (keys_sublist _)).append (keys_sublist _)).append (keys_sublist _)
    · simp [format, List.lookup_append, lookup_field, List.lookup_cons]
  integers e := by
    refine everyNumberOfFields_iff.mpr ?_
    simp [EveryNumber, or_imp, forall_and]
  reads {e w} _ h := by
    obtain ⟨os, hos, hall⟩ := h.exists_fields?
    obtain _ | ⟨h₁, _ | ⟨h₂, _ | ⟨h₃, _ | ⟨h₄, _ | ⟨h₅, ⟨⟩⟩⟩⟩⟩⟩ := hall
    have hos : w.fields? fieldNames = _ := hos
    simp [ofWritten?, hos, required_plain h₁ (string?_toWritten _), optional_string? h₂,
      optional_string? h₃, optional_string? h₄, optional_string? h₅]
  refuses {e w} h := by
    simp only [ofWritten?] at h
    split at h
    case h_2 => cases h
    case h_1 hos =>
      simp only [Option.bind_eq_bind, Option.bind_eq_some_iff] at h
      obtain ⟨_, h₁, -⟩ := h
      exact Format.not_malformed hos <| .cons (Field.admits_plain _ h₁) <|
        .cons (Field.admits_option _ _) <| .cons (Field.admits_option _ _) <|
        .cons (Field.admits_option _ _) <| .cons (Field.admits_option _ _) <| .nil

end LogEvent

namespace LogEntry

/-- The instant of an entry is a number. -/
def instants (_ : LogEntry) : List Instant :=
  []

/-- The format of an entry of the log. -/
def format : Format LogEntry :=
  [.plain "id" (Json.int ·.id.toNat), .plain "timestamp" (Json.ofInt64 ·.timestamp),
    .plain "entry_point" (Json.string ·.entryPoint),
    .plain "app_version" (Json.string ·.appVersion), .plain "platform" (Json.string ·.platform),
    .plain "event" (Json.string ·.event), .option "command" (·.command.map .string),
    .option "operation_id" (·.operationId.map .string),
    .option "error_kind" (·.errorKind.map .string),
    .option "error_message" (·.errorMessage.map .string)]

theorem format_describes : format.Describes toJson ofWritten? instants where
  writes e := by
    refine Format.writes_object (by simp) ?_
    simp [format, List.lookup_cons, ofOption_toWritten]
  integers e := by
    have htext : ∀ o : Option String, (ofOption Json.string o).EveryNumber Number.IsInteger :=
      fun o => everyNumber_ofOption fun _ _ => trivial
    simp [toJson, EveryNumber, EveryNumberOfFields, everyNumber_ofUInt64, everyNumber_ofInt64,
      htext]
  reads {e w} _ h := by
    obtain ⟨os, hos, hall⟩ := h.exists_fields?
    rcases hall with _ | ⟨h₁, _ | ⟨h₂, _ | ⟨h₃, _ | ⟨h₄, _ | ⟨h₅, _ | ⟨h₆, _ | ⟨h₇, _ | ⟨h₈,
      _ | ⟨h₉, _ | ⟨h₁₀, _ | _⟩⟩⟩⟩⟩⟩⟩⟩⟩⟩
    have hos : w.fields? fieldNames = _ := hos
    simp [ofWritten?, hos, required_plain h₁ (uint64?_toWritten _),
      required_plain h₂ (int64?_toWritten _), required_plain h₃ (string?_toWritten _),
      required_plain h₄ (string?_toWritten _), required_plain h₅ (string?_toWritten _),
      required_plain h₆ (string?_toWritten _), optional_string? h₇, optional_string? h₈,
      optional_string? h₉, optional_string? h₁₀]
  refuses {e w} h := by
    simp only [ofWritten?] at h
    split at h
    case h_2 => cases h
    case h_1 hos =>
      simp only [Option.bind_eq_bind, Option.bind_eq_some_iff] at h
      obtain ⟨_, h₁, _, h₂, _, h₃, _, h₄, _, h₅, _, h₆, -⟩ := h
      exact Format.not_malformed hos <| .cons (Field.admits_plain _ h₁) <|
        .cons (Field.admits_plain _ h₂) <| .cons (Field.admits_plain _ h₃) <|
        .cons (Field.admits_plain _ h₄) <| .cons (Field.admits_plain _ h₅) <|
        .cons (Field.admits_plain _ h₆) <| .cons (Field.admits_option _ _) <|
        .cons (Field.admits_option _ _) <| .cons (Field.admits_option _ _) <|
        .cons (Field.admits_option _ _) <| .nil

end LogEntry

/-! ### All records -/

/-- The types of records that have a format. -/
inductive RecordType where
  | account
  | entry
  | transfer
  | transferRequest
  | transferReceipt
  | adjustmentReceipt
  | user
  | verification
  | verificationReceipt
  | logEvent
  | logEntry
  deriving DecidableEq, Repr

/-- An encoder and a decoder, with the format that they keep to. -/
structure Codec where
  Value : Type
  toJson : Value → Json
  ofWritten? : Written → Option Value
  instants : Value → List Instant
  format : Format Value
  describes : format.Describes toJson ofWritten? instants

/-- The codec of a type of records. -/
def RecordType.codec : RecordType → Codec
  | .account =>
      ⟨Account, Account.toJson, Account.ofWritten?, Account.instants, Account.format,
        Account.format_describes⟩
  | .entry =>
      ⟨Entry, Entry.toJson, Entry.ofWritten?, Entry.instants, Entry.format,
        Entry.format_describes⟩
  | .transfer =>
      ⟨Transfer, Transfer.toJson, Transfer.ofWritten?, Transfer.instants, Transfer.format,
        Transfer.format_describes⟩
  | .transferRequest =>
      ⟨TransferRequest, TransferRequest.toJson, TransferRequest.ofWritten?,
        TransferRequest.instants, TransferRequest.format, TransferRequest.format_describes⟩
  | .transferReceipt =>
      ⟨TransferReceipt, TransferReceipt.toJson, TransferReceipt.ofWritten?,
        TransferReceipt.instants, TransferReceipt.format, TransferReceipt.format_describes⟩
  | .adjustmentReceipt =>
      ⟨AdjustmentReceipt, AdjustmentReceipt.toJson, AdjustmentReceipt.ofWritten?,
        AdjustmentReceipt.instants, AdjustmentReceipt.format, AdjustmentReceipt.format_describes⟩
  | .user =>
      ⟨User, User.toJson, User.ofWritten?, User.instants, User.format, User.format_describes⟩
  | .verification =>
      ⟨Verification, Verification.toJson, Verification.ofWritten?, Verification.instants,
        Verification.format, Verification.format_describes⟩
  | .verificationReceipt =>
      ⟨VerificationReceipt, VerificationReceipt.toJson, VerificationReceipt.ofWritten?,
        VerificationReceipt.instants, VerificationReceipt.format,
        VerificationReceipt.format_describes⟩
  | .logEvent =>
      ⟨LogEvent, LogEvent.toJson, LogEvent.ofWritten?, LogEvent.instants, LogEvent.format,
        LogEvent.format_describes⟩
  | .logEntry =>
      ⟨LogEntry, LogEntry.toJson, LogEntry.ofWritten?, LogEntry.instants, LogEntry.format,
        LogEntry.format_describes⟩

/-- **The JSON codec of the records.**  A record whose instants are regular is
read back from its text, whatever the layout, and from every other text that
holds it: its fields in any order among fields it does not have, a field that
is absent as null or left out, or the array of its fields.  A text with a
field given twice or missing, or an array of another length, is refused, also
where it is a field of the record that is so. -/
theorem decode_record (t : RecordType) :
    (∀ v : t.codec.Value, (∀ i ∈ t.codec.instants v, i.IsRegular) →
      (∀ l, decode t.codec.ofWritten? (String.ofList (render l 0 (t.codec.toJson v))) = .ok v) ∧
      ∀ s w, Written.read? s = some w → t.codec.format.Writes v w →
        decode t.codec.ofWritten? s = .ok v) ∧
    ∀ s w, Written.read? s = some w → t.codec.format.Malformed w →
      ∃ e, decode t.codec.ofWritten? s = .error e := by
  refine ⟨fun v hv => ⟨?_, ?_⟩, ?_⟩
  · intro l
    exact t.codec.describes.decode_render hv l
  · intro s w hs hw
    exact t.codec.describes.decode_of_writes hv hs hw
  · intro s w hs hw
    exact t.codec.describes.decode_of_malformed hs hw

/-- An entry in two other texts, and a text without one of its fields. -/
theorem decode_record_entry :
    decode Entry.ofWritten?
        ("\x7b\"note\":[null],\"created_at\":\"2025-01-01T00:00:00Z\","
          ++ "\"amount\":-5,\"account_id\":3,\"id\":7\x7d") =
      .ok ⟨7, 3, -5, ⟨1735689600, 0⟩⟩ ∧
    decode Entry.ofWritten? "[7,3,-5,\"2025-01-01T00:00:00Z\"]" = .ok ⟨7, 3, -5, ⟨1735689600, 0⟩⟩ ∧
    ∃ e, decode Entry.ofWritten? "[7,3,-5]" = .error e := by
  obtain ⟨hread, hrefuse⟩ := decode_record .entry
  obtain ⟨-, htext⟩ := hread ⟨7, 3, -5, ⟨1735689600, 0⟩⟩ (by decide)
  have hobject : Written.read?
      ("\x7b\"note\":[null],\"created_at\":\"2025-01-01T00:00:00Z\","
        ++ "\"amount\":-5,\"account_id\":3,\"id\":7\x7d") =
        some (.object
          [(some "note", .array [.null]), (some "created_at", .string "2025-01-01T00:00:00Z"),
            (some "amount", .numeral (.ofInt (-5))), (some "account_id", .numeral (.ofInt 3)),
            (some "id", .numeral (.ofInt 7))]) := rfl
  have harray : Written.read? "[7,3,-5,\"2025-01-01T00:00:00Z\"]" =
      some (.array [.numeral (.ofInt 7), .numeral (.ofInt 3), .numeral (.ofInt (-5)),
        .string "2025-01-01T00:00:00Z"]) := rfl
  refine ⟨htext _ _ hobject ⟨by simp, ?_⟩, htext _ _ harray ?_, hrefuse _ _ rfl (.inl (by decide))⟩
  · intro f hf
    rcases List.mem_cons.mp hf with rfl | hf
    · exact ⟨some (.numeral (.ofInt 7)), rfl, rfl⟩
    rcases List.mem_cons.mp hf with rfl | hf
    · exact ⟨some (.numeral (.ofInt 3)), rfl, rfl⟩
    rcases List.mem_cons.mp hf with rfl | hf
    · exact ⟨some (.numeral (.ofInt (-5))), rfl, rfl⟩
    obtain rfl := List.mem_singleton.mp hf
    exact ⟨some (.string "2025-01-01T00:00:00Z"), rfl, rfl⟩
  · exact .cons rfl (.cons rfl (.cons rfl (.cons rfl .nil)))

end DoubleEntry

/-
DoubleEntry/Proofs/Envelope.lean

The envelope of an outcome.  `Start` lists the ways to begin an envelope, and
`Start.build` adds entries to its context, one after the other.  What the
envelope says of the outcome is settled at its start; adding an entry sets a
key of its context and nothing else (`Tells.withContext`), so that in the end
each key has the value given last (`tells_build`).

As JSON, an envelope leaves out the kind of an error that it does not have and
writes everything else, absent fields as null (`format_writes`).  It is read back
from this text if its data are not null, its numbers are integers and its
nesting is within the bound of the reader (`decode_toJson`).
-/
import DoubleEntry.Envelope
import DoubleEntry.Proofs.Record.Format

namespace DoubleEntry

open DoubleEntry.Json

namespace Json

/-! ### Setting one key after the other -/

/-- The fields are the keys of the entries, each with the value that was given
to it last. -/
structure GivenLast (entries fields : List (String × Json)) : Prop where
  once : (fields.map Prod.fst).Nodup
  value : ∀ key, field? fields key = entries.reverse.lookup key

variable {entries fields : List (String × Json)}

theorem givenLast_nil : GivenLast [] [] where
  once := List.nodup_nil
  value _ := rfl

theorem GivenLast.put (h : GivenLast entries fields) (key : String) (value : Json) :
    GivenLast (entries ++ [(key, value)]) (put key value fields) where
  once := nodup_keys_put h.once
  value other := by
    rw [List.reverse_append, List.reverse_singleton, List.singleton_append]
    by_cases hother : other = key
    · rw [hother, field?_put_self, List.lookup_cons_self]
    · rw [field?_put_of_ne hother, lookup_cons_of_ne hother, h.value]

/-- No field has a value that was not given to it. -/
theorem GivenLast.mem (h : GivenLast entries fields) {field : String × Json}
    (hfield : field ∈ fields) : field ∈ entries := by
  have hvalue : field? fields field.1 = some field.2 := lookup_of_mem h.once hfield
  rw [h.value] at hvalue
  exact List.mem_reverse.mp (mem_of_lookup hvalue)

end Json

namespace Envelope

variable {α : Type}

/-! ### Building an envelope -/

/-- How an envelope is begun: with data, with a message, with an error, or with
a result. -/
inductive Start (α : Type) where
  | ok (data : α)
  | fail (message : String)
  | ofError (e : Error)
  | ofResult (r : Except Error α)

namespace Start

/-- The envelope that is begun. -/
def envelope : Start α → Envelope α
  | .ok data => .ok data
  | .fail message => .fail message
  | .ofError e => .ofError e
  | .ofResult r => .ofResult r

/-- The error that an envelope is begun with. -/
def error? : Start α → Option Error
  | .ofError e | .ofResult (.error e) => some e
  | .ok _ | .fail _ | .ofResult (.ok _) => none

/-- The envelope with entries added to its context, one after the other. -/
def build (start : Start α) (entries : List (String × Json)) : Envelope α :=
  entries.foldl (fun e entry => e.withContext entry.1 entry.2) start.envelope

end Start

/-- What an envelope tells that has been begun so and given these entries. -/
structure Tells (start : Start α) (entries : List (String × Json)) (e : Envelope α) : Prop where
  success_iff : e.success = true ↔ e.error = none
  errorKind : e.errorKind = start.error?.map Error.kind
  failure : e.errorKind.isSome = true → e.success = false
  context_iff : e.context = none ↔ entries = []
  context : ∀ fields ∈ e.context, GivenLast entries fields
  /-- The rest is as it was at the start. -/
  unchanged : { e with context := none } = start.envelope

section Building

variable {start : Start α} {entries : List (String × Json)} {e : Envelope α}

theorem tells_envelope (start : Start α) : Tells start [] start.envelope := by
  obtain data | message | error | (error | data) := start
  all_goals
    refine ⟨?_, rfl, ?_, ⟨fun _ => rfl, fun _ => rfl⟩, nofun, rfl⟩
    · simp [Start.envelope, ok, fail, ofError, ofResult]
    · simp [Start.envelope, ok, fail, ofError, ofResult]

theorem Tells.data (h : Tells start entries e) : e.data = start.envelope.data := by
  rw [← h.unchanged]

/-- The entries are those of the context, which is empty where it is absent. -/
theorem Tells.givenLast (h : Tells start entries e) : GivenLast entries (e.context.getD []) := by
  cases hcontext : e.context with
  | none =>
      rw [h.context_iff.mp hcontext]
      exact givenLast_nil
  | some fields => exact h.context fields hcontext

/-- **Adding an entry** sets a key of the context and nothing else. -/
theorem Tells.withContext (h : Tells start entries e) (key : String) (value : Json) :
    Tells start (entries ++ [(key, value)]) (e.withContext key value) where
  success_iff := h.success_iff
  errorKind := h.errorKind
  failure := h.failure
  context_iff := by simp [Envelope.withContext]
  context fields hfields := by
    obtain rfl := Option.some.inj hfields
    exact h.givenLast.put key value
  unchanged := h.unchanged

theorem build_append (start : Start α) (entries : List (String × Json)) (entry : String × Json) :
    start.build (entries ++ [entry]) = (start.build entries).withContext entry.1 entry.2 := by
  rw [Start.build, List.foldl_append]
  rfl

/-- **What a built envelope tells**, whatever entries it was given. -/
theorem tells_build (start : Start α) (entries : List (String × Json)) :
    Tells start entries (start.build entries) := by
  induction entries using List.reverseRecOn with
  | nil => exact tells_envelope start
  | append_singleton entries entry ih =>
      rw [build_append]
      exact ih.withContext entry.1 entry.2

end Building

/-! ### Envelopes as JSON -/

/-- The format of an envelope. -/
def format : Format Envelope :=
  [.plain "success" (Json.bool ·.success), .option "data" (·.data),
    .option "error" (·.error.map .string), .option "error_kind" (·.errorKind.map ErrorKind.toJson),
    .option "context" (·.context.map .object)]

/-- Data that are absent are written as null. -/
theorem getD_null_eq (data : Option Json) : data.getD .null = ofOption id data := by
  cases data <;> rfl

/-- **An envelope keeps to its format**, whether it has a kind or not. -/
theorem format_writes (e : Envelope) : format.Writes e e.toJson.toWritten := by
  rw [toJson, getD_null_eq]
  refine Format.writes_object ?_ ?_
  · cases e.errorKind <;> simp
  · have hdata := ofOption_toWritten id e.data
    cases hkind : e.errorKind <;>
      simpa [format, List.lookup_cons, ofOption_toWritten, hkind] using hdata

theorem ofWritten?_kind (kind : ErrorKind) :
    ErrorKind.ofWritten? kind.toJson.toWritten = some kind := by
  cases kind <;> rfl

/-- The text of an envelope can be read back: its data are not null, its
numbers are integers of 64 bits, and its nesting is within the bound of the
reader, the envelope and its context counted. -/
structure IsLegible (e : Envelope) : Prop where
  data : ∀ data ∈ e.data,
    data ≠ .null ∧ data.EveryNumber Number.IsInteger ∧ data.Fits (maxDepth - 1)
  keys : ∀ fields ∈ e.context, (fields.map Prod.fst).Nodup
  values : ∀ fields ∈ e.context, ∀ field ∈ fields,
    field.2.EveryNumber Number.IsInteger ∧ field.2.Fits (maxDepth - 2)

variable {e : Envelope}

/-- The data are read back where they are written. -/
theorem IsLegible.toJson?_data (h : e.IsLegible) : ∀ data ∈ e.data,
    data.toWritten ≠ .null ∧ data.toWritten.toJson? (maxDepth - 1) = some data := by
  intro data hdata
  obtain ⟨hnull, hnumbers, hfits⟩ := h.data data hdata
  constructor
  · cases data with
    | null => exact absurd rfl hnull
    | _ => exact nofun
  · rw [toJson?_toWritten _ data (EveryNumber.imp Number.IsInteger.isLegible _ hnumbers) hfits,
      reread_eq_self data hnumbers]

/-- And so is the context. -/
theorem IsLegible.readContext? (h : e.IsLegible) : ∀ fields ∈ e.context,
    (Json.object fields).toWritten ≠ .null ∧
      Envelope.readContext? (maxDepth - 2) (Json.object fields).toWritten = some fields := by
  intro fields hfields
  have hnumbers : EveryNumberOfFields Number.IsInteger fields :=
    everyNumberOfFields_iff.mpr fun field hfield => (h.values fields hfields field hfield).1
  have hfits : FieldsFit (maxDepth - 2) fields :=
    fieldsFit_iff.mpr fun field hfield => (h.values fields hfields field hfield).2
  refine ⟨nofun, ?_⟩
  have hread := membersToJson?_fieldsToWritten (maxDepth - 2) fields [] (h.keys fields hfields)
    (EveryNumberOfFields.imp Number.IsInteger.isLegible _ hnumbers) hfits
  rw [List.nil_append, rereadFields_eq_self fields hnumbers] at hread
  exact hread

/-- **An envelope is read from every value that is written in its format.** -/
theorem ofWritten?_of_writes (h : e.IsLegible) {w : Written} (hw : format.Writes e w) :
    ofWritten? w = some e := by
  obtain ⟨os, hos, hall⟩ := hw.exists_fields?
  obtain _ | ⟨h₁, _ | ⟨h₂, _ | ⟨h₃, _ | ⟨h₄, _ | ⟨h₅, ⟨⟩⟩⟩⟩⟩⟩ := hall
  have hos : w.fields? fieldNames = _ := hos
  have hdata := optional_option h₂ Option.map_id_apply.symm h.toJson?_data
  have hkind := optional_option h₄ rfl fun kind _ => ⟨nofun, ofWritten?_kind kind⟩
  have hcontext := optional_option h₅ rfl h.readContext?
  simp [ofWritten?, hos, required_plain h₁ (bool?_toWritten _), hdata, optional_string? h₃, hkind,
    hcontext]

theorem IsLegible.everyNumber_toJson (h : e.IsLegible) :
    e.toJson.EveryNumber Number.IsInteger := by
  have hdata : (ofOption id e.data).EveryNumber Number.IsInteger :=
    everyNumber_ofOption fun data hdata => (h.data data hdata).2.1
  have herror : (ofOption Json.string e.error).EveryNumber Number.IsInteger :=
    everyNumber_ofOption fun _ _ => trivial
  have hcontext : (ofOption Json.object e.context).EveryNumber Number.IsInteger :=
    everyNumber_ofOption fun fields hfields => everyNumberOfFields_iff.mpr fun field hfield =>
      (h.values fields hfields field hfield).1
  rw [toJson, getD_null_eq]
  -- the success and the kind have no numbers
  cases e.errorKind with
  | none => exact ⟨trivial, hdata, herror, hcontext, trivial⟩
  | some kind => exact ⟨trivial, hdata, herror, trivial, hcontext, trivial⟩

/-- **An envelope is read back from its text**, whatever the layout. -/
theorem decode_toJson (h : e.IsLegible) (l : Layout) :
    decode ofWritten? (String.ofList (render l 0 e.toJson)) = .ok e := by
  have hlegible := EveryNumber.imp Number.IsInteger.isLegible _ h.everyNumber_toJson
  rw [decode, read?_render l hlegible, Option.bind_some, ofWritten?_of_writes h (format_writes e)]

/-! ### Built envelopes as JSON -/

/-- The same envelope, but for the order of the keys of its context. -/
structure Same (e e' : Envelope α) : Prop where
  rest : { e with context := none } = { e' with context := none }
  context : Option.Rel List.Perm e.context e'.context

theorem IsLegible.of_same {e e' : Envelope} (h : e.IsLegible) (hsame : e'.Same e) :
    e'.IsLegible := by
  obtain ⟨-, hdata, -⟩ := Envelope.mk.inj hsame.rest
  -- a context of the one is a permutation of that of the other
  have hperm : ∀ fields' ∈ e'.context, ∃ fields ∈ e.context, fields'.Perm fields := by
    intro fields' hfields'
    have hcontext := hsame.context
    rw [Option.mem_def.mp hfields'] at hcontext
    rcases hfields : e.context with - | fields
    · rw [hfields] at hcontext
      cases hcontext
    · rw [hfields] at hcontext
      cases hcontext with
      | some hperm => exact ⟨fields, rfl, hperm⟩
  refine ⟨hdata ▸ h.data, ?_, ?_⟩
  · intro fields' hfields'
    obtain ⟨fields, hfields, hperm⟩ := hperm fields' hfields'
    exact (hperm.map Prod.fst).nodup_iff.mpr (h.keys fields hfields)
  · intro fields' hfields' field hfield
    obtain ⟨fields, hfields, hperm⟩ := hperm fields' hfields'
    exact h.values fields hfields field (hperm.mem_iff.mp hfield)

/-- An envelope is legible if what it has been built from is. -/
theorem isLegible_build {start : Start Json} {entries : List (String × Json)}
    (hdata : ∀ data ∈ start.envelope.data,
      data ≠ .null ∧ data.EveryNumber Number.IsInteger ∧ data.Fits (maxDepth - 1))
    (hvalues : ∀ entry ∈ entries,
      entry.2.EveryNumber Number.IsInteger ∧ entry.2.Fits (maxDepth - 2)) :
    (start.build entries).IsLegible := by
  have htells := tells_build start entries
  refine ⟨htells.data ▸ hdata, fun fields hfields => (htells.context fields hfields).once, ?_⟩
  intro fields hfields field hfield
  exact hvalues field ((htells.context fields hfields).mem hfield)

/-- **What a built envelope tells, and that it is read back.**  An envelope with
data of any type tells of a success exactly if it has no error text, has the
kind of the error that it was begun with and no other, and has a context exactly
if entries were added to it, each key with the value given last; it is otherwise
as it was at the start.  It is read back from its text, whatever the layout and
the order of its context, if its data are JSON but not null, all numbers are
integers of 64 bits, and neither the data nor a value of the context is more
than a hundred containers deep. -/
theorem build_outcome :
    (∀ (α : Type) (start : Start α) (entries : List (String × Json)),
      Tells start entries (start.build entries)) ∧
    ∀ (start : Start Json) (entries : List (String × Json)),
      (∀ data ∈ start.envelope.data,
        data ≠ .null ∧ data.EveryNumber Number.IsInteger ∧ data.Fits 100) →
      (∀ entry ∈ entries, entry.2.EveryNumber Number.IsInteger ∧ entry.2.Fits 100) →
      ∀ (e : Envelope) (l : Layout), e.Same (start.build entries) →
        decode ofWritten? (String.ofList (render l 0 e.toJson)) = .ok e := by
  refine ⟨fun _ => tells_build, ?_⟩
  intro start entries hdata hvalues e l hsame
  have hlegible : (start.build entries).IsLegible := by
    refine isLegible_build ?_ ?_
    · intro data hmem
      obtain ⟨hnull, hnumbers, hfits⟩ := hdata data hmem
      exact ⟨hnull, hnumbers, Fits.mono (by decide) data hfits⟩
    · intro entry hmem
      obtain ⟨hnumbers, hfits⟩ := hvalues entry hmem
      exact ⟨hnumbers, Fits.mono (by decide) entry.2 hfits⟩
  exact decode_toJson (hlegible.of_same hsame) l

/-- The envelope of a result that was given a key twice is read back from a text
that has its keys in another order, with the last value of that key. -/
theorem build_outcome_of_repeated_key :
    let start : Start Json :=
      .ofResult (.ok (.array [.object [("n", .int 18446744073709551615)], .null]))
    let entries : List (String × Json) :=
      [("b", .null), ("a", .int (-9223372036854775808)), ("b", .string "x")]
    let e : Envelope :=
      { start.envelope with
        context := some [("a", .int (-9223372036854775808)), ("b", .string "x")] }
    e.Same (start.build entries) ∧
      decode ofWritten?
        ("\x7b\"success\":true,\"data\":[\x7b\"n\":18446744073709551615\x7d,null],"
          ++ "\"error\":null,\"context\":\x7b\"a\":-9223372036854775808,\"b\":\"x\"\x7d\x7d") =
        .ok e := by
  intro start entries e
  have hdata : ∀ data ∈ start.envelope.data,
      data ≠ .null ∧ data.EveryNumber Number.IsInteger ∧ data.Fits 100 := by
    intro data hdata
    obtain rfl := Option.some.inj hdata
    exact ⟨nofun, by decide, ⟨by simp, trivial, trivial⟩, trivial, trivial⟩
  have hvalues : ∀ entry ∈ entries, entry.2.EveryNumber Number.IsInteger ∧ entry.2.Fits 100 := by
    simp only [entries, List.forall_mem_cons]
    exact ⟨⟨by decide, trivial⟩, ⟨by decide, trivial⟩, ⟨by decide, trivial⟩, nofun⟩
  have hsame : e.Same (start.build entries) := ⟨rfl, .some (.swap _ _ _)⟩
  have htext : String.ofList (render .compact 0 e.toJson) =
      "\x7b\"success\":true,\"data\":[\x7b\"n\":18446744073709551615\x7d,null],"
        ++ "\"error\":null,\"context\":\x7b\"a\":-9223372036854775808,\"b\":\"x\"\x7d\x7d" := by
    decide +kernel
  exact ⟨hsame, htext ▸ build_outcome.2 start entries hdata hvalues e .compact hsame⟩

end Envelope

end DoubleEntry

/-
DoubleEntry/Proofs/Json/ReadBack.lean

Written JSON is read back.  `Json.toWritten` is the value as it is written,
and `read?_render` says that the reader finds it in the text of the value, on
one line or many.

The reader takes one character at a time and the text comes in pieces, so that
each piece has a lemma of its own: from the state in front of it the reader
comes to the state behind it.  Only the end of a number or a literal is not
seen until the character that follows.  `Reader.Holds` covers both states that
a value may end in; whatever may follow a value takes the reader on from
there.
-/
import DoubleEntry.Proofs.Json.Numeral

namespace DoubleEntry.Json

open DoubleEntry.Text

/-! ### Values as they are written -/

/-- The numeral that a number is written as. -/
def Number.numeral (n : Number) : Numeral :=
  (Numeral.read? n.chars).getD (.ofInt 0)

/-- The number is written as a numeral, and the numeral stands for a number.
This is so for every integer of 64 bits. -/
def Number.IsLegible (n : Number) : Prop :=
  ∃ numeral m, Numeral.read? n.chars = some numeral ∧ numeral.number? = some m

theorem Number.IsLegible.read? {n : Number} (h : n.IsLegible) :
    Numeral.read? n.chars = some n.numeral := by
  obtain ⟨w, m, hread, -⟩ := h
  rw [Number.numeral, hread]
  rfl

mutual

/-- A value as it is written. -/
def toWritten : Json → Written
  | .null => .null
  | .bool b => .bool b
  | .number n => .numeral n.numeral
  | .string s => .string (some s)
  | .array items => .array (itemsToWritten items)
  | .object fields => .object (fieldsToWritten fields)

/-- `toWritten` for each item of an array. -/
def itemsToWritten : List Json → List Written
  | [] => []
  | item :: items => item.toWritten :: itemsToWritten items

/-- `toWritten` for each field of an object. -/
def fieldsToWritten : List (String × Json) → List (Option String × Written)
  | [] => []
  | (key, value) :: fields => (some key, value.toWritten) :: fieldsToWritten fields

end

mutual

/-- Every number in a value is such a number. -/
def EveryNumber (p : Number → Prop) : Json → Prop
  | .number n => p n
  | .array items => EveryNumberOfItems p items
  | .object fields => EveryNumberOfFields p fields
  | _ => True

/-- `EveryNumber` for each item of an array. -/
def EveryNumberOfItems (p : Number → Prop) : List Json → Prop
  | [] => True
  | item :: items => item.EveryNumber p ∧ EveryNumberOfItems p items

/-- `EveryNumber` for each field of an object. -/
def EveryNumberOfFields (p : Number → Prop) : List (String × Json) → Prop
  | [] => True
  | (_, value) :: fields => value.EveryNumber p ∧ EveryNumberOfFields p fields

end

/-! ### Pieces of text -/

/-- The reader at a spot between two words. -/
def Reader.between (frames : List Frame) (spot : Spot) : Reader :=
  { frames, spot, lexeme := .nothing }

/-- A value has ended within some containers, or it ends with the next
character that sets words apart. -/
structure Reader.Holds (r : Reader) (frames : List Frame) (v : Written) : Prop where
  endWord : r.endWord? = some (.between frames (.after v))
  noText : ∀ q phase, r.lexeme ≠ .text q phase

variable {r : Reader} {frames : List Frame} {v : Written} {spot : Spot}

theorem Reader.Holds.after (frames : List Frame) (v : Written) :
    (Reader.between frames (.after v)).Holds frames v where
  endWord := rfl
  noText q phase h := by cases h

/-- A character that sets words apart ends the value. -/
theorem Reader.Holds.step? (h : r.Holds frames v) {c : Char} (hc : isWordChar c = false) :
    r.step? c = (Reader.between frames (.after v)).between? c := by
  obtain ⟨hend, htext⟩ := h
  rcases r with ⟨fs, s, lexeme⟩
  cases lexeme with
  | nothing =>
      simp only [endWord?, Option.some.injEq] at hend
      rw [hend]
      rfl
  | word cs =>
      simp only [Reader.step?, hc, Bool.false_eq_true, if_false, hend, Option.bind_some]
  | text q phase => exact absurd rfl (htext q phase)

/-- The end of the text ends the value. -/
theorem Reader.Holds.finish? (h : r.Holds [] v) : r.finish? = some v := by
  obtain ⟨hend, htext⟩ := h
  rcases r with ⟨fs, s, lexeme⟩
  cases lexeme with
  | nothing =>
      simp only [endWord?, Option.some.injEq] at hend
      rw [hend]
      rfl
  | word cs =>
      simp only [Reader.finish?, hend]
      rfl
  | text q phase => exact absurd rfl (htext q phase)

/-! ### Blanks -/

theorem isWordChar_of_isSpace {c : Char} (h : isSpace c = true) : isWordChar c = false := by
  simp only [isSpace, Bool.or_eq_true, decide_eq_true_eq] at h
  rcases h with ((rfl | rfl) | rfl) | rfl <;> decide

/-- Between two words blanks are passed over. -/
theorem run_blanks {cs : List Char} (h : ∀ c ∈ cs, isSpace c = true) :
    cs.foldlM Reader.step? (.between frames spot) = some (.between frames spot) := by
  induction cs with
  | nil => rfl
  | cons c cs ih =>
      obtain ⟨hc, hcs⟩ := List.forall_mem_cons.mp h
      have hstep : (Reader.between frames spot).step? c = some (.between frames spot) := if_pos hc
      rw [List.foldlM_cons, hstep]
      exact ih hcs

/-- Behind a value they leave it as it is. -/
theorem Reader.Holds.run_blanks (hr : r.Holds frames v) {cs : List Char}
    (h : ∀ c ∈ cs, isSpace c = true) :
    ∃ r', cs.foldlM Reader.step? r = some r' ∧ r'.Holds frames v := by
  cases cs with
  | nil => exact ⟨r, rfl, hr⟩
  | cons c cs =>
      obtain ⟨hc, hcs⟩ := List.forall_mem_cons.mp h
      have hstep : r.step? c = some (.between frames (.after v)) := by
        rw [hr.step? (isWordChar_of_isSpace hc)]
        exact if_pos hc
      refine ⟨_, ?_, Reader.Holds.after frames v⟩
      rw [List.foldlM_cons, hstep]
      exact Json.run_blanks hcs

theorem isSpace_of_mem_lineBreak {l : Layout} {level : Nat} {c : Char}
    (h : c ∈ l.lineBreak level) : isSpace c = true := by
  cases l with
  | compact => cases h
  | indented =>
      rcases List.mem_cons.mp h with rfl | h
      · decide
      · rw [List.eq_of_mem_replicate h]
        decide

/-! ### Words -/

/-- A word is read up to its end, and then holds its value. -/
theorem run_word {cs : List Char} (hne : cs ≠ []) (hcs : ∀ c ∈ cs, isWordChar c = true)
    (hv : wordValue? cs = some v) (closable : Bool) :
    ∃ r, cs.foldlM Reader.step? (.between frames (.value closable)) = some r ∧
      r.Holds frames v := by
  obtain ⟨c, rest, rfl⟩ := List.exists_cons_of_ne_nil hne
  obtain ⟨hc, hrest⟩ := List.forall_mem_cons.mp hcs
  -- the first character starts a word
  have hstart : (Reader.between frames (.value closable)).step? c =
      some { frames, spot := .value closable, lexeme := .word [c] } := by
    have hspace : isSpace c = false := by
      by_contra h
      rw [isWordChar_of_isSpace (by simpa using h)] at hc
      cases hc
    have hne : ∀ d, isWordChar d = false → c ≠ d := by
      rintro d hd rfl
      rw [hd] at hc
      cases hc
    simp [Reader.step?, Reader.between, Reader.between?, Reader.atValue?, hspace, hc,
      hne '[' (by decide), hne '\x7b' (by decide), hne '"' (by decide), hne ']' (by decide)]
  -- and the others go on with it
  have hgo : ∀ (read more : List Char), (∀ d ∈ more, isWordChar d = true) →
      more.foldlM Reader.step? { frames, spot := .value closable, lexeme := .word read } =
        some { frames, spot := .value closable, lexeme := .word (more.reverse ++ read) } := by
    intro read more
    induction more generalizing read with
    | nil => intro _; rfl
    | cons d more ih =>
        intro hmore
        obtain ⟨hd, hmore⟩ := List.forall_mem_cons.mp hmore
        rw [List.foldlM_cons]
        simp only [Reader.step?, hd, if_true, Option.bind_eq_bind, Option.bind_some, ih _ hmore,
          List.reverse_cons, List.append_assoc, List.singleton_append]
  refine ⟨{ frames, spot := .value closable, lexeme := .word (c :: rest).reverse }, ?_, ?_, ?_⟩
  · rw [List.foldlM_cons, hstart, List.reverse_cons]
    exact hgo [c] rest hrest
  · simp only [Reader.endWord?, List.reverse_reverse, hv, Option.map_some]
    rfl
  · intro q phase h
    cases h

/-- The words that are no numbers, each with its value. -/
def literals : List (List Char × Written) :=
  [(['n', 'u', 'l', 'l'], .null), (['t', 'r', 'u', 'e'], .bool true),
    (['f', 'a', 'l', 's', 'e'], .bool false)]

theorem run_literal {word : List Char} (h : (word, v) ∈ literals) (closable : Bool) :
    ∃ r, word.foldlM Reader.step? (.between frames (.value closable)) = some r ∧
      r.Holds frames v := by
  simp only [literals, List.mem_cons, Prod.mk.injEq, List.not_mem_nil, or_false] at h
  rcases h with ⟨rfl, rfl⟩ | ⟨rfl, rfl⟩ | ⟨rfl, rfl⟩
  all_goals exact run_word (by decide) (List.all_eq_true.mp (by decide)) rfl closable

/-! ### Strings -/

/-- A string of which some characters have been read. -/
def Quotation.ofChars (cs : List Char) : Quotation :=
  { chars := cs, high := none, sound := true }

/-- The reader within a string. -/
def Reader.within (frames : List Frame) (spot : Spot) (cs : List Char) : Reader :=
  { frames, spot, lexeme := .text (.ofChars cs) .plain }

theorem hexValue?_digitChar : ∀ d < 16, hexValue? (Nat.digitChar d) = some d := by
  decide

/-- A control character is read back from its number. -/
theorem run_hexEscape {c : Char} (hc : c.toNat < 0x20) (cs : List Char) :
    ['\\', 'u', '0', '0', Nat.digitChar (c.toNat / 16), Nat.digitChar (c.toNat % 16)].foldlM
      Reader.step? (.within frames spot cs) = some (.within frames spot (c :: cs)) := by
  have hhigh := hexValue?_digitChar (c.toNat / 16) (by omega)
  have hlow := hexValue?_digitChar (c.toNat % 16) (by omega)
  have hzero : hexValue? '0' = some 0 := by decide
  have hunit : 16 * (c.toNat / 16) + c.toNat % 16 = c.toNat := by omega
  have hpush : (Quotation.ofChars cs).pushUnit c.toNat = .ofChars (c :: cs) := by
    have hlow : ¬ 0xD800 ≤ c.toNat := by omega
    have hhigh : ¬ 0xDC00 ≤ c.toNat := by omega
    simp [Quotation.pushUnit, hlow, hhigh, Quotation.push, Quotation.ofChars, Char.ofNat_toNat]
  simp [Reader.step?, Reader.within, Reader.inText?, hzero, hhigh, hlow, hunit, hpush]

/-- **A character is read back from its escape**, or as it stands. -/
theorem run_escapeChar (c : Char) (cs : List Char) :
    (escapeChar c).foldlM Reader.step? (.within frames spot cs) =
      some (.within frames spot (c :: cs)) := by
  unfold escapeChar
  split
  case h_8 hquote hbackslash _ _ _ _ _ =>
    split
    case isTrue hcontrol => exact run_hexEscape hcontrol cs
    case isFalse hplain =>
      have hquote : c ≠ '"' := hquote
      have hbackslash : c ≠ '\\' := hbackslash
      simp [Reader.step?, Reader.within, Reader.inText?, hplain, hquote, hbackslash,
        Quotation.push, Quotation.ofChars]
  all_goals rfl

/-- All characters of a string are. -/
theorem run_escaped (s cs : List Char) :
    (s.flatMap escapeChar).foldlM Reader.step? (.within frames spot cs) =
      some (.within frames spot (s.reverse ++ cs)) := by
  induction s generalizing cs with
  | nil => rfl
  | cons c s ih =>
      rw [List.flatMap_cons, List.foldlM_append, run_escapeChar]
      simp [ih]

/-- A string in quotes is read as the string. -/
theorem run_quoted (s : String) :
    (s.toList.flatMap escapeChar ++ ['"']).foldlM Reader.step? (.within frames spot []) =
      some ((Reader.between frames spot).endText (.ofChars s.toList.reverse)) := by
  rw [List.foldlM_append, run_escaped]
  simp only [List.append_nil, Option.bind_eq_bind, Option.bind_some, List.foldlM_cons,
    List.foldlM_nil]
  cases spot <;> rfl

theorem Quotation.close_ofChars (s : String) :
    (Quotation.ofChars s.toList.reverse).close = some s := by
  simp [Quotation.close, Quotation.ofChars]

/-- Where a value may stand, a string is one. -/
theorem run_stringValue (s : String) (closable : Bool) :
    (stringChars s).foldlM Reader.step? (.between frames (.value closable)) =
      some (.between frames (.after (.string (some s)))) := by
  have hopen : (Reader.between frames (.value closable)).step? '"' =
      some (.within frames (.value closable) []) := rfl
  rw [stringChars, List.cons_append, List.foldlM_cons, hopen]
  refine (run_quoted s).trans ?_
  rw [← Quotation.close_ofChars s]
  rfl

/-- Where a key may stand, it is one. -/
theorem run_key (s : String) (closable : Bool) :
    (stringChars s).foldlM Reader.step? (.between frames (.key closable)) =
      some (.between frames (.colon (some s))) := by
  have hopen : (Reader.between frames (.key closable)).step? '"' =
      some (.within frames (.key closable) []) := rfl
  rw [stringChars, List.cons_append, List.foldlM_cons, hopen]
  refine (run_quoted s).trans ?_
  rw [← Quotation.close_ofChars s]
  rfl

/-! ### Containers -/

/-- The reader behind a piece of text goes on with the rest. -/
theorem run_append {piece rest : List Char} {r r' : Reader}
    (h : piece.foldlM Reader.step? r = some r') :
    (piece ++ rest).foldlM Reader.step? r = rest.foldlM Reader.step? r' := by
  rw [List.foldlM_append, h]
  rfl

/-- Behind a value and blanks comes a comma or the end of the container. -/
theorem Reader.Holds.run_end (hr : r.Holds frames v) {blanks rest : List Char} {c : Char}
    (hblanks : ∀ c ∈ blanks, isSpace c = true) (hc : isWordChar c = false)
    (hspace : isSpace c = false) :
    (blanks ++ c :: rest).foldlM Reader.step? r =
      ((Reader.between frames (.after v)).atEnd? v c).bind (rest.foldlM Reader.step?) := by
  obtain ⟨r', hrun, hr'⟩ := hr.run_blanks hblanks
  have hstep : r'.step? c = (Reader.between frames (.after v)).atEnd? v c := by
    rw [hr'.step? hc, Reader.between?, hspace]
    rfl
  rw [run_append hrun, List.foldlM_cons, hstep]
  rfl

theorem run_colon (l : Layout) (before : List (Option String × Written)) (key : Option String) :
    l.colon.foldlM Reader.step? (.between (.object before :: frames) (.colon key)) =
      some (.between (.member before key :: frames) (.value false)) := by
  cases l <;> rfl

mutual

/-- **The text of a value is read as the value.** -/
theorem run_render (l : Layout) (level : Nat) (frames : List Frame) (closable : Bool) :
    (j : Json) → j.EveryNumber Number.IsLegible →
      ∃ r, (render l level j).foldlM Reader.step? (.between frames (.value closable)) = some r ∧
        r.Holds frames j.toWritten
  | .null, _ => run_literal (List.mem_cons_self) closable
  | .bool true, _ => run_literal (List.mem_cons_of_mem _ List.mem_cons_self) closable
  | .bool false, _ =>
      run_literal (List.mem_cons_of_mem _ (List.mem_cons_of_mem _ List.mem_cons_self)) closable
  | .number n, h => by
      have hread := Number.IsLegible.read? h
      obtain ⟨hne, hword⟩ := Numeral.isWordChar_of_read? hread
      exact run_word hne hword (wordValue?_of_read? hread) closable
  | .string s, _ => ⟨_, run_stringValue s closable, .after _ _⟩
  | .array [], _ => ⟨_, rfl, .after _ _⟩
  | .array (item :: items), ⟨hitem, hitems⟩ => by
      have hopen : (Reader.between frames (.value closable)).step? '[' =
          some (.between (.array [] :: frames) (.value true)) := rfl
      obtain ⟨r, hrun, hr⟩ := run_render l (level + 1) (.array [] :: frames) true item hitem
      refine ⟨_, ?_, .after _ _⟩
      simp only [render, List.append_assoc, List.cons_append]
      rw [List.foldlM_cons, hopen]
      refine (run_append (run_blanks fun _ => isSpace_of_mem_lineBreak)).trans ?_
      rw [run_append hrun]
      exact run_renderItems l (level + 1) (fun _ => isSpace_of_mem_lineBreak) hr items hitems
  | .object [], _ => ⟨_, rfl, .after _ _⟩
  | .object ((key, value) :: fields), ⟨hvalue, hfields⟩ => by
      have hopen : (Reader.between frames (.value closable)).step? '\x7b' =
          some (.between (.object [] :: frames) (.key true)) := rfl
      obtain ⟨r, hrun, hr⟩ :=
        run_render l (level + 1) (.member [] (some key) :: frames) false value hvalue
      refine ⟨_, ?_, .after _ _⟩
      simp only [render, List.append_assoc, List.cons_append]
      rw [List.foldlM_cons, hopen]
      refine (run_append (run_blanks fun _ => isSpace_of_mem_lineBreak)).trans ?_
      rw [run_append (run_key key true), run_append (run_colon l _ _), run_append hrun]
      exact run_renderFields l (level + 1) (fun _ => isSpace_of_mem_lineBreak) hr fields hfields

/-- `run_render` for the items behind the first, up to the end of the array. -/
theorem run_renderItems (l : Layout) (level : Nat) {blanks : List Char}
    (hblanks : ∀ c ∈ blanks, isSpace c = true) {r : Reader} {before : List Written}
    {frames : List Frame} {v : Written} (hr : r.Holds (.array before :: frames) v) :
    (items : List Json) → EveryNumberOfItems Number.IsLegible items →
      (renderItems l level items ++ (blanks ++ [']'])).foldlM Reader.step? r =
        some (.between frames
          (.after (.array ((v :: before).reverse ++ itemsToWritten items))))
  | [], _ => by
      rw [renderItems, List.nil_append, hr.run_end hblanks (by decide) (by decide), itemsToWritten,
        List.append_nil]
      rfl
  | item :: items, ⟨hitem, hitems⟩ => by
      obtain ⟨r', hrun, hr'⟩ := run_render l level (.array (v :: before) :: frames) false item hitem
      have hcomma : (Reader.between (.array before :: frames) (.after v)).atEnd? v ',' =
          some (.between (.array (v :: before) :: frames) (.value false)) := rfl
      simp only [renderItems, List.append_assoc, List.cons_append]
      refine (hr.run_end (List.forall_mem_nil _) (by decide) (by decide)).trans ?_
      rw [hcomma, Option.bind_some]
      refine (run_append (run_blanks fun _ => isSpace_of_mem_lineBreak)).trans ?_
      rw [run_append hrun, run_renderItems l level hblanks hr' items hitems, itemsToWritten]
      simp

/-- `run_render` for the fields behind the first, up to the end of the
object. -/
theorem run_renderFields (l : Layout) (level : Nat) {blanks : List Char}
    (hblanks : ∀ c ∈ blanks, isSpace c = true) {r : Reader}
    {before : List (Option String × Written)} {key : Option String} {frames : List Frame}
    {v : Written} (hr : r.Holds (.member before key :: frames) v) :
    (fields : List (String × Json)) → EveryNumberOfFields Number.IsLegible fields →
      (renderFields l level fields ++ (blanks ++ ['\x7d'])).foldlM Reader.step? r =
        some (.between frames
          (.after (.object (((key, v) :: before).reverse ++ fieldsToWritten fields))))
  | [], _ => by
      rw [renderFields, List.nil_append, hr.run_end hblanks (by decide) (by decide),
        fieldsToWritten, List.append_nil]
      rfl
  | (next, value) :: fields, ⟨hvalue, hfields⟩ => by
      obtain ⟨r', hrun, hr'⟩ :=
        run_render l level (.member ((key, v) :: before) (some next) :: frames) false value hvalue
      have hcomma : (Reader.between (.member before key :: frames) (.after v)).atEnd? v ',' =
          some (.between (.object ((key, v) :: before) :: frames) (.key false)) := rfl
      simp only [renderFields, List.append_assoc, List.cons_append]
      refine (hr.run_end (List.forall_mem_nil _) (by decide) (by decide)).trans ?_
      rw [hcomma, Option.bind_some]
      refine (run_append (run_blanks fun _ => isSpace_of_mem_lineBreak)).trans ?_
      rw [run_append (run_key next false), run_append (run_colon l _ _), run_append hrun,
        run_renderFields l level hblanks hr' fields hfields, fieldsToWritten]
      simp

end

/-! ### Texts -/

/-- Written JSON is read back as it was written, also in front of blanks. -/
theorem read?_render_append (l : Layout) {j : Json} (h : j.EveryNumber Number.IsLegible)
    {blanks : List Char} (hblanks : ∀ c ∈ blanks, isSpace c = true) :
    Written.read? (String.ofList (render l 0 j ++ blanks)) = some j.toWritten := by
  obtain ⟨r, hrun, hr⟩ := run_render l 0 [] false j h
  obtain ⟨r', hrun', hr'⟩ := hr.run_blanks hblanks
  have hstart : Reader.start = .between [] (.value false) := rfl
  rw [Written.read?, String.toList_ofList, hstart, run_append hrun, hrun', Option.bind_some,
    hr'.finish?]

/-- **Written JSON is read back** as it was written, whatever its layout. -/
theorem read?_render (l : Layout) {j : Json} (h : j.EveryNumber Number.IsLegible) :
    Written.read? (String.ofList (render l 0 j)) = some j.toWritten := by
  have hread := read?_render_append l h fun c (hc : c ∈ []) => nomatch hc
  rwa [List.append_nil] at hread

end DoubleEntry.Json

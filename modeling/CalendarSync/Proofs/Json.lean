import CalendarSync.Data.Json.Printer
import CalendarSync.Data.Json.Reader
import CalendarSync.Proofs.UuidText

/-!
# JSON values are read as they were written

The reader is followed over the characters that the printer writes for a value: wherever a value is
due, they lead to the state in which the value has been given. It holds for the values that JSON
tells apart, without doubles and with numbers that a reader takes for whole ones.
-/

namespace CalendarSync.Data.Json
set_option autoImplicit false

open CalendarSync.Decimal

/-! ## Texts -/

/-- The short escapes are taken back. -/
theorem unescape?_shortEscape? {c e : Char} (short : shortEscape? c = some e) :
    unescape? e = some c ∧ e ≠ 'u' := by
  unfold shortEscape? at short
  repeat' split at short
  all_goals first
    | cases short
      subst_vars
      decide
    | cases short

/-- A control character is no half of a pair. -/
theorem joinPieces_unit {c : Char} (control : c.toNat < 0x20) (pieces : List Piece) :
    joinPieces (.unit c.toNat :: pieces) = (joinPieces pieces).map (c :: ·) := by
  have high : isHighSurrogate c.toNat = false := by
    simp [isHighSurrogate]
    omega
  have low : isLowSurrogate c.toNat = false := by
    simp [isLowSurrogate]
    omega
  rw [joinPieces.eq_def]
  simp only [high, low, Char.ofNat_toNat]
  rfl

/-- What one character is written as is read as one piece, which stands for this character. -/
theorem readPieces_escape (c : Char) (rest : List Char) :
    ∃ piece, readPieces (escape c ++ rest) = (readPieces rest).map (prepend piece) ∧
      ∀ pieces, joinPieces (piece :: pieces) = (joinPieces pieces).map (c :: ·) := by
  unfold escape
  cases short : shortEscape? c with
  | some e =>
    obtain ⟨back, short⟩ := unescape?_shortEscape? short
    refine ⟨.char c, ?_, fun _ => rfl⟩
    change readPieces ('\\' :: e :: rest) = _
    rw [readPieces, back]
    rintro _ _ _ _ _ rfl
    exact absurd rfl short
  | none =>
    by_cases control : c.toNat < 0x20
    case pos =>
      refine ⟨.unit c.toNat, ?_, joinPieces_unit control⟩
      have number : Uuid.readHex 0 (Uuid.hexDigits 4 c.toNat) = some c.toNat := by
        rw [Uuid.readHex_hexDigits]
        congr
        change 0 * 65536 + c.toNat % 65536 = c.toNat
        omega
      obtain ⟨w, x, y, z, digits⟩ : ∃ w x y z, Uuid.hexDigits 4 c.toNat = [w, x, y, z] :=
        ⟨_, _, _, _, rfl⟩
      rw [digits] at number
      simp only [if_pos control, digits]
      change readPieces ('\\' :: 'u' :: w :: x :: y :: z :: rest) = _
      rw [readPieces, number]
    case neg =>
      refine ⟨.char c, ?_, fun _ => rfl⟩
      simp only [if_neg control]
      change readPieces (c :: rest) = _
      rw [readPieces, if_neg control]
      · rintro rfl
        cases short
      · rintro _ _ _ _ _ rfl
        cases short
      · rintro _ _ rfl
        cases short

/-- A text is read up to its closing quote. -/
theorem readPieces_flatMap_escape (cs rest : List Char) :
    ∃ pieces, readPieces (cs.flatMap escape ++ '"' :: rest) = some (pieces, rest) ∧
      joinPieces pieces = some cs := by
  induction cs with
  | nil => exact ⟨[], by rw [List.flatMap_nil, List.nil_append, readPieces], rfl⟩
  | cons c cs ih =>
    obtain ⟨pieces, read, join⟩ := ih
    obtain ⟨piece, first, stands⟩ := readPieces_escape c (cs.flatMap escape ++ '"' :: rest)
    refine ⟨piece :: pieces, ?_, by rw [stands, join, Option.map_some]⟩
    rw [List.flatMap_cons, List.append_assoc, first, read]
    rfl

/-! ## Words -/

/-- Nothing follows that could belong to a word. -/
def Ends (rest : List Char) : Prop :=
  ∀ c, rest.head? = some c → isWordChar c = false

theorem isWordChar_of_isDigit {c : Char} (digit : c.isDigit = true) : isWordChar c = true := by
  simp [isWordChar, Char.isAlphanum, digit]

theorem isWordChar_of_mem_signedNumeral {i : Int} {c : Char} (mem : c ∈ signedNumeral i) :
    isWordChar c = true := by
  have digits (mem : c ∈ numeral i.natAbs) := isWordChar_of_isDigit (isDigit_of_mem_numeral mem)
  unfold signedNumeral at mem
  split at mem
  · obtain rfl | mem := List.mem_cons.1 mem
    · decide
    · exact digits mem
  · exact digits mem

/-- The characters of words are neither blanks, nor marks, nor quotes. -/
theorem firstToken_word {c : Char} (word : isWordChar c = true) :
    isBlank c = false ∧ mark? c = none ∧ c ≠ '"' := by
  have other (d : Char) (no : isWordChar d = false) : c ≠ d := by
    rintro rfl
    rw [no] at word
    cases word
  refine ⟨?_, ?_, other '"' (by decide)⟩
  · simp [isBlank, other ' ' (by decide), other '\t' (by decide), other '\n' (by decide),
      other '\r' (by decide)]
  · simp [mark?, other '[' (by decide), other ']' (by decide), other '{' (by decide),
      other '}' (by decide), other ',' (by decide), other ':' (by decide)]

theorem spanDigits_numeral (n : Nat) : spanDigits (numeral n) = (numeral n, []) := by
  obtain ⟨taken, dropped⟩ :=
    Text.span_self fun _ (mem : _ ∈ numeral n) => isDigit_of_mem_numeral mem
  exact Prod.ext taken dropped

/-- The digits of a number are those of a numeral: there are some, and no zero is superfluous. -/
theorem wellFormed_numeral (n : Nat) : ((numeral n).isEmpty ||
    (decide ((numeral n).head? = some '0') && (numeral n).length != 1)) = false := by
  rw [Bool.or_eq_false_iff, Bool.and_eq_false_iff]
  refine ⟨by simp [numeral_ne_nil], ?_⟩
  by_cases zero : (numeral n).head? = some '0'
  · obtain rfl := head?_numeral zero
    exact .inr rfl
  · exact .inl (decide_eq_false zero)

/-- A whole number starts with a minus sign or a digit. -/
theorem exists_signedNumeral (i : Int) :
    (i < 0 ∧ signedNumeral i = '-' :: numeral i.natAbs) ∨
      (0 ≤ i ∧ signedNumeral i = numeral i.natAbs ∧
        ∃ c cs, numeral i.natAbs = c :: cs ∧ c.isDigit = true) := by
  unfold signedNumeral
  by_cases negative : i < 0
  · exact .inl ⟨negative, if_pos negative⟩
  · obtain ⟨c, cs, shape⟩ := List.exists_cons_of_ne_nil (numeral_ne_nil i.natAbs)
    refine .inr ⟨Int.not_lt.1 negative, if_neg negative, c, cs, shape, ?_⟩
    exact isDigit_of_mem_numeral (shape ▸ List.mem_cons_self)

/-- A numeral without fraction and exponent is taken apart. -/
theorem ofChars?_signedNumeral (i : Int) :
    Numeral.ofChars? (signedNumeral i) = some ⟨i < 0, numeral i.natAbs, [], none⟩ := by
  unfold Numeral.ofChars?
  obtain ⟨negative, shape⟩ | ⟨positive, shape, c, cs, start, digit⟩ := exists_signedNumeral i
  · simp only [shape, spanDigits_numeral, wellFormed_numeral, decide_eq_true negative]
    rfl
  · rw [shape, decide_eq_false (Int.not_lt.2 positive)]
    split
    next negative digits sign =>
      split at sign
      next minus =>
        obtain rfl : c = '-' := (List.cons.inj (start.symm.trans minus)).1
        cases digit
      next =>
        cases sign
        simp only [spanDigits_numeral, wellFormed_numeral]
        rfl

/-- Whole numbers of at most 64 bits are read as they were written. -/
theorem wordValue?_signedNumeral {i : Int} (low : Int64.minValue.toInt ≤ i)
    (high : i < UInt64.size) : wordValue? (signedNumeral i) = some (.int i) := by
  have other (word : List Char) (letter : word.head?.all (fun c => !c.isDigit && c != '-') = true)
      (some : word ≠ []) : signedNumeral i ≠ word := by
    rintro rfl
    obtain ⟨-, shape⟩ | ⟨-, shape, c, cs, start, digit⟩ := exists_signedNumeral i
    · simp [shape] at letter
    · simp [shape, start, digit] at letter
  unfold wordValue?
  rw [if_neg (other _ (by decide) (by decide)), if_neg (other _ (by decide) (by decide)),
    if_neg (other _ (by decide) (by decide)), ofChars?_signedNumeral, Option.map_some]
  congr
  unfold Numeral.value
  simp only [valueOf_numeral, List.isEmpty_nil, Option.isNone_none, Bool.true_and]
  by_cases negative : i < 0
  · have magnitude : -(i.natAbs : Int) = i := by omega
    have pos : 0 < i.natAbs := by omega
    rw [decide_eq_true negative, decide_eq_true pos, magnitude, decide_eq_true low]
    rfl
  · have magnitude : (i.natAbs : Int) = i := by omega
    have fits : i.natAbs < UInt64.size := by omega
    rw [decide_eq_false negative, decide_eq_true fits, magnitude]
    rfl

/-! ## Tokens -/

section Tokens
variable {c : Char} {word rest : List Char} {st : State} {t : Token} {v : Value}

/-- The state after the tokens of some characters. -/
def State.reads (st : State) (cs : List Char) : Option State :=
  (tokens cs).bind fun ts => ts.foldlM State.step st

theorem read?_eq (s : String) : read? s = ((State.value []).reads s.toList).bind fun
    | .finished v => some v
    | _ => none := by
  unfold read? State.reads
  cases tokens s.toList with
  | none => rfl
  | some ts => rfl

/-- The first token is taken, and then the others. -/
theorem reads_token {after : Text.Tail rest} (visible : isBlank c = false)
    (first : firstToken c rest = some (t, after)) (st : State) :
    st.reads (c :: rest) = (st.step t).bind fun next => next.reads after.chars := by
  obtain ⟨after, le⟩ := after
  unfold State.reads
  rw [tokens, if_neg (by simp [visible]), first]
  dsimp only
  cases tokens after with
  | none => cases st.step t <;> rfl
  | some ts => rfl

/-- A mark. -/
theorem reads_mark (mark : mark? c = some t) (st : State) (rest : List Char) :
    st.reads (c :: rest) = (st.step t).bind fun next => next.reads rest := by
  have visible : isBlank c = false := by
    cases blank : isBlank c with
    | false => rfl
    | true =>
      simp only [isBlank, Bool.or_eq_true, decide_eq_true_eq] at blank
      obtain ((rfl | rfl) | rfl) | rfl := blank <;> cases mark
  have first : firstToken c rest = some (t, .whole rest) := by
    rw [firstToken, mark]
  exact reads_token visible first st

/-- A text. -/
theorem reads_quote (st : State) (s : String) (rest : List Char) :
    st.reads (quote s.toList ++ rest) =
      (st.step (.text (some s))).bind fun next => next.reads rest := by
  obtain ⟨pieces, read, join⟩ := readPieces_flatMap_escape s.toList rest
  have text : (joinPieces pieces).map String.ofList = some s := by
    rw [join, Option.map_some, String.ofList_toList]
  have first : ∃ after, firstToken '"' (s.toList.flatMap escape ++ '"' :: rest) =
      some (.text (some s), after) ∧ after.chars = rest := by
    unfold firstToken
    rw [show mark? '"' = none from rfl]
    dsimp only
    rw [if_pos rfl]
    split
    next found =>
      cases read.symm.trans found
      exact ⟨_, by rw [text], rfl⟩
    next missing => cases read.symm.trans missing
  obtain ⟨after, first, same⟩ := first
  rw [quote, List.cons_append, List.append_assoc, List.singleton_append,
    reads_token (by decide) first st, same]

/-- A word. -/
theorem reads_word (inside : ∀ c ∈ word, isWordChar c = true) (value : wordValue? word = some v)
    (ends : Ends rest) (st : State) :
    st.reads (word ++ rest) = (st.step (.word v)).bind fun next => next.reads rest := by
  cases word with
  | nil => cases value
  | cons c word =>
    obtain ⟨visible, unmarked, unquoted⟩ := firstToken_word (inside c List.mem_cons_self)
    obtain ⟨taken, dropped⟩ :=
      Text.span_append (fun d mem => inside d (List.mem_cons_of_mem c mem)) ends
    have first : firstToken c (word ++ rest) =
        some (.word v, .dropWhile isWordChar (word ++ rest)) := by
      rw [firstToken, unmarked]
      simp only [if_neg unquoted, taken, value]
    have after : (Text.Tail.dropWhile isWordChar (word ++ rest)).chars = rest := dropped
    rw [List.cons_append, reads_token visible first st, after]

end Tokens

/-! ## Values -/

mutual

/-- JSON tells the value apart: it holds no double, and its numbers are read as whole ones. -/
def isExact : Value → Bool
  | .null | .bool _ | .text _ => true
  | .int i => Int64.minValue.toInt ≤ i && i < UInt64.size
  | .float _ | .unreadable | .tooLarge => false
  | .list items => areExact items
  | .record fields => haveExact fields

/-- JSON tells the values apart. -/
def areExact : List Value → Bool
  | [] => true
  | v :: rest => isExact v && areExact rest

/-- JSON tells the values of the fields apart. -/
def haveExact : List (String × Value) → Bool
  | [] => true
  | (_, v) :: rest => isExact v && haveExact rest

end

/-- Elements that all are mapped successfully. -/
theorem mapM_map_eq_some {α β γ : Type} {f : β → Option γ} {g : α → β} {h : α → γ} {l : List α}
    (each : ∀ x ∈ l, f (g x) = some (h x)) : (l.map g).mapM f = some (l.map h) := by
  induction l with
  | nil => rfl
  | cons x l ih =>
    rw [List.forall_mem_cons] at each
    rw [List.map_cons, List.mapM_cons, each.1, ih each.2]
    rfl

/-- A value is due, and `stack` is what it will stand in. -/
inductive State.Awaits : State → List Open → Prop
  | value (stack : List Open) : Awaits (.value stack) stack
  | firstItem (stack : List Open) : Awaits (.firstItem stack) (.list [] :: stack)

/-- Fields that have been completed, as the reader keeps them. -/
def kept (done : List (String × Value)) : Fields :=
  done.reverse.map fun field => (some field.1, field.2)

/-- Another field of a record is due after some. -/
inductive State.AwaitsField : State → List (String × Value) → List Open → Prop
  | first (stack : List Open) : AwaitsField (.firstField stack) [] stack
  | next (done : List (String × Value)) (stack : List Open) :
    AwaitsField (.field (kept done) stack) done stack

theorem kept_append (done : List (String × Value)) (name : String) (v : Value) :
    kept (done ++ [(name, v)]) = (some name, v) :: kept done := by
  simp [kept]

theorem close_kept (done : List (String × Value)) : close (kept done) = .record done := by
  unfold close kept
  rw [← List.map_reverse, List.reverse_reverse, mapM_map_eq_some (h := id), List.map_id]
  exact fun _ _ => rfl

section Values
variable {st : State} {stack : List Open} {rest : List Char}

/-- Whatever starts a value is taken as such. -/
theorem State.Awaits.step (awaits : st.Awaits stack) {t : Token} (start : t ≠ .closeList) :
    st.step t = State.start stack t := by
  cases awaits with
  | value => rfl
  | firstItem =>
    cases t with
    | closeList => exact absurd rfl start
    | _ => rfl

theorem State.AwaitsField.step {done : List (String × Value)} (awaits : st.AwaitsField done stack)
    (name : Option String) : st.step (.text name) = some (.colon (kept done) name stack) := by
  cases awaits <;> rfl

/-- Nothing of a word follows a mark. -/
theorem ends_cons {c : Char} (mark : isWordChar c = false) (rest : List Char) :
    Ends (c :: rest) := by
  rintro d start
  cases start
  exact mark

theorem renderItems_cons (v w : Value) (items : List Value) :
    renderItems (v :: w :: items) = render v ++ ',' :: renderItems (w :: items) := by
  rw [renderItems]
  simp

theorem renderFields_cons (name : String) (v : Value) (field : String × Value)
    (fields : List (String × Value)) : renderFields ((name, v) :: field :: fields) =
      quote name.toList ++ ':' :: (render v ++ ',' :: renderFields (field :: fields)) := by
  rw [renderFields]
  · rw [List.append_assoc, List.cons_append]
  · simp

/-- The name of a field, after which its value is due. -/
theorem reads_name {done : List (String × Value)} (awaits : st.AwaitsField done stack)
    (name : String) (rest : List Char) : st.reads (quote name.toList ++ ':' :: rest) =
      (State.value (.record (kept done) (some name) :: stack)).reads rest := by
  rw [reads_quote, awaits.step, Option.bind_some, reads_mark rfl]
  rfl

theorem reads_nil (st : State) : st.reads [] = some st := by
  rw [State.reads, tokens]
  rfl

mutual

/-- Wherever a value is due, its characters lead to the state in which it has been given. -/
theorem reads_render (v : Value) (exact : isExact v = true) {st : State} {stack : List Open}
    {rest : List Char} (awaits : st.Awaits stack) (ends : Ends rest) :
    st.reads (render v ++ rest) = (State.give v stack).reads rest := by
  have word {cs : List Char} {w : Value} (inside : ∀ c ∈ cs, isWordChar c = true)
      (value : wordValue? cs = some w) :
      st.reads (cs ++ rest) = (State.give w stack).reads rest := by
    rw [reads_word inside value ends, awaits.step (by simp)]
    rfl
  match v, exact with
  | .null, _ =>
    rw [render]
    exact word (List.all_eq_true.1 rfl) rfl
  | .bool true, _ =>
    rw [render]
    exact word (List.all_eq_true.1 rfl) rfl
  | .bool false, _ =>
    rw [render]
    exact word (List.all_eq_true.1 rfl) rfl
  | .int i, exact =>
    simp only [isExact, Bool.and_eq_true, decide_eq_true_eq] at exact
    exact word (fun _ => isWordChar_of_mem_signedNumeral)
      (wordValue?_signedNumeral exact.1 exact.2)
  | .text s, _ =>
    rw [render, reads_quote, awaits.step (by simp)]
    rfl
  | .list [], _ =>
    rw [render, List.cons_append, reads_mark rfl, awaits.step (by simp)]
    change (State.firstItem stack).reads _ = _
    rw [renderItems, List.singleton_append, reads_mark rfl]
    rfl
  | .list (v :: items), exact =>
    rw [render, List.cons_append, reads_mark rfl, awaits.step (by simp)]
    exact reads_renderItems v items exact [] (.firstItem stack) rest
  | .record [], _ =>
    rw [render, List.cons_append, reads_mark rfl, awaits.step (by simp)]
    change (State.firstField stack).reads _ = _
    rw [renderFields, List.singleton_append, reads_mark rfl]
    rfl
  | .record ((name, v) :: fields), exact =>
    rw [render, List.cons_append, reads_mark rfl, awaits.step (by simp)]
    exact reads_renderFields name v fields exact [] (.first stack) rest
termination_by sizeOf v

/-- The items of a list that are left once some are done. -/
theorem reads_renderItems (v : Value) (items : List Value) (exact : areExact (v :: items) = true)
    (done : List Value) {st : State} {stack : List Open}
    (awaits : st.Awaits (.list done.reverse :: stack)) (rest : List Char) :
    st.reads (renderItems (v :: items) ++ rest) =
      (State.give (.list (done ++ v :: items)) stack).reads rest := by
  match items, exact with
  | [], exact =>
    rw [areExact, Bool.and_eq_true] at exact
    rw [renderItems, List.append_assoc, List.singleton_append,
      reads_render v exact.1 awaits (ends_cons (by decide) rest)]
    change (State.afterItem (v :: done.reverse) stack).reads _ = _
    rw [reads_mark rfl]
    change (State.give (.list (v :: done.reverse).reverse) stack).reads rest = _
    rw [List.reverse_cons, List.reverse_reverse]
  | w :: items, exact =>
    rw [areExact, Bool.and_eq_true] at exact
    have next : (State.value (.list (v :: done.reverse) :: stack)).Awaits
        (.list (done ++ [v]).reverse :: stack) := by
      rw [List.reverse_append]
      exact .value _
    rw [renderItems_cons, List.append_assoc, List.cons_append,
      reads_render v exact.1 awaits (ends_cons (by decide) _)]
    change (State.afterItem (v :: done.reverse) stack).reads _ = _
    rw [reads_mark rfl]
    change (State.value (.list (v :: done.reverse) :: stack)).reads _ = _
    rw [reads_renderItems w items exact.2 (done ++ [v]) next rest, List.append_assoc,
      List.singleton_append]
termination_by sizeOf v + sizeOf items

/-- The fields of a record that are left once some are done. -/
theorem reads_renderFields (name : String) (v : Value) (fields : List (String × Value))
    (exact : haveExact ((name, v) :: fields) = true) (done : List (String × Value)) {st : State}
    {stack : List Open} (awaits : st.AwaitsField done stack) (rest : List Char) :
    st.reads (renderFields ((name, v) :: fields) ++ rest) =
      (State.give (.record (done ++ (name, v) :: fields)) stack).reads rest := by
  match fields, exact with
  | [], exact =>
    rw [haveExact, Bool.and_eq_true] at exact
    simp only [renderFields, List.append_assoc, List.cons_append, List.nil_append]
    rw [reads_name awaits, reads_render v exact.1 (.value _) (ends_cons (by decide) rest)]
    change (State.afterField ((some name, v) :: kept done) stack).reads _ = _
    rw [reads_mark rfl, ← kept_append]
    change (State.give (close (kept (done ++ [(name, v)]))) stack).reads rest = _
    rw [close_kept]
  | (name', w) :: fields, exact =>
    rw [haveExact, Bool.and_eq_true] at exact
    rw [renderFields_cons, List.append_assoc, List.cons_append, List.append_assoc,
      List.cons_append, reads_name awaits,
      reads_render v exact.1 (.value _) (ends_cons (by decide) _)]
    change (State.afterField ((some name, v) :: kept done) stack).reads _ = _
    rw [reads_mark rfl, ← kept_append]
    change (State.field (kept (done ++ [(name, v)])) stack).reads _ = _
    rw [reads_renderFields name' w fields exact.2 _ (.next _ stack) rest, List.append_assoc,
      List.singleton_append]
termination_by sizeOf v + sizeOf fields

end

/-- A value that JSON tells apart is read as it was written. -/
theorem read?_print {v : Value} (exact : isExact v = true) : read? (print v) = some v := by
  have ends : Ends [] := fun _ follows => by cases follows
  have reads := reads_render v exact (.value []) ends
  rw [List.append_nil] at reads
  rw [read?_eq, print, String.toList_ofList, reads, reads_nil]
  rfl

end Values

end CalendarSync.Data.Json

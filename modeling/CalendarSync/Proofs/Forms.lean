import CalendarSync.Data.Forms
import CalendarSync.Proofs.Json
import CalendarSync.Proofs.TimestampText

/-!
# Persisted records are read as they were written

A record that is decoded from the value it was encoded as is the same again, and JSON tells apart
all values that records are encoded as.
-/

namespace CalendarSync
set_option autoImplicit false

open Data Data.Value Data.Json

namespace Data
variable {α : Type}

/-! ## Parts of a record -/

section Parts
variable {o : Option α} {t : Timestamp}

@[simp]
theorem toUuid?_ofUuid (id : Uuid) : toUuid? (ofUuid id) = some id := by
  rw [toUuid?, ofUuid, toText?, Option.bind_some, Uuid.read?_text]

@[simp]
theorem toInt32?_ofInt32 (code : Int32) : toInt32? (ofInt32 code) = some code := by
  have bounds : Int32.minValue.toInt ≤ code.toInt ∧ code.toInt ≤ Int32.maxValue.toInt :=
    ⟨Int32.minValue_le_toInt code, Int32.toInt_le code⟩
  change (if _ then _ else _) = _
  rw [if_pos bounds, Int32.ofInt_toInt]

theorem toTimestamp?_ofTimestamp (ordinary : t.IsOrdinary) :
    toTimestamp? (ofTimestamp t) = some t := by
  rw [toTimestamp?, ofTimestamp, toText?, Option.bind_some, ordinary.read?_text]

/-- Items that are decoded as they were encoded. -/
theorem toList?_map {encode : α → Value} {decode : Value → Option α} {items : List α}
    (back : ∀ x ∈ items, decode (encode x) = some x) :
    toList? decode (.list (items.map encode)) = some items := by
  rw [toList?, mapM_map_eq_some (h := id) back, List.map_id]

end Parts

namespace Slot
variable {o : Option α} {d : Value → Option α} {v : Value}

@[simp]
theorem required_given : (given v).required d = d v := rfl

@[simp]
theorem withDefault_given {default : α} : (given v).withDefault default d = d v := rfl

@[simp]
theorem optional_null : (given .null).optional d = some none := rfl

theorem optional_given (shown : v ≠ .null) : (given v).optional d = (d v).map some := by
  unfold optional
  split <;> simp_all

/-- An optional part is decoded as it was encoded, unless that was null. -/
theorem optional_ofOption {encode : α → Value} (shown : ∀ x, encode x ≠ .null)
    (back : ∀ x ∈ o, d (encode x) = some x) :
    (given (ofOption encode o)).optional d = some o := by
  cases o with
  | none => rfl
  | some x => rw [ofOption, optional_given (shown x), back x rfl, Option.map_some]

@[simp]
theorem optional_ofUuid (o : Option Uuid) : (given (ofOption ofUuid o)).optional toUuid? = some o :=
  optional_ofOption (fun _ => by simp [ofUuid]) fun id _ => toUuid?_ofUuid id

@[simp]
theorem optional_ofInt32 (o : Option Int32) :
    (given (ofOption ofInt32 o)).optional toInt32? = some o :=
  optional_ofOption (fun _ => by simp [ofInt32]) fun code _ => toInt32?_ofInt32 code

@[simp]
theorem optional_bool (o : Option Bool) : (given (ofOption .bool o)).optional toBool? = some o :=
  optional_ofOption (fun _ => by simp) fun _ _ => rfl

@[simp]
theorem optional_ofText? (o : Option String) : (given (ofText? o)).optional toText? = some o := by
  cases o <;> rfl

theorem optional_ofTimestamp {o : Option Timestamp} (ordinary : ∀ t ∈ o, t.IsOrdinary) :
    (given (ofOption ofTimestamp o)).optional toTimestamp? = some o :=
  optional_ofOption (fun _ => by simp [ofTimestamp])
    fun t mem => toTimestamp?_ofTimestamp (ordinary t mem)

end Slot

/-- A field whose name no other field has is the only one with this name. -/
theorem filter_name {fields : List (String × Value)} (distinct : (fields.map Prod.fst).Nodup)
    {field : String × Value} (mem : field ∈ fields) :
    (fields.filter fun f => f.1 = field.1) = [field] := by
  induction fields with
  | nil => cases mem
  | cons f fields ih =>
    rw [List.map_cons, List.nodup_cons] at distinct
    obtain rfl | later := List.mem_cons.1 mem
    · have others : ∀ f ∈ fields, ¬ decide (f.1 = field.1) = true := fun f mem => by
        have := List.mem_map_of_mem mem (f := Prod.fst)
        rintro same
        exact distinct.1 (of_decide_eq_true same ▸ this)
      rw [List.filter_cons_of_pos (by simp), List.filter_eq_nil_iff.2 others]
    · have other : f.1 ≠ field.1 := fun same =>
        distinct.1 (same ▸ List.mem_map_of_mem later)
      rw [List.filter_cons_of_neg (by simpa using other), ih distinct.2 later]

/-- A record holds a slot for each of its fields if they have names of their own. -/
theorem slots?_record {names : List String} {fields : List (String × Value)}
    (same : fields.map Prod.fst = names) (distinct : names.Nodup) :
    (record fields).slots? names = some (fields.map fun f => .given f.2) := by
  subst same
  refine mapM_map_eq_some fun field mem => ?_
  rw [slot?, filter_name distinct mem]

end Data

/-! ## What JSON tells apart -/

namespace Data.Json
variable {α : Type}

@[simp]
theorem isExact_ofUuid (id : Uuid) : isExact (ofUuid id) = true := by
  rw [ofUuid, isExact]

@[simp]
theorem isExact_ofTimestamp (t : Timestamp) : isExact (ofTimestamp t) = true := by
  rw [ofTimestamp, isExact]

@[simp]
theorem isExact_ofText? (o : Option String) : isExact (ofText? o) = true := by
  cases o <;> rfl

@[simp]
theorem isExact_ofInt32 (code : Int32) : isExact (ofInt32 code) = true := by
  have low := Int32.le_toInt code
  have high := Int32.toInt_lt code
  have least : Int64.minValue.toInt = -9223372036854775808 := by decide
  have size : (UInt64.size : Int) = 18446744073709551616 := rfl
  rw [ofInt32, isExact, Bool.and_eq_true, decide_eq_true_eq, decide_eq_true_eq, least, size]
  omega

theorem isExact_ofOption {encode : α → Value} (each : ∀ x, isExact (encode x) = true)
    (o : Option α) : isExact (ofOption encode o) = true := by
  cases o with
  | none => rfl
  | some x => exact each x

@[simp]
theorem isExact_ofBool (o : Option Bool) : isExact (ofOption .bool o) = true :=
  isExact_ofOption (fun _ => rfl) o

theorem areExact_map {encode : α → Value} (each : ∀ x, isExact (encode x) = true)
    (items : List α) : areExact (items.map encode) = true := by
  induction items with
  | nil => rfl
  | cons x items ih => rw [List.map_cons, areExact, each x, ih, Bool.and_self]

end Data.Json

/-! ## Forms -/

/-- The form in which records of a type are persisted. -/
structure Form (α : Type) where
  encode : α → Value
  decode? : Value → Option α
  /-- The instants that a record holds. -/
  instants : α → List Timestamp

namespace Form
variable {α : Type} (f : Form α)

/-- A record as JSON. -/
def write (x : α) : String :=
  print (f.encode x)

/-- Reads a record from JSON. -/
def read? (text : String) : Option α :=
  (Json.read? text).bind f.decode?

/-- Reads a record from JSON and writes it again. -/
def rewrite? (text : String) : Option String :=
  (f.read? text).map f.write

/-- The record holds instants of the years 0 to 9999 only, and none in a leap second. -/
def IsOrdinary (x : α) : Prop :=
  ∀ t ∈ f.instants x, t.IsOrdinary

instance (x : α) : Decidable (f.IsOrdinary x) :=
  inferInstanceAs (Decidable (∀ t ∈ f.instants x, t.IsOrdinary))

/-- What records with ordinary instants keep when they are persisted. -/
structure RoundTrips : Prop where
  /-- A record that is written is read again. -/
  read?_write : ∀ x, f.IsOrdinary x → f.read? (f.write x) = some x
  /-- So is a record that has been read, however its text was spelled. -/
  read?_again : ∀ text x, f.read? text = some x → f.IsOrdinary x →
    (f.rewrite? text).bind f.read? = some x
  /-- A text that has been rewritten is not changed any more. -/
  rewrite?_again : ∀ text x, f.read? text = some x → f.IsOrdinary x →
    (f.rewrite? text).bind f.rewrite? = f.rewrite? text

variable {f}

/-- A form round-trips if its values do, and if JSON tells them apart. -/
theorem RoundTrips.of (exact : ∀ x, isExact (f.encode x) = true)
    (back : ∀ x, f.IsOrdinary x → f.decode? (f.encode x) = some x) : f.RoundTrips := by
  have read (x : α) (ordinary : f.IsOrdinary x) : f.read? (f.write x) = some x := by
    rw [Form.read?, write, read?_print (exact x), Option.bind_some, back x ordinary]
  refine ⟨read, fun text x known ordinary => ?_, fun text x known ordinary => ?_⟩
  · rw [rewrite?, known, Option.map_some, Option.bind_some, read x ordinary]
  · rw [rewrite?, known, Option.map_some, Option.bind_some, rewrite?, read x ordinary,
      Option.map_some]

end Form

namespace Operation

/-- The form of operations. -/
def form : Form Operation :=
  ⟨encode, decode?, fun _ => []⟩

@[simp]
theorem decode?_encode (op : Operation) : decode? op.encode = some op :=
  ofName?_name op

theorem form_roundTrips : form.RoundTrips :=
  .of (fun _ => rfl) fun op _ => decode?_encode op

end Operation

namespace Window

/-- The form of windows. -/
def form : Form Window :=
  ⟨encode, decode?, fun w => [w.start, w.stop]⟩

theorem form_roundTrips : form.RoundTrips := by
  refine .of (fun w => ?_) fun w ordinary => ?_
  · simp [form, encode, isExact, haveExact]
  · simp only [Form.IsOrdinary, form, List.forall_mem_cons] at ordinary ⊢
    obtain ⟨start, stop, -⟩ := ordinary
    rw [decode?, encode, slots?_record]
    · simp [toTimestamp?_ofTimestamp start, toTimestamp?_ofTimestamp stop]
    · rfl
    · decide

end Window

namespace Completion

/-- The form of completions. -/
def form : Form Completion :=
  ⟨encode, decode?, fun c => [c.syncedAt]⟩

theorem form_roundTrips : form.RoundTrips := by
  refine .of (fun c => ?_) fun c ordinary => ?_
  · simp [form, encode, isExact, haveExact, isExact_ofOption]
  · simp only [Form.IsOrdinary, form, List.forall_mem_cons] at ordinary ⊢
    rw [decode?, encode, slots?_record]
    · simp [toTimestamp?_ofTimestamp ordinary.1, toBool?]
    · rfl
    · decide

end Completion

namespace Attempt

/-- The instants that an attempt holds. -/
def instants (a : Attempt) : List Timestamp :=
  a.window.start :: a.window.stop :: a.createdAt :: a.syncedAt.toList

/-- The form of attempts. -/
def form : Form Attempt :=
  ⟨encode, decode?, instants⟩

theorem isExact_encode (a : Attempt) : isExact a.encode = true := by
  simp [encode, Operation.encode, isExact, haveExact, isExact_ofOption]

theorem decode?_encode {a : Attempt} (ordinary : ∀ t ∈ a.instants, t.IsOrdinary) :
    decode? a.encode = some a := by
  simp only [instants, List.forall_mem_cons, Option.mem_toList] at ordinary
  obtain ⟨start, stop, createdAt, syncedAt⟩ := ordinary
  rw [decode?, encode, slots?_record]
  · simp [toTimestamp?_ofTimestamp start, toTimestamp?_ofTimestamp stop,
      toTimestamp?_ofTimestamp createdAt, Slot.optional_ofTimestamp syncedAt, toBool?]
  · rfl
  · decide

theorem form_roundTrips : form.RoundTrips :=
  .of isExact_encode fun _ => decode?_encode

end Attempt

namespace Event

/-- The form of events. -/
def form : Form Event :=
  ⟨encode, decode?, fun e => e.createdAt :: e.attempts.flatMap Attempt.instants⟩

theorem form_roundTrips : form.RoundTrips := by
  refine .of (fun e => ?_) fun e ordinary => ?_
  · simp [form, encode, isExact, haveExact, areExact_map Attempt.isExact_encode]
  · simp only [Form.IsOrdinary, form, List.forall_mem_cons, List.mem_flatMap] at ordinary ⊢
    obtain ⟨createdAt, attempts⟩ := ordinary
    have history := toList?_map fun a mem =>
      Attempt.decode?_encode fun t held => attempts t ⟨a, mem, held⟩
    rw [decode?, encode, slots?_record]
    · simp [toTimestamp?_ofTimestamp createdAt, history, toText?, toBool?]
    · rfl
    · decide

end Event

namespace ListedResource

/-- The form of listed resources. -/
def form : Form ListedResource :=
  ⟨encode, decode?, fun _ => []⟩

theorem form_roundTrips : form.RoundTrips := by
  refine .of (fun r => ?_) fun r _ => ?_
  · simp [form, encode, isExact, haveExact]
  · simp only [form]
    rw [decode?, encode, slots?_record]
    · simp [toText?]
    · rfl
    · decide

end ListedResource

namespace Resource

/-- The form of resources. -/
def form : Form Resource :=
  ⟨encode, decode?, fun r => r.createdAt :: r.deletedAt.toList⟩

theorem form_roundTrips : form.RoundTrips := by
  refine .of (fun r => ?_) fun r ordinary => ?_
  · simp [form, encode, isExact, haveExact, isExact_ofOption]
  · simp only [Form.IsOrdinary, form, List.forall_mem_cons, Option.mem_toList] at ordinary ⊢
    obtain ⟨createdAt, deletedAt⟩ := ordinary
    rw [decode?, encode, slots?_record]
    · simp [toTimestamp?_ofTimestamp createdAt, Slot.optional_ofTimestamp deletedAt, toText?]
    · rfl
    · decide

end Resource

namespace Call

/-- The form of call records. -/
def form : Form Call :=
  ⟨encode, decode?, fun c => c.startedAt :: c.endedAt.toList⟩

theorem form_roundTrips : form.RoundTrips := by
  refine .of (fun c => ?_) fun c ordinary => ?_
  · simp [form, encode, Operation.encode, isExact, haveExact, isExact_ofOption]
  · simp only [Form.IsOrdinary, form, List.forall_mem_cons, Option.mem_toList] at ordinary ⊢
    obtain ⟨startedAt, endedAt⟩ := ordinary
    rw [decode?, encode, slots?_record]
    · simp [toTimestamp?_ofTimestamp startedAt, Slot.optional_ofTimestamp endedAt, toText?]
    · rfl
    · decide

end Call

namespace ItemResult

/-- The form of item results. -/
def form : Form ItemResult :=
  ⟨encode, decode?, fun _ => []⟩

theorem form_roundTrips : form.RoundTrips := by
  refine .of (fun r => ?_) fun r _ => ?_
  · simp [form, encode, isExact, haveExact, isExact_ofOption]
  · simp only [form]
    rw [decode?, encode, slots?_record]
    · simp [toBool?]
    · rfl
    · decide

end ItemResult

namespace DomainError

/-- The form of errors. -/
def form : Form DomainError :=
  ⟨encode, decode?, fun _ => []⟩

theorem form_roundTrips : form.RoundTrips := by
  refine .of (fun e => ?_) fun e _ => ?_
  · simp [form, encode, isExact, haveExact]
  · simp only [form]
    rw [decode?, encode, slots?_record]
    · simp [toText?, toChoice?, ErrorKind.ofName?_name]
    · rfl
    · decide

end DomainError

/-- Each form round-trips: what holds ordinary instants is read from JSON as it was written, also
after it has been read from a text of another spelling, and rewriting a text once is enough. -/
theorem forms_round_trip :
    Operation.form.RoundTrips ∧ Window.form.RoundTrips ∧ Completion.form.RoundTrips ∧
    Attempt.form.RoundTrips ∧ Event.form.RoundTrips ∧ Resource.form.RoundTrips ∧
    ListedResource.form.RoundTrips ∧ Call.form.RoundTrips ∧ ItemResult.form.RoundTrips ∧
    DomainError.form.RoundTrips :=
  ⟨Operation.form_roundTrips, Window.form_roundTrips, Completion.form_roundTrips,
    Attempt.form_roundTrips, Event.form_roundTrips, Resource.form_roundTrips,
    ListedResource.form_roundTrips, Call.form_roundTrips, ItemResult.form_roundTrips,
    DomainError.form_roundTrips⟩

/-- A window as a list, with an offset from universal time. -/
def Window.listText : String :=
  "[\"2024-02-29 01:30:00.25+01:30\",\"9999-12-31T23:59:59z\"]"

/-- An item's result with an unknown field, an identifier without hyphens and no code. -/
def ItemResult.oddText : String :=
  "\x7b\"x\":[1.5],\"success\":true,\"sync_log_id\":\"0000000000000000000000000000000A\"\x7d"

/-- Both texts are rewritten to others, which are not changed any more; and an event with an attempt
of the first and the last year comes back. -/
theorem forms_round_trip_spellings :
    (∃ w, Window.form.read? Window.listText = some w ∧ Window.form.IsOrdinary w ∧
      Window.form.write w ≠ Window.listText ∧
      (Window.form.rewrite? Window.listText).bind Window.form.read? = some w) ∧
    (∃ r, ItemResult.form.read? ItemResult.oddText = some r ∧ ItemResult.form.IsOrdinary r ∧
      ItemResult.form.write r ≠ ItemResult.oddText ∧
      (ItemResult.form.rewrite? ItemResult.oddText).bind ItemResult.form.rewrite? =
        ItemResult.form.rewrite? ItemResult.oddText) ∧
    ∃ e, Event.form.IsOrdinary e ∧ e.attempts.length = 1 ∧
      Event.form.read? (Event.form.write e) = some e := by
  obtain ⟨-, windows, -, -, events, -, -, -, results, -⟩ := forms_round_trip
  refine ⟨?window, ?result, ?event⟩
  case window =>
    have facts : (Window.form.read? Window.listText).any (fun w => decide
        (Window.form.IsOrdinary w ∧ Window.form.write w ≠ Window.listText)) = true := by
      decide +kernel
    obtain ⟨w, known, facts⟩ := (Option.any_eq_true _ _).1 facts
    obtain ⟨ordinary, other⟩ := of_decide_eq_true facts
    exact ⟨w, known, ordinary, other, windows.read?_again _ w known ordinary⟩
  case result =>
    have facts : (ItemResult.form.read? ItemResult.oddText).any (fun r => decide
        (ItemResult.form.IsOrdinary r ∧ ItemResult.form.write r ≠ ItemResult.oddText)) = true := by
      decide +kernel
    obtain ⟨r, known, facts⟩ := (Option.any_eq_true _ _).1 facts
    obtain ⟨ordinary, other⟩ := of_decide_eq_true facts
    exact ⟨r, known, ordinary, other, results.rewrite?_again _ r known ordinary⟩
  case event =>
    let first : Timestamp := ⟨-62167219200, 1, by decide⟩
    let last : Timestamp := ⟨253402300799, 999999000, by decide⟩
    let attempt : Attempt :=
      ⟨.ofNat 1, .ofNat 2, .delete, ⟨first, last⟩, last, some first, some false, some (-1), true,
        none⟩
    let e : Event := ⟨.ofNat 2, "r\u00f6\u0001\"\\", "", true, first, [attempt]⟩
    have ordinary : Event.form.IsOrdinary e := by decide +kernel
    exact ⟨e, ordinary, rfl, events.read?_write e ordinary⟩

end CalendarSync

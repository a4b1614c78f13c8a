/-
**The console is a register map.**

* `Entry.Admits`: the sizes of an entry allow a value.
* `Dictionary.consult`: what an operator is told about an entry, whatever its rights are.
* `Station.answer_get`, `Station.answer_set`: the answers to lines that read or write an entry.
* `Station.settings`: the values that lines set and were told so, in order.
* `Station.register`: the value that an entry should have behind lines: the one that was set last,
  and the one that it began with if there is none.
* `Station.find?_run`: **behind lines every entry has this value**, by induction on the lines.
* `Reply.value?`: the value that a reply tells.
* `Station.answer_registers`: **a line that reads an entry is told this value**, a line that writes
  one succeeds exactly if it can, and no other line changes anything.
-/

import Canopen.Proofs.Entries
import Canopen.Proofs.Orders
import Canopen.Proofs.Spellings
import Canopen.Proofs.Traffic

namespace Canopen

/-! ### Entries at hand -/

/-- The sizes of an entry allow a value. -/
structure Entry.Admits (entry : Entry) (data : List UInt8) : Prop where
  fixed : entry.fixedSize ≠ 0 → data.length = entry.fixedSize
  most : entry.maxSize ≠ 0 → data.length ≤ entry.maxSize

theorem Entry.admits_value {entry : Entry} {value : Option (List UInt8)} {data : List UInt8} :
    Admits { entry with value := value } data ↔ entry.Admits data :=
  ⟨fun admits => ⟨admits.fixed, admits.most⟩, fun admits => ⟨admits.fixed, admits.most⟩⟩

namespace Dictionary

variable {dictionary : Dictionary} {target : Target} {entry : Entry} {data : List UInt8}

/-- An operator may write what the sizes of the entry allow. -/
theorem writeStatus_eq_ok_iff : writeStatus entry data false = .ok ↔ entry.Admits data := by
  unfold writeStatus
  rw [if_neg (by simp)]
  split
  · next misfit => exact iff_of_false nofun fun admits => misfit.2 (admits.fixed misfit.1)
  · next fixed =>
    split
    · next excess =>
      exact iff_of_false nofun fun admits => Nat.not_lt.mpr (admits.most excess.1) excess.2
    · next most =>
      refine iff_of_true rfl ⟨fun sized => ?_, fun bounded => ?_⟩
      · exact Decidable.byContradiction fun other => fixed ⟨sized, other⟩
      · exact Nat.not_lt.mp fun more => most ⟨bounded, more⟩

theorem absence_ne_noValue (dictionary : Dictionary) (target : Target) :
    dictionary.absence target ≠ .noValue := by
  unfold absence
  split <;> exact nofun

/-- No write is refused because there is no value. -/
theorem outcome_write_ne_noValue (dictionary : Dictionary) (target : Target) (data : List UInt8)
    (checked : Bool) : (dictionary.write target data checked).outcome ≠ .ok .noValue := by
  have status (entry : Entry) : writeStatus entry data checked ≠ .noValue := by
    unfold writeStatus
    split
    · exact nofun
    split
    · exact nofun
    split <;> exact nofun
  cases found : dictionary.find? target with
  | none =>
    rw [write_of_absent found]
    exact fun same => absence_ne_noValue dictionary target (Except.ok.inj same)
  | some entry =>
    by_cases accepted : writeStatus entry data checked = .ok
    · intro same
      rw [write_of_accepted found accepted] at same
      exact status entry (accepted.trans (store_eq_ok same).symm)
    · obtain ⟨-, outcome, -⟩ := write_of_refused found accepted
      rw [outcome]
      exact fun same => status entry (Except.ok.inj same)

/-- What an operator is told about an entry, whatever its rights are. -/
def consult (dictionary : Dictionary) (target : Target) : Reply :=
  match dictionary.find? target with
  | none => .error (.refused (dictionary.absence target))
  | some entry =>
    match entry.value with
    | none => .error (.refused .noValue)
    | some data => .ok (Hex.encode data)

/-- Without suppliers a read answers with what the entry holds. -/
theorem read_unsupplied (unsupplied : dictionary.suppliers = []) (target : Target) :
    ∃ reading, (dictionary.read target false).outcome = .ok reading ∧
      Station.readReply reading = dictionary.consult target := by
  unfold read consult
  cases found : dictionary.find? target with
  | none =>
    refine ⟨_, rfl, if_neg ?_⟩
    show dictionary.absence target ≠ .ok
    unfold absence
    split <;> exact nofun
  | some entry =>
    obtain ⟨name, access, fixedSize, maxSize, value⟩ := entry
    cases value <;> simp [readEntry, unsupplied, supplied, Call.quiet, Station.readReply,
      Reading.statusOnly, Reading.supplied, Reading.into]

/-- Nothing stands between an operator and the entries. -/
structure Plain (dictionary : Dictionary) : Prop where
  unsupplied : dictionary.suppliers = []
  unobserved : dictionary.observers = []

theorem Plain.set (plain : dictionary.Plain) (target : Target) (data : List UInt8) :
    (dictionary.set target data).Plain :=
  ⟨plain.unsupplied, plain.unobserved⟩

theorem store_unobserved (unobserved : dictionary.observers = []) (target : Target)
    (data : List UInt8) :
    dictionary.store target data = .quiet (dictionary.set target data) (.ok .ok) := by
  unfold store
  rw [unobserved]
  rfl

end Dictionary

/-! ### Replies -/

namespace Reply

/-- The value that a reply tells: `OK` alone is the empty one. -/
def value? (reply : Text) : Option (List UInt8) :=
  if reply = Text.ofString "OK" then some []
  else (Text.behind? "OK " reply).bind Hex.decode?

theorem isPrefix_text_ok (result : Text) : Text.ofString "OK" <+: Reply.text (.ok result) := by
  cases result with
  | nil => exact List.prefix_refl _
  | cons octet rest => exact ⟨32 :: octet :: rest, rfl⟩

theorem isPrefix_text_error (complaint : Complaint) :
    Text.ofString "ERR " <+: Reply.text (.error complaint) :=
  List.prefix_append _ _

/-- No reply is of both kinds. -/
theorem not_isPrefix_error {reply : Text} (met : Text.ofString "OK" <+: reply) :
    ¬ Text.ofString "ERR" <+: reply := fun refused =>
  absurd (List.prefix_of_prefix_length_le met refused (by decide)) (by decide)

/-- A reply that begins with `ERR` tells what is wrong. -/
theorem exists_complaint {reply : Reply} (refused : Text.ofString "ERR" <+: reply.text) :
    ∃ complaint, reply = .error complaint := by
  cases reply with
  | error complaint => exact ⟨complaint, rfl⟩
  | ok result => exact absurd refused (not_isPrefix_error (isPrefix_text_ok result))

/-- A reply that tells what is wrong does not begin with `OK`. -/
theorem not_isPrefix_ok (complaint : Complaint) :
    ¬ Text.ofString "OK" <+: Reply.text (.error complaint) := fun met =>
  not_isPrefix_error met (List.IsPrefix.trans (by decide) (isPrefix_text_error complaint))

theorem text_error_ne_ok (complaint : Complaint) :
    Reply.text (.error complaint) ≠ Text.ofString "OK" := fun same =>
  not_isPrefix_ok complaint (same ▸ List.prefix_refl _)

/-- **A value is told as it is.** -/
theorem value?_ok (data : List UInt8) :
    value? (Reply.text (.ok (Hex.encode data))) = some data := by
  cases data with
  | nil => rfl
  | cons octet rest =>
    have written : Reply.text (.ok (Hex.encode (octet :: rest))) =
        Text.ofString "OK " ++ Hex.encode (octet :: rest) := rfl
    have longer : Text.ofString "OK " ++ Hex.encode (octet :: rest) ≠ Text.ofString "OK" := by
      intro same
      have length := congrArg List.length same
      rw [List.length_append] at length
      exact absurd length (Nat.ne_of_gt (Nat.lt_of_lt_of_le (by decide) (Nat.le_add_right _ _)))
    rw [value?, written, if_neg longer, Text.behind?_append]
    exact Hex.decode?_encode _

theorem value?_error (complaint : Complaint) : value? (Reply.text (.error complaint)) = none := by
  rw [value?, if_neg (text_error_ne_ok complaint)]
  cases behind : Text.behind? "OK " (Reply.text (.error complaint)) with
  | none => rfl
  | some digits =>
    have met := List.isPrefixOf?_eq_some_iff_append_eq.mp behind
    exact absurd (List.IsPrefix.trans (by decide) ⟨digits, met⟩) (not_isPrefix_ok complaint)

/-- Nothing but a missing value is told in these words. -/
theorem eq_refused_noValue {complaint : Complaint}
    (same : complaint.text = Text.ofString "no value") : complaint = .refused .noValue := by
  have first : complaint.text.head? = some 110 := by
    rw [same]
    decide
  cases complaint with
  | refused status =>
    cases status with
    | noValue => rfl
    | _ => exact absurd same (by decide)
  | _ => exact absurd first (by simp [Complaint.text, Text.ofString])

theorem text_eq_noValue_iff {reply : Reply} :
    reply.text = Text.ofString "ERR no value" ↔ reply = .error (.refused .noValue) := by
  constructor
  · intro same
    have refused : Text.ofString "ERR" <+: reply.text := by
      rw [same]
      decide
    obtain ⟨complaint, rfl⟩ := exists_complaint refused
    have told : Text.ofString "ERR " ++ complaint.text =
        Text.ofString "ERR " ++ Text.ofString "no value" := same
    rw [eq_refused_noValue (List.append_cancel_left told)]
  · rintro rfl
    decide

end Reply

namespace Dictionary

variable (dictionary : Dictionary) (target : Target)

/-- An operator is told the value of an entry, if it has one. -/
theorem value?_consult :
    Reply.value? (dictionary.consult target).text =
      (dictionary.find? target).bind Entry.value := by
  unfold consult
  cases dictionary.find? target with
  | none => exact Reply.value?_error _
  | some entry =>
    cases held : entry.value with
    | none =>
      simp only [Option.bind_some, held]
      exact Reply.value?_error _
    | some data =>
      simp only [Option.bind_some, held]
      exact Reply.value?_ok data

/-- Whatever an operator is told with `OK` is a value. -/
theorem isSome_value?_consult (met : Text.ofString "OK" <+: (dictionary.consult target).text) :
    (Reply.value? (dictionary.consult target).text).isSome = true := by
  cases told : dictionary.consult target with
  | error complaint =>
    rw [told] at met
    exact absurd met (Reply.not_isPrefix_ok complaint)
  | ok result =>
    unfold consult at told
    split at told
    · exact absurd told nofun
    · split at told
      · exact absurd told nofun
      · rw [← told, Reply.value?_ok]
        rfl

/-- An operator is told of a missing value exactly if the entry is there without one. -/
theorem consult_eq_noValue_iff :
    (dictionary.consult target).text = Text.ofString "ERR no value" ↔
      ∃ entry, dictionary.find? target = some entry ∧ entry.value = none := by
  rw [Reply.text_eq_noValue_iff]
  unfold consult
  cases dictionary.find? target with
  | none =>
    refine iff_of_false (fun same => ?_) nofun
    exact absence_ne_noValue dictionary target (Complaint.refused.inj (Except.error.inj same))
  | some entry =>
    cases held : entry.value with
    | none =>
      simp only [held]
      exact ⟨fun _ => ⟨entry, rfl, held⟩, fun _ => trivial⟩
    | some data =>
      simp only [held]
      refine iff_of_false nofun ?_
      rintro ⟨_, same, unset⟩
      rw [← Option.some.inj same, held] at unset
      exact absurd unset nofun

end Dictionary

/-! ### Reading and writing -/

/-- The setting that an order asks for. -/
def Order.setting? : Order → Option (Target × List UInt8)
  | .set target data => some (target, data)
  | _ => none

namespace Station

variable {station : Station Dictionary} {line : Text} {target : Target} {data : List UInt8}

theorem writeReply_of_ne {status : Status} (refused : status ≠ .ok) :
    writeReply status = .error (.refused status) :=
  if_neg refused

/-- A line that reads an entry is told about it, and changes nothing. -/
theorem answer_get (unsupplied : station.store.suppliers = [])
    (read : Order.parse line = .ok (.get target)) :
    station.answer line =
      ⟨station, .ok (Reply.text (station.store.consult target)),
        [.note (.orderReceived line)]⟩ := by
  obtain ⟨reading, outcome, told⟩ := Dictionary.read_unsupplied unsupplied target
  have call : Server.upload station.store target = .quiet station.store (.ok reading) := by
    show Dictionary.read station.store target false = _
    rw [← outcome]
    rfl
  rw [station.answer_of_order read]
  unfold obey conclude
  simp only [call, Call.quiet, Except.map, told]
  rfl

/-- The answer changes no entry and no session, and nothing is sent. -/
structure Kept (station : Station Dictionary) (answer : Answer Dictionary) : Prop where
  store : answer.station.store = station.store
  node : answer.station.node = station.node
  silent : Event.responses answer.events = []

/-- A line that writes an entry does so if the entry is there and its sizes allow it, and changes
nothing otherwise. -/
theorem answer_set (unobserved : station.store.observers = [])
    (read : Order.parse line = .ok (.set target data)) :
    let answer := station.answer line
    (∃ entry, station.store.find? target = some entry ∧ entry.Admits data ∧
        answer.station.store = station.store.set target data ∧
        answer.reply = .ok (Reply.text (.ok []))) ∨
      (¬ ∃ entry, station.store.find? target = some entry ∧ entry.Admits data) ∧
        ∃ status ≠ .noValue, answer.reply = .ok (Reply.text (.error (.refused status))) ∧
          station.Kept answer := by
  intro answer
  have carried : answer = _ := station.answer_of_order read
  have write : Server.download station.store target data =
      station.store.write target data false := rfl
  rcases station.store.write_cases target data false with
    ⟨kept, status, refused, outcome⟩ | ⟨entry, found, accepted, stores⟩
  · right
    refine ⟨?_, status, ?_, ?_⟩
    · rintro ⟨entry, found, admits⟩
      rw [Dictionary.write_of_accepted found (Dictionary.writeStatus_eq_ok_iff.mpr admits),
        Dictionary.store_unobserved unobserved] at outcome
      exact refused (Except.ok.inj outcome).symm
    · rintro rfl
      exact Dictionary.outcome_write_ne_noValue _ _ _ _ outcome
    · rw [carried]
      simp only [obey, conclude, write, kept, outcome, Except.map, writeReply_of_ne refused,
        true_and]
      exact ⟨rfl, rfl, Event.responses_ofCall _⟩
  · left
    rw [stores, Dictionary.store_unobserved unobserved] at write
    refine ⟨entry, found, Dictionary.writeStatus_eq_ok_iff.mp accepted, ?_⟩
    rw [carried]
    simp only [obey, conclude, write]
    exact ⟨rfl, rfl⟩

/-- What a line comes to: its reply, and what is left as it is. -/
inductive Told (station : Station Dictionary) (line : Text) : Reply → Prop
  | wrong {complaint : Complaint} (wrong : Order.parse line = .error complaint)
      (kept : station.Kept (station.answer line)) : Told station line (.error complaint)
  | get {target : Target} (read : Order.parse line = .ok (.get target))
      (kept : station.Kept (station.answer line)) :
      Told station line (station.store.consult target)
  | set {target : Target} {data : List UInt8} {entry : Entry}
      (read : Order.parse line = .ok (.set target data))
      (found : station.store.find? target = some entry) (admits : entry.Admits data)
      (stored : (station.answer line).station.store = station.store.set target data) :
      Told station line (.ok [])
  | refused {target : Target} {data : List UInt8} {status : Status}
      (read : Order.parse line = .ok (.set target data))
      (unfit : ¬ ∃ entry, station.store.find? target = some entry ∧ entry.Admits data)
      (other : status ≠ .noValue) (kept : station.Kept (station.answer line)) :
      Told station line (.error (.refused status))
  | abort {code : UInt32} (read : Order.parse line = .ok (.abort code))
      (kept : (station.answer line).station.store = station.store) : Told station line (.ok [])
  | idle {order : Order} {result : Text} (read : Order.parse line = .ok order)
      (idle : order.operations = []) (kept : station.Kept (station.answer line)) :
      Told station line (.ok result)

/-- **Every line is answered**, in one of these ways. -/
theorem exists_told (plain : station.store.Plain) (line : Text) :
    ∃ reply : Reply, (station.answer line).reply = .ok reply.text ∧ station.Told line reply := by
  cases read : Order.parse line with
  | error complaint =>
    obtain ⟨same, told, silent⟩ := station.answer_of_complaint read
    exact ⟨_, told, .wrong read ⟨congrArg store same, congrArg node same, silent⟩⟩
  | ok order =>
    have carried := station.answer_of_order read
    cases order with
    | get target =>
      have answered := answer_get plain.unsupplied read
      refine ⟨_, congrArg Answer.reply answered, .get read ?_⟩
      rw [answered]
      exact ⟨rfl, rfl, rfl⟩
    | set target data =>
      rcases answer_set plain.unobserved read with
        ⟨entry, found, admits, stored, told⟩ | ⟨unfit, status, other, told, kept⟩
      · exact ⟨_, told, .set read found admits stored⟩
      · exact ⟨_, told, .refused read unfit other kept⟩
    | abort code => exact ⟨_, congrArg Answer.reply carried, .abort read (carried ▸ rfl)⟩
    | quit => exact ⟨_, congrArg Answer.reply carried, .idle read rfl (carried ▸ ⟨rfl, rfl, rfl⟩)⟩
    | status => exact ⟨_, congrArg Answer.reply carried, .idle read rfl (carried ▸ ⟨rfl, rfl, rfl⟩)⟩
    | level level =>
      exact ⟨_, congrArg Answer.reply carried, .idle read rfl (carried ▸ ⟨rfl, rfl, rfl⟩)⟩

/-! ### What replies tell -/

namespace Told

variable {reply : Reply}

/-- A line is read as one order only. -/
theorem read_unique {order other : Order} (read : Order.parse line = .ok order)
    (reads : Order.Reads line.words other) : order = other :=
  Except.ok.inj (read.symm.trans (Order.parse_eq_ok_iff.mpr reads))

theorem not_reads {complaint : Complaint} (wrong : Order.parse line = .error complaint)
    (order : Order) : ¬ Order.Reads line.words order := fun reads =>
  absurd (wrong.symm.trans (Order.parse_eq_ok_iff.mpr reads)) nofun

/-- The keyword of a line is that of its order. -/
theorem keyword_eq {order : Order} (read : Order.parse line = .ok order) {word : Text}
    (first : line.words.head? = some word) : order.keyword = word :=
  Option.some.inj ((Order.parse_eq_ok_iff.mp read).head?.symm.trans first)

/-- A line that begins as one to read is one, or is told what is wrong with it. -/
theorem get_cases (told : station.Told line reply)
    (first : line.words.head? = some (Text.ofString "GET")) :
    (∃ complaint, Order.parse line = .error complaint ∧ reply = .error complaint) ∨
      ∃ target, Order.parse line = .ok (.get target) ∧ reply = station.store.consult target := by
  have get {order : Order} (read : Order.parse line = .ok order) : ∃ target, order = .get target :=
    Order.exists_get (keyword_eq read first)
  cases told with
  | wrong wrong kept => exact Or.inl ⟨_, wrong, rfl⟩
  | get read kept => exact Or.inr ⟨_, read, rfl⟩
  | set read found admits stored => exact absurd (get read) nofun
  | refused read unfit status kept => exact absurd (get read) nofun
  | abort read kept => exact absurd (get read) nofun
  | idle read idle kept =>
    obtain ⟨target, rfl⟩ := get read
    exact absurd idle (List.cons_ne_nil _ _)

/-- **A line that begins as one to read is told the value of its entry**, or that something is
wrong. -/
theorem tells (told : station.Told line reply)
    (first : line.words.head? = some (Text.ofString "GET")) :
    (Text.ofString "OK" <+: reply.text → (Reply.value? reply.text).isSome = true) ∧
      ∀ data, Reply.value? reply.text = some data ↔ ∃ target,
        Order.Reads line.words (.get target) ∧
          (station.store.find? target).bind Entry.value = some data := by
  rcases told.get_cases first with ⟨complaint, wrong, rfl⟩ | ⟨target, read, rfl⟩
  · refine ⟨fun met => absurd met (Reply.not_isPrefix_ok complaint), fun data => ?_⟩
    rw [Reply.value?_error]
    exact iff_of_false nofun fun ⟨target, reads, _⟩ => not_reads wrong _ reads
  · refine ⟨Dictionary.isSome_value?_consult _ _, fun data => ?_⟩
    rw [Dictionary.value?_consult]
    refine ⟨fun held => ⟨target, Order.parse_eq_ok_iff.mp read, held⟩, ?_⟩
    rintro ⟨place, reads, held⟩
    rw [Order.get.inj (read_unique read reads)]
    exact held

/-- **A missing value is told of exactly where there is none.** -/
theorem eq_noValue_iff (told : station.Told line reply) :
    reply.text = Text.ofString "ERR no value" ↔ ∃ target,
      Order.Reads line.words (.get target) ∧
        ∃ entry, station.store.find? target = some entry ∧ entry.value = none := by
  cases told with
  | @wrong complaint wrong kept =>
    refine iff_of_false (fun same => ?_) fun ⟨target, reads, _⟩ => not_reads wrong _ reads
    have about := Order.isAbout_words wrong
    rw [Except.error.inj (Reply.text_eq_noValue_iff.mp same)] at about
    exact about
  | @get target read kept =>
    rw [Dictionary.consult_eq_noValue_iff]
    refine ⟨fun unset => ⟨target, Order.parse_eq_ok_iff.mp read, unset⟩, ?_⟩
    rintro ⟨place, reads, unset⟩
    rw [Order.get.inj (read_unique read reads)]
    exact unset
  | set read found admits stored =>
    refine iff_of_false (by decide) fun ⟨target, reads, _⟩ => ?_
    exact absurd (read_unique read reads) nofun
  | refused read unfit other kept =>
    refine iff_of_false (fun same => ?_) fun ⟨target, reads, _⟩ => ?_
    · exact other (Complaint.refused.inj (Except.error.inj (Reply.text_eq_noValue_iff.mp same)))
    · exact absurd (read_unique read reads) nofun
  | abort read kept =>
    refine iff_of_false (by decide) fun ⟨target, reads, _⟩ => ?_
    exact absurd (read_unique read reads) nofun
  | idle read idle kept =>
    refine iff_of_false (fun same => ?_) fun ⟨target, reads, _⟩ => ?_
    · exact absurd (Reply.text_eq_noValue_iff.mp same) nofun
    · rw [read_unique read reads] at idle
      exact absurd idle (List.cons_ne_nil _ _)

/-- **A line that begins as one to write succeeds exactly if it can.** -/
theorem eq_ok_iff (told : station.Told line reply)
    (first : line.words.head? = some (Text.ofString "SET")) :
    reply.text = Text.ofString "OK" ↔ ∃ target data,
      Order.Reads line.words (.set target data) ∧
        ∃ entry, station.store.find? target = some entry ∧ entry.Admits data := by
  have set {order : Order} (read : Order.parse line = .ok order) :
      ∃ target data, order = .set target data := Order.exists_set (keyword_eq read first)
  cases told with
  | @wrong complaint wrong kept =>
    refine iff_of_false (Reply.text_error_ne_ok complaint) ?_
    exact fun ⟨target, data, reads, _⟩ => not_reads wrong _ reads
  | get read kept => exact absurd (set read) nofun
  | @set target data entry read found admits stored =>
    exact iff_of_true rfl ⟨target, data, Order.parse_eq_ok_iff.mp read, entry, found, admits⟩
  | refused read unfit other kept =>
    refine iff_of_false (Reply.text_error_ne_ok _) fun ⟨target, data, reads, fits⟩ => ?_
    obtain ⟨rfl, rfl⟩ := Order.set.inj (read_unique read reads)
    exact unfit fits
  | abort read kept => exact absurd (set read) nofun
  | idle read idle kept =>
    obtain ⟨target, data, rfl⟩ := set read
    exact absurd idle (List.cons_ne_nil _ _)

/-- **Whatever is refused changes nothing**, and so does every line but one to write or to abort. -/
theorem kept (told : station.Told line reply)
    (spared : Text.ofString "ERR" <+: reply.text ∨
      ∃ word ∈ ["GET", "STATUS", "LEVEL", "QUIT"],
        line.words.head? = some (Text.ofString word)) :
    station.Kept (station.answer line) := by
  have changes {order : Order} (read : Order.parse line = .ok order)
      (other : order.keyword ∉ ["GET", "STATUS", "LEVEL", "QUIT"].map Text.ofString) :
      Text.ofString "ERR" <+: reply.text := by
    refine spared.resolve_right ?_
    rintro ⟨word, member, first⟩
    exact other (keyword_eq read first ▸ List.mem_map_of_mem member)
  cases told with
  | wrong wrong kept => exact kept
  | get read kept => exact kept
  | set read found admits stored =>
    exact absurd (changes read (by rw [Order.keyword]; decide)) (by decide)
  | refused read unfit other kept => exact kept
  | abort read kept =>
    exact absurd (changes read (by rw [Order.keyword]; decide)) (by decide)
  | idle read idle kept => exact kept

end Told

/-! ### Lines in order -/

/-- The setting that a line makes and is told so. -/
def made (station : Station Dictionary) (line : Text) : Option (Target × List UInt8) :=
  if (station.answer line).reply.toOption = some (Text.ofString "OK") then
    (Order.parse line).toOption.bind Order.setting?
  else none

/-- The settings that lines make and are told so, in order. -/
def settings (station : Station Dictionary) : List Text → List (Target × List UInt8)
  | [] => []
  | line :: later => (station.made line).toList ++ (station.answer line).station.settings later

/-- The value that an entry should have behind lines: that of the last setting, and the one that it
began with if there is none. -/
def register (station : Station Dictionary) (lines : List Text) (target : Target) :
    Option (List UInt8) :=
  ((station.settings lines).reverse.lookup target).or
    ((station.store.find? target).bind Entry.value)

/-- A line that asks for no setting makes none. -/
theorem made_of_order {order : Order} (read : Order.parse line = .ok order)
    (unset : order.setting? = none) : station.made line = none := by
  rw [made, read]
  exact (if_congr Iff.rfl unset rfl).trans (ite_self none)

/-- A line that is told an error makes no setting. -/
theorem made_of_complaint {complaint : Complaint}
    (told : (station.answer line).reply = .ok (Reply.text (.error complaint))) :
    station.made line = none := by
  rw [made, told]
  exact if_neg fun same => Reply.text_error_ne_ok complaint (Option.some.inj same)

/-- **A line leaves the dictionary as it is, or makes a setting** of an entry that is there. -/
theorem answer_cases (plain : station.store.Plain) (line : Text) :
    (station.answer line).station.store = station.store ∧ station.made line = none ∨
      ∃ target data entry, station.store.find? target = some entry ∧
        (station.answer line).station.store = station.store.set target data ∧
        station.made line = some (target, data) := by
  obtain ⟨reply, answered, told⟩ := exists_told plain line
  cases told with
  | wrong wrong kept => exact Or.inl ⟨kept.store, made_of_complaint answered⟩
  | get read kept => exact Or.inl ⟨kept.store, made_of_order read rfl⟩
  | @set target data entry read found admits stored =>
    refine Or.inr ⟨target, data, entry, found, stored, ?_⟩
    rw [made, answered, read]
    rfl
  | refused read unfit other kept => exact Or.inl ⟨kept.store, made_of_complaint answered⟩
  | abort read kept => exact Or.inl ⟨kept, made_of_order read rfl⟩
  | @idle order result read idle kept =>
    refine Or.inl ⟨kept.store, made_of_order read ?_⟩
    cases order with
    | set target data => exact absurd idle (List.cons_ne_nil _ _)
    | _ => rfl

/-- The first of some lines comes before all others. -/
theorem register_cons (station : Station Dictionary) (line : Text) (later : List Text)
    (target : Target) :
    station.register (line :: later) target =
      (((station.answer line).station.settings later).reverse.lookup target).or
        (((station.made line).toList.lookup target).or
          ((station.store.find? target).bind Entry.value)) := by
  have single : (station.made line).toList.reverse = (station.made line).toList := by
    cases station.made line <;> rfl
  rw [register, settings, List.reverse_append, List.lookup_append, single, Option.or_assoc]

/-- **Behind lines every entry has the value of its register**, and is as it was in all else. -/
theorem find?_run (station : Station Dictionary) (plain : station.store.Plain)
    (lines : List Text) :
    let reached := (station.run (lines.map Input.line)).1
    reached.store.Plain ∧ ∀ target, reached.store.find? target =
      (station.store.find? target).map fun entry =>
        { entry with value := station.register lines target } := by
  induction lines generalizing station with
  | nil =>
    refine ⟨plain, fun target => ?_⟩
    show station.store.find? target = _
    cases found : station.store.find? target with
    | none => rfl
    | some entry =>
      rw [register, found]
      rfl
  | cons line later ih =>
    rcases answer_cases plain line with
      ⟨kept, unmade⟩ | ⟨place, data, entry, found, stored, made⟩
    · obtain ⟨still, rest⟩ := ih (station.answer line).station (kept ▸ plain)
      refine ⟨still, fun target => (rest target).trans ?_⟩
      rw [register_cons, unmade, register, kept]
      rfl
    · obtain ⟨still, rest⟩ := ih (station.answer line).station (stored ▸ plain.set place data)
      refine ⟨still, fun target => (rest target).trans ?_⟩
      rw [register_cons, made, register, stored, Dictionary.find?_set]
      by_cases here : target = place
      · subst here
        rw [if_pos rfl, found]
        simp
      · rw [if_neg here]
        have elsewhere : (target == place) = false := beq_eq_false_iff_ne.mpr here
        simp [List.lookup_cons, elsewhere]

/-- **The console is a register map.** A line that comes behind others to a station without
callbacks is always answered. If it is to read an entry, every answer with `OK` tells the value that
the last line to set the entry was told to have set, in whatever digits either of them writes its
numbers, and the initial value if there is none; it is told that there is no value exactly if the
entry is there with neither. If it is to write an entry, it is told `OK` exactly if it has four
words with valid numbers and octets, and the entry is there and its sizes allow the value. A line
that is told an error, or that is not to write or abort, changes no entry and no session, and no
frame is sent. -/
theorem answer_registers {station : Station Dictionary} (plain : station.store.Plain)
    (lines : List Text) (line : Text) :
    let reached := (station.run (lines.map Input.line)).1
    let answer := reached.answer line
    let first := line.words.head?
    ∃ reply, answer.reply = .ok reply ∧
      (first = some (Text.ofString "GET") →
        (Text.ofString "OK" <+: reply → (Reply.value? reply).isSome = true) ∧
        ∀ data, Reply.value? reply = some data ↔
          ∃ target, Order.Reads line.words (.get target) ∧
            (station.store.find? target).isSome = true ∧
            station.register lines target = some data) ∧
      (reply = Text.ofString "ERR no value" ↔
        ∃ target, Order.Reads line.words (.get target) ∧
          (station.store.find? target).isSome = true ∧ station.register lines target = none) ∧
      (first = some (Text.ofString "SET") →
        (reply = Text.ofString "OK" ↔
          ∃ target data, Order.Reads line.words (.set target data) ∧
            ∃ entry, station.store.find? target = some entry ∧ entry.Admits data)) ∧
      (Text.ofString "ERR" <+: reply ∨
          (∃ word ∈ ["GET", "STATUS", "LEVEL", "QUIT"], first = some (Text.ofString word)) →
        answer.station.store = reached.store ∧ answer.station.node = reached.node ∧
          reached.node.server.frames answer.events = []) := by
  intro reached answer first
  obtain ⟨still, entries⟩ := find?_run station plain lines
  obtain ⟨reply, answered, told⟩ := exists_told still line
  have value (target : Target) (data : List UInt8) :
      (reached.store.find? target).bind Entry.value = some data ↔
        (station.store.find? target).isSome = true ∧
          station.register lines target = some data := by
    rw [entries target]
    cases station.store.find? target with
    | none => exact iff_of_false nofun fun held => absurd held.1 Bool.false_ne_true
    | some entry => exact (and_iff_right rfl).symm
  have missing (target : Target) :
      (∃ entry, reached.store.find? target = some entry ∧ entry.value = none) ↔
        (station.store.find? target).isSome = true ∧ station.register lines target = none := by
    rw [entries target]
    cases station.store.find? target with
    | none => exact iff_of_false nofun fun held => absurd held.1 Bool.false_ne_true
    | some entry => simp
  have fits (target : Target) (data : List UInt8) :
      (∃ entry, reached.store.find? target = some entry ∧ entry.Admits data) ↔
        ∃ entry, station.store.find? target = some entry ∧ entry.Admits data := by
    rw [entries target]
    cases station.store.find? target with
    | none => exact iff_of_false nofun nofun
    | some entry => simp [Entry.admits_value]
  refine ⟨reply.text, answered, fun get => ?_, ?_, fun set => ?_, fun spared => ?_⟩
  · obtain ⟨known, tells⟩ := told.tells get
    refine ⟨known, fun data => (tells data).trans ?_⟩
    exact exists_congr fun target => and_congr_right fun _ => value target data
  · refine told.eq_noValue_iff.trans ?_
    exact exists_congr fun target => and_congr_right fun _ => missing target
  · refine (told.eq_ok_iff set).trans ?_
    exact exists_congr fun target => exists_congr fun data =>
      and_congr_right fun _ => fits target data
  · obtain ⟨store, node, silent⟩ := told.kept spared
    refine ⟨store, node, ?_⟩
    rw [Server.frames, silent, List.map_nil]

/-- An entry for one octet is set in hexadecimal, a longer value is refused, and the entry is read
with its numbers in octal. -/
theorem answer_registers_octal :
    let station : Station Dictionary :=
      ⟨.new 1, ⟨[(⟨0x2000, 1⟩, ⟨[], .constant, 1, 0, none⟩)], [], []⟩, .info⟩
    let lines := ["SET 0x2000 0x1 0A", "SET 8192 1 0b0c", "SET 8192 1"].map Text.ofString
    let reached := (station.run (lines.map Input.line)).1
    ∃ reply, (reached.answer (Text.ofString " GET 020000 01 ")).reply = .ok reply ∧
      Reply.value? reply = some [10] := by
  intro station lines reached
  have plain : station.store.Plain := ⟨rfl, rfl⟩
  obtain ⟨reply, answered, get, -⟩ :=
    answer_registers plain lines (Text.ofString " GET 020000 01 ")
  refine ⟨reply, answered, ((get (by decide)).2 [10]).mpr ⟨⟨0x2000, 1⟩, ?_, rfl, by decide⟩⟩
  exact Order.parse_eq_ok_iff.mp (by decide)

end Station

end Canopen

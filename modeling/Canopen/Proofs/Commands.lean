/-
**What the tool accepts, the console carries out.**

* `Tool.Sends`: the words that a command sends with its arguments, and what the tool takes them for.
* `Tool.Command.compose_eq_ok_iff`: **a command is accepted exactly if it is in this grammar.**
* `Text.arrives`: a word of a line that is read as it was meant: it is not empty, and no sign stands
  behind the blanks in front of it.
* `Tool.Sends.parse`: **the console reads a line as what the tool takes it for** exactly if all its
  words arrive.
* `Tool.prepare_carriedOut`: the same from the arguments of the tool to what the console does.
-/

import Canopen.Proofs.Lines
import Canopen.Tool

namespace Canopen

/-! ### Words on their way -/

/-- The word is not empty, and no sign stands behind the blanks in front of it. -/
def Text.arrives (word : Text) : Bool := !word.isEmpty && !Numeral.isSigned word

/-- Without the blanks in front of its words, a target is the same, unless a number of it is
signed. -/
theorem Target.parse?_dropWhile {index subindex : Text} {target : Target}
    (whole : Text.nul ∉ index) (full : Text.nul ∉ subindex)
    (named : target.IsNamed index subindex) :
    parse? (index.dropWhile Text.isBlank) (subindex.dropWhile Text.isBlank) =
      if Numeral.isSigned index || Numeral.isSigned subindex then none else some target := by
  have first := Numeral.parse?_dropWhile whole named.index
  have second := Numeral.parse?_dropWhile full named.subindex
  cases signed : Numeral.isSigned index with
  | true =>
    rw [parse?, first, signed]
    rfl
  | false =>
    rw [signed] at first
    cases other : Numeral.isSigned subindex with
    | true =>
      rw [parse?, first, second, other]
      rfl
    | false =>
      rw [other] at second
      exact parse?_eq_some_iff.mpr ⟨first, second⟩

/-- Without the blanks in front of it, an abort code is the same, unless it is signed. -/
theorem Abort.parse?_dropWhile {word : Text} {code : UInt32} (whole : Text.nul ∉ word)
    (named : parse? word = some code) :
    parse? (word.dropWhile Text.isBlank) =
      if Numeral.isSigned word then none else some code := by
  obtain ⟨number, reads, rfl⟩ := Option.map_eq_some_iff.mp named
  rw [parse?, Numeral.parse?_dropWhile whole reads]
  exact apply_ite (Option.map UInt32.ofNat) _ _ _

theorem Hex.isSigned_of_decode? {text : Text} {octets : List UInt8}
    (reads : decode? text = some octets) : Numeral.isSigned text = false := by
  have spells := decode?_eq_some_iff.mp reads
  cases text with
  | nil => rfl
  | cons octet rest =>
    obtain ⟨solid, minus, plus, -⟩ :=
      Numeral.plain_of_isDigit (spells.isDigit (le_refl 16) octet List.mem_cons_self)
    rw [Numeral.isSigned, List.dropWhile_cons_of_neg (Bool.eq_false_iff.mp solid)]
    show (octet == 45 || octet == 43) = false
    rw [beq_eq_false_iff_ne.mpr minus, beq_eq_false_iff_ne.mpr plus]
    rfl

/-- A text that is read as octets is one word, unless it is empty. -/
theorem Hex.words_of_decode? {text : Text} {octets : List UInt8}
    (reads : decode? text = some octets) : text.words = if text = [] then [] else [text] := by
  split
  · next empty =>
    rw [empty]
    rfl
  · next nonempty => exact Text.IsWord.words_eq ⟨nonempty, solid_of_decode? reads⟩

/-- Framing makes no difference to the order in a line. -/
theorem Order.parse_lineOf {line : Text} (whole : Text.newline ∉ line) :
    parse (Exchange.lineOf line) = parse line := by
  rw [parse, Exchange.lineOf_eq_dropReturn whole, Text.words_dropReturn, parse]

namespace Tool

/-! ### What is accepted -/

/-- The words that a command sends with its arguments, and what the tool takes these for. -/
inductive Sends : Command → List Text → List Text → Order → Prop
  | get {index subindex : Text} {target : Target} (named : target.IsNamed index subindex) :
      Sends .get [index, subindex] [Text.ofString "GET", index, subindex] (.get target)
  | set {index subindex hex : Text} {target : Target} {data : List UInt8}
      (named : target.IsNamed index subindex) (reads : Hex.decode? hex = some data) :
      Sends .set [index, subindex, hex] [Text.ofString "SET", index, subindex, hex]
        (.set target data)
  | abort {word : Text} {code : UInt32} (named : Abort.parse? word = some code) :
      Sends .abort [word] [Text.ofString "ABORT", word] (.abort code)
  | status (arguments : List Text) : Sends .status arguments [Text.ofString "STATUS"] .status
  | level {word : Text} {level : Level} (chosen : word.lower ∈ levelNames)
      (named : Level.ofName? word.lower = some level) :
      Sends .level [word] [Text.ofString "LEVEL", word.lower] (.level level)
  | quit (arguments : List Text) : Sends .quit arguments [Text.ofString "QUIT"] .quit

theorem checkTarget_eq_ok_iff {index subindex : Text} :
    checkTarget index subindex = .ok () ↔ ∃ target : Target, target.IsNamed index subindex := by
  simp only [← Target.parse?_eq_some_iff, ← Option.isSome_iff_exists, checkTarget, Target.parse?]
  cases Numeral.parse? index 0xFFFF with
  | none => simp
  | some first => cases Numeral.parse? subindex 0xFF <;> simp

theorem exists_named_of_bind {index subindex line : Text} {next : Except Rejection Text}
    (accepted : (do checkTarget index subindex; next) = .ok line) :
    (∃ target : Target, target.IsNamed index subindex) ∧ next = .ok line := by
  cases checked : checkTarget index subindex with
  | error rejection =>
    rw [checked] at accepted
    exact absurd accepted nofun
  | ok _ =>
    rw [checked] at accepted
    exact ⟨checkTarget_eq_ok_iff.mp checked, accepted⟩

theorem isSome_of_mem_levelNames : ∀ name ∈ levelNames, (Level.ofName? name).isSome = true := by
  decide

section Accepted

variable {arguments : List Text} {line : Text}

theorem sends_of_composeGet (accepted : composeGet arguments = .ok line) :
    ∃ words order, Sends .get arguments words order ∧ line = join words := by
  unfold composeGet at accepted
  split at accepted
  · obtain ⟨⟨target, named⟩, sent⟩ := exists_named_of_bind accepted
    exact ⟨_, _, .get named, (Except.ok.inj sent).symm⟩
  · exact absurd accepted nofun

theorem sends_of_composeSet (accepted : composeSet arguments = .ok line) :
    ∃ words order, Sends .set arguments words order ∧ line = join words := by
  unfold composeSet at accepted
  split at accepted
  · obtain ⟨⟨target, named⟩, sent⟩ := exists_named_of_bind accepted
    split at sent
    · exact absurd sent nofun
    · next decodes =>
      obtain ⟨data, decodes⟩ :=
        Option.ne_none_iff_exists'.mp (mt Option.isNone_iff_eq_none.mpr decodes)
      exact ⟨_, _, .set named decodes, (Except.ok.inj sent).symm⟩
  · exact absurd accepted nofun

theorem sends_of_composeAbort (accepted : composeAbort arguments = .ok line) :
    ∃ words order, Sends .abort arguments words order ∧ line = join words := by
  unfold composeAbort at accepted
  split at accepted
  · split at accepted
    · exact absurd accepted nofun
    · next named =>
      obtain ⟨code, named⟩ :=
        Option.ne_none_iff_exists'.mp (mt Option.isNone_iff_eq_none.mpr named)
      exact ⟨_, _, .abort named, (Except.ok.inj accepted).symm⟩
  · exact absurd accepted nofun

theorem sends_of_composeLevel (accepted : composeLevel arguments = .ok line) :
    ∃ words order, Sends .level arguments words order ∧ line = join words := by
  unfold composeLevel at accepted
  split at accepted
  · split at accepted
    · next chosen =>
      obtain ⟨level, named⟩ := Option.isSome_iff_exists.mp (isSome_of_mem_levelNames _ chosen)
      exact ⟨_, _, .level chosen named, (Except.ok.inj accepted).symm⟩
    · exact absurd accepted nofun
  · exact absurd accepted nofun

end Accepted

/-- **A command is accepted exactly if it is in the grammar**, and then it sends its words. -/
theorem Command.compose_eq_ok_iff {command : Command} {arguments : List Text} {line : Text} :
    command.compose arguments = .ok line ↔
      ∃ words order, Sends command arguments words order ∧ line = join words := by
  constructor
  · intro accepted
    cases command with
    | get => exact sends_of_composeGet accepted
    | set => exact sends_of_composeSet accepted
    | abort => exact sends_of_composeAbort accepted
    | status => exact ⟨_, _, .status arguments, (Except.ok.inj accepted).symm⟩
    | level => exact sends_of_composeLevel accepted
    | quit => exact ⟨_, _, .quit arguments, (Except.ok.inj accepted).symm⟩
  · rintro ⟨words, order, sends, rfl⟩
    cases sends with
    | get named =>
      rw [compose, composeGet, checkTarget_eq_ok_iff.mpr ⟨_, named⟩]
      rfl
    | set named reads =>
      rw [compose, composeSet, checkTarget_eq_ok_iff.mpr ⟨_, named⟩, reads]
      rfl
    | abort named =>
      rw [compose, composeAbort, named]
      rfl
    | status => rfl
    | level chosen named => rw [compose, composeLevel, if_pos chosen]
    | quit => rfl

/-! ### What arrives -/

/-- What the console complains of if not all words of a command arrive. -/
def Command.misread : Command → List Text → Complaint
  | abort, [word] => .abortCode (word.dropWhile Text.isBlank)
  | set, [_, _, []] => .setUsage
  | _, _ => .target

theorem arrives_of_parse? {word : Text} {greatest number : Nat}
    (reads : Numeral.parse? word greatest = some number) :
    word.arrives = !Numeral.isSigned word := by
  cases word with
  | nil => exact absurd reads nofun
  | cons octet rest => rfl

theorem arrives_of_decode? {word : Text} {octets : List UInt8}
    (reads : Hex.decode? word = some octets) : word.arrives = !word.isEmpty := by
  rw [Text.arrives, Hex.isSigned_of_decode? reads]
  exact Bool.and_true _

section Lines

variable {index subindex hex word : Text} {target : Target} {data : List UInt8} {code : UInt32}

theorem parse_get (whole : Text.nul ∉ index) (full : Text.nul ∉ subindex)
    (named : target.IsNamed index subindex) :
    Order.parse (join [Text.ofString "GET", index, subindex]) =
      if Numeral.isSigned index || Numeral.isSigned subindex then .error .target
      else .ok (.get target) := by
  have words : Text.words (join [Text.ofString "GET", index, subindex]) =
      [Text.ofString "GET", index.dropWhile Text.isBlank, subindex.dropWhile Text.isBlank] := by
    rw [join, Text.words_join]
    simp only [List.flatMap_cons, List.flatMap_nil, Numeral.words_of_parse? whole named.index,
      Numeral.words_of_parse? full named.subindex]
    rfl
  have reads := Target.parse?_dropWhile whole full named
  rw [Order.parse, words]
  show Order.parseGet [_, _] = _
  rw [Order.parseGet, reads]
  cases Numeral.isSigned index || Numeral.isSigned subindex <;> rfl

theorem parse_set (whole : Text.nul ∉ index) (full : Text.nul ∉ subindex)
    (named : target.IsNamed index subindex) (decodes : Hex.decode? hex = some data) :
    Order.parse (join [Text.ofString "SET", index, subindex, hex]) =
      if hex = [] then .error .setUsage
      else if Numeral.isSigned index || Numeral.isSigned subindex then .error .target
      else .ok (.set target data) := by
  have words : Text.words (join [Text.ofString "SET", index, subindex, hex]) =
      Text.ofString "SET" :: index.dropWhile Text.isBlank :: subindex.dropWhile Text.isBlank ::
        if hex = [] then [] else [hex] := by
    rw [join, Text.words_join]
    simp only [List.flatMap_cons, List.flatMap_nil, Numeral.words_of_parse? whole named.index,
      Numeral.words_of_parse? full named.subindex, Hex.words_of_decode? decodes, List.append_nil]
    rfl
  have reads := Target.parse?_dropWhile whole full named
  rw [Order.parse, words]
  show Order.parseSet (_ :: _ :: _) = _
  split
  · rfl
  · rw [Order.parseSet, reads, decodes]
    cases Numeral.isSigned index || Numeral.isSigned subindex <;> rfl

theorem parse_abort (whole : Text.nul ∉ word) (named : Abort.parse? word = some code) :
    Order.parse (join [Text.ofString "ABORT", word]) =
      if Numeral.isSigned word then .error (.abortCode (word.dropWhile Text.isBlank))
      else .ok (.abort code) := by
  obtain ⟨number, reads, -⟩ := Option.map_eq_some_iff.mp named
  have words : Text.words (join [Text.ofString "ABORT", word]) =
      [Text.ofString "ABORT", word.dropWhile Text.isBlank] := by
    rw [join, Text.words_join]
    simp only [List.flatMap_cons, List.flatMap_nil, Numeral.words_of_parse? whole reads]
    rfl
  rw [Order.parse, words]
  show Order.parseAbort [_] = _
  rw [Order.parseAbort, Abort.parse?_dropWhile whole named]
  cases Numeral.isSigned word <;> rfl

end Lines

/-- The order to change the level arrives, whichever it is. -/
theorem parse_level : ∀ name ∈ levelNames,
    [Text.ofString "LEVEL", name].all Text.arrives = true ∧
      Order.parse (join [Text.ofString "LEVEL", name]) = Order.parseLevel [name] := by
  decide

/-- **The console reads a line as what the tool takes it for** if all its words arrive; if not, it
complains. -/
theorem Sends.parse {command : Command} {arguments words : List Text} {order : Order}
    (sends : Sends command arguments words order)
    (whole : ∀ argument ∈ arguments, Text.nul ∉ argument) :
    Order.parse (join words) =
      if words.all Text.arrives then .ok order else .error (command.misread arguments) := by
  cases sends with
  | @get index subindex target named =>
    simp only [List.forall_mem_cons] at whole
    rw [parse_get whole.1 whole.2.1 named]
    simp only [List.all_cons, List.all_nil, arrives_of_parse? named.index,
      arrives_of_parse? named.subindex]
    cases Numeral.isSigned index <;> cases Numeral.isSigned subindex <;> rfl
  | @set index subindex hex target data named reads =>
    simp only [List.forall_mem_cons] at whole
    rw [parse_set whole.1 whole.2.1 named reads]
    simp only [List.all_cons, List.all_nil, arrives_of_parse? named.index,
      arrives_of_parse? named.subindex, arrives_of_decode? reads]
    cases hex <;> cases Numeral.isSigned index <;> cases Numeral.isSigned subindex <;> rfl
  | @abort word code named =>
    obtain ⟨number, reads, -⟩ := Option.map_eq_some_iff.mp named
    rw [List.forall_mem_singleton] at whole
    rw [parse_abort whole named]
    simp only [List.all_cons, List.all_nil, arrives_of_parse? reads]
    cases Numeral.isSigned word <;> rfl
  | status arguments => rfl
  | level chosen named =>
    obtain ⟨all, reads⟩ := parse_level _ chosen
    rw [reads, Order.parseLevel, named, if_pos all]
  | quit arguments => rfl

/-! ### From the arguments -/

/-- Options leave words that were given. -/
theorem mem_of_options {path found : Option Text} {words arguments kept : List Text}
    (runs : options path words arguments = .run found kept) :
    ∀ word ∈ kept, word ∈ words ∨ word ∈ arguments := by
  induction path, words, arguments using options.induct with
  | case1 path words =>
    obtain ⟨-, rfl⟩ := Options.run.inj runs
    exact fun word member => Or.inl member
  | case2 path words only helps =>
    rw [options, if_pos helps] at runs
    exact absurd runs nofun
  | case3 path words only plain =>
    rw [options, if_neg plain] at runs
    obtain ⟨-, rfl⟩ := Options.run.inj runs
    exact fun word member => List.mem_append.mp member
  | case4 path words first next rest helps =>
    rw [options, if_pos helps] at runs
    exact absurd runs nofun
  | case5 path words next rest plain ih =>
    rw [options, if_neg plain, if_pos rfl] at runs
    exact fun word member => (ih runs word member).imp_right fun later =>
      List.mem_cons_of_mem _ (List.mem_cons_of_mem _ later)
  | case6 path words first next rest plain other ih =>
    rw [options, if_neg plain, if_neg other] at runs
    intro word member
    rcases ih runs word member with early | later
    · exact (List.mem_append.mp early).imp_right fun last =>
        List.mem_cons.mpr (Or.inl (List.mem_singleton.mp last))
    · exact Or.inr (List.mem_cons_of_mem _ later)

theorem checkLine_eq_ok_iff {line checked : Text} :
    checkLine line = .ok checked ↔ line = checked ∧ Text.newline ∉ line := by
  unfold checkLine
  split
  · next ends => exact iff_of_false nofun fun both => both.2 ends
  · next whole => exact ⟨fun same => ⟨Except.ok.inj same, whole⟩, fun both => congrArg _ both.1⟩

/-- A line that is sent holds the words of a command that is accepted, and no line feed. -/
theorem exists_sends_of_compose {name line : Text} {arguments : List Text}
    (accepted : (compose name arguments).2 = .ok line) :
    ∃ command words order, Command.ofName? name = some command ∧
      Sends command arguments words order ∧ line = join words ∧ Text.newline ∉ line := by
  unfold compose at accepted
  split at accepted
  · exact absurd accepted nofun
  · next command found =>
    cases composed : command.compose arguments with
    | error rejection =>
      rw [composed] at accepted
      exact absurd accepted nofun
    | ok sent =>
      rw [composed] at accepted
      obtain ⟨rfl, whole⟩ := checkLine_eq_ok_iff.mp accepted
      obtain ⟨words, order, sends, same⟩ := Command.compose_eq_ok_iff.mp composed
      exact ⟨command, words, order, found, sends, same, whole⟩

theorem exists_options_of_prepare {environment : Environment} {arguments : List Text}
    {path line : Text} {remarks : List Remark}
    (asks : prepare environment arguments = .ask path line remarks) :
    ∃ given name rest, options none [] (arguments.map Text.cut) = .run given (name :: rest) ∧
      (compose name rest).2 = .ok line := by
  unfold prepare at asks
  split at asks
  · next given name rest left =>
    refine ⟨given, name, rest, left, ?_⟩
    simp only at asks
    split at asks
    · next sent composed =>
      obtain ⟨-, rfl, -⟩ := Preparation.ask.inj asks
      exact composed
    · exact absurd asks nofun
  · exact absurd asks nofun
  · exact absurd asks nofun

/-- **What the tool accepts, the console carries out.** A line that the tool sends has the words of
a command that it accepts. If all of them arrive, however the line is cut on its way, the console
carries out the order that the tool takes the arguments for. Otherwise a number is signed behind
blanks or a value is empty; the console complains of that, and does nothing. -/
theorem prepare_carriedOut {σ : Type} [Store σ] {environment : Environment}
    {arguments : List Text} {path line : Text} {remarks : List Remark}
    (asks : prepare environment arguments = .ask path line remarks) (station : Station σ) :
    ∃ given name rest command words order,
      options none [] (arguments.map Text.cut) = .run given (name :: rest) ∧
        Command.ofName? name = some command ∧ Sends command rest words order ∧
        line = join words ∧
        ∀ arrived, Exchange.Carries (Exchange.request line) arrived →
          let received := Exchange.gather [] arrived
          let answer := station.answer received
          (words.all Text.arrives = true →
            Order.parse received = .ok order ∧
              answer = { station.obey order with
                events := .note (.orderReceived received) :: (station.obey order).events }) ∧
          (words.all Text.arrives = false →
            Order.parse received = .error (command.misread rest) ∧ answer.station = station ∧
              answer.reply = .ok (Reply.text (.error (command.misread rest))) ∧
              Event.responses answer.events = []) := by
  obtain ⟨given, name, rest, left, composed⟩ := exists_options_of_prepare asks
  obtain ⟨command, words, order, found, sends, rfl, whole⟩ := exists_sends_of_compose composed
  have clean : ∀ argument ∈ rest, Text.nul ∉ argument := by
    intro argument member
    rcases mem_of_options left argument (List.mem_cons_of_mem _ member) with early | given
    · exact absurd early List.not_mem_nil
    · obtain ⟨text, -, rfl⟩ := List.mem_map.mp given
      exact text.nul_notMem_cut
  refine ⟨given, name, rest, command, words, order, left, found, sends, rfl,
    fun arrived carries => ?_⟩
  intro received answer
  have gathered : received = Exchange.lineOf (join words) := by
    rw [← Exchange.lineOf_request]
    exact carries.gather
  have read : Order.parse received = _ :=
    gathered ▸ (Order.parse_lineOf whole).trans (sends.parse clean)
  refine ⟨fun arrive => ?_, fun lost => ?_⟩
  · rw [if_pos arrive] at read
    exact ⟨read, station.answer_of_order read⟩
  · rw [if_neg (Bool.eq_false_iff.mp lost)] at read
    exact ⟨read, station.answer_of_complaint read⟩

/-- Blanks in front of a number get lost on the way, and the number does not. -/
theorem prepare_carriedOut_blank :
    let arguments := ["--sock", "ctl.sock", "get", " 0x2000", "1"].map Text.ofString
    let line := Text.ofString "GET  0x2000 1"
    prepare .empty arguments =
        .ask (Text.ofString "ctl.sock") line [.notice (.running (Text.ofString "get"))] ∧
      Order.parse (Exchange.gather [] [Exchange.request line]) = .ok (.get ⟨0x2000, 1⟩) := by
  intro arguments line
  have asks : prepare .empty arguments =
      .ask (Text.ofString "ctl.sock") line [.notice (.running (Text.ofString "get"))] := rfl
  let station : Station Dictionary := ⟨.new 1, .empty, .info⟩
  obtain ⟨given, name, rest, command, words, order, left, found, sends, -, carried⟩ :=
    prepare_carriedOut asks station
  obtain ⟨-, same⟩ := Options.run.inj left
  obtain ⟨rfl, rfl⟩ := List.cons.inj same
  obtain rfl : Command.get = command := Option.some.inj found
  cases sends with
  | @get _ _ target named =>
    obtain rfl : ⟨0x2000, 1⟩ = target := Option.some.inj (Target.parse?_eq_some_iff.mpr named)
    exact ⟨asks, ((carried _ ⟨[], rfl⟩).1 (by decide)).1⟩

/-- **Not all that the tool accepts is carried out.** It accepts a number with a plus behind a
blank, and the console does not. -/
theorem prepare_not_always_carriedOut :
    ¬ ∀ (environment : Environment) (arguments : List Text) (path line : Text)
      (remarks : List Remark), prepare environment arguments = .ask path line remarks →
        ∃ order, Order.parse (Exchange.gather [] [Exchange.request line]) = .ok order := by
  intro always
  have asks : prepare .empty (["--sock", "ctl.sock", "get", " +8192", "1"].map Text.ofString) =
      .ask (Text.ofString "ctl.sock") (Text.ofString "GET  +8192 1")
        [.notice (.running (Text.ofString "get"))] := rfl
  obtain ⟨order, read⟩ := always _ _ _ _ _ asks
  have received : Exchange.gather [] [Exchange.request (Text.ofString "GET  +8192 1")] =
      Text.ofString "GET  +8192 1" := rfl
  rw [received] at read
  have complains : Order.parse (Text.ofString "GET  +8192 1") = .error .target := rfl
  exact absurd (complains.symm.trans read) nofun

end Tool

end Canopen

/-
**What the exit code of the tool tells.**

* `Exchange.recorded`: what answers lines, with the lines that it got.
* `Places.IsReached`: a path leads to a socket, so somebody is there.
* `Tool.Leaves`: what is left of arguments, whose options may stand anywhere: the last path given,
  and the words.
* `Tool.Accepts`: the arguments are accepted, with the path and the line that they come to.
* `Tool.prepare_eq_ask_iff`: **the service is asked exactly if the arguments are accepted.**
* `Tool.Accepts.arrives`: a line that is sent is got as it is, in one.
* `Tool.run_fares`: a run is rejected, finds nobody, or is answered, and nothing else.
* `Tool.run_exit`: **the exit code tells which of these**, and how it was answered.
-/

import Canopen.Proofs.Commands

namespace Canopen

/-! ### Who is asked -/

/-- What answers lines, with the lines that it got. -/
def Exchange.recorded {κ : Type} (answering : Answering κ) : Answering (κ × List Text) :=
  fun state line =>
    let answered := answering state.1 line
    ((answered.1, state.2 ++ [line]), answered.2)

/-- A path leads to a socket. -/
structure Places.IsReached (places : Places) (path : Text) : Prop where
  nonempty : path ≠ []
  short : path.length < pathLimit
  found : ∃ place, places.address path = .ok place ∧ places.at? place = some .socket

theorem Places.pathFault_eq_none_iff {path : Text} :
    pathFault path = none ↔ path ≠ [] ∧ path.length < pathLimit := by
  unfold pathFault
  split
  · next empty => exact iff_of_false nofun fun both => both.1 empty
  · next nonempty =>
    split
    · next long => exact iff_of_false nofun fun both => absurd both.2 (Nat.not_lt.mpr long)
    · next short => exact iff_of_true rfl ⟨nonempty, Nat.lt_of_not_le short⟩

theorem Places.reach_eq_ok_iff {places : Places} {path : Text} :
    places.reach path = .ok () ↔
      ∃ place, places.address path = .ok place ∧ places.at? place = some .socket := by
  unfold reach
  cases places.address path with
  | error reason => exact iff_of_false nofun fun ⟨_, found, _⟩ => absurd found nofun
  | ok place =>
    simp only [Except.ok.injEq, exists_eq_left']
    split
    · next found => exact iff_of_true rfl found
    · next missing => exact iff_of_false nofun fun found => absurd (missing.symm.trans found) nofun
    · next kind apart other =>
      exact iff_of_false nofun fun found => apart (Option.some.inj (other.symm.trans found))

/-- **A line is taken to a path** exactly if it is not empty and the path leads to a socket. -/
theorem Places.contact_eq_ok_iff {places : Places} {path line : Text} :
    places.contact path line = .ok () ↔ line ≠ [] ∧ places.IsReached path := by
  unfold contact
  split
  · next empty => exact iff_of_false nofun fun both => both.1 empty
  · next nonempty =>
    cases fault : pathFault path with
    | some notice =>
      refine iff_of_false nofun fun both => ?_
      have faultless := pathFault_eq_none_iff.mpr ⟨both.2.nonempty, both.2.short⟩
      exact absurd (fault.symm.trans faultless) nofun
    | none =>
      obtain ⟨full, short⟩ := pathFault_eq_none_iff.mp fault
      show places.reach path = .ok () ↔ _
      rw [reach_eq_ok_iff]
      exact ⟨fun found => ⟨nonempty, full, short, found⟩, fun both => both.2.found⟩

/-- A front without a line feed, and without a carriage return at its end, is in front of a line
exactly if it is in front of all that brings the line. -/
theorem Exchange.isPrefix_lineOf_iff {front : Text} (whole : Text.newline ∉ front)
    (bare : front.getLast? ≠ some Text.carriageReturn) {stream : List UInt8} :
    front <+: lineOf stream ↔ front <+: stream := by
  constructor
  · intro leads
    have cut : lineOf stream <+: stream.takeWhile (· != Text.newline) := by
      unfold lineOf dropReturn
      split
      · exact List.dropLast_prefix _
      · exact List.prefix_rfl
    exact leads.trans (cut.trans (List.takeWhile_prefix _))
  · rintro ⟨rest, rfl⟩
    have all : ∀ octet ∈ front, (octet != Text.newline) = true := fun octet member =>
      bne_iff_ne.mpr fun same => whole (same ▸ member)
    rw [lineOf, List.takeWhile_append_of_pos all]
    cases rest.takeWhile (· != Text.newline) with
    | nil =>
      refine ⟨[], ?_⟩
      rw [List.append_nil, dropReturn, if_neg bare]
    | cons octet others =>
      unfold dropReturn
      rw [List.dropLast_append_of_ne_nil (List.cons_ne_nil octet others)]
      split <;> exact List.prefix_append _ _

namespace Service

variable {κ : Type} (answering : Exchange.Answering κ)

theorem state_take (service : Service κ) (octets : List UInt8) :
    (service.take answering octets).1.state =
      (answering service.state (Exchange.lineOf octets)).1 := by
  unfold take
  rw [Exchange.connect_eq, List.flatten_singleton]
  show (if _ then ({ service with state := _ } : Service κ) else stop _).state = _
  split
  · rfl
  · unfold stop
    split <;> rfl

theorem sent_take (service : Service κ) (octets : List UInt8) :
    (service.take answering octets).2 =
      (answering service.state (Exchange.lineOf octets)).2.map Exchange.reply := by
  unfold take
  rw [Exchange.connect_eq, List.flatten_singleton]

/-- A line that leads nowhere changes nothing. -/
theorem request_of_apart {service : Service κ} {path : Text}
    (apart : ¬ service.places.IsReached path) (line : Text) :
    (service.request answering path line).1 = service ∧
      (service.request answering path line).2.reply = none := by
  unfold request
  cases found : service.places.contact path line with
  | error notice => exact ⟨rfl, rfl⟩
  | ok _ => exact absurd (Places.contact_eq_ok_iff.mp found).2 apart

/-- **A line that leads to a socket is got once**, and its answer comes back as a line. -/
theorem request_recorded {service : Service (κ × List Text)} {path line : Text}
    (reached : service.places.IsReached path) (nonempty : line ≠ []) :
    let asked := service.request (Exchange.recorded answering) path line
    asked.1.state.2 = service.state.2 ++ [Exchange.lineOf line] ∧
      ∀ reply, (answering service.state.1 (Exchange.lineOf line)).2 = some reply →
        asked.2.reply = some (Exchange.lineOf reply) := by
  unfold request
  rw [Places.contact_eq_ok_iff.mpr ⟨nonempty, reached⟩]
  refine ⟨?_, fun reply answered => ?_⟩
  · show ((service.take _ _).1.state).2 = _
    rw [state_take, Exchange.lineOf_request]
    rfl
  · have sent : (Exchange.recorded answering service.state (Exchange.lineOf line)).2 =
        some reply := answered
    show some (Exchange.lineOf ((service.take _ _).2.getD [])) = _
    rw [sent_take, Exchange.lineOf_request, sent]
    exact congrArg some (Exchange.lineOf_reply reply)

end Service

namespace Tool

/-! ### What is accepted -/

/-- What is left of arguments: a path if one is given, of several the last one, and the words. -/
inductive Leaves : List Text → Option Text → List Text → Prop
  | nil : Leaves [] none []
  | option {path : Text} {later : List Text} {given : Option Text} {words : List Text}
      (rest : Leaves later given words) :
      Leaves (socketOption :: path :: later) (given.or (some path)) words
  | word {word : Text} {later : List Text} {given : Option Text} {words : List Text}
      (plain : word = socketOption → later = []) (rest : Leaves later given words) :
      Leaves (word :: later) given (word :: words)

theorem exists_leaves : ∀ arguments : List Text, ∃ given words, Leaves arguments given words
  | [] => ⟨none, [], .nil⟩
  | [word] => ⟨none, [word], .word (fun _ => rfl) .nil⟩
  | word :: next :: later => by
    by_cases option : word = socketOption
    · subst option
      obtain ⟨given, words, rest⟩ := exists_leaves later
      exact ⟨_, _, .option rest⟩
    · obtain ⟨given, words, rest⟩ := exists_leaves (next :: later)
      exact ⟨_, _, .word (fun same => absurd same option) rest⟩

/-- **Options leave what they are to leave**, if nothing asks for help. -/
theorem Leaves.options_eq {arguments : List Text} {given : Option Text} {words : List Text}
    (leaves : Leaves arguments given words)
    (helpless : ∀ argument ∈ arguments, isHelp argument = false) (path : Option Text)
    (before : List Text) :
    options path before arguments = .run (given.or path) (before ++ words) := by
  induction leaves generalizing path before with
  | nil => rw [options, List.append_nil, Option.none_or]
  | @option next later given words rest ih =>
    simp only [List.forall_mem_cons] at helpless
    rw [options, if_neg (Bool.eq_false_iff.mp helpless.1), if_pos rfl, ih helpless.2.2]
    rw [Option.or_assoc, Option.some_or]
  | @word word later given words plain rest ih =>
    rw [List.forall_mem_cons] at helpless
    have kept := ih helpless.2 path (before ++ [word])
    rw [List.append_assoc, List.singleton_append] at kept
    refine Eq.trans ?_ kept
    cases later with
    | nil => exact if_neg (Bool.eq_false_iff.mp helpless.1)
    | cons next others =>
      have other : word ≠ socketOption := fun same => absurd (plain same) (List.cons_ne_nil _ _)
      rw [options, if_neg (Bool.eq_false_iff.mp helpless.1), if_neg other]

/-- The arguments are accepted, with the path of the socket and the line that they come to: their
words are those of a command that the tool knows, and no line feed is among them. -/
inductive Accepts (environment : Environment) (arguments : List Text) : Text → Text → Prop
  | mk {given : Option Text} {name : Text} {rest words : List Text} {command : Command}
      {order : Order} (leaves : Leaves (arguments.map Text.cut) given (name :: rest))
      (found : Command.ofName? name = some command) (sends : Sends command rest words order)
      (whole : Text.newline ∉ join words) :
      Accepts environment arguments (socket environment given).1 (join words)

theorem compose_eq_ok_iff {name line : Text} {rest : List Text} :
    (compose name rest).2 = .ok line ↔
      ∃ command words order, Command.ofName? name = some command ∧
        Sends command rest words order ∧ line = join words ∧ Text.newline ∉ line := by
  constructor
  · exact exists_sends_of_compose
  · rintro ⟨command, words, order, found, sends, rfl, whole⟩
    have composed := Command.compose_eq_ok_iff.mpr ⟨words, order, sends, rfl⟩
    unfold compose
    rw [found]
    show command.compose rest >>= checkLine = _
    rw [composed]
    exact checkLine_eq_ok_iff.mpr ⟨rfl, whole⟩

section Prepared

variable {environment : Environment} {arguments : List Text}

/-- The words that options leave are a command, and it is sent or rejected. -/
theorem prepare_of_run {given : Option Text} {name : Text} {rest : List Text}
    (left : options none [] (arguments.map Text.cut) = .run given (name :: rest)) :
    let remarks := (socket environment given).2 ++ (compose name rest).1
    prepare environment arguments =
      match (compose name rest).2 with
      | .ok line => .ask (socket environment given).1 line remarks
      | .error rejection => .stop .rejected (remarks ++ plain rejection.lines) := by
  unfold prepare
  rewrite [left]
  rfl

variable (helpless : ∀ argument ∈ arguments, isHelp argument.cut = false)

include helpless

theorem options_of_leaves {given : Option Text} {words : List Text}
    (leaves : Leaves (arguments.map Text.cut) given words) :
    options none [] (arguments.map Text.cut) = .run given words := by
  have left := leaves.options_eq (List.forall_mem_map.mpr helpless) none []
  rwa [Option.or_none, List.nil_append] at left

/-- If the arguments are accepted, the service is asked. -/
theorem Accepts.asks {path line : Text} (accepts : Accepts environment arguments path line) :
    ∃ remarks, prepare environment arguments = .ask path line remarks := by
  obtain ⟨leaves, found, sends, whole⟩ := accepts
  have composed := compose_eq_ok_iff.mpr ⟨_, _, _, found, sends, rfl, whole⟩
  rw [prepare_of_run (options_of_leaves helpless leaves), composed]
  exact ⟨_, rfl⟩

/-- Arguments are accepted with one path and one line at most. -/
theorem Accepts.unique {path other line sent : Text}
    (accepts : Accepts environment arguments path line)
    (again : Accepts environment arguments other sent) : path = other ∧ line = sent := by
  obtain ⟨remarks, asks⟩ := accepts.asks helpless
  obtain ⟨more, same⟩ := again.asks helpless
  obtain ⟨paths, lines, -⟩ := Preparation.ask.inj (asks.symm.trans same)
  exact ⟨paths, lines⟩

/-- Arguments are accepted, or the service is not asked. -/
theorem accepts_or_rejected (environment : Environment) :
    (∃ path line, Accepts environment arguments path line) ∨
      ∃ remarks, prepare environment arguments = .stop .rejected remarks := by
  obtain ⟨given, words, leaves⟩ := exists_leaves (arguments.map Text.cut)
  have left := options_of_leaves helpless leaves
  cases words with
  | nil =>
    refine Or.inr ⟨plain usage, ?_⟩
    unfold prepare
    rw [left]
  | cons name rest =>
    rw [prepare_of_run left]
    cases composed : (compose name rest).2 with
    | ok line =>
      obtain ⟨command, words, order, found, sends, rfl, whole⟩ := compose_eq_ok_iff.mp composed
      exact Or.inl ⟨_, _, leaves, found, sends, whole⟩
    | error rejection => exact Or.inr ⟨_, rfl⟩

/-- **The service is asked exactly if the arguments are accepted.** -/
theorem prepare_eq_ask_iff {path line : Text} :
    (∃ remarks, prepare environment arguments = .ask path line remarks) ↔
      Accepts environment arguments path line := by
  refine ⟨?_, Accepts.asks helpless⟩
  rintro ⟨remarks, asks⟩
  rcases accepts_or_rejected helpless environment with
    ⟨other, sent, accepts⟩ | ⟨stops, rejected⟩
  · obtain ⟨more, same⟩ := accepts.asks helpless
    obtain ⟨rfl, rfl, -⟩ := Preparation.ask.inj (asks.symm.trans same)
    exact accepts
  · exact absurd (asks.symm.trans rejected) nofun

end Prepared

/-! ### The line on its way -/

theorem join_singleton (word : Text) : join [word] = word := List.intercalate_singleton

theorem join_cons_cons (first next : Text) (rest : List Text) :
    join (first :: next :: rest) = first ++ 32 :: join (next :: rest) := by
  rw [join, List.intercalate_cons_cons, List.append_assoc]
  rfl

theorem join_concat {words : List Text} (nonempty : words ≠ []) (last : Text) :
    join (words ++ [last]) = join words ++ 32 :: last := by
  induction words with
  | nil => exact absurd rfl nonempty
  | cons first rest ih =>
    cases rest with
    | nil => rw [List.singleton_append, join_cons_cons, join_singleton, join_singleton]
    | cons next others =>
      have later := ih (List.cons_ne_nil _ _)
      rw [List.cons_append] at later
      rw [List.cons_append, List.cons_append, join_cons_cons, later, join_cons_cons,
        List.append_assoc, List.cons_append]

theorem suffix_join {words : List Text} (nonempty : words ≠ []) (last : Text) :
    last <:+ join (words ++ [last]) := by
  rw [join_concat nonempty]
  exact (List.suffix_cons 32 last).trans (List.suffix_append _ _)

/-- A text that ends in a word has no carriage return at its end. -/
theorem getLast?_ne_of_suffix {line word : Text} (ends : word <:+ line) (solid : word.IsWord) :
    line.getLast? ≠ some Text.carriageReturn := by
  obtain ⟨front, rfl⟩ := ends
  intro returns
  rw [List.getLast?_append_of_ne_nil _ solid.nonempty] at returns
  have blank := List.any_eq_false.mp solid.solid _ (List.mem_of_getLast? returns)
  exact blank rfl

theorem getLast?_of_parse? {words : List Text} {word : Text} {greatest number : Nat}
    (nonempty : words ≠ []) (whole : Text.nul ∉ word)
    (reads : Numeral.parse? word greatest = some number) :
    (join (words ++ [word])).getLast? ≠ some Text.carriageReturn :=
  getLast?_ne_of_suffix ((List.dropWhile_suffix _).trans (suffix_join nonempty word))
    (Numeral.isWord_of_parse? whole reads)

theorem getLast?_of_mem_levelNames : ∀ name ∈ levelNames,
    (join [Text.ofString "LEVEL", name]).getLast? ≠ some Text.carriageReturn := by
  decide

/-- A line that is sent has no carriage return at its end. -/
theorem Sends.getLast?_ne {command : Command} {arguments words : List Text} {order : Order}
    (sends : Sends command arguments words order)
    (whole : ∀ argument ∈ arguments, Text.nul ∉ argument) :
    (join words).getLast? ≠ some Text.carriageReturn := by
  cases sends with
  | @get index subindex target named =>
    simp only [List.forall_mem_cons] at whole
    have front : [Text.ofString "GET", index] ≠ [] := List.cons_ne_nil _ _
    exact getLast?_of_parse? front whole.2.1 named.subindex
  | @set index subindex hex target data named reads =>
    have front : [Text.ofString "SET", index, subindex] ≠ [] := List.cons_ne_nil _ _
    by_cases empty : hex = []
    · -- An empty value leaves the space in front of it.
      have line := join_concat front hex
      rw [empty] at line ⊢
      show (join ([Text.ofString "SET", index, subindex] ++ [[]])).getLast? ≠ _
      rw [line, List.getLast?_concat]
      decide
    · have solid : hex.IsWord := ⟨empty, Hex.solid_of_decode? reads⟩
      exact getLast?_ne_of_suffix (suffix_join front hex) solid
  | @abort word code named =>
    obtain ⟨number, reads, -⟩ := Option.map_eq_some_iff.mp named
    rw [List.forall_mem_singleton] at whole
    have front : [Text.ofString "ABORT"] ≠ [] := List.cons_ne_nil _ _
    exact getLast?_of_parse? front whole reads
  | status => decide
  | level chosen named => exact getLast?_of_mem_levelNames _ chosen
  | quit => decide

theorem Sends.ne_nil {command : Command} {arguments words : List Text} {order : Order}
    (sends : Sends command arguments words order) : join words ≠ [] := by
  cases sends <;> exact nofun

/-- Options leave words that were given. -/
theorem Leaves.subset {arguments : List Text} {given : Option Text} {words : List Text}
    (leaves : Leaves arguments given words) : words ⊆ arguments := by
  induction leaves with
  | nil => exact List.Subset.refl []
  | option _ ih => exact List.subset_cons_of_subset _ (List.subset_cons_of_subset _ ih)
  | word _ _ ih => exact List.cons_subset_cons _ ih

namespace Accepts

variable {environment : Environment} {arguments : List Text} {path line : Text}

theorem ne_nil (accepts : Accepts environment arguments path line) : line ≠ [] := by
  obtain ⟨-, -, sends, -⟩ := accepts
  exact sends.ne_nil

theorem newline_notMem (accepts : Accepts environment arguments path line) :
    Text.newline ∉ line := by
  obtain ⟨-, -, -, whole⟩ := accepts
  exact whole

/-- **A line that is sent is got as it is**, in one. -/
theorem arrives (accepts : Accepts environment arguments path line) :
    Exchange.lineOf line = line := by
  obtain ⟨leaves, -, sends, whole⟩ := accepts
  refine Exchange.lineOf_eq_self whole (sends.getLast?_ne fun argument member => ?_)
  obtain ⟨text, -, rfl⟩ := List.mem_map.mp (leaves.subset (List.mem_cons_of_mem _ member))
  exact text.nul_notMem_cut

end Accepts

/-! ### A run -/

theorem Exit.code_injective : Function.Injective Exit.code := by
  intro one other same
  cases one <;> cases other <;> first | rfl | exact absurd same (by decide)

section Runs

variable {κ : Type} {environment : Environment} {arguments : List Text}
  {answering : Exchange.Answering κ} {service : Service (κ × List Text)}

/-- How a run fares: the lines that the service gets from it, and its exit. -/
inductive Fares (environment : Environment) (arguments : List Text)
    (answering : Exchange.Answering κ) (service : Service (κ × List Text)) :
    List Text → Exit → Prop
  | rejected (apart : ∀ path line, ¬ Accepts environment arguments path line) :
      Fares environment arguments answering service [] .rejected
  | unreachable {path line : Text} (accepts : Accepts environment arguments path line)
      (apart : ¬ service.places.IsReached path) :
      Fares environment arguments answering service [] .unreachable
  | agreed {path line reply : Text} (accepts : Accepts environment arguments path line)
      (reached : service.places.IsReached path)
      (answered : (answering service.state.1 line).2 = some reply)
      (agrees : Text.ofString "OK" <+: reply) :
      Fares environment arguments answering service [line] .agreed
  | refused {path line reply : Text} (accepts : Accepts environment arguments path line)
      (reached : service.places.IsReached path)
      (answered : (answering service.state.1 line).2 = some reply)
      (refuses : ¬ Text.ofString "OK" <+: reply) :
      Fares environment arguments answering service [line] .refused

theorem agrees_lineOf_iff (reply : Text) :
    agrees (Exchange.lineOf reply) = true ↔ Text.ofString "OK" <+: reply := by
  unfold agrees
  rw [List.isPrefixOf_iff_prefix]
  exact Exchange.isPrefix_lineOf_iff (by decide) (by decide)

namespace Fares

variable {delivered : List Text} {exit : Exit}
  (fares : Fares environment arguments answering service delivered exit)

include fares

theorem length_le : delivered.length ≤ 1 := by
  cases fares with
  | rejected | unreachable => exact Nat.zero_le 1
  | agreed | refused => exact Nat.le_refl 1

theorem accepts_of_mem {line : Text} (member : line ∈ delivered) :
    ∃ path, Accepts environment arguments path line := by
  cases fares with
  | rejected | unreachable => cases member
  | agreed accepts | refused accepts => exact List.mem_singleton.mp member ▸ ⟨_, accepts⟩

/-- The reply to the line that was delivered decides. -/
theorem exit_of_reply {line reply : Text} (got : delivered = [line])
    (told : (answering service.state.1 line).2 = some reply) :
    (Text.ofString "OK" <+: reply → exit = .agreed) ∧
      (¬ Text.ofString "OK" <+: reply → exit = .refused) := by
  cases fares with
  | rejected | unreachable => cases got
  | agreed _ _ answered agrees =>
    obtain rfl := List.singleton_injective got
    obtain rfl := Option.some.inj (answered.symm.trans told)
    exact ⟨fun _ => rfl, fun refuses => absurd agrees refuses⟩
  | refused _ _ answered refuses =>
    obtain rfl := List.singleton_injective got
    obtain rfl := Option.some.inj (answered.symm.trans told)
    exact ⟨fun agrees => absurd agrees refuses, fun _ => rfl⟩

theorem agreed_iff :
    exit = .agreed ↔ ∃ line reply, delivered = [line] ∧
      (answering service.state.1 line).2 = some reply ∧ Text.ofString "OK" <+: reply := by
  constructor
  · rintro rfl
    cases fares with
    | agreed _ _ answered agrees => exact ⟨_, _, rfl, answered, agrees⟩
  · rintro ⟨line, reply, got, told, agrees⟩
    exact (fares.exit_of_reply got told).1 agrees

theorem refused_iff :
    exit = .refused ↔ ∃ line reply, delivered = [line] ∧
      (answering service.state.1 line).2 = some reply ∧ ¬ Text.ofString "OK" <+: reply := by
  constructor
  · rintro rfl
    cases fares with
    | refused _ _ answered refuses => exact ⟨_, _, rfl, answered, refuses⟩
  · rintro ⟨line, reply, got, told, refuses⟩
    exact (fares.exit_of_reply got told).2 refuses

theorem rejected_iff :
    exit = .rejected ↔ ∀ path line, ¬ Accepts environment arguments path line := by
  cases fares with
  | rejected apart => exact iff_of_true rfl apart
  | unreachable accepts | agreed accepts | refused accepts =>
    exact iff_of_false nofun fun apart => apart _ _ accepts

theorem eq_nil_of_rejected (rejected : exit = .rejected) : delivered = [] := by
  cases fares with
  | rejected | unreachable => rfl
  | agreed | refused => cases rejected

theorem unreachable_iff (helpless : ∀ argument ∈ arguments, isHelp argument.cut = false) :
    exit = .unreachable ↔ ∃ path line, Accepts environment arguments path line ∧
      ¬ service.places.IsReached path := by
  cases fares with
  | unreachable accepts apart => exact iff_of_true rfl ⟨_, _, accepts, apart⟩
  | rejected never =>
    exact iff_of_false nofun fun ⟨path, line, accepts, _⟩ => never path line accepts
  | agreed accepts reached | refused accepts reached =>
    refine iff_of_false nofun ?_
    rintro ⟨path, line, again, apart⟩
    exact apart ((accepts.unique helpless again).1 ▸ reached)

end Fares

section Ended

variable (environment service) (helpless : ∀ argument ∈ arguments, isHelp argument.cut = false)
  (replies : ∀ state line, (answering state line).2.isSome = true)

include helpless replies

/-- **A run is rejected, finds nobody, or is answered**, and nothing else. -/
theorem run_fares :
    let ended := run environment arguments (Service.request (Exchange.recorded answering)) service
    ∃ delivered, ended.1.state.2 = service.state.2 ++ delivered ∧
      Fares environment arguments answering service delivered ended.2.exit := by
  unfold run
  cases prepared : prepare environment arguments with
  | ask path line remarks =>
    have accepts := (prepare_eq_ask_iff helpless).mp ⟨remarks, prepared⟩
    by_cases reached : service.places.IsReached path
    · obtain ⟨reply, answered⟩ := Option.isSome_iff_exists.mp (replies service.state.1 line)
      obtain ⟨got, told⟩ := Service.request_recorded answering reached accepts.ne_nil
      rw [accepts.arrives] at got told
      refine ⟨[line], got, ?_⟩
      simp only [complete, told reply answered]
      by_cases agrees : Text.ofString "OK" <+: reply
      · rw [if_pos ((agrees_lineOf_iff reply).mpr agrees)]
        exact .agreed accepts reached answered agrees
      · rw [if_neg ((agrees_lineOf_iff reply).not.mpr agrees)]
        exact .refused accepts reached answered agrees
    · obtain ⟨kept, unanswered⟩ :=
        Service.request_of_apart (Exchange.recorded answering) reached line
      refine ⟨[], ?_, ?_⟩
      · rw [List.append_nil]
        exact congrArg (fun service => service.state.2) kept
      · simp only [complete, unanswered]
        exact .unreachable accepts reached
  | stop exit remarks =>
    have apart (path line : Text) : ¬ Accepts environment arguments path line := fun accepts => by
      obtain ⟨asked, asks⟩ := (prepare_eq_ask_iff helpless).mpr accepts
      exact absurd (prepared.symm.trans asks) nofun
    obtain ⟨path, line, accepts⟩ | ⟨told, rejected⟩ := accepts_or_rejected helpless environment
    · exact absurd accepts (apart path line)
    · obtain ⟨rfl, -⟩ := Preparation.stop.inj (prepared.symm.trans rejected)
      exact ⟨[], (List.append_nil _).symm, .rejected apart⟩

end Ended

end Runs

/-- **The exit code tells what happened**, in a run that is not asked for help, with a service that
answers every line: 0 and 4 that one line was delivered, and how it was answered, 3 that the
arguments were accepted and nobody was there, 2 that they were rejected. -/
theorem run_exit {κ : Type} (environment : Environment) (arguments : List Text)
    (helpless : ∀ argument ∈ arguments, isHelp argument.cut = false)
    (answering : Exchange.Answering κ)
    (replies : ∀ state line, (answering state line).2.isSome = true)
    (service : Service (κ × List Text)) :
    let ended := run environment arguments (Service.request (Exchange.recorded answering)) service
    let code := ended.2.exit.code
    ∃ delivered, ended.1.state.2 = service.state.2 ++ delivered ∧
      delivered.length ≤ 1 ∧
      (∀ line ∈ delivered,
        Text.newline ∉ line ∧ ∃ path, Accepts environment arguments path line) ∧
      (code = 0 ↔ ∃ line reply, delivered = [line] ∧
        (answering service.state.1 line).2 = some reply ∧ Text.ofString "OK" <+: reply) ∧
      (code = 4 ↔ ∃ line reply, delivered = [line] ∧
        (answering service.state.1 line).2 = some reply ∧ ¬ Text.ofString "OK" <+: reply) ∧
      (code = 3 ↔ ∃ path line, Accepts environment arguments path line ∧
        ¬ service.places.IsReached path) ∧
      (code = 2 ↔ ∀ path line, ¬ Accepts environment arguments path line) ∧
      (code = 2 → delivered = []) := by
  intro ended code
  obtain ⟨delivered, got, fares⟩ := run_fares environment service helpless replies
  have code_iff (exit : Exit) : code = exit.code ↔ ended.2.exit = exit :=
    Exit.code_injective.eq_iff
  refine ⟨delivered, got, fares.length_le, fun line member => ?_,
    (code_iff .agreed).trans fares.agreed_iff, (code_iff .refused).trans fares.refused_iff,
    (code_iff .unreachable).trans (fares.unreachable_iff helpless),
    (code_iff .rejected).trans fares.rejected_iff,
    fun rejected => fares.eq_nil_of_rejected ((code_iff .rejected).mp rejected)⟩
  obtain ⟨path, accepts⟩ := fares.accepts_of_mem member
  exact ⟨accepts.newline_notMem, path, accepts⟩

/-- An option among the words of a command: the line is delivered without it, and agreed to. -/
theorem run_exit_scattered :
    let arguments := ["get", "--sock", "ctl.sock", "0x2000", " 1"].map Text.ofString
    let place := [Text.ofString "ctl.sock"]
    let service : Service (Unit × List Text) := ⟨⟨[(place, .socket)]⟩, some place, (), []⟩
    let ended := run .empty arguments
      (Service.request (Exchange.recorded Exchange.unattended)) service
    (∀ argument ∈ arguments, isHelp argument.cut = false) ∧
      ended.2.exit.code = 0 ∧ ended.1.state.2 = [Text.ofString "GET 0x2000  1"] ∧
      ∃ path, Accepts .empty arguments path (Text.ofString "GET 0x2000  1") := by
  intro arguments place service ended
  have helpless : ∀ argument ∈ arguments, isHelp argument.cut = false := by decide
  obtain ⟨delivered, got, -, clean, -⟩ :=
    run_exit .empty arguments helpless Exchange.unattended (fun _ _ => rfl) service
  have line : ended.1.state.2 = [Text.ofString "GET 0x2000  1"] := rfl
  obtain rfl : delivered = [Text.ofString "GET 0x2000  1"] := got.symm.trans line
  exact ⟨helpless, rfl, line, (clean _ (List.mem_singleton_self _)).2⟩

end Tool

end Canopen

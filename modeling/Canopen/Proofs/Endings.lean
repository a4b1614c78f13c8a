/-
**The end of the service.**

* `Exchange.EndsAfter`: a connection is answered, and no other one is taken.
* `Exchange.endsAfter_iff`: it is the last one exactly if it is answered and its line is `QUIT`, to
  the octet.
* `Exchange.length_serve`: a run of connections is taken up to the first such line.
* `Station.TakesQuit`: the console takes a line as the order to quit, and says so.
* `Station.takesQuit_iff`: it does so exactly if `QUIT` is the first word of the line.
* `Daemon.endsAfter_takesQuit`: **the daemon ends exactly after the lines that the console takes as
  the order to quit and that are nothing but this word**; behind any other of these it serves on.
-/

import Canopen.Daemon
import Canopen.Proofs.Lines

namespace Canopen

/-! ### The last connection -/

namespace Exchange

variable {κ : Type} (answering : Answering κ) (state : κ) (pieces : List (List UInt8))

/-- The connection is answered, and the service takes no other one. -/
def EndsAfter : Prop :=
  (connect answering state pieces).sent.isSome = true ∧
    ∀ later, (serve answering state (pieces :: later)).2.length = 1

theorem sent_connect :
    (connect answering state pieces).sent =
      (answering state (lineOf pieces.flatten)).2.map reply :=
  congrArg Connection.sent (connect_eq answering state pieces)

theorem goesOn_connect :
    (connect answering state pieces).goesOn =
      ((answering state (lineOf pieces.flatten)).2.isSome &&
        lineOf pieces.flatten != quitLine) :=
  congrArg Connection.goesOn (connect_eq answering state pieces)

variable {answering state pieces}

theorem serve_of_goesOn (goesOn : (connect answering state pieces).goesOn = true)
    (later : List (List (List UInt8))) :
    let connection := connect answering state pieces
    let rest := serve answering connection.state later
    serve answering state (pieces :: later) = (rest.1, connection.sent :: rest.2) := by
  intro connection rest
  rw [serve, if_pos goesOn]

theorem serve_of_ends (ends : (connect answering state pieces).goesOn = false)
    (later : List (List (List UInt8))) :
    let connection := connect answering state pieces
    serve answering state (pieces :: later) = (connection.state, [connection.sent]) := by
  intro connection
  rw [serve, if_neg (Bool.eq_false_iff.mp ends)]

/-- The first connection is taken in any case. -/
theorem length_serve_cons_pos (later : List (List (List UInt8))) :
    0 < (serve answering state (pieces :: later)).2.length := by
  cases ends : (connect answering state pieces).goesOn with
  | true =>
    rw [serve_of_goesOn ends]
    exact Nat.succ_pos _
  | false =>
    rw [serve_of_ends ends]
    exact Nat.one_pos

/-- **A connection is the last one** exactly if it is answered and its line is `QUIT`, to the
octet. -/
theorem endsAfter_iff :
    EndsAfter answering state pieces ↔
      (answering state (lineOf pieces.flatten)).2.isSome = true ∧
        lineOf pieces.flatten = quitLine := by
  have goesOn := goesOn_connect answering state pieces
  rw [EndsAfter, sent_connect, Option.isSome_map]
  refine and_congr_right fun answered => ?_
  rw [answered, Bool.true_and] at goesOn
  constructor
  · intro alone
    refine Decidable.byContradiction fun other => ?_
    have more := alone [[]]
    rw [serve_of_goesOn (goesOn.trans (bne_iff_ne.mpr other))] at more
    exact absurd (Nat.succ.inj more) (Nat.ne_of_gt (length_serve_cons_pos []))
  · intro quits later
    rw [serve_of_ends (goesOn.trans (bne_eq_false_iff_eq.mpr quits))]
    rfl

/-- **A run of connections** takes those up to the first one whose line is `QUIT`, to the octet; it
takes fewer only if the last one finds no answer. -/
theorem length_serve (connections : List (List (List UInt8))) :
    let lines := connections.map fun pieces => lineOf pieces.flatten
    let sent := (serve answering state connections).2
    sent.length = (served lines).length ∨
      sent.length < (served lines).length ∧ sent.getLast? = some none := by
  induction connections generalizing state with
  | nil => exact Or.inl rfl
  | cons pieces later ih =>
    intro lines sent
    have first : served lines = _ := served_cons (lineOf pieces.flatten) _
    have goesOn := goesOn_connect answering state pieces
    by_cases quits : lineOf pieces.flatten = quitLine
    · rw [bne_eq_false_iff_eq.mpr quits, Bool.and_false] at goesOn
      have sends : sent = _ := congrArg Prod.snd (serve_of_ends goesOn later)
      rw [first, if_pos quits, sends]
      exact Or.inl rfl
    rw [bne_iff_ne.mpr quits, Bool.and_true] at goesOn
    rw [first, if_neg quits]
    cases answered : (answering state (lineOf pieces.flatten)).2 with
    | none =>
      rw [answered] at goesOn
      have sends : sent = _ := congrArg Prod.snd (serve_of_ends goesOn later)
      rw [sends, sent_connect, answered]
      exact (Nat.eq_or_lt_of_le (Nat.succ_le_succ (Nat.zero_le _))).imp_right fun fewer =>
        ⟨fewer, rfl⟩
    | some answer =>
      rw [answered] at goesOn
      have sends : sent = _ := congrArg Prod.snd (serve_of_goesOn goesOn later)
      rw [sends]
      refine (@ih (connect answering state pieces).state).imp (congrArg Nat.succ)
        fun ⟨fewer, last⟩ => ⟨Nat.succ_lt_succ fewer, ?_⟩
      rw [List.getLast?_cons, last]
      rfl

end Exchange

/-! ### The order to quit -/

namespace Station

variable {σ : Type} [Store σ]

/-- The console takes a line as the order to quit: it reports that it exits, and answers `OK`. -/
structure TakesQuit (station : Station σ) (line : Text) : Prop where
  order : Order.parse line = .ok .quit
  reported : .note .quitting ∈ (station.answer line).events
  answered : (station.answer line).reply = .ok (Text.ofString "OK")

/-- **The order to quit** is every line that has `QUIT` for its first word. -/
theorem takesQuit_iff {station : Station σ} {line : Text} :
    station.TakesQuit line ↔ line.words.head? = some Exchange.quitLine := by
  constructor
  · exact fun takes => (Order.parse_eq_ok_iff.mp takes.order).head?
  · intro first
    obtain ⟨rest, words⟩ := List.head?_eq_some_iff.mp first
    have read : Order.parse line = .ok .quit :=
      Order.parse_eq_ok_iff.mpr (words ▸ Order.Reads.quit rest)
    refine ⟨read, ?_, ?_⟩
    · rw [station.answer_of_order read]
      exact List.mem_cons_of_mem _ List.mem_cons_self
    · rw [station.answer_of_order read]
      rfl

end Station

namespace Daemon

/-- **The daemon ends exactly after the lines that are taken as the order to quit and are nothing
but this word.** Whoever gives this order is told `OK`, but with blanks around it or with further
words the daemon serves on. So a run of connections is taken up to the first line that is nothing
but `QUIT`, if all of them are answered. -/
theorem endsAfter_takesQuit (daemon : Daemon) :
    (∀ pieces : List (List UInt8),
      let line := Exchange.lineOf pieces.flatten
      let connection := Exchange.connect answering daemon pieces
      (Exchange.EndsAfter answering daemon pieces ↔
          daemon.station.TakesQuit line ∧ line = Exchange.quitLine) ∧
        (daemon.station.TakesQuit line ↔ line.words.head? = some Exchange.quitLine) ∧
        (daemon.station.TakesQuit line →
          connection.sent = some (Exchange.reply (Text.ofString "OK")) ∧
            (line ≠ Exchange.quitLine → ∀ later,
              let rest := Exchange.serve answering connection.state later
              Exchange.serve answering daemon (pieces :: later) =
                (rest.1, connection.sent :: rest.2)))) ∧
      ∀ connections : List (List (List UInt8)),
        let lines := connections.map fun pieces => Exchange.lineOf pieces.flatten
        let sent := (Exchange.serve answering daemon connections).2
        sent.length = (Exchange.served lines).length ∨
          sent.length < (Exchange.served lines).length ∧ sent.getLast? = some none := by
  refine ⟨fun pieces => ?_, fun connections => Exchange.length_serve connections⟩
  intro line connection
  have answered : (answering daemon line).2 = (daemon.station.answer line).reply.toOption := rfl
  refine ⟨?_, Station.takesQuit_iff, fun takes => ?_⟩
  · rw [Exchange.endsAfter_iff, answered]
    refine and_congr_left fun whole => ?_
    have takes : daemon.station.TakesQuit line :=
      Station.takesQuit_iff.mpr ((congrArg (List.head? ∘ Text.words) whole).trans (by decide))
    rw [takes.answered]
    exact iff_of_true rfl takes
  · rw [takes.answered] at answered
    refine ⟨?_, fun more later => Exchange.serve_of_goesOn ?_ later⟩
    · exact (Exchange.sent_connect answering daemon pieces).trans
        (congrArg (Option.map Exchange.reply) answered)
    · rw [Exchange.goesOn_connect, answered]
      exact bne_iff_ne.mpr more

/-- **Not every order to quit ends the daemon.** With a further word behind it the order is reported
and answered `OK`, and the daemon serves on. -/
theorem not_always_endsAfter_takesQuit :
    ¬ ∀ (daemon : Daemon) (pieces : List (List UInt8)),
      Exchange.EndsAfter answering daemon pieces ↔
        daemon.station.TakesQuit (Exchange.lineOf pieces.flatten) := by
  intro always
  let daemon : Daemon := ⟨⟨.new 1, dictionary 1, .info⟩, .loopback (.start true), []⟩
  let pieces := [Text.ofString "QUIT now"]
  have takes : daemon.station.TakesQuit (Exchange.lineOf pieces.flatten) :=
    Station.takesQuit_iff.mpr (by decide)
  have ends := Exchange.endsAfter_iff.mp ((always daemon pieces).mpr takes)
  exact absurd ends.2 (by decide)

end Daemon

end Canopen
